import Mathlib.Data.List.Infix
import TokenAudit.Files.Sources
import TokenAudit.Proofs.Files.PathOrder
import TokenAudit.Proofs.Files.Tree

/-!
# The sources below a directory

The sources below a directory are the files that have one of the wanted extensions and are in no
directory that is hidden or holds packages. Each of them is listed once, with its text or an error,
and the list is in the order of paths.

## Main definitions

* `HasExtension`: the extension of a name.
* `SourceRoot.IsWanted`: the names with one of the given extensions.
* `SourceRoot.IsSource`: the files that are sources.
* `SourceRoot.Describes`: how a source is listed.

## Main results

* `Path.extensionOf?_eq_some_iff`: the extension is what comes after the last dot.
* `SourceRoot.mem_found_iff`: what is found is the sources.
* `SourceRoot.sources_lists_wanted_files`: each source is listed once and in order, and nothing else
  is listed.
-/

namespace TokenAudit

open Text

/-- Where no two elements have the same image, each is the only one with its image. -/
theorem filter_eq_singleton {α β : Type} [DecidableEq β] {f : α → β} {l : List α} {a : α}
    (h : l.Pairwise fun b c => f b ≠ f c) (ha : a ∈ l) :
    l.filter (fun b => f b = f a) = [a] := by
  obtain ⟨front, back, rfl⟩ := List.append_of_mem ha
  obtain ⟨-, hback, hfront⟩ := List.pairwise_append.mp h
  have hnofront : front.filter (fun b => f b = f a) = [] :=
    List.filter_eq_nil_iff.mpr fun b hb => by simpa using hfront b hb a List.mem_cons_self
  have hnoback : back.filter (fun b => f b = f a) = [] :=
    List.filter_eq_nil_iff.mpr fun b hb => by
      simpa using ((List.pairwise_cons.mp hback).1 b hb).symm
  rw [List.filter_append, List.filter_cons_of_pos (by simp), hnofront, hnoback, List.nil_append]

/-! ## Wanted names -/

/-- The extension of a name is what comes after its last dot, if something comes before the dot. -/
def HasExtension (name ext : String) : Prop :=
  ∃ stem : List Char, stem ≠ [] ∧ name.toList = stem ++ '.' :: ext.toList ∧ '.' ∉ ext.toList

theorem Path.extensionOf?_eq_some_iff {name ext : String} :
    Path.extensionOf? name = some ext ↔ HasExtension name ext := by
  unfold Path.extensionOf? HasExtension
  dsimp only
  constructor
  · intro h
    split at h
    · next hlt =>
      obtain rfl := Option.some.inj h
      have hsplit := List.takeWhile_append_dropWhile (p := (· != '.')) (l := name.toList.reverse)
      have hhead := List.head?_dropWhile_not (· != '.') name.toList.reverse
      have hfree : '.' ∉ name.toList.reverse.takeWhile (· != '.') :=
        fun hmem => by simpa using List.mem_takeWhile_imp hmem
      generalize name.toList.reverse.takeWhile (· != '.') = after at hlt hsplit hfree ⊢
      have hname : name.toList = (name.toList.reverse.dropWhile (· != '.')).reverse ++
          after.reverse := by
        simpa using (congrArg List.reverse hsplit).symm
      generalize name.toList.reverse.dropWhile (· != '.') = before at hhead hname
      rw [hname] at hlt
      -- What is left holds the dot and more.
      rcases before with - | ⟨dot, stem⟩
      · simp at hlt
      · obtain rfl : dot = '.' := by simpa using hhead
        refine ⟨stem.reverse, ?_, by simpa using hname, by simpa using hfree⟩
        rintro hnil
        simp [List.reverse_eq_nil_iff.mp hnil] at hlt
    · cases h
  · rintro ⟨stem, hstem, hname, hfree⟩
    have htake : name.toList.reverse.takeWhile (· != '.') = ext.toList.reverse := by
      have hreverse : name.toList.reverse = ext.toList.reverse ++ '.' :: stem.reverse := by
        simp [hname]
      rw [hreverse, List.takeWhile_append_of_pos, List.takeWhile_cons_of_neg (by simp),
        List.append_nil]
      intro c hc
      simpa using fun heq : c = '.' => hfree (heq ▸ List.mem_reverse.mp hc)
    have hlength : 0 < stem.length := List.length_pos_of_ne_nil hstem
    rw [htake, if_pos]
    · simp
    · rw [hname]
      simp only [List.length_reverse, List.length_append, List.length_cons]
      omega

theorem Content.text?_eq_some_iff {content : Content} {text : String} :
    content.text? = some text ↔ content = .ofText text := by
  cases content with
  | bytes data =>
    simp only [Content.text?, String.fromUTF8?, Content.ofText, Content.bytes.injEq]
    constructor
    · intro h
      split at h
      · cases h
        rfl
      · cases h
    · rintro rfl
      exact dif_pos text.isValidUTF8
  | store db => simp [Content.text?, Content.ofText]

namespace SourceRoot

variable {source : SourceRoot} {given : List String} {name : String}

/-- The name has one of the given extensions; dots before them and the case of letters make no
difference. -/
def IsWanted (given : List String) (name : String) : Prop :=
  ∃ ext, HasExtension name ext ∧ ext ≠ "" ∧ ∃ extension ∈ given,
    lower ext = lower (String.ofList (extension.toList.dropWhile (· == '.')))

theorem accepts_withExtensions_iff :
    (source.withExtensions given).accepts name = true ↔ IsWanted given name := by
  have hany (ext : String) :
      (source.withExtensions given).extensions.any (lower · == lower ext) = true ↔
        ext ≠ "" ∧ ∃ extension ∈ given,
          lower ext = lower (String.ofList (extension.toList.dropWhile (· == '.'))) := by
    simp only [withExtensions, List.any_filter, List.any_map, List.any_eq_true, Function.comp_apply,
      cleanExtension, lower_lower, Bool.and_eq_true, bne_iff_ne, beq_iff_eq]
    constructor
    · rintro ⟨extension, hgiven, hne, heq⟩
      rw [heq, lower_ne_empty_iff] at hne
      exact ⟨hne, extension, hgiven, heq.symm⟩
    · rintro ⟨hne, extension, hgiven, heq⟩
      rw [← lower_ne_empty_iff, heq] at hne
      exact ⟨extension, hgiven, hne, heq.symm⟩
  unfold accepts IsWanted
  simp only [← Path.extensionOf?_eq_some_iff, ← hany]
  cases Path.extensionOf? name with
  | none => simp
  | some ext => simp

theorem isSkipped_eq_false_iff :
    isSkipped name = false ↔ name.toList.head? ≠ some '.' ∧ name ≠ "node_modules" := by
  simp [isSkipped]

/-- A file that is found is at a place below the directory, which names lead to. -/
theorem select?_eq_some_iff {location place : Location} {node : Node} {path : Path}
    {content : Content} :
    source.select? location (place, node) = some (path, content) ↔
      ∃ names, place = location ++ names ∧ node = .file content ∧
        path = names.foldl Path.child source.root ∧
        (∃ name, names.getLast? = some name ∧ source.accepts name = true) ∧
        ∀ name ∈ names.dropLast, isSkipped name = false := by
  by_cases hbelow : location <+: place
  · obtain ⟨names, rfl⟩ := hbelow
    have hprefix : location.isPrefixOf (location ++ names) = true := by simp
    have hskips : (∀ name ∈ names.dropLast, isSkipped name = false) ↔
        names.dropLast.any isSkipped = false := by simp
    simp only [select?, hprefix, List.drop_left, List.append_cancel_left_eq, exists_eq_left',
      hskips]
    cases hlast : names.getLast? with
    | none => simp
    | some name =>
      cases names.dropLast.any isSkipped <;> cases haccepts : source.accepts name <;>
        cases node <;> simp [haccepts, and_comm, @eq_comm _ path]
  · have hprefix : location.isPrefixOf place = false := by
      rwa [← List.isPrefixOf_iff_prefix, Bool.not_eq_true] at hbelow
    simp only [select?, hprefix]
    refine iff_of_false (by simp) ?_
    rintro ⟨names, rfl, -⟩
    exact hbelow (List.prefix_append _ _)

/-! ## Files that are found -/

/-- The names lead from the directory at `location` to a file with one of the given extensions, and
through no directory that is hidden or holds packages. -/
structure IsSource (fs : FileSystem) (location : Location) (given names : List String)
    (content : Content) : Prop where
  file : fs.get? (location ++ names) = some (.file content)
  wanted : ∃ name, names.getLast? = some name ∧ IsWanted given name
  visible : ∀ above name, above ++ [name] <+: names →
    fs.get? (location ++ (above ++ [name])) = some .dir →
    name.toList.head? ≠ some '.' ∧ name ≠ "node_modules"

/-- A source is listed with a path that has the names after the steps of the root. It has the text
of the file, or an error if the file does not hold text. -/
structure Describes (root : Path) (names : List String) (content : Content) (file : SourceFile) :
    Prop where
  path : file.path = (names.foldl Path.child root).text
  steps : (Path.mk file.path).components = root.components ++ names.map .normal
  text : ∀ text, content = .ofText text → file.text = .ok text
  error : (∀ text, content ≠ .ofText text) → file.text = .error FileError.notText.message

variable {fs : FileSystem} {location : Location} {names : List String} {content : Content}

/-- In a tree, the directories on the way to a file are named by all its names but the last. -/
theorem forall_isSkipped_iff (htree : fs.IsTree)
    (hfile : fs.get? (location ++ names) = some (.file content)) :
    (∀ name ∈ names.dropLast, isSkipped name = false) ↔
      ∀ above name, above ++ [name] <+: names →
        fs.get? (location ++ (above ++ [name])) = some .dir →
        name.toList.head? ≠ some '.' ∧ name ≠ "node_modules" := by
  constructor
  · intro h above name hfront hdir
    refine isSkipped_eq_false_iff.mp (h name ?_)
    obtain ⟨below, rfl⟩ := hfront
    have hbelow : below ≠ [] := by
      rintro rfl
      rw [List.append_nil, hdir] at hfile
      cases hfile
    rw [List.dropLast_append_of_ne_nil hbelow]
    simp
  · intro h name hname
    obtain ⟨above, below, hsplit⟩ := List.append_of_mem hname
    have hfront : above ++ [name] <+: names.dropLast := ⟨below, by simp [hsplit]⟩
    have hne : above ++ [name] ≠ names := by
      intro heq
      have hle := hfront.length_le
      rw [heq, List.length_dropLast] at hle
      have hpos : 0 < names.length := List.length_pos_of_mem (List.dropLast_subset names hname)
      omega
    refine isSkipped_eq_false_iff.mpr (h above name (hfront.trans (List.dropLast_prefix names)) ?_)
    refine htree.get?_above hfile ?_ (by simpa using hne)
    exact (List.prefix_append_right_inj location).mpr (hfront.trans (List.dropLast_prefix names))

/-- What is found below a directory are the sources. -/
theorem mem_found_iff (htree : fs.IsTree) {path : Path} :
    (path, content) ∈ fs.nodes.filterMap ((source.withExtensions given).select? location) ↔
      ∃ names, IsSource fs location given names content ∧
        path = names.foldl Path.child source.root := by
  have hmem {names : List String} {name : String} (hlast : names.getLast? = some name) :
      (location ++ names, Node.file content) ∈ fs.nodes ↔
        fs.get? (location ++ names) = some (.file content) := by
    refine htree.mem_nodes_iff fun hnil => ?_
    rw [(List.append_eq_nil_iff.mp hnil).2] at hlast
    cases hlast
  simp only [List.mem_filterMap, Prod.exists, select?_eq_some_iff, accepts_withExtensions_iff]
  constructor
  · rintro ⟨place, node, hnode, names, rfl, rfl, hpath, ⟨name, hlast, hwanted⟩, hvisible⟩
    have hfile := (hmem hlast).mp hnode
    exact ⟨names, ⟨hfile, ⟨name, hlast, hwanted⟩, (forall_isSkipped_iff htree hfile).mp hvisible⟩,
      hpath⟩
  · rintro ⟨names, ⟨hfile, ⟨name, hlast, hwanted⟩, hvisible⟩, hpath⟩
    exact ⟨location ++ names, .file content, (hmem hlast).mpr hfile, names, rfl, rfl, hpath,
      ⟨name, hlast, hwanted⟩, (forall_isSkipped_iff htree hfile).mpr hvisible⟩

theorem IsSource.components_eq (htree : fs.IsTree) (h : IsSource fs location given names content)
    (root : Path) :
    (names.foldl Path.child root).components = root.components ++ names.map .normal :=
  Path.components_foldl_child root fun name hname =>
    htree.isEntry_of_get? h.file name (List.mem_append_right location hname)

/-- No two of the files that are found have paths with the same steps. -/
theorem pairwise_found (htree : fs.IsTree) (source : SourceRoot) (location : Location) :
    (fs.nodes.filterMap (source.select? location)).Pairwise fun a b =>
      a.1.components ≠ b.1.components := by
  have hplaces : fs.nodes.Pairwise fun a b => a.1 ≠ b.1 := List.pairwise_map.mp htree.nodup
  rw [List.pairwise_filterMap]
  refine hplaces.imp_of_mem fun {a b} ha hb hne found hfound other hother heq => hne ?_
  obtain ⟨names, hplace, -, hpath, -⟩ := select?_eq_some_iff.mp hfound
  obtain ⟨names', hplace', -, hpath', -⟩ := select?_eq_some_iff.mp hother
  have hentry : ∀ name ∈ names, IsEntry name := fun name hname =>
    htree.isEntry a ha name (hplace ▸ List.mem_append_right location hname)
  have hentry' : ∀ name ∈ names', IsEntry name := fun name hname =>
    htree.isEntry b hb name (hplace' ▸ List.mem_append_right location hname)
  rw [hpath, hpath', Path.components_foldl_child _ hentry, Path.components_foldl_child _ hentry',
    List.append_cancel_left_eq] at heq
  rw [hplace, hplace', List.map_injective_iff.mpr (fun _ _ => Component.normal.inj) heq]

theorem describes_sourceFile {root : Path} (htree : fs.IsTree)
    (h : IsSource fs location given names content) :
    Describes root names content (sourceFile (names.foldl Path.child root) content) where
  path := rfl
  steps := h.components_eq htree root
  text := by
    intro text htext
    simp only [sourceFile, Content.text?_eq_some_iff.mpr htext]
  error := by
    intro hnone
    have hcontent : content.text? = none :=
      Option.eq_none_iff_forall_ne_some.mpr fun text htext =>
        hnone text (Content.text?_eq_some_iff.mp htext)
    simp only [sourceFile, hcontent]

/-- Each file below a directory that has one of the given extensions, and that is in no directory
below the root that is hidden or holds packages, is listed once, with its text or with an error if
it does not hold text. Nothing else is listed, and the list is in the order of the steps of paths. -/
theorem sources_lists_wanted_files (source : SourceRoot) (given : List String) {fs : FileSystem}
    (htree : fs.IsTree) {location : Location} (hroot : fs.locate true source.root = .ok location)
    (hdir : fs.get? location = some .dir) :
    ∃ files, (source.withExtensions given).sources fs = .ok files ∧
      (∀ names content, IsSource fs location given names content →
        ∃ file, Describes source.root names content file ∧
          files.filter (fun other => (Path.mk other.path).components =
            source.root.components ++ names.map .normal) = [file]) ∧
      (∀ file ∈ files, ∃ names content, IsSource fs location given names content ∧
        Describes source.root names content file) ∧
      files.Pairwise fun a b => Path.key ⟨a.path⟩ < Path.key ⟨b.path⟩ := by
  have hnode : fs.node source.root = .ok .dir := by
    simp only [FileSystem.node, hroot, bind, Except.bind, hdir]
    rfl
  generalize hfound : fs.nodes.filterMap ((source.withExtensions given).select? location) = found
  have hdistinct := pairwise_found htree (source.withExtensions given) location
  rw [hfound] at hdistinct
  have hsorted := Path.pairwise_key_mergeSort hdistinct
  have hmem (path : Path) (content : Content) :
      (path, content) ∈ found.mergeSort (fun a b => !b.1.lt a.1) ↔
        ∃ names, IsSource fs location given names content ∧
          path = names.foldl Path.child source.root := by
    rw [List.mem_mergeSort, ← hfound]
    exact mem_found_iff htree
  generalize hsort : found.mergeSort (fun a b => !b.1.lt a.1) = sorted at hsorted hmem
  have hincreasing : (sorted.map fun entry => sourceFile entry.1 entry.2).Pairwise fun a b =>
      Path.key ⟨a.path⟩ < Path.key ⟨b.path⟩ :=
    List.pairwise_map.mpr hsorted
  refine ⟨sorted.map fun entry => sourceFile entry.1 entry.2, ?_, ?_, ?_, hincreasing⟩
  · subst hsort hfound
    simp only [sources, withExtensions, hnode, hroot]
  · intro names content h
    have hdescribes : Describes source.root names content _ := describes_sourceFile htree h
    have hlisted : sourceFile (names.foldl Path.child source.root) content ∈
        sorted.map fun entry => sourceFile entry.1 entry.2 :=
      List.mem_map_of_mem ((hmem _ content).mpr ⟨names, h, rfl⟩)
    refine ⟨_, hdescribes, ?_⟩
    rw [← hdescribes.steps]
    exact filter_eq_singleton (hincreasing.imp fun hlt heq => hlt.ne (Path.key_inj.mpr heq)) hlisted
  · intro file hfile
    obtain ⟨⟨path, content⟩, hentry, rfl⟩ := List.mem_map.mp hfile
    obtain ⟨names, h, rfl⟩ := (hmem path content).mp hentry
    exact ⟨names, content, h, describes_sourceFile htree h⟩

/-- A hidden directory with a file in a directory, a file that is not text, a file in a hidden
directory, and a link. -/
def libraryFiles : FileSystem where
  nodes := [(["w"], .dir), (["w", ".lib"], .dir),
    (["w", ".lib", "a.sol"], .file (.bytes ⟨#[0xff]⟩)), (["w", ".lib", "a"], .dir),
    (["w", ".lib", "a", "b.SOL"], .file (.ofText "contract B")),
    (["w", ".lib", ".git"], .dir), (["w", ".lib", ".git", "c.sol"], .file (.ofText "contract C")),
    (["w", ".lib", "l.sol"], .link "a.sol")]
  current := ["w"]

/-- The file in the directory is listed with its text and before the file that is not text, which is
listed with an error. The file in the hidden directory is not listed. -/
theorem sources_lists_wanted_files_libraryFiles :
    let source : SourceRoot := ⟨⟨".lib"⟩, ["sol"]⟩
    let steps (names : List String) : List Component := [".lib"].map .normal ++ names.map .normal
    libraryFiles.IsTree ∧ libraryFiles.locate true source.root = .ok ["w", ".lib"] ∧
      libraryFiles.get? ["w", ".lib"] = some .dir ∧
      ∃ files, (source.withExtensions [".sol"]).sources libraryFiles = .ok files ∧
        (∃ file, file.text = .ok "contract B" ∧
          files.filter (fun other => (Path.mk other.path).components = steps ["a", "b.SOL"]) =
            [file]) ∧
        (∃ file, file.text = .error "stream did not contain valid UTF-8" ∧
          files.filter (fun other => (Path.mk other.path).components = steps ["a.sol"]) = [file]) ∧
        (∀ file ∈ files, (Path.mk file.path).components ≠ steps [".git", "c.sol"]) ∧
        files.Pairwise fun a b => Path.key ⟨a.path⟩ < Path.key ⟨b.path⟩ := by
  intro source steps
  have htree : libraryFiles.IsTree :=
    ⟨by decide +kernel, by decide +kernel, by decide +kernel⟩
  have hroot : libraryFiles.locate true source.root = .ok ["w", ".lib"] := by decide +kernel
  have hdir : libraryFiles.get? ["w", ".lib"] = some .dir := by decide +kernel
  have hsteps : source.root.components = [".lib"].map .normal := by decide +kernel
  obtain ⟨files, hfiles, hlisted, honly, hincreasing⟩ :=
    sources_lists_wanted_files source [".sol"] htree hroot hdir
  rw [hsteps] at hlisted
  have hinner : IsSource libraryFiles ["w", ".lib"] [".sol"] ["a", "b.SOL"]
      (.ofText "contract B") := by
    refine ⟨rfl, ⟨"b.SOL", rfl, "SOL", ⟨['b'], ?_⟩, by decide, ".sol", ?_⟩, ?_⟩
    · decide +kernel
    · decide +kernel
    · exact (forall_isSkipped_iff htree rfl).mp (by decide +kernel)
  have hbroken : IsSource libraryFiles ["w", ".lib"] [".sol"] ["a.sol"] (.bytes ⟨#[0xff]⟩) := by
    refine ⟨rfl, ⟨"a.sol", rfl, "sol", ⟨['a'], ?_⟩, by decide, ".sol", ?_⟩, ?_⟩
    · decide +kernel
    · decide +kernel
    · exact (forall_isSkipped_iff htree rfl).mp (by decide +kernel)
  refine ⟨htree, hroot, hdir, files, hfiles, ?_, ?_, ?_, hincreasing⟩
  · obtain ⟨file, hdescribes, hone⟩ := hlisted _ _ hinner
    exact ⟨file, hdescribes.text _ rfl, hone⟩
  · obtain ⟨file, hdescribes, hone⟩ := hlisted _ _ hbroken
    refine ⟨file, hdescribes.error fun text htext => ?_, hone⟩
    have hnone : (Content.bytes ⟨#[0xff]⟩).text? = none := by decide +kernel
    rw [Content.text?_eq_some_iff.mpr htext] at hnone
    cases hnone
  · intro file hfile heq
    obtain ⟨names, content, hsource, hdescribes⟩ := honly file hfile
    have hnames : names = [".git", "c.sol"] := by
      have hmap := hdescribes.steps.symm.trans heq
      rw [hsteps, List.append_cancel_left_eq] at hmap
      exact List.map_injective_iff.mpr (fun _ _ => Component.normal.inj) hmap
    subst hnames
    exact (hsource.visible [] ".git" (by decide) (by decide +kernel)).1 (by decide)

end SourceRoot

end TokenAudit
