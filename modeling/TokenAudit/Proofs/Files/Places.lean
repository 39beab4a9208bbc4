import TokenAudit.Files.StoreAddress
import TokenAudit.Proofs.Files.Components

/-!
# Places in a file system

What is at a place after something is put there or removed, and where a walk along the parts of a
path leads. Parts lead to a place that does not depend on the file system; a walk comes to this
place or stops on the way. Run stores are at places that names lead to, and the way there does not
depend on what files hold.

## Main definitions

* `FileSystem.destination`: the place that parts of a path lead to if nothing is in the way.
* `FileSystem.IsPlace`: a location that names lead to.
* `FileSystem.SameTree`: two file systems differ in the contents of files at most.

## Main results

* `FileSystem.walk_cons_cases`: what a walk does at the next part of a path.
* `FileSystem.of_walk_eq_found`, `FileSystem.of_walk_eq_missing`: where a walk has come to.
* `FileSystem.isPlace_of_storeLocation?`: a run store is at a place other than the root.
* `FileSystem.SameTree.storeLocation?_eq`: where a run store is does not depend on what files hold.
-/

namespace TokenAudit.FileSystem

/-! ## What is at a place after a change -/

variable {nodes : List (Location × Node)} {p : Location × Node → Bool} {place : Location}

/-- Taking entries of other places out leaves what is at a place. -/
theorem lookup_filter_of_forall (h : ∀ node, p (place, node) = true) :
    (nodes.filter p).lookup place = nodes.lookup place := by
  induction nodes with
  | nil => rfl
  | cons entry rest ih =>
    obtain ⟨at', node⟩ := entry
    by_cases hat : place = at'
    · subst hat
      rw [List.filter_cons_of_pos (h node)]
      simp
    · have hbeq : (place == at') = false := by simpa using hat
      rw [List.filter_cons, List.lookup_cons, hbeq, ← ih]
      split
      · rw [List.lookup_cons, hbeq]
      · rfl

/-- Taking out all entries of a place leaves nothing there. -/
theorem lookup_filter_eq_none (h : ∀ node, p (place, node) = false) :
    (nodes.filter p).lookup place = none := by
  rw [List.lookup_eq_none_iff]
  rintro ⟨_, node⟩ hentry
  rw [bne_iff_ne]
  rintro rfl
  rw [List.mem_filter, h node] at hentry
  exact Bool.false_ne_true hentry.2

variable (fs : FileSystem) {node : Node}

@[simp]
theorem get?_root : fs.get? [] = some .dir := rfl

theorem get?_of_ne_nil (h : place ≠ []) : fs.get? place = fs.nodes.lookup place := by
  rw [get?, if_neg (by simpa using h)]

/-- What is put at a place is there. The root cannot be replaced. -/
theorem get?_set_self (h : place ≠ []) : (fs.set place node).get? place = some node := by
  rw [get?_of_ne_nil _ h]
  simp [set]

/-- What is at other places stays. -/
theorem get?_set_of_ne {other : Location} (h : other ≠ place) :
    (fs.set place node).get? other = fs.get? other := by
  by_cases hroot : other = []
  · rw [hroot, get?_root, get?_root]
  · rw [get?_of_ne_nil _ hroot, get?_of_ne_nil _ hroot, set, List.lookup_cons,
      beq_eq_false_iff_ne.mpr h]
    exact lookup_filter_of_forall fun _ => by simpa using h

/-- Putting the same thing at a place again changes nothing. -/
theorem set_set : (fs.set place node).set place node = fs.set place node := by
  simp only [set, List.filter_cons, bne_self_eq_false, Bool.false_eq_true, if_false,
    List.filter_filter, Bool.and_self]

/-- What is removed is gone, with everything below it. -/
theorem get?_erase_of_prefix {below : Location} (hne : place ≠ []) (h : place <+: below) :
    (fs.erase place).get? below = none := by
  have hbelow : below ≠ [] := fun hnil => hne (List.prefix_nil.mp (hnil ▸ h))
  rw [get?_of_ne_nil _ hbelow]
  exact lookup_filter_eq_none fun _ => by simpa using h

/-- What is neither removed nor below what is removed stays. -/
theorem get?_erase_of_not_prefix {other : Location} (h : ¬place <+: other) :
    (fs.erase place).get? other = fs.get? other := by
  by_cases hroot : other = []
  · rw [hroot, get?_root, get?_root]
  · rw [get?_of_ne_nil _ hroot, get?_of_ne_nil _ hroot]
    refine lookup_filter_of_forall fun _ => ?_
    rwa [Bool.not_eq_true', Bool.eq_false_iff, ne_eq, List.isPrefixOf_iff_prefix]

/-! ## Where walks lead -/

/-- A part of a path that is the name of an entry. -/
def IsName (part : String) : Prop :=
  part ≠ "" ∧ part ≠ "." ∧ part ≠ ".."

instance (part : String) : Decidable (IsName part) :=
  inferInstanceAs (Decidable (_ ∧ _ ∧ _))

theorem isName_of_isEntry {name : String} (h : IsEntry name) : IsName name :=
  ⟨h.1, h.2.1, h.2.2.1⟩

/-- The place that a part of a path leads to: a name goes down, and two dots go up. -/
def advance (location : Location) (part : String) : Location :=
  if part = "" ∨ part = "." then location
  else if part = ".." then location.dropLast
  else location ++ [part]

/-- The place that parts of a path lead to, if nothing is in the way. -/
def destination (location : Location) (steps : List String) : Location :=
  steps.foldl advance location

theorem advance_of_isName {part : String} (h : IsName part) (location : Location) :
    advance location part = location ++ [part] := by
  simp [advance, h.1, h.2.1, h.2.2]

@[simp]
theorem destination_nil (location : Location) : destination location [] = location := rfl

theorem destination_cons (location : Location) (part : String) (rest : List String) :
    destination location (part :: rest) = destination (advance location part) rest := rfl

/-- Names lead down, one after the other. -/
theorem destination_of_forall_isName {names : List String} (h : ∀ name ∈ names, IsName name)
    (location : Location) : destination location names = location ++ names := by
  induction names generalizing location with
  | nil => simp
  | cons name rest ih =>
    rw [destination_cons, advance_of_isName (h name List.mem_cons_self),
      ih fun other hother => h other (List.mem_cons_of_mem name hother)]
    simp

variable {fs} {follow : Bool} {location : Location} {steps : List String}

theorem leadsOn_eq_false_iff (part : String) : leadsOn part = false ↔ part = "" ∨ part = "." := by
  rw [leadsOn, Bool.not_eq_false', Bool.or_eq_true, String.isEmpty_iff, beq_iff_eq]

/-- A part of a path stays where it is, leads up, or is a name. -/
theorem part_cases (part : String) : leadsOn part = false ∨ part = ".." ∨ IsName part := by
  by_cases hstay : leadsOn part = false
  · exact .inl hstay
  · by_cases hup : part = ".."
    · exact .inr (.inl hup)
    · rw [leadsOn_eq_false_iff, not_or] at hstay
      exact .inr (.inr ⟨hstay.1, hstay.2, hup⟩)

theorem advance_of_not_leadsOn {part : String} (h : leadsOn part = false) (location : Location) :
    advance location part = location :=
  if_pos ((leadsOn_eq_false_iff part).mp h)

theorem leadsOn_of_isName {part : String} (h : IsName part) : leadsOn part = true := by
  simpa [leadsOn] using ⟨h.1, h.2.1⟩

/-! Each kind of part has its own equation. -/

section Step

variable {part : String} {rest : List String}

theorem walk_cons_of_ne_dir (h : fs.get? location ≠ some .dir) :
    fs.walk follow location (part :: rest) = .failed .notDirectory := by
  rw [walk, if_pos (by simpa using h)]

theorem walk_cons_of_not_leadsOn (hdir : fs.get? location = some .dir) (h : leadsOn part = false) :
    fs.walk follow location (part :: rest) = fs.walk follow location rest := by
  rw [walk, if_neg (by simpa using hdir), if_pos (by simpa using (leadsOn_eq_false_iff part).mp h)]

theorem walk_cons_up (hdir : fs.get? location = some .dir) :
    fs.walk follow location (".." :: rest) = fs.walk follow location.dropLast rest := by
  rw [walk, if_neg (by simpa using hdir)]
  rfl

theorem walk_cons_of_isName (hdir : fs.get? location = some .dir) (h : IsName part) :
    fs.walk follow location (part :: rest) =
      if 255 < part.utf8ByteSize then .failed .nameTooLong
      else
        match fs.get? (location ++ [part]) with
        | none =>
          if rest.all (·.isEmpty) then .ended (.missing location part (!rest.isEmpty))
          else .failed .notFound
        | some (.link target) =>
          if rest.isEmpty && !follow then .ended (.found (location ++ [part]))
          else .link location target rest
        | some _ => fs.walk follow (location ++ [part]) rest := by
  rw [walk, if_neg (by simpa using hdir), if_neg (by simpa using ⟨h.1, h.2.1⟩)]
  exact if_neg (by simpa using h.2.2)

end Step

/-- What a walk does at the next part of a path: it fails, it goes on from where the part leads, it
ends at a name that is missing, or it comes to a link and ends there or leaves following it to
others. -/
theorem walk_cons_cases (fs : FileSystem) (follow : Bool) (location : Location) (part : String)
    (rest : List String) :
    (∃ error, fs.walk follow location (part :: rest) = .failed error) ∨
    (fs.get? location = some .dir ∧
      fs.walk follow location (part :: rest) = fs.walk follow (advance location part) rest) ∨
    (IsName part ∧ fs.get? (location ++ [part]) = none ∧ (∀ other ∈ rest, other = "") ∧
      fs.walk follow location (part :: rest) =
        .ended (.missing location part (!rest.isEmpty))) ∨
    ∃ target, IsName part ∧ fs.get? location = some .dir ∧
      fs.get? (location ++ [part]) = some (.link target) ∧
      (rest = [] ∧ fs.walk follow location (part :: rest) = .ended (.found (location ++ [part])) ∨
        fs.walk follow location (part :: rest) = .link location target rest) := by
  by_cases hdir : fs.get? location = some .dir
  · rcases part_cases part with hstay | rfl | hname
    · rw [advance_of_not_leadsOn hstay]
      exact .inr (.inl ⟨hdir, walk_cons_of_not_leadsOn hdir hstay⟩)
    · exact .inr (.inl ⟨hdir, walk_cons_up hdir⟩)
    · rw [walk_cons_of_isName hdir hname, advance_of_isName hname]
      split
      · exact .inl ⟨_, rfl⟩
      · split
        · next hmissing =>
          split
          · next hempty => exact .inr (.inr (.inl ⟨hname, hmissing, by simpa using hempty, rfl⟩))
          · exact .inl ⟨_, rfl⟩
        · next target hlink =>
          refine .inr (.inr (.inr ⟨target, hname, hdir, hlink, ?_⟩))
          split
          · next hend => exact .inl ⟨List.isEmpty_iff.mp (Bool.and_eq_true_iff.mp hend).1, rfl⟩
          · exact .inr rfl
        · exact .inr (.inl ⟨hdir, rfl⟩)
  · exact .inl ⟨_, walk_cons_of_ne_dir hdir⟩

/-- A walk that comes to something has gone where the parts lead, and through directories only. -/
theorem of_walk_eq_found (h : fs.walk follow location steps = .ended (.found place)) :
    place = destination location steps ∧
    ∀ before after, steps = before ++ after → after ≠ [] →
      fs.get? (destination location before) = some .dir := by
  induction steps generalizing location with
  | nil =>
    cases h
    refine ⟨rfl, fun before after hsteps hafter => absurd ?_ hafter⟩
    exact (List.append_eq_nil_iff.mp hsteps.symm).2
  | cons part rest ih =>
    have hgone : fs.get? location = some .dir ∧
        (place = destination (advance location part) rest ∧
          ∀ before after, rest = before ++ after → after ≠ [] →
            fs.get? (destination (advance location part) before) = some .dir) := by
      rcases walk_cons_cases fs follow location part rest with
        ⟨_, hwalk⟩ | ⟨hdir, hwalk⟩ | ⟨_, _, _, hwalk⟩ | ⟨_, hname, hdir, _, ⟨hrest, hwalk⟩ | hwalk⟩
      all_goals rw [hwalk] at h
      case inr.inl => exact ⟨hdir, ih h⟩
      all_goals cases h
      subst hrest
      refine ⟨hdir, (advance_of_isName hname location).symm, fun before after hsteps hafter =>
        absurd ?_ hafter⟩
      exact (List.append_eq_nil_iff.mp hsteps.symm).2
    refine ⟨hgone.2.1, fun before after hsteps hafter => ?_⟩
    cases before with
    | nil => exact hgone.1
    | cons first before =>
      obtain ⟨hfirst, hrest⟩ := List.cons.inj hsteps
      rw [← hfirst]
      exact hgone.2.2 before after hrest hafter

/-- A walk that ends at a name that is missing has gone where the parts lead up to this name, and
nothing but separators follow it. -/
theorem of_walk_eq_missing {directory : Location} {name : String} {closed : Bool}
    (h : fs.walk follow location steps = .ended (.missing directory name closed)) :
    ∃ before after, steps = before ++ name :: after ∧ (∀ part ∈ after, part = "") ∧ IsName name ∧
      directory = destination location before ∧ fs.get? (directory ++ [name]) = none ∧
      closed = !after.isEmpty := by
  induction steps generalizing location with
  | nil => cases h
  | cons part rest ih =>
    rcases walk_cons_cases fs follow location part rest with
      ⟨_, hwalk⟩ | ⟨hdir, hwalk⟩ | ⟨hname, hmissing, hrest, hwalk⟩ |
      ⟨_, _, _, _, ⟨_, hwalk⟩ | hwalk⟩
    all_goals rw [hwalk] at h
    case inr.inl =>
      obtain ⟨before, after, hsteps, hends⟩ := ih h
      exact ⟨part :: before, after, congrArg (part :: ·) hsteps, hends⟩
    all_goals cases h
    exact ⟨[], rest, rfl, hrest, hname, rfl, hmissing, rfl⟩

/-! ## Where run stores are -/

/-- A location that names lead to. -/
def IsPlace (location : Location) : Prop :=
  ∀ name ∈ location, IsName name

instance (location : Location) : Decidable (IsPlace location) :=
  inferInstanceAs (Decidable (∀ name ∈ location, IsName name))

theorem IsPlace.dropLast (h : IsPlace location) : IsPlace location.dropLast :=
  fun name hname => h name (List.dropLast_subset location hname)

theorem IsPlace.concat (h : IsPlace location) {name : String} (hname : IsName name) :
    IsPlace (location ++ [name]) := by
  intro other hother
  rcases List.mem_append.mp hother with hold | hnew
  · exact h other hold
  · rwa [List.mem_singleton.mp hnew]

theorem IsPlace.startOf (h : IsPlace location) (text : String) :
    IsPlace (startOf text location) := by
  unfold FileSystem.startOf
  split
  · exact fun name hname => absurd hname List.not_mem_nil
  · exact h

/-- A path that is spelled out from a place leads to a place. -/
theorem isPlace_of_spell? (h : IsPlace location) {next : Location}
    {link : Option (String × List String)} (hspell : fs.spell? location steps = some (next, link)) :
    IsPlace next := by
  induction steps generalizing location with
  | nil =>
    cases hspell
    exact h
  | cons part rest ih =>
    rw [spell?] at hspell
    split at hspell
    · exact ih h hspell
    · next hstay =>
      split at hspell
      · exact ih h.dropLast hspell
      · next hup =>
        have hname : IsName part := by
          simp only [Bool.or_eq_true, String.isEmpty_iff, beq_iff_eq, not_or] at hstay hup
          exact ⟨hstay.1, hstay.2, hup⟩
        split at hspell
        · split at hspell
          · cases hspell
            exact h
          · exact ih (h.concat hname) hspell
        · exact ih (h.concat hname) hspell
        · exact ih (h.concat hname) hspell
        · cases hspell

/-- So does one with links on the way. -/
theorem isPlace_of_spellFrom? {links : Nat} (h : IsPlace location) {next : Location}
    (hspell : fs.spellFrom? links location steps = some next) : IsPlace next := by
  induction links generalizing location steps with
  | zero =>
    rw [spellFrom?] at hspell
    split at hspell
    · cases hspell
    · next hend =>
      cases hspell
      exact isPlace_of_spell? h hend
    · cases hspell
  | succ links ih =>
    rw [spellFrom?] at hspell
    split at hspell
    · cases hspell
    · next hend =>
      cases hspell
      exact isPlace_of_spell? h hend
    · next hlink => exact ih ((isPlace_of_spell? h hlink).startOf _) hspell

/-- A run store is at a place other than the root, if its path starts at a place. -/
theorem isPlace_of_storeLocation? {path : String}
    (h : IsPlace (FileSystem.startOf path fs.current))
    (hlocation : fs.storeLocation? path = some location) : IsPlace location ∧ location ≠ [] := by
  rw [storeLocation?, Option.bind_eq_bind, Option.bind_eq_some_iff] at hlocation
  obtain ⟨place, hspell, hplace⟩ := hlocation
  split at hplace
  · cases hplace
  · next hlimits =>
    cases hplace
    refine ⟨isPlace_of_spellFrom? h hspell, ?_⟩
    rintro rfl
    exact hlimits rfl

/-- A walk from the root along a place ends there, if it comes to something. -/
theorem eq_of_walk_eq_found (h : IsPlace location)
    (hwalk : fs.walk follow [] location = .ended (.found place)) : place = location :=
  (of_walk_eq_found hwalk).1.trans (destination_of_forall_isName h [])

/-- If such a walk ends at a missing name, nothing is at the place, and no separator follows. -/
theorem of_walk_eq_missing_of_isPlace (h : IsPlace location) {directory : Location}
    {name : String} {closed : Bool}
    (hwalk : fs.walk follow [] location = .ended (.missing directory name closed)) :
    fs.get? location = none ∧ closed = false := by
  obtain ⟨before, after, hlocation, hafter, _, hdirectory, hmissing, hclosed⟩ :=
    of_walk_eq_missing hwalk
  have hend : after = [] := by
    refine List.eq_nil_iff_forall_not_mem.mpr fun part hpart => ?_
    have hin : part ∈ location := by simp [hlocation, hpart]
    exact (h part hin).1 (hafter part hpart)
  have hbefore : ∀ part ∈ before, IsName part :=
    fun part hpart => h part (by simp [hlocation, hpart])
  rw [hdirectory, destination_of_forall_isName hbefore] at hmissing
  rw [hend] at hclosed
  exact ⟨by rwa [hlocation, hend], hclosed⟩

/-! ## Trees that differ in the contents of files -/

variable {fs' : FileSystem}

/-- Two file systems differ in the contents of files at most. -/
structure SameTree (fs fs' : FileSystem) : Prop where
  current : fs.current = fs'.current
  get? : ∀ place, fs.get? place = fs'.get? place ∨
    ∃ content content', fs.get? place = some (.file content) ∧
      fs'.get? place = some (.file content')

/-- Writing to a file that is there changes its content only. -/
theorem sameTree_set {content content' : Content} (h : fs.get? place = some (.file content)) :
    SameTree fs (fs.set place (.file content')) where
  current := rfl
  get? other := by
    have hne : place ≠ [] := by
      rintro rfl
      cases h
    by_cases hother : other = place
    · subst hother
      exact .inr ⟨content, content', h, fs.get?_set_self hne⟩
    · exact .inl (fs.get?_set_of_ne hother).symm

namespace SameTree

/-- A walk does not look at the contents of files. -/
theorem walk_eq (h : SameTree fs fs') (follow : Bool) (location : Location) (steps : List String) :
    fs.walk follow location steps = fs'.walk follow location steps := by
  induction steps generalizing location with
  | nil => rfl
  | cons part rest ih =>
    have hdir : (fs.get? location != some .dir) = (fs'.get? location != some .dir) := by
      rcases h.get? location with heq | ⟨_, _, hfile, hfile'⟩
      · rw [heq]
      · rw [hfile, hfile']
        rfl
    rw [walk, walk, hdir, ih, ih, ih]
    rcases h.get? (location ++ [part]) with heq | ⟨_, _, hfile, hfile'⟩
    · rw [heq]
    · rw [hfile, hfile']

/-- Neither does spelling out a path. -/
theorem spell?_eq (h : SameTree fs fs') (location : Location) (steps : List String) :
    fs.spell? location steps = fs'.spell? location steps := by
  induction steps generalizing location with
  | nil => rfl
  | cons part rest ih =>
    rw [spell?, spell?, ih, ih, ih, h.walk_eq]
    split
    · rfl
    · split
      · rfl
      · split
        case h_1 place _ =>
          rcases h.get? place with heq | ⟨_, _, hfile, hfile'⟩
          · rw [heq]
          · rw [hfile, hfile']
        all_goals rfl

theorem spellFrom?_eq (h : SameTree fs fs') (links : Nat) (location : Location)
    (steps : List String) :
    fs.spellFrom? links location steps = fs'.spellFrom? links location steps := by
  induction links generalizing location steps with
  | zero => rw [spellFrom?, spellFrom?, h.spell?_eq]
  | succ links ih =>
    rw [spellFrom?, spellFrom?, h.spell?_eq]
    simp only [ih]

theorem storeLocation?_eq (h : SameTree fs fs') (path : String) :
    fs.storeLocation? path = fs'.storeLocation? path := by
  rw [storeLocation?, storeLocation?, h.spellFrom?_eq, h.current]

end SameTree

end TokenAudit.FileSystem
