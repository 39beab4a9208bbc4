import Mathlib.Data.List.Infix
import TokenAudit.Proofs.Audit.Sequence
import TokenAudit.Proofs.Files.Directories

/-!
# Trees of files

A list of places and what is there can be odd: a place may occur twice, or have nothing above it.
File operations keep file systems in order: each place has one entry, its names are those that an
entry of a directory can have, and it is in a directory.

## Main definitions

* `FileSystem.IsTree`: a file system that is in order.

## Main results

* `FileSystem.IsTree.mem_nodes_iff`: what is listed for a place is what is there.
* `FileSystem.IsTree.get?_above`: directories lead to everything.
* `FileSystem.IsTree.writeContent`, `FileSystem.IsTree.createDirAll`,
  `FileSystem.IsTree.createLink`, `FileSystem.IsTree.remove` and
  `FileSystem.IsTree.removeDirAll`: file operations keep the order, also if they fail on the way.
-/

namespace TokenAudit.FileSystem

/-- Each place has one entry, is made of names that entries can have, and is in a directory. -/
structure IsTree (fs : FileSystem) : Prop where
  nodup : (fs.nodes.map Prod.fst).Nodup
  isEntry : ∀ entry ∈ fs.nodes, ∀ name ∈ entry.1, IsEntry name
  parent : ∀ entry ∈ fs.nodes, fs.get? entry.1.dropLast = some .dir

variable {fs fs' : FileSystem} {place : Location} {node : Node} {path : Path}

namespace IsTree

/-! ## What is at a place -/

/-- What is listed for a place is what is there. -/
theorem mem_nodes_iff (h : fs.IsTree) (hne : place ≠ []) :
    (place, node) ∈ fs.nodes ↔ fs.get? place = some node := by
  rw [fs.get?_of_ne_nil hne, List.lookup_eq_some_iff]
  constructor
  · intro hmem
    obtain ⟨front, back, hnodes⟩ := List.append_of_mem hmem
    refine ⟨front, back, hnodes, fun entry hentry => ?_⟩
    have hnodup := h.nodup
    rw [hnodes, List.map_append, List.map_cons, List.nodup_append] at hnodup
    have hfront : entry.1 ∈ front.map Prod.fst := List.mem_map_of_mem hentry
    simpa using (hnodup.2.2 entry.1 hfront place List.mem_cons_self).symm
  · rintro ⟨front, back, hnodes, -⟩
    simp [hnodes]

/-- The names that lead to something are those of entries. -/
theorem isEntry_of_get? (h : fs.IsTree) (hget : fs.get? place = some node) :
    ∀ name ∈ place, IsEntry name := by
  intro name hname
  exact h.isEntry _ ((h.mem_nodes_iff (List.ne_nil_of_mem hname)).mpr hget) name hname

theorem get?_dropLast (h : fs.IsTree) (hget : fs.get? place = some node) (hne : place ≠ []) :
    fs.get? place.dropLast = some .dir :=
  h.parent _ ((h.mem_nodes_iff hne).mpr hget)

/-- Directories lead to everything. -/
theorem get?_above (h : fs.IsTree) (hget : fs.get? place = some node) {above : Location}
    (hfront : above <+: place) (hne : above ≠ place) : fs.get? above = some .dir := by
  induction place using List.reverseRecOn generalizing node with
  | nil => exact absurd (List.prefix_nil.mp hfront) hne
  | append_singleton front name ih =>
    have hdir : fs.get? front = some .dir := by
      simpa using h.get?_dropLast hget (by simp)
    rcases List.prefix_concat_iff.mp hfront with heq | hfront
    · exact absurd heq hne
    · by_cases heq : above = front
      · rw [heq, hdir]
      · exact ih hdir hfront heq

/-! ## Changes of one place -/

/-- Something comes into a directory, and not in place of a directory. -/
theorem set (h : fs.IsTree) (hne : place ≠ []) (hentry : ∀ name ∈ place, IsEntry name)
    (hparent : fs.get? place.dropLast = some .dir) (hleaf : fs.get? place ≠ some .dir) :
    (fs.set place node).IsTree where
  nodup := by
    refine List.nodup_cons.mpr ⟨?_, h.nodup.sublist (List.filter_sublist.map Prod.fst)⟩
    simp
  isEntry := by
    intro entry hentry'
    rcases List.mem_cons.mp hentry' with rfl | hold
    · exact hentry
    · exact h.isEntry entry (List.mem_of_mem_filter hold)
  parent := by
    -- No entry is in what is put there, as no entry was in what was there.
    have habove (above : Location) (hdir : fs.get? above = some .dir) :
        (fs.set place node).get? above = some .dir := by
      rwa [fs.get?_set_of_ne]
      rintro rfl
      exact hleaf hdir
    intro entry hentry'
    rcases List.mem_cons.mp hentry' with rfl | hold
    · exact habove _ hparent
    · exact habove _ (h.parent entry (List.mem_of_mem_filter hold))

/-- A file takes the place of a file. -/
theorem set_file (h : fs.IsTree) {old new : Content} (hfile : fs.get? place = some (.file old)) :
    (fs.set place (.file new)).IsTree := by
  have hne : place ≠ [] := by
    rintro rfl
    cases hfile
  exact h.set hne (h.isEntry_of_get? hfile) (h.get?_dropLast hfile hne) (by simp [hfile])

/-- What is removed goes with everything below it. -/
theorem erase (h : fs.IsTree) (place : Location) : (fs.erase place).IsTree where
  nodup := h.nodup.sublist (List.filter_sublist.map Prod.fst)
  isEntry := fun entry hentry => h.isEntry entry (List.mem_of_mem_filter hentry)
  parent := by
    intro entry hentry
    obtain ⟨hold, hkept⟩ := List.mem_filter.mp hentry
    have hother : ¬place <+: entry.1 := by
      rwa [Bool.not_eq_true', ← Bool.not_eq_true, List.isPrefixOf_iff_prefix] at hkept
    rw [fs.get?_erase_of_not_prefix fun habove => hother (habove.trans (List.dropLast_prefix _))]
    exact h.parent entry hold

end IsTree

/-! ## File operations -/

section Resolving

variable {follow : Bool} {location directory : Location} {steps : List String} {name : String}
  {closed : Bool}

/-- A walk that ends at a missing name has come to a directory. -/
theorem get?_eq_dir_of_walk_eq_missing
    (h : fs.walk follow location steps = .ended (.missing directory name closed)) :
    fs.get? directory = some .dir := by
  induction steps generalizing location with
  | nil => cases h
  | cons part rest ih =>
    by_cases hdir : fs.get? location = some .dir
    · rcases walk_cons_cases fs follow location part rest with
        ⟨_, hwalk⟩ | ⟨_, hwalk⟩ | ⟨_, _, _, hwalk⟩ | ⟨_, _, _, _, ⟨_, hwalk⟩ | hwalk⟩
      all_goals rw [hwalk] at h
      case inr.inl => exact ih h
      all_goals cases h
      exact hdir
    · rw [walk_cons_of_ne_dir hdir] at h
      cases h

/-- What is left of the steps when a walk comes to a link. -/
theorem subset_of_walk_eq_link {target : String} {rest : List String}
    (h : fs.walk follow location steps = .link directory target rest) : rest ⊆ steps := by
  induction steps generalizing location with
  | nil => cases h
  | cons part after ih =>
    rcases walk_cons_cases fs follow location part after with
      ⟨_, hwalk⟩ | ⟨_, hwalk⟩ | ⟨_, _, _, hwalk⟩ | ⟨_, _, _, _, ⟨_, hwalk⟩ | hwalk⟩
    all_goals rw [hwalk] at h
    case inr.inl => exact List.subset_cons_of_subset part (ih h)
    all_goals cases h
    exact List.subset_cons_self part rest

theorem notMem_of_mem_parts {text part : String} (h : part ∈ parts text) : '/' ∉ part.toList := by
  obtain ⟨piece, hpiece, rfl⟩ := List.mem_map.mp h
  rw [String.toList_ofList]
  exact notMem_of_mem_splitAt hpiece

/-- A path that ends at a missing name leads to a directory, and an entry can have this name. -/
theorem of_resolveFrom_eq_missing {links : Nat} (hsteps : ∀ step ∈ steps, '/' ∉ step.toList)
    (h : fs.resolveFrom follow links location steps = .ok (.missing directory name closed)) :
    fs.get? directory = some .dir ∧ IsEntry name := by
  induction links using Nat.strongRecOn generalizing location steps with
  | ind links ih =>
    rw [resolveFrom] at h
    split at h
    · next hwalk =>
      cases h
      obtain ⟨_, _, hparts, _, hname, _⟩ := of_walk_eq_missing hwalk
      have hslash : '/' ∉ name.toList := hsteps name (by simp [hparts])
      exact ⟨get?_eq_dir_of_walk_eq_missing hwalk, hname.1, hname.2.1, hname.2.2, hslash⟩
    · cases h
    · next hwalk =>
      cases links with
      | zero => cases h
      | succ links =>
        refine ih links (Nat.lt_succ_self links) (fun step hstep => ?_) h
        rcases List.mem_append.mp hstep with htarget | hrest
        · exact notMem_of_mem_parts htarget
        · exact hsteps step (subset_of_walk_eq_link hwalk hrest)

end Resolving

namespace IsTree

/-- Something comes where a path ends at a missing name. -/
theorem set_missing (h : fs.IsTree) {follow : Bool} {directory : Location} {name : String}
    {closed : Bool} (hresolve : fs.resolve follow path = .ok (.missing directory name closed)) :
    (fs.set (directory ++ [name]) node).IsTree := by
  have hfrom := resolveFrom_of_resolve hresolve
  obtain ⟨hdir, hname⟩ := of_resolveFrom_eq_missing (fun _ => notMem_of_mem_parts) hfrom
  refine h.set (by simp) ?_ (by simpa using hdir) (by simp [get?_eq_none_of_resolveFrom hfrom])
  intro other hother
  rcases List.mem_append.mp hother with habove | hlast
  · exact h.isEntry_of_get? hdir other habove
  · rwa [List.mem_singleton.mp hlast]

theorem writeContent (h : fs.IsTree) {content : Content}
    (hwrite : fs.writeContent path content = .ok fs') : fs'.IsTree := by
  obtain ⟨target, hresolve, hwrite⟩ := bind_eq_ok_iff.mp hwrite
  cases target with
  | found location =>
    dsimp only at hwrite
    split at hwrite
    · next hfile =>
      cases hwrite
      exact h.set_file hfile
    · cases hwrite
  | missing directory name closed =>
    cases closed with
    | true => cases hwrite
    | false =>
      cases hwrite
      exact h.set_missing hresolve

theorem createLink (h : fs.IsTree) {target : String}
    (hcreate : fs.createLink path target = .ok fs') : fs'.IsTree := by
  rw [FileSystem.createLink] at hcreate
  split at hcreate
  · cases hcreate
  · obtain ⟨result, hresolve, hcreate⟩ := bind_eq_ok_iff.mp hcreate
    cases result with
    | found location => cases hcreate
    | missing directory name closed =>
      cases closed with
      | true => cases hcreate
      | false =>
        cases hcreate
        exact h.set_missing hresolve

theorem createDir (h : fs.IsTree) (hcreate : fs.createDir path = .ok fs') : fs'.IsTree := by
  obtain ⟨directory, name, closed, hresolve, rfl⟩ := Site.of_createDir_eq_ok hcreate
  exact h.set_missing hresolve

theorem createAbove (h : fs.IsTree) (steps : List Component) (path : Path) :
    (FileSystem.createAbove steps path fs).2.IsTree := by
  induction steps generalizing path fs with
  | nil => exact h
  | cons step above ih =>
    rw [FileSystem.createAbove]
    split
    · next hensure =>
      rcases Site.of_ensureDir_eq_ok hensure with hcreate | ⟨rfl, _⟩
      · exact h.createDir hcreate
      · exact h
    · have habove := ih h (Path.ofComponents above.reverse)
      split
      · next heq =>
        rw [heq] at habove
        exact habove
      · next heq =>
        rw [heq] at habove
        split
        · next hcreate => exact habove.createDir hcreate
        · exact habove
    · exact h

/-- Directories that were created before an error stay, and the file system is in order. -/
theorem createDirAll (h : fs.IsTree) (path : Path) : (fs.createDirAll path).2.IsTree :=
  h.createAbove path.components.reverse path

theorem remove (h : fs.IsTree) (hremove : fs.remove path = .ok fs') : fs'.IsTree := by
  obtain ⟨location, _, hremove⟩ := bind_eq_ok_iff.mp hremove
  cases hremove
  exact h.erase location

theorem removeDirAll (h : fs.IsTree) (hremove : fs.removeDirAll path = .ok fs') : fs'.IsTree := by
  obtain ⟨location, _, hremove⟩ := bind_eq_ok_iff.mp hremove
  split at hremove
  · cases hremove
  · cases hremove
    exact h.erase location

end IsTree

end TokenAudit.FileSystem
