import Mathlib.Data.List.Induction
import TokenAudit.Proofs.Files.Changes

/-!
# Paths of run stores that lead somewhere

The path of a run store is spelled out from the root, link by link, and not walked along. Where an
absolute path leads to a directory, spelling it out comes to the same directory, since every part of
it has been walked through. So a run store in this directory is in it by its location, too.

## Main definitions

* `FileSystem.Reached`: the locations that a walk from the root comes to, down to a directory.

## Main results

* `FileSystem.Reached.spellFrom?_append`: spelling out follows a path that leads to a directory.
* `FileSystem.exists_dir_of_append`: a path that leads on leads through a directory.
-/

namespace TokenAudit.FileSystem

variable {fs : FileSystem} {location place : Location} {steps more : List String} {name : String}

/-- Directories lead from the root to the location, by names that a walk accepts. -/
structure Reached (fs : FileSystem) (location : Location) : Prop where
  isPlace : IsPlace location
  short : ∀ name ∈ location, ¬255 < name.utf8ByteSize
  dir : ∀ front, front <+: location → fs.get? front = some .dir

namespace Reached

theorem root : fs.Reached [] where
  isPlace := List.forall_mem_nil _
  short := List.forall_mem_nil _
  dir := by
    intro front hfront
    rw [List.prefix_nil.mp hfront, get?_root]

theorem get? (h : fs.Reached location) : fs.get? location = some .dir :=
  h.dir location (List.prefix_refl location)

theorem dropLast (h : fs.Reached location) : fs.Reached location.dropLast where
  isPlace := h.isPlace.dropLast
  short := fun name hname => h.short name (List.dropLast_subset location hname)
  dir := fun front hfront => h.dir front (hfront.trans (List.dropLast_prefix location))

theorem concat (h : fs.Reached location) (hname : IsName name) (hshort : ¬255 < name.utf8ByteSize)
    (hdir : fs.get? (location ++ [name]) = some .dir) : fs.Reached (location ++ [name]) where
  isPlace := h.isPlace.concat hname
  short := by
    intro other hother
    rcases List.mem_append.mp hother with hold | hnew
    · exact h.short other hold
    · rwa [List.mem_singleton.mp hnew]
  dir := by
    intro front hfront
    rcases List.prefix_concat_iff.mp hfront with rfl | hfront
    · exact hdir
    · exact h.dir front hfront

theorem startOf (h : fs.Reached location) (text : String) :
    fs.Reached (startOf text location) := by
  unfold FileSystem.startOf
  split
  · exact root
  · exact h

/-- A walk from the root comes to the location and goes on from there. -/
theorem walk_append (h : fs.Reached location) (follow : Bool) (more : List String) :
    fs.walk follow [] (location ++ more) = fs.walk follow location more := by
  induction location using List.reverseRecOn generalizing more with
  | nil => rfl
  | append_singleton front name ih =>
    have hfront : fs.Reached front := by simpa using h.dropLast
    have hname : IsName name := h.isPlace name (by simp)
    have hshort : ¬255 < name.utf8ByteSize := h.short name (by simp)
    rw [List.append_assoc, List.singleton_append, ih hfront, walk_cons_of_isName hfront.get? hname,
      if_neg hshort, h.get?]

/-! ## Spelling out -/

section Name

variable (h : fs.Reached location) (hname : IsName name) (hshort : ¬255 < name.utf8ByteSize)
  (rest : List String)

include h hname hshort

/-- A link in the location has to be followed. -/
theorem spell?_cons_of_link {target : String}
    (hlink : fs.get? (location ++ [name]) = some (.link target)) :
    fs.spell? location (name :: rest) = some (location, some (target, rest)) := by
  have hwalk : fs.walk false [] (location ++ [name]) = .ended (.found (location ++ [name])) := by
    rw [h.walk_append, walk_cons_of_isName h.get? hname, if_neg hshort, hlink]
    rfl
  rw [spell?, if_neg (by simpa using ⟨hname.1, hname.2.1⟩), if_neg (by simpa using hname.2.2),
    hwalk]
  dsimp only
  rw [hlink]

/-- Everything else is gone through, whether it is there or not. -/
theorem spell?_cons_of_not_link
    (hlink : ∀ target, fs.get? (location ++ [name]) ≠ some (.link target)) :
    fs.spell? location (name :: rest) = fs.spell? (location ++ [name]) rest := by
  rw [spell?, if_neg (by simpa using ⟨hname.1, hname.2.1⟩), if_neg (by simpa using hname.2.2),
    h.walk_append, walk_cons_of_isName h.get? hname, if_neg hshort]
  cases hnode : fs.get? (location ++ [name]) with
  | none => rfl
  | some node =>
    cases node with
    | link target => exact absurd hnode (hlink target)
    | dir =>
      dsimp only [walk]
      rw [hnode]
    | file content =>
      dsimp only [walk]
      rw [hnode]

end Name

/-- Spelling out and walking at the next part of a path: both go on from the same location, or come
to the same link, or the walk comes to neither a directory nor a link. It may come to a missing name,
which is this part then, with nothing but separators to follow. -/
theorem step_cases (h : fs.Reached location) (part : String) :
    (∃ next, fs.Reached next ∧
      (∀ rest, fs.walk true location (part :: rest) = fs.walk true next rest) ∧
      ∀ rest, fs.spell? location (part :: rest) = fs.spell? next rest) ∨
    (∃ target, (∀ rest, fs.walk true location (part :: rest) = .link location target rest) ∧
      ∀ rest, fs.spell? location (part :: rest) = some (location, some (target, rest))) ∨
    (∀ rest place, fs.walk true location (part :: rest) = .ended (.found place) →
      fs.get? place ≠ some .dir) ∧
    (∀ rest directory target left,
      fs.walk true location (part :: rest) ≠ .link directory target left) ∧
    ∀ rest directory name closed,
      fs.walk true location (part :: rest) = .ended (.missing directory name closed) →
      directory = location ∧ name = part ∧ IsName name ∧ ¬255 < name.utf8ByteSize ∧
        ∀ other ∈ rest, other = "" := by
  rcases part_cases part with hstay | rfl | hname
  · refine .inl ⟨location, h, fun rest => walk_cons_of_not_leadsOn h.get? hstay, fun rest => ?_⟩
    rw [spell?, if_pos (by simpa using (leadsOn_eq_false_iff part).mp hstay)]
  · exact .inl ⟨location.dropLast, h.dropLast, fun rest => walk_cons_up h.get?, fun rest => rfl⟩
  · simp only [walk_cons_of_isName h.get? hname]
    by_cases hlong : 255 < part.utf8ByteSize
    · simp only [if_pos hlong]
      exact .inr (.inr ⟨by simp, by simp, by simp⟩)
    · simp only [if_neg hlong]
      cases hnode : fs.get? (location ++ [part]) with
      | none =>
        refine .inr (.inr ⟨?_, ?_, ?_⟩)
        · intro rest place
          dsimp only
          split <;> simp
        · intro rest directory target left
          dsimp only
          split <;> simp
        · intro rest directory name closed hended
          dsimp only at hended
          split at hended
          · next hempty =>
            cases hended
            exact ⟨rfl, rfl, hname, hlong, by simpa using hempty⟩
          · cases hended
      | some node =>
        cases node with
        | link target =>
          refine .inr (.inl ⟨target, by simp, fun rest => ?_⟩)
          exact h.spell?_cons_of_link hname hlong rest hnode
        | dir =>
          refine .inl ⟨location ++ [part], h.concat hname hlong hnode, fun _ => rfl, fun rest => ?_⟩
          exact h.spell?_cons_of_not_link hname hlong rest (by simp [hnode])
        | file content =>
          have hfile : fs.get? (location ++ [part]) ≠ some .dir := by simp [hnode]
          refine .inr (.inr ⟨fun rest place hfound => ?_, fun rest => ?_, fun rest => ?_⟩)
          all_goals cases rest
          · cases hfound
            exact hfile
          · rw [walk_cons_of_ne_dir hfile] at hfound
            cases hfound
          all_goals simp [walk, hfile]

/-- Spelling out follows a walk that comes to a directory. -/
theorem spell?_append_of_found (h : fs.Reached location)
    (hwalk : fs.walk true location steps = .ended (.found place))
    (hdir : fs.get? place = some .dir) (more : List String) :
    fs.Reached place ∧ fs.spell? location (steps ++ more) = fs.spell? place more := by
  induction steps generalizing location with
  | nil =>
    cases hwalk
    exact ⟨h, rfl⟩
  | cons part rest ih =>
    rw [List.cons_append]
    rcases h.step_cases part with ⟨next, hnext, hon, hspell⟩ | ⟨target, hlink, _⟩ | ⟨hother, _⟩
    · rw [hspell]
      exact ih hnext (hon rest ▸ hwalk)
    · rw [hlink] at hwalk
      cases hwalk
    · exact absurd hdir (hother rest place hwalk)

/-- It comes to the link that the walk comes to. -/
theorem spell?_append_of_link (h : fs.Reached location) {directory : Location} {target : String}
    {left : List String} (hwalk : fs.walk true location steps = .link directory target left)
    (more : List String) :
    fs.Reached directory ∧
      fs.spell? location (steps ++ more) = some (directory, some (target, left ++ more)) := by
  induction steps generalizing location with
  | nil => cases hwalk
  | cons part rest ih =>
    rw [List.cons_append]
    rcases h.step_cases part with
      ⟨next, hnext, hon, hspell⟩ | ⟨text, hlink, hspell⟩ | ⟨_, hother, _⟩
    · rw [hspell]
      exact ih hnext (hon rest ▸ hwalk)
    · rw [hlink] at hwalk
      cases hwalk
      exact ⟨h, hspell _⟩
    · exact absurd hwalk (hother rest directory target left)

/-- Spelling out follows a path that leads to a directory, with as many links to follow at least. -/
theorem spellFrom?_append (h : fs.Reached location) {links limit : Nat} (hlimit : links ≤ limit)
    (hfound : fs.resolveFrom true links location steps = .ok (.found place))
    (hdir : fs.get? place = some .dir) (more : List String) :
    fs.Reached place ∧
      ∃ left, fs.spellFrom? limit location (steps ++ more) = fs.spellFrom? left place more := by
  induction links using Nat.strongRecOn generalizing location steps limit with
  | ind links ih =>
    rw [resolveFrom] at hfound
    cases hwalk : fs.walk true location steps with
    | failed error =>
      rw [hwalk] at hfound
      cases hfound
    | ended result =>
      rw [hwalk] at hfound
      cases hfound
      obtain ⟨hplace, hspell⟩ := h.spell?_append_of_found hwalk hdir more
      refine ⟨hplace, limit, ?_⟩
      rw [spellFrom?, hspell, ← spellFrom?]
    | link directory target left =>
      rw [hwalk] at hfound
      obtain ⟨hdirectory, hspell⟩ := h.spell?_append_of_link hwalk more
      cases links with
      | zero => cases hfound
      | succ links =>
        -- Both follow the link, each with one link less to go.
        obtain ⟨limit, rfl⟩ : ∃ fewer, limit = fewer + 1 := ⟨limit - 1, by omega⟩
        rw [spellFrom?, hspell]
        dsimp only
        rw [← List.append_assoc]
        exact ih links (Nat.lt_succ_self links) (hdirectory.startOf target) (by omega) hfound

/-- A name in the location is spelled out at once unless a link is there. -/
theorem spellFrom?_singleton (h : fs.Reached location) (hname : IsName name)
    (hshort : ¬255 < name.utf8ByteSize)
    (hlink : ∀ target, fs.get? (location ++ [name]) ≠ some (.link target)) (links : Nat) :
    fs.spellFrom? links location [name] = some (location ++ [name]) := by
  rw [spellFrom?, h.spell?_cons_of_not_link hname hshort [] hlink]
  rfl

end Reached

/-- A path that leads on from a beginning leads through a directory there. -/
theorem exists_dir_of_append {links : Nat}
    (h : fs.resolveFrom true links location (steps ++ name :: more) = .ok (.found place)) :
    ∃ above, fs.resolveFrom true links location steps = .ok (.found above) ∧
      fs.get? above = some .dir := by
  obtain ⟨above, habove, left, hon⟩ := exists_resolveFrom_of_append h
  refine ⟨above, habove, ?_⟩
  by_contra hother
  rw [resolveFrom, walk_cons_of_ne_dir hother] at hon
  cases hon

end TokenAudit.FileSystem
