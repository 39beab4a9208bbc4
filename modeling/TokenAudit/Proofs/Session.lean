import Mathlib.Data.List.Infix
import TokenAudit.Proofs.Audit.Sequence
import TokenAudit.Session

/-!
# Running sessions

What a session comes to, and the file system it leaves, from what its parts come to and leave. Stops
are told apart by how the wording of their outermost cause opens.

## Main definitions

* `Session.StopsIn`: every stop of a session has a property.
* `Stop.OpensWith`: the outermost cause of a stop opens with one of some wordings.
* `Apart`: no wording of one list begins with one of the other.

## Main results

* `Session.run_bind`, `Session.run_bind_eq_ok_iff`: how a session goes on.
* `Session.StopsIn.bind`: the stops of a session are those of its parts.
* `Stop.OpensWith.not_of_apart`: wordings that are apart tell stops apart.
-/

namespace TokenAudit

namespace Session

variable {α β : Type} (fs : FileSystem)

/-- A session goes on where the one before it ended, unless that one stopped. -/
theorem run_bind (session : Session α) (next : α → Session β) :
    (session >>= next).run fs =
      match session.run fs with
      | (.ok a, after) => (next a).run after
      | (.error stop, after) => (.error stop, after) := by
  refine (run_bind_state session next fs).trans ?_
  rcases session.run fs with ⟨_ | _, after⟩
  · rfl
  · rfl

/-- A session comes to a result through a result of its first part. -/
theorem run_bind_eq_ok_iff {session : Session α} {next : α → Session β} {b : β}
    {after : FileSystem} :
    (session >>= next).run fs = (.ok b, after) ↔
      ∃ a between, session.run fs = (.ok a, between) ∧ (next a).run between = (.ok b, after) := by
  rw [run_bind]
  rcases session.run fs with ⟨stop | a, between⟩
  · constructor
    · intro h
      cases h
    · rintro ⟨_, _, h, _⟩
      cases h
  · constructor
    · exact fun h => ⟨a, between, rfl, h⟩
    · rintro ⟨_, _, h, hnext⟩
      cases h
      exact hnext

theorem run_pure (a : α) : (pure a : Session α).run fs = (.ok a, fs) := rfl

theorem run_get : (get : Session FileSystem).run fs = (.ok fs, fs) := rfl

theorem run_set (next : FileSystem) : (set next : Session Unit).run fs = (.ok (), next) := rfl

theorem run_fail (text : String) :
    (fail text : Session α).run fs = (.error (.failed [⟨text, .complete⟩]), fs) := rfl

/-- The stop of a file operation that fails. -/
def stopOf (text : String) (error : FileError) : Stop :=
  .failed [⟨text, .complete⟩, ⟨error.message, .complete⟩]

theorem run_check (text : String) (result : Except FileError α) :
    (check text result).run fs = (result.mapError (stopOf text), fs) := by
  cases result <;> rfl

theorem run_ask (question : FileSystem → α) : (ask question).run fs = (.ok (question fs), fs) := rfl

theorem run_read (text : String) (action : FileSystem → Except FileError α) :
    (read text action).run fs = ((action fs).mapError (stopOf text), fs) := by
  rw [read, run_bind, run_get]
  exact run_check _ _ _

/-- A change that fails leaves the file system as it is. -/
theorem run_change (text : String) (action : FileSystem → Except FileError FileSystem) :
    (change text action).run fs =
      match action fs with
      | .ok after => (.ok (), after)
      | .error error => (.error (stopOf text error), fs) := by
  rw [change, run_bind, run_get]
  dsimp only
  rw [run_bind, run_check]
  cases action fs <;> rfl

/-- Directories that were created stay, even if it fails. -/
theorem run_createDirAll (text : String) (path : Path) :
    (createDirAll text path).run fs =
      ((fs.createDirAll path).1.mapError (stopOf text), (fs.createDirAll path).2) := by
  rw [createDirAll, run_bind, run_get]
  dsimp only
  rw [run_bind, run_set]
  exact run_check _ _ _

theorem run_checkStore (text : String) (result : Except StoreError α) :
    (checkStore text result).run fs =
      (result.mapError fun error => .failed [⟨text, .complete⟩, error.cause], fs) := by
  cases result <;> rfl

/-! ## Stops -/

/-- Every stop of the session has a property, wherever it starts. -/
def StopsIn (P : Stop → Prop) (session : Session α) : Prop :=
  ∀ fs stop, (session.run fs).1 = .error stop → P stop

namespace StopsIn

variable {P : Stop → Prop} {session : Session α}

/-- A session stops where its first part does, or where it goes on after a result of that part. -/
theorem bind {next : α → Session β} (h : StopsIn P session)
    (hnext : ∀ a, (∃ fs, (session.run fs).1 = .ok a) → StopsIn P (next a)) :
    StopsIn P (session >>= next) := by
  intro fs stop hstop
  rw [run_bind] at hstop
  rcases hrun : session.run fs with ⟨first | a, after⟩
  · rw [hrun] at hstop
    cases hstop
    exact h fs stop (congrArg Prod.fst hrun)
  · rw [hrun] at hstop
    exact hnext a ⟨fs, congrArg Prod.fst hrun⟩ after stop hstop

/-- A session that always comes to a result does not stop. -/
theorem of_run_ok {result : FileSystem → α} (h : ∀ fs, (session.run fs).1 = .ok (result fs)) :
    StopsIn P session := by
  intro fs stop hstop
  rw [h fs] at hstop
  cases hstop

theorem get : StopsIn P (MonadState.get : Session FileSystem) :=
  of_run_ok fun _ => rfl

theorem pure (a : α) : StopsIn P (Pure.pure a : Session α) :=
  of_run_ok fun _ => rfl

theorem throw {stop : Stop} (h : P stop) : StopsIn P (MonadExcept.throw stop : Session α) := by
  intro fs other hother
  cases hother
  exact h

theorem change {text : String} {action : FileSystem → Except FileError FileSystem}
    (h : ∀ error, P (stopOf text error)) : StopsIn P (Session.change text action) := by
  intro fs stop hstop
  rw [run_change] at hstop
  cases haction : action fs with
  | ok after =>
    rw [haction] at hstop
    cases hstop
  | error error =>
    rw [haction] at hstop
    cases hstop
    exact h error

theorem createDirAll {text : String} {path : Path} (h : ∀ error, P (stopOf text error)) :
    StopsIn P (Session.createDirAll text path) := by
  intro fs stop hstop
  rw [run_createDirAll] at hstop
  cases hcreate : (fs.createDirAll path).1 with
  | ok _ =>
    rw [hcreate] at hstop
    cases hstop
  | error error =>
    rw [hcreate] at hstop
    cases hstop
    exact h error

end StopsIn

end Session

/-! ## Wordings -/

/-- The outermost cause of the stop opens with one of the wordings. -/
def Stop.OpensWith (openings : List String) : Stop → Prop
  | .failed (cause :: _) => ∃ opening ∈ openings, opening.toList <+: cause.text.toList
  | _ => False

/-- Neither of the two lists has a wording that begins with one of the other. -/
def Apart (first second : List String) : Prop :=
  ∀ one ∈ first, ∀ other ∈ second, ¬one.toList <+: other.toList ∧ ¬other.toList <+: one.toList

instance (first second : List String) : Decidable (Apart first second) :=
  inferInstanceAs (Decidable (∀ one ∈ first, ∀ other ∈ second, _))

namespace Stop.OpensWith

variable {openings others : List String} {stop : Stop}

/-- Wordings that are apart tell stops apart. -/
theorem not_of_apart (h : stop.OpensWith openings) (hapart : Apart openings others) :
    ¬stop.OpensWith others := by
  intro hother
  cases stop with
  | broken fault => exact h
  | failed causes =>
    cases causes with
    | nil => exact h
    | cons cause rest =>
      obtain ⟨one, hone, hopens⟩ := h
      obtain ⟨other, hother, hopens'⟩ := hother
      -- Two beginnings of one text are a beginning of each other.
      rcases List.prefix_or_prefix_of_prefix hopens hopens' with hle | hle
      · exact (hapart one hone other hother).1 hle
      · exact (hapart one hone other hother).2 hle

theorem mono (h : stop.OpensWith openings) (hle : openings ⊆ others) : stop.OpensWith others := by
  cases stop with
  | broken fault => exact h
  | failed causes =>
    cases causes with
    | nil => exact h
    | cons cause rest =>
      obtain ⟨opening, hmem, hopens⟩ := h
      exact ⟨opening, hle hmem, hopens⟩

/-- A cause that is worded with an opening and some text after it opens that way. -/
theorem of_append {opening : String} (hmem : opening ∈ openings) (text : String) (detail : Detail)
    (causes : List Cause) :
    (Stop.failed (⟨opening ++ text, detail⟩ :: causes)).OpensWith openings := by
  refine ⟨opening, hmem, ?_⟩
  rw [String.toList_append]
  exact List.prefix_append _ _

end Stop.OpensWith

end TokenAudit
