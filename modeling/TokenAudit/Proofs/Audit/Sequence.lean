import Mathlib.Data.List.Forall2

/-!
# Computations in a row

A list of computations that may break off breaks off if and only if one of them does. Otherwise it
gives one value for each, in order. What is done with a value does not matter for breaking off.
-/

namespace TokenAudit

variable {α β ε : Type}

/-- A computation breaks off exactly if it does before its value is used. -/
theorem map_eq_error_iff {g : α → β} {x : Except ε α} :
    (∃ fault, x.map g = .error fault) ↔ ∃ fault, x = .error fault := by
  cases x with
  | error fault => exact ⟨fun _ => ⟨fault, rfl⟩, fun _ => ⟨fault, rfl⟩⟩
  | ok value => constructor <;> rintro ⟨fault, h⟩ <;> cases h

/-- Two computations give a value exactly if the first gives one and the second goes on from it. -/
theorem bind_eq_ok_iff {x : Except ε α} {next : α → Except ε β} {b : β} :
    x >>= next = .ok b ↔ ∃ a, x = .ok a ∧ next a = .ok b := by
  cases x with
  | error fault => exact iff_of_false nofun (by rintro ⟨_, h, _⟩; cases h)
  | ok a => exact ⟨fun h => ⟨a, rfl, h⟩, fun ⟨_, ha, h⟩ => Except.ok.inj ha ▸ h⟩

/-- A computation that keeps a state when it breaks off goes on where its first part ended. -/
theorem run_bind_state {σ : Type} (first : ExceptT ε (StateM σ) α)
    (next : α → ExceptT ε (StateM σ) β) (state : σ) :
    (first >>= next).run state =
      match first.run state with
      | (.ok a, after) => (next a).run after
      | (.error error, after) => (.error error, after) := by
  change (StateT.bind first.run (ExceptT.bindCont next)) state = _
  simp only [StateT.bind, bind]
  rcases first.run state with ⟨_ | _, after⟩
  · rfl
  · rfl

/-- A row of computations gives values exactly if each computation gives the value at its place. -/
theorem mapM_eq_ok_iff {f : α → Except ε β} {inputs : List α} {values : List β} :
    inputs.mapM f = .ok values ↔ List.Forall₂ (fun a b => f a = .ok b) inputs values := by
  induction inputs generalizing values with
  | nil =>
    rw [List.mapM_nil, List.forall₂_nil_left_iff]
    exact ⟨fun h => (Except.ok.inj h).symm, fun h => by rw [h]; rfl⟩
  | cons a rest ih =>
    rw [List.mapM_cons, List.forall₂_cons_left_iff]
    constructor
    · intro h
      cases ha : f a with
      | error e => rw [ha] at h; cases h
      | ok b =>
        cases hrest : rest.mapM f with
        | error e => rw [ha, hrest] at h; cases h
        | ok later =>
          rw [ha, hrest] at h
          exact ⟨b, later, rfl, ih.mp hrest, (Except.ok.inj h).symm⟩
    · rintro ⟨b, later, ha, hrest, rfl⟩
      rw [ha, ih.mpr hrest]
      rfl

/-- A row of computations breaks off exactly if one of them does. -/
theorem mapM_eq_error_iff {f : α → Except ε β} {inputs : List α} :
    (∃ fault, inputs.mapM f = .error fault) ↔ ∃ a ∈ inputs, ∃ fault, f a = .error fault := by
  induction inputs with
  | nil =>
    constructor
    · rintro ⟨fault, h⟩
      cases h
    · rintro ⟨a, ha, _⟩
      exact absurd ha List.not_mem_nil
  | cons a rest ih =>
    rw [List.mapM_cons, List.exists_mem_cons_iff, ← ih]
    cases ha : f a with
    | error e => exact ⟨fun _ => .inl ⟨e, rfl⟩, fun _ => ⟨e, rfl⟩⟩
    | ok b =>
      cases hrest : rest.mapM f with
      | error e => exact ⟨fun _ => .inr ⟨e, rfl⟩, fun _ => ⟨e, rfl⟩⟩
      | ok later =>
        constructor
        · rintro ⟨fault, h⟩
          cases h
        · rintro (⟨fault, h⟩ | ⟨fault, h⟩) <;> cases h

/-- A row of computations that each give a value gives all the values. -/
theorem mapM_eq_some_map {f : α → Option β} {g : α → β} {inputs : List α}
    (h : ∀ a ∈ inputs, f a = some (g a)) : inputs.mapM f = some (inputs.map g) := by
  induction inputs with
  | nil => rfl
  | cons a rest ih =>
    rw [List.mapM_cons, h a List.mem_cons_self, ih fun b hb => h b (List.mem_cons_of_mem a hb)]
    rfl

end TokenAudit
