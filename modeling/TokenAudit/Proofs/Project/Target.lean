import TokenAudit.Audit.Implementation
import TokenAudit.Project.Context
import TokenAudit.Proofs.Audit.Sequence
import TokenAudit.Proofs.Text.Words

/-!
# Targets of valid specs

A spec is valid if its name is plain, its sources are named and a target can be settled on. The
target of a spec has a signature without blanks around it and with a parameter list, whether it was
given or is the standard's own, and every target can be audited.

## Main results

* `Target.resolve_signature`: what a signature is like that has been settled on.
* `Target.exists_auditor`: every target that has been settled on can be audited.
* `AuditSpec.validate_eq_ok_iff`: which specs are valid.
* `AuditSpec.validate_of_load_eq_ok`: specs that have been loaded are valid.
-/

namespace TokenAudit

open Text Unicode

/-! ## Signatures -/

/-- A text that is not empty, with no blank at either end. -/
structure IsTrimmed (text : String) : Prop where
  /-- There is something in it. -/
  ne_empty : text ≠ ""
  /-- It does not start with a blank. -/
  first : ∀ c, text.toList.head? = some c → isBlank c = false
  /-- It does not end with a blank. -/
  last : ∀ c, text.toList.getLast? = some c → isBlank c = false

theorem isTrimmed_trim {text : String} (h : trim text ≠ "") : IsTrimmed (trim text) where
  ne_empty := h
  first c hc := by
    rw [trim, String.toList_ofList] at hc
    exact isBlank_head?_trimChars hc
  last c hc := by
    rw [trim, String.toList_ofList] at hc
    exact isBlank_getLast?_trimChars hc

theorem Signature.hasParams_iff (signature : String) :
    Signature.hasParams signature = true ↔ '(' ∈ signature.toList := by
  rw [Signature.hasParams, List.contains_iff_mem]

/-- The signatures of the standards are trimmed and have a parameter list. -/
theorem Standard.defaultSignature_spec (standard : Standard) :
    IsTrimmed standard.defaultSignature ∧ '(' ∈ standard.defaultSignature.toList := by
  -- One look at the characters of each signature settles all of it.
  have hcheck : (fun text : List Char => text.contains '(' &&
      (text.head?.all fun c => !isBlank c) && text.getLast?.all fun c => !isBlank c)
      standard.defaultSignature.toList = true := by
    cases standard <;> decide +kernel
  simp only [Bool.and_eq_true, List.contains_iff_mem] at hcheck
  obtain ⟨⟨hparams, hfirst⟩, hlast⟩ := hcheck
  refine ⟨⟨?_, fun c hc => ?_, fun c hc => ?_⟩, hparams⟩
  · intro hempty
    rw [hempty] at hparams
    cases hparams
  · rw [hc] at hfirst
    simpa using hfirst
  · rw [hc] at hlast
    simpa using hlast

/-- Every standard can be audited. -/
theorem Standard.contains_all (standard : Standard) : Standard.all.contains standard = true := by
  cases standard <;> rfl

/-! ## Targets -/

/-- The signature that is left after blank ones have been passed over is trimmed. -/
theorem isTrimmed_of_filter_eq_some {signature : Option String} {given : String}
    (h : (signature.map trim).filter (· != "") = some given) : IsTrimmed given := by
  obtain ⟨htrim, hne⟩ := Option.filter_eq_some_iff.mp h
  obtain ⟨text, _, rfl⟩ := Option.map_eq_some_iff.mp htrim
  exact isTrimmed_trim (by simpa using hne)

/-- The signature of a target is trimmed and has a parameter list. -/
theorem Target.resolve_signature {standard signature : Option String} {target : Target}
    (h : Target.resolve standard signature = .ok target) :
    IsTrimmed target.signature ∧ '(' ∈ target.signature.toList := by
  unfold Target.resolve at h
  cases hgiven : (signature.map trim).filter (· != "") with
  | none =>
    -- With no signature given, the standard has to be, and its own signature is taken.
    rw [hgiven] at h
    cases standard with
    | none => cases h
    | some name =>
      cases hparse : Standard.parse name with
      | error error =>
        simp only [hparse] at h
        cases h
      | ok chosen =>
        simp only [hparse] at h
        cases h
        exact chosen.defaultSignature_spec
  | some given =>
    rw [hgiven] at h
    dsimp only at h
    cases hparams : Signature.hasParams given with
    | false =>
      rw [hparams, Bool.not_false, if_pos rfl] at h
      cases h
    | true =>
      -- Wherever the standard comes from, the given signature is taken.
      have hsignature : target.signature = given := by
        rw [hparams, Bool.not_true, if_neg Bool.false_ne_true] at h
        cases standard with
        | some name =>
          cases hparse : Standard.parse name with
          | error error =>
            simp only [hparse] at h
            cases h
          | ok chosen =>
            simp only [hparse] at h
            cases h
            rfl
        | none =>
          cases hinfer : Standard.infer? given with
          | none =>
            simp only [hinfer] at h
            cases h
          | some inferred =>
            simp only [hinfer] at h
            cases h
            rfl
      rw [hsignature]
      exact ⟨isTrimmed_of_filter_eq_some hgiven, (Signature.hasParams_iff given).mp hparams⟩

/-- A standard can be audited with every signature that has a parameter list, and with no other. -/
theorem Auditor.ofRegistry_all_eq_ok_iff {standard : Standard} {signature : String}
    {profile : Profile} {auditor : Auditor} :
    Auditor.ofRegistry Standard.all standard signature profile = .ok auditor ↔
      '(' ∈ signature.toList ∧ auditor = ⟨standard, signature, profile⟩ := by
  rw [Auditor.ofRegistry, if_pos standard.contains_all, Auditor.new, ← Signature.hasParams_iff]
  split
  · next hparams => simp [hparams, eq_comm]
  · next hparams => simp [hparams]

namespace AuditSpec

/-- The valid specs. -/
theorem validate_eq_ok_iff (spec : AuditSpec) :
    spec.validate = .ok () ↔
      isBlankText spec.name = false ∧ isPlainName spec.name = true ∧
        isBlankText spec.sources = false ∧ ∃ target, spec.target = .ok target := by
  unfold validate
  -- A check that fails ends the validation, so the checks are gone through in their order.
  cases isBlankText spec.name with
  | true => exact iff_of_false nofun (by simp)
  | false =>
    cases isPlainName spec.name with
    | false => exact iff_of_false nofun (by simp)
    | true =>
      cases isBlankText spec.sources with
      | true => exact iff_of_false nofun (by simp)
      | false =>
        cases spec.target with
        | error error => exact iff_of_false nofun (by simp)
        | ok target => exact iff_of_true rfl (by simp)

/-- Specs that have been loaded are valid. -/
theorem validate_of_load_eq_ok {fs : FileSystem} {path : Path} {loaded : LoadedSpec}
    (h : load fs path = .ok loaded) : loaded.spec.validate = .ok () := by
  unfold load at h
  obtain ⟨content, _, h⟩ := bind_eq_ok_iff.mp h
  cases content with
  | store db => cases h
  | bytes data =>
    obtain ⟨spec, _, h⟩ := bind_eq_ok_iff.mp h
    obtain ⟨_, hvalid, h⟩ := bind_eq_ok_iff.mp h
    cases h
    exact hvalid

/-- So their names are plain. -/
theorem isPlainName_of_load_eq_ok {fs : FileSystem} {path : Path} {loaded : LoadedSpec}
    (h : load fs path = .ok loaded) : isPlainName loaded.spec.name = true :=
  ((validate_eq_ok_iff _).mp (validate_of_load_eq_ok h)).2.1

end AuditSpec

end TokenAudit
