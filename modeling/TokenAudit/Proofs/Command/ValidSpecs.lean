import TokenAudit.Proofs.Command.Stages

/-!
# Runs with valid specs

A spec is looked at by five checks: its own validation, the choice of the target, the list of
standards that can be audited, the auditor's look at the signature, and the look at the name before
the output directory is prepared. A spec that passes the first passes all of them, so a run with a
spec that was loaded never stops at its target or its name.

## Main definitions

* `Stop.BlamesTarget`: the stops that are about a target or about the name of an audit.

## Main results

* `ProjectContext.not_blamesTarget_of_prepareOutput`: plain names are not refused.
* `Command.not_blamesTarget_of_runAudit`: no run stops at its target or its name.
* `AuditSpec.valid_spec_passes_checks`: valid specs pass the other checks.
-/

namespace TokenAudit

/-- The stop is about a target that cannot be audited, or about a name that cannot be used. -/
inductive Stop.BlamesTarget : Stop → Prop
  | standard (error : StandardError) : BlamesTarget (.failed [⟨error.message, .complete⟩])
  | unknownStandard (name : String) :
    BlamesTarget (.failed (AuditError.unknownStandard name).causes)
  | invalidSignature (signature : String) :
    BlamesTarget (.failed (AuditError.invalidSignature signature).causes)
  | refusedName (audit : String) : BlamesTarget (.failed
      [⟨"Refusing to use audit name '" ++ audit ++ "' as an output directory", .complete⟩])

/-- How such stops open. -/
def blameOpenings : List String :=
  ["Unknown standard '", "Cannot infer a standard from signature '", "Invalid target signature '",
    "Either a standard or a target signature is required", "Unknown profile '",
    "No verifier registered for standard '", "Refusing to use audit name '"]

theorem StandardError.exists_opening (error : StandardError) :
    ∃ opening ∈ blameOpenings, ∃ rest, error.message = opening ++ rest := by
  unfold StandardError.message
  cases error with
  | unknown name =>
    simp only [String.append_assoc]
    exact ⟨_, by simp [blameOpenings], _, rfl⟩
  | cannotInfer signature =>
    simp only [String.append_assoc]
    exact ⟨_, by simp [blameOpenings], _, rfl⟩
  | invalidSignature signature =>
    simp only [String.append_assoc]
    exact ⟨_, by simp [blameOpenings], _, rfl⟩
  | missingTarget => exact ⟨_, by simp [blameOpenings], _, String.append_empty.symm⟩
  | unknownProfile name =>
    simp only [String.append_assoc]
    exact ⟨_, by simp [blameOpenings], _, rfl⟩

namespace Stop.BlamesTarget

theorem opensWith {stop : Stop} (h : stop.BlamesTarget) : stop.OpensWith blameOpenings := by
  -- The other wordings are an opening, the text that it quotes, and a rest.
  have hquote {opening : String} (hmem : opening ∈ blameOpenings) (quoted rest : String) :
      (Stop.failed [⟨opening ++ quoted ++ rest, .complete⟩]).OpensWith blameOpenings := by
    rw [String.append_assoc]
    exact .of_append hmem _ _ _
  cases h with
  | standard error =>
    obtain ⟨opening, hmem, rest, hmessage⟩ := error.exists_opening
    rw [hmessage]
    exact .of_append hmem _ _ _
  | unknownStandard name => exact hquote (by simp [blameOpenings]) _ _
  | invalidSignature signature => exact hquote (by simp [blameOpenings]) _ _
  | refusedName audit => exact hquote (by simp [blameOpenings]) _ _

theorem not_of_opensWith {stop : Stop} {openings : List String} (h : stop.OpensWith openings)
    (hapart : Apart openings blameOpenings) : ¬stop.BlamesTarget :=
  fun hblames => h.not_of_apart hapart hblames.opensWith

/-- A refusal is about something else. -/
theorem not_of_refusal (refusal : RunRefusal) : ¬(Stop.failed refusal.causes).BlamesTarget :=
  not_of_opensWith refusal.opensWith (by decide +kernel)

/-- So is a stop at work. -/
theorem not_of_atWork {stop : Stop} (h : stop.AtWork) : ¬stop.BlamesTarget := by
  rcases h with ⟨fault, rfl⟩ | hopens
  · exact nofun
  · exact not_of_opensWith hopens (by decide +kernel)

end Stop.BlamesTarget

/-- An output directory with a plain name may be there already, or fail to be prepared, but the name
is not refused. -/
theorem ProjectContext.not_blamesTarget_of_prepareOutput (project : ProjectContext) {audit : String}
    (hplain : isPlainName audit = true) (force : Bool) (fs : FileSystem) {stop : Stop}
    (hstop : ((project.prepareOutput audit force).run fs).1 = .error stop) :
    ¬stop.BlamesTarget := by
  by_cases hfree : fs.pathExists (project.layout.runOutput audit) = true → force = true
  · exact Stop.BlamesTarget.not_of_atWork
      (.inr (project.opensWith_of_prepareOutput fs hplain hfree hstop))
  · rw [Classical.not_imp, Bool.not_eq_true] at hfree
    obtain ⟨hexists, rfl⟩ := hfree
    rw [project.run_prepareOutput_of_exists fs hplain hexists] at hstop
    cases hstop
    exact Stop.BlamesTarget.not_of_refusal _

/-- No run stops at its target or its name. -/
theorem Command.not_blamesTarget_of_runAudit {root file : String} {force : Bool} {times : RunTimes}
    {fs : FileSystem} {stop : Stop}
    (hstop : ((Command.runAudit root file force times).run fs).1 = .error stop) :
    ¬stop.BlamesTarget := by
  rcases Command.refused_or_atWork hstop with ⟨refusal, after, hrefused⟩ | hwork
  · rw [Command.run_runAudit_of_refused hrefused] at hstop
    cases hstop
    exact Stop.BlamesTarget.not_of_refusal refusal
  · exact Stop.BlamesTarget.not_of_atWork hwork

namespace AuditSpec

/-- A valid spec, whatever its fields hold, has a plain name that is not blank, and no output
directory is refused for it. It has a target, whose signature is not empty, has no blanks around it
and has a parameter list, and an auditor for this standard and this signature. A spec that has been
loaded is valid, so no run stops at the target or the name of its spec. -/
theorem valid_spec_passes_checks :
    (∀ spec : AuditSpec, spec.validate = .ok () →
      (∃ c ∈ spec.name.toList, Unicode.isBlank c = false) ∧ isPlainName spec.name = true ∧
      (∀ (project : ProjectContext) (force : Bool) (fs : FileSystem) (stop : Stop),
        ((project.prepareOutput spec.name force).run fs).1 = .error stop → ¬stop.BlamesTarget) ∧
      ∃ target, spec.target = .ok target ∧ IsTrimmed target.signature ∧
        '(' ∈ target.signature.toList ∧
        ∀ profile, ∃ auditor,
          Auditor.ofRegistry Standard.all target.standard target.signature profile = .ok auditor ∧
          auditor.standard = target.standard ∧ auditor.signature = target.signature) ∧
    (∀ (fs : FileSystem) (path : Path) (loaded : LoadedSpec),
      load fs path = .ok loaded → loaded.spec.validate = .ok ()) ∧
    ∀ (root file : String) (force : Bool) (times : RunTimes) (fs : FileSystem) (stop : Stop),
      ((Command.runAudit root file force times).run fs).1 = .error stop → ¬stop.BlamesTarget := by
  refine ⟨fun spec hvalid => ?_, fun fs path loaded hload => validate_of_load_eq_ok hload,
    fun root file force times fs stop hstop => Command.not_blamesTarget_of_runAudit hstop⟩
  obtain ⟨hname, hplain, _, target, htarget⟩ := spec.validate_eq_ok_iff.mp hvalid
  obtain ⟨htrimmed, hparams⟩ := Target.resolve_signature htarget
  refine ⟨?_, hplain, fun project force fs stop hstop =>
    project.not_blamesTarget_of_prepareOutput hplain force fs hstop,
    target, htarget, htrimmed, hparams, fun profile => ?_⟩
  · simpa [Text.isBlankText] using hname
  · exact ⟨_, Auditor.ofRegistry_all_eq_ok_iff.mpr ⟨hparams, rfl⟩, rfl, rfl⟩

/-- A spec with blanks around its standard and its signature. -/
def paddedSpec : AuditSpec where
  name := "nightly"
  sources := "src"
  standard := some " ERC2612-Permit\n"
  signature := some "\t permit(address owner) "
  profile := none
  parallel := none
  description := none

theorem valid_spec_passes_checks_padded :
    paddedSpec.validate = .ok () ∧
      ∃ target, paddedSpec.target = .ok target ∧ IsTrimmed target.signature ∧
        '(' ∈ target.signature.toList := by
  have hvalid : paddedSpec.validate = .ok () := by decide +kernel
  obtain ⟨_, _, _, target, htarget, htrimmed, hparams, _⟩ := valid_spec_passes_checks.1 _ hvalid
  exact ⟨hvalid, target, htarget, htrimmed, hparams⟩

end AuditSpec

end TokenAudit
