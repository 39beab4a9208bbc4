import Mathlib.Data.Nat.Bitwise
import TokenAudit.Proofs.Requirement.Bitmap

/-!
# The tuples behind a domain description

A report about a domain description gathers what the units with the mandated declaration return. A
finding that an expression is acceptable is only ever added, so the report has it exactly if one of
the tuples, judged alone, has it; different findings may come from different tuples. The bitmap is
noted anew for every tuple.

## Main definitions

* `Domain.Part`: the seven expressions of a tuple.
* `Domain.returnedTuples`: the tuples that are judged.
* `RequiredBits.AnnouncedBy`: a bitmap that has every required bit.

## Main results

* `Domain.gathers_judge`: what one tuple adds to a report.
* `Domain.Part.valid_foldl_step`: what the tuples of any number of units add to a report.
* `Domain.verify_gathers_tuples`: the findings of a report in terms of the tuples.
-/

namespace TokenAudit

/-! ## Required bits -/

namespace RequiredBits

/-- The bitmap has the bit of every required field. -/
def AnnouncedBy (bits : RequiredBits) (value : Nat) : Prop :=
  ∀ i : Nat, bits.toList[i]? = some true → value.testBit i = true

/-- The binary digits of a number that is given by them. -/
theorem testBit_maskOf (digits : List Bool) (i : Nat) :
    (maskOf digits).testBit i = digits[i]?.getD false := by
  induction digits generalizing i with
  | nil => simp [maskOf]
  | cons bit rest ih =>
    cases i with
    | zero => cases bit <;> simp [maskOf]
    | succ i =>
      -- The digits after the first are those of half the number.
      have hhalf : maskOf (bit :: rest) / 2 = maskOf rest := by
        cases bit <;> simp only [maskOf, Bool.false_eq_true, if_false, if_true] <;> omega
      rw [Nat.testBit_succ, hhalf, ih]
      rfl

/-- A bitmap has every required bit exactly if masking it with the required bits gives these. -/
theorem announcedBy_iff {bits : RequiredBits} {value : Nat} :
    bits.AnnouncedBy value ↔ value &&& bits.mask = bits.mask := by
  constructor
  · intro h
    refine Nat.eq_of_testBit_eq fun i => ?_
    rw [Nat.testBit_and, mask, testBit_maskOf]
    cases hbit : bits.toList[i]? with
    | none => simp
    | some bit => cases bit <;> simp [h i, hbit]
  · intro h i hbit
    -- The equation of the masks, at the bit.
    have hmasked := congrArg (·.testBit i) h
    simp only [Nat.testBit_and, mask, testBit_maskOf, hbit, Option.getD_some, Bool.and_true]
      at hmasked
    exact hmasked

end RequiredBits

namespace Domain

open RequiredBits (announcedBy_iff)

/-! ## The findings about one tuple -/

/-- The expressions of a tuple, in their order. -/
inductive Part
  | fields | name | version | chainId | verifyingContract | salt | extensions
  deriving DecidableEq

namespace Part

/-- Whether a report finds the expression acceptable. -/
def valid : Part → DomainReport → Bool
  | fields, r => r.fields.valid
  | name, r => r.name.valid
  | version, r => r.version.valid
  | chainId, r => r.chainId.valid
  | verifyingContract, r => r.verifyingContract.valid
  | salt, r => r.salt.valid
  | extensions, r => r.extensions.valid

/-- A description is acceptable if all its parts are. -/
theorem allValid_iff (r : DomainReport) : r.allValid = true ↔ ∀ part : Part, part.valid r = true := by
  simp only [DomainReport.allValid, Bool.and_eq_true]
  constructor
  · rintro ⟨⟨⟨⟨⟨⟨hfields, hname⟩, hversion⟩, hchain⟩, hcontract⟩, hsalt⟩, hextensions⟩ part
    cases part <;> assumption
  · intro h
    exact ⟨⟨⟨⟨⟨⟨h fields, h name⟩, h version⟩, h chainId⟩, h verifyingContract⟩, h salt⟩,
      h extensions⟩

theorem valid_fields (r : DomainReport) : Part.fields.valid r = r.fields.valid := rfl

@[simp]
theorem valid_start (part : Part) : part.valid .start = false := by
  cases part <;> rfl

end Part

/-- A change of reports that keeps every finding about a part, and adds the findings that it makes on
a fresh report. -/
structure Gathers (change : DomainReport → DomainReport) : Prop where
  /-- What is required stays, and so does what was found about the declaration. -/
  kept : ∀ r, (change r).fields.required = r.fields.required ∧
    (change r).functionExists = r.functionExists ∧ (change r).correctFields = r.correctFields
  /-- A part is acceptable if it was so before or is found to be so from nothing. -/
  valid : ∀ (part : Part) (r : DomainReport), r.fields.required = .standard →
    part.valid (change r) = (part.valid r || part.valid (change .start))

/-- Two changes in a row gather what each of them gathers. -/
theorem Gathers.comp {change next : DomainReport → DomainReport} (hchange : Gathers change)
    (hnext : Gathers next) : Gathers fun r => next (change r) where
  kept r := by
    obtain ⟨hrequired, hfunction, hcorrect⟩ := hchange.kept r
    rw [← hrequired, ← hfunction, ← hcorrect]
    exact hnext.kept (change r)
  valid part r hr := by
    -- The second change meets the standard bits both after `r` and after the fresh report.
    have hkept : (change r).fields.required = .standard := (hchange.kept r).1.trans hr
    have hfresh : (change .start).fields.required = .standard := (hchange.kept _).1
    rw [hnext.valid part _ hkept, hchange.valid part r hr, hnext.valid part _ hfresh, Bool.or_assoc]

theorem gathers_judgeFields (expression : String) : Gathers (judgeFields expression) := by
  constructor
  · intro r
    unfold judgeFields
    cases fieldsValue? expression with
    | none => exact ⟨rfl, rfl, rfl⟩
    | some value =>
      dsimp only
      split <;> exact ⟨rfl, rfl, rfl⟩
  · intro part r hr
    unfold judgeFields
    cases fieldsValue? expression with
    | none => simp
    | some value =>
      -- Both reports require the same bits, so the bitmap is found complete in both or in none.
      have hstart : DomainReport.start.fields.required = .standard := rfl
      simp only [hr, hstart]
      split <;> cases part <;> simp [Part.valid, DomainReport.start]

theorem gathers_judgeName (expression : String) : Gathers (judgeName expression) := by
  unfold judgeName
  constructor
  · intro r
    split <;> exact ⟨rfl, rfl, rfl⟩
  · intro part r _
    split <;> cases part <;> simp [Part.valid, DomainReport.start]

theorem gathers_judgeVersion (expression : String) : Gathers (judgeVersion expression) := by
  unfold judgeVersion
  constructor
  · intro r
    split <;> exact ⟨rfl, rfl, rfl⟩
  · intro part r _
    split <;> cases part <;> simp [Part.valid, DomainReport.start]

theorem gathers_judgeChainId (expression : String) : Gathers (judgeChainId expression) := by
  unfold judgeChainId
  constructor
  · intro r
    split <;> exact ⟨rfl, rfl, rfl⟩
  · intro part r _
    split <;> cases part <;> simp [Part.valid, DomainReport.start]

theorem gathers_judgeContract (units : List CodeUnit) (expression : String) :
    Gathers (judgeContract units expression) := by
  unfold judgeContract
  constructor
  · intro r
    split <;> exact ⟨rfl, rfl, rfl⟩
  · intro part r _
    split <;> cases part <;> simp [Part.valid, DomainReport.start]

theorem gathers_judgeSalt (expression : String) : Gathers (judgeSalt expression) := by
  unfold judgeSalt
  dsimp only
  constructor
  · intro r
    split <;> exact ⟨rfl, rfl, rfl⟩
  · intro part r _
    split <;> cases part <;> simp [Part.valid, DomainReport.start]

theorem gathers_judgeExtensions (expression : String) : Gathers (judgeExtensions expression) := by
  unfold judgeExtensions
  constructor
  · intro r
    split <;> exact ⟨rfl, rfl, rfl⟩
  · intro part r _
    split <;> cases part <;> simp [Part.valid, DomainReport.start]

/-- Judging a tuple adds what the tuple shows by itself. -/
theorem gathers_judge (units : List CodeUnit) (tuple : Tuple) :
    Gathers fun r => judge units r tuple :=
  (gathers_judgeFields _).comp <| (gathers_judgeName _).comp <| (gathers_judgeVersion _).comp <|
    (gathers_judgeChainId _).comp <| (gathers_judgeContract units _).comp <|
    (gathers_judgeSalt _).comp (gathers_judgeExtensions _)

/-! ## The findings about all tuples -/

/-- The unit has the mandated declaration and returns the tuple. -/
def Returns (unit : CodeUnit) (tuple : Tuple) : Prop :=
  signature.isMatch unit.code = true ∧ Tuple.read? (Text.condenseChars unit.code) = some tuple

/-- The tuple that a unit with the mandated declaration returns. -/
def returned? (unit : CodeUnit) : Option Tuple :=
  if signature.isMatch unit.code then Tuple.read? (Text.condenseChars unit.code) else none

theorem returned?_eq_some_iff {unit : CodeUnit} {tuple : Tuple} :
    returned? unit = some tuple ↔ Returns unit tuple := by
  unfold returned? Returns
  split <;> simp_all

/-- The tuples that the units return, unit by unit. -/
def returnedTuples (units : List CodeUnit) : List Tuple :=
  units.filterMap returned?

theorem mem_returnedTuples {units : List CodeUnit} {tuple : Tuple} :
    tuple ∈ returnedTuples units ↔ ∃ unit ∈ units, Returns unit tuple := by
  simp only [returnedTuples, List.mem_filterMap, returned?_eq_some_iff]

/-- A tuple is among those returned together with a unit that returns it. -/
theorem exists_mem_returnedTuples {units : List CodeUnit} {p : Tuple → Prop} :
    (∃ tuple ∈ returnedTuples units, p tuple) ↔
      ∃ unit ∈ units, ∃ tuple, Returns unit tuple ∧ p tuple := by
  constructor
  · rintro ⟨tuple, hmem, hp⟩
    obtain ⟨unit, hunit, hreturns⟩ := mem_returnedTuples.mp hmem
    exact ⟨unit, hunit, tuple, hreturns, hp⟩
  · rintro ⟨unit, hunit, tuple, hreturns, hp⟩
    exact ⟨tuple, mem_returnedTuples.mpr ⟨unit, hunit, hreturns⟩, hp⟩

/-- A step over a unit judges the tuple that the unit returns, if there is one. -/
theorem step_eq (units : List CodeUnit) (r : DomainReport) (unit : CodeUnit) :
    step units r unit = (returned? unit).elim
      { r with functionExists := r.functionExists || signature.isMatch unit.code }
      (judge units { r with functionExists := true }) := by
  unfold step returned?
  by_cases hdeclared : signature.isMatch unit.code = true
  · rw [if_pos hdeclared, if_pos hdeclared, hdeclared, Bool.or_true]
    cases Tuple.read? (Text.condenseChars unit.code) <;> rfl
  · rw [if_neg hdeclared, if_neg hdeclared, Bool.eq_false_iff.mpr hdeclared, Bool.or_false]
    rfl

/-- A step adds what the tuple of its unit shows by itself. -/
theorem Part.valid_step (part : Part) (units : List CodeUnit) {r : DomainReport}
    (hr : r.fields.required = .standard) (unit : CodeUnit) :
    part.valid (step units r unit) = (part.valid r ||
      (returned? unit).any fun tuple => part.valid (judge units .start tuple)) := by
  have hsame (b : Bool) : part.valid { r with functionExists := b } = part.valid r := by
    cases part <;> rfl
  rw [step_eq]
  cases returned? unit with
  | none => exact (hsame _).trans (Bool.or_false _).symm
  | some tuple =>
    have hjudged := (gathers_judge units tuple).valid part { r with functionExists := true } hr
    rw [hsame] at hjudged
    exact hjudged

/-- A step keeps what is required and notes whether the unit has the declaration. -/
theorem step_kept (units : List CodeUnit) (r : DomainReport) (unit : CodeUnit) :
    (step units r unit).fields.required = r.fields.required ∧
      (step units r unit).functionExists = (r.functionExists || signature.isMatch unit.code) ∧
      (step units r unit).correctFields = r.correctFields := by
  rw [step_eq]
  cases hreturned : returned? unit with
  | none => exact ⟨rfl, rfl, rfl⟩
  | some tuple =>
    obtain ⟨hrequired, hfunction, hcorrect⟩ :=
      (gathers_judge units tuple).kept { r with functionExists := true }
    have hdeclared := (returned?_eq_some_iff.mp hreturned).1
    rw [hdeclared, Bool.or_true]
    exact ⟨hrequired, hfunction, hcorrect⟩

/-- The bitmap of a report is replaced by the one that is read, if one is. -/
theorem value_judgeFields (expression : String) (r : DomainReport) :
    (judgeFields expression r).fields.value = (fieldsValue? expression).or r.fields.value := by
  unfold judgeFields
  cases fieldsValue? expression with
  | none => rfl
  | some value =>
    dsimp only
    split <;> rfl

/-- The bitmap that a unit returns, if it is written as a literal. -/
def returnedBitmap? (unit : CodeUnit) : Option Nat :=
  (returned? unit).bind fun tuple => fieldsValue? tuple.fields

theorem value_step (units : List CodeUnit) (r : DomainReport) (unit : CodeUnit) :
    (step units r unit).fields.value = (returnedBitmap? unit).or r.fields.value := by
  rw [step_eq, returnedBitmap?]
  cases returned? unit with
  | none => rfl
  | some tuple => rw [Option.elim_some, fields_judge, value_judgeFields, Option.bind_some]

/-- Steps over any number of units keep what is required and note whether one of them has the
declaration. -/
theorem foldl_step_kept (units : List CodeUnit) (r : DomainReport) (rest : List CodeUnit) :
    (rest.foldl (step units) r).fields.required = r.fields.required ∧
      (rest.foldl (step units) r).functionExists =
        (r.functionExists || rest.any (signature.isMatch ·.code)) ∧
      (rest.foldl (step units) r).correctFields = r.correctFields := by
  induction rest generalizing r with
  | nil => exact ⟨rfl, (Bool.or_false _).symm, rfl⟩
  | cons unit rest ih =>
    obtain ⟨hrequired, hfunction, hcorrect⟩ := step_kept units r unit
    obtain ⟨hrequired', hfunction', hcorrect'⟩ := ih (step units r unit)
    refine ⟨hrequired'.trans hrequired, ?_, hcorrect'.trans hcorrect⟩
    rw [List.foldl_cons, hfunction', hfunction, List.any_cons, Bool.or_assoc]

/-- The bitmap after any number of units is the last that one of them returns. -/
theorem value_foldl_step (units : List CodeUnit) (r : DomainReport) (rest : List CodeUnit) :
    (rest.foldl (step units) r).fields.value =
      (rest.filterMap returnedBitmap?).getLast?.or r.fields.value := by
  induction rest generalizing r with
  | nil => rfl
  | cons unit rest ih =>
    rw [List.foldl_cons, ih, value_step, List.filterMap_cons]
    cases returnedBitmap? unit with
    | none => rfl
    | some value =>
      -- The bitmap stays only if no later unit returns one.
      rw [List.getLast?_cons]
      cases (rest.filterMap returnedBitmap?).getLast? <;> rfl

/-- A part is acceptable after any number of units if it was so before or one of the tuples shows it
by itself. -/
theorem Part.valid_foldl_step (part : Part) (units : List CodeUnit) {r : DomainReport}
    (hr : r.fields.required = .standard) (rest : List CodeUnit) :
    part.valid (rest.foldl (step units) r) = (part.valid r ||
      (returnedTuples rest).any fun tuple => part.valid (judge units .start tuple)) := by
  induction rest generalizing r with
  | nil => exact (Bool.or_false _).symm
  | cons unit rest ih =>
    have hkept : (step units r unit).fields.required = .standard :=
      (step_kept units r unit).1.trans hr
    rw [List.foldl_cons, ih hkept, part.valid_step units hr, Bool.or_assoc]
    simp only [returnedTuples, List.filterMap_cons]
    cases returned? unit <;> rfl

/-! ## The report -/

/-- The report keeps the findings of the units about the parts, and the bitmap. -/
theorem verify_kept (subject : Subject) :
    (verify subject).fields = (subject.units.foldl (step subject.units) .start).fields ∧
      ∀ part : Part,
        part.valid (verify subject) = part.valid (subject.units.foldl (step subject.units) .start) := by
  unfold verify conclude
  dsimp only
  constructor
  · split <;> rfl
  · intro part
    split <;> cases part <;> rfl

/-- A part is acceptable in the report exactly if a tuple shows it by itself. -/
theorem Part.valid_verify_iff (part : Part) (subject : Subject) :
    part.valid (verify subject) = true ↔
      ∃ tuple ∈ returnedTuples subject.units, part.valid (judge subject.units .start tuple) = true := by
  rw [(verify_kept subject).2, part.valid_foldl_step subject.units rfl, Part.valid_start, Bool.false_or,
    List.any_eq_true]

/-- The bitmap that is reported is the last that is returned. -/
theorem value_verify (subject : Subject) :
    (verify subject).fields.value = (subject.units.filterMap returnedBitmap?).getLast? := by
  rw [(verify_kept subject).1, value_foldl_step]
  exact Option.or_none

/-- The description is found correct exactly if the declaration is there and all parts are
acceptable. -/
theorem correctFields_verify (subject : Subject) :
    (verify subject).correctFields =
      (subject.units.any (signature.isMatch ·.code) && (verify subject).allValid) := by
  obtain ⟨-, hfunction, hcorrect⟩ := foldl_step_kept subject.units .start subject.units
  rw [show DomainReport.start.functionExists = false from rfl, Bool.false_or] at hfunction
  rw [← hfunction]
  -- Without the declaration the finding is left as it was at the start, which is `false`.
  unfold verify conclude
  dsimp only
  split
  · next hdeclared =>
    have hdeclared : (subject.units.foldl (step subject.units) .start).functionExists = true :=
      hdeclared
    rw [hdeclared, Bool.true_and]
    rfl
  · next hmissing =>
    have hmissing : (subject.units.foldl (step subject.units) .start).functionExists = false :=
      Bool.eq_false_iff.mpr hmissing
    rw [hmissing, Bool.false_and]
    exact hcorrect

/-- A tuple shows a complete bitmap by itself exactly if it writes one as a literal. -/
theorem valid_fields_judge_iff (units : List CodeUnit) (tuple : Tuple) :
    Part.fields.valid (judge units .start tuple) = true ↔
      ∃ value, fieldsValue? tuple.fields = some value ∧ RequiredBits.standard.AnnouncedBy value := by
  change (judge units .start tuple).fields.valid = true ↔ _
  rw [fields_judge]
  unfold judgeFields
  cases fieldsValue? tuple.fields with
  | none => simp [DomainReport.start]
  | some value =>
    dsimp only
    split
    · next hbits => exact iff_of_true rfl ⟨value, rfl, announcedBy_iff.mpr (beq_iff_eq.mp hbits)⟩
    · next hbits =>
      refine iff_of_false (by simp [DomainReport.start]) ?_
      rintro ⟨_, ⟨⟩, hannounced⟩
      exact hbits (beq_iff_eq.mpr (announcedBy_iff.mp hannounced))

/-- The description is found correct exactly if each part is acceptable in some tuple. -/
theorem correctFields_verify_iff (subject : Subject) :
    (verify subject).correctFields = true ↔
      ∀ part : Part, ∃ tuple ∈ returnedTuples subject.units,
        part.valid (judge subject.units .start tuple) = true := by
  rw [correctFields_verify, Bool.and_eq_true, Part.allValid_iff]
  simp only [Part.valid_verify_iff]
  -- A unit that returns a tuple has the declaration.
  refine and_iff_right_of_imp fun hparts => ?_
  obtain ⟨tuple, hmem, -⟩ := hparts .fields
  obtain ⟨unit, hunit, hdeclared, -⟩ := mem_returnedTuples.mp hmem
  exact List.any_eq_true.mpr ⟨unit, hunit, hdeclared⟩

theorem required_verify (subject : Subject) : (verify subject).fields.required = .standard := by
  rw [(verify_kept subject).1, (foldl_step_kept subject.units .start subject.units).1]
  rfl

/-- The bitmap is found complete exactly if some tuple writes a complete one. -/
theorem fields_valid_verify_iff (subject : Subject) :
    (verify subject).fields.valid = true ↔
      ∃ tuple ∈ returnedTuples subject.units, ∃ value, fieldsValue? tuple.fields = some value ∧
        (verify subject).fields.required.AnnouncedBy value := by
  rw [required_verify]
  simp only [← valid_fields_judge_iff subject.units]
  exact Part.fields.valid_verify_iff subject

/-- If some tuple writes a bitmap, one that some tuple writes is reported. -/
theorem exists_value_verify {subject : Subject} {tuple : Tuple}
    (hmem : tuple ∈ returnedTuples subject.units) {value : Nat}
    (hvalue : fieldsValue? tuple.fields = some value) :
    ∃ value, (verify subject).fields.value = some value ∧
      ∃ tuple ∈ returnedTuples subject.units, fieldsValue? tuple.fields = some value := by
  obtain ⟨unit, hunit, hreturns⟩ := mem_returnedTuples.mp hmem
  have hbitmap : value ∈ subject.units.filterMap returnedBitmap? := by
    refine List.mem_filterMap.mpr ⟨unit, hunit, ?_⟩
    rw [returnedBitmap?, returned?_eq_some_iff.mpr hreturns, Option.bind_some, hvalue]
  have hne := List.ne_nil_of_mem hbitmap
  -- The last bitmap that is returned comes from a unit as well.
  have hlast := List.getLast_mem hne
  obtain ⟨last, hlastUnit, hlastValue⟩ := List.mem_filterMap.mp hlast
  obtain ⟨lastTuple, hlastReturned, hlastBitmap⟩ := Option.bind_eq_some_iff.mp hlastValue
  refine ⟨_, ?_, lastTuple, ?_, hlastBitmap⟩
  · rw [value_verify, List.getLast?_eq_some_getLast hne]
  · exact mem_returnedTuples.mpr ⟨last, hlastUnit, returned?_eq_some_iff.mp hlastReturned⟩

/-- The findings about a domain description in terms of the tuples that are returned. All parts are
found acceptable exactly if each of them is in some tuple, judged alone, not necessarily the same
for all. The bitmap is found complete exactly if some tuple writes a complete one, and then a bitmap
is reported that some tuple writes. Where no two different tuples are returned, one unit stands behind
all findings: its tuple, judged alone, is acceptable in all parts, and the bitmap that is reported
has every required bit. -/
theorem verify_gathers_tuples (subject : Subject) :
    ((verify subject).correctFields = true ↔
      ∀ part : Part, ∃ unit ∈ subject.units, ∃ tuple, Returns unit tuple ∧
        part.valid (judge subject.units .start tuple) = true) ∧
    ((verify subject).fields.valid = true ↔
      ∃ unit ∈ subject.units, ∃ tuple, Returns unit tuple ∧
        ∃ value, fieldsValue? tuple.fields = some value ∧
          (verify subject).fields.required.AnnouncedBy value) ∧
    ((verify subject).fields.valid = true →
      ∃ value, (verify subject).fields.value = some value ∧
        ∃ unit ∈ subject.units, ∃ tuple, Returns unit tuple ∧
          fieldsValue? tuple.fields = some value) ∧
    ((∀ first ∈ returnedTuples subject.units, ∀ second ∈ returnedTuples subject.units,
        first = second) →
      ((verify subject).correctFields = true →
        ∃ unit ∈ subject.units, ∃ tuple, Returns unit tuple ∧
          (judge subject.units .start tuple).allValid = true) ∧
      ((verify subject).fields.valid = true →
        ∃ value, (verify subject).fields.value = some value ∧
          (verify subject).fields.required.AnnouncedBy value)) := by
  simp only [← exists_mem_returnedTuples]
  refine ⟨correctFields_verify_iff subject, fields_valid_verify_iff subject, fun hvalid => ?_,
    fun hsame => ⟨fun hcorrect => ?_, fun hvalid => ?_⟩⟩
  · obtain ⟨tuple, hmem, value, hvalue, -⟩ := (fields_valid_verify_iff subject).mp hvalid
    exact exists_value_verify hmem hvalue
  · -- The tuple behind the bitmap is the tuple behind every other part.
    have hparts := (correctFields_verify_iff subject).mp hcorrect
    obtain ⟨tuple, hmem, -⟩ := hparts .fields
    refine ⟨tuple, hmem, (Part.allValid_iff _).mpr fun part => ?_⟩
    obtain ⟨other, hother, hpart⟩ := hparts part
    rwa [hsame tuple hmem other hother]
  · -- The tuple whose bitmap is reported is the one whose bitmap is complete.
    obtain ⟨tuple, hmem, value, hvalue, hannounced⟩ :=
      (fields_valid_verify_iff subject).mp hvalid
    obtain ⟨reported, hreported, other, hother, hread⟩ := exists_value_verify hmem hvalue
    rw [hsame other hother tuple hmem, hvalue, Option.some.injEq] at hread
    exact ⟨reported, hreported, hread ▸ hannounced⟩

/-! ## One description and two of them -/

/-- The text of a domain description with the given statements. -/
def describing (statements : List String) : List Char :=
  (["function eip712Domain()", " public view returns", " (bytes1 a, string b,", " string c, uint256 d,",
    " address e, bytes32 f,", " uint256[] g) \x7b "] ++ statements ++ [" \x7d"]).flatMap String.toList

/-- The function with this text. -/
def describingFunction (text : List Char) : Function :=
  ⟨"eip712Domain", "", "", 0, 0, String.ofList text, true, .empty⟩

/-- A description that is acceptable in all parts. -/
def soundText : List Char :=
  describing ["return (hex\"0f\", \"T\",", " \"1\", block.chainid,", " address(this),",
    " bytes32(0), []);"]

/-- The tuple of `soundText`. -/
def soundTuple : Tuple :=
  ⟨"hex\"0f\"", "\"T\"", "\"1\"", "block.chainid", "address(this)", "bytes32(0)", "[]"⟩

/-- The description alone. -/
def oneDomain : Subject :=
  ⟨describingFunction soundText, [], "", .standard⟩

/-- One unit stands behind the findings about the description. -/
theorem verify_gathers_tuples_one :
    returnedTuples oneDomain.units = [soundTuple] ∧ (verify oneDomain).correctFields = true ∧
      (∃ unit ∈ oneDomain.units, ∃ tuple, Returns unit tuple ∧
        (judge oneDomain.units .start tuple).allValid = true) ∧
      ∃ value, (verify oneDomain).fields.value = some value ∧
        (verify oneDomain).fields.required.AnnouncedBy value := by
  have hunits : oneDomain.units = [⟨soundText, .main⟩] := by
    simp [Subject.units, oneDomain, describingFunction, CodeUnit.main]
  have hreturned : returned? ⟨soundText, .main⟩ = some soundTuple := by decide +kernel
  have htuples : returnedTuples oneDomain.units = [soundTuple] := by
    rw [hunits, returnedTuples, List.filterMap_cons_some hreturned, List.filterMap_nil]
  have hmem : soundTuple ∈ returnedTuples oneDomain.units := htuples ▸ List.mem_singleton_self _
  have hparts : ∀ part : Part, part.valid (judge oneDomain.units .start soundTuple) = true := by
    refine (Part.allValid_iff _).mp ?_
    rw [hunits]
    decide +kernel
  obtain ⟨hcorrect, -, -, hsingle⟩ := verify_gathers_tuples oneDomain
  have hfound : (verify oneDomain).correctFields = true :=
    hcorrect.mpr fun part => exists_mem_returnedTuples.mp ⟨soundTuple, hmem, hparts part⟩
  have hbitmap := (Part.fields.valid_verify_iff oneDomain).mpr ⟨soundTuple, hmem, hparts .fields⟩
  rw [Part.valid_fields] at hbitmap
  obtain ⟨hunit, hvalue⟩ := hsingle (by
    rw [htuples]
    intro first hfirst second hsecond
    rw [List.mem_singleton.mp hfirst, List.mem_singleton.mp hsecond])
  exact ⟨htuples, hfound, hunit hfound, hvalue hbitmap⟩

/-- A description with a complete bitmap, but without an acceptable name. -/
def unnamedText : List Char :=
  describing ["eip712Domain();", " return (hex\"0f\", b,", " \"1\", block.chainid,",
    " address(this),", " bytes32(0), []);"]

/-- A description with an acceptable name, but with an incomplete bitmap. -/
def incompleteText : List Char :=
  describing ["return (hex\"03\", \"T\",", " \"1\", block.chainid,", " address(this),",
    " bytes32(0), []);"]

/-- The two descriptions, of which the first calls the second. -/
def twoDomains : Subject :=
  ⟨describingFunction unnamedText, [describingFunction incompleteText], "", .standard⟩

/-- Of two descriptions neither is acceptable in all parts, and yet their report finds all parts
acceptable: the bitmap of the first and the name of the second. The bitmap that is reported is the
one of the second, which is not complete. -/
theorem verify_mixes_tuples :
    (verify twoDomains).correctFields = true ∧
      (¬∃ unit ∈ twoDomains.units, ∃ tuple, Returns unit tuple ∧
        (judge twoDomains.units .start tuple).allValid = true) ∧
      (verify twoDomains).fields.valid = true ∧
      ¬∃ value, (verify twoDomains).fields.value = some value ∧
        (verify twoDomains).fields.required.AnnouncedBy value := by
  have hunits : twoDomains.units =
      [⟨unnamedText, .main⟩, ⟨incompleteText, .internal "eip712Domain"⟩] := by
    have hne : String.ofList incompleteText ≠ String.ofList unnamedText := by
      intro h
      have htexts := congrArg String.toList h
      rw [String.toList_ofList, String.toList_ofList] at htexts
      exact absurd htexts (by decide +kernel)
    simp [Subject.units, twoDomains, describingFunction, CodeUnit.main, CodeUnit.internal, hne]
  have hunnamed : returned? ⟨unnamedText, .main⟩ = some { soundTuple with name := "b" } := by
    decide +kernel
  have hincomplete : returned? ⟨incompleteText, .internal "eip712Domain"⟩ =
      some { soundTuple with fields := "hex\"03\"" } := by decide +kernel
  have htuples : returnedTuples twoDomains.units =
      [{ soundTuple with name := "b" }, { soundTuple with fields := "hex\"03\"" }] := by
    rw [hunits, returnedTuples, List.filterMap_cons_some hunnamed,
      List.filterMap_cons_some hincomplete, List.filterMap_nil]
  -- Each tuple fails in one part, in which the other does not.
  have hfirst : ∀ part ≠ Part.name,
      part.valid (judge twoDomains.units .start { soundTuple with name := "b" }) = true := by
    rw [hunits]
    intro part hpart
    cases part <;> first | exact absurd rfl hpart | decide +kernel
  have hsecond : Part.name.valid
      (judge twoDomains.units .start { soundTuple with fields := "hex\"03\"" }) = true := by
    rw [hunits]
    decide +kernel
  have hneither : ∀ tuple ∈ returnedTuples twoDomains.units,
      (judge twoDomains.units .start tuple).allValid = false := by
    rw [htuples, hunits]
    decide +kernel
  have hbitmap : Part.fields.valid (verify twoDomains) = true :=
    (Part.fields.valid_verify_iff twoDomains).mpr
      ⟨_, htuples ▸ List.mem_cons_self, hfirst .fields (by decide)⟩
  rw [Part.valid_fields] at hbitmap
  refine ⟨(correctFields_verify_iff twoDomains).mpr fun part => ?_, ?_, hbitmap, ?_⟩
  · rw [htuples]
    by_cases hname : part = .name
    · exact hname ▸ ⟨_, List.mem_cons_of_mem _ List.mem_cons_self, hsecond⟩
    · exact ⟨_, List.mem_cons_self, hfirst part hname⟩
  · rw [← exists_mem_returnedTuples]
    rintro ⟨tuple, hmem, hvalid⟩
    rw [hneither tuple hmem] at hvalid
    cases hvalid
  · have hread : returnedBitmap? ⟨unnamedText, .main⟩ = some 0x0f := by
      rw [returnedBitmap?, hunnamed]
      decide +kernel
    have hread' : returnedBitmap? ⟨incompleteText, .internal "eip712Domain"⟩ = some 0x03 := by
      rw [returnedBitmap?, hincomplete]
      decide +kernel
    rw [value_verify, required_verify, hunits, List.filterMap_cons_some hread,
      List.filterMap_cons_some hread', List.filterMap_nil]
    rintro ⟨value, ⟨⟩, hannounced⟩
    exact absurd (announcedBy_iff.mp hannounced) (by decide)

end Domain

end TokenAudit
