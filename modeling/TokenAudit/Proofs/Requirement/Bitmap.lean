import TokenAudit.Proofs.Pattern.Groups
import TokenAudit.Requirement.Domain.Verify

/-!
# The bitmap of a domain description

A bitmap is read from one or two hexadecimal digits, so it is a byte. Every step of the check keeps
that the report holds no greater one, whatever the code units are.

## Main results

* `Domain.fieldsValue?_lt`: a bitmap that is read from an expression is a byte.
* `Domain.hasByteBitmap_verify`: so is the one that is reported.
-/

namespace TokenAudit.Domain

open Pattern Text

/-! ## Reading a byte -/

/-- At most two hexadecimal digits. -/
def IsByteText (chars : List Char) : Prop :=
  chars.length ≤ 2 ∧ ∀ c ∈ chars, CharSet.hexDigit.contains c = true

theorem toNat_lt_of_hexDigit {c : Char} (h : CharSet.hexDigit.contains c = true) :
    c.toNat < 128 := by
  have hc : c.toNat = c.val.toNat := rfl
  simp [CharSet.hexDigit, CharSet.contains, Char.le_def, UInt32.le_iff_toNat_le] at h
  omega

theorem digitValue_lt {c : Char} (h : CharSet.hexDigit.contains c = true) : digitValue c < 16 := by
  have hall : ∀ n < 128, CharSet.hexDigit.contains (Char.ofNat n) = true →
      digitValue (Char.ofNat n) < 16 := by decide
  have hc := hall c.toNat (toNat_lt_of_hexDigit h)
  rw [Char.ofNat_toNat] at hc
  exact hc h

/-- Two digits write a byte. -/
theorem hexValue_lt {digits : String} (h : IsByteText digits.toList) : hexValue digits < 256 := by
  obtain ⟨hlength, hdigits⟩ := h
  unfold hexValue
  generalize digits.toList = chars at hlength hdigits
  match chars with
  | [] => decide
  | [a] =>
    have ha := digitValue_lt (hdigits a List.mem_cons_self)
    simp only [List.foldl_cons, List.foldl_nil]
    omega
  | [a, b] =>
    have ha := digitValue_lt (hdigits a List.mem_cons_self)
    have hb := digitValue_lt (hdigits b (List.mem_cons_of_mem a List.mem_cons_self))
    simp only [List.foldl_cons, List.foldl_nil]
    omega
  | _ :: _ :: _ :: _ =>
    simp only [List.length_cons] at hlength
    omega

theorem exists_of_mem_ends_one {set : CharSet} {cursor last : Cursor}
    (h : last ∈ (one set).ends cursor) :
    ∃ c rest, cursor.rest = c :: rest ∧ set.contains c = true ∧ last = cursor.step c rest := by
  rw [ends] at h
  split at h
  · exact absurd h List.not_mem_nil
  · next c rest hrest =>
    split at h
    · next hc => exact ⟨c, rest, hrest, hc, List.mem_singleton.mp h⟩
    · exact absurd h List.not_mem_nil

/-- The digits of a byte are remembered as such. -/
theorem remembers_byteDigits : byteDigits.Remembers IsByteText := by
  refine ⟨⟨trivial, trivial, trivial⟩, fun cursor last hlast => ?_⟩
  obtain ⟨middle, hmiddle, hend⟩ := List.mem_flatMap.mp (Cursor.mem_of_mem_distinct hlast)
  obtain ⟨a, rest, hrest, ha, rfl⟩ := exists_of_mem_ends_one hmiddle
  -- A second digit follows, or the group ends after the first.
  rcases List.mem_append.mp (Cursor.mem_of_mem_distinct hend) with hsecond | hnone
  · obtain ⟨b, after, hafter, hb, rfl⟩ := exists_of_mem_ends_one hsecond
    have hab : cursor.rest = [a, b] ++ after := by
      rw [hrest]
      exact congrArg (a :: ·) hafter
    have hpart : cursor.between ((cursor.step a rest).step b after) = [a, b] := by
      refine Cursor.between_eq hab ?_
      rw [byteLength_cons, byteLength_cons, byteLength_nil]
      exact Nat.add_assoc _ _ _
    rw [hpart]
    exact ⟨Nat.le_refl 2, List.forall_mem_cons.mpr ⟨ha, List.forall_mem_singleton.mpr hb⟩⟩
  · have hpart : cursor.between last = [a] := by
      rw [List.mem_singleton.mp hnone]
      refine Cursor.between_eq (hrest.trans rfl) ?_
      rw [byteLength_cons, byteLength_nil]
      rfl
    rw [hpart]
    exact ⟨Nat.le_succ 1, List.forall_mem_singleton.mpr ha⟩

theorem remembers_hexString : hexString.Remembers IsByteText :=
  ⟨⟨⟨⟨trivial, trivial⟩, remembers_byteDigits⟩, trivial⟩, trivial⟩

theorem remembers_byteConversion : byteConversion.Remembers IsByteText :=
  ⟨⟨⟨⟨⟨⟨⟨trivial, trivial⟩, trivial⟩, trivial⟩, remembers_byteDigits⟩, trivial⟩, trivial⟩, trivial⟩

/-- A bitmap that is read from an expression is a byte. -/
theorem fieldsValue?_lt {expression : String} {value : Nat}
    (h : fieldsValue? expression = some value) : value < 256 := by
  obtain ⟨digits, hdigits, rfl⟩ := Option.map_eq_some_iff.mp h
  refine hexValue_lt ?_
  rcases Option.or_eq_some_iff.mp hdigits with hread | ⟨_, hread⟩
  · obtain ⟨found, hfound, hgroup⟩ := Option.bind_eq_some_iff.mp hread
    exact of_group?_eq_some remembers_hexString hfound hgroup
  · obtain ⟨found, hfound, hgroup⟩ := Option.bind_eq_some_iff.mp hread
    exact of_group?_eq_some remembers_byteConversion hfound hgroup

/-! ## The reported bitmap -/

/-- The reported bitmap, if there is one, is a byte. -/
def HasByteBitmap (report : DomainReport) : Prop :=
  ∀ value ∈ report.fields.value, value < 256

theorem HasByteBitmap.judgeFields {report : DomainReport} (h : HasByteBitmap report)
    (expression : String) : HasByteBitmap (judgeFields expression report) := by
  unfold Domain.judgeFields
  split
  · exact h
  · next value hvalue =>
    have hbyte : ∀ bitmap ∈ some value, bitmap < 256 := by
      rintro bitmap ⟨⟩
      exact fieldsValue?_lt hvalue
    dsimp only
    split <;> exact hbyte

theorem fields_judgeName (expression : String) (report : DomainReport) :
    (judgeName expression report).fields = report.fields := by
  unfold judgeName
  split <;> rfl

theorem fields_judgeVersion (expression : String) (report : DomainReport) :
    (judgeVersion expression report).fields = report.fields := by
  unfold judgeVersion
  split <;> rfl

theorem fields_judgeChainId (expression : String) (report : DomainReport) :
    (judgeChainId expression report).fields = report.fields := by
  unfold judgeChainId
  split <;> rfl

theorem fields_judgeContract (units : List CodeUnit) (expression : String)
    (report : DomainReport) :
    (judgeContract units expression report).fields = report.fields := by
  unfold judgeContract
  split <;> rfl

theorem fields_judgeSalt (expression : String) (report : DomainReport) :
    (judgeSalt expression report).fields = report.fields := by
  unfold judgeSalt
  dsimp only
  split <;> rfl

theorem fields_judgeExtensions (expression : String) (report : DomainReport) :
    (judgeExtensions expression report).fields = report.fields := by
  unfold judgeExtensions
  split <;> rfl

/-- Of the judgements on a tuple only the first touches the bitmap. -/
theorem fields_judge (units : List CodeUnit) (report : DomainReport) (tuple : Tuple) :
    (judge units report tuple).fields = (judgeFields tuple.fields report).fields := by
  rw [judge, fields_judgeExtensions, fields_judgeSalt, fields_judgeContract, fields_judgeChainId,
    fields_judgeVersion, fields_judgeName]

theorem HasByteBitmap.step {report : DomainReport} (h : HasByteBitmap report)
    (units : List CodeUnit) (unit : CodeUnit) : HasByteBitmap (step units report unit) := by
  unfold Domain.step
  split
  · dsimp only
    split
    · next tuple _ =>
      have hfound : HasByteBitmap { report with functionExists := true } := h
      rw [HasByteBitmap, fields_judge]
      exact hfound.judgeFields tuple.fields
    · exact h
  · exact h

end TokenAudit.Domain
