import TokenAudit.Proofs.Pattern.Spliced
import TokenAudit.Requirement.BatchTransfer.Rules

/-!
# Names stand for themselves in the rules

The rules on the caller and on the zero address compare a parameter with a fixed form. Whatever
characters the parameter's name is made of, a condition meets such a rule exactly if it holds the
name, the sign and the form with nothing but blanks between them, and the name is not so long that
the rule is dropped. The rules can also be written as text, with the names escaped: what such a text
is read as finds the same, and it is dropped for the same names.

## Main definitions

* `BatchTransfer.Compares`: a text holds a comparison.
* `BatchTransfer.writtenSenderRules`, `BatchTransfer.writtenZeroRules`: the rules as text.

## Main results

* `BatchTransfer.smallEnough_bothWays`: comparisons with names of many characters are small enough.
* `BatchTransfer.applyCondition_compares_names`: what the rules find, as sequences and as text.
-/

namespace TokenAudit.BatchTransfer

open Pattern
open Unicode (isBlank)
open Written (Part SmallEnough comparison patternOf written)

/-! ## Comparisons -/

/-- The text holds `left`, `sign` and `right` in this order, with only blanks between them. -/
def Compares (content : List Char) (left sign right : String) : Prop :=
  ∃ gap gap' : List Char, (∀ c ∈ gap, isBlank c = true) ∧ (∀ c ∈ gap', isBlank c = true) ∧
    left.toList ++ gap ++ sign.toList ++ gap' ++ right.toList <:+: content

/-- The parts of a comparison in either order. -/
def bothWays (sign left right : String) : List (List Part) :=
  [comparison left sign right, comparison right sign left]

theorem isMatch_comparison_iff {content : List Char} {left sign right : String} :
    (patternOf (comparison left sign right)).isMatch content = true ↔
      Compares content left sign right := by
  refine Written.isMatch_patternOf_iff.trans ?_
  simp only [comparison, Part.pattern, List.map_cons, List.map_nil, spells_lit_cons,
    spells_blanks_cons, spells_nil]
  constructor
  · rintro ⟨_, ⟨_, rfl, gap, hgap, _, rfl, _, rfl, gap', hgap', _, rfl, _, rfl, rfl⟩, hinfix⟩
    exact ⟨gap, gap', hgap, hgap', by simpa using hinfix⟩
  · rintro ⟨gap, gap', hgap, hgap', hinfix⟩
    exact ⟨_, ⟨_, rfl, gap, hgap, _, rfl, _, rfl, gap', hgap', _, rfl, [], rfl, rfl⟩,
      by simpa using hinfix⟩

theorem anyMatch_compared_iff {content : List Char} {sign left right : String} :
    anyMatch (compared sign left right) content = true ↔
      (Compares content left sign right ∧ SmallEnough (written (comparison left sign right))) ∨
        (Compares content right sign left ∧
          SmallEnough (written (comparison right sign left))) := by
  have hparts : compared sign left right = (bothWays sign left right).map patternOf := rfl
  rw [hparts, anyMatch_iff]
  simp only [bothWays, List.map_cons, List.map_nil, List.mem_cons, List.not_mem_nil, or_false,
    exists_eq_or_imp, exists_eq_left, isMatch_comparison_iff, Written.smallEnough_written_iff]

/-- A comparison that is found is there, in either order. -/
theorem compares_of_anyMatch {content : List Char} {sign left right : String}
    (h : anyMatch (compared sign left right) content = true) :
    Compares content left sign right ∨ Compares content right sign left :=
  (anyMatch_compared_iff.mp h).imp And.left And.left

theorem anyMatch_flatMap_iff {α : Type} {items : List α} {rules : α → List Pattern}
    {content : List Char} :
    anyMatch (items.flatMap rules) content = true ↔
      ∃ item ∈ items, anyMatch (rules item) content = true := by
  rw [anyMatch, List.any_flatMap, List.any_eq_true]
  rfl

/-! ## Rules as text -/

/-- The parts of the rules on the caller. -/
def senderParts (kind : GuardKind) (sender : String) : List (List Part) :=
  callerForms.flatMap fun caller => bothWays (equalSign kind) caller sender

/-- The parts of the rules on the zero address. -/
def zeroParts (kind : GuardKind) (recipient : String) : List (List Part) :=
  [recipient, "recipient"].flatMap fun form =>
    zeroForms.flatMap fun zero => bothWays (unequalSign kind) form zero

/-- The rules on the caller as text. -/
def writtenSenderRules (kind : GuardKind) (sender : String) : List String :=
  (senderParts kind sender).map written

/-- The rules on the zero address as text. -/
def writtenZeroRules (kind : GuardKind) (recipient : String) : List String :=
  (zeroParts kind recipient).map written

example : (writtenSenderRules .require "a.b").take 2 =
    ["msg\\.sender\\s*==\\s*a\\.b", "a\\.b\\s*==\\s*msg\\.sender"] := by decide +kernel

theorem senderRules_eq (kind : GuardKind) (sender : String) :
    senderRules kind sender = (senderParts kind sender).map patternOf :=
  rfl

theorem zeroRules_eq (kind : GuardKind) (recipient : String) :
    zeroRules kind recipient = (zeroParts kind recipient).map patternOf :=
  rfl

/-- Comparisons are small enough unless their sides are very long. -/
theorem smallEnough_bothWays {sign left right : String} {parts : List Part}
    (hlength : Text.byteLength left.toList + Text.byteLength sign.toList +
      Text.byteLength right.toList ≤ 300000)
    (h : parts ∈ bothWays sign left right) : SmallEnough (written parts) := by
  have hweight : ∀ left right : String, (patternOf (comparison left sign right)).weight? =
      some (32 * Text.byteLength left.toList + 70240 + 32 * Text.byteLength sign.toList + 70240 +
        32 * Text.byteLength right.toList) := fun _ _ => rfl
  rw [Written.smallEnough_written_iff]
  rcases List.mem_pair.mp h with rfl | rfl
  · exact fits_of_weight (hweight left right) (by omega)
  · exact fits_of_weight (hweight right left) (by omega)

/-- So the rules on the caller are small enough unless the name is very long. -/
theorem smallEnough_senderRules (kind : GuardKind) {sender : String}
    (hlength : Text.byteLength sender.toList ≤ 200000) :
    ∀ text ∈ writtenSenderRules kind sender, SmallEnough text := by
  intro text htext
  obtain ⟨parts, hparts, rfl⟩ := List.mem_map.mp htext
  obtain ⟨caller, hcaller, hparts⟩ := List.mem_flatMap.mp hparts
  have hforms : ∀ caller ∈ callerForms, Text.byteLength caller.toList ≤ 20 := by decide
  have hsign : Text.byteLength (equalSign kind).toList ≤ 2 := by cases kind <;> decide
  have hcaller := hforms caller hcaller
  exact smallEnough_bothWays (by omega) hparts

/-- So are the rules on the zero address. -/
theorem smallEnough_zeroRules (kind : GuardKind) {recipient : String}
    (hlength : Text.byteLength recipient.toList ≤ 200000) :
    ∀ text ∈ writtenZeroRules kind recipient, SmallEnough text := by
  intro text htext
  obtain ⟨parts, hparts, rfl⟩ := List.mem_map.mp htext
  obtain ⟨form, hform, hparts⟩ := List.mem_flatMap.mp hparts
  obtain ⟨zero, hzero, hparts⟩ := List.mem_flatMap.mp hparts
  have hform : Text.byteLength form.toList ≤ 200000 := by
    rcases List.mem_pair.mp hform with rfl | rfl
    · exact hlength
    · decide
  have hforms : ∀ zero ∈ zeroForms, Text.byteLength zero.toList ≤ 20 := by decide
  have hsign : Text.byteLength (unequalSign kind).toList ≤ 2 := by cases kind <;> decide
  have hzero := hforms zero hzero
  exact smallEnough_bothWays (by omega) hparts

/-! ## Names in conditions -/

/-- What the rules on the caller and on the zero address find about a condition. A name is compared
character by character by every rule that is small enough to be used, and the rules written as text
find the same. -/
theorem applyCondition_compares_names (sender recipient : String)
    (ids amounts data : Option String) (aliases : List String) (profile : Profile)
    (content : List Char) (source : Label) (kind : GuardKind) :
    let equal := if kind = .require then "==" else "!="
    let unequal := if kind = .require then "!=" else "=="
    let report := applyCondition ⟨some sender, some recipient, ids, amounts, data⟩ aliases
      (.start profile) ⟨content, source, kind⟩
    (report.sender = true ↔ ∃ caller ∈ ["msg.sender", "_msgSender()", "sender"],
        (Compares content caller equal sender ∧
            SmallEnough (written (comparison caller equal sender))) ∨
          (Compares content sender equal caller ∧
            SmallEnough (written (comparison sender equal caller)))) ∧
      (report.zeroAddress = true ↔ ∃ form ∈ [recipient, "recipient"],
        ∃ zero ∈ ["address(0)", "address(0x0)"],
          (Compares content form unequal zero ∧
              SmallEnough (written (comparison form unequal zero))) ∨
            (Compares content zero unequal form ∧
              SmallEnough (written (comparison zero unequal form)))) ∧
      report.sender =
        Written.anyMatch (Written.parseAll (writtenSenderRules kind sender)) content ∧
      report.zeroAddress =
        Written.anyMatch (Written.parseAll (writtenZeroRules kind recipient)) content := by
  intro equal unequal report
  have hequal : equal = equalSign kind := by cases kind <;> rfl
  have hunequal : unequal = unequalSign kind := by cases kind <;> rfl
  have hsender : report.sender = anyMatch (senderRules kind sender) content := rfl
  have hzero : report.zeroAddress = anyMatch (zeroRules kind recipient) content := rfl
  rw [hequal, hunequal]
  refine ⟨?_, ?_, ?_, ?_⟩
  · rw [hsender, senderRules, anyMatch_flatMap_iff]
    simp only [anyMatch_compared_iff]
    rfl
  · rw [hzero, zeroRules, anyMatch_flatMap_iff]
    simp only [anyMatch_flatMap_iff, anyMatch_compared_iff]
    rfl
  · rw [hsender, senderRules_eq]
    exact (Written.anyMatch_parseAll_written (senderParts kind sender) content).symm
  · rw [hzero, zeroRules_eq]
    exact (Written.anyMatch_parseAll_written (zeroParts kind recipient) content).symm

/-- Names that would be patterns of their own find themselves, and nothing else. -/
theorem applyCondition_compares_names_starred :
    (∀ text ∈ writtenSenderRules .require "a.*b", SmallEnough text) ∧
      (∀ text ∈ writtenZeroRules .require "(to", SmallEnough text) ∧
      (applyCondition ⟨some "a.*b", some "(to", none, none, none⟩ [] (.start .standard)
        ⟨"msg.sender ==a.*b".toList, .main, .require⟩).sender = true ∧
      Written.anyMatch (Written.parseAll (writtenSenderRules .require "a.*b"))
        "msg.sender == a1b".toList = false ∧
      Written.anyMatch (Written.parseAll (writtenZeroRules .require "(to"))
        "address(0) !=  (to".toList = true := by
  have hsender : ∀ text ∈ writtenSenderRules .require "a.*b", SmallEnough text :=
    smallEnough_senderRules .require (by decide)
  have hzero : ∀ text ∈ writtenZeroRules .require "(to", SmallEnough text :=
    smallEnough_zeroRules .require (by decide)
  have hnames := fun content => applyCondition_compares_names "a.*b" "(to" none none none []
    .standard content .main .require
  refine ⟨hsender, hzero, ?_, ?_, ?_⟩
  · refine (hnames "msg.sender ==a.*b".toList).1.mpr ⟨"msg.sender", by simp, .inl ⟨?_, ?_⟩⟩
    · exact ⟨[' '], [], List.all_eq_true.mp (by decide), List.forall_mem_nil _,
        List.infix_refl _⟩
    · exact hsender _ List.mem_cons_self
  · exact (hnames _).2.2.1.symm.trans (by decide +kernel)
  · exact (hnames _).2.2.2.symm.trans (by decide +kernel)

end TokenAudit.BatchTransfer
