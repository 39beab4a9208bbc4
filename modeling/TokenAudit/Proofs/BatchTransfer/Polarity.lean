import TokenAudit.Proofs.BatchTransfer.LiteralNames
import TokenAudit.Proofs.Pattern.Spacing

/-!
# Guards of a batch transfer that state the opposite

A `require` that the caller is somebody else, that the caller has no approval or that the recipient
is the zero address protects nobody, and neither does an `if` before a `revert` that states what a
`require` should. The rules know which sign a guard must use, so comparisons of the wrong sign prove
nothing, with one exception: names are looked for without regard to what stands around them, so a
recipient whose name ends in `sender` is taken for the caller, and the start of `address` for a
sender of that name. An approval is found behind a negation too.

## Main definitions

* `BatchTransfer.Statement`: what a guard can state.
* `BatchTransfer.Statement.opposite`: the tokens of a guard that states the opposite.

## Main results

* `BatchTransfer.opposite_guard_proves`: what such a guard is taken to prove.
-/

namespace TokenAudit.BatchTransfer

open Pattern
open Unicode (isBlank foldCase foldCode foldRuns)
open Written (Part SmallEnough Spaced comparison letters patternOf unspaced written)

/-! ## Statements -/

/-- A form in which the caller is written. -/
abbrev Caller : Type :=
  {form : String // form ∈ callerForms}

/-- What a guard can state. -/
inductive Statement
  /-- The caller is the sender. -/
  | callerFirst (caller : Caller)
  /-- The sender is the caller. -/
  | senderFirst (caller : Caller)
  /-- The sender has approved the caller. -/
  | approval (caller : Caller)
  /-- The recipient is not the zero address. -/
  | recipientFirst
  /-- The zero address is not the recipient. -/
  | zeroFirst

/-- The sign by which a guard of the given shape lets only different things pass. -/
def differs : GuardKind → String
  | .require => "!="
  | .ifRevert => "=="

/-- The sign by which a guard of the given shape lets only equal things pass. -/
def agrees : GuardKind → String
  | .require => "=="
  | .ifRevert => "!="

/-- What stands before an approval if a guard of the given shape lets only others pass. -/
def refusal : GuardKind → List String
  | .require => ["!"]
  | .ifRevert => []

/-- The tokens of a guard that states the opposite. -/
def Statement.opposite (kind : GuardKind) (sender recipient : String) : Statement → List String
  | callerFirst caller => [caller, differs kind, sender]
  | senderFirst caller => [sender, differs kind, caller]
  | approval caller => refusal kind ++ ["isApprovedForAll", "(", sender, ",", caller, ")"]
  | recipientFirst => [recipient, agrees kind, "address", "(", "0", ")"]
  | zeroFirst => ["address", "(", "0", ")", agrees kind, recipient]

/-! ## Signs -/

/-- The signs of comparisons. -/
def signs : List String :=
  ["==", "!="]

/-- No character of the text belongs to a sign. -/
def SignFree (text : List Char) : Prop :=
  '=' ∉ text ∧ '!' ∉ text

instance (text : List Char) : Decidable (SignFree text) :=
  inferInstanceAs (Decidable ('=' ∉ text ∧ '!' ∉ text))

theorem signFree_of_isIdentifier {name : String} (h : IsIdentifier name) : SignFree name.toList :=
  ⟨h.notMem (by decide) (by decide), h.notMem (by decide) (by decide)⟩

section Sign

variable {sign : String} {front back : List Char}

/-- A comparison is found in one with the same sign only around that sign. -/
theorem suffix_prefix_of_sign (hsign : sign ∈ signs) (hfront : SignFree front)
    (hback : SignFree back) {left right : List Char}
    (h : left ++ (sign.toList ++ right) <:+: front ++ (sign.toList ++ back)) :
    left <:+ front ∧ right <+: back := by
  rcases List.mem_pair.mp hsign with rfl | rfl
  · exact Text.suffix_prefix_of_infix ['='] hfront.1 hback.1 h
  · exact Text.suffix_prefix_of_infix ['='] hfront.2 hback.2 h

/-- A sign is not found in a comparison with the other one. -/
theorem not_infix_of_sign_ne (hsign : sign ∈ signs) {other : String} (hother : other ∈ signs)
    (hne : sign ≠ other) (hfront : SignFree front) (hback : SignFree back) :
    ¬sign.toList <:+: front ++ (other.toList ++ back) := by
  intro h
  -- One sign has two equals marks and the other an exclamation mark, so counting tells them apart.
  have hequals := h.count_le '='
  have hmarks := h.count_le '!'
  simp only [List.count_append, List.count_eq_zero_of_not_mem hfront.1,
    List.count_eq_zero_of_not_mem hback.1] at hequals
  simp only [List.count_append, List.count_eq_zero_of_not_mem hfront.2,
    List.count_eq_zero_of_not_mem hback.2] at hmarks
  rcases List.mem_pair.mp hsign with rfl | rfl <;> rcases List.mem_pair.mp hother with rfl | rfl
  · exact hne rfl
  · simp at hequals
  · simp at hmarks
  · exact hne rfl

/-- A piece without signs stands on one side of a comparison. -/
theorem infix_of_sign (hsign : sign ∈ signs) {piece : List Char} (hpiece : SignFree piece)
    (h : piece <:+: front ++ (sign.toList ++ back)) : piece <:+: front ∨ piece <:+: back := by
  have hequals : piece <:+: [] ++ '=' :: back → piece <:+: front ∨ piece <:+: back := by
    intro h
    rcases (Text.infix_append_cons_iff hpiece.1).mp h with h | h
    · exact .inl (h.trans List.nil_infix)
    · exact .inr h
  rcases List.mem_pair.mp hsign with rfl | rfl
  · exact ((Text.infix_append_cons_iff hpiece.1).mp h).elim .inl hequals
  · exact ((Text.infix_append_cons_iff hpiece.2).mp h).elim .inl hequals

end Sign

theorem differs_eq (kind : GuardKind) : differs kind = unequalSign kind := by
  cases kind <;> rfl

theorem agrees_eq (kind : GuardKind) : agrees kind = equalSign kind := by
  cases kind <;> rfl

theorem mem_signs (kind : GuardKind) :
    differs kind ∈ signs ∧ agrees kind ∈ signs ∧ differs kind ≠ agrees kind := by
  cases kind <;> decide

/-! ## Tokens of opposite statements -/

/-- The forms of the caller have no blanks, no signs, and none of the marks of an approval. -/
theorem caller_marks (caller : Caller) : BlankFree caller ∧ SignFree caller.1.toList ∧
    ',' ∉ caller.1.toList ∧ '[' ∉ caller.1.toList := by
  have hforms : ∀ form ∈ callerForms, BlankFree form ∧ SignFree form.toList ∧
      ',' ∉ form.toList ∧ '[' ∉ form.toList := by
    decide
  exact hforms caller.1 caller.2

section Opposite

variable {kind : GuardKind} {sender recipient : String} {statement : Statement}
  {content : List Char}

theorem blankFree_opposite (hs : BlankFree sender) (hr : BlankFree recipient) :
    ∀ token ∈ statement.opposite kind sender recipient, BlankFree token := by
  have hcaller := fun caller => (caller_marks caller).1
  cases kind <;> cases statement <;>
    simp only [Statement.opposite, refusal, differs, agrees, List.cons_append, List.nil_append,
      List.forall_mem_cons, hs, hr, hcaller, true_and] <;>
    decide

theorem unspaced_opposite (hs : IsIdentifier sender) (hr : IsIdentifier recipient)
    (h : Spaced (statement.opposite kind sender recipient) content) :
    unspaced content = (statement.opposite kind sender recipient).flatMap String.toList :=
  h.unspaced_eq (blankFree_opposite hs.blankFree hr.blankFree)

/-- An approval has no sign. -/
theorem equals_notMem_approval (hs : IsIdentifier sender) (caller : Caller) :
    '=' ∉ ((Statement.approval caller).opposite kind sender recipient).flatMap String.toList := by
  have hsender := (signFree_of_isIdentifier hs).1
  have hcaller := (caller_marks caller).2.1.1
  cases kind <;> simp [Statement.opposite, refusal, hsender, hcaller]

/-- The sign of equal things is found only in opposite statements about the recipient. -/
theorem recipient_of_agrees (hs : IsIdentifier sender) (hr : IsIdentifier recipient)
    (h : Spaced (statement.opposite kind sender recipient) content)
    (hsign : (agrees kind).toList <:+: unspaced content) :
    statement = .recipientFirst ∨ statement = .zeroFirst := by
  obtain ⟨hdiffers, hagrees, hne⟩ := mem_signs kind
  have hsender := signFree_of_isIdentifier hs
  rw [unspaced_opposite hs hr h] at hsign
  cases statement with
  | callerFirst caller =>
    have hcaller := (caller_marks caller).2.1
    exact absurd (by simpa [Statement.opposite] using hsign)
      (not_infix_of_sign_ne hagrees hdiffers hne.symm hcaller hsender)
  | senderFirst caller =>
    have hcaller := (caller_marks caller).2.1
    exact absurd (by simpa [Statement.opposite] using hsign)
      (not_infix_of_sign_ne hagrees hdiffers hne.symm hsender hcaller)
  | approval caller =>
    have hequals : '=' ∈ (agrees kind).toList := by cases kind <;> decide
    exact absurd (hsign.subset hequals) (equals_notMem_approval hs caller)
  | recipientFirst => exact .inl rfl
  | zeroFirst => exact .inr rfl

/-- The sign of different things is found only in opposite statements about the caller. -/
theorem caller_of_differs (hs : IsIdentifier sender) (hr : IsIdentifier recipient)
    (h : Spaced (statement.opposite kind sender recipient) content)
    (hsign : (differs kind).toList <:+: unspaced content) :
    ∃ caller, statement = .callerFirst caller ∨ statement = .senderFirst caller := by
  obtain ⟨hdiffers, hagrees, hne⟩ := mem_signs kind
  have hrecipient := signFree_of_isIdentifier hr
  have hzero : SignFree "address(0)".toList := by decide
  rw [unspaced_opposite hs hr h] at hsign
  cases statement with
  | callerFirst caller => exact ⟨caller, .inl rfl⟩
  | senderFirst caller => exact ⟨caller, .inr rfl⟩
  | approval caller =>
    have hequals : '=' ∈ (differs kind).toList := by cases kind <;> decide
    exact absurd (hsign.subset hequals) (equals_notMem_approval hs caller)
  | recipientFirst =>
    exact absurd (by simpa [Statement.opposite] using hsign)
      (not_infix_of_sign_ne hdiffers hagrees hne hrecipient hzero)
  | zeroFirst =>
    exact absurd (by simpa [Statement.opposite] using hsign)
      (not_infix_of_sign_ne hdiffers hagrees hne hzero hrecipient)

/-- What a comparison leaves without blanks. -/
theorem infix_of_compares {left sign right : String} (hleft : BlankFree left)
    (hsign : sign ∈ signs) (hright : BlankFree right) (h : Compares content left sign right) :
    left.toList ++ (sign.toList ++ right.toList) <:+: unspaced content := by
  have hfree : ∀ sign ∈ signs, BlankFree sign := by decide
  exact Written.infix_of_isMatch_comparison hleft (hfree sign hsign) hright
    (isMatch_comparison_iff.mpr h)

theorem sign_infix_of_compares {left sign right : String} (hleft : BlankFree left)
    (hsign : sign ∈ signs) (hright : BlankFree right) (h : Compares content left sign right) :
    sign.toList <:+: unspaced content :=
  List.IsInfix.trans ⟨left.toList, right.toList, by simp⟩
    (infix_of_compares hleft hsign hright h)

/-- A comparison is found in another with the same sign only around that sign. -/
theorem suffix_prefix_of_compares {front back : List Char} {sign : String} (hsign : sign ∈ signs)
    (hcontent : unspaced content = front ++ (sign.toList ++ back)) (hfront : SignFree front)
    (hback : SignFree back) {left right : String} (hleft : BlankFree left)
    (hright : BlankFree right) (h : Compares content left sign right) :
    left.toList <:+ front ∧ right.toList <+: back := by
  have hinfix := infix_of_compares hleft hsign hright h
  rw [hcontent] at hinfix
  exact suffix_prefix_of_sign hsign hfront hback hinfix

/-! ## The caller -/

/-- A name that starts a call starts what stands before the parenthesis. -/
theorem prefix_of_prefix_call {name front back : List Char} (hname : '(' ∉ name)
    (h : name <+: front ++ '(' :: back) : name <+: front := by
  have hcall : front ++ ['('] <+: front ++ '(' :: back := ⟨back, by simp⟩
  rcases List.prefix_or_prefix_of_prefix h hcall with hshort | hlong
  · rcases List.prefix_concat_iff.mp hshort with rfl | hfront
    · simp at hname
    · exact hfront
  · exact absurd (hlong.subset (by simp)) hname

/-- The only form of the caller that can be part of a name. -/
theorem caller_of_suffix {name caller : String} (hname : IsIdentifier name)
    (hcaller : caller ∈ callerForms) (h : caller.toList <:+ name.toList) : caller = "sender" := by
  have hforms : ∀ form ∈ callerForms,
      form = "sender" ∨ '.' ∈ form.toList ∨ '(' ∈ form.toList := by
    decide
  rcases hforms caller hcaller with rfl | hdot | hparen
  · rfl
  · exact absurd (h.subset hdot) (hname.notMem (by decide) (by decide))
  · exact absurd (h.subset hparen) (hname.notMem (by decide) (by decide))

/-- The caller and the sender are found compared in one opposite statement only: the end of the
recipient's name is taken for the caller, and the start of `address` for the sender. -/
theorem recipientFirst_of_compares (hs : IsIdentifier sender) (hr : IsIdentifier recipient)
    (h : Spaced (statement.opposite kind sender recipient) content) {caller : String}
    (hcaller : caller ∈ callerForms)
    (hcompares : Compares content caller (agrees kind) sender ∨
      Compares content sender (agrees kind) caller) :
    statement = .recipientFirst ∧ "sender".toList <:+ recipient.toList ∧
      sender.toList <+: "address".toList := by
  have hagrees := (mem_signs kind).2.1
  have hfree := (caller_marks ⟨caller, hcaller⟩).1
  have hrecipient := signFree_of_isIdentifier hr
  have hzero : SignFree "address(0)".toList := by decide
  have hforms : ∀ form ∈ callerForms, ¬form.toList <+: "address(0)".toList ∧
      ¬form.toList <:+ "address(0)".toList := by
    decide
  have hletters := unspaced_opposite hs hr h
  have hsign : (agrees kind).toList <:+: unspaced content :=
    hcompares.elim (sign_infix_of_compares hfree hagrees hs.blankFree)
      (sign_infix_of_compares hs.blankFree hagrees hfree)
  rcases recipient_of_agrees hs hr h hsign with rfl | rfl
  · have hcontent : unspaced content =
        recipient.toList ++ ((agrees kind).toList ++ "address(0)".toList) := by
      simpa [Statement.opposite] using hletters
    rcases hcompares with hcompares | hcompares
    · obtain ⟨hend, hstart⟩ := suffix_prefix_of_compares hagrees hcontent hrecipient hzero hfree
        hs.blankFree hcompares
      obtain rfl := caller_of_suffix hr hcaller hend
      have hparen : '(' ∉ sender.toList := hs.notMem (by decide) (by decide)
      exact ⟨rfl, hend, prefix_of_prefix_call hparen hstart⟩
    · obtain ⟨-, hstart⟩ := suffix_prefix_of_compares hagrees hcontent hrecipient hzero
        hs.blankFree hfree hcompares
      exact absurd hstart (hforms caller hcaller).1
  · have hcontent : unspaced content =
        "address(0)".toList ++ ((agrees kind).toList ++ recipient.toList) := by
      simpa [Statement.opposite] using hletters
    rcases hcompares with hcompares | hcompares
    · obtain ⟨hend, -⟩ := suffix_prefix_of_compares hagrees hcontent hzero hrecipient hfree
        hs.blankFree hcompares
      exact absurd hend (hforms caller hcaller).2
    · -- The zero address ends in a parenthesis, and no name does.
      obtain ⟨hend, -⟩ := suffix_prefix_of_compares hagrees hcontent hzero hrecipient
        hs.blankFree hfree hcompares
      have hlast : sender.toList <:+ "address(0".toList ++ [')'] := hend
      have hparen : ')' ∉ sender.toList := hs.notMem (by decide) (by decide)
      rcases List.suffix_concat_iff.mp hlast with hnil | ⟨front, hname, -⟩
      · exact absurd hnil hs.ne_nil
      · simp [hname] at hparen

/-- A rule with a start of `address` for the sender's name is not dropped: the name is short. -/
theorem smallEnough_of_start (kind : GuardKind) (h : sender.toList <+: "address".toList) :
    SmallEnough (written (comparison "sender" (agrees kind) sender)) := by
  obtain ⟨back, haddress⟩ := h
  have hlength := congrArg Text.byteLength haddress
  have hword : Text.byteLength "address".toList = 7 := by decide
  have hform : Text.byteLength "sender".toList = 6 := by decide
  have hsign : Text.byteLength (agrees kind).toList = 2 := by cases kind <;> decide
  rw [Text.byteLength_append] at hlength
  exact smallEnough_bothWays (by omega) List.mem_cons_self

/-- Which opposite statements meet the rules on the caller. -/
theorem anyMatch_senderRules_iff (hs : IsIdentifier sender) (hr : IsIdentifier recipient)
    (h : Spaced (statement.opposite kind sender recipient) content) :
    anyMatch (senderRules kind sender) content = true ↔ statement = .recipientFirst ∧
      "sender".toList <:+ recipient.toList ∧ sender.toList <+: "address".toList := by
  rw [senderRules, anyMatch_flatMap_iff, ← agrees_eq]
  constructor
  · rintro ⟨caller, hcaller, hmatch⟩
    exact recipientFirst_of_compares hs hr h hcaller (compares_of_anyMatch hmatch)
  · rintro ⟨rfl, ⟨front, hrecipient⟩, back, haddress⟩
    obtain ⟨gap, _, _, rfl, hsign⟩ := Written.spaced_cons_iff.mp h
    obtain ⟨gap₁, hgap₁, _, rfl, hzero⟩ := Written.spaced_cons_iff.mp hsign
    obtain ⟨gap₂, hgap₂, last, rfl, _⟩ := Written.spaced_cons_iff.mp hzero
    refine ⟨"sender", by decide, anyMatch_compared_iff.mpr (.inl ⟨?_, ?_⟩)⟩
    · refine ⟨gap₁, gap₂, hgap₁, hgap₂, gap ++ front, back ++ last, ?_⟩
      rw [← hrecipient, ← haddress]
      simp
    · exact smallEnough_of_start kind ⟨back, haddress⟩

/-! ## The zero address -/

/-- No opposite statement meets the rules on the zero address. -/
theorem anyMatch_zeroRules_eq_false (hs : IsIdentifier sender) (hr : IsIdentifier recipient)
    (h : Spaced (statement.opposite kind sender recipient) content) :
    anyMatch (zeroRules kind recipient) content = false := by
  have hdiffers := (mem_signs kind).1
  have hsender := signFree_of_isIdentifier hs
  have hparen : '(' ∉ sender.toList := hs.notMem (by decide) (by decide)
  have hzeros : ∀ zero ∈ zeroForms, BlankFree zero ∧ '(' ∈ zero.toList ∧
      ∀ form ∈ callerForms, ¬zero.toList <+: form.toList ∧ ¬zero.toList <:+ form.toList := by
    decide
  rw [Bool.eq_false_iff]
  intro hmatch
  rw [zeroRules, anyMatch_flatMap_iff, ← differs_eq] at hmatch
  obtain ⟨form, hform, hmatch⟩ := hmatch
  obtain ⟨zero, hzero, hmatch⟩ := anyMatch_flatMap_iff.mp hmatch
  obtain ⟨hfree, hzeroParen, hcallers⟩ := hzeros zero hzero
  have hformFree : BlankFree form := by
    rcases List.mem_pair.mp hform with rfl | rfl
    · exact hr.blankFree
    · decide
  have hcompares := compares_of_anyMatch hmatch
  have hsign : (differs kind).toList <:+: unspaced content :=
    hcompares.elim (sign_infix_of_compares hformFree hdiffers hfree)
      (sign_infix_of_compares hfree hdiffers hformFree)
  have hletters := unspaced_opposite hs hr h
  obtain ⟨caller, rfl | rfl⟩ := caller_of_differs hs hr h hsign
  · have hcontent : unspaced content =
        caller.1.toList ++ ((differs kind).toList ++ sender.toList) := by
      simpa [Statement.opposite] using hletters
    have hcaller := (caller_marks caller).2.1
    rcases hcompares with hcompares | hcompares
    · -- Next to the sender, the zero address would need a parenthesis in the sender's name.
      obtain ⟨-, hstart⟩ := suffix_prefix_of_compares hdiffers hcontent hcaller hsender hformFree
        hfree hcompares
      exact hparen (hstart.subset hzeroParen)
    · obtain ⟨hend, -⟩ := suffix_prefix_of_compares hdiffers hcontent hcaller hsender hfree
        hformFree hcompares
      exact (hcallers caller.1 caller.2).2 hend
  · have hcontent : unspaced content =
        sender.toList ++ ((differs kind).toList ++ caller.1.toList) := by
      simpa [Statement.opposite] using hletters
    have hcaller := (caller_marks caller).2.1
    rcases hcompares with hcompares | hcompares
    · obtain ⟨-, hstart⟩ := suffix_prefix_of_compares hdiffers hcontent hsender hcaller hformFree
        hfree hcompares
      exact (hcallers caller.1 caller.2).1 hstart
    · obtain ⟨hend, -⟩ := suffix_prefix_of_compares hdiffers hcontent hsender hcaller hfree
        hformFree hcompares
      exact hparen (hend.subset hzeroParen)

/-! ## Approvals -/

/-- Of all characters, only the bracket itself folds to a bracket. -/
theorem eq_of_foldCase_bracket {c : Char} (h : foldCase c = foldCase '[') : c = '[' := by
  have hruns : ∀ run ∈ foldRuns, ¬(run.first + run.shift ≤ 0x5B ∧ 0x5B ≤ run.last + run.shift) := by
    decide +kernel
  have hbracket : foldCase '[' = '[' := by decide
  have hcode : foldCode c.toNat = 0x5B := by
    have hnat := congrArg Char.toNat (h.trans hbracket)
    rw [foldCase, Char.ofNat] at hnat
    by_cases hvalid : (foldCode c.toNat).isValidChar
    · rwa [dif_pos hvalid] at hnat
    · rw [dif_neg hvalid] at hnat
      cases hnat
  have hsame : c.toNat = 0x5B := by
    -- A letter of the basic range folds to a letter, and no run of the table covers the bracket.
    rw [foldCode] at hcode
    split at hcode
    · split at hcode
      · next hupper =>
        simp only [Bool.and_eq_true, decide_eq_true_eq] at hupper
        omega
      · exact hcode
    · split at hcode
      · next run hrun =>
        have hnot := hruns run (List.mem_of_find?_eq_some hrun)
        have hcontains := List.find?_some hrun
        simp only [Unicode.FoldRun.contains, Bool.and_eq_true, decide_eq_true_eq] at hcontains
        omega
      · exact hcode
  exact Char.ext (UInt32.toNat_inj.mp hsame)

theorem bracket_mem_of_anyCase {piece chars : List Char}
    (h : List.Forall₂ (fun x c => x = c ∨ foldCase x = foldCase c) piece chars)
    (hmem : '[' ∈ chars) : '[' ∈ piece := by
  induction h with
  | nil => exact hmem
  | cons hsame _ ih =>
    rcases List.mem_cons.mp hmem with rfl | hmem
    · obtain rfl := hsame.elim id eq_of_foldCase_bracket
      exact List.mem_cons_self
    · exact List.mem_cons_of_mem _ (ih hmem)

/-- The parts of a negation, in a guard of the shape that needs one. -/
def negationParts : GuardKind → List Part
  | .require => []
  | .ifRevert => [.text "!", .blanks]

/-- The parts of a call that asks for an approval. -/
def callParts (kind : GuardKind) (sender caller : String) : List Part :=
  negationParts kind ++ [.text "isApprovedForAll(", .blanks, .text sender, .blanks, .text ",",
    .blanks, .text caller, .blanks, .text ")"]

/-- The parts of a look into a table of approvals. -/
def tableParts (kind : GuardKind) (sender caller : String) : List Part :=
  negationParts kind ++ [.text "isApprovedForAll[", .text sender, .text "][", .text caller,
    .text "]"]

/-- Without brackets, only the call can be found. -/
theorem eq_call_of_mem {caller : String} {p : Pattern} (hbracket : '[' ∉ content)
    (hp : p ∈ approvalRulesFor kind sender caller) (hmatch : p.isMatch content = true) :
    p = patternOf (callParts kind sender caller) := by
  have hmem : ∀ {parts : List Pattern}, (∀ q ∈ parts, q.Plain) →
      (Pattern.sequence parts).isMatch content = true →
      ∀ q ∈ parts, ∃ part, q.Reads none part [] ∧ '[' ∉ part := by
    intro parts hplain hmatch q hq
    obtain ⟨piece, hspells, hinfix⟩ := (isMatch_sequence_iff hplain).mp hmatch
    obtain ⟨part, hreads, hpart⟩ := hspells.exists_reads hq
    exact ⟨part, hreads, fun hmem => hbracket ((hpart.trans hinfix).subset hmem)⟩
  simp only [approvalRulesFor, List.mem_cons, List.not_mem_nil, or_false] at hp
  rcases hp with rfl | rfl | rfl
  · cases kind <;> rfl
  · -- This rule alone disregards case, but a bracket has no other case.
    have hplain : ∀ q ∈ [litAnyCase "operatorApproval[", litAnyCase sender, litAnyCase "][",
        litAnyCase caller, litAnyCase "]", blanks, litAnyCase "==", blanks,
        litAnyCase (approvalWord kind)], q.Plain := by
      simp only [List.forall_mem_cons]
      exact ⟨plain_litAnyCase _, plain_litAnyCase _, plain_litAnyCase _, plain_litAnyCase _,
        plain_litAnyCase _, plain_blanks, plain_litAnyCase _, plain_blanks, plain_litAnyCase _,
        List.forall_mem_nil _⟩
    obtain ⟨part, hreads, hnone⟩ := hmem hplain hmatch _ List.mem_cons_self
    exact absurd (bracket_mem_of_anyCase hreads (by decide)) hnone
  · have hplain : ∀ q ∈ (tableParts kind sender caller).map Part.pattern, q.Plain :=
      fun q => Written.plain_of_mem
    have htable : lit "isApprovedForAll[" ∈ (tableParts kind sender caller).map Part.pattern := by
      simp [tableParts, Part.pattern]
    have hpart : ∃ part, (lit "isApprovedForAll[").Reads none part [] ∧ '[' ∉ part := by
      cases kind <;> exact hmem hplain hmatch _ htable
    obtain ⟨part, rfl, hnone⟩ := hpart
    exact absurd (by decide) hnone

/-- No opposite statement has brackets. -/
theorem bracket_notMem (hs : IsIdentifier sender) (hr : IsIdentifier recipient)
    (h : Spaced (statement.opposite kind sender recipient) content) : '[' ∉ content := by
  have hsender : '[' ∉ sender.toList := hs.notMem (by decide) (by decide)
  have hrecipient : '[' ∉ recipient.toList := hr.notMem (by decide) (by decide)
  have hcaller := fun caller => (caller_marks caller).2.2.2
  intro hmem
  have hletters : '[' ∈ unspaced content := Written.mem_unspaced_iff.mpr ⟨hmem, by decide⟩
  rw [unspaced_opposite hs hr h] at hletters
  cases kind <;> cases statement <;>
    simp [Statement.opposite, refusal, differs, agrees, hsender, hrecipient, hcaller] at hletters

/-- Only an approval has a comma. -/
theorem approval_of_comma (hs : IsIdentifier sender) (hr : IsIdentifier recipient)
    (h : Spaced (statement.opposite kind sender recipient) content)
    (hcomma : ',' ∈ unspaced content) : ∃ caller, statement = .approval caller := by
  have hsender : ',' ∉ sender.toList := hs.notMem (by decide) (by decide)
  have hrecipient : ',' ∉ recipient.toList := hr.notMem (by decide) (by decide)
  have hcaller := fun caller => (caller_marks caller).2.2.1
  rw [unspaced_opposite hs hr h] at hcomma
  cases statement with
  | approval caller => exact ⟨caller, rfl⟩
  | _ =>
    cases kind <;>
      simp [Statement.opposite, differs, agrees, hsender, hrecipient, hcaller] at hcomma

/-- The refused approval is found only if its name and its parenthesis stand together. -/
theorem unbroken_of_isMatch (hs : IsIdentifier sender) {caller : Caller} {other : String}
    (h : Spaced ["!", "isApprovedForAll", "(", sender, ",", caller, ")"] content)
    (hmatch : (patternOf (callParts .require sender other)).isMatch content = true) :
    Spaced ["!", "isApprovedForAll(", sender, ",", caller, ")"] content := by
  obtain ⟨piece, hspells, hinfix⟩ := Written.isMatch_patternOf_iff.mp hmatch
  simp only [callParts, negationParts, List.nil_append, Part.pattern, List.map_cons, List.map_nil,
    spells_lit_cons, spells_blanks_cons, spells_nil] at hspells
  simp only [Written.spaced_cons_iff, Written.spaced_nil_iff] at h ⊢
  obtain ⟨_, rfl, inner, _, _, rfl, _, rfl, inner₁, _, _, rfl, _, rfl, inner₂, _, _, rfl, _, rfl,
    inner₃, _, _, rfl, _, rfl, rfl⟩ := hspells
  obtain ⟨gap, hgap, _, rfl, gap₁, hgap₁, _, rfl, gap₂, hgap₂, _, rfl, gap₃, hgap₃, _, rfl, gap₄,
    hgap₄, _, rfl, gap₅, hgap₅, _, rfl, gap₆, hgap₆, last, rfl, hlast⟩ := h
  have hcomma : ∀ {gap : List Char}, (∀ c ∈ gap, isBlank c = true) → ',' ∉ gap :=
    fun hgap => Text.notMem_of_blanks hgap (by decide)
  have hparen : ∀ {gap : List Char}, (∀ c ∈ gap, isBlank c = true) → '(' ∉ gap :=
    fun hgap => Text.notMem_of_blanks hgap (by decide)
  have hsenderComma : ',' ∉ sender.toList := hs.notMem (by decide) (by decide)
  have hsenderParen : '(' ∉ sender.toList := hs.notMem (by decide) (by decide)
  -- The caller can have parentheses too, so the text is cut at the comma first.
  have hfront : ',' ∉ (gap ++ '!' :: (gap₁ ++ "isApprovedForAll".toList) ++ gap₂) ++
      '(' :: (gap₃ ++ (sender.toList ++ gap₄)) := by
    simp [hcomma hgap, hcomma hgap₁, hcomma hgap₂, hcomma hgap₃, hcomma hgap₄, hsenderComma]
  have hback : ',' ∉ gap₅ ++ (caller.1.toList ++ (gap₆ ++ ')' :: last)) := by
    simp [hcomma hgap₅, hcomma hgap₆, hcomma hlast, (caller_marks caller).2.2.1]
  have hsplit : "isApprovedForAll".toList ++ '(' :: (inner ++ (sender.toList ++ inner₁)) ++
      ',' :: ([] ++ (inner₂ ++ (other.toList ++ (inner₃ ++ [')'])))) <:+:
        (gap ++ '!' :: (gap₁ ++ "isApprovedForAll".toList) ++ gap₂) ++
          '(' :: (gap₃ ++ (sender.toList ++ gap₄)) ++
        ',' :: ([] ++ (gap₅ ++ (caller.1.toList ++ (gap₆ ++ ')' :: last)))) := by
    simpa using hinfix
  obtain ⟨hend, -⟩ := Text.suffix_prefix_of_infix [] hfront hback hsplit
  have hname : '(' ∉ gap ++ '!' :: (gap₁ ++ "isApprovedForAll".toList) := by
    simp [hparen hgap, hparen hgap₁]
  have hargument : '(' ∉ gap₃ ++ (sender.toList ++ gap₄) := by
    simp [hparen hgap₃, hparen hgap₄, hsenderParen]
  have hfree : BlankFree "isApprovedForAll" := by decide
  obtain rfl := Text.blanks_eq_nil_of_infix (by decide) hfree hgap₂ hname hargument hend.isInfix
  exact ⟨gap, hgap, _, rfl, gap₁, hgap₁, _, by simp, gap₃, hgap₃, _, rfl, gap₄, hgap₄, _, rfl,
    gap₅, hgap₅, _, rfl, gap₆, hgap₆, last, rfl, hlast⟩

/-- There it is found. -/
theorem isMatch_of_unbroken {caller : String}
    (h : Spaced ["!", "isApprovedForAll(", sender, ",", caller, ")"] content) :
    (patternOf (callParts .require sender caller)).isMatch content = true := by
  obtain ⟨gap, _, _, rfl, hname⟩ := Written.spaced_cons_iff.mp h
  obtain ⟨gap₁, _, _, rfl, harguments⟩ := Written.spaced_cons_iff.mp hname
  obtain ⟨piece, last, rfl, hpiece⟩ := harguments.exists_spells
  refine Written.isMatch_patternOf_iff.mpr ⟨"isApprovedForAll(".toList ++ piece, ?_,
    ⟨gap ++ '!' :: gap₁, last, by simp⟩⟩
  exact spells_lit_cons.mpr ⟨_, rfl, hpiece⟩

/-- The call is found with the form of the caller that it has. -/
theorem caller_of_letters (hs : IsIdentifier sender) {caller : Caller} {other : String}
    (hcontent : unspaced content =
      '!' :: ("isApprovedForAll(".toList ++ (sender.toList ++ ',' :: (caller.1.toList ++ [')']))))
    (hother : other ∈ callerForms)
    (hletters : letters (callParts .require sender other) <:+: unspaced content) :
    caller.1 = other := by
  have hforms : ∀ caller ∈ callerForms, ∀ other ∈ callerForms,
      other.toList ++ [')'] <+: caller.toList ++ [')'] → caller = other := by
    decide
  have hname : ',' ∉ sender.toList := hs.notMem (by decide) (by decide)
  have hfront : ',' ∉ '!' :: ("isApprovedForAll(".toList ++ sender.toList) := by
    simp [hname]
  have hback : ',' ∉ caller.1.toList ++ [')'] := by
    simp [(caller_marks caller).2.2.1]
  have hsplit : ("isApprovedForAll(".toList ++ sender.toList) ++
      ',' :: ([] ++ (other.toList ++ [')'])) <:+:
        ('!' :: ("isApprovedForAll(".toList ++ sender.toList)) ++
          ',' :: ([] ++ (caller.1.toList ++ [')'])) := by
    simpa [letters, callParts, negationParts, Part.letters, hcontent] using hletters
  obtain ⟨-, hstart⟩ := Text.suffix_prefix_of_infix [] hfront hback hsplit
  exact hforms caller.1 caller.2 other hother hstart

/-- The call is found in one opposite statement only. -/
theorem refused_of_isMatch (hs : IsIdentifier sender) (hr : IsIdentifier recipient)
    (h : Spaced (statement.opposite kind sender recipient) content) {other : String}
    (hother : other ∈ callerForms)
    (hmatch : (patternOf (callParts kind sender other)).isMatch content = true) :
    kind = .require ∧ ∃ caller, statement = .approval caller ∧ caller.1 = other ∧
      Spaced ["!", "isApprovedForAll(", sender, ",", caller, ")"] content := by
  have hfree : BlankFree other := (caller_marks ⟨other, hother⟩).1
  have hletters : letters (callParts kind sender other) <:+: unspaced content := by
    have hparts : Written.TextsFree (callParts kind sender other) := by
      have hmark : BlankFree "!" := by decide
      have hname : BlankFree "isApprovedForAll(" := by decide
      have hcomma : BlankFree "," := by decide
      have hparen : BlankFree ")" := by decide
      cases kind with
      | require => exact ⟨hname, hs.blankFree, hcomma, hfree, hparen, True.intro⟩
      | ifRevert => exact ⟨hmark, hname, hs.blankFree, hcomma, hfree, hparen, True.intro⟩
    exact Written.letters_infix_of_isMatch hparts hmatch
  have hcomma : ',' ∈ unspaced content := by
    apply hletters.subset
    simp [letters, callParts, Part.letters]
  obtain ⟨caller, rfl⟩ := approval_of_comma hs hr h hcomma
  cases kind with
  | require =>
    have hcontent := unspaced_opposite hs hr h
    simp only [Statement.opposite, refusal] at hcontent
    refine ⟨rfl, caller, rfl, ?_, unbroken_of_isMatch hs h hmatch⟩
    exact caller_of_letters hs (by simpa using hcontent) hother hletters
  | ifRevert =>
    -- Before a `revert` the rule asks for a negation, and the opposite statement has none.
    have hmark : '!' ∈ unspaced content := by
      apply hletters.subset
      simp [letters, callParts, negationParts, Part.letters]
    have hsender := (signFree_of_isIdentifier hs).2
    have hcaller := (caller_marks caller).2.1.2
    rw [unspaced_opposite hs hr h] at hmark
    simp [Statement.opposite, refusal, hsender, hcaller] at hmark

/-- A piece whose lower case is not found in the lower case of a text is not found in the text. -/
theorem not_infix_of_occursIn {word text : String} {piece : List Char}
    (hpiece : word.toList = piece.map Text.lowerChar)
    (h : Text.occursIn word (Text.lower text) = false) : ¬piece <:+: text.toList := by
  intro hfound
  have hmap := hfound.map Text.lowerChar
  have hlowered : (Text.lower text).toList = text.toList.map Text.lowerChar :=
    String.toList_ofList
  rw [← hpiece, ← hlowered] at hmap
  rw [Text.occursIn, Text.hasInfix_iff.mpr hmap] at h
  cases h

/-- The words of opposite statements that are neither names nor forms of the caller. -/
def fixedWords : List String :=
  ["address(0)", "!isApprovedForAll", ""]

/-- A piece without marks stands inside one of the words of an opposite statement. -/
theorem exists_word_of_infix {piece : List Char} (hsigns : SignFree piece) (hopen : '(' ∉ piece)
    (hcomma : ',' ∉ piece) (hclose : ')' ∉ piece)
    (h : piece <:+: (statement.opposite kind sender recipient).flatMap String.toList) :
    ∃ word ∈ sender :: recipient :: (callerForms ++ fixedWords), piece <:+: word.toList := by
  obtain ⟨hdiffers, hagrees, -⟩ := mem_signs kind
  have hsender : sender ∈ sender :: recipient :: (callerForms ++ fixedWords) := by simp
  have hrecipient : recipient ∈ sender :: recipient :: (callerForms ++ fixedWords) := by simp
  have hcaller : ∀ caller : Caller,
      caller.1 ∈ sender :: recipient :: (callerForms ++ fixedWords) := by
    intro caller
    simp [caller.2]
  have hfixed : ∀ word ∈ fixedWords,
      word ∈ sender :: recipient :: (callerForms ++ fixedWords) := by
    intro word hword
    simp [hword]
  cases statement with
  | callerFirst caller =>
    have hsides : piece <:+: caller.1.toList ++ ((differs kind).toList ++ sender.toList) := by
      simpa [Statement.opposite] using h
    rcases infix_of_sign hdiffers hsigns hsides with hfound | hfound
    · exact ⟨_, hcaller caller, hfound⟩
    · exact ⟨_, hsender, hfound⟩
  | senderFirst caller =>
    have hsides : piece <:+: sender.toList ++ ((differs kind).toList ++ caller.1.toList) := by
      simpa [Statement.opposite] using h
    rcases infix_of_sign hdiffers hsigns hsides with hfound | hfound
    · exact ⟨_, hsender, hfound⟩
    · exact ⟨_, hcaller caller, hfound⟩
  | approval caller =>
    -- Cut at the comma, the parenthesis before it and the one after it, in this order.
    have hsplit : piece <:+: ((refusal kind).flatMap String.toList ++ "isApprovedForAll".toList ++
        '(' :: sender.toList) ++ ',' :: (caller.1.toList ++ ')' :: "".toList) := by
      simpa [Statement.opposite] using h
    rw [Text.infix_append_cons_iff hcomma, Text.infix_append_cons_iff hopen,
      Text.infix_append_cons_iff hclose] at hsplit
    rcases hsplit with (hfound | hfound) | hfound | hfound
    · refine ⟨"!isApprovedForAll", hfixed _ (by decide), ?_⟩
      cases kind with
      | require => exact hfound
      | ifRevert => exact hfound.trans (List.suffix_cons '!' _).isInfix
    · exact ⟨_, hsender, hfound⟩
    · exact ⟨_, hcaller caller, hfound⟩
    · exact ⟨"", hfixed _ (by decide), hfound⟩
  | recipientFirst =>
    have hsides : piece <:+: recipient.toList ++ ((agrees kind).toList ++ "address(0)".toList) := by
      simpa [Statement.opposite] using h
    rcases infix_of_sign hagrees hsigns hsides with hfound | hfound
    · exact ⟨_, hrecipient, hfound⟩
    · exact ⟨"address(0)", hfixed _ (by decide), hfound⟩
  | zeroFirst =>
    have hsides : piece <:+: "address(0)".toList ++ ((agrees kind).toList ++ recipient.toList) := by
      simpa [Statement.opposite] using h
    rcases infix_of_sign hagrees hsigns hsides with hfound | hfound
    · exact ⟨"address(0)", hfixed _ (by decide), hfound⟩
    · exact ⟨_, hrecipient, hfound⟩

/-- Unless a name does, no opposite statement mentions an approval by that word. -/
theorem not_approval_infix (hs : IsIdentifier sender) (hr : IsIdentifier recipient)
    (hsender : Text.occursIn "approval" (Text.lower sender) = false)
    (hrecipient : Text.occursIn "approval" (Text.lower recipient) = false)
    (h : Spaced (statement.opposite kind sender recipient) content) :
    ¬"approval".toList <:+: content.map Text.lowerChar := by
  intro hinfix
  obtain ⟨piece, hpiece, hlower⟩ := List.infix_map_iff.mp hinfix
  have hletter : ∀ {c}, Text.lowerChar c ∉ "approval".toList → c ∉ piece := by
    intro c hc hmem
    rw [hlower] at hc
    exact hc (List.mem_map_of_mem hmem)
  have hfree : ∀ c ∈ piece, isBlank c = false := by
    intro c hc
    rw [Bool.eq_false_iff]
    intro hblank
    have hword : BlankFree "approval" := by decide
    refine hletter (fun hmem => ?_) hc
    rw [Text.lowerChar_of_isBlank hblank] at hmem
    rw [hword c hmem] at hblank
    cases hblank
  -- The word has no blanks, so taking the blanks out of the guard leaves it whole.
  have hletters : piece <:+: unspaced content := by
    rw [← Written.unspaced_eq_self hfree]
    exact hpiece.filter _
  rw [unspaced_opposite hs hr h] at hletters
  obtain ⟨word, hword, hfound⟩ := exists_word_of_infix
    ⟨hletter (by decide), hletter (by decide)⟩ (hletter (by decide)) (hletter (by decide))
    (hletter (by decide)) hletters
  have hothers : ∀ word ∈ callerForms ++ fixedWords,
      Text.occursIn "approval" (Text.lower word) = false := by
    decide
  refine not_infix_of_occursIn hlower ?_ hfound
  rcases List.mem_cons.mp hword with rfl | hword
  · exact hsender
  rcases List.mem_cons.mp hword with rfl | hword
  · exact hrecipient
  · exact hothers word hword

/-- Which opposite statements meet the rules on approvals. -/
theorem approval_iff (hs : IsIdentifier sender) (hr : IsIdentifier recipient)
    (hsender : Text.occursIn "approval" (Text.lower sender) = false)
    (hrecipient : Text.occursIn "approval" (Text.lower recipient) = false)
    (h : Spaced (statement.opposite kind sender recipient) content) :
    (anyMatch (approvalRules kind sender) content || mentionsApproval kind sender content) =
        true ↔
      kind = .require ∧ ∃ caller, statement = .approval caller ∧
        Spaced ["!", "isApprovedForAll(", sender, ",", caller, ")"] content ∧
        (patternOf (callParts .require sender caller)).fits = true := by
  have hmentions : mentionsApproval kind sender content = false := by
    have hword : Text.hasInfix "approval".toList (content.map Text.lowerChar) = false := by
      rw [Bool.eq_false_iff, ne_eq, Text.hasInfix_iff]
      exact not_approval_infix hs hr hsender hrecipient h
    simp only [mentionsApproval, hword, Bool.false_and]
    exact List.any_eq_false.mpr fun _ _ => Bool.false_ne_true
  rw [hmentions, Bool.or_false, approvalRules, anyMatch_flatMap_iff]
  constructor
  · rintro ⟨caller, hcaller, hmatch⟩
    obtain ⟨p, hp, hmatch, hfits⟩ := anyMatch_iff.mp hmatch
    obtain rfl := eq_call_of_mem (bracket_notMem hs hr h) hp hmatch
    obtain ⟨rfl, caller, hstatement, rfl, hspaced⟩ := refused_of_isMatch hs hr h hcaller hmatch
    exact ⟨rfl, caller, hstatement, hspaced, hfits⟩
  · rintro ⟨rfl, caller, rfl, hspaced, hfits⟩
    exact ⟨caller, caller.2,
      anyMatch_iff.mpr ⟨_, List.mem_cons_self, isMatch_of_unbroken hspaced, hfits⟩⟩

end Opposite

/-! ## Reports -/

/-- What a guard that states the opposite is taken to prove: never that the recipient is not the
zero address, that the caller is the sender only if the names of the parameters mislead, and an
approval exactly if a `require` refuses it in a call whose name and parenthesis stand together,
unless the sender's name is so long that the rule is dropped. -/
theorem opposite_guard_proves {sender recipient : String} (hs : IsIdentifier sender)
    (hr : IsIdentifier recipient)
    (hsender : Text.occursIn "approval" (Text.lower sender) = false)
    (hrecipient : Text.occursIn "approval" (Text.lower recipient) = false)
    {kind : GuardKind} {statement : Statement} {content : List Char}
    (h : Spaced (statement.opposite kind sender recipient) content)
    (ids amounts data : Option String) (aliases : List String) (profile : Profile)
    (source : Label) :
    let report := applyCondition ⟨some sender, some recipient, ids, amounts, data⟩ aliases
      (.start profile) ⟨content, source, kind⟩
    report.zeroAddress = false ∧
      (report.sender = true ↔ statement = .recipientFirst ∧
        "sender".toList <:+ recipient.toList ∧ sender.toList <+: "address".toList) ∧
      (report.approval = true ↔ kind = .require ∧ ∃ caller, statement = .approval caller ∧
        Spaced ["!", "isApprovedForAll(", sender, ",", caller, ")"] content ∧
        (patternOf (callParts .require sender caller)).fits = true) :=
  ⟨anyMatch_zeroRules_eq_false hs hr h, anyMatch_senderRules_iff hs hr h,
    approval_iff hs hr hsender hrecipient h⟩

/-- The usual form of the caller. -/
def msgSender : Caller :=
  ⟨"msg.sender", by decide⟩

/-- A guard against the sender proves nothing. -/
theorem opposite_guard_proves_reverted :
    Spaced ((Statement.callerFirst msgSender).opposite .ifRevert "from" "to")
        "msg.sender ==from".toList ∧
      let report := applyCondition ⟨some "from", some "to", none, none, none⟩ [] (.start .standard)
        ⟨"msg.sender ==from".toList, .main, .ifRevert⟩
      report.sender = false ∧ report.approval = false ∧ report.zeroAddress = false := by
  have hspaced : Spaced ((Statement.callerFirst msgSender).opposite .ifRevert "from" "to")
      "msg.sender ==from".toList := by
    have hspace : ∀ c ∈ [' '], isBlank c = true := List.all_eq_true.mp (by decide)
    have hnone : ∀ c ∈ [], isBlank c = true := List.forall_mem_nil _
    simp only [Statement.opposite, Written.spaced_cons_iff, Written.spaced_nil_iff]
    exact ⟨[], hnone, _, rfl, [' '], hspace, _, rfl, [], hnone, [], rfl, hnone⟩
  obtain ⟨hzero, hsender, happroval⟩ := opposite_guard_proves (by decide) (by decide) (by decide)
    (by decide) hspaced none none none [] .standard .main
  refine ⟨hspaced, ?_, ?_, hzero⟩
  · rw [Bool.eq_false_iff]
    exact fun hmet => Statement.noConfusion (hsender.mp hmet).1
  · rw [Bool.eq_false_iff]
    exact fun hmet => GuardKind.noConfusion (happroval.mp hmet).1

/-- A guard that lets only callers without an approval pass counts as asking for one. -/
theorem refused_approval_counts :
    Spaced ((Statement.approval msgSender).opposite .require "from" "to")
        "!isApprovedForAll(from, msg.sender)".toList ∧
      (applyCondition ⟨some "from", some "to", none, none, none⟩ [] (.start .standard)
        ⟨"!isApprovedForAll(from, msg.sender)".toList, .main, .require⟩).approval = true := by
  refine ⟨?_, by decide +kernel⟩
  have hspace : ∀ c ∈ [' '], isBlank c = true := List.all_eq_true.mp (by decide)
  have hnone : ∀ c ∈ [], isBlank c = true := List.forall_mem_nil _
  simp only [Statement.opposite, refusal, List.cons_append, List.nil_append,
    Written.spaced_cons_iff, Written.spaced_nil_iff]
  exact ⟨[], hnone, _, rfl, [], hnone, _, rfl, [], hnone, _, rfl, [], hnone, _, rfl, [], hnone, _,
    rfl, [' '], hspace, _, rfl, [], hnone, [], rfl, hnone⟩

end TokenAudit.BatchTransfer
