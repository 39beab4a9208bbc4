import TokenAudit.Proofs.Pattern.Spliced
import TokenAudit.Proofs.Signature.WholeWords

/-!
# Texts up to blanks

Rules let blanks stand between their texts, and a guard can be written with blanks between its
tokens. What is left of a piece without its blanks are the texts of the rule, and what is left of a
guard are its tokens. So a rule that finds something in a guard has its texts among the tokens, and
marks that occur only once show where.

## Main definitions

* `Written.letters`: the texts of some parts without the blanks between them.
* `Written.Spaced`: a text is made of tokens, with blanks around them.
* `IsIdentifier`: a name of word characters and dollar signs.

## Main results

* `Text.suffix_prefix_of_infix`: what stands around a mark that occurs only once.
* `Written.letters_infix_of_isMatch`: what is found in a text is among its tokens.
-/

namespace TokenAudit

open Unicode (isBlank isWord)

namespace Text

/-! ## Marks in texts -/

/-- A piece without the character `c` stands before it or after it. -/
theorem infix_append_cons_iff {piece front back : List Char} {c : Char} (hc : c ∉ piece) :
    piece <:+: front ++ c :: back ↔ piece <:+: front ∨ piece <:+: back := by
  have hstart : ∀ {first second}, piece = first ++ second → second <+: c :: back → second = [] := by
    rintro first second rfl hsecond
    rcases List.prefix_cons_iff.mp hsecond with hnil | ⟨rest, rfl, _⟩
    · exact hnil
    · exact absurd (List.mem_append_right first List.mem_cons_self) hc
  constructor
  · intro h
    rcases List.infix_append_iff.mp h with hfront | hback | ⟨first, second, hpiece, hfirst, hsecond⟩
    · exact .inl hfront
    · rcases List.infix_cons_iff.mp hback with hhead | hback
      · obtain rfl := hstart (List.nil_append piece).symm hhead
        exact .inl List.nil_infix
      · exact .inr hback
    · obtain rfl := hstart hpiece hsecond
      exact .inl (hpiece ▸ (List.append_nil first).symm ▸ hfirst.isInfix)
  · rintro (h | h)
    · exact h.trans (List.prefix_append _ _).isInfix
    · exact h.trans ((List.suffix_cons c back).trans (List.suffix_append _ _)).isInfix

/-- Where a mark starts with a character that occurs nowhere else, a piece with the mark continues
what stands before the mark and what stands after it. -/
theorem suffix_prefix_of_infix {c : Char} (mark : List Char) {left right front back : List Char}
    (hfront : c ∉ front) (hback : c ∉ back)
    (h : left ++ c :: (mark ++ right) <:+: front ++ c :: (mark ++ back)) :
    left <:+ front ∧ right <+: back := by
  obtain ⟨before, after, heq⟩ := h
  -- Counting shows that the character does not stand before the piece's mark.
  have hleft : c ∉ before ++ left := by
    have hcount := congrArg (List.count c) heq
    rw [← List.count_eq_zero]
    simp only [List.count_append, List.count_cons_self, List.count_eq_zero_of_not_mem hfront,
      List.count_eq_zero_of_not_mem hback] at hcount ⊢
    omega
  have htake : ∀ {first second : List Char}, c ∉ first →
      (first ++ c :: second).takeWhile (· != c) = first := by
    intro first second hfirst
    rw [List.takeWhile_append_of_pos]
    · simp
    · intro d hd
      simpa using fun hdc : d = c => hfirst (hdc ▸ hd)
  have hsplit : (before ++ left) ++ c :: (mark ++ (right ++ after)) =
      front ++ c :: (mark ++ back) := by
    simpa using heq
  have hbefore : before ++ left = front := by
    rw [← htake hleft, hsplit, htake hfront]
  rw [hbefore] at hsplit
  have hafter : right ++ after = back := by simpa using hsplit
  exact ⟨⟨before, hbefore⟩, ⟨after, hafter⟩⟩

theorem notMem_of_blanks {gap : List Char} (hgap : ∀ c ∈ gap, isBlank c = true) {c : Char}
    (hc : isBlank c = false) : c ∉ gap := by
  intro hmem
  rw [hgap c hmem] at hc
  cases hc

/-- A text without blanks is no suffix of one that ends in blanks. -/
theorem eq_nil_of_suffix_append_blanks {word front gap : List Char} (hword : word ≠ [])
    (hfree : ∀ c ∈ word, isBlank c = false) (hgap : ∀ c ∈ gap, isBlank c = true)
    (h : word <:+ front ++ gap) : gap = [] := by
  rcases List.eq_nil_or_concat gap with hnil | ⟨gap, last, rfl⟩
  · exact hnil
  · obtain ⟨before, heq⟩ := h
    obtain ⟨start, c, rfl⟩ := (List.eq_nil_or_concat word).resolve_left hword
    have hlast : c = last := by
      have hends := congrArg List.getLast? heq
      simpa using hends
    have hblank := hgap last (by simp)
    rw [← hlast, hfree c (by simp)] at hblank
    cases hblank

/-- Where a parenthesis occurs only once, a name that is found right before it has no blanks after
it. -/
theorem blanks_eq_nil_of_infix {word tail front gap back : List Char} (hword : word ≠ [])
    (hfree : ∀ c ∈ word, isBlank c = false) (hgap : ∀ c ∈ gap, isBlank c = true)
    (hfront : '(' ∉ front) (hback : '(' ∉ back)
    (h : word ++ '(' :: tail <:+: (front ++ gap) ++ '(' :: back) : gap = [] := by
  have hnone : '(' ∉ front ++ gap := by
    simpa using ⟨hfront, notMem_of_blanks hgap (by decide)⟩
  obtain ⟨hsuffix, -⟩ := suffix_prefix_of_infix [] hnone hback h
  exact eq_nil_of_suffix_append_blanks hword hfree hgap hsuffix

end Text

/-! ## Identifiers -/

/-- No character of the text is a blank. -/
def BlankFree (text : String) : Prop :=
  ∀ c ∈ text.toList, isBlank c = false

instance (text : String) : Decidable (BlankFree text) :=
  decidable_of_iff ((text.toList.all fun c => !isBlank c) = true) (by simp [BlankFree])

/-- A name as code uses it. -/
def IsIdentifier (name : String) : Prop :=
  name ≠ "" ∧ ∀ c ∈ name.toList, isWord c = true ∨ c = '$'

instance (name : String) : Decidable (IsIdentifier name) :=
  decidable_of_iff
    (name ≠ "" ∧ (name.toList.all fun c => isWord c || c == '$') = true) (by simp [IsIdentifier])

namespace IsIdentifier

variable {name : String}

theorem ne_nil (h : IsIdentifier name) : name.toList ≠ [] := by
  simpa using h.1

/-- Other characters do not occur in an identifier. -/
theorem notMem (h : IsIdentifier name) {c : Char} (hword : isWord c = false) (hdollar : c ≠ '$') :
    c ∉ name.toList := by
  intro hc
  rcases h.2 c hc with hc | hc
  · rw [hword] at hc
    cases hc
  · exact hdollar hc

theorem blankFree (h : IsIdentifier name) : BlankFree name := by
  intro c hc
  rw [Bool.eq_false_iff]
  intro hblank
  refine h.notMem (Signature.isWord_of_isBlank hblank) ?_ hc
  rintro rfl
  revert hblank
  decide

end IsIdentifier

namespace Written

open Pattern (Spells)

/-! ## Letters -/

/-- The text of the part; blanks have none. -/
def Part.letters : Part → List Char
  | text chars => chars.toList
  | blanks => []

/-- The texts of the parts. -/
def letters (parts : List Part) : List Char :=
  parts.flatMap Part.letters

/-- No text among the parts has blanks. -/
def TextsFree : List Part → Prop
  | [] => True
  | .text chars :: rest => BlankFree chars ∧ TextsFree rest
  | .blanks :: rest => TextsFree rest

/-- What is left without the blanks. -/
def unspaced (text : List Char) : List Char :=
  text.filter fun c => !isBlank c

theorem unspaced_append (first second : List Char) :
    unspaced (first ++ second) = unspaced first ++ unspaced second :=
  List.filter_append ..

theorem unspaced_eq_self {text : List Char} (h : ∀ c ∈ text, isBlank c = false) :
    unspaced text = text :=
  List.filter_eq_self.mpr fun c hc => by rw [h c hc]; rfl

theorem unspaced_eq_nil {text : List Char} (h : ∀ c ∈ text, isBlank c = true) :
    unspaced text = [] :=
  List.filter_eq_nil_iff.mpr fun c hc => by rw [h c hc]; decide

theorem mem_unspaced_iff {text : List Char} {c : Char} :
    c ∈ unspaced text ↔ c ∈ text ∧ isBlank c = false := by
  simp [unspaced]

/-- Without its blanks, what parts spell are their texts. -/
theorem unspaced_of_spells {parts : List Part} {piece : List Char}
    (hfree : TextsFree parts) (h : Spells (parts.map Part.pattern) piece) :
    unspaced piece = letters parts := by
  induction parts generalizing piece with
  | nil =>
    obtain rfl : piece = [] := h
    rfl
  | cons part parts ih =>
    obtain ⟨front, back, rfl, hfront, hback⟩ := h
    rw [unspaced_append, letters, List.flatMap_cons]
    cases part with
    | text chars =>
      obtain ⟨hchars, hrest⟩ := hfree
      obtain rfl : front = chars.toList := hfront
      rw [unspaced_eq_self hchars, ih hrest hback]
      rfl
    | blanks =>
      rw [unspaced_eq_nil hfront, ih hfree hback]
      rfl

/-! ## Tokens with blanks around them -/

/-- Tokens with blanks before, between and after them. -/
def spaced (tokens : List String) : List Part :=
  .blanks :: tokens.flatMap fun token => [.text token, .blanks]

/-- Tokens with blanks before each of them. -/
def gapped (tokens : List String) : List Part :=
  tokens.flatMap fun token => [.blanks, .text token]

/-- The text is made of the tokens, with blanks around them. -/
def Spaced (tokens : List String) (text : List Char) : Prop :=
  Spells ((spaced tokens).map Part.pattern) text

@[simp]
theorem spaced_nil_iff {text : List Char} : Spaced [] text ↔ ∀ c ∈ text, isBlank c = true := by
  constructor
  · rintro ⟨gap, _, rfl, hgap, rfl⟩
    rwa [List.append_nil]
  · intro h
    exact ⟨text, [], (List.append_nil text).symm, h, rfl⟩

@[simp]
theorem spaced_cons_iff {token : String} {tokens : List String} {text : List Char} :
    Spaced (token :: tokens) text ↔ ∃ gap, (∀ c ∈ gap, isBlank c = true) ∧
      ∃ back, text = gap ++ (token.toList ++ back) ∧ Spaced tokens back := by
  constructor
  · rintro ⟨gap, _, rfl, hgap, _, back, rfl, rfl, hback⟩
    exact ⟨gap, hgap, back, rfl, hback⟩
  · rintro ⟨gap, hgap, back, rfl, hback⟩
    exact ⟨gap, _, rfl, hgap, _, back, rfl, rfl, hback⟩

/-- A text of tokens starts with the tokens and the blanks before each of them. -/
theorem Spaced.exists_spells {tokens : List String} {text : List Char} (h : Spaced tokens text) :
    ∃ piece last, text = piece ++ last ∧ Spells ((gapped tokens).map Part.pattern) piece := by
  induction tokens generalizing text with
  | nil => exact ⟨[], text, rfl, rfl⟩
  | cons token tokens ih =>
    obtain ⟨gap, hgap, back, rfl, hback⟩ := spaced_cons_iff.mp h
    obtain ⟨piece, last, rfl, hpiece⟩ := ih hback
    refine ⟨gap ++ (token.toList ++ piece), last, by simp, ?_⟩
    exact ⟨gap, _, rfl, hgap, _, piece, rfl, rfl, hpiece⟩

theorem textsFree_spaced {tokens : List String} (h : ∀ token ∈ tokens, BlankFree token) :
    TextsFree (spaced tokens) := by
  induction tokens with
  | nil => exact True.intro
  | cons token tokens ih =>
    obtain ⟨htoken, htokens⟩ := List.forall_mem_cons.mp h
    exact ⟨htoken, ih htokens⟩

theorem letters_spaced (tokens : List String) :
    letters (spaced tokens) = tokens.flatMap String.toList := by
  induction tokens with
  | nil => rfl
  | cons token tokens ih => exact congrArg (token.toList ++ ·) ih

/-- Without its blanks, the text is made of the tokens. -/
theorem Spaced.unspaced_eq {tokens : List String} {text : List Char} (h : Spaced tokens text)
    (hfree : ∀ token ∈ tokens, BlankFree token) :
    unspaced text = tokens.flatMap String.toList := by
  rw [← letters_spaced]
  exact unspaced_of_spells (textsFree_spaced hfree) h

/-- A pattern of parts that is found in a text has its texts among what is left of it. -/
theorem letters_infix_of_isMatch {parts : List Part} {text : List Char} (hfree : TextsFree parts)
    (h : (patternOf parts).isMatch text = true) : letters parts <:+: unspaced text := by
  obtain ⟨piece, hspells, hinfix⟩ := isMatch_patternOf_iff.mp h
  rw [← unspaced_of_spells hfree hspells]
  exact hinfix.filter _

theorem infix_of_isMatch_comparison {left sign right : String} {text : List Char}
    (hleft : BlankFree left) (hsign : BlankFree sign) (hright : BlankFree right)
    (h : (patternOf (comparison left sign right)).isMatch text = true) :
    left.toList ++ (sign.toList ++ right.toList) <:+: unspaced text := by
  have hletters : letters (comparison left sign right) =
      left.toList ++ (sign.toList ++ right.toList) := by
    simp [letters, comparison, Part.letters]
  rw [← hletters]
  exact letters_infix_of_isMatch ⟨hleft, hsign, hright, True.intro⟩ h

end Written

end TokenAudit
