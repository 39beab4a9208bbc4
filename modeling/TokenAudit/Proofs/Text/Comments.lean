import TokenAudit.Proofs.Text.Collapse
import TokenAudit.Text.Comment

/-!
# Text without comments

Comments are taken out in one pass, and what is left has none: a mark that is left over was looked
at and opens no comment, and the marks of two comments do not come together, since each comment
leaves a blank. Collapsing moves no two characters next to each other, so condensed text has no
comments either, and it is condensed already.

## Main definitions

* `CommentFree`: no comment starts in the text.

## Main results

* `commentFree_stripFrom`: one pass leaves no comments.
* `stripComments_eq_self`: a text without comments stays as it is.
* `CommentFree.collapseChars`: collapsing makes no comments.
* `condense_leaves_no_comments`: condensed text has no comments and no needless blanks, and
  condensing it again changes nothing.
-/

namespace TokenAudit.Text

open Unicode (isBlank)

/-- No comment starts in the text. -/
structure CommentFree (text : List Char) : Prop where
  /-- No line comment starts. -/
  line : ¬['/', '/'] <:+: text
  /-- No block comment that starts is closed. -/
  block : ∀ rest, '/' :: '*' :: rest <:+ text → ¬['*', '/'] <:+: rest

/-- Two neighbours stand at the start of a text or further on. -/
theorem pair_infix_cons_iff {a b c : Char} {rest : List Char} :
    [a, b] <:+: c :: rest ↔ (c = a ∧ rest.head? = some b) ∨ [a, b] <:+: rest := by
  rw [List.infix_cons_iff, List.cons_prefix_cons]
  refine or_congr (and_congr eq_comm ?_) Iff.rfl
  cases rest with
  | nil => simp
  | cons d rest => simp [eq_comm]

namespace CommentFree

variable {c : Char} {rest : List Char}

theorem of_suffix {text back : List Char} (h : CommentFree text) (hback : back <:+ text) :
    CommentFree back where
  line hline := h.line (hline.trans hback.isInfix)
  block rest hrest := h.block rest (hrest.trans hback)

/-- A character may stand in front if it is no slash that starts a comment. -/
theorem cons (h : CommentFree rest) (hline : c = '/' → rest.head? ≠ some '/')
    (hblock : c = '/' → ∀ tail, rest = '*' :: tail → ¬['*', '/'] <:+: tail) :
    CommentFree (c :: rest) where
  line hpair := by
    rcases pair_infix_cons_iff.mp hpair with ⟨hc, hhead⟩ | hrest
    · exact hline hc hhead
    · exact h.line hrest
  block tail htail := by
    rcases List.suffix_cons_iff.mp htail with heq | htail
    · obtain ⟨hc, hrest⟩ := List.cons.inj heq
      exact hblock hc.symm tail hrest.symm
    · exact h.block tail htail

/-- A character other than a slash may stand in front. -/
theorem cons_of_ne (h : CommentFree rest) (hc : c ≠ '/') : CommentFree (c :: rest) :=
  h.cons (fun heq => absurd heq hc) fun heq => absurd heq hc

end CommentFree

/-! ## One pass -/

/-- What is left of code starts with the first character of the code, or with the blank of a
comment. -/
theorem head?_of_head?_stripFrom {text : List Char} {c : Char} (hc : c ≠ ' ')
    (h : (stripFrom .code text).head? = some c) : text.head? = some c := by
  have hblank : ∀ {rest : List Char}, (' ' :: rest).head? ≠ some c := by
    intro rest heq
    exact hc (Option.some.inj heq).symm
  revert h
  generalize hregion : Region.code = region
  fun_cases stripFrom region text with
  | case1 => exact id
  | case2 => exact fun h => absurd h hblank
  | case3 => exact id
  | case4 => exact fun h => absurd h hblank
  | case5 => exact id
  | case6 => cases hregion
  | case7 => cases hregion
  | case8 => cases hregion
  | case9 => cases hregion

/-- Without the end of a block comment in a text there is none in what is left of it. -/
theorem not_infix_stripFrom {region : Region} {text : List Char} (h : ¬['*', '/'] <:+: text) :
    ¬['*', '/'] <:+: stripFrom region text := by
  have hrest : ∀ {c : Char} {rest : List Char}, ¬['*', '/'] <:+: c :: rest →
      ¬['*', '/'] <:+: rest := fun h hrest => h (pair_infix_cons_iff.mpr (.inr hrest))
  -- A star and a slash that are next to each other in what is left were so before.
  have hcons : ∀ {c : Char} {rest : List Char}, ¬['*', '/'] <:+: c :: rest →
      ¬['*', '/'] <:+: stripFrom .code rest → ¬['*', '/'] <:+: c :: stripFrom .code rest := by
    intro c rest h ih hpair
    rcases pair_infix_cons_iff.mp hpair with ⟨hc, hhead⟩ | hpair
    · exact h (pair_infix_cons_iff.mpr (.inl ⟨hc, head?_of_head?_stripFrom (by decide) hhead⟩))
    · exact ih hpair
  fun_induction stripFrom region text with
  | case1 => exact h
  | case2 rest hclosed => exact absurd (hasInfix_iff.mp hclosed) (hrest (hrest h))
  | case3 rest _ ih =>
    rw [pair_infix_cons_iff, not_or]
    exact ⟨by simp, hcons (hrest h) (ih (hrest (hrest h)))⟩
  | case4 rest ih =>
    rw [pair_infix_cons_iff, not_or]
    exact ⟨by simp, ih (hrest (hrest h))⟩
  | case5 c rest _ _ ih => exact hcons h (ih (hrest h))
  | case6 rest ih => exact ih (hrest (hrest h))
  | case7 c rest _ ih => exact ih (hrest h)
  | case8 rest ih =>
    rw [pair_infix_cons_iff, not_or]
    exact ⟨by simp, ih (hrest h)⟩
  | case9 c rest _ ih => exact ih (hrest h)

/-- One pass leaves no comments. -/
theorem commentFree_stripFrom (region : Region) (text : List Char) :
    CommentFree (stripFrom region text) := by
  fun_induction stripFrom region text with
  | case1 => exact ⟨by simp, by simp⟩
  | case2 rest _ ih => exact ih.cons_of_ne (by decide)
  | case3 rest hopen ih =>
    -- The block comment that starts here is never closed.
    have hunclosed : ¬['*', '/'] <:+: stripFrom .code rest :=
      not_infix_stripFrom fun hclosed => hopen (hasInfix_iff.mpr hclosed)
    refine (ih.cons_of_ne (c := '*') (by decide)).cons (by simp) fun _ tail htail => ?_
    obtain ⟨-, rfl⟩ := List.cons.inj htail
    exact hunclosed
  | case4 rest ih => exact ih.cons_of_ne (by decide)
  | case5 c rest hblock hline ih =>
    refine ih.cons (fun hc hhead => ?_) fun hc tail htail => ?_
    · obtain ⟨tail, rfl⟩ := List.head?_eq_some_iff.mp (head?_of_head?_stripFrom (by decide) hhead)
      exact (hline tail hc rfl).elim
    · have hhead : (stripFrom .code rest).head? = some '*' := by rw [htail]; rfl
      obtain ⟨tail, rfl⟩ := List.head?_eq_some_iff.mp (head?_of_head?_stripFrom (by decide) hhead)
      exact (hblock tail hc rfl).elim
  | case6 rest ih => exact ih
  | case7 c rest _ ih => exact ih
  | case8 rest ih => exact ih.cons_of_ne (by decide)
  | case9 c rest _ ih => exact ih

/-- A text without comments stays as it is. -/
theorem stripComments_eq_self {text : List Char} (h : CommentFree text) :
    stripComments text = text := by
  rw [stripComments]
  generalize hregion : Region.code = region
  fun_induction stripFrom region text with
  | case1 => rfl
  | case2 rest hclosed =>
    exact absurd (hasInfix_iff.mp hclosed) (h.block rest (List.suffix_refl _))
  | case3 rest _ ih =>
    have hrest := h.of_suffix (List.suffix_append ['/', '*'] rest)
    rw [ih hrest rfl]
  | case4 rest => exact absurd (List.prefix_append ['/', '/'] rest).isInfix h.line
  | case5 c rest _ _ ih => rw [ih (h.of_suffix (List.suffix_cons c rest)) rfl]
  | case6 => cases hregion
  | case7 => cases hregion
  | case8 => cases hregion
  | case9 => cases hregion

/-! ## Condensed text -/

/-- Collapsing makes no comments: the characters next to each other afterwards were so before. -/
theorem CommentFree.collapseChars {text : List Char} (h : CommentFree text) :
    CommentFree (Text.collapseChars text) := by
  have hrespaced : Respaced isBlank (trimStartChars text) (Text.collapseChars text) :=
    respaced_collapseChars rfl fun _ _ => rfl
  have hstart : CommentFree (trimStartChars text) := h.of_suffix (List.dropWhile_suffix _)
  refine ⟨fun hline => hstart.line ?_, fun rest hrest hclosed => ?_⟩
  · exact (hrespaced.infix_iff (List.cons_ne_nil _ _) (by simp [isBlank])).mpr hline
  · obtain ⟨opened, hopened, hafter⟩ := hrespaced.exists_suffix rfl hrest
    obtain ⟨rest', rfl, hrest'⟩ := (Respaced.cons_iff rfl).mp hafter.symm
    exact hstart.block rest' hopened
      ((hrest'.infix_iff (List.cons_ne_nil _ _) (by simp [isBlank])).mp hclosed)

/-- Condensed text has no line comment, no block comment that is closed, and no blanks but single
spaces between words. Condensing it again changes nothing. -/
theorem condense_leaves_no_comments (code : String) :
    CommentFree (condense code).toList ∧ Collapsed (condense code).toList ∧
      condense (condense code) = condense code := by
  have hfree : CommentFree (condense code).toList := by
    rw [condense, String.toList_ofList]
    exact (commentFree_stripFrom .code code.toList).collapseChars
  refine ⟨hfree, ?_, ?_⟩
  · rw [condense, String.toList_ofList]
    exact collapsed_collapseChars _
  · rw [condense, condenseChars, stripComments_eq_self hfree, condense, String.toList_ofList,
      condenseChars, collapseChars_collapseChars]

end TokenAudit.Text
