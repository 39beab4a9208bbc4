import Mathlib.Data.List.Induction
import TokenAudit.Pattern.Written

/-!
# Searching with marks

Marks are moved from where pieces start to where they end. This is told here for the shapes that
texts and blanks have: characters, runs of a set, and sequences of them.

## Main definitions

* `Written.Marks.Moves`: marks are moved over pieces of a kind.

## Main results

* `Written.Marks.Moves.trans`: moving twice moves over two pieces.
* `Written.Marks.moves_text`, `Written.Marks.moves_spread`: texts and runs of a set.
* `Written.Marks.any_iff_of_moves`: what a search finds that starts everywhere.
-/

namespace TokenAudit.Written

variable {text : List Char} {marks next last : Marks} {kind kind' : List Char → Prop}

namespace Marks

/-- The marks `next` stand where the pieces of a kind end that start at `marks`. -/
structure Moves (text : List Char) (kind : List Char → Prop) (marks next : Marks) : Prop where
  /-- There is a mark for every place. -/
  length : next.length = text.length + 1
  /-- A place is marked exactly if it is the end of such a piece. -/
  ends : ∀ front back, text = front ++ back → (next[front.length]? = some true ↔
    ∃ start piece, front = start ++ piece ∧ kind piece ∧ marks[start.length]? = some true)

/-- Marks that are moved over the empty piece stay. -/
theorem Moves.refl (hlength : marks.length = text.length + 1) :
    Moves text (· = []) marks marks := by
  refine ⟨hlength, fun front back _ => ⟨fun h => ⟨front, [], by simp, rfl, h⟩, ?_⟩⟩
  rintro ⟨start, piece, rfl, rfl, hstart⟩
  simpa using hstart

/-- Marks that are moved twice are moved over one piece after the other. -/
theorem Moves.trans (h : Moves text kind marks next) (h' : Moves text kind' next last) :
    Moves text (fun piece => ∃ first second, piece = first ++ second ∧ kind first ∧ kind' second)
      marks last := by
  refine ⟨h'.length, fun front back htext => ?_⟩
  rw [h'.ends front back htext]
  constructor
  · rintro ⟨middle, second, rfl, hsecond, hmiddle⟩
    obtain ⟨start, first, rfl, hfirst, hstart⟩ :=
      (h.ends middle (second ++ back) (by simp [htext])).mp hmiddle
    exact ⟨start, first ++ second, by simp, ⟨first, second, rfl, hfirst, hsecond⟩, hstart⟩
  · rintro ⟨start, _, rfl, ⟨first, second, rfl, hfirst, hsecond⟩, hstart⟩
    refine ⟨start ++ first, second, by simp, hsecond, ?_⟩
    exact (h.ends (start ++ first) (second ++ back) (by simp [htext])).mpr
      ⟨start, first, rfl, hfirst, hstart⟩

theorem Moves.congr (h : Moves text kind marks next) (hkind : ∀ piece, kind piece ↔ kind' piece) :
    Moves text kind' marks next := by
  have hsame : kind = kind' := funext fun piece => propext (hkind piece)
  exact hsame ▸ h

/-- One character that passes a test. -/
theorem moves_step (hlength : marks.length = text.length + 1) (test : Char → Bool) :
    Moves text (fun piece => ∃ c, piece = [c] ∧ test c = true) marks (marks.step test text) := by
  refine ⟨by simp [step, hlength], fun front back htext => ?_⟩
  rcases List.eq_nil_or_concat front with rfl | ⟨start, c, hfront⟩
  · refine iff_of_false (by simp [step]) ?_
    rintro ⟨start, piece, hfront, ⟨c, rfl, _⟩, _⟩
    exact List.cons_ne_nil c [] (List.append_eq_nil_iff.mp hfront.symm).2
  · rw [List.concat_eq_append] at hfront
    subst hfront
    have hc : text[start.length]? = some c := by simp [htext]
    have hmark : start.length < marks.length := by
      simp only [hlength, htext, List.length_append]
      omega
    have hnext : (marks.step test text)[(start ++ [c]).length]? =
        some (marks[start.length] && test c) := by
      simp [step, List.getElem?_zipWith, hc, List.getElem?_eq_getElem hmark]
    rw [hnext, Option.some_inj, Bool.and_eq_true]
    constructor
    · rintro ⟨hmarked, htest⟩
      exact ⟨start, [c], rfl, ⟨c, rfl, htest⟩, by rw [List.getElem?_eq_getElem hmark, hmarked]⟩
    · rintro ⟨start', piece, hfront, ⟨d, rfl, htest⟩, hmarked⟩
      obtain ⟨rfl, hlast⟩ := List.append_inj' hfront rfl
      obtain rfl := List.singleton_inj.mp hlast
      rw [List.getElem?_eq_getElem hmark] at hmarked
      exact ⟨Option.some.inj hmarked, htest⟩

/-- A text, character by character. -/
theorem moves_text (hlength : marks.length = text.length + 1) (chars : List Char) :
    Moves text (· = chars) marks
      (chars.foldl (fun marks c => marks.step (· == c) text) marks) := by
  induction chars generalizing marks with
  | nil => exact .refl hlength
  | cons c chars ih =>
    have hfirst := moves_step hlength (· == c)
    refine (hfirst.trans (ih hfirst.length)).congr fun piece => ?_
    constructor
    · rintro ⟨_, _, rfl, ⟨d, rfl, hd⟩, rfl⟩
      rw [eq_of_beq hd]
      rfl
    · rintro rfl
      exact ⟨[c], chars, rfl, ⟨c, rfl, beq_self_eq_true c⟩, rfl⟩

/-- Where characters that pass a test lead from marks, or from the first place if it is reached. -/
theorem spread_eq_true_iff {test : Char → Bool} {reached : Bool} {front back : List Char}
    (hlength : marks.length = (front ++ back).length + 1) :
    (marks.spread test reached (front ++ back))[front.length]? = some true ↔
      (∃ start piece, front = start ++ piece ∧ (∀ c ∈ piece, test c = true) ∧
        marks[start.length]? = some true) ∨
      (reached = true ∧ ∀ c ∈ front, test c = true) := by
  -- Along the text, where each character either is passed from the place before or is not.
  induction front generalizing marks reached with
  | nil =>
    obtain ⟨marked, marks, rfl⟩ := List.exists_cons_of_length_eq_add_one hlength
    have hfirst : (spread test reached back (marked :: marks))[0]? = some (marked || reached) := by
      cases back with
      | nil =>
        obtain rfl : marks = [] := by simpa using hlength
        rfl
      | cons c back => rfl
    rw [List.nil_append, List.length_nil, hfirst]
    simp
  | cons c front ih =>
    obtain ⟨marked, marks, rfl⟩ := List.exists_cons_of_length_eq_add_one hlength
    have hrest : marks.length = (front ++ back).length + 1 := by simpa using hlength
    rw [List.cons_append, spread, List.length_cons, List.getElem?_cons_succ, ih hrest]
    constructor
    · rintro (⟨start, piece, rfl, hpiece, hstart⟩ | ⟨hreached, hfront⟩)
      · exact .inl ⟨c :: start, piece, rfl, hpiece, by simpa using hstart⟩
      · obtain ⟨hhere, hc⟩ := Bool.and_eq_true_iff.mp hreached
        have hall : ∀ d ∈ c :: front, test d = true := List.forall_mem_cons.mpr ⟨hc, hfront⟩
        rcases Bool.or_eq_true_iff.mp hhere with rfl | hearlier
        · exact .inl ⟨[], c :: front, rfl, hall, rfl⟩
        · exact .inr ⟨hearlier, hall⟩
    · rintro (⟨start, piece, hfront, hpiece, hstart⟩ | ⟨hreached, hall⟩)
      · cases start with
        | nil =>
          obtain rfl : piece = c :: front := hfront.symm
          obtain ⟨hc, hrestOk⟩ := List.forall_mem_cons.mp hpiece
          obtain rfl : marked = true := by simpa using hstart
          exact .inr ⟨by simp [hc], hrestOk⟩
        | cons d start =>
          obtain ⟨rfl, rfl⟩ := List.cons.inj hfront
          exact .inl ⟨start, piece, rfl, hpiece, by simpa using hstart⟩
      · obtain ⟨hc, hfront⟩ := List.forall_mem_cons.mp hall
        exact .inr ⟨by simp [hreached, hc], hfront⟩

theorem length_spread {test : Char → Bool} {reached : Bool}
    (hlength : marks.length = text.length + 1) :
    (marks.spread test reached text).length = text.length + 1 := by
  induction text generalizing marks reached with
  | nil =>
    obtain ⟨marked, marks, rfl⟩ := List.exists_cons_of_length_eq_add_one hlength
    obtain rfl : marks = [] := by simpa using hlength
    rfl
  | cons c text ih =>
    obtain ⟨marked, marks, rfl⟩ := List.exists_cons_of_length_eq_add_one hlength
    rw [spread, List.length_cons, ih (by simpa using hlength), List.length_cons]

/-- Any number of characters that pass a test. -/
theorem moves_spread (hlength : marks.length = text.length + 1) (test : Char → Bool) :
    Moves text (fun piece => ∀ c ∈ piece, test c = true) marks (marks.spread test false text) := by
  refine ⟨length_spread hlength, fun front back htext => ?_⟩
  subst htext
  rw [spread_eq_true_iff hlength]
  simp

end Marks

/-- If all places are marked and the marks are moved over pieces of a kind, some mark is left exactly
if such a piece occurs. -/
theorem Marks.any_iff_of_moves (h : Marks.Moves text kind (.everywhere text) next) :
    next.any id = true ↔ ∃ piece, kind piece ∧ piece <:+: text := by
  constructor
  · intro hany
    obtain ⟨marked, hmem, hmarked⟩ := List.any_eq_true.mp hany
    obtain ⟨n, hn⟩ := List.getElem?_of_mem hmem
    have hle : n ≤ text.length := by
      have hlt := (List.getElem?_eq_some_iff.mp hn).1
      rw [h.length] at hlt
      omega
    -- The mark is the end of a piece in the text before it.
    have hend : next[(text.take n).length]? = some true := by
      rw [List.length_take_of_le hle, hn, ← hmarked]
      rfl
    obtain ⟨start, piece, hfront, hpiece, _⟩ :=
      (h.ends (text.take n) (text.drop n) (List.take_append_drop n text).symm).mp hend
    refine ⟨piece, hpiece, start, text.drop n, ?_⟩
    rw [← hfront, List.take_append_drop]
  · rintro ⟨piece, hpiece, start, back, rfl⟩
    have hstart : (Marks.everywhere (start ++ piece ++ back))[start.length]? = some true := by
      have hall : ∀ text, Marks.everywhere text = List.replicate (text.length + 1) true := by
        simp [Marks.everywhere, List.map_const', List.replicate_succ]
      rw [hall, List.getElem?_replicate_of_lt]
      simp only [List.length_append]
      omega
    have hend := (h.ends (start ++ piece) back rfl).mpr ⟨start, piece, rfl, hpiece, hstart⟩
    exact List.any_eq_true.mpr ⟨true, List.mem_of_getElem? hend, rfl⟩

end TokenAudit.Written
