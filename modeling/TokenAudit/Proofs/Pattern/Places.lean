import Mathlib.Data.List.Forall2
import TokenAudit.Proofs.Pattern.Groups

/-!
# Places that matching comes to

Seen from where matching starts, a place is told by the piece of text before it, and this piece by
the offset of the place. So the offsets that are kept apart while matching stand for the pieces that
were matched, and a repetition that visits every offset once misses none.

## Main definitions

* `Cursor.Passes`: one place is after a piece, seen from another.
* `Rounds.Explores`: what a visit adds to the places of a repetition.

## Main results

* `Cursor.mem_runEnds_iff`: the places after characters of a set.
* `Cursor.exists_mem_distinct`: a place is kept for each offset.
* `Rounds.explores_visit`: a visit misses no place that rounds lead to.
-/

namespace TokenAudit

open Text

/-! ## Pieces between places -/

namespace Cursor

/-- The place `last` is the one after `piece`, seen from `cursor`. -/
structure Passes (cursor : Cursor) (piece : List Char) (last : Cursor) : Prop where
  /-- The piece stands between the two places. -/
  rest : cursor.rest = piece ++ last.rest
  /-- The character before the later place is the last one of the piece. -/
  before : last.before = lastBefore cursor.before piece
  /-- The offset counts the bytes of the piece. -/
  offset : last.offset = cursor.offset + byteLength piece

variable {cursor middle last other : Cursor} {piece later : List Char}

theorem Passes.refl (cursor : Cursor) : cursor.Passes [] cursor :=
  ⟨rfl, rfl, rfl⟩

theorem Passes.trans (h : cursor.Passes piece middle) (h' : middle.Passes later last) :
    cursor.Passes (piece ++ later) last where
  rest := by rw [h.rest, h'.rest, List.append_assoc]
  before := by rw [h'.before, h.before, lastBefore_append]
  offset := by rw [h'.offset, h.offset, byteLength_append, Nat.add_assoc]

theorem passes_step {c : Char} {rest : List Char} (h : cursor.rest = c :: rest) :
    cursor.Passes [c] (cursor.step c rest) :=
  ⟨h, rfl, by simp [step]⟩

/-- The offset of a later place tells the piece before it. -/
theorem Passes.eq_of_offset_eq (h : cursor.Passes piece last) (h' : cursor.Passes later other)
    (hoffset : last.offset = other.offset) :
    piece = later ∧ last.rest = other.rest ∧ last.before = other.before := by
  have hlength : byteLength piece = byteLength later := by
    have := h.offset
    have := h'.offset
    omega
  obtain ⟨rfl, hrest⟩ := append_inj_of_byteLength (h.rest.symm.trans h'.rest) hlength
  exact ⟨rfl, hrest, h.before.trans h'.before.symm⟩

/-- A piece that stands at a place takes up bytes unless it is empty. -/
theorem Passes.offset_lt (h : cursor.Passes piece last) (hne : piece ≠ []) :
    cursor.offset < last.offset := by
  have hpos := List.length_pos_of_ne_nil hne
  have hbytes := length_le_byteLength piece
  have hoffset := h.offset
  omega

theorem passes_of_skipText? {chars : List Char} (h : cursor.skipText? chars = some last) :
    cursor.Passes chars last := by
  induction chars generalizing cursor with
  | nil =>
    cases h
    exact .refl _
  | cons c chars ih =>
    rw [skipText?] at h
    split at h
    · cases h
    · next x rest hrest =>
      split at h
      · next hx =>
        cases beq_iff_eq.mp hx
        exact (passes_step hrest).trans (ih h)
      · cases h

theorem exists_skipText? {chars rest : List Char} (h : cursor.rest = chars ++ rest) :
    ∃ last, cursor.skipText? chars = some last := by
  induction chars generalizing cursor with
  | nil => exact ⟨cursor, rfl⟩
  | cons c chars ih =>
    rw [List.cons_append] at h
    rw [skipText?, h]
    have hnext : ∃ last, (cursor.step c (chars ++ rest)).skipText? chars = some last := ih rfl
    simpa using hnext

theorem passes_of_skipTextAnyCase? {chars : List Char}
    (h : cursor.skipTextAnyCase? chars = some last) :
    ∃ piece, cursor.Passes piece last ∧
      List.Forall₂ (fun x c => x = c ∨ Unicode.foldCase x = Unicode.foldCase c) piece chars := by
  induction chars generalizing cursor with
  | nil =>
    cases h
    exact ⟨[], .refl _, .nil⟩
  | cons c chars ih =>
    rw [skipTextAnyCase?] at h
    split at h
    · cases h
    · next x rest hrest =>
      split at h
      · next hx =>
        obtain ⟨piece, hpasses, hpiece⟩ := ih h
        exact ⟨x :: piece, (passes_step hrest).trans hpasses, .cons (by simpa using hx) hpiece⟩
      · cases h

theorem exists_skipTextAnyCase? {chars rest : List Char} (h : cursor.rest = piece ++ rest)
    (hpiece : List.Forall₂ (fun x c => x = c ∨ Unicode.foldCase x = Unicode.foldCase c) piece
      chars) :
    ∃ last, cursor.skipTextAnyCase? chars = some last ∧ cursor.Passes piece last := by
  induction hpiece generalizing cursor with
  | nil => exact ⟨cursor, rfl, .refl cursor⟩
  | @cons x c piece chars hx _ ih =>
    rw [List.cons_append] at h
    have hnext : (cursor.step x (piece ++ rest)).rest = piece ++ rest := rfl
    obtain ⟨last, hskip, hpasses⟩ := ih hnext
    refine ⟨last, ?_, (passes_step h).trans hpasses⟩
    rw [skipTextAnyCase?, h]
    simpa using ⟨hx, hskip⟩

/-- Skipping characters of a set stops after each of them. -/
theorem mem_runEnds_iff {set : CharSet} {before : Option Char} {offset : Nat}
    {groups : List (Nat × List Char)} {nearer : List Cursor} {text : List Char} :
    last ∈ runEnds set before offset groups nearer text ↔
      last ∈ nearer ∨ ∃ piece rest, text = piece ++ rest ∧ (∀ c ∈ piece, set.contains c = true) ∧
        last = ⟨lastBefore before piece, rest, offset + byteLength piece, groups⟩ := by
  induction text generalizing before offset nearer with
  | nil =>
    rw [runEnds, List.mem_cons, or_comm]
    refine or_congr_right ⟨?_, ?_⟩
    · rintro rfl
      exact ⟨[], [], rfl, by simp, rfl⟩
    · rintro ⟨piece, rest, htext, _, rfl⟩
      obtain ⟨rfl, rfl⟩ := List.append_eq_nil_iff.mp htext.symm
      rfl
  | cons c rest ih =>
    -- The run may always end before the next character, with nothing skipped.
    have hhere : (⟨before, c :: rest, offset, groups⟩ : Cursor) =
        ⟨lastBefore before [], c :: rest, offset + byteLength [], groups⟩ := rfl
    rw [runEnds]
    split
    · next hc =>
      rw [ih, List.mem_cons, or_comm (a := last = _), or_assoc]
      refine or_congr_right ⟨?_, ?_⟩
      · rintro (rfl | ⟨piece, after, rfl, hpiece, rfl⟩)
        · exact ⟨[], c :: rest, rfl, by simp, hhere⟩
        · refine ⟨c :: piece, after, rfl, List.forall_mem_cons.mpr ⟨hc, hpiece⟩, ?_⟩
          rw [lastBefore_cons, byteLength_cons, Nat.add_assoc]
      · rintro ⟨piece, after, htext, hpiece, rfl⟩
        cases piece with
        | nil =>
          cases htext
          exact .inl hhere.symm
        | cons d piece =>
          obtain ⟨rfl, rfl⟩ := List.cons.inj htext
          refine .inr ⟨piece, after, rfl, (List.forall_mem_cons.mp hpiece).2, ?_⟩
          rw [lastBefore_cons, byteLength_cons, Nat.add_assoc]
    · next hc =>
      rw [List.mem_cons, or_comm]
      refine or_congr_right ⟨?_, ?_⟩
      · rintro rfl
        exact ⟨[], c :: rest, rfl, by simp, hhere⟩
      · rintro ⟨piece, after, htext, hpiece, rfl⟩
        cases piece with
        | nil =>
          cases htext
          exact hhere.symm
        | cons d piece =>
          obtain ⟨rfl, rfl⟩ := List.cons.inj htext
          exact absurd (hpiece c List.mem_cons_self) hc

/-- Of places with one offset, one is kept. -/
theorem exists_mem_distinctFrom {seen : List Nat} {places : List Cursor}
    (h : cursor ∈ places) (hseen : cursor.offset ∉ seen) :
    ∃ kept ∈ distinctFrom seen places, kept.offset = cursor.offset := by
  induction places generalizing seen with
  | nil => exact absurd h List.not_mem_nil
  | cons place rest ih =>
    rw [distinctFrom]
    by_cases hsame : place.offset = cursor.offset
    · -- The first place with the offset is the one that is kept.
      rw [hsame, if_neg (by simpa using hseen)]
      exact ⟨place, List.mem_cons_self, hsame⟩
    · have hrest : cursor ∈ rest := by
        rcases List.mem_cons.mp h with rfl | hrest
        · exact absurd rfl hsame
        · exact hrest
      split
      · exact ih hrest hseen
      · have hnew : cursor.offset ∉ place.offset :: seen := by
          simpa using ⟨fun heq => hsame heq.symm, hseen⟩
        obtain ⟨kept, hkept, hoffset⟩ := ih hrest hnew
        exact ⟨kept, List.mem_cons_of_mem place hkept, hoffset⟩

theorem exists_mem_distinct {places : List Cursor} (h : cursor ∈ places) :
    ∃ kept ∈ distinct places, kept.offset = cursor.offset := by
  unfold distinct
  split
  · exact absurd h List.not_mem_nil
  · exact ⟨cursor, h, rfl⟩
  · exact exists_mem_distinctFrom h List.not_mem_nil

end Cursor

/-! ## Repetitions -/

namespace Rounds

/-- Every place seen from `root` at an offset has been left by each nonempty round that is possible
there. -/
def Left (round : Option Char → List Char → List Char → Prop) (root : Cursor) (seen : List Nat)
    (offset : Nat) : Prop :=
  ∀ piece place, root.Passes piece place → place.offset = offset →
    ∀ first rest, place.rest = first ++ rest → round place.before first rest → first ≠ [] →
      offset + byteLength first ∈ seen

/-- What a visit adds: each new offset has a place that was found, and has been left by every
round. -/
structure Explores (round : Option Char → List Char → List Char → Prop) (root : Cursor)
    (start after : Rounds) : Prop where
  seen : start.seen ⊆ after.seen
  found : start.found ⊆ after.found
  new : ∀ offset ∈ after.seen, offset ∉ start.seen →
    (∃ place ∈ after.found, place.offset = offset) ∧ Left round root after.seen offset

variable {round : Option Char → List Char → List Char → Prop} {root : Cursor}
  {start middle after : Rounds}

theorem Explores.refl (start : Rounds) : Explores round root start start :=
  ⟨List.Subset.refl _, List.Subset.refl _, fun _ hnew hold => absurd hnew hold⟩

theorem Left.mono {seen seen' : List Nat} {offset : Nat} (h : Left round root seen offset)
    (hseen : seen ⊆ seen') : Left round root seen' offset :=
  fun piece place hpasses hoffset first rest hrest hround hne =>
    hseen (h piece place hpasses hoffset first rest hrest hround hne)

theorem Explores.trans (h : Explores round root start middle)
    (h' : Explores round root middle after) : Explores round root start after where
  seen := List.Subset.trans h.seen h'.seen
  found := List.Subset.trans h.found h'.found
  new offset hnew hold := by
    -- What the first visit has left stays left, since the second only adds offsets.
    by_cases hmiddle : offset ∈ middle.seen
    · obtain ⟨⟨place, hplace, hoffset⟩, hleft⟩ := h.new offset hmiddle hold
      exact ⟨⟨place, h'.found hplace, hoffset⟩, hleft.mono h'.seen⟩
    · exact h'.new offset hnew hmiddle

/-- Visits one after the other explore what each of them explores. -/
theorem explores_foldl {visits : Rounds → Cursor → Rounds} {places : List Cursor}
    (hvisits : ∀ start, ∀ place ∈ places, Explores round root start (visits start place) ∧
      place.offset ∈ (visits start place).seen) (start : Rounds) :
    Explores round root start (places.foldl visits start) ∧
      ∀ place ∈ places, place.offset ∈ (places.foldl visits start).seen := by
  induction places generalizing start with
  | nil => exact ⟨.refl start, fun place hplace => absurd hplace List.not_mem_nil⟩
  | cons place rest ih =>
    obtain ⟨hfirst, hseen⟩ := hvisits start place List.mem_cons_self
    obtain ⟨hrest, hlater⟩ := ih
      (fun start other hother => hvisits start other (List.mem_cons_of_mem place hother))
      (visits start place)
    rw [List.foldl_cons]
    exact ⟨hfirst.trans hrest, List.forall_mem_cons.mpr ⟨hrest.seen hseen, hlater⟩⟩

/-- A place is explored once what lies ahead of it is and it is counted among the places found. -/
theorem Explores.add_place {cursor : Cursor} {ahead : Rounds}
    (h : Explores round root ahead after) (hahead : ahead.seen = cursor.offset :: start.seen)
    {last : Rounds} (hseen : last.seen = after.seen) (hfound : after.found ⊆ last.found)
    (hstart : start.found ⊆ last.found) (hcursor : cursor ∈ last.found)
    (hleft : Left round root after.seen cursor.offset) : Explores round root start last where
  seen offset hoffset := by
    rw [hseen]
    exact h.seen (hahead ▸ List.mem_cons_of_mem _ hoffset)
  found := hstart
  new offset hnew hold := by
    rw [hseen] at hnew ⊢
    by_cases hhere : offset = cursor.offset
    · exact ⟨⟨cursor, hcursor, hhere.symm⟩, hhere ▸ hleft⟩
    · obtain ⟨⟨place, hplace, hoffset⟩, hleft⟩ := h.new offset hnew (by
        rw [hahead, List.mem_cons]
        exact not_or.mpr ⟨hhere, hold⟩)
      exact ⟨⟨place, hfound hplace, hoffset⟩, hleft⟩

/-- A visit explores what lies ahead of a place, if one round finds all that it can and each round
that is counted moves on. -/
theorem explores_visit {next : Cursor → List Cursor}
    (hsound : ∀ cursor, ∀ last ∈ next cursor, ∃ piece, cursor.Passes piece last)
    (hcomplete : ∀ cursor first rest, cursor.rest = first ++ rest →
      round cursor.before first rest → ∃ last ∈ next cursor, cursor.Passes first last)
    (greedy : Bool) (fuel : Nat) (start : Rounds) {piece : List Char} {cursor : Cursor}
    (hcursor : root.Passes piece cursor) (hfuel : cursor.rest.length ≤ fuel) :
    Explores round root start (visit next greedy fuel start cursor) ∧
      cursor.offset ∈ (visit next greedy fuel start cursor).seen := by
  induction fuel generalizing start piece cursor with
  | zero =>
    rw [visit]
    split
    · next hseen => exact ⟨.refl start, by simpa using hseen⟩
    · refine ⟨⟨List.subset_cons_self .., List.subset_cons_self .., fun offset hnew hold => ?_⟩,
        List.mem_cons_self⟩
      have hoffset : offset = cursor.offset := (List.mem_cons.mp hnew).resolve_right hold
      refine ⟨⟨cursor, List.mem_cons_self, hoffset.symm⟩, ?_⟩
      -- Nothing is left of the text, so no round moves on.
      intro piece' place hplace hsame first rest hrest _ hne
      obtain ⟨_, hrest', _⟩ := hplace.eq_of_offset_eq hcursor (hsame.trans hoffset)
      rw [hrest', List.length_eq_zero_iff.mp (Nat.le_zero.mp hfuel)] at hrest
      exact absurd (List.append_eq_nil_iff.mp hrest.symm).1 hne
  | succ fuel ih =>
    rw [visit]
    split
    · next hseen => exact ⟨.refl start, by simpa using hseen⟩
    · set further := (next cursor).filter (cursor.offset < ·.offset) with hfurther
      have hvisits : ∀ start, ∀ place ∈ further,
          Explores round root start (visit next greedy fuel start place) ∧
            place.offset ∈ (visit next greedy fuel start place).seen := by
        intro start place hplace
        obtain ⟨hnext, hahead⟩ := List.mem_filter.mp hplace
        obtain ⟨first, hfirst⟩ := hsound cursor place hnext
        refine ih start (hcursor.trans hfirst) ?_
        have hne : first ≠ [] := by
          rintro rfl
          simp [hfirst.offset] at hahead
        have hlength := congrArg List.length hfirst.rest
        rw [List.length_append] at hlength
        have := List.length_pos_of_ne_nil hne
        omega
      -- Whatever round is possible at this offset leads to one of the places that are visited next.
      have hleft {seen : List Nat} (hseen : ∀ place ∈ further, place.offset ∈ seen) :
          Left round root seen cursor.offset := by
        intro piece' place hplace hsame first rest hrest hround hne
        obtain ⟨_, hrest', hbefore⟩ := hplace.eq_of_offset_eq hcursor hsame
        rw [hrest'] at hrest
        rw [hbefore] at hround
        obtain ⟨last, hlast, hpasses⟩ := hcomplete cursor first rest hrest hround
        rw [← hpasses.offset]
        refine hseen last (List.mem_filter.mpr ⟨hlast, ?_⟩)
        exact decide_eq_true (hpasses.offset_lt hne)
      dsimp only
      split
      · obtain ⟨hexplores, hahead⟩ := explores_foldl hvisits
          ⟨cursor.offset :: start.seen, start.found⟩
        exact ⟨hexplores.add_place rfl rfl (List.subset_cons_self ..)
          (List.subset_cons_of_subset _ hexplores.found) List.mem_cons_self (hleft hahead),
          hexplores.seen List.mem_cons_self⟩
      · obtain ⟨hexplores, hahead⟩ := explores_foldl hvisits
          ⟨cursor.offset :: start.seen, cursor :: start.found⟩
        exact ⟨hexplores.add_place rfl rfl (List.Subset.refl _)
          (List.Subset.trans (List.subset_cons_self ..) hexplores.found)
          (hexplores.found List.mem_cons_self) (hleft hahead), hexplores.seen List.mem_cons_self⟩

end Rounds

end TokenAudit
