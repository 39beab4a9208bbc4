import TokenAudit.Proofs.Pattern.Places

/-!
# The language of a pattern

A pattern describes pieces of text by how it is put together, whatever a search does. Matching lists
the places after exactly these pieces, and a search finds the first place where such a piece starts.
Which of several pieces is preferred, and what is remembered of it, has no part in this.

## Main definitions

* `Pattern.Reads`: the pieces that a pattern describes, in their surroundings.
* `Pattern.StartsAt`: such a piece stands at the start of a text.

## Main results

* `Pattern.exists_passes_of_mem_ends`, `Pattern.exists_mem_ends_of_reads`: matching is sound and
  complete.
* `Pattern.find?_eq_some_start`, `Pattern.find?_eq_none_iff`: a search finds the first place where a
  piece starts, and nothing only if there is no such place.
-/

namespace TokenAudit

open Text

/-! ## Pieces -/

/-- Any number of pieces of one kind, one after the other. -/
inductive ReadsRounds (round : Option Char → List Char → List Char → Prop) :
    Option Char → List Char → List Char → Prop
  | none {before : Option Char} {rest : List Char} : ReadsRounds round before [] rest
  | more {before : Option Char} {first later rest : List Char} :
      round before first (later ++ rest) → ReadsRounds round (lastBefore before first) later rest →
      ReadsRounds round before (first ++ later) rest

/-- One more piece after the others. -/
theorem ReadsRounds.concat {round : Option Char → List Char → List Char → Prop}
    {before : Option Char} {piece last rest after : List Char}
    (h : ReadsRounds round before piece after) (hafter : after = last ++ rest)
    (hlast : round (lastBefore before piece) last rest) :
    ReadsRounds round before (piece ++ last) rest := by
  induction h with
  | none =>
    have hone : ReadsRounds round _ (last ++ []) rest := .more (by simpa using hlast) .none
    simpa using hone
  | more hfirst _ ih =>
    subst hafter
    rw [lastBefore_append] at hlast
    rw [List.append_assoc]
    exact .more (by rwa [List.append_assoc]) (ih rfl hlast)

namespace Pattern

/-- The pattern describes `piece`, where the character before it is `before` and the text after it
is `rest`. -/
def Reads : Pattern → Option Char → List Char → List Char → Prop
  | empty, _, piece, _ => piece = []
  | text chars, _, piece, _ => piece = chars
  | textAnyCase chars, _, piece, _ =>
    List.Forall₂ (fun x c => x = c ∨ Unicode.foldCase x = Unicode.foldCase c) piece chars
  | one set, _, piece, _ => ∃ c, piece = [c] ∧ set.contains c = true
  | run _ set, _, piece, _ => ∀ c ∈ piece, set.contains c = true
  | seq first second, before, piece, rest =>
    ∃ front back, piece = front ++ back ∧ first.Reads before front (back ++ rest) ∧
      second.Reads (lastBefore before front) back rest
  | either first second, before, piece, rest =>
    first.Reads before piece rest ∨ second.Reads before piece rest
  | star _ body, before, piece, rest => ReadsRounds body.Reads before piece rest
  | group _ body, before, piece, rest => body.Reads before piece rest
  | edge condition, before, piece, rest => piece = [] ∧ condition.holds before rest.head? = true

/-- A piece that the pattern describes stands at the start of the text. -/
def StartsAt (p : Pattern) (before : Option Char) (text : List Char) : Prop :=
  ∃ piece rest, text = piece ++ rest ∧ p.Reads before piece rest

end Pattern

/-- Once every offset that was seen has been left, all rounds lead to offsets that were seen. -/
theorem Rounds.mem_seen_of_readsRounds {round : Option Char → List Char → List Char → Prop}
    {root : Cursor} {seen : List Nat}
    (hleft : ∀ offset ∈ seen, Left round root seen offset) {before : Option Char}
    {piece rest : List Char} (h : ReadsRounds round before piece rest) {front : List Char}
    {cursor : Cursor} (hcursor : root.Passes front cursor) (hbefore : cursor.before = before)
    (hrest : cursor.rest = piece ++ rest) (hseen : cursor.offset ∈ seen) :
    cursor.offset + byteLength piece ∈ seen := by
  induction h generalizing front cursor with
  | none => exact hseen
  | @more before first later rest hround _ ih =>
    -- A round without characters leads nowhere and may be left out.
    by_cases hne : first = []
    · subst hne
      exact ih hcursor hbefore hrest hseen
    · rw [List.append_assoc] at hrest
      have hnext := hleft _ hseen front cursor hcursor rfl first (later ++ rest) hrest
        (hbefore ▸ hround) hne
      have hpasses : cursor.Passes first ⟨lastBefore before first, later ++ rest,
          cursor.offset + byteLength first, cursor.groups⟩ := ⟨hrest, by rw [hbefore], rfl⟩
      rw [byteLength_append, ← Nat.add_assoc]
      exact ih (hcursor.trans hpasses) rfl rfl hnext

/-! ## Matching -/

namespace Pattern

/-- Matching ends only after pieces that the pattern describes. -/
theorem exists_passes_of_mem_ends {p : Pattern} {cursor last : Cursor}
    (h : last ∈ p.ends cursor) :
    ∃ piece, cursor.Passes piece last ∧ p.Reads cursor.before piece last.rest := by
  induction p generalizing cursor last with
  | empty =>
    cases List.mem_singleton.mp h
    exact ⟨[], .refl cursor, rfl⟩
  | text chars =>
    rw [ends, Option.mem_toList] at h
    exact ⟨chars, Cursor.passes_of_skipText? h, rfl⟩
  | textAnyCase chars =>
    rw [ends, Option.mem_toList] at h
    exact Cursor.passes_of_skipTextAnyCase? h
  | one set =>
    rw [ends] at h
    split at h
    · exact absurd h List.not_mem_nil
    · next c rest hrest =>
      split at h
      · next hc =>
        cases List.mem_singleton.mp h
        exact ⟨[c], Cursor.passes_step hrest, c, rfl, hc⟩
      · exact absurd h List.not_mem_nil
  | run greedy set =>
    -- Greedy or not, the same places are listed, in one order or the other.
    have hrun :
        last ∈ Cursor.runEnds set cursor.before cursor.offset cursor.groups [] cursor.rest := by
      rw [ends] at h
      split at h
      · exact h
      · exact List.mem_reverse.mp h
    rcases Cursor.mem_runEnds_iff.mp hrun with hnil | ⟨piece, rest, hrest, hpiece, rfl⟩
    · exact absurd hnil List.not_mem_nil
    · exact ⟨piece, ⟨hrest, rfl, rfl⟩, hpiece⟩
  | seq first second ihFirst ihSecond =>
    obtain ⟨middle, hmiddle, hlast⟩ := List.mem_flatMap.mp (Cursor.mem_of_mem_distinct h)
    obtain ⟨front, hfront, hfirst⟩ := ihFirst hmiddle
    obtain ⟨back, hback, hsecond⟩ := ihSecond hlast
    rw [hback.rest] at hfirst
    rw [hfront.before] at hsecond
    exact ⟨front ++ back, hfront.trans hback, front, back, rfl, hfirst, hsecond⟩
  | either first second ihFirst ihSecond =>
    rcases List.mem_append.mp (Cursor.mem_of_mem_distinct h) with hlast | hlast
    · obtain ⟨piece, hpasses, hreads⟩ := ihFirst hlast
      exact ⟨piece, hpasses, .inl hreads⟩
    · obtain ⟨piece, hpasses, hreads⟩ := ihSecond hlast
      exact ⟨piece, hpasses, .inr hreads⟩
  | star greedy body ih =>
    rw [ends, List.mem_reverse] at h
    -- Every place that is found lies after some rounds, and one more round adds its piece.
    refine Rounds.visit_found (q := fun place => ∃ piece, cursor.Passes piece place ∧
      ReadsRounds body.Reads cursor.before piece place.rest) ?_ greedy _
      (fun place hplace => absurd hplace List.not_mem_nil) ⟨[], .refl cursor, .none⟩ last h
    rintro place ⟨piece, hpasses, hrounds⟩ next hnext
    obtain ⟨first, hfirst, hreads⟩ := ih hnext
    rw [hpasses.before] at hreads
    exact ⟨piece ++ first, hpasses.trans hfirst, hrounds.concat hfirst.rest hreads⟩
  | group index body ih =>
    obtain ⟨inner, hinner, rfl⟩ := List.mem_map.mp h
    obtain ⟨piece, hpasses, hreads⟩ := ih hinner
    exact ⟨piece, ⟨hpasses.rest, hpasses.before, hpasses.offset⟩, hreads⟩
  | edge condition =>
    rw [ends] at h
    split at h
    · next hholds =>
      cases List.mem_singleton.mp h
      exact ⟨[], .refl cursor, rfl, hholds⟩
    · exact absurd h List.not_mem_nil

/-- Of places after one piece, one is kept. -/
theorem exists_mem_distinct_passes {places : List Cursor} {cursor last : Cursor}
    {piece : List Char} (hplaces : ∀ place ∈ places, ∃ piece, cursor.Passes piece place)
    (hlast : last ∈ places) (hpasses : cursor.Passes piece last) :
    ∃ kept ∈ Cursor.distinct places, cursor.Passes piece kept := by
  obtain ⟨kept, hkept, hoffset⟩ := Cursor.exists_mem_distinct hlast
  obtain ⟨other, hother⟩ := hplaces kept (Cursor.mem_of_mem_distinct hkept)
  obtain ⟨rfl, _⟩ := hpasses.eq_of_offset_eq hother hoffset.symm
  exact ⟨kept, hkept, hother⟩

/-- Matching ends after every piece that the pattern describes. -/
theorem exists_mem_ends_of_reads {p : Pattern} {cursor : Cursor} {piece rest : List Char}
    (hrest : cursor.rest = piece ++ rest) (h : p.Reads cursor.before piece rest) :
    ∃ last ∈ p.ends cursor, cursor.Passes piece last := by
  induction p generalizing cursor piece rest with
  | empty =>
    subst h
    exact ⟨cursor, List.mem_singleton_self _, .refl cursor⟩
  | text chars =>
    subst h
    obtain ⟨last, hskip⟩ := Cursor.exists_skipText? hrest
    exact ⟨last, by rw [ends, Option.mem_toList]; exact hskip, Cursor.passes_of_skipText? hskip⟩
  | textAnyCase chars =>
    obtain ⟨last, hskip, hpasses⟩ := Cursor.exists_skipTextAnyCase? hrest h
    exact ⟨last, by rw [ends, Option.mem_toList]; exact hskip, hpasses⟩
  | one set =>
    obtain ⟨c, rfl, hc⟩ := h
    refine ⟨cursor.step c rest, ?_, Cursor.passes_step hrest⟩
    rw [ends, hrest]
    simp [hc]
  | run greedy set =>
    refine ⟨⟨lastBefore cursor.before piece, rest, cursor.offset + byteLength piece,
      cursor.groups⟩, ?_, hrest, rfl, rfl⟩
    have hrun : ⟨lastBefore cursor.before piece, rest, cursor.offset + byteLength piece,
        cursor.groups⟩ ∈
        Cursor.runEnds set cursor.before cursor.offset cursor.groups [] cursor.rest :=
      Cursor.mem_runEnds_iff.mpr (.inr ⟨piece, rest, hrest, h, rfl⟩)
    rw [ends]
    split
    · exact hrun
    · exact List.mem_reverse.mpr hrun
  | seq first second ihFirst ihSecond =>
    obtain ⟨front, back, rfl, hfirst, hsecond⟩ := h
    rw [List.append_assoc] at hrest
    obtain ⟨middle, hmiddle, hfront⟩ := ihFirst hrest hfirst
    -- The second part is matched wherever the first ends, and so also after its piece.
    have hmiddleRest : middle.rest = back ++ rest :=
      List.append_cancel_left (hfront.rest.symm.trans hrest)
    rw [← hfront.before] at hsecond
    obtain ⟨last, hlast, hback⟩ := ihSecond hmiddleRest hsecond
    refine exists_mem_distinct_passes (fun place hplace => ?_)
      (List.mem_flatMap.mpr ⟨middle, hmiddle, hlast⟩) (hfront.trans hback)
    obtain ⟨via, hvia, hplace⟩ := List.mem_flatMap.mp hplace
    obtain ⟨_, hpassesVia, _⟩ := exists_passes_of_mem_ends hvia
    obtain ⟨_, hpassesPlace, _⟩ := exists_passes_of_mem_ends hplace
    exact ⟨_, hpassesVia.trans hpassesPlace⟩
  | either first second ihFirst ihSecond =>
    have hplaces : ∀ place ∈ first.ends cursor ++ second.ends cursor,
        ∃ piece, cursor.Passes piece place := by
      intro place hplace
      rcases List.mem_append.mp hplace with hplace | hplace
      · obtain ⟨piece, hpasses, _⟩ := exists_passes_of_mem_ends hplace
        exact ⟨piece, hpasses⟩
      · obtain ⟨piece, hpasses, _⟩ := exists_passes_of_mem_ends hplace
        exact ⟨piece, hpasses⟩
    rcases h with hreads | hreads
    · obtain ⟨last, hlast, hpasses⟩ := ihFirst hrest hreads
      exact exists_mem_distinct_passes hplaces (List.mem_append_left _ hlast) hpasses
    · obtain ⟨last, hlast, hpasses⟩ := ihSecond hrest hreads
      exact exists_mem_distinct_passes hplaces (List.mem_append_right _ hlast) hpasses
  | star greedy body ih =>
    have hsound : ∀ cursor, ∀ last ∈ body.ends cursor, ∃ piece, cursor.Passes piece last :=
      fun cursor last hlast => (exists_passes_of_mem_ends hlast).imp fun _ h => h.1
    have hcomplete : ∀ cursor first rest, cursor.rest = first ++ rest →
        body.Reads cursor.before first rest → ∃ last ∈ body.ends cursor, cursor.Passes first last :=
      fun cursor first rest => ih
    obtain ⟨hexplores, hseen⟩ := Rounds.explores_visit hsound hcomplete greedy cursor.rest.length
      ⟨[], []⟩ (.refl cursor) (Nat.le_refl _)
    -- Every offset that was seen has been left, so the offset after all rounds was seen as well.
    have hreached := Rounds.mem_seen_of_readsRounds
      (fun offset hoffset => (hexplores.new offset hoffset List.not_mem_nil).2) h (.refl cursor) rfl
      hrest hseen
    obtain ⟨⟨last, hlast, hoffset⟩, _⟩ := hexplores.new _ hreached List.not_mem_nil
    have hends : last ∈ (star greedy body).ends cursor := by
      rw [ends, List.mem_reverse]
      exact hlast
    obtain ⟨other, hother, _⟩ := exists_passes_of_mem_ends hends
    -- The piece before the place that was found takes as many bytes, so it is the same.
    obtain ⟨rfl, _⟩ := append_inj_of_byteLength (hrest.symm.trans hother.rest) (by
      have := hother.offset
      omega)
    exact ⟨last, hends, hother⟩
  | group index body ih =>
    obtain ⟨inner, hinner, hpasses⟩ := ih hrest h
    exact ⟨cursor.remember inner index, List.mem_map_of_mem hinner, hpasses.rest, hpasses.before,
      hpasses.offset⟩
  | edge condition =>
    obtain ⟨rfl, hholds⟩ := h
    rw [List.nil_append] at hrest
    refine ⟨cursor, ?_, .refl cursor⟩
    rw [ends, hrest, if_pos hholds]
    exact List.mem_singleton_self _

/-- Matching ends somewhere exactly if a piece starts here. -/
theorem ends_ne_nil_iff (p : Pattern) (cursor : Cursor) :
    p.ends cursor ≠ [] ↔ p.StartsAt cursor.before cursor.rest := by
  constructor
  · intro h
    obtain ⟨last, hlast⟩ := List.exists_mem_of_ne_nil _ h
    obtain ⟨piece, hpasses, hreads⟩ := exists_passes_of_mem_ends hlast
    exact ⟨piece, last.rest, hpasses.rest, hreads⟩
  · rintro ⟨piece, rest, hrest, hreads⟩
    obtain ⟨last, hlast, _⟩ := exists_mem_ends_of_reads hrest hreads
    exact List.ne_nil_of_mem hlast

/-! ## Searching -/

/-- A search finds a piece at the first place where one starts. -/
theorem findFrom_eq_some {p : Pattern} {before : Option Char} {offset : Nat} {text : List Char}
    {found : Found} (h : p.findFrom before offset text = some found) :
    ∃ skipped piece rest, text = skipped ++ (piece ++ rest) ∧
      found.start = offset + byteLength skipped ∧ found.stop = found.start + byteLength piece ∧
      p.Reads (lastBefore before skipped) piece rest ∧
      ∀ earlier later, text = earlier ++ later → earlier.length < skipped.length →
        ¬p.StartsAt (lastBefore before earlier) later := by
  induction text generalizing before offset with
  | nil =>
    rw [findFrom, Option.map_eq_some_iff] at h
    obtain ⟨last, hlast, rfl⟩ := h
    obtain ⟨piece, hpasses, hreads⟩ := exists_passes_of_mem_ends (List.mem_of_mem_head? hlast)
    exact ⟨[], piece, last.rest, hpasses.rest, rfl, hpasses.offset, hreads,
      fun earlier later _ hlt => absurd hlt (Nat.not_lt_zero _)⟩
  | cons c rest ih =>
    rw [findFrom] at h
    split at h
    · next last _ hends =>
      cases h
      have hlast : last ∈ p.ends ⟨before, c :: rest, offset, []⟩ := by
        rw [hends]
        exact List.mem_cons_self
      obtain ⟨piece, hpasses, hreads⟩ := exists_passes_of_mem_ends hlast
      exact ⟨[], piece, last.rest, hpasses.rest, rfl, hpasses.offset, hreads,
        fun earlier later _ hlt => absurd hlt (Nat.not_lt_zero _)⟩
    · next hends =>
      obtain ⟨skipped, piece, after, rfl, hstart, hstop, hreads, hfirst⟩ := ih h
      refine ⟨c :: skipped, piece, after, rfl, ?_, hstop, by rwa [lastBefore_cons], ?_⟩
      · rw [hstart, byteLength_cons, Nat.add_assoc]
      · intro earlier later htext hlt
        cases earlier with
        | nil =>
          rw [List.nil_append] at htext
          rw [lastBefore_nil, ← htext]
          exact fun hstarts => (ends_ne_nil_iff p ⟨before, _, offset, []⟩).mpr hstarts hends
        | cons d earlier =>
          obtain ⟨rfl, hrest⟩ := List.cons.inj htext
          rw [lastBefore_cons]
          exact hfirst earlier later hrest (Nat.lt_of_succ_lt_succ hlt)

/-- A search finds nothing exactly if no piece starts anywhere. -/
theorem findFrom_eq_none_iff {p : Pattern} {before : Option Char} {offset : Nat}
    {text : List Char} :
    p.findFrom before offset text = none ↔
      ∀ earlier later, text = earlier ++ later → ¬p.StartsAt (lastBefore before earlier) later := by
  constructor
  · intro h
    induction text generalizing before offset with
    | nil =>
      intro earlier later htext
      obtain ⟨rfl, rfl⟩ := List.append_eq_nil_iff.mp htext.symm
      rw [findFrom, Option.map_eq_none_iff, List.head?_eq_none_iff] at h
      exact fun hstarts => (ends_ne_nil_iff p ⟨before, [], offset, []⟩).mpr hstarts h
    | cons c rest ih =>
      intro earlier later htext
      rw [findFrom] at h
      split at h
      · cases h
      · next hends =>
        cases earlier with
        | nil =>
          rw [List.nil_append] at htext
          rw [lastBefore_nil, ← htext]
          exact fun hstarts => (ends_ne_nil_iff p ⟨before, _, offset, []⟩).mpr hstarts hends
        | cons d earlier =>
          obtain ⟨rfl, hrest⟩ := List.cons.inj htext
          rw [lastBefore_cons]
          exact ih h earlier later hrest
  · intro h
    cases hfind : p.findFrom before offset text with
    | none => rfl
    | some found =>
      obtain ⟨skipped, piece, rest, htext, _, _, hreads, _⟩ := findFrom_eq_some hfind
      exact absurd ⟨piece, rest, rfl, hreads⟩ (h skipped (piece ++ rest) htext)

/-- A search finds a piece at the first place of the text where one starts. -/
theorem find?_eq_some_start {p : Pattern} {text : List Char} {found : Found}
    (h : p.find? text = some found) :
    ∃ skipped piece rest, text = skipped ++ (piece ++ rest) ∧ found.start = byteLength skipped ∧
      found.stop = found.start + byteLength piece ∧ p.Reads skipped.getLast? piece rest ∧
      ∀ earlier later, text = earlier ++ later → earlier.length < skipped.length →
        ¬p.StartsAt earlier.getLast? later := by
  obtain ⟨skipped, piece, rest, htext, hstart, hstop, hreads, hfirst⟩ := findFrom_eq_some h
  rw [Nat.zero_add] at hstart
  simp only [lastBefore, Option.or_none] at hreads hfirst
  exact ⟨skipped, piece, rest, htext, hstart, hstop, hreads, hfirst⟩

/-- A search finds nothing exactly if no piece starts anywhere in the text. -/
theorem find?_eq_none_iff {p : Pattern} {text : List Char} :
    p.find? text = none ↔
      ∀ earlier later, text = earlier ++ later → ¬p.StartsAt earlier.getLast? later := by
  rw [find?, findFrom_eq_none_iff]
  simp only [lastBefore, Option.or_none]

end Pattern

end TokenAudit
