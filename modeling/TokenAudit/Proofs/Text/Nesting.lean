import TokenAudit.Text.Nesting

/-!
# Nested text

A text is nested if every bracket in it has its partner in it. What stands between a bracket and its
partner is nested, and `enclosed` reads it back. What `enclosed` reads is also told by counting: a
bracket is closed where more brackets are closed than opened for the first time.

## Main definitions

* `Nested`: the grammar of nested texts.
* `StaysInside`: texts that leave a bracket before them open.
* `Closes`: texts that close every bracket that they open.
* `Shallow`: texts that nest to a number of levels at most.

## Main results

* `Nested.enclosed_append`: a nested text before a closing bracket is what the bracket encloses.
* `enclosed_eq_some_iff`, `enclosed_eq_none_iff`: what a bracket encloses, by counts.
* `Closes.enclosed_append`: what a bracket encloses in a text that closes it does not depend on what
  follows the text.
* `nested_iff`: the nested texts, by counts.
* `enclosed_eq_some_iff_shallow`: what a bracket encloses if the nesting is limited.
-/

namespace TokenAudit.Text

variable {pair : Brackets}

/-- Texts whose brackets are all paired. -/
inductive Nested (pair : Brackets) : List Char → Prop
  /-- The empty text. -/
  | nil : Nested pair []
  /-- A character that is no bracket, then a nested text. -/
  | plain {c : Char} {rest : List Char} (hopener : c ≠ pair.opener) (hcloser : c ≠ pair.closer)
      (hrest : Nested pair rest) : Nested pair (c :: rest)
  /-- A nested text in brackets, then a nested text. -/
  | group {inner rest : List Char} (hinner : Nested pair inner) (hrest : Nested pair rest) :
      Nested pair (pair.opener :: inner ++ pair.closer :: rest)

/-- Nested text is read over at every depth. -/
theorem Nested.enclosedAt_append {inner : List Char} (hnested : Nested pair inner)
    (hpair : pair.opener ≠ pair.closer) {depth : Nat} (hdepth : 0 < depth) (after : List Char) :
    enclosedAt pair none depth (inner ++ after) =
      (enclosedAt pair none depth after).map fun (read, left) => (inner ++ read, left) := by
  induction hnested generalizing depth after with
  | nil => simp
  | plain hopener hcloser hrest ih =>
    rw [List.cons_append, enclosedAt, if_neg (by simpa using hopener),
      if_neg (by simpa using hcloser), ih hdepth, Option.map_map]
    rfl
  | @group inner rest hinner hrest ihinner ihrest =>
    -- The opening bracket takes the walk one level down, its partner takes it back up.
    have hcloser : enclosedAt pair none (depth + 1) (pair.closer :: (rest ++ after)) =
        (enclosedAt pair none depth (rest ++ after)).map fun (read, left) =>
          (pair.closer :: read, left) := by
      rw [enclosedAt, if_neg (by simpa using hpair.symm), if_pos (by simp), if_neg (by omega),
        Nat.add_sub_cancel]
    rw [List.append_assoc, List.cons_append, List.cons_append, enclosedAt, if_pos (by simp),
      if_neg (by simp), ihinner (Nat.succ_pos depth), hcloser, ihrest hdepth, Option.map_map,
      Option.map_map, Option.map_map]
    refine congrArg (Option.map · _) (funext fun _ => ?_)
    simp

/-- Text without brackets is read over at every depth. -/
theorem enclosedAt_append_of_free {gap : List Char} (hopener : pair.opener ∉ gap)
    (hcloser : pair.closer ∉ gap) (limit : Option Nat) (depth : Nat) (rest : List Char) :
    enclosedAt pair limit depth (gap ++ rest) =
      (enclosedAt pair limit depth rest).map (Prod.map (gap ++ ·) id) := by
  induction gap with
  | nil =>
    rw [List.nil_append]
    cases enclosedAt pair limit depth rest <;> rfl
  | cons c gap ih =>
    rw [List.mem_cons, not_or] at hopener hcloser
    rw [List.cons_append, enclosedAt, if_neg (by simpa using Ne.symm hopener.1),
      if_neg (by simpa using Ne.symm hcloser.1), ih hopener.2 hcloser.2, Option.map_map]
    rfl

/-- A nested text before a closing bracket is what the bracket encloses. -/
theorem Nested.enclosed_append {inner : List Char} (hnested : Nested pair inner)
    (hpair : pair.opener ≠ pair.closer) (after : List Char) :
    enclosed pair none (inner ++ pair.closer :: after) = some (inner, after) := by
  have hcloser : enclosedAt pair none 1 (pair.closer :: after) = some ([], after) := by
    rw [enclosedAt, if_neg (by simpa using hpair.symm), if_pos (by simp), if_pos (Nat.le_refl 1)]
  rw [enclosed, hnested.enclosedAt_append hpair Nat.one_pos, hcloser]
  simp

/-! ## Levels -/

/-- Read inside `depth` levels, the text does not close the outermost one. -/
def StaysInside (pair : Brackets) (depth : Nat) (text : List Char) : Prop :=
  ∀ front, front <+: text → front.count pair.closer < front.count pair.opener + depth

/-- The number of levels after a character. -/
def depthAfter (pair : Brackets) (depth : Nat) (c : Char) : Nat :=
  if c = pair.opener then depth + 1 else if c = pair.closer then depth - 1 else depth

theorem staysInside_cons (hpair : pair.opener ≠ pair.closer) {depth : Nat} {c : Char}
    {rest : List Char} :
    StaysInside pair depth (c :: rest) ↔
      0 < depth ∧ StaysInside pair (depthAfter pair depth c) rest := by
  -- The front of `c :: rest` is empty, or it is `c` before a front of `rest`.
  simp only [StaysInside, depthAfter, List.prefix_cons_iff]
  constructor
  · intro h
    refine ⟨by simpa using h [] (.inl rfl), fun front hfront => ?_⟩
    have hcons := h (c :: front) (.inr ⟨front, rfl, hfront⟩)
    grind
  · rintro ⟨hdepth, h⟩ front (rfl | ⟨front, rfl, hfront⟩)
    · simpa using hdepth
    · have hrest := h front hfront
      grind

/-- How many brackets are opened and closed up to some place is told by the brackets of a text
alone, and by fewer of them as well. -/
theorem counts_of_filter_prefix (relation : Nat → Nat → Prop) {p : Char → Bool}
    (hopener : p pair.opener = true) (hcloser : p pair.closer = true) {text part : List Char}
    (htext : ∀ front, front <+: text →
      relation (front.count pair.opener) (front.count pair.closer))
    (hpart : part.filter p <+: text.filter p) (front : List Char) (hfront : front <+: part) :
    relation (front.count pair.opener) (front.count pair.closer) := by
  -- The brackets of the front are those of some front of `text`.
  obtain ⟨before, hbefore, hsame⟩ := List.prefix_filter_iff.mp ((hfront.filter p).trans hpart)
  have hcount : ∀ c, p c = true → front.count c = before.count c := by
    intro c hc
    rw [← List.count_filter hc, hsame, List.count_filter hc]
  rw [hcount _ hopener, hcount _ hcloser]
  exact htext before hbefore

theorem StaysInside.of_filter_prefix {p : Char → Bool} (hopener : p pair.opener = true)
    (hcloser : p pair.closer = true) {depth : Nat} {text part : List Char}
    (htext : StaysInside pair depth text) (hpart : part.filter p <+: text.filter p) :
    StaysInside pair depth part :=
  counts_of_filter_prefix (fun opened closed => closed < opened + depth) hopener hcloser htext hpart

/-- Texts that stay inside one level do so one after the other. -/
theorem StaysInside.append {first second : List Char} (hfirst : StaysInside pair 1 first)
    (hsecond : StaysInside pair 1 second) : StaysInside pair 1 (first ++ second) := by
  intro front hfront
  -- The front ends within the first text or reaches into the second.
  rcases List.prefix_or_prefix_of_prefix hfront (List.prefix_append first second) with
    hinside | ⟨rest, rfl⟩
  · exact hfirst front hinside
  · have hbefore := hfirst first (List.prefix_refl first)
    have hafter := hsecond rest ((List.prefix_append_right_inj first).mp hfront)
    rw [List.count_append, List.count_append]
    omega

/-- The walk ends at a closing bracket on the last level and goes on after any other character. -/
theorem enclosedAt_cons {depth : Nat} (hdepth : 0 < depth) (c : Char) (rest : List Char) :
    enclosedAt pair none depth (c :: rest) =
      if depthAfter pair depth c = 0 then some ([], rest)
      else (enclosedAt pair none (depthAfter pair depth c) rest).map fun (inner, after) =>
        (c :: inner, after) := by
  rw [enclosedAt, depthAfter]
  by_cases hopener : c = pair.opener
  · simp [hopener]
  · by_cases hcloser : c = pair.closer
    · subst hcloser
      simp only [beq_self_eq_true, if_true, if_neg hopener, beq_iff_eq]
      by_cases hlast : depth ≤ 1
      · rw [if_pos hlast, if_pos (by omega)]
      · rw [if_neg hlast, if_neg (by omega)]
    · simp [hopener, hcloser, Nat.ne_of_gt hdepth]

/-- The walk finds no end exactly if the text stays inside. -/
theorem enclosedAt_eq_none_iff (hpair : pair.opener ≠ pair.closer) {depth : Nat}
    (hdepth : 0 < depth) {text : List Char} :
    enclosedAt pair none depth text = none ↔ StaysInside pair depth text := by
  induction text generalizing depth with
  | nil => simp [enclosedAt, StaysInside, hdepth]
  | cons c rest ih =>
    rw [enclosedAt_cons hdepth, staysInside_cons hpair]
    by_cases hlast : depthAfter pair depth c = 0
    · rw [if_pos hlast, hlast]
      exact ⟨nofun, fun h => absurd (h.2 [] (List.nil_prefix)) (by simp)⟩
    · rw [if_neg hlast, Option.map_eq_none_iff, ih (Nat.pos_of_ne_zero hlast)]
      exact ⟨fun h => ⟨hdepth, h⟩, And.right⟩

/-- The level is left exactly by a closing bracket on the last level. -/
theorem depthAfter_eq_zero_iff (hpair : pair.opener ≠ pair.closer) {depth : Nat}
    (hdepth : 0 < depth) {c : Char} :
    depthAfter pair depth c = 0 ↔ c = pair.closer ∧ depth = 1 := by
  rw [depthAfter]
  grind

theorem count_cons_eq_iff (hpair : pair.opener ≠ pair.closer) {depth : Nat} (hdepth : 0 < depth)
    {c : Char} {inner : List Char} :
    (c :: inner).count pair.closer + 1 = (c :: inner).count pair.opener + depth ↔
      inner.count pair.closer + 1 = inner.count pair.opener + depthAfter pair depth c := by
  rw [depthAfter]
  grind

/-- The walk ends at the first closing bracket that closes the outermost level. -/
theorem enclosedAt_eq_some_iff (hpair : pair.opener ≠ pair.closer) {depth : Nat}
    (hdepth : 0 < depth) {text inner after : List Char} :
    enclosedAt pair none depth text = some (inner, after) ↔
      text = inner ++ pair.closer :: after ∧ StaysInside pair depth inner ∧
        inner.count pair.closer + 1 = inner.count pair.opener + depth := by
  induction text generalizing depth inner with
  | nil => simp [enclosedAt]
  | cons c rest ih =>
    rw [enclosedAt_cons hdepth]
    by_cases hlast : depthAfter pair depth c = 0
    · obtain ⟨rfl, rfl⟩ := (depthAfter_eq_zero_iff hpair hdepth).mp hlast
      rw [if_pos hlast]
      constructor
      · rintro ⟨⟩
        exact ⟨rfl, by simp [StaysInside], rfl⟩
      · rintro ⟨htext, hinside, -⟩
        cases inner with
        | nil => simpa using htext
        | cons d inner =>
          -- Nothing that stays inside starts with the bracket that closes the last level.
          obtain ⟨rfl, -⟩ := List.cons.inj htext
          have hleft := ((staysInside_cons hpair).mp hinside).2
          rw [hlast] at hleft
          exact absurd (hleft [] List.nil_prefix) (by simp)
    · have hpos := Nat.pos_of_ne_zero hlast
      rw [if_neg hlast, Option.map_eq_some_iff]
      constructor
      · rintro ⟨⟨inner, after⟩, hrest, ⟨⟩⟩
        obtain ⟨rfl, hinside, hcount⟩ := (ih hpos).mp hrest
        exact ⟨rfl, (staysInside_cons hpair).mpr ⟨hdepth, hinside⟩,
          (count_cons_eq_iff hpair hdepth).mpr hcount⟩
      · rintro ⟨htext, hinside, hcount⟩
        cases inner with
        | nil =>
          have hcloser : c = pair.closer := (List.cons.inj htext).1
          have hone : depth = 1 := by simpa using hcount.symm
          exact absurd ((depthAfter_eq_zero_iff hpair hdepth).mpr ⟨hcloser, hone⟩) hlast
        | cons d inner =>
          obtain ⟨rfl, hrest⟩ := List.cons.inj htext
          exact ⟨(inner, after), (ih hpos).mpr ⟨hrest, ((staysInside_cons hpair).mp hinside).2,
            (count_cons_eq_iff hpair hdepth).mp hcount⟩, rfl⟩

/-- What a bracket encloses stays inside it and is paired, and the text goes on after the
partner. -/
theorem enclosed_eq_some_iff (hpair : pair.opener ≠ pair.closer) {text inner after : List Char} :
    enclosed pair none text = some (inner, after) ↔
      text = inner ++ pair.closer :: after ∧ StaysInside pair 1 inner ∧
        inner.count pair.closer = inner.count pair.opener := by
  rw [enclosed, enclosedAt_eq_some_iff hpair Nat.one_pos, Nat.add_right_cancel_iff]

/-- A bracket has no partner exactly if the text stays inside it. -/
theorem enclosed_eq_none_iff (hpair : pair.opener ≠ pair.closer) {text : List Char} :
    enclosed pair none text = none ↔ StaysInside pair 1 text :=
  enclosedAt_eq_none_iff hpair Nat.one_pos

/-! ## Texts that close what they open -/

/-- No end of the text has more opening than closing brackets, so each bracket that is opened in the
text is closed in it. The text may close brackets that are opened before it. -/
def Closes (pair : Brackets) (text : List Char) : Prop :=
  ∀ back, back <:+ text → back.count pair.opener ≤ back.count pair.closer

theorem Closes.of_suffix {text back : List Char} (h : Closes pair text) (hback : back <:+ text) :
    Closes pair back :=
  fun part hpart => h part (hpart.trans hback)

/-- A nested text has as many opening as closing brackets. -/
theorem Nested.count_eq {text : List Char} (h : Nested pair text)
    (hpair : pair.opener ≠ pair.closer) : text.count pair.opener = text.count pair.closer := by
  induction h with
  | nil => rfl
  | plain hopener hcloser _ ih =>
    rw [List.count_cons_of_ne hopener, List.count_cons_of_ne hcloser, ih]
  | group _ _ ihinner ihrest =>
    simp only [List.cons_append, List.count_cons, List.count_append, beq_self_eq_true, if_true,
      beq_iff_eq, if_neg hpair, if_neg hpair.symm, ihinner, ihrest]
    omega

/-- A nested text closes what it opens. -/
theorem Nested.closes {text : List Char} (h : Nested pair text)
    (hpair : pair.opener ≠ pair.closer) : Closes pair text := by
  induction h with
  | nil =>
    rintro back hback
    rw [List.suffix_nil.mp hback]
    exact Nat.le_refl _
  | plain hopener hcloser hrest ih =>
    intro back hback
    rcases List.suffix_cons_iff.mp hback with rfl | hback
    · exact Nat.le_of_eq ((Nested.plain hopener hcloser hrest).count_eq hpair)
    · exact ih back hback
  | @group inner rest hinner hrest ihinner ihrest =>
    intro back hback
    rw [List.cons_append] at hback
    rcases List.suffix_cons_iff.mp hback with rfl | hback
    · exact Nat.le_of_eq ((Nested.group hinner hrest).count_eq hpair)
    -- The end starts after the closing bracket, at it, or within the group.
    · rcases List.suffix_or_suffix_of_suffix hback (List.suffix_append inner _) with
        hback | ⟨front, rfl⟩
      · rcases List.suffix_cons_iff.mp hback with rfl | hback
        · rw [List.count_cons_of_ne hpair.symm, hrest.count_eq hpair]
          exact List.count_le_count_cons
        · exact ihrest back hback
      · have hfront := ihinner front (List.suffix_append_self_iff.mp hback)
        have hcounts := hrest.count_eq hpair
        simp only [List.count_append, List.count_cons, beq_self_eq_true, if_true, beq_iff_eq,
          if_neg hpair.symm]
        omega

/-- Where the walk ends there is a closing bracket, whatever the limit is. -/
theorem eq_append_of_enclosedAt_eq_some {limit : Option Nat} {depth : Nat}
    {text inner after : List Char} (h : enclosedAt pair limit depth text = some (inner, after)) :
    text = inner ++ pair.closer :: after := by
  induction text generalizing depth inner with
  | nil => cases h
  | cons c rest ih =>
    have hnext : ∀ {depth}, (enclosedAt pair limit depth rest).map (Prod.map (c :: ·) id) =
        some (inner, after) → c :: rest = inner ++ pair.closer :: after := by
      intro depth hmap
      obtain ⟨⟨read, left⟩, hread, ⟨⟩⟩ := Option.map_eq_some_iff.mp hmap
      exact congrArg (c :: ·) (ih hread)
    rw [enclosedAt] at h
    split at h
    · split at h
      · cases h
      · exact hnext h
    · split at h
      · next hcloser =>
        split at h
        · cases h
          rw [beq_iff_eq.mp hcloser, List.nil_append]
        · exact hnext h
      · exact hnext h

/-- Where the walk ends without a limit, it does not look beyond, whatever the limit is. -/
theorem enclosedAt_append_of_eq_some {limit : Option Nat} {depth : Nat}
    {text inner after : List Char} (h : enclosedAt pair none depth text = some (inner, after))
    (more : List Char) :
    enclosedAt pair limit depth (text ++ more) =
      (enclosedAt pair limit depth text).map (Prod.map id (· ++ more)) := by
  induction text generalizing depth inner with
  | nil => cases h
  | cons c rest ih =>
    rw [enclosedAt] at h
    rw [List.cons_append, enclosedAt, enclosedAt]
    by_cases hopener : (c == pair.opener) = true
    · rw [if_pos hopener, if_neg (by simp)] at h
      obtain ⟨⟨read, left⟩, hread, ⟨⟩⟩ := Option.map_eq_some_iff.mp h
      rw [if_pos hopener, if_pos hopener]
      by_cases hdeep : limit.any (· < depth + 1) = true
      · rw [if_pos hdeep, if_pos hdeep, Option.map_none]
      · rw [if_neg hdeep, if_neg hdeep, ih hread]
        cases enclosedAt pair limit (depth + 1) rest <;> rfl
    · rw [if_neg hopener] at h
      rw [if_neg hopener, if_neg hopener]
      by_cases hcloser : (c == pair.closer) = true
      · rw [if_pos hcloser] at h
        rw [if_pos hcloser, if_pos hcloser]
        by_cases hlast : depth ≤ 1
        · rw [if_pos hlast, if_pos hlast, Option.map_some]
          rfl
        · rw [if_neg hlast] at h
          obtain ⟨⟨read, left⟩, hread, ⟨⟩⟩ := Option.map_eq_some_iff.mp h
          rw [if_neg hlast, if_neg hlast, ih hread]
          cases enclosedAt pair limit (depth - 1) rest <;> rfl
      · rw [if_neg hcloser] at h
        obtain ⟨⟨read, left⟩, hread, ⟨⟩⟩ := Option.map_eq_some_iff.mp h
        rw [if_neg hcloser, if_neg hcloser, ih hread]
        cases enclosedAt pair limit depth rest <;> rfl

/-- A bracket has its partner in a text that closes what it opens. -/
theorem Closes.exists_enclosed {rest : List Char} (h : Closes pair (pair.opener :: rest))
    (hpair : pair.opener ≠ pair.closer) :
    ∃ inner after, enclosed pair none rest = some (inner, after) := by
  cases hread : enclosed pair none rest with
  | some read => exact ⟨read.1, read.2, rfl⟩
  | none =>
    have hopen := (enclosed_eq_none_iff hpair).mp hread rest (List.prefix_refl rest)
    have hclosed := h _ (List.suffix_refl _)
    rw [List.count_cons_self, List.count_cons_of_ne hpair] at hclosed
    omega

/-- What a bracket encloses in a text that closes it does not depend on what follows the text. -/
theorem Closes.enclosed_append {rest : List Char} (h : Closes pair (pair.opener :: rest))
    (hpair : pair.opener ≠ pair.closer) (limit : Option Nat) (more : List Char) :
    enclosed pair limit (rest ++ more) =
      (enclosed pair limit rest).map (Prod.map id (· ++ more)) := by
  obtain ⟨inner, after, hread⟩ := h.exists_enclosed hpair
  exact enclosedAt_append_of_eq_some hread more

/-! ## Nested texts by counts -/

/-- A text that never closes more brackets than it has opened, and closes all of them in the end, is
nested. -/
theorem nested_of_count_eq (hpair : pair.opener ≠ pair.closer) {text : List Char}
    (hinside : StaysInside pair 1 text)
    (hcount : text.count pair.opener = text.count pair.closer) : Nested pair text := by
  -- By induction on the length: a group is an opening bracket with what it encloses.
  induction hlength : text.length using Nat.strongRecOn generalizing text with
  | _ n ih =>
    cases text with
    | nil => exact .nil
    | cons c rest =>
      have hrest := ((staysInside_cons hpair).mp hinside).2
      by_cases hopener : c = pair.opener
      · subst hopener
        cases hread : enclosed pair none rest with
        | none =>
          have hopen := (enclosed_eq_none_iff hpair).mp hread rest (List.prefix_refl rest)
          rw [List.count_cons_self, List.count_cons_of_ne hpair] at hcount
          omega
        | some read =>
          obtain ⟨inner, after⟩ := read
          obtain ⟨rfl, hinner, hpaired⟩ := (enclosed_eq_some_iff hpair).mp hread
          simp only [List.length_cons, List.length_append] at hlength
          have hgroup : Nested pair inner := ih _ (by omega) hinner hpaired.symm rfl
          refine .group hgroup (ih after.length (by omega) (fun front hfront => ?_) ?_ rfl)
          · have hall := hinside (pair.opener :: (inner ++ pair.closer :: front))
              (by simpa using hfront)
            simp only [List.count_cons, List.count_append, beq_self_eq_true, if_true, beq_iff_eq,
              if_neg hpair, if_neg hpair.symm] at hall
            omega
          · simp only [List.count_cons, List.count_append, beq_self_eq_true, if_true, beq_iff_eq,
              if_neg hpair, if_neg hpair.symm] at hcount
            omega
      · have hcloser : c ≠ pair.closer := by
          rintro rfl
          have hfirst := hinside [pair.closer] (by simp)
          simp [hpair.symm] at hfirst
        rw [List.count_cons_of_ne hopener, List.count_cons_of_ne hcloser] at hcount
        rw [depthAfter, if_neg hopener, if_neg hcloser] at hrest
        rw [List.length_cons] at hlength
        exact .plain hopener hcloser (ih rest.length (by omega) hrest hcount rfl)

/-- The nested texts are those that close no bracket from before them and close all that they
open. -/
theorem nested_iff (hpair : pair.opener ≠ pair.closer) {text : List Char} :
    Nested pair text ↔
      enclosed pair none text = none ∧ text.count pair.opener = text.count pair.closer := by
  rw [enclosed_eq_none_iff hpair]
  constructor
  · intro h
    refine ⟨fun front ⟨back, hback⟩ => ?_, h.count_eq hpair⟩
    -- What the front has too many, the back would have too few.
    have hends := h.closes hpair back ⟨front, hback⟩
    have hcount := h.count_eq hpair
    rw [← hback, List.count_append, List.count_append] at hcount
    omega
  · exact fun ⟨hinside, hcount⟩ => nested_of_count_eq hpair hinside hcount

/-- The nested texts are those that stay inside and close as many brackets as they open. -/
theorem nested_iff_staysInside (hpair : pair.opener ≠ pair.closer) {text : List Char} :
    Nested pair text ↔
      StaysInside pair 1 text ∧ text.count pair.opener = text.count pair.closer := by
  rw [nested_iff hpair, enclosed_eq_none_iff hpair]

/-- What a bracket encloses is nested, and the text goes on after the partner. -/
theorem enclosed_eq_some_iff_nested (hpair : pair.opener ≠ pair.closer)
    {text inner after : List Char} :
    enclosed pair none text = some (inner, after) ↔
      text = inner ++ pair.closer :: after ∧ Nested pair inner := by
  rw [enclosed_eq_some_iff hpair, nested_iff_staysInside hpair, eq_comm (a := inner.count _)]

/-- Whether a text is nested is told by its brackets alone. -/
theorem Nested.of_filter_eq (hpair : pair.opener ≠ pair.closer) {p : Char → Bool}
    (hopener : p pair.opener = true) (hcloser : p pair.closer = true) {text part : List Char}
    (h : Nested pair text) (hpart : part.filter p = text.filter p) : Nested pair part := by
  obtain ⟨hinside, hcount⟩ := (nested_iff_staysInside hpair).mp h
  refine (nested_iff_staysInside hpair).mpr
    ⟨hinside.of_filter_prefix hopener hcloser (hpart ▸ List.prefix_refl _), ?_⟩
  rw [← List.count_filter hopener, ← List.count_filter hcloser, hpart, List.count_filter hopener,
    List.count_filter hcloser, hcount]

/-! ## Limits of nesting -/

/-- No front of the text opens more than `levels` brackets beyond those that it closes. -/
def Shallow (pair : Brackets) (levels : Nat) (text : List Char) : Prop :=
  ∀ front, front <+: text → front.count pair.opener ≤ front.count pair.closer + levels

theorem Shallow.of_filter_prefix {p : Char → Bool} (hopener : p pair.opener = true)
    (hcloser : p pair.closer = true) {levels : Nat} {text part : List Char}
    (htext : Shallow pair levels text) (hpart : part.filter p <+: text.filter p) :
    Shallow pair levels part :=
  counts_of_filter_prefix (fun opened closed => opened ≤ closed + levels) hopener hcloser htext
    hpart

@[simp]
theorem shallow_nil (pair : Brackets) (levels : Nat) : Shallow pair levels [] := by
  simp [Shallow]

/-- An opening bracket takes one level away. -/
theorem shallow_opener_cons (hpair : pair.opener ≠ pair.closer) {levels : Nat}
    {rest : List Char} :
    Shallow pair levels (pair.opener :: rest) ↔ 0 < levels ∧ Shallow pair (levels - 1) rest := by
  simp only [Shallow, List.prefix_cons_iff]
  constructor
  · intro h
    have hone := h [pair.opener] (.inr ⟨[], rfl, List.nil_prefix⟩)
    refine ⟨by grind, fun front hfront => ?_⟩
    have hcons := h (pair.opener :: front) (.inr ⟨front, rfl, hfront⟩)
    grind
  · rintro ⟨hlevels, h⟩ front (rfl | ⟨front, rfl, hfront⟩)
    · simp
    · have hrest := h front hfront
      grind

/-- A closing bracket gives one level back. -/
theorem shallow_closer_cons (hpair : pair.opener ≠ pair.closer) {levels : Nat}
    {rest : List Char} :
    Shallow pair levels (pair.closer :: rest) ↔ Shallow pair (levels + 1) rest := by
  simp only [Shallow, List.prefix_cons_iff]
  constructor
  · intro h front hfront
    have hcons := h (pair.closer :: front) (.inr ⟨front, rfl, hfront⟩)
    grind
  · rintro h front (rfl | ⟨front, rfl, hfront⟩)
    · simp
    · have hrest := h front hfront
      grind

theorem shallow_plain_cons {c : Char} (hopener : c ≠ pair.opener) (hcloser : c ≠ pair.closer)
    {levels : Nat} {rest : List Char} :
    Shallow pair levels (c :: rest) ↔ Shallow pair levels rest := by
  simp only [Shallow, List.prefix_cons_iff]
  constructor
  · intro h front hfront
    have hcons := h (c :: front) (.inr ⟨front, rfl, hfront⟩)
    grind
  · rintro h front (rfl | ⟨front, rfl, hfront⟩)
    · simp
    · have hrest := h front hfront
      grind

/-- A limited walk ends where an unlimited one does, provided that what is enclosed does not nest
below the limit. -/
theorem enclosedAt_limit_eq_some_iff (hpair : pair.opener ≠ pair.closer) {depth levels : Nat}
    (hdepth : 0 < depth) {text inner after : List Char} :
    enclosedAt pair (some (depth + levels)) depth text = some (inner, after) ↔
      enclosedAt pair none depth text = some (inner, after) ∧ Shallow pair levels inner := by
  induction text generalizing depth levels inner with
  | nil => simp [enclosedAt]
  | cons c rest ih =>
    -- What is enclosed starts with the character, unless the walk ends there.
    have hstep : ∀ {depth' levels' : Nat}, depth + levels = depth' + levels' → 0 < depth' →
        (∀ inner, Shallow pair levels (c :: inner) ↔ Shallow pair levels' inner) →
        ((enclosedAt pair (some (depth + levels)) depth' rest).map (Prod.map (c :: ·) id) =
            some (inner, after) ↔
          (enclosedAt pair none depth' rest).map (Prod.map (c :: ·) id) = some (inner, after) ∧
            Shallow pair levels inner) := by
      intro depth' levels' hlimit hdepth' hshallow
      rw [hlimit, Option.map_eq_some_iff, Option.map_eq_some_iff]
      constructor
      · rintro ⟨⟨read, left⟩, hread, ⟨⟩⟩
        obtain ⟨hread, hlevels⟩ := (ih hdepth').mp hread
        exact ⟨⟨(read, left), hread, rfl⟩, (hshallow read).mpr hlevels⟩
      · rintro ⟨⟨⟨read, left⟩, hread, ⟨⟩⟩, hlevels⟩
        exact ⟨(read, left), (ih hdepth').mpr ⟨hread, (hshallow read).mp hlevels⟩, rfl⟩
    rw [enclosedAt, enclosedAt]
    by_cases hopener : (c == pair.opener) = true
    · rw [if_pos hopener, if_pos hopener]
      obtain rfl := beq_iff_eq.mp hopener
      cases levels with
      | zero =>
        rw [if_pos (by simp), if_neg (by simp)]
        refine iff_of_false (by simp) ?_
        rintro ⟨hread, hlevels⟩
        obtain ⟨read, _, ⟨⟩⟩ := Option.map_eq_some_iff.mp hread
        exact absurd ((shallow_opener_cons hpair).mp hlevels).1 (Nat.lt_irrefl 0)
      | succ levels =>
        have hlimit : depth + (levels + 1) = depth + 1 + levels := by omega
        rw [if_neg (by simp), if_neg (by simp)]
        refine hstep hlimit (Nat.succ_pos depth) fun inner => ?_
        rw [shallow_opener_cons hpair, Nat.add_sub_cancel]
        exact and_iff_right (Nat.succ_pos levels)
    rw [if_neg hopener, if_neg hopener]
    by_cases hcloser : (c == pair.closer) = true
    · rw [if_pos hcloser, if_pos hcloser]
      obtain rfl := beq_iff_eq.mp hcloser
      by_cases hlast : depth ≤ 1
      · rw [if_pos hlast, if_pos hlast]
        refine ⟨fun heq => ⟨heq, ?_⟩, And.left⟩
        cases heq
        exact shallow_nil pair levels
      · have hlimit : depth + levels = depth - 1 + (levels + 1) := by omega
        rw [if_neg hlast, if_neg hlast]
        exact hstep hlimit (by omega) fun inner => shallow_closer_cons hpair
    · rw [if_neg hcloser, if_neg hcloser]
      rw [beq_iff_eq] at hopener hcloser
      exact hstep rfl hdepth fun inner => shallow_plain_cons hopener hcloser

/-- What a bracket encloses if at most `levels` levels may nest in it. -/
theorem enclosed_eq_some_iff_shallow (hpair : pair.opener ≠ pair.closer) {levels : Nat}
    {text inner after : List Char} :
    enclosed pair (some (1 + levels)) text = some (inner, after) ↔
      text = inner ++ pair.closer :: after ∧ Nested pair inner ∧ Shallow pair levels inner := by
  rw [enclosed, enclosedAt_limit_eq_some_iff hpair Nat.one_pos, ← enclosed,
    enclosed_eq_some_iff_nested hpair, and_assoc]

end TokenAudit.Text
