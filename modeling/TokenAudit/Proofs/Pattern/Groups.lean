import TokenAudit.Proofs.Text.Offset

/-!
# What patterns remember

A match remembers the text of each group. If the texts that the groups of a pattern match all have a
property, then so has everything that a match of the whole pattern remembers.

## Main definitions

* `Pattern.Remembers`: the groups of a pattern match only texts with a property.

## Main results

* `Pattern.keeps_of_mem_ends`: matching on keeps that everything remembered has the property.
* `Pattern.of_group?_eq_some`: what a match remembers has the property.
-/

namespace TokenAudit

open Text

/-! ## Text between places -/

/-- The text between a place and one after some characters is these characters. -/
theorem Cursor.between_eq {first last : Cursor} {part after : List Char}
    (hrest : first.rest = part ++ after) (hoffset : last.offset = first.offset + byteLength part) :
    first.between last = part := by
  rw [between, hrest, hoffset, Nat.add_sub_cancel_left, takeBytes_byteLength_append]

/-! ## Remembered texts -/

namespace Cursor

/-- Everything that is remembered at a place has a property. -/
def Keeps (p : List Char → Prop) (cursor : Cursor) : Prop :=
  ∀ entry ∈ cursor.groups, p entry.2

theorem groups_of_skipText? {chars : List Char} {cursor last : Cursor}
    (h : cursor.skipText? chars = some last) : last.groups = cursor.groups := by
  induction chars generalizing cursor with
  | nil =>
    cases h
    rfl
  | cons c chars ih =>
    rw [skipText?] at h
    split at h
    · cases h
    · split at h
      · rw [ih h]
        rfl
      · cases h

theorem groups_of_skipTextAnyCase? {chars : List Char} {cursor last : Cursor}
    (h : cursor.skipTextAnyCase? chars = some last) : last.groups = cursor.groups := by
  induction chars generalizing cursor with
  | nil =>
    cases h
    rfl
  | cons c chars ih =>
    rw [skipTextAnyCase?] at h
    split at h
    · cases h
    · split at h
      · rw [ih h]
        rfl
      · cases h

/-- Skipping characters of a set remembers nothing. -/
theorem groups_of_mem_runEnds {set : CharSet} {before : Option Char} {offset : Nat}
    {groups : List (Nat × List Char)} {nearer : List Cursor} {text : List Char} {last : Cursor}
    (h : last ∈ runEnds set before offset groups nearer text) :
    last.groups = groups ∨ last ∈ nearer := by
  induction text generalizing before offset nearer with
  | nil =>
    rcases List.mem_cons.mp h with rfl | hnearer
    · exact .inl rfl
    · exact .inr hnearer
  | cons c rest ih =>
    rw [runEnds] at h
    split at h
    · rcases ih h with hgroups | hnearer
      · exact .inl hgroups
      · rcases List.mem_cons.mp hnearer with rfl | hnearer
        · exact .inl rfl
        · exact .inr hnearer
    · rcases List.mem_cons.mp h with rfl | hnearer
      · exact .inl rfl
      · exact .inr hnearer

theorem mem_of_mem_distinctFrom {seen : List Nat} {places : List Cursor} {cursor : Cursor}
    (h : cursor ∈ distinctFrom seen places) : cursor ∈ places := by
  induction places generalizing seen with
  | nil => exact h
  | cons place rest ih =>
    rw [distinctFrom] at h
    split at h
    · exact List.mem_cons_of_mem place (ih h)
    · rcases List.mem_cons.mp h with rfl | hrest
      · exact List.mem_cons_self
      · exact List.mem_cons_of_mem place (ih hrest)

theorem mem_of_mem_distinct {places : List Cursor} {cursor : Cursor}
    (h : cursor ∈ distinct places) : cursor ∈ places := by
  unfold distinct at h
  split at h
  · exact h
  · exact h
  · exact mem_of_mem_distinctFrom h

end Cursor

/-- A repetition finds only places with a property that every round keeps. -/
theorem Rounds.visit_found {next : Cursor → List Cursor} {q : Cursor → Prop}
    (hnext : ∀ cursor, q cursor → ∀ last ∈ next cursor, q last) (greedy : Bool) (fuel : Nat)
    {rounds : Rounds} {cursor : Cursor} (hrounds : ∀ place ∈ rounds.found, q place)
    (hcursor : q cursor) : ∀ place ∈ (visit next greedy fuel rounds cursor).found, q place := by
  induction fuel generalizing rounds cursor with
  | zero =>
    rw [visit]
    split
    · exact hrounds
    · exact List.forall_mem_cons.mpr ⟨hcursor, hrounds⟩
  | succ fuel ih =>
    -- The rounds after this one keep the property, one place after the other.
    have hfold (places : List Cursor) (start : Rounds) (hplaces : ∀ place ∈ places, q place)
        (hstart : ∀ place ∈ start.found, q place) :
        ∀ place ∈ (places.foldl (visit next greedy fuel) start).found, q place := by
      induction places generalizing start with
      | nil => exact hstart
      | cons place rest ihPlaces =>
        obtain ⟨hplace, hrest⟩ := List.forall_mem_cons.mp hplaces
        exact ihPlaces _ hrest (ih hstart hplace)
    have hfurther : ∀ place ∈ (next cursor).filter (cursor.offset < ·.offset), q place :=
      fun place hplace => hnext cursor hcursor place (List.mem_filter.mp hplace).1
    rw [visit]
    split
    · exact hrounds
    · dsimp only
      split
      · exact List.forall_mem_cons.mpr ⟨hcursor, hfold _ _ hfurther hrounds⟩
      · exact hfold _ _ hfurther (List.forall_mem_cons.mpr ⟨hcursor, hrounds⟩)

namespace Pattern

variable {p : List Char → Prop}

/-- The groups of a pattern match only texts with a property. -/
def Remembers (p : List Char → Prop) : Pattern → Prop
  | seq first second => first.Remembers p ∧ second.Remembers p
  | either first second => first.Remembers p ∧ second.Remembers p
  | star _ body => body.Remembers p
  | group _ body => body.Remembers p ∧
    ∀ cursor, ∀ last ∈ body.ends cursor, p (cursor.between last)
  | _ => True

/-- Matching on keeps that everything remembered has the property. -/
theorem keeps_of_mem_ends {pattern : Pattern} (h : pattern.Remembers p) {cursor last : Cursor}
    (hcursor : cursor.Keeps p) (hlast : last ∈ pattern.ends cursor) : last.Keeps p := by
  induction pattern generalizing cursor last with
  | empty => rwa [List.mem_singleton.mp hlast]
  | text chars =>
    rw [ends, Option.mem_toList] at hlast
    rwa [Cursor.Keeps, Cursor.groups_of_skipText? hlast]
  | textAnyCase chars =>
    rw [ends, Option.mem_toList] at hlast
    rwa [Cursor.Keeps, Cursor.groups_of_skipTextAnyCase? hlast]
  | one set =>
    rw [ends] at hlast
    split at hlast
    · exact absurd hlast List.not_mem_nil
    · split at hlast
      · rw [List.mem_singleton.mp hlast]
        exact hcursor
      · exact absurd hlast List.not_mem_nil
  | run greedy set =>
    have hrun :
        last ∈ Cursor.runEnds set cursor.before cursor.offset cursor.groups [] cursor.rest := by
      rw [ends] at hlast
      split at hlast
      · exact hlast
      · exact List.mem_reverse.mp hlast
    rcases Cursor.groups_of_mem_runEnds hrun with hgroups | hnil
    · rwa [Cursor.Keeps, hgroups]
    · exact absurd hnil List.not_mem_nil
  | seq first second ihFirst ihSecond =>
    obtain ⟨middle, hmiddle, hend⟩ := List.mem_flatMap.mp (Cursor.mem_of_mem_distinct hlast)
    exact ihSecond h.2 (ihFirst h.1 hcursor hmiddle) hend
  | either first second ihFirst ihSecond =>
    rcases List.mem_append.mp (Cursor.mem_of_mem_distinct hlast) with hfirst | hsecond
    · exact ihFirst h.1 hcursor hfirst
    · exact ihSecond h.2 hcursor hsecond
  | star greedy body ih =>
    rw [ends, List.mem_reverse] at hlast
    exact Rounds.visit_found (fun cursor hcursor last => ih h hcursor) greedy _
      (fun place hplace => absurd hplace List.not_mem_nil) hcursor last hlast
  | group index body ih =>
    -- Only here something new is remembered: the text that the group has just matched.
    obtain ⟨inner, hinner, rfl⟩ := List.mem_map.mp hlast
    refine List.forall_mem_cons.mpr ⟨h.2 cursor inner hinner, ?_⟩
    exact ih h.1 hcursor hinner
  | edge condition =>
    rw [ends] at hlast
    split at hlast
    · rwa [List.mem_singleton.mp hlast]
    · exact absurd hlast List.not_mem_nil

/-- A match ends where matching from some place can end, with nothing remembered before. -/
theorem exists_mem_ends_of_findFrom {pattern : Pattern} {before : Option Char} {offset : Nat}
    {text : List Char} {found : Found} (h : pattern.findFrom before offset text = some found) :
    ∃ cursor, cursor.groups = [] ∧ found.last ∈ pattern.ends cursor := by
  induction text generalizing before offset with
  | nil =>
    rw [findFrom, Option.map_eq_some_iff] at h
    obtain ⟨last, hlast, rfl⟩ := h
    exact ⟨_, rfl, List.mem_of_mem_head? hlast⟩
  | cons c rest ih =>
    rw [findFrom] at h
    split at h
    · next hends =>
      cases h
      exact ⟨_, rfl, by rw [hends]; exact List.mem_cons_self⟩
    · exact ih h

/-- What a match remembers has the property. -/
theorem of_group?_eq_some {pattern : Pattern} (h : pattern.Remembers p) {text : List Char}
    {found : Found} (hfound : pattern.find? text = some found) {index : Nat} {part : String}
    (hpart : found.group? index = some part) : p part.toList := by
  obtain ⟨cursor, hgroups, hlast⟩ := exists_mem_ends_of_findFrom hfound
  have hkeeps : found.last.Keeps p := by
    refine keeps_of_mem_ends h ?_ hlast
    rw [Cursor.Keeps, hgroups]
    exact fun entry hentry => absurd hentry List.not_mem_nil
  rw [Found.group?, Option.map_eq_some_iff] at hpart
  obtain ⟨chars, hchars, rfl⟩ := hpart
  obtain ⟨newer, older, hsplit, _⟩ := List.lookup_eq_some_iff.mp hchars
  rw [String.toList_ofList]
  exact hkeeps (index, chars) (by rw [hsplit]; simp)

end Pattern

end TokenAudit
