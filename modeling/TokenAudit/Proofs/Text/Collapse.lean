import Mathlib.Data.List.Chain
import Mathlib.Data.List.Infix
import Mathlib.Data.Option.Basic
import TokenAudit.Proofs.Text.Nesting
import TokenAudit.Proofs.Text.Words

/-!
# Texts with other blanks

Collapsing a text changes the blanks between its words and nothing else. Two texts are respaced
forms of each other if they have the same characters with gaps at the same places, whatever the gaps
are; both may end in blanks. Readers that only ask whether there is a gap read the same in both, and
a text and its collapsed form are an instance.

## Main definitions

* `Respaced`: two texts with the same characters and gaps at the same places.
* `Restarts`: readers that start anew at blanks.
* `Collapsed`: texts with single spaces between their words and no other blanks.

## Main results

* `Respaced.infix_iff`, `Respaced.wordsOf_eq`, `Respaced.enclosedAt`: what is found and enclosed in
  respaced texts, and their words.
* `Restarts.eq_of_respaced`: readers that start anew at blanks.
* `respaced_collapseChars`: a text without the blanks in front and its collapsed form.
* `collapsed_collapseChars`, `wordsOf_collapseChars`: a collapsed text is collapsed, with the same
  words.
-/

namespace TokenAudit.Text

open Unicode (isBlank)

/-- The second text has the characters of the first with gaps at the same places. Gaps are made of
characters of the class `p`, and both texts may end in such characters. -/
inductive Respaced (p : Char → Bool) : List Char → List Char → Prop
  /-- Nothing but characters of the class is left of either text. -/
  | ends {first second : List Char} (hfirst : ∀ c ∈ first, p c = true)
      (hsecond : ∀ c ∈ second, p c = true) : Respaced p first second
  /-- A character outside the class, then respaced texts. -/
  | char {c : Char} {first second : List Char} (hc : p c = false)
      (hrest : Respaced p first second) : Respaced p (c :: first) (c :: second)
  /-- A gap, then respaced texts. -/
  | gap {gap gap' first second : List Char} (hne : gap ≠ []) (hne' : gap' ≠ [])
      (hgap : ∀ c ∈ gap, p c = true) (hgap' : ∀ c ∈ gap', p c = true)
      (hrest : Respaced p first second) : Respaced p (gap ++ first) (gap' ++ second)

namespace Respaced

variable {p : Char → Bool} {first second : List Char}

theorem nil : Respaced p [] [] :=
  .ends (List.forall_mem_nil _) (List.forall_mem_nil _)

/-- Any character may stand in front of respaced texts. -/
theorem cons (c : Char) (h : Respaced p first second) : Respaced p (c :: first) (c :: second) := by
  cases hc : p c with
  | false => exact .char hc h
  | true =>
    have hgap : ∀ d ∈ [c], p d = true := by simpa using hc
    have hcons : Respaced p ([c] ++ first) ([c] ++ second) :=
      .gap (List.cons_ne_nil c []) (List.cons_ne_nil c []) hgap hgap h
    exact hcons

theorem symm (h : Respaced p first second) : Respaced p second first := by
  induction h with
  | ends hfirst hsecond => exact .ends hsecond hfirst
  | char hc _ ih => exact .char hc ih
  | gap hne hne' hgap hgap' _ ih => exact .gap hne' hne hgap' hgap ih

/-- The same text may stand in front of respaced texts. -/
theorem append_left (front : List Char) (h : Respaced p first second) :
    Respaced p (front ++ first) (front ++ second) := by
  induction front with
  | nil => exact h
  | cons c rest ih => exact ih.cons c

/-- A character outside the class stands at the start of both texts or of neither. -/
theorem cons_iff {c : Char} (hc : p c = false) {text : List Char} :
    Respaced p (c :: first) text ↔ ∃ second, text = c :: second ∧ Respaced p first second := by
  constructor
  · intro h
    generalize hstart : c :: first = start at h
    cases h with
    | ends hfirst _ =>
      have hblank := hfirst c (hstart ▸ List.mem_cons_self)
      rw [hc] at hblank
      cases hblank
    | char _ hrest =>
      obtain ⟨rfl, rfl⟩ := List.cons.inj hstart
      exact ⟨_, rfl, hrest⟩
    | gap hne _ hgap _ _ =>
      obtain ⟨d, gap, rfl⟩ := List.exists_cons_of_ne_nil hne
      have hblank := hgap c ((List.cons.inj hstart).1 ▸ List.mem_cons_self)
      rw [hc] at hblank
      cases hblank
  · rintro ⟨second, rfl, h⟩
    exact .char hc h

/-- A word at the start of one text is at the start of the other, and respaced texts follow. -/
theorem exists_of_append {word : List Char} (hword : ∀ c ∈ word, p c = false) {text : List Char}
    (h : Respaced p (word ++ first) text) :
    ∃ second, text = word ++ second ∧ Respaced p first second := by
  induction word generalizing text with
  | nil => exact ⟨text, rfl, h⟩
  | cons c rest ih =>
    obtain ⟨text, rfl, hrest⟩ := (cons_iff (hword c List.mem_cons_self)).mp h
    obtain ⟨second, rfl, hsecond⟩ := ih (fun d hd => hword d (List.mem_cons_of_mem c hd)) hrest
    exact ⟨second, rfl, hsecond⟩

theorem prefix_iff {word : List Char} (hword : ∀ c ∈ word, p c = false)
    (h : Respaced p first second) : word <+: first ↔ word <+: second := by
  constructor
  · rintro ⟨rest, rfl⟩
    obtain ⟨rest', rfl, _⟩ := exists_of_append hword h
    exact List.prefix_append word rest'
  · rintro ⟨rest, rfl⟩
    obtain ⟨rest', rfl, _⟩ := exists_of_append hword h.symm
    exact List.prefix_append word rest'

/-- A word does not start in a gap. -/
theorem infix_gap_append_iff {word gap : List Char} (hne : word ≠ [])
    (hword : ∀ c ∈ word, p c = false) (hgap : ∀ c ∈ gap, p c = true) (rest : List Char) :
    word <:+: gap ++ rest ↔ word <:+: rest := by
  induction gap with
  | nil => rfl
  | cons c gap ih =>
    have hstart : ¬word <+: c :: (gap ++ rest) := by
      intro hprefix
      obtain ⟨d, word, rfl⟩ := List.exists_cons_of_ne_nil hne
      have hsame : d = c := (List.cons_prefix_cons.mp hprefix).1
      have hblank := hgap c List.mem_cons_self
      rw [← hsame, hword d List.mem_cons_self] at hblank
      cases hblank
    rw [List.cons_append, List.infix_cons_iff, or_iff_right hstart]
    exact ih fun d hd => hgap d (List.mem_cons_of_mem c hd)

/-- A word is found in both texts or in neither. -/
theorem infix_iff {word : List Char} (hne : word ≠ []) (hword : ∀ c ∈ word, p c = false)
    (h : Respaced p first second) : word <:+: first ↔ word <:+: second := by
  induction h with
  | @ends first second hfirst hsecond =>
    have hnone := infix_gap_append_iff hne hword hfirst []
    have hnone' := infix_gap_append_iff hne hword hsecond []
    rw [List.append_nil] at hnone hnone'
    rw [hnone, hnone']
  | char hc hrest ih =>
    rw [List.infix_cons_iff, List.infix_cons_iff, ih, prefix_iff hword (.char hc hrest)]
  | gap _ _ hgap hgap' _ ih =>
    rw [infix_gap_append_iff hne hword hgap, infix_gap_append_iff hne hword hgap', ih]

/-- What follows a character in one text follows it in the other, respaced. -/
theorem exists_suffix {c : Char} (hc : p c = false) (h : Respaced p first second)
    {back : List Char} (hback : c :: back <:+ second) :
    ∃ back', c :: back' <:+ first ∧ Respaced p back' back := by
  -- A gap holds no such character, so the suffix starts after it.
  have hskip : ∀ {gap rest : List Char}, (∀ d ∈ gap, p d = true) → c :: back <:+ gap ++ rest →
      c :: back <:+ rest := by
    intro gap rest hgap
    induction gap with
    | nil => exact id
    | cons d gap ih =>
      intro hsuffix
      rcases List.suffix_cons_iff.mp hsuffix with heq | hsuffix
      · have hblank := hgap d List.mem_cons_self
        rw [← (List.cons.inj heq).1, hc] at hblank
        cases hblank
      · exact ih (fun e he => hgap e (List.mem_cons_of_mem d he)) hsuffix
  induction h with
  | @ends _ second _ hsecond =>
    rw [← List.append_nil second] at hback
    cases List.suffix_nil.mp (hskip hsecond hback)
  | @char d first second _ hrest ih =>
    rcases List.suffix_cons_iff.mp hback with heq | hback
    · obtain ⟨rfl, rfl⟩ := List.cons.inj heq
      exact ⟨first, List.suffix_refl _, hrest⟩
    · obtain ⟨back', hback', hrespaced⟩ := ih hback
      exact ⟨back', hback'.trans (List.suffix_cons d first), hrespaced⟩
  | gap _ _ _ hgap' _ ih =>
    obtain ⟨back', hback', hrespaced⟩ := ih (hskip hgap' hback)
    exact ⟨back', hback'.trans (List.suffix_append _ _), hrespaced⟩

theorem mem_iff {c : Char} (hc : p c = false) (h : Respaced p first second) :
    c ∈ first ↔ c ∈ second := by
  rw [← List.singleton_infix_iff, ← List.singleton_infix_iff]
  exact h.infix_iff (List.cons_ne_nil c []) (by simpa using hc)

/-! ## Readers -/

/-- Respaced texts stay so without the characters of a larger class at their starts. -/
theorem dropWhile {q : Char → Bool} (hq : ∀ c, p c = true → q c = true)
    (h : Respaced p first second) : Respaced p (first.dropWhile q) (second.dropWhile q) := by
  induction h with
  | ends hfirst hsecond =>
    rw [List.dropWhile_eq_nil_iff.mpr fun c hmem => hq c (hfirst c hmem),
      List.dropWhile_eq_nil_iff.mpr fun c hmem => hq c (hsecond c hmem)]
    exact .nil
  | @char c first second hc hrest ih =>
    rw [List.dropWhile_cons, List.dropWhile_cons]
    split
    · exact ih
    · exact .char hc hrest
  | gap _ _ hgap hgap' _ ih =>
    rwa [List.dropWhile_append_of_pos fun c hmem => hq c (hgap c hmem),
      List.dropWhile_append_of_pos fun c hmem => hq c (hgap' c hmem)]

/-- What follows the characters of a larger class at their starts: nothing in both, or the same
character and respaced texts. -/
theorem dropWhile_cases {q : Char → Bool} (hq : ∀ c, p c = true → q c = true)
    (h : Respaced p first second) :
    (first.dropWhile q = [] ∧ second.dropWhile q = []) ∨
      ∃ c rest rest', first.dropWhile q = c :: rest ∧ second.dropWhile q = c :: rest' ∧
        p c = false ∧ Respaced p rest rest' := by
  have hdrop := h.dropWhile hq
  -- The characters that are left first are outside the larger class, so outside the class.
  have houtside : ∀ {text rest : List Char} {c : Char}, text.dropWhile q = c :: rest →
      p c = false := by
    intro text rest c heq
    have hhead := List.head?_dropWhile_not q text
    rw [heq] at hhead
    exact Bool.eq_false_iff.mpr fun hc => Bool.eq_false_iff.mp hhead (hq c hc)
  cases hfirst : first.dropWhile q with
  | cons c rest =>
    have hc := houtside hfirst
    rw [hfirst] at hdrop
    obtain ⟨rest', hsecond, hrest⟩ := (cons_iff hc).mp hdrop
    exact .inr ⟨c, rest, rest', rfl, hsecond, hc, hrest⟩
  | nil =>
    cases hsecond : second.dropWhile q with
    | nil => exact .inl ⟨rfl, rfl⟩
    | cons c rest =>
      rw [hfirst, hsecond] at hdrop
      obtain ⟨_, hnil, _⟩ := (cons_iff (houtside hsecond)).mp hdrop.symm
      cases hnil

/-- Their longest starts in a larger class are respaced, too. -/
theorem takeWhile {q : Char → Bool} (hq : ∀ c, p c = true → q c = true)
    (h : Respaced p first second) : Respaced p (first.takeWhile q) (second.takeWhile q) := by
  induction h with
  | ends hfirst hsecond =>
    rw [List.takeWhile_eq_self_iff.mpr fun c hmem => hq c (hfirst c hmem),
      List.takeWhile_eq_self_iff.mpr fun c hmem => hq c (hsecond c hmem)]
    exact .ends hfirst hsecond
  | @char c first second hc hrest ih =>
    rw [List.takeWhile_cons, List.takeWhile_cons]
    split
    · exact .char hc ih
    · exact .nil
  | gap hne hne' hgap hgap' _ ih =>
    rw [List.takeWhile_append_of_pos fun c hmem => hq c (hgap c hmem),
      List.takeWhile_append_of_pos fun c hmem => hq c (hgap' c hmem)]
    exact .gap hne hne' hgap hgap' ih

/-- Whether a text starts with a character from outside the class that satisfies a condition. -/
theorem any_head?_eq {q : Char → Bool} (hq : ∀ c, p c = true → q c = false)
    (h : Respaced p first second) : first.head?.any q = second.head?.any q := by
  have hblank : ∀ {text : List Char}, (∀ c ∈ text, p c = true) → text.head?.any q = false := by
    intro text htext
    cases text with
    | nil => rfl
    | cons c rest => exact hq c (htext c List.mem_cons_self)
  cases h with
  | ends hfirst hsecond => rw [hblank hfirst, hblank hsecond]
  | char _ _ => rfl
  | gap hne hne' hgap hgap' _ =>
    rw [List.head?_append_of_ne_nil _ hne, List.head?_append_of_ne_nil _ hne', hblank hgap,
      hblank hgap']

end Respaced

/-! ## Readers that start anew -/

/-- At a character of the class `p`, and at the end of the text, the reader finishes what it has
begun. Then it goes on as at the start of a text. -/
structure Restarts {σ α : Type} (p : Char → Bool) (read : σ → List Char → α) (start : σ)
    (finish : σ → α → α) : Prop where
  nil : ∀ state, read state [] = finish state (read start [])
  cons : ∀ state c rest, p c = true → read state (c :: rest) = finish state (read start rest)
  /-- There is nothing to finish at the start. -/
  start : ∀ a, finish start a = a

namespace Restarts

variable {σ α : Type} {p : Char → Bool} {read : σ → List Char → α} {start : σ} {finish : σ → α → α}

/-- A reader that starts anew at a class does so at a smaller one. -/
theorem mono {q : Char → Bool} (h : Restarts p read start finish)
    (hq : ∀ c, q c = true → p c = true) : Restarts q read start finish :=
  ⟨h.nil, fun state c rest hc => h.cons state c rest (hq c hc), h.start⟩

/-- However long a gap is, the reader starts anew after it. -/
theorem gap_append (h : Restarts p read start finish) {gap : List Char} (hne : gap ≠ [])
    (hgap : ∀ c ∈ gap, p c = true) (state : σ) (rest : List Char) :
    read state (gap ++ rest) = finish state (read start rest) := by
  induction gap generalizing state with
  | nil => exact absurd rfl hne
  | cons c gap ih =>
    rw [List.cons_append, h.cons state c (gap ++ rest) (hgap c List.mem_cons_self)]
    by_cases hlast : gap = []
    · rw [hlast, List.nil_append]
    · rw [ih hlast (fun d hd => hgap d (List.mem_cons_of_mem c hd)) start, h.start]

/-- A text that is a gap is read as an empty one. -/
theorem of_gap (h : Restarts p read start finish) {gap : List Char}
    (hgap : ∀ c ∈ gap, p c = true) (state : σ) : read state gap = read state [] := by
  by_cases hne : gap = []
  · rw [hne]
  · have hread := h.gap_append hne hgap state []
    rwa [List.append_nil, ← h.nil] at hread

/-- Respaced texts are read the same if it does not matter what follows a character. -/
theorem eq_of_respaced (h : Restarts p read start finish)
    (hchar : ∀ {c : Char} {first second : List Char}, p c = false → Respaced p first second →
      (∀ state, read state first = read state second) →
      ∀ state, read state (c :: first) = read state (c :: second))
    {first second : List Char} (hrespaced : Respaced p first second) (state : σ) :
    read state first = read state second := by
  induction hrespaced generalizing state with
  | ends hfirst hsecond => rw [h.of_gap hfirst, h.of_gap hsecond]
  | char hc hrest ih => exact hchar hc hrest ih state
  | gap hne hne' hgap hgap' _ ih => rw [h.gap_append hne hgap, h.gap_append hne' hgap', ih]

end Restarts

/-- At a separator the run before it ends. -/
theorem restarts_splitRuns {p sep : Char → Bool} (hsep : ∀ c, p c = true → sep c = true) :
    Restarts p (splitRuns sep) [] fun word runs => splitRuns sep word [] ++ runs where
  nil _ := (List.append_nil _).symm
  cons word c rest hc := splitRuns_append_cons (hsep c hc) word [] rest
  start runs := List.nil_append runs

namespace Respaced

variable {p : Char → Bool} {first second : List Char}

/-- Respaced texts have the same words. -/
theorem wordsOf_eq (hp : ∀ c, p c = true → isBlank c = true) (h : Respaced p first second) :
    wordsOf first = wordsOf second := by
  refine (restarts_splitRuns hp).eq_of_respaced (fun _ _ ih word => ?_) h []
  rw [splitRuns, splitRuns, ih, ih]

theorem collapseChars_eq (hp : ∀ c, p c = true → isBlank c = true) (h : Respaced p first second) :
    collapseChars first = collapseChars second := by
  rw [collapseChars, collapseChars, h.wordsOf_eq hp]

end Respaced

/-- What a bracket encloses in respaced texts, and what follows its partner, is respaced. -/
theorem Respaced.enclosedAt {p : Char → Bool} {pair : Brackets} (hopener : p pair.opener = false)
    (hcloser : p pair.closer = false) {first second : List Char} (h : Respaced p first second)
    (limit : Option Nat) (depth : Nat) :
    Option.Rel (fun read read' => Respaced p read.1 read'.1 ∧ Respaced p read.2 read'.2)
      (Text.enclosedAt pair limit depth first) (Text.enclosedAt pair limit depth second) := by
  have hfree : ∀ {gap : List Char}, (∀ c ∈ gap, p c = true) →
      pair.opener ∉ gap ∧ pair.closer ∉ gap := by
    intro gap hgap
    refine ⟨fun hmem => ?_, fun hmem => ?_⟩
    · rw [hgap _ hmem] at hopener
      cases hopener
    · rw [hgap _ hmem] at hcloser
      cases hcloser
  have hends : ∀ {text : List Char}, (∀ c ∈ text, p c = true) → ∀ depth,
      Text.enclosedAt pair limit depth text = none := by
    intro text htext depth
    have hread := enclosedAt_append_of_free (hfree htext).1 (hfree htext).2 limit depth []
    rwa [List.append_nil] at hread
  induction h generalizing depth with
  | ends hfirst hsecond =>
    rw [hends hfirst, hends hsecond]
    exact .none
  | @char c first second hc hrest ih =>
    -- The same step is taken in both texts.
    have hstep : ∀ depth, Option.Rel
        (fun read read' => Respaced p read.1 read'.1 ∧ Respaced p read.2 read'.2)
        ((Text.enclosedAt pair limit depth first).map (Prod.map (c :: ·) id))
        ((Text.enclosedAt pair limit depth second).map (Prod.map (c :: ·) id)) := by
      intro depth
      have hread := ih depth
      generalize Text.enclosedAt pair limit depth first = read at hread ⊢
      generalize Text.enclosedAt pair limit depth second = read' at hread ⊢
      cases hread with
      | none => exact .none
      | some hread => exact .some ⟨.char hc hread.1, hread.2⟩
    rw [Text.enclosedAt, Text.enclosedAt]
    split
    · split
      · exact .none
      · exact hstep (depth + 1)
    · split
      · split
        · exact .some ⟨.nil, hrest⟩
        · exact hstep (depth - 1)
      · exact hstep depth
  | @gap _ _ first second hne hne' hgap hgap' _ ih =>
    rw [enclosedAt_append_of_free (hfree hgap).1 (hfree hgap).2,
      enclosedAt_append_of_free (hfree hgap').1 (hfree hgap').2]
    have hread := ih depth
    generalize Text.enclosedAt pair limit depth first = read at hread ⊢
    generalize Text.enclosedAt pair limit depth second = read' at hread ⊢
    cases hread with
    | none => exact .none
    | some hread => exact .some ⟨.gap hne hne' hgap hgap' hread.1, hread.2⟩

theorem Respaced.enclosed {p : Char → Bool} (pair : Brackets) (hopener : p pair.opener = false)
    (hcloser : p pair.closer = false) {first second : List Char} (h : Respaced p first second)
    (limit : Option Nat) :
    Option.Rel (fun read read' => Respaced p read.1 read'.1 ∧ Respaced p read.2 read'.2)
      (Text.enclosed pair limit first) (Text.enclosed pair limit second) :=
  h.enclosedAt hopener hcloser limit 1

/-! ## Collapsed texts -/

/-- No blank stands at an end of the text or next to another blank, and every blank is a space. -/
structure Collapsed (text : List Char) : Prop where
  /-- The text does not start with a blank. -/
  first : ∀ c ∈ text.head?, isBlank c = false
  /-- It does not end with one. -/
  last : ∀ c ∈ text.getLast?, isBlank c = false
  /-- Of two neighbours one at least is no blank. -/
  single : text.IsChain fun c d => isBlank c = false ∨ isBlank d = false
  /-- Every blank is a space. -/
  space : ∀ c ∈ text, isBlank c = true → c = ' '

/-- Runs are not empty and hold no separators. -/
theorem of_mem_splitRuns {sep : Char → Bool} {word text run : List Char}
    (hword : ∀ c ∈ word, sep c = false) (h : run ∈ splitRuns sep word text) :
    run ≠ [] ∧ ∀ c ∈ run, sep c = false := by
  have hread : ∀ {word : List Char}, word.isEmpty ≠ true → (∀ c ∈ word, sep c = false) →
      word.reverse ≠ [] ∧ ∀ c ∈ word.reverse, sep c = false :=
    fun hne hword => ⟨by simpa using hne, by simpa using hword⟩
  induction text generalizing word with
  | nil =>
    rw [splitRuns] at h
    split at h
    · cases h
    · next hne => exact List.mem_singleton.mp h ▸ hread hne hword
  | cons c rest ih =>
    rw [splitRuns] at h
    split at h
    · split at h
      · exact ih (List.forall_mem_nil _) h
      · next hne =>
        rcases List.mem_cons.mp h with rfl | hrest
        · exact hread hne hword
        · exact ih (List.forall_mem_nil _) hrest
    · next hc => exact ih (List.forall_mem_cons.mpr ⟨by simpa using hc, hword⟩) h

theorem collapsed_of_free {text : List Char} (htext : ∀ c ∈ text, isBlank c = false) :
    Collapsed text where
  first c hc := htext c (List.mem_of_mem_head? hc)
  last c hc := htext c (List.mem_of_mem_getLast? hc)
  single := List.isChain_iff_forall_rel_of_append_cons_cons.mpr fun c _ _ _ heq =>
    .inl (htext c (by simp [heq]))
  space c hc hblank := by
    rw [htext c hc] at hblank
    cases hblank

/-- Collapsed texts with a space between them are collapsed. -/
theorem Collapsed.append_space {first second : List Char} (hne : first ≠ []) (hne' : second ≠ [])
    (hfirst : Collapsed first) (hsecond : Collapsed second) :
    Collapsed (first ++ ([' '] ++ second)) where
  first c hc := by
    rw [List.head?_append_of_ne_nil _ hne] at hc
    exact hfirst.first c hc
  last c hc := by
    rw [← List.append_assoc, List.getLast?_append_of_ne_nil _ hne'] at hc
    exact hsecond.last c hc
  single := by
    rw [List.isChain_append, List.singleton_append, List.isChain_cons]
    refine ⟨hfirst.single, ⟨fun c hc => .inr (hsecond.first c hc), hsecond.single⟩, ?_⟩
    exact fun c hc _ _ => .inl (hfirst.last c hc)
  space c hc hblank := by
    rcases List.mem_append.mp hc with hfront | hc
    · exact hfirst.space c hfront hblank
    · rcases List.mem_append.mp hc with hmid | hback
      · exact List.mem_singleton.mp hmid
      · exact hsecond.space c hback hblank

/-- Every text becomes collapsed. -/
theorem collapsed_collapseChars (text : List Char) : Collapsed (collapseChars text) := by
  have hwords : ∀ word ∈ wordsOf text, word ≠ [] ∧ ∀ c ∈ word, isBlank c = false :=
    fun word hword => of_mem_splitRuns (List.forall_mem_nil _) hword
  rw [collapseChars]
  generalize wordsOf text = words at hwords ⊢
  induction words with
  | nil => exact collapsed_of_free (List.forall_mem_nil _)
  | cons word rest ih =>
    obtain ⟨hne, hfree⟩ := hwords word List.mem_cons_self
    have hrest := ih fun other hother => hwords other (List.mem_cons_of_mem word hother)
    cases rest with
    | nil => exact collapsed_of_free hfree
    | cons next rest =>
      rw [joinWith_cons_cons]
      have hnext := (hwords next (by simp)).1
      have hjoined : joinWith [' '] (next :: rest) ≠ [] := fun hnil =>
        hnext (List.infix_nil.mp (hnil ▸ isInfix_joinWith List.mem_cons_self))
      exact .append_space hne hjoined (collapsed_of_free hfree) hrest

/-- A text without the blanks at its start and its collapsed form have gaps at the same places. -/
theorem respaced_collapseChars {p : Char → Bool} (hspace : p ' ' = true) {text : List Char}
    (hp : ∀ c ∈ text, p c = isBlank c) : Respaced p (trimStartChars text) (collapseChars text) := by
  -- Word by word: the text is a word, or a word and a blank before a text.
  induction text using classInduction fun c => !isBlank c with
  | inside part hpart =>
    have hfree : ∀ c ∈ part, isBlank c = false := by simpa using hpart
    have hcollapse : collapseChars part = part := by
      rw [collapseChars, wordsOf_of_free hfree]
      split
      · next hnil => rw [hnil]; rfl
      · rfl
    rw [hcollapse, trimStartChars_eq_self fun c hc => hfree c (List.mem_of_mem_head? hc),
      ← List.append_nil part]
    exact .append_left part .nil
  | divide part c rest hpart hc ih =>
    have hfree : ∀ c ∈ part, isBlank c = false := by simpa using hpart
    have hblank : isBlank c = true := by simpa using hc
    have hrest := ih fun d hd => hp d (by simp [hd])
    by_cases hne : part = []
    · -- A blank at the start changes nothing.
      rw [hne, List.nil_append, trimStartChars, List.dropWhile_cons_of_pos hblank, collapseChars,
        wordsOf_cons_blank hblank]
      exact hrest
    have hstart : trimStartChars (part ++ c :: rest) = part ++ c :: rest := by
      refine trimStartChars_eq_self fun d hd => ?_
      rw [List.head?_append_of_ne_nil _ hne] at hd
      exact hfree d (List.mem_of_mem_head? hd)
    have hgap : ∀ {gap : List Char}, gap ⊆ rest → (∀ d ∈ gap, isBlank d = true) →
        ∀ d ∈ c :: gap, p d = true := by
      intro gap hsub hblanks d hd
      rcases List.mem_cons.mp hd with rfl | hmem
      · rw [hp d (by simp), hblank]
      · rw [hp d (by simp [hsub hmem]), hblanks d hmem]
    rw [hstart, collapseChars, wordsOf_append_blank hblank, wordsOf_of_free hfree, if_neg hne]
    rw [collapseChars] at hrest
    cases hwords : wordsOf rest with
    | nil =>
      -- Only blanks follow the word.
      have hflat := flatten_wordsOf rest
      rw [hwords] at hflat
      have hblanks : ∀ d ∈ rest, isBlank d = true := by
        simpa using List.filter_eq_nil_iff.mp hflat.symm
      have hends : Respaced p (part ++ c :: rest) (part ++ []) :=
        .append_left part (.ends (hgap (List.Subset.refl rest) hblanks) (List.forall_mem_nil _))
      rwa [List.append_nil] at hends
    | cons word words =>
      rw [hwords] at hrest
      have hparts : rest.takeWhile isBlank ++ trimStartChars rest = rest :=
        List.takeWhile_append_dropWhile
      rw [List.singleton_append, joinWith_cons_cons]
      refine .append_left part ?_
      rw [← hparts, ← List.cons_append]
      exact .gap (List.cons_ne_nil _ _) (List.cons_ne_nil _ _)
        (hgap (List.takeWhile_subset _) (List.all_eq_true.mp List.all_takeWhile))
        (by simpa using hspace) hrest

/-- A text and its collapsed form are read the same by a reader that starts anew at blanks and reads
the same in respaced texts. -/
theorem Restarts.read_collapseChars {σ α : Type} {p : Char → Bool} {read : σ → List Char → α}
    {start : σ} {finish : σ → α → α} (h : Restarts p read start finish)
    (hrespaced : ∀ {first second}, Respaced p first second → read start first = read start second)
    (hspace : p ' ' = true) {text : List Char} (hp : ∀ c ∈ text, p c = isBlank c) :
    read start (collapseChars text) = read start text := by
  have hparts : text.takeWhile isBlank ++ trimStartChars text = text :=
    List.takeWhile_append_dropWhile
  have hfront : read start (trimStartChars text) = read start text := by
    by_cases hne : text.takeWhile isBlank = []
    · rw [hne, List.nil_append] at hparts
      rw [hparts]
    · conv_rhs => rw [← hparts]
      rw [h.gap_append hne fun c hc => ?_, h.start]
      rw [hp c (List.takeWhile_subset _ hc)]
      exact List.all_eq_true.mp List.all_takeWhile c hc
  rw [← hfront]
  exact (hrespaced (respaced_collapseChars hspace hp)).symm

/-- A collapsed text has the same words. -/
theorem wordsOf_collapseChars (text : List Char) : wordsOf (collapseChars text) = wordsOf text :=
  (restarts_splitRuns fun _ hc => hc).read_collapseChars (fun h => h.wordsOf_eq fun _ hc => hc) rfl
    fun _ _ => rfl

/-- Collapsing a text again changes nothing. -/
theorem collapseChars_collapseChars (text : List Char) :
    collapseChars (collapseChars text) = collapseChars text := by
  rw [collapseChars, wordsOf_collapseChars, ← collapseChars]

/-- Collapsing a text keeps everything but its blanks. -/
theorem filter_collapseChars (text : List Char) :
    ((collapseChars text).filter fun c => !isBlank c) = text.filter fun c => !isBlank c := by
  rw [← flatten_wordsOf, ← flatten_wordsOf, wordsOf_collapseChars]

end TokenAudit.Text
