import TokenAudit.Code.Condition
import TokenAudit.Proofs.Text.Collapse
import TokenAudit.Proofs.Text.Offset

/-!
# Arguments of `require`

A `require` is looked for at every place where a word can start, and each one is read on its own. So
one that never closes or nests too deep hides no other, wherever that stands: before it, after it or
in its argument.

## Main results

* `Condition.requireAt?_eq_some_iff`: the `require` that a text starts with.
* `Condition.mem_requires_iff`: the conditions that are found in a text.
* `Condition.requires_lists_shallow_arguments`: every condition is collapsed, nested and shallow,
  and every such argument is found.
-/

namespace TokenAudit.Condition

open Text Unicode

variable {text condition : List Char}

/-- A text starts with a `require` whose parentheses close within two more levels. -/
theorem requireAt?_eq_some_iff :
    requireAt? text = some condition ↔
      ∃ gap argument post,
        text = "require".toList ++ (gap ++ '(' :: (argument ++ ')' :: post)) ∧
        (∀ c ∈ gap, isBlank c = true) ∧ Nested parens argument ∧ Shallow parens 2 argument ∧
        condition = collapseChars argument := by
  have hread : ∀ {argument : List Char},
      ((enclosed parens (some requireDepth) argument).map fun read => collapseChars read.1) =
          some condition ↔
        ∃ inner post, argument = inner ++ ')' :: post ∧ Nested parens inner ∧
          Shallow parens 2 inner ∧ condition = collapseChars inner := by
    intro argument
    have hpair : parens.opener ≠ parens.closer := by decide
    rw [Option.map_eq_some_iff, show requireDepth = 1 + 2 from rfl]
    constructor
    · rintro ⟨⟨inner, post⟩, hread, rfl⟩
      obtain ⟨heq, hnested, hshallow⟩ := (enclosed_eq_some_iff_shallow hpair).mp hread
      exact ⟨inner, post, heq, hnested, hshallow, rfl⟩
    · rintro ⟨inner, post, heq, hnested, hshallow, rfl⟩
      exact ⟨(inner, post), (enclosed_eq_some_iff_shallow hpair).mpr ⟨heq, hnested, hshallow⟩, rfl⟩
  unfold requireAt?
  dsimp only
  constructor
  · intro h
    by_cases hword : "require".toList.isPrefixOf text = true
    · rw [if_pos hword] at h
      obtain ⟨tail, rfl⟩ := List.isPrefixOf_iff_prefix.mp hword
      rw [List.drop_left] at h
      split at h
      · next argument hopened =>
        obtain ⟨inner, post, rfl, hrest⟩ := hread.mp h
        refine ⟨tail.takeWhile isBlank, inner, post, ?_, List.all_eq_true.mp List.all_takeWhile,
          hrest⟩
        rw [← hopened, List.takeWhile_append_dropWhile]
      · cases h
    · rw [if_neg hword] at h
      cases h
  · rintro ⟨gap, argument, post, rfl, hgap, hrest⟩
    have hopened : ((gap ++ '(' :: (argument ++ ')' :: post)).dropWhile isBlank) =
        '(' :: (argument ++ ')' :: post) := by
      rw [List.dropWhile_append_of_pos hgap]
      rfl
    rw [if_pos (List.isPrefixOf_iff_prefix.mpr (List.prefix_append _ _)), List.drop_left, hopened]
    exact hread.mpr ⟨argument, post, rfl, hrest⟩

/-- The conditions found from some place on are those of every `require` at a place where a word can
start. -/
theorem mem_requiresFrom_iff {before : Option Char} :
    condition ∈ requiresFrom before text ↔
      ∃ pre rest, text = pre ++ rest ∧ (lastBefore before pre).any isWord = false ∧
        requireAt? rest = some condition := by
  induction text generalizing before with
  | nil =>
    refine iff_of_false List.not_mem_nil ?_
    rintro ⟨pre, rest, heq, _, hread⟩
    obtain ⟨rfl, rfl⟩ := List.append_eq_nil_iff.mp heq.symm
    cases hread
  | cons c text ih =>
    -- Such a place is here or later.
    have hplaces : (∃ pre rest, c :: text = pre ++ rest ∧
          (lastBefore before pre).any isWord = false ∧ requireAt? rest = some condition) ↔
        (before.any isWord = false ∧ requireAt? (c :: text) = some condition) ∨
          condition ∈ requiresFrom (some c) text := by
      rw [ih]
      constructor
      · rintro ⟨pre, rest, heq, hbefore, hread⟩
        cases pre with
        | nil => exact .inl ⟨hbefore, heq ▸ hread⟩
        | cons d pre =>
          obtain ⟨rfl, rfl⟩ := List.cons.inj heq
          exact .inr ⟨pre, rest, rfl, lastBefore_cons before c pre ▸ hbefore, hread⟩
      · rintro (⟨hbefore, hread⟩ | ⟨pre, rest, rfl, hbefore, hread⟩)
        · exact ⟨[], c :: text, rfl, hbefore, hread⟩
        · exact ⟨c :: pre, rest, rfl, (lastBefore_cons before c pre).symm ▸ hbefore, hread⟩
    rw [hplaces, requiresFrom]
    cases hbefore : before.any isWord with
    | true => simp
    | false => simp

/-- The conditions that are found in a text. -/
theorem mem_requires_iff :
    condition ∈ requires text ↔
      ∃ pre gap argument post,
        text = pre ++ ("require".toList ++ (gap ++ '(' :: (argument ++ ')' :: post))) ∧
        pre.getLast?.any isWord = false ∧ (∀ c ∈ gap, isBlank c = true) ∧
        Nested parens argument ∧ Shallow parens 2 argument ∧
        condition = collapseChars argument := by
  rw [requires, mem_requiresFrom_iff]
  constructor
  · rintro ⟨pre, rest, rfl, hbefore, hread⟩
    obtain ⟨gap, argument, post, rfl, hargument⟩ := requireAt?_eq_some_iff.mp hread
    exact ⟨pre, gap, argument, post, rfl, by simpa [lastBefore] using hbefore, hargument⟩
  · rintro ⟨pre, gap, argument, post, rfl, hbefore, hargument⟩
    exact ⟨pre, _, rfl, by simpa [lastBefore] using hbefore,
      requireAt?_eq_some_iff.mpr ⟨gap, argument, post, rfl, hargument⟩⟩

/-- Every condition that is found is collapsed, with nested parentheses on two levels at most. And
every argument with nested parentheses on two levels at most is found, wherever its `require` stands
in a text, if no word goes on there. -/
theorem requires_lists_shallow_arguments :
    (∀ text, ∀ condition ∈ requires text,
      Collapsed condition ∧ Nested parens condition ∧ Shallow parens 2 condition) ∧
    ∀ pre gap argument post : List Char, pre.getLast?.any isWord = false →
      (∀ c ∈ gap, isBlank c = true) → Nested parens argument → Shallow parens 2 argument →
      collapseChars argument ∈
        requires (pre ++ ("require".toList ++ (gap ++ '(' :: (argument ++ ')' :: post)))) := by
  constructor
  · intro text condition hmem
    obtain ⟨_, _, argument, _, _, _, _, hnested, hshallow, rfl⟩ := mem_requires_iff.mp hmem
    have hfilter := filter_collapseChars argument
    refine ⟨collapsed_collapseChars argument, hnested.of_filter_eq (by decide) rfl rfl hfilter, ?_⟩
    exact hshallow.of_filter_prefix (p := fun c => !isBlank c) rfl rfl
      ⟨[], by rw [List.append_nil, hfilter]⟩
  · intro pre gap argument post hbefore hgap hnested hshallow
    exact mem_requires_iff.mpr
      ⟨pre, gap, argument, post, rfl, hbefore, hgap, hnested, hshallow, rfl⟩

/-- An argument is found after a `require` that nests too deep, in the argument of one that never
closes, and before another. -/
theorem requires_lists_shallow_arguments_inside :
    let argument := "f(  g(x) )".toList
    let text := "require((((a)))); require(b, ".toList ++ ("require".toList ++ ("\n".toList ++
      '(' :: (argument ++ ')' :: "; require(c".toList)))
    Nested parens argument ∧ Shallow parens 2 argument ∧
      collapseChars argument ∈ requires text ∧ Nested parens (collapseChars argument) := by
  have hread : enclosed parens (some (1 + 2)) ("f(  g(x) )".toList ++ [')']) =
      some ("f(  g(x) )".toList, []) := by decide
  obtain ⟨-, hnested, hshallow⟩ := (enclosed_eq_some_iff_shallow (by decide)).mp hread
  obtain ⟨hsound, hcomplete⟩ := requires_lists_shallow_arguments
  have hmem := hcomplete "require((((a)))); require(b, ".toList "\n".toList _ "; require(c".toList
    (by decide) (List.all_eq_true.mp (by decide)) hnested hshallow
  exact ⟨hnested, hshallow, hmem, (hsound _ _ hmem).2.1⟩

end TokenAudit.Condition
