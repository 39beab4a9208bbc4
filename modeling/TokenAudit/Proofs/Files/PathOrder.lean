import Mathlib.Data.List.Lex
import Mathlib.Data.Prod.Lex
import Mathlib.Data.String.Basic
import TokenAudit.Path

/-!
# The order of paths

Paths are compared by their steps and not by their texts: `a/b` comes before `a.b`, although the
separator comes after the dot. A step has a key made of its kind and its name, and the order of
paths is the lexicographic order of the keys of their steps. So it is a linear order on lists of
steps.

## Main definitions

* `Component.key`, `Path.key`: what is compared.

## Main results

* `Path.lt_iff`: paths are compared by their keys.
* `Path.key_inj`: paths with the same key have the same steps.
* `Path.pairwise_key_mergeSort`: sorting paths with different steps puts them in strict order.
-/

namespace TokenAudit

deriving instance ReflBEq, LawfulBEq for Component

namespace Component

/-- What the order of steps compares: first the kind, then the name. -/
def key : Component → Nat ×ₗ String
  | root => toLex (0, "")
  | current => toLex (1, "")
  | parent => toLex (2, "")
  | normal name => toLex (3, name)

theorem key_injective : Function.Injective key := by
  intro a b h
  cases a <;> cases b <;> simp_all [key]

theorem lt_iff (a b : Component) : a.lt b = true ↔ a.key < b.key := by
  cases a <;> cases b <;> simp [lt, lt.rank, key, Prod.Lex.toLex_lt_toLex]

end Component

namespace Path

/-- What the order of paths compares. -/
def key (path : Path) : List (Nat ×ₗ String) :=
  path.components.map Component.key

theorem key_inj {a b : Path} : a.key = b.key ↔ a.components = b.components :=
  (List.map_injective_iff.mpr Component.key_injective).eq_iff

theorem ltSteps_iff (as bs : List Component) :
    ltSteps as bs = true ↔ as.map Component.key < bs.map Component.key := by
  induction as generalizing bs with
  | nil => cases bs <;> simp [ltSteps]
  | cons a as ih =>
    cases bs with
    | nil => simp [ltSteps]
    | cons b bs =>
      rw [ltSteps, List.map_cons, List.map_cons, List.cons_lt_cons_iff,
        Component.key_injective.eq_iff, ← ih]
      by_cases hab : a = b
      · simp [hab]
      · simp [hab, Component.lt_iff]

/-- The order of paths is the lexicographic order of their steps. -/
theorem lt_iff (a b : Path) : a.lt b = true ↔ a.key < b.key :=
  ltSteps_iff a.components b.components

/-- Sorting puts paths in strict order if no two of them have the same steps. -/
theorem pairwise_key_mergeSort {α : Type} {found : List (Path × α)}
    (h : found.Pairwise fun a b => a.1.components ≠ b.1.components) :
    (found.mergeSort fun a b => !b.1.lt a.1).Pairwise fun a b => a.1.key < b.1.key := by
  have hle (a b : Path × α) : (!b.1.lt a.1) = true ↔ a.1.key ≤ b.1.key := by
    rw [Bool.not_eq_true', ← Bool.not_eq_true, lt_iff, not_lt]
  have hsorted : (found.mergeSort fun a b => !b.1.lt a.1).Pairwise
      fun a b => (!b.1.lt a.1) = true := by
    refine List.pairwise_mergeSort (fun a b c hab hbc => ?_) (fun a b => ?_) found
    · rw [hle] at hab hbc ⊢
      exact hab.trans hbc
    · rw [Bool.or_eq_true, hle, hle]
      exact le_total _ _
  have hdistinct : (found.mergeSort fun a b => !b.1.lt a.1).Pairwise
      fun a b => a.1.components ≠ b.1.components :=
    ((List.mergeSort_perm found _).pairwise_iff fun hab => hab.symm).mpr h
  refine (hsorted.and hdistinct).imp fun {a b} hab => ?_
  exact lt_of_le_of_ne ((hle a b).mp hab.1) fun heq => hab.2 (key_inj.mp heq)

end Path

end TokenAudit
