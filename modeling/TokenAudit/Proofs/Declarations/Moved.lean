import TokenAudit.Proofs.Calls.Walk
import TokenAudit.Proofs.Declarations.Scan

/-!
# Functions in a text that is moved

Text in front of a source moves everything that is declared in it. If no declaration starts in that
text, nothing but the offsets changes: the same functions are listed, and calls lead from the same
functions to the same functions.

## Main definitions

* `Function.moved`: a function, some bytes further on.
* `CallSearch.moved`, `CallClosure.moved`: the same for the functions that calls lead to.

## Main results

* `declarations_append_filler`: a filler in front of a source moves what is declared in it.
* `resolveCalls_map_moved`: calls among functions that are moved lead to functions that are moved.
-/

namespace TokenAudit

open Text Unicode

/-- The function in a text that starts `count` bytes further on. -/
def Function.moved (count : Nat) (f : Function) : Function :=
  { f with start := f.start + count, stop := f.stop + count }

/-! ## The search for declarations -/

/-- The function of a header that stands further on is moved. -/
theorem Header.function?_add (header : Header) (start count : Nat) :
    header.function? (start + count) = (header.function? start).map (Function.moved count) := by
  have hstop : ∀ length, start + count + length = start + length + count := by
    intro length
    omega
  rw [function?, function?]
  -- A body that never closes is left out wherever it stands.
  by_cases hopens : header.opensBody
  · rw [if_pos hopens, if_pos hopens]
    cases (enclosed braces none header.after).map fun p => header.chars ++ p.1 ++ ['\x7d'] with
    | none => rfl
    | some chars => simp [Function.moved, hstop]
  · rw [if_neg hopens, if_neg hopens]
    simp [Function.moved, hstop]

/-- The search in a text that starts further on lists the same functions, moved. -/
theorem declarationsFrom_add (skip : Nat) (before : Option Char) (offset count : Nat)
    (text : List Char) :
    declarationsFrom skip before (offset + count) text =
      (declarationsFrom skip before offset text).map (Function.moved count) := by
  induction text generalizing skip before offset with
  | nil => rfl
  | cons c rest ih =>
    have hnext : offset + count + c.utf8Size = offset + c.utf8Size + count := by omega
    cases skip with
    | succ skip => rw [declarationsFrom, declarationsFrom, hnext, ih]
    | zero =>
      rw [declarationsFrom, declarationsFrom, hnext]
      by_cases hword : before.any isWord
      · rw [if_pos hword, if_pos hword, ih]
      · rw [if_neg hword, if_neg hword]
        cases Header.read? (c :: rest) with
        | none => exact ih 0 (some c) (offset + c.utf8Size)
        | some header =>
          simp only [Header.function?_add, ih, List.map_append]
          cases header.function? offset <;> rfl

/-- What stands before a text does not matter to the search unless a word runs on from there. -/
theorem declarationsFrom_before {before : Option Char} (hbefore : before.any isWord = false)
    (offset : Nat) (text : List Char) :
    declarationsFrom 0 before offset text = declarationsFrom 0 none offset text := by
  cases text with
  | nil => rfl
  | cons c rest => rw [declarationsFrom, declarationsFrom, hbefore, Option.any_none]

/-- A filler in front of a source moves what is declared in it by the length of the filler. -/
theorem declarations_append_filler (filler : Filler) (source : String) :
    declarations (String.ofList filler.chars ++ source) =
      (declarations source).map (Function.moved (byteLength filler.chars)) := by
  have hbefore : (lastBefore none filler.chars).any isWord = false :=
    filler.lastBefore_any_isWord rfl
  rw [declarations, declarations, String.toList_append, String.toList_ofList,
    declarationsFrom_filler, declarationsFrom_before hbefore, declarationsFrom_add]

/-! ## Calls -/

namespace CallSearch

/-- The search among functions that are moved. -/
def moved (count : Nat) (search : CallSearch) : CallSearch :=
  { search with found := search.found.map (Function.moved count) }

/-- What is pending among functions that are moved. -/
def Pending.moved (count : Nat) : Pending → Pending
  | .names body called => .names body called
  | .overloads body tried => .overloads body (tried.map (Function.moved count))

/-- Functions keep their names when they are moved. -/
theorem filter_name_map_moved (count : Nat) (functions : List Function) (name : String) :
    (functions.map (Function.moved count)).filter (·.name == name) =
      (functions.filter (·.name == name)).map (Function.moved count) := by
  rw [List.filter_map]
  rfl

/-- A walk among functions is one among the moved functions: it looks at names and bodies only. -/
theorem Walks.moved {functions : List Function} {pending : Pending} {s t : CallSearch}
    (count : Nat) (h : Walks functions pending s t) :
    Walks (functions.map (Function.moved count)) (pending.moved count) (s.moved count)
      (t.moved count) := by
  induction h with
  | noNames => exact .noNames
  | pass hvisited _ ih => exact .pass hvisited ih
  | look hnew _ _ ihOverloads ihRest =>
    refine .look hnew ?_ ihRest
    rw [filter_name_map_moved]
    exact ihOverloads
  | noOverloads => exact .noOverloads
  | back hbody _ ih => exact .back hbody ih
  | enter hbody _ _ ihNames ihRest => exact .enter hbody ihNames ihRest

/-- The bounded search commutes with moving the functions. -/
theorem descend_map_moved (count : Nat) (functions : List Function) (body : String) :
    descend (functions.map (Function.moved count)) (functions.length + 1) .start body =
      (descend functions (functions.length + 1) .start body).moved count := by
  have hwalk : Walks functions (.names body (callNames body)) .start
      (descend functions (functions.length + 1) .start body) :=
    (walks_iff_eq_descend (Nat.lt_succ_self _) body).mpr rfl
  -- The walk in the moved functions ends in exactly one search.
  have hfuel : (functions.map (Function.moved count)).length < functions.length + 1 := by
    rw [List.length_map]
    exact Nat.lt_succ_self _
  exact ((walks_iff_eq_descend hfuel body).mp (hwalk.moved count)).symm

end CallSearch

/-- The same closure with its functions moved. -/
def CallClosure.moved (count : Nat) : CallClosure → CallClosure
  | noCalls => noCalls
  | selfRecursive => selfRecursive
  | callees functions => callees (functions.map (Function.moved count))

@[simp] theorem CallClosure.reached_moved (count : Nat) (closure : CallClosure) :
    (closure.moved count).reached = closure.reached.map (Function.moved count) := by
  cases closure <;> rfl

/-- Calls among functions that are moved lead to functions that are moved. -/
theorem resolveCalls_map_moved (count : Nat) (body : String) (functions : List Function) :
    resolveCalls body (functions.map (Function.moved count)) =
      (resolveCalls body functions).moved count := by
  rw [resolveCalls, resolveCalls, List.length_map, CallSearch.descend_map_moved]
  cases hfound : (CallSearch.descend functions (functions.length + 1) .start body).found with
  | nil =>
    simp only [CallSearch.moved, hfound, List.map_nil, List.isEmpty_nil]
    cases (CallSearch.descend functions (functions.length + 1) .start body).selfHit <;> rfl
  | cons f rest =>
    simp [CallSearch.moved, CallClosure.moved, hfound, List.map_reverse]

end TokenAudit
