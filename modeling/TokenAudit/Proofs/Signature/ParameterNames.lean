import Mathlib.Data.List.Induction
import Mathlib.Data.List.Nodup
import TokenAudit.Code.Function

/-!
# The names of a parameter list

Declaring parameters one after the other keeps each name where it was declared first. So the names
are the declared ones without repetitions, and what is declared later moves none of them.

## Main results

* `ParameterList.names_ofList`: the names are the declared names without repetitions.
* `ParameterList.nameAt?_ofList_eq_some_iff`: where a declared name stands.
-/

namespace TokenAudit

/-! ## Lists without repetitions -/

theorem eraseDups_concat (names : List String) (name : String) :
    (names ++ [name]).eraseDups =
      if name ∈ names then names.eraseDups else names.eraseDups ++ [name] := by
  rw [List.eraseDups_append]
  split <;> simp_all [List.removeAll, List.eraseDups_cons]

theorem nodup_append_singleton_iff (names : List String) (name : String) :
    (names ++ [name]).Nodup ↔ name ∉ names ∧ names.Nodup := by
  rw [← List.concat_eq_append, List.nodup_concat]

theorem nodup_eraseDups (names : List String) : names.eraseDups.Nodup := by
  induction names using List.reverseRecOn with
  | nil => simp
  | append_singleton names name ih =>
    rw [eraseDups_concat]
    split
    · exact ih
    · rename_i hnew
      rw [nodup_append_singleton_iff, List.mem_eraseDups]
      exact ⟨hnew, ih⟩

theorem length_eraseDups_le (names : List String) : names.eraseDups.length ≤ names.length := by
  induction names using List.reverseRecOn with
  | nil => simp
  | append_singleton names name ih =>
    rw [eraseDups_concat]
    split <;> simp <;> omega

theorem length_eraseDups_eq_iff (names : List String) :
    names.eraseDups.length = names.length ↔ names.Nodup := by
  induction names using List.reverseRecOn with
  | nil => simp
  | append_singleton names name ih =>
    have hle := length_eraseDups_le names
    rw [eraseDups_concat, nodup_append_singleton_iff, ← ih, List.length_append,
      List.length_singleton]
    by_cases hold : name ∈ names
    · -- A name that is left out is never made up for, since the list does not grow.
      simp only [hold, if_true, not_true, false_and, iff_false]
      omega
    · simp [hold]

theorem idxOf_eraseDups_le (names : List String) (name : String) :
    names.eraseDups.idxOf name ≤ names.length :=
  Nat.le_trans List.idxOf_le_length (length_eraseDups_le names)

/-- No name is lost before the next one exactly if all of them are different. -/
theorem idxOf_eraseDups_eq_length_iff (names : List String) (name : String) :
    names.eraseDups.idxOf name = names.length ↔ (names ++ [name]).Nodup := by
  have hfound : names.eraseDups.idxOf name ≤ names.eraseDups.length := List.idxOf_le_length
  have hle := length_eraseDups_le names
  rw [nodup_append_singleton_iff, ← length_eraseDups_eq_iff, ← List.mem_eraseDups,
    ← List.idxOf_eq_length_iff]
  omega

/-- A name stands where it stood when it was declared, whatever is declared after it. -/
theorem idxOf_eraseDups_append_cons (front back : List String) (name : String) :
    (front ++ name :: back).eraseDups.idxOf name = front.eraseDups.idxOf name := by
  rw [List.eraseDups_append]
  by_cases hold : name ∈ front
  · exact List.idxOf_append_of_mem (List.mem_eraseDups.mpr hold)
  · have hnew : name ∉ front.eraseDups := by rwa [List.mem_eraseDups]
    rw [List.idxOf_append_of_notMem hnew, List.idxOf_eq_length hnew]
    simp [List.removeAll, hold, List.eraseDups_cons]

namespace ParameterList

/-! ## Names -/

/-- The names, in order. -/
def names (list : ParameterList) : List String :=
  list.entries.map (·.1)

theorem nameAt?_eq (list : ParameterList) (index : Nat) : list.nameAt? index = list.names[index]? :=
  (List.getElem?_map ..).symm

theorem map_fst_insertEntry (name type : String) (entries : List (String × String)) :
    (insertEntry name type entries).map (·.1) =
      if name ∈ entries.map (·.1) then entries.map (·.1) else entries.map (·.1) ++ [name] := by
  induction entries with
  | nil => simp [insertEntry]
  | cons entry rest ih =>
    rw [insertEntry]
    by_cases hname : entry.1 = name
    · simp [hname]
    · have hmem : name ∈ (entry :: rest).map (·.1) ↔ name ∈ rest.map (·.1) := by
        simp [Ne.symm hname]
      rw [if_neg (by simpa using hname), List.map_cons, ih, if_congr hmem rfl rfl]
      by_cases hold : name ∈ rest.map (·.1)
      · rw [if_pos hold, if_pos hold, List.map_cons]
      · rw [if_neg hold, if_neg hold, List.map_cons, List.cons_append]

/-- Declaring a parameter adds its name at the end, if it is new. -/
theorem names_insert (list : ParameterList) (name type : String) :
    (list.insert name type).names =
      if name ∈ list.names then list.names else list.names ++ [name] :=
  map_fst_insertEntry name type list.entries

/-- The names are the declared names without repetitions. -/
theorem names_ofList (declared : List (String × String)) :
    (ofList declared).names = (declared.map (·.1)).eraseDups := by
  induction declared using List.reverseRecOn with
  | nil => rfl
  | append_singleton declared last ih =>
    have hstep : ofList (declared ++ [last]) = (ofList declared).insert last.1 last.2 := by
      simp [ofList]
    simp only [hstep, names_insert, ih, List.map_append, List.map_singleton, eraseDups_concat,
      List.mem_eraseDups]

/-- A declared name stands after the names that were new before it. -/
theorem nameAt?_ofList_eq_some_iff {declared : List (String × String)} {front back : List String}
    {name : String} (hdeclared : declared.map (·.1) = front ++ name :: back) (index : Nat) :
    (ofList declared).nameAt? index = some name ↔ index = front.eraseDups.idxOf name := by
  -- No name stands in two places, so the place is where the search for the name ends.
  rw [nameAt?_eq, names_ofList, hdeclared, ← idxOf_eraseDups_append_cons front back]
  have hmem : name ∈ (front ++ name :: back).eraseDups := by simp
  generalize hnames : (front ++ name :: back).eraseDups = names at hmem
  have hnodup : names.Nodup := hnames ▸ nodup_eraseDups _
  rw [← List.getElem?_idxOf hmem, eq_comm, List.getElem?_inj (List.idxOf_lt_length_of_mem hmem)
    hnodup, eq_comm]

end ParameterList

end TokenAudit
