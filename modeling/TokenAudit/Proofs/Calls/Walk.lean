import TokenAudit.Code.Call
import Mathlib.Data.List.Count

/-!
# The walk along calls

`CallSearch.descend` follows calls down to a bounded depth. `CallSearch.Walks` is the same walk
without a bound, as a relation between the search before and the search after; a derivation of it is
one finite run. This module proves that the two agree and what every run keeps:

- `Walks.descend`: with more levels than functions whose name is still open, the bounded search
  completes the walk;
- `walks_iff_eq_descend`: the walk from an empty search ends in exactly one search, and any bound
  above the number of functions computes it;
- `Walks.visited_eq`: the names followed are the names of the functions reached;
- `Walks.count_le`: no function is reached more often than it is declared.
-/

namespace TokenAudit.CallSearch

/-! ## The walk without a bound -/

/-- What a search has still to do for one body. -/
inductive Pending
  /-- Look up these names, which the body calls. -/
  | names (body : String) (names : List String)
  /-- Try these functions, which have one name that the body calls. -/
  | overloads (body : String) (overloads : List Function)

/-- Doing what is pending, from the search `s`, comes to an end with the search `t`. -/
inductive Walks (functions : List Function) : Pending → CallSearch → CallSearch → Prop
  /-- No name is left. -/
  | noNames {body : String} {s : CallSearch} : Walks functions (.names body []) s s
  /-- A name that has been followed is passed over. -/
  | pass {body name : String} {rest : List String} {s t : CallSearch} :
      name ∈ s.visited → Walks functions (.names body rest) s t →
      Walks functions (.names body (name :: rest)) s t
  /-- All functions of a new name are tried before the next name. -/
  | look {body name : String} {rest : List String} {s t u : CallSearch} :
      name ∉ s.visited →
      Walks functions (.overloads body (functions.filter (·.name == name))) s t →
      Walks functions (.names body rest) t u →
      Walks functions (.names body (name :: rest)) s u
  /-- No function is left. -/
  | noOverloads {body : String} {s : CallSearch} : Walks functions (.overloads body []) s s
  /-- A function whose body is the text being read is noted and not reached. -/
  | back {body : String} {f : Function} {rest : List Function} {s t : CallSearch} :
      f.body = body → Walks functions (.overloads body rest) { s with selfHit := true } t →
      Walks functions (.overloads body (f :: rest)) s t
  /-- Any other function is reached, and its calls are followed before the next one is tried. -/
  | enter {body : String} {f : Function} {rest : List Function} {s t u : CallSearch} :
      f.body ≠ body → Walks functions (.names f.body (callNames f.body)) (s.reach f) t →
      Walks functions (.overloads body rest) t u →
      Walks functions (.overloads body (f :: rest)) s u

variable {functions : List Function} {pending : Pending} {s t : CallSearch}

/-- The walk from a given search ends in at most one search. -/
theorem Walks.deterministic {u : CallSearch} (ht : Walks functions pending s t)
    (hu : Walks functions pending s u) : t = u := by
  induction ht generalizing u with
  | noNames =>
    cases hu
    rfl
  | pass hmem _ ih =>
    cases hu with
    | pass _ h => exact ih h
    | look hnew _ _ => exact absurd hmem hnew
  | look hnew _ _ ihOverloads ihRest =>
    cases hu with
    | pass hmem _ => exact absurd hmem hnew
    | look _ hOverloads hRest =>
      cases ihOverloads hOverloads
      exact ihRest hRest
  | noOverloads =>
    cases hu
    rfl
  | back hbody _ ih =>
    cases hu with
    | back _ h => exact ih h
    | enter hne _ _ => exact absurd hbody hne
  | enter hne _ _ ihNames ihRest =>
    cases hu with
    | back hbody _ => exact absurd hbody hne
    | enter _ hNames hRest =>
      cases ihNames hNames
      exact ihRest hRest

/-! ## What only grows -/

/-- Functions that have been reached stay, and new ones come in front of them. -/
theorem Walks.found_suffix (h : Walks functions pending s t) : s.found <:+ t.found := by
  induction h with
  | noNames => exact List.suffix_refl _
  | pass _ _ ih => exact ih
  | look _ _ _ ihOverloads ihRest => exact ihOverloads.trans ihRest
  | noOverloads => exact List.suffix_refl _
  | back _ _ ih => exact ih
  | enter _ _ _ ihNames ihRest =>
    exact ((List.suffix_cons _ _).trans ihNames).trans ihRest

/-- Names that have been followed stay followed. -/
theorem Walks.visited_subset (h : Walks functions pending s t) : s.visited ⊆ t.visited := by
  induction h with
  | noNames => exact List.Subset.refl _
  | pass _ _ ih => exact ih
  | look _ _ _ ihOverloads ihRest => exact List.Subset.trans ihOverloads ihRest
  | noOverloads => exact List.Subset.refl _
  | back _ _ ih => exact ih
  | enter _ _ _ ihNames ihRest =>
    exact List.Subset.trans (List.Subset.trans (List.subset_cons_self _ _) ihNames) ihRest

/-- The names followed are those of the functions reached, in the same order. -/
theorem Walks.visited_eq (h : Walks functions pending s t)
    (hs : s.visited = s.found.map (·.name)) : t.visited = t.found.map (·.name) := by
  induction h with
  | noNames => exact hs
  | pass _ _ ih => exact ih hs
  | look _ _ _ ihOverloads ihRest => exact ihRest (ihOverloads hs)
  | noOverloads => exact hs
  | back _ _ ih => exact ih hs
  | enter _ _ _ ihNames ihRest =>
    refine ihRest (ihNames ?_)
    rw [reach, hs, List.map_cons]

/-! ## The bounded search completes the walk -/

/-- The number of functions whose name has not been followed. -/
def openCount (functions : List Function) (s : CallSearch) : Nat :=
  functions.countP fun f => f.name ∉ s.visited

/-- Following more names leaves no more functions open. -/
theorem openCount_le_of_subset (h : s.visited ⊆ t.visited) :
    openCount functions t ≤ openCount functions s := by
  refine List.countP_mono_left fun f _ hf => ?_
  simp only [decide_eq_true_eq] at hf ⊢
  exact fun hmem => hf (h hmem)

/-- Following a name that some function has leaves fewer functions open. -/
theorem openCount_lt_of_mem {f : Function} (hf : f ∈ functions) (hnew : f.name ∉ s.visited)
    (h : s.visited ⊆ t.visited) (hmem : f.name ∈ t.visited) :
    openCount functions t < openCount functions s := by
  obtain ⟨before, after, rfl⟩ := List.append_of_mem hf
  have hbefore : openCount before t ≤ openCount before s := openCount_le_of_subset h
  have hafter : openCount after t ≤ openCount after s := openCount_le_of_subset h
  simp only [openCount, List.countP_append, List.countP_cons, hnew, hmem, not_true_eq_false,
    not_false_eq_true, decide_true, decide_false, if_true] at hbefore hafter ⊢
  simp only [Bool.false_eq_true, if_false]
  omega

/-- The inner loop of `descend`: each of the functions `overloads` is noted or entered. -/
private theorem Walks.foldl_overloads {fuel : Nat} (body : String)
    (ih : ∀ s body, openCount functions s < fuel →
      Walks functions (.names body (callNames body)) s (CallSearch.descend functions fuel s body))
    (overloads : List Function) (s : CallSearch)
    (hopen : ∀ f ∈ overloads, ∀ t : CallSearch, s.visited ⊆ t.visited →
      openCount functions (t.reach f) < fuel) :
    Walks functions (.overloads body overloads) s (overloads.foldl
      (fun search f =>
        if f.body == body then { search with selfHit := true }
        else CallSearch.descend functions fuel (search.reach f) f.body) s) := by
  induction overloads generalizing s with
  | nil => exact .noOverloads
  | cons f rest ihRest =>
    rw [List.foldl_cons]
    by_cases hbody : f.body = body
    · rw [if_pos (by simpa using hbody)]
      exact .back hbody (ihRest _ fun g hg => hopen g (List.mem_cons_of_mem _ hg))
    · rw [if_neg (by simpa using hbody)]
      have hdown := ih (s.reach f) f.body
        (hopen f List.mem_cons_self s (List.Subset.refl _))
      refine .enter hbody hdown (ihRest _ fun g hg u hu => ?_)
      -- the functions after `f` are tried from a search that has followed more names
      refine hopen g (List.mem_cons_of_mem _ hg) u (List.Subset.trans ?_ hu)
      exact List.Subset.trans (List.subset_cons_self _ _) hdown.visited_subset

/-- The outer loop of `descend`: each of the names `names` is passed over or looked up. -/
private theorem Walks.foldl_names {fuel : Nat} (body : String)
    (ih : ∀ s body, openCount functions s < fuel →
      Walks functions (.names body (callNames body)) s (CallSearch.descend functions fuel s body))
    (names : List String) (s : CallSearch) (hopen : openCount functions s < fuel + 1) :
    Walks functions (.names body names) s (names.foldl
      (fun search name =>
        if search.visited.contains name then search
        else (functions.filter (·.name == name)).foldl
          (fun search f =>
            if f.body == body then { search with selfHit := true }
            else CallSearch.descend functions fuel (search.reach f) f.body) search) s) := by
  induction names generalizing s with
  | nil => exact .noNames
  | cons name rest ihRest =>
    rw [List.foldl_cons]
    by_cases hname : name ∈ s.visited
    · rw [if_pos (by simpa using hname)]
      exact .pass hname (ihRest s hopen)
    · rw [if_neg (by simpa using hname)]
      -- entering a function of this name closes the name, which pays for one level
      have htried := Walks.foldl_overloads body ih (functions.filter (·.name == name)) s
        fun f hf u hu => by
          obtain ⟨hmem, hnamed⟩ := List.mem_filter.mp hf
          have hnamed : f.name = name := by simpa using hnamed
          have hlt : openCount functions (u.reach f) < openCount functions s :=
            openCount_lt_of_mem hmem (hnamed ▸ hname)
              (List.Subset.trans hu (List.subset_cons_self _ _)) List.mem_cons_self
          omega
      refine .look hname htried (ihRest _ ?_)
      exact Nat.lt_of_le_of_lt (openCount_le_of_subset htried.visited_subset) hopen

/-- With more levels than functions whose name is open, `descend` completes the walk. -/
theorem Walks.descend (fuel : Nat) (s : CallSearch) (body : String)
    (hopen : openCount functions s < fuel) :
    Walks functions (.names body (callNames body)) s
      (CallSearch.descend functions fuel s body) := by
  induction fuel generalizing s body with
  | zero => exact absurd hopen (Nat.not_lt_zero _)
  | succ fuel ih =>
    rw [CallSearch.descend]
    exact Walks.foldl_names body ih (callNames body) s hopen

/-- The walk from an empty search ends in exactly one search, and every bound above the number of
functions computes it. -/
theorem walks_iff_eq_descend {fuel : Nat} (hfuel : functions.length < fuel) (body : String) :
    Walks functions (.names body (callNames body)) .start t ↔
      t = CallSearch.descend functions fuel .start body := by
  have hwalk : Walks functions (.names body (callNames body)) .start
      (CallSearch.descend functions fuel .start body) :=
    Walks.descend fuel _ _ (Nat.lt_of_le_of_lt List.countP_le_length hfuel)
  constructor
  · intro h
    exact h.deterministic hwalk
  · rintro rfl
    exact hwalk

/-! ## No function is reached twice -/

/-- The functions that can be reached although their name has been followed. -/
def Pending.direct : Pending → List Function
  | .names _ _ => []
  | .overloads _ tried => tried

/-- A function whose name has been followed is not reached again, unless it is being tried. -/
theorem Walks.count_eq_of_visited (h : Walks functions pending s t) {f : Function}
    (hname : f.name ∈ s.visited) (hdirect : f ∉ pending.direct) :
    t.found.count f = s.found.count f := by
  induction h with
  | noNames => rfl
  | pass _ _ ih => exact ih hname hdirect
  | @look _ name _ _ _ _ hnew hOverloads _ ihOverloads ihRest =>
    have hother : f ∉ functions.filter (·.name == name) := by
      intro hf
      have hnamed : f.name = name := beq_iff_eq.mp (List.mem_filter.mp hf).2
      exact hnew (hnamed ▸ hname)
    rw [ihRest (hOverloads.visited_subset hname) List.not_mem_nil, ihOverloads hname hother]
  | noOverloads => rfl
  | back _ _ ih => exact ih hname fun hf => hdirect (List.Mem.tail _ hf)
  | @enter _ g rest _ _ _ _ hNames _ ihNames ihRest =>
    have hne : g ≠ f := fun hg => hdirect (hg ▸ List.Mem.head _)
    have hrest : f ∉ rest := fun hf => hdirect (List.Mem.tail _ hf)
    have hkept := List.mem_cons_of_mem g.name hname
    rw [ihRest (hNames.visited_subset hkept) hrest, ihNames hkept List.not_mem_nil, reach,
      List.count_cons_of_ne hne]

/-- Along a walk no function is reached more often than `functions` lists it. The functions being
tried have one name and are counted as if they were reached. -/
theorem Walks.count_le (h : Walks functions pending s t)
    (hvisited : s.visited = s.found.map (·.name))
    (hsame : ∀ f ∈ pending.direct, ∀ g ∈ pending.direct, f.name = g.name)
    (hcount : ∀ f, pending.direct.count f + s.found.count f ≤ functions.count f) (f : Function) :
    t.found.count f ≤ functions.count f := by
  induction h generalizing f with
  | noNames => exact Nat.le_trans (Nat.le_add_left _ _) (hcount f)
  | pass _ _ ih => exact ih hvisited hsame hcount f
  | @look _ name rest s t u hnew hOverloads _ ihOverloads ihRest =>
    have hnamed : ∀ f ∈ functions.filter (·.name == name), f.name = name := fun f hf =>
      beq_iff_eq.mp (List.mem_filter.mp hf).2
    -- nothing of a new name has been reached, so all its functions may be
    have htried : ∀ g, (functions.filter (·.name == name)).count g + s.found.count g ≤
        functions.count g := by
      intro g
      by_cases hg : g.name = name
      · have hnone : s.found.count g = 0 := by
          refine List.count_eq_zero.mpr fun hmem => hnew ?_
          rw [hvisited, ← hg]
          exact List.mem_map_of_mem hmem
        rw [hnone, Nat.add_zero]
        exact List.filter_sublist.count_le g
      · have hnone : (functions.filter (·.name == name)).count g = 0 :=
          List.count_eq_zero.mpr fun hmem => hg (hnamed g hmem)
        have hfits := hcount g
        rw [hnone]
        exact hfits
    refine ihRest (hOverloads.visited_eq hvisited) hsame (fun g => ?_) f
    rw [Pending.direct, List.count_nil, Nat.zero_add]
    refine ihOverloads hvisited (fun f hf g hg => ?_) htried g
    rw [hnamed f hf, hnamed g hg]
  | noOverloads => exact Nat.le_trans (Nat.le_add_left _ _) (hcount f)
  | back _ _ ih =>
    refine ih hvisited (fun f hf g hg => ?_) (fun g => ?_) f
    · exact hsame f (List.Mem.tail _ hf) g (List.Mem.tail _ hg)
    · exact Nat.le_trans (Nat.add_le_add_right List.count_le_count_cons _) (hcount g)
  | @enter _ g rest s t u _ hNames _ ihNames ihRest =>
    have hreach : (s.reach g).visited = (s.reach g).found.map (·.name) := by
      rw [reach, hvisited, List.map_cons]
    have hmove : ∀ f, rest.count f + (s.reach g).found.count f ≤ functions.count f := by
      intro f
      have hfits := hcount f
      rw [Pending.direct, List.count_cons] at hfits
      rw [reach, List.count_cons]
      omega
    have hdown : ∀ f, t.found.count f ≤ functions.count f := by
      refine ihNames hreach (fun _ hf => absurd hf List.not_mem_nil) fun f => ?_
      rw [Pending.direct, List.count_nil, Nat.zero_add]
      exact Nat.le_trans (Nat.le_add_left _ _) (hmove f)
    refine ihRest (hNames.visited_eq hreach) (fun f hf g hg => ?_) (fun f => ?_) f
    · exact hsame f (List.Mem.tail _ hf) g (List.Mem.tail _ hg)
    · -- the functions still to be tried have the name just followed, so `hNames` left them alone
      rw [Pending.direct]
      by_cases hf : f ∈ rest
      · have hname : f.name ∈ (s.reach g).visited := by
          rw [hsame f (List.Mem.tail _ hf) g (List.Mem.head _)]
          exact List.mem_cons_self
        rw [hNames.count_eq_of_visited hname List.not_mem_nil]
        exact hmove f
      · rw [List.count_eq_zero.mpr hf, Nat.zero_add]
        exact hdown f

end TokenAudit.CallSearch
