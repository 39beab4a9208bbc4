import TokenAudit.Proofs.Calls.Closure

/-!
# What the call closure depends on

A walk along calls looks functions up by name, and only by names that some text on the way calls. Two
lists of functions that agree on these names are walked alike, step by step, whatever else they hold
and in whatever order.

## Main definitions

* `CalledFrom`: a name that the body or a text reached from it calls.

## Main results

* `CallSearch.Walks.of_agrees`: a walk over one list is a walk over the other.
* `resolveCalls_depends_on_called`: the answer is the same, so functions that are never called may
  come, go and move, and functions with names of their own may stand in any order.
-/

namespace TokenAudit

open CallSearch Relation

/-- The name is called by the body or by a text that a chain of calls leads to. -/
def CalledFrom (functions : List Function) (body name : String) : Prop :=
  ∃ text, ReflTransGen (Calls functions) body text ∧ name ∈ callNames text

/-- Both lists have the same functions, in the same order, under every name that is called. -/
def AgreeOnCalled (body : String) (functions functions' : List Function) : Prop :=
  ∀ name, CalledFrom functions body name →
    functions.filter (·.name == name) = functions'.filter (·.name == name)

variable {functions functions' : List Function} {body : String}

/-! ## Two walks in step -/

/-- A walk that reads a reached text, and follows only names that this text calls, takes the same
steps over every list that agrees on what is called. -/
theorem CallSearch.Walks.of_agrees (hagree : AgreeOnCalled body functions functions')
    {pending : Pending} {s t : CallSearch} (h : Walks functions pending s t)
    (htext : ReflTransGen (Calls functions) body pending.text)
    (hnamed : ∀ name ∈ pending.named, name ∈ callNames pending.text)
    (hdirect : ∀ f ∈ pending.direct, f ∈ functions) : Walks functions' pending s t := by
  -- Both lists are looked at in `look` only, and there for a name that a reached text calls.
  induction h with
  | noNames => exact .noNames
  | pass hmem _ ih =>
    exact .pass hmem (ih htext (fun n hn => hnamed n (List.mem_cons_of_mem _ hn)) hdirect)
  | @look text name rest s t u hnew _ _ ihOverloads ihRest =>
    have hcalled : name ∈ callNames text := hnamed name List.mem_cons_self
    have hsame := hagree name ⟨text, htext, hcalled⟩
    -- The overloads that are tried all have the name that the text calls.
    have htried := ihOverloads htext
      (fun n hn => by
        obtain ⟨f, hf, rfl⟩ := List.mem_map.mp hn
        rw [beq_iff_eq.mp (List.mem_filter.mp hf).2]
        exact hcalled)
      (fun f hf => (List.mem_filter.mp hf).1)
    rw [hsame] at htried
    exact .look hnew htried (ihRest htext (fun n hn => hnamed n (List.mem_cons_of_mem _ hn)) hdirect)
  | noOverloads => exact .noOverloads
  | back hbody _ ih =>
    exact .back hbody (ih htext (fun n hn => hnamed n (List.mem_cons_of_mem _ hn))
      fun f hf => hdirect f (List.mem_cons_of_mem _ hf))
  | @enter text f rest s t u hne _ _ ihNames ihRest =>
    -- The body that is entered is reached as well, so what it calls is called.
    have hcalls : Calls functions text f.body :=
      ⟨f, hdirect f List.mem_cons_self, hnamed f.name List.mem_cons_self, rfl⟩
    exact .enter hne
      (ihNames (htext.tail hcalls) (fun _ hn => hn) fun _ hf => absurd hf List.not_mem_nil)
      (ihRest htext (fun n hn => hnamed n (List.mem_cons_of_mem _ hn))
        fun g hg => hdirect g (List.mem_cons_of_mem _ hg))

/-- Lists that agree on what is called give the same answer. -/
theorem resolveCalls_eq_of_agrees (hagree : AgreeOnCalled body functions functions') :
    resolveCalls body functions = resolveCalls body functions' := by
  -- The search over the first list is a walk, and a walk over the second list is the search there,
  -- also with a different bound on the depth.
  have hwalk := (walks_iff_eq_descend (Nat.lt_succ_self functions.length) body).mpr rfl
  have hwalk' := hwalk.of_agrees hagree .refl (fun _ hn => hn) fun _ hf => absurd hf List.not_mem_nil
  have hsearch := (walks_iff_eq_descend (Nat.lt_succ_self functions'.length) body).mp hwalk'
  rw [resolveCalls, resolveCalls, hsearch]

/-! ## Lists that agree -/

/-- Lists that differ only in functions that are not called agree on what is called. -/
theorem agreeOnCalled_of_filter_eq {kept : Function → Bool}
    (hkept : ∀ f ∈ functions ++ functions', CalledFrom functions body f.name → kept f = true)
    (hsame : functions.filter kept = functions'.filter kept) :
    AgreeOnCalled body functions functions' := by
  intro name hname
  -- The functions of the name are found among those kept.
  have hamong : ∀ part ⊆ functions ++ functions',
      part.filter (·.name == name) = (part.filter kept).filter (·.name == name) := by
    intro part hpart
    rw [List.filter_filter]
    refine List.filter_congr fun f hf => ?_
    cases hf' : f.name == name with
    | false => rfl
    | true => rw [hkept f (hpart hf) (beq_iff_eq.mp hf' ▸ hname)]; rfl
  rw [hamong functions (List.subset_append_left _ _), hsame,
    ← hamong functions' (List.subset_append_right _ _)]

/-- At most one function of a list with distinct names has a given name. -/
theorem length_filter_name_le_one (hnames : (functions.map (·.name)).Nodup) (name : String) :
    (functions.filter (·.name == name)).length ≤ 1 := by
  have hcount := List.nodup_iff_count.mp hnames name
  rwa [List.count, List.countP_map, List.countP_eq_length_filter] at hcount

/-- A list of functions with distinct names agrees with every rearrangement of it. -/
theorem agreeOnCalled_of_perm (hnames : (functions.map (·.name)).Nodup)
    (hperm : functions.Perm functions') : AgreeOnCalled body functions functions' := by
  intro name _
  have hone := length_filter_name_le_one hnames name
  have hpart := hperm.filter (·.name == name)
  -- A list of at most one function is its only rearrangement.
  revert hone hpart
  cases functions.filter (·.name == name) with
  | nil => exact fun _ hpart => hpart.nil_eq
  | cons f rest =>
    cases rest with
    | nil => exact fun _ hpart => hpart.singleton_eq
    | cons g rest => exact fun hone _ => absurd hone (by simp)

/-! ## The answer -/

/-- Following the calls of a body gives the same answer over two lists of functions that have the
same functions, in the same order, under every name that the body or a text reached from it calls.
So the answer does not change when functions are added, removed or moved that are never called, nor
when functions with distinct names are rearranged. -/
theorem resolveCalls_depends_on_called (body : String) (functions functions' : List Function) :
    ((∀ name, CalledFrom functions body name →
        functions.filter (·.name == name) = functions'.filter (·.name == name)) →
      resolveCalls body functions = resolveCalls body functions') ∧
    (∀ kept : Function → Bool,
      (∀ f ∈ functions ++ functions', CalledFrom functions body f.name → kept f = true) →
      functions.filter kept = functions'.filter kept →
      resolveCalls body functions = resolveCalls body functions') ∧
    ((functions.map (·.name)).Nodup → functions.Perm functions' →
      resolveCalls body functions = resolveCalls body functions') :=
  ⟨resolveCalls_eq_of_agrees,
    fun _ hkept hsame => resolveCalls_eq_of_agrees (agreeOnCalled_of_filter_eq hkept hsame),
    fun hnames hperm => resolveCalls_eq_of_agrees (agreeOnCalled_of_perm hnames hperm)⟩

/-- A function with the given name and body. -/
def functionNamed (name body : String) : Function :=
  ⟨name, "", "", 0, 0, body, true, .empty⟩

/-- Two functions `f`, one of which has the body `f() g()` itself, a function `g` that calls `f`
again, and a function that nothing calls. -/
def overloadedCycle : List Function :=
  [functionNamed "f" "g()", functionNamed "unused" "f()", functionNamed "g" "f()",
    functionNamed "f" "f() g()"]

/-- The cycle with the unused function left out and `g` moved to the front. -/
def rearrangedCycle : List Function :=
  [functionNamed "g" "f()", functionNamed "f" "g()", functionNamed "f" "f() g()"]

/-- From `f() g()` only `f` and `g` are called in the cycle. -/
theorem mem_of_calledFrom_cycle {name : String}
    (h : CalledFrom overloadedCycle "f() g()" name) : name ∈ ["f", "g"] := by
  have hclosure : resolveCalls "f() g()" overloadedCycle =
      .callees [functionNamed "f" "g()", functionNamed "g" "f()"] := by decide +kernel
  have hnames : ∀ text ∈ ["f() g()", "g()", "f()"], ∀ name ∈ callNames text, name ∈ ["f", "g"] := by
    decide +kernel
  -- The texts that are reached are the body and those of the closure.
  obtain ⟨text, hreach, hname⟩ := h
  rw [reaches_iff, hclosure] at hreach
  refine hnames text ?_ name hname
  simpa [CallClosure.reached, functionNamed, eq_comm] using hreach

/-- In the cycle it matters neither where `g` stands nor whether there is a function that nothing
calls; and of two functions with different names either can come first. -/
theorem resolveCalls_depends_on_called_cycle :
    AgreeOnCalled "f() g()" overloadedCycle rearrangedCycle ∧
    resolveCalls "f() g()" overloadedCycle = resolveCalls "f() g()" rearrangedCycle ∧
    resolveCalls "f() g()" overloadedCycle =
      resolveCalls "f() g()" (overloadedCycle.filter (·.name != "unused")) ∧
    resolveCalls "g()" [functionNamed "f" "g()", functionNamed "g" "f()"] =
      resolveCalls "g()" [functionNamed "g" "f()", functionNamed "f" "g()"] := by
  have hagree : AgreeOnCalled "f() g()" overloadedCycle rearrangedCycle := fun name hname =>
    (by decide +kernel : ∀ name ∈ ["f", "g"], overloadedCycle.filter (·.name == name) =
      rearrangedCycle.filter (·.name == name)) name (mem_of_calledFrom_cycle hname)
  refine ⟨hagree, (resolveCalls_depends_on_called _ _ _).1 hagree,
    (resolveCalls_depends_on_called _ _ _).2.1 (·.name != "unused") (fun f _ hcalled => ?_)
      (by decide +kernel),
    (resolveCalls_depends_on_called _ _ _).2.2 (by decide) (.swap _ _ _)⟩
  exact (by decide : ∀ name ∈ ["f", "g"], (name != "unused") = true) f.name
    (mem_of_calledFrom_cycle hcalled)

end TokenAudit
