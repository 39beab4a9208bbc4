import TokenAudit.Proofs.Calls.Walk
import Mathlib.Data.List.Perm.Subperm
import Mathlib.Logic.Relation
import Mathlib.Order.Bounds.Defs

/-!
# The call closure

A body text calls another when it names a function that has the other as its body. This module
proves that `resolveCalls` lists exactly the bodies that are called from a given one, directly or
through others, and says which of its three answers is given when.

## Main definitions

* `Calls`: one body text calls another.
* `CallClosed`: a set of body texts that no call leads out of.

## Main results

* `resolveCalls_lists_closure`: the body and the bodies of the functions listed are the least
  closed set, no function is listed twice, and each is named by the body or by one listed before it.
* `reaches_iff`: the same set, as the texts that a chain of calls leads to.
* `resolveCalls_eq_selfRecursive_iff`: the walk is self-recursive when calls of known functions
  exist and all of them lead back to the body.
-/

namespace TokenAudit

/-! ## Calls between body texts -/

/-- The text `caller` names a function whose body is `callee`. -/
def Calls (functions : List Function) (caller callee : String) : Prop :=
  ∃ f ∈ functions, f.name ∈ callNames caller ∧ f.body = callee

/-- No call leads out of the set. -/
def CallClosed (functions : List Function) (texts : Set String) : Prop :=
  ∀ caller ∈ texts, ∀ callee, Calls functions caller callee → callee ∈ texts

namespace CallSearch

variable {functions : List Function} {pending : Pending} {s t : CallSearch} {root : String}

/-- The body that the walk started from, and the bodies of the functions reached. -/
def bodies (root : String) (s : CallSearch) : List String :=
  root :: s.found.map (·.body)

/-- The text that is being read. -/
def Pending.text : Pending → String
  | .names body _ => body
  | .overloads body _ => body

/-- The names that are being followed. -/
def Pending.named : Pending → List String
  | .names _ called => called
  | .overloads _ tried => tried.map (·.name)

/-- A walk loses no body. -/
theorem Walks.bodies_subset (h : Walks functions pending s t) : s.bodies root ⊆ t.bodies root :=
  List.cons_subset_cons _ (List.map_subset _ h.found_suffix.subset)

theorem mem_bodies_reach {f : Function} : f.body ∈ (s.reach f).bodies root :=
  List.mem_cons_of_mem _ List.mem_cons_self

theorem bodies_subset_reach {f : Function} : s.bodies root ⊆ (s.reach f).bodies root :=
  List.cons_subset_cons _ (List.map_subset _ (List.subset_cons_self _ _))

/-! ## Every function reached is named before -/

/-- Each function, latest first, is named by the root or by an older one, whose body is another
text than its own. -/
def Grounded (root : String) : List Function → Prop
  | [] => True
  | f :: older =>
    (∃ caller ∈ root :: older.map (·.body), f.name ∈ callNames caller ∧ f.body ≠ caller) ∧
      Grounded root older

/-- A walk that follows only names of a known body stays grounded. -/
theorem Walks.grounded (h : Walks functions pending s t)
    (htext : pending.text ∈ s.bodies root)
    (hnamed : ∀ name ∈ pending.named, name ∈ callNames pending.text)
    (hs : Grounded root s.found) : Grounded root t.found := by
  -- By induction on the walk; that the text being read is known carries over to what is pending.
  induction h with
  | noNames => exact hs
  | pass _ _ ih => exact ih htext (fun n hn => hnamed n (List.mem_cons_of_mem _ hn)) hs
  | @look body name rest s t u _ hOverloads _ ihOverloads ihRest =>
    refine ihRest (hOverloads.bodies_subset htext)
      (fun n hn => hnamed n (List.mem_cons_of_mem _ hn)) (ihOverloads htext ?_ hs)
    intro n hn
    obtain ⟨f, hf, rfl⟩ := List.mem_map.mp hn
    rw [beq_iff_eq.mp (List.mem_filter.mp hf).2]
    exact hnamed name List.mem_cons_self
  | noOverloads => exact hs
  | back _ _ ih => exact ih htext (fun n hn => hnamed n (List.mem_cons_of_mem _ hn)) hs
  | @enter body f rest s t u hne hNames _ ihNames ihRest =>
    have hreach : Grounded root (s.reach f).found :=
      ⟨⟨body, htext, hnamed f.name List.mem_cons_self, hne⟩, hs⟩
    refine ihRest (hNames.bodies_subset (bodies_subset_reach htext))
      (fun n hn => hnamed n (List.mem_cons_of_mem _ hn)) ?_
    exact ihNames mem_bodies_reach (fun _ hn => hn) hreach

/-- In the order of reaching, the function at place `k` is named by the root or by a function at an
earlier place. -/
theorem Grounded.named_before {found : List Function} (h : Grounded root found) {k : Nat}
    (hk : k < found.reverse.length) :
    ∃ caller ∈ root :: (found.reverse.take k).map (·.body),
      found.reverse[k].name ∈ callNames caller := by
  induction found with
  | nil => exact absurd hk (Nat.not_lt_zero _)
  | cons f older ih =>
    obtain ⟨⟨caller, hcaller, hname, _⟩, holder⟩ := h
    simp only [List.reverse_cons, List.length_append, List.length_singleton] at hk ⊢
    rcases Nat.lt_succ_iff_lt_or_eq.mp hk with hlt | rfl
    · rw [List.getElem_append_left hlt, List.take_append_of_le_length (Nat.le_of_lt hlt)]
      exact ih holder hlt
    · refine ⟨caller, ?_, ?_⟩
      · rw [List.take_left, List.map_reverse]
        simpa using hcaller
      · rw [List.getElem_append_right (Nat.le_refl _)]
        simpa using hname

/-! ## Every name that is called is settled in the end -/

/-- All functions of the name have their bodies among those reached. -/
def Settled (functions : List Function) (root : String) (s : CallSearch) (name : String) : Prop :=
  ∀ f ∈ functions, f.name = name → f.body ∈ s.bodies root

theorem Walks.settled_mono (h : Walks functions pending s t) {name : String}
    (hs : Settled functions root s name) : Settled functions root t name :=
  fun f hf hname => h.bodies_subset (hs f hf hname)

/-- What a walk has done when it ends: every name that was pending is followed or settled, and
every function that was tried has its body among those reached. -/
def Pending.Done (functions : List Function) (root : String) (t : CallSearch) : Pending → Prop
  | .names _ called => ∀ name ∈ called, name ∈ t.visited ∨ Settled functions root t name
  | .overloads _ tried => ∀ f ∈ tried, f.body ∈ t.bodies root

theorem Walks.done (h : Walks functions pending s t) (htext : pending.text ∈ s.bodies root) :
    pending.Done functions root t := by
  induction h with
  | noNames => exact fun _ hn => absurd hn List.not_mem_nil
  | pass hmem hRest ih =>
    intro n hn
    rcases List.mem_cons.mp hn with rfl | hn
    · exact .inl (hRest.visited_subset hmem)
    · exact ih htext n hn
  | look _ hOverloads hRest ihOverloads ihRest =>
    intro n hn
    rcases List.mem_cons.mp hn with rfl | hn
    · refine .inr (hRest.settled_mono fun f hf hname => ihOverloads htext f ?_)
      exact List.mem_filter.mpr ⟨hf, beq_iff_eq.mpr hname⟩
    · exact ihRest (hOverloads.bodies_subset htext) n hn
  | noOverloads => exact fun _ hf => absurd hf List.not_mem_nil
  | back hbody hRest ih =>
    intro f hf
    rcases List.mem_cons.mp hf with rfl | hf
    · exact hRest.bodies_subset (hbody ▸ htext)
    · exact ih htext f hf
  | enter _ hNames hRest _ ihRest =>
    intro f hf
    rcases List.mem_cons.mp hf with rfl | hf
    · exact hRest.bodies_subset (hNames.bodies_subset mem_bodies_reach)
    · exact ihRest (hNames.bodies_subset (bodies_subset_reach htext)) f hf

/-- A name followed during a walk is settled when the walk ends, the name being tried apart. -/
theorem Walks.visited_settled (h : Walks functions pending s t)
    (htext : pending.text ∈ s.bodies root) {n : String} (hn : n ∈ t.visited) :
    n ∈ s.visited ∨ n ∈ pending.direct.map (·.name) ∨ Settled functions root t n := by
  induction h with
  | noNames => exact .inl hn
  | pass _ _ ih => exact ih htext hn
  | @look body name rest s t u _ hOverloads hRest ihOverloads ihRest =>
    rcases ihRest (hOverloads.bodies_subset htext) hn with hn | hn | hn
    · rcases ihOverloads htext hn with hn | hn | hn
      · exact .inl hn
      · -- the name looked up here: all its functions have been tried
        obtain ⟨f, hf, rfl⟩ := List.mem_map.mp hn
        have hname : f.name = name := beq_iff_eq.mp (List.mem_filter.mp hf).2
        refine .inr (.inr (hRest.settled_mono fun g hg hgf => hOverloads.done htext g ?_))
        exact List.mem_filter.mpr ⟨hg, beq_iff_eq.mpr (hgf.trans hname)⟩
      · exact .inr (.inr (hRest.settled_mono hn))
    · exact absurd hn List.not_mem_nil
    · exact .inr (.inr hn)
  | noOverloads => exact .inl hn
  | back _ _ ih => exact (ih htext hn).imp_right fun h => h.imp_left (List.mem_cons_of_mem _)
  | @enter body f rest s t u _ hNames hRest ihNames ihRest =>
    rcases ihRest (hNames.bodies_subset (bodies_subset_reach htext)) hn with hn | hn | hn
    · rcases ihNames mem_bodies_reach hn with hn | hn | hn
      · rcases List.mem_cons.mp hn with rfl | hn
        · exact .inr (.inl List.mem_cons_self)
        · exact .inl hn
      · exact absurd hn List.not_mem_nil
      · exact .inr (.inr (hRest.settled_mono hn))
    · exact .inr (.inl (List.mem_cons_of_mem _ hn))
    · exact .inr (.inr hn)

/-- A function reached during a walk has all its calls followed or settled when the walk ends. -/
theorem Walks.found_settled (h : Walks functions pending s t) {f : Function} (hf : f ∈ t.found) :
    f ∈ s.found ∨ ∀ name ∈ callNames f.body, name ∈ t.visited ∨ Settled functions root t name := by
  induction h with
  | noNames => exact .inl hf
  | pass _ _ ih => exact ih hf
  | look _ _ hRest ihOverloads ihRest =>
    rcases ihRest hf with hf | hf
    · refine (ihOverloads hf).imp_right fun h name hname => ?_
      exact (h name hname).imp (hRest.visited_subset ·) hRest.settled_mono
    · exact .inr hf
  | noOverloads => exact .inl hf
  | back _ _ ih => exact ih hf
  | @enter _ _ _ _ t u _ hNames hRest ihNames ihRest =>
    rcases ihRest hf with hf | hf
    · have hkept : ∀ name, name ∈ t.visited ∨ Settled functions root t name →
          name ∈ u.visited ∨ Settled functions root u name :=
        fun name h => h.imp (hRest.visited_subset ·) hRest.settled_mono
      rcases ihNames hf with hf | hf
      · rcases List.mem_cons.mp hf with rfl | hf
        · have hdone : ∀ name ∈ callNames f.body,
              name ∈ t.visited ∨ Settled functions root t name := hNames.done mem_bodies_reach
          exact .inr fun name hname => hkept name (hdone name hname)
        · exact .inl hf
      · exact .inr fun name hname => hkept name (hf name hname)
    · exact .inr hf

/-! ## When a call leads back -/

/-- A walk never takes back that a call led back. -/
theorem Walks.selfHit_mono (h : Walks functions pending s t) (hs : s.selfHit = true) :
    t.selfHit = true := by
  induction h with
  | noNames => exact hs
  | pass _ _ ih => exact ih hs
  | look _ _ _ ihOverloads ihRest => exact ihRest (ihOverloads hs)
  | noOverloads => exact hs
  | back _ _ ih => exact ih rfl
  | enter _ _ _ ihNames ihRest => exact ihRest (ihNames hs)

/-- A call is noted as leading back only if some body reached names a function with that body. -/
theorem Walks.calls_self_of_selfHit (h : Walks functions pending s t)
    (htext : pending.text ∈ s.bodies root)
    (hnamed : ∀ name ∈ pending.named, name ∈ callNames pending.text)
    (hdirect : ∀ f ∈ pending.direct, f ∈ functions) (ht : t.selfHit = true) :
    s.selfHit = true ∨ ∃ text ∈ t.bodies root, Calls functions text text := by
  induction h with
  | noNames => exact .inl ht
  | pass _ _ ih =>
    exact ih htext (fun n hn => hnamed n (List.mem_cons_of_mem _ hn)) hdirect ht
  | @look body name rest s t u _ hOverloads hRest ihOverloads ihRest =>
    rcases ihRest (hOverloads.bodies_subset htext)
      (fun n hn => hnamed n (List.mem_cons_of_mem _ hn)) hdirect ht with ht | ht
    · refine (ihOverloads htext ?_ (fun f hf => (List.mem_filter.mp hf).1) ht).imp_right ?_
      · intro n hn
        obtain ⟨f, hf, rfl⟩ := List.mem_map.mp hn
        rw [beq_iff_eq.mp (List.mem_filter.mp hf).2]
        exact hnamed name List.mem_cons_self
      · rintro ⟨text, hmem, hcalls⟩
        exact ⟨text, hRest.bodies_subset hmem, hcalls⟩
    · exact .inr ht
  | noOverloads => exact .inl ht
  | @back body f rest s t hbody hRest _ =>
    refine .inr ⟨body, hRest.bodies_subset htext, f, hdirect f (List.Mem.head _), ?_, hbody⟩
    exact hnamed f.name List.mem_cons_self
  | @enter body f rest s t u _ hNames hRest ihNames ihRest =>
    rcases ihRest (hNames.bodies_subset (bodies_subset_reach htext))
      (fun n hn => hnamed n (List.mem_cons_of_mem _ hn))
      (fun g hg => hdirect g (List.Mem.tail _ hg)) ht with ht | ht
    · refine (ihNames mem_bodies_reach (fun _ hn => hn)
        (fun _ hg => absurd hg List.not_mem_nil) ht).imp_right ?_
      rintro ⟨text, hmem, hcalls⟩
      exact ⟨text, hRest.bodies_subset hmem, hcalls⟩
    · exact .inr ht

/-- What a walk has noted when it ends: a function tried that has the body being read was noted,
and so was one of a pending name, unless that name has been followed. -/
def Pending.Noted (functions : List Function) (t : CallSearch) : Pending → Prop
  | .names body called => ∀ f ∈ functions, f.name ∈ called → f.body = body →
      t.selfHit = true ∨ f.name ∈ t.visited
  | .overloads body tried => ∀ f ∈ tried, f.body = body → t.selfHit = true

theorem Walks.noted (h : Walks functions pending s t) : pending.Noted functions t := by
  induction h with
  | noNames => exact fun _ _ hname => absurd hname List.not_mem_nil
  | pass hmem hRest ih =>
    intro f hf hname hbody
    rcases List.mem_cons.mp hname with hname | hname
    · exact .inr (hRest.visited_subset (hname ▸ hmem))
    · exact ih f hf hname hbody
  | @look _ name _ _ _ _ _ _ hRest ihOverloads ihRest =>
    intro f hf hname hbody
    rcases List.mem_cons.mp hname with hname | hname
    · have htried : f ∈ functions.filter (·.name == name) :=
        List.mem_filter.mpr ⟨hf, beq_iff_eq.mpr hname⟩
      exact .inl (hRest.selfHit_mono (ihOverloads f htried hbody))
    · exact ihRest f hf hname hbody
  | noOverloads => exact fun _ hf => absurd hf List.not_mem_nil
  | back _ hRest ih =>
    intro f hf hbody
    rcases List.mem_cons.mp hf with _ | hf
    · exact hRest.selfHit_mono rfl
    · exact ih f hf hbody
  | enter hne _ _ _ ihRest =>
    intro f hf hbody
    rcases List.mem_cons.mp hf with rfl | hf
    · exact absurd hbody hne
    · exact ihRest f hf hbody

/-! ## A whole walk -/

/-- The first function reached is named by the root and has another body. -/
theorem Grounded.exists_called_by_root {found : List Function} (h : Grounded root found)
    (hne : found ≠ []) : ∃ f ∈ found, f.name ∈ callNames root ∧ f.body ≠ root := by
  induction found with
  | nil => exact absurd rfl hne
  | cons f older ih =>
    obtain ⟨⟨caller, hcaller, hname, hbody⟩, holder⟩ := h
    cases older with
    | nil =>
      rcases List.mem_singleton.mp hcaller with rfl
      exact ⟨f, List.mem_cons_self, hname, hbody⟩
    | cons g rest =>
      obtain ⟨f, hf, hcalled⟩ := ih holder (List.cons_ne_nil _ _)
      exact ⟨f, List.mem_cons_of_mem _ hf, hcalled⟩

/-- A closed set that holds the root holds the body of every grounded function. -/
theorem Grounded.body_mem {texts : Set String} (hclosed : CallClosed functions texts)
    (hroot : root ∈ texts) {found : List Function} (h : Grounded root found)
    (hfound : ∀ f ∈ found, f ∈ functions) {f : Function} (hf : f ∈ found) : f.body ∈ texts := by
  induction found generalizing f with
  | nil => exact absurd hf List.not_mem_nil
  | cons g older ih =>
    obtain ⟨⟨caller, hcaller, hname, _⟩, holder⟩ := h
    have hearlier : ∀ f ∈ older, f.body ∈ texts := fun f hf =>
      ih holder (fun f hf => hfound f (List.mem_cons_of_mem _ hf)) hf
    rcases List.mem_cons.mp hf with rfl | hf
    · refine hclosed caller ?_ _ ⟨f, hfound f List.mem_cons_self, hname, rfl⟩
      rcases List.mem_cons.mp hcaller with rfl | hcaller
      · exact hroot
      · obtain ⟨g, hg, rfl⟩ := List.mem_map.mp hcaller
        exact hearlier g hg
    · exact hearlier f hf

section Whole

variable {body : String} (h : Walks functions (.names body (callNames body)) .start t)
include h

/-- The functions reached are, up to order, some of those given. -/
theorem Walks.found_subperm : t.found.Subperm functions := by
  refine List.subperm_ext_iff.mpr fun f _ => ?_
  refine h.count_le rfl (fun _ hf => absurd hf List.not_mem_nil) (fun g => ?_) f
  exact Nat.zero_le _

/-- The functions reached are grounded. -/
theorem Walks.found_grounded : Grounded body t.found :=
  h.grounded List.mem_cons_self (fun _ hn => hn) trivial

/-- Every name that the root or a function reached calls is settled. -/
theorem Walks.settled {caller name : String} (hcaller : caller ∈ t.bodies body)
    (hname : name ∈ callNames caller) : Settled functions body t name := by
  have hor : name ∈ t.visited ∨ Settled functions body t name := by
    rcases List.mem_cons.mp hcaller with rfl | hcaller
    · exact h.done List.mem_cons_self name hname
    · obtain ⟨f, hf, rfl⟩ := List.mem_map.mp hcaller
      exact (h.found_settled hf).resolve_left List.not_mem_nil name hname
  refine hor.elim (fun hvisited => ?_) id
  rcases h.visited_settled List.mem_cons_self hvisited with hn | hn | hn
  · exact absurd hn List.not_mem_nil
  · exact absurd hn List.not_mem_nil
  · exact hn

/-- No call leads out of the bodies reached. -/
theorem Walks.callClosed : CallClosed functions {text | text ∈ t.bodies body} := by
  rintro caller hcaller _ ⟨f, hf, hname, rfl⟩
  exact h.settled hcaller hname f hf rfl

/-- Nothing is reached exactly when every call of a known function leads back to the root. -/
theorem Walks.found_eq_nil_iff :
    t.found = [] ↔ ∀ callee, Calls functions body callee → callee = body := by
  constructor
  · intro hnil callee hcalls
    have hmem : callee ∈ t.bodies body := h.callClosed body List.mem_cons_self callee hcalls
    rwa [bodies, hnil, List.map_nil, List.mem_singleton] at hmem
  · intro hback
    by_contra hne
    obtain ⟨f, hf, hname, hbody⟩ := h.found_grounded.exists_called_by_root hne
    exact hbody (hback f.body ⟨f, h.found_subperm.subset hf, hname, rfl⟩)

/-- When nothing is reached, a call is noted exactly if the root names a function with its body. -/
theorem Walks.selfHit_iff (hnil : t.found = []) :
    t.selfHit = true ↔ Calls functions body body := by
  constructor
  · intro hhit
    have hroot : body ∈ CallSearch.start.bodies body := List.mem_cons_self
    rcases h.calls_self_of_selfHit hroot (fun _ hn => hn)
      (fun _ hf => absurd hf List.not_mem_nil) hhit with hstart | ⟨text, htext, hcalls⟩
    · exact absurd hstart Bool.false_ne_true
    · rw [bodies, hnil, List.map_nil, List.mem_singleton] at htext
      exact htext ▸ hcalls
  · rintro ⟨f, hf, hname, hbody⟩
    have hvisited : t.visited = [] := by rw [h.visited_eq rfl, hnil, List.map_nil]
    refine (h.noted f hf hname hbody).resolve_right ?_
    rw [hvisited]
    exact List.not_mem_nil

end Whole

end CallSearch

/-! ## What `resolveCalls` answers -/

open CallSearch

/-- The answer is read off a complete walk. -/
theorem exists_walks_resolveCalls (body : String) (functions : List Function) :
    ∃ t : CallSearch, Walks functions (.names body (callNames body)) .start t ∧
      (resolveCalls body functions).reached = t.found.reverse ∧
      (resolveCalls body functions = .selfRecursive ↔ t.found = [] ∧ t.selfHit = true) := by
  refine ⟨CallSearch.descend functions (functions.length + 1) .start body,
    (walks_iff_eq_descend (Nat.lt_succ_self _) body).mpr rfl, ?_⟩
  generalize hdone : CallSearch.descend functions (functions.length + 1) .start body = t
  rw [resolveCalls, hdone]
  by_cases hnil : t.found = []
  · cases t.selfHit <;> simp [hnil, CallClosure.reached]
  · simp [hnil, CallClosure.reached]

/-- The functions listed are, up to order, some of those given. -/
theorem resolveCalls_subperm (body : String) (functions : List Function) :
    (resolveCalls body functions).reached.Subperm functions := by
  obtain ⟨t, h, hreached, _⟩ := exists_walks_resolveCalls body functions
  rw [hreached]
  exact (List.reverse_perm _).subperm_right.mpr h.found_subperm

/-- The body with the bodies of the functions listed is the least closed set that holds the body. -/
theorem isLeast_callClosed_bodies (body : String) (functions : List Function) :
    IsLeast {texts : Set String | body ∈ texts ∧ CallClosed functions texts}
      {text | text = body ∨ ∃ f ∈ (resolveCalls body functions).reached, f.body = text} := by
  obtain ⟨t, h, hreached, _⟩ := exists_walks_resolveCalls body functions
  have hset : {text | text = body ∨ ∃ f ∈ (resolveCalls body functions).reached, f.body = text} =
      {text | text ∈ t.bodies body} := by
    ext text
    simp [hreached, bodies]
  rw [hset]
  refine ⟨⟨List.mem_cons_self, h.callClosed⟩, ?_⟩
  rintro texts ⟨hbody, hclosed⟩ text htext
  rcases List.mem_cons.mp htext with rfl | htext
  · exact hbody
  · obtain ⟨f, hf, rfl⟩ := List.mem_map.mp htext
    exact h.found_grounded.body_mem hclosed hbody (fun f hf => h.found_subperm.subset hf) hf

/-- The body with the bodies of the functions listed are the texts that chains of calls lead to. -/
theorem reaches_iff (body : String) (functions : List Function) (text : String) :
    Relation.ReflTransGen (Calls functions) body text ↔
      text = body ∨ ∃ f ∈ (resolveCalls body functions).reached, f.body = text := by
  obtain ⟨⟨hbody, hclosed⟩, hleast⟩ := isLeast_callClosed_bodies body functions
  constructor
  · intro hreach
    induction hreach with
    | refl => exact hbody
    | tail _ hcalls ih => exact hclosed _ ih _ hcalls
  · intro hmem
    exact hleast (a := {text | Relation.ReflTransGen (Calls functions) body text})
      ⟨.refl, fun _ hreach _ hcalls => hreach.tail hcalls⟩ hmem

/-- The walk is self-recursive when the body calls a known function and all such calls lead back
to the body. -/
theorem resolveCalls_eq_selfRecursive_iff (body : String) (functions : List Function) :
    resolveCalls body functions = .selfRecursive ↔
      (∃ callee, Calls functions body callee) ∧
        ∀ callee, Calls functions body callee → callee = body := by
  obtain ⟨t, h, _, hself⟩ := exists_walks_resolveCalls body functions
  rw [hself, ← h.found_eq_nil_iff]
  constructor
  · rintro ⟨hnil, hhit⟩
    exact ⟨⟨body, (h.selfHit_iff hnil).mp hhit⟩, hnil⟩
  · rintro ⟨⟨callee, hcalls⟩, hnil⟩
    have hback : callee = body := h.found_eq_nil_iff.mp hnil callee hcalls
    exact ⟨hnil, (h.selfHit_iff hnil).mpr (hback ▸ hcalls)⟩

/-- Following the calls of a body comes to an end and lists its call closure: the unbounded walk
ends in one search, which every bound above the number of functions computes; the body with the
bodies of the functions listed is the least closed set around it; no function is listed more often
than it is given; and each function listed is named by the body or by one listed before it. -/
theorem resolveCalls_lists_closure (body : String) (functions : List Function) :
    (∀ fuel, functions.length < fuel → ∀ search,
      Walks functions (.names body (callNames body)) .start search ↔
        search = CallSearch.descend functions fuel .start body) ∧
    IsLeast {texts : Set String | body ∈ texts ∧ CallClosed functions texts}
      {text | text = body ∨ ∃ f ∈ (resolveCalls body functions).reached, f.body = text} ∧
    (resolveCalls body functions).reached.Subperm functions ∧
    ∀ k (hk : k < (resolveCalls body functions).reached.length),
      ∃ caller ∈ body :: ((resolveCalls body functions).reached.take k).map (·.body),
        (resolveCalls body functions).reached[k].name ∈ callNames caller := by
  refine ⟨fun fuel hfuel search => walks_iff_eq_descend hfuel body,
    isLeast_callClosed_bodies body functions, resolveCalls_subperm body functions, ?_⟩
  obtain ⟨t, h, hreached, _⟩ := exists_walks_resolveCalls body functions
  rw [hreached]
  exact fun k hk => h.found_grounded.named_before hk

end TokenAudit
