import TokenAudit.Pattern.Size
import TokenAudit.Proofs.Pattern.Paths
import TokenAudit.Proofs.Text.Offset
import TokenAudit.Proofs.Unicode.WhiteSpace

/-!
# The size of patterns

A pattern is not used if its machines are too large. How many states a set takes depends on how
many of them are shared, but never exceeds a bound for each byte of its sequences, and a text takes
a state for each byte. So a pattern that weighs little is small enough, and names have to be very
long before a rule with them is dropped.

## Main definitions

* `Written.Machine.cost`: what is compared with the limit.
* `Written.Shape.CostsAtMost`: neither machine of a shape grows by more than a bound.

## Main results

* `Written.Machine.cost_addForward_le`, `Written.Machine.cost_addBackward_le`: what a set costs.
* `Pattern.costsAtMost_shape`: no pattern costs more than its weight.
* `Pattern.fits_eq`: weights tell nothing else about a pattern than its machines do.
-/

namespace TokenAudit

open Unicode (CodeSet whiteSpace)

/-! ## Ranges -/

namespace Unicode.CodeSet

/-- Joining makes no more ranges. -/
theorem length_joinFrom_le (first last : Nat) (ranges : List (Nat × Nat)) :
    (joinFrom first last ranges).length ≤ ranges.length + 1 := by
  fun_induction joinFrom first last ranges with
  | case1 first last => exact Nat.le_refl 1
  | case2 first last next top rest hnear ih => exact Nat.le_succ_of_le ih
  | case3 first last next top rest hfar ih => exact Nat.succ_le_succ ih

theorem size_ofRanges_le (ranges : List (Nat × Nat)) :
    (ofRanges ranges).ranges.size ≤ ranges.length := by
  have hlength : (ranges.mergeSort fun a b => a.1 ≤ b.1).length = ranges.length :=
    List.length_mergeSort ranges
  rw [ofRanges, List.size_toArray, ← hlength]
  rcases ranges.mergeSort fun a b => a.1 ≤ b.1 with _ | ⟨⟨first, last⟩, rest⟩
  · exact Nat.le_refl 0
  · exact length_joinFrom_le first last rest

theorem length_gaps_le (top start : Nat) (ranges : List (Nat × Nat)) :
    (gaps top start ranges).length ≤ ranges.length + 1 := by
  fun_induction gaps top start ranges with
  | case1 start hstart => exact Nat.le_refl 1
  | case2 start hstart => exact Nat.zero_le 1
  | case3 start first last rest hgap ih => exact Nat.succ_le_succ ih
  | case4 start first last rest hgap ih => exact Nat.le_succ_of_le ih

end Unicode.CodeSet

namespace Written

namespace Machine

/-- What is compared with the limit. -/
def cost (m : Machine) : Nat :=
  32 * m.states + m.bytes

theorem cost_add (m : Machine) (states bytes : Nat) :
    (m.add states bytes).cost = m.cost + (32 * states + bytes) := by
  simp only [cost, add]
  omega

theorem add_add (m : Machine) (states bytes states' bytes' : Nat) :
    (m.add states bytes).add states' bytes' = m.add (states + states') (bytes + bytes') := by
  simp only [add, Nat.add_assoc]

/-! ## Sets going forward -/

/-- A state costs what leads on from it, if it is new. -/
theorem cost_state_le (sharing : Sharing) (arcs : List Arc) :
    (sharing.state arcs).2.machine.cost ≤ sharing.machine.cost + (32 + 8 * arcs.length) := by
  rw [Sharing.state]
  split
  · exact Nat.le_add_right _ _
  · exact Nat.le_of_eq (cost_add _ 1 _)

theorem groupPaths_length_le (paths : List (List ByteRange)) :
    (groupPaths paths).length ≤ paths.length ∧
      ((groupPaths paths).flatMap (·.2)).length ≤ paths.length := by
  fun_induction groupPaths paths with
  | case1 => exact ⟨Nat.le_refl 0, Nat.le_refl 0⟩
  | case2 rest ih =>
    simp only [List.length_cons]
    omega
  | case3 range path rest next paths groups hgroups hsame ih =>
    simp only [hgroups, List.length_cons, List.flatMap_cons, List.length_append] at ih ⊢
    omega
  | case4 range path rest next paths groups hgroups hother ih =>
    simp only [hgroups, List.length_cons, List.flatMap_cons, List.length_append,
      List.length_nil] at ih ⊢
    omega
  | case5 range path rest hgroups ih => simp

/-- What groups of paths cost one after the other, if each of them adds an arc and costs so much for
each of its paths. -/
theorem cost_foldl_groups_le {fuel : Nat}
    {visit : List Arc × Sharing → ByteRange × List (List ByteRange) → List Arc × Sharing}
    (hvisit : ∀ state group, (visit state group).1.length = state.1.length + 1 ∧
      (visit state group).2.machine.cost ≤
        state.2.machine.cost + (32 + 40 * (fuel * group.2.length)))
    (groups : List (ByteRange × List (List ByteRange))) (state : List Arc × Sharing) :
    (groups.foldl visit state).1.length = state.1.length + groups.length ∧
      (groups.foldl visit state).2.machine.cost ≤ state.2.machine.cost +
        (32 * groups.length + 40 * (fuel * (groups.flatMap (·.2)).length)) := by
  induction groups generalizing state with
  | nil => exact ⟨rfl, Nat.le_add_right _ _⟩
  | cons group groups ih =>
    obtain ⟨hlength, hcost⟩ := ih (visit state group)
    obtain ⟨hfirstLength, hfirst⟩ := hvisit state group
    rw [List.foldl_cons, List.length_cons, List.flatMap_cons, List.length_append,
      Nat.mul_add fuel]
    omega

/-- What the states from which some sequences lead on cost. -/
theorem cost_walk_le (target fuel : Nat) (paths : List (List ByteRange)) (sharing : Sharing) :
    (Sharing.walk target fuel paths sharing).2.machine.cost ≤
      sharing.machine.cost + (32 + 40 * (fuel * paths.length)) := by
  -- The paths are shared out to groups, and each level of bytes uses up one unit of fuel.
  induction fuel generalizing paths sharing with
  | zero => exact Nat.le_add_right _ _
  | succ fuel ih =>
    obtain ⟨hgroups, hpaths⟩ := groupPaths_length_le paths
    have hpaths := Nat.mul_le_mul_left fuel hpaths
    have hbound : ∀ visit : List Arc × Sharing → ByteRange × List (List ByteRange) →
        List Arc × Sharing,
        (∀ state group, (visit state group).1.length = state.1.length + 1 ∧
          (visit state group).2.machine.cost ≤
            state.2.machine.cost + (32 + 40 * (fuel * group.2.length))) →
        ((groupPaths paths).foldl visit ([], sharing)).2.machine.cost +
            (32 + 8 * ((groupPaths paths).foldl visit ([], sharing)).1.reverse.length) ≤
          sharing.machine.cost + (32 + 40 * ((fuel + 1) * paths.length)) := by
      intro visit hvisit
      obtain ⟨hlength, hcost⟩ := cost_foldl_groups_le hvisit (groupPaths paths) ([], sharing)
      dsimp only [List.length_nil] at hlength hcost
      rw [List.length_reverse, Nat.add_one_mul fuel]
      omega
    rw [Sharing.walk]
    refine Nat.le_trans (cost_state_le _ _) (hbound _ fun state group => ?_)
    obtain ⟨arcs, sharing⟩ := state
    obtain ⟨range, rest⟩ := group
    simp only
    split
    · exact ⟨rfl, Nat.le_add_right _ _⟩
    · exact ⟨rfl, ih rest sharing⟩

/-- What a set costs going forward. -/
theorem cost_addForward_le (paths : List (List ByteRange)) (m : Machine) :
    (addForward paths m).cost ≤ m.cost + (64 + 200 * paths.length) := by
  have hwalk := cost_walk_le m.states 5 paths ⟨m.add 1 0, {}⟩
  rw [cost_add] at hwalk
  rw [addForward]
  omega

/-! ## Sets going backward -/

theorem cost_suffix_le (suffixes : Suffixes) (next : Nat) (range : ByteRange) :
    (suffixes.state next range).2.machine.cost ≤ suffixes.machine.cost + 32 := by
  rw [Suffixes.state]
  split
  · exact Nat.le_add_right _ _
  · exact Nat.le_of_eq (cost_add _ 1 0)

/-- What the bytes of a path cost one after the other. -/
theorem cost_foldl_path_le {visit : Nat × Suffixes → ByteRange → Nat × Suffixes}
    (hvisit : ∀ state range,
      (visit state range).2.machine.cost ≤ state.2.machine.cost + 32)
    (path : List ByteRange) (state : Nat × Suffixes) :
    (path.foldl visit state).2.machine.cost ≤ state.2.machine.cost + 32 * path.length := by
  induction path generalizing state with
  | nil => exact Nat.le_add_right _ _
  | cons range path ih =>
    have hfirst := hvisit state range
    have hrest := ih (visit state range)
    rw [List.foldl_cons, List.length_cons]
    omega

theorem cost_foldl_paths_le {visit : Suffixes → List ByteRange → Suffixes}
    (hvisit : ∀ suffixes path,
      (visit suffixes path).machine.cost ≤ suffixes.machine.cost + 32 * path.length)
    (paths : List (List ByteRange)) (suffixes : Suffixes) :
    (paths.foldl visit suffixes).machine.cost ≤
      suffixes.machine.cost + 32 * paths.flatten.length := by
  induction paths generalizing suffixes with
  | nil => exact Nat.le_add_right _ _
  | cons path paths ih =>
    have hrest := ih (visit suffixes path)
    have hfirst := hvisit suffixes path
    rw [List.foldl_cons, List.flatten_cons, List.length_append]
    omega

/-- What a set costs going backward. -/
theorem cost_addBackward_le (paths : List (List ByteRange)) (m : Machine) :
    (addBackward paths m).cost ≤
      m.cost + (64 + 4 * paths.length + 32 * paths.flatten.length) := by
  rw [addBackward]
  refine Nat.le_trans (cost_foldl_paths_le (fun suffixes path =>
    cost_foldl_path_le (fun state range => cost_suffix_le state.2 state.1 range) path
      (m.states + 1, suffixes)) paths _) ?_
  rw [cost_add]
  omega

end Machine

/-! ## Shapes -/

namespace Shape

/-- Neither machine grows by more than the weight when the shape is made. -/
def CostsAtMost (shape : Shape) (weight : Nat) : Prop :=
  ∀ backward m, (shape.make backward m).cost ≤ m.cost + weight

theorem CostsAtMost.mono {shape : Shape} {weight weight' : Nat} (h : shape.CostsAtMost weight)
    (hle : weight ≤ weight') : shape.CostsAtMost weight' :=
  fun backward m => Nat.le_trans (h backward m) (Nat.add_le_add_left hle _)

theorem costsAtMost_empty : CostsAtMost .empty 32 :=
  fun _ m => Nat.le_of_eq (Machine.cost_add m 1 0)

theorem costsAtMost_look (condition : Look) : CostsAtMost (.look condition) 32 :=
  fun _ m => Nat.le_of_eq (Machine.cost_add m 1 0)

theorem costsAtMost_text (chars : List Char) :
    CostsAtMost (.text chars) (32 * Text.byteLength chars) :=
  fun _ m => Nat.le_of_eq (Machine.cost_add m (Text.byteLength chars) 0)

theorem costsAtMost_group {body : Shape} {weight : Nat} (h : body.CostsAtMost weight)
    (index : Nat) : CostsAtMost (.group index body) (weight + 64) := by
  intro backward m
  rw [make]
  split
  · have hbody := h backward m
    omega
  · have hbody := h backward (m.add 1 0)
    rw [Machine.cost_add] at hbody
    rw [Machine.cost_add]
    omega

/-- Any number of rounds take up to three states more, which lead back or on. -/
theorem costsAtMost_rounds {body : Shape} {weight : Nat} (h : body.CostsAtMost weight)
    (greedy : Bool) : CostsAtMost (.repeated greedy ⟨0, none⟩ body) (weight + 112) := by
  intro backward m
  simp only [make]
  split
  · have hbody := h backward (m.add 1 8)
    rw [Machine.cost_add] at hbody
    omega
  · have hbody := h backward m
    rw [Machine.cost_add]
    omega

theorem costsAtMost_rounds1 {body : Shape} {weight : Nat} (h : body.CostsAtMost weight)
    (greedy : Bool) : CostsAtMost (.repeated greedy ⟨1, none⟩ body) (weight + 40) := by
  intro backward m
  have hbody := h backward m
  simp only [make, Machine.rounds, Machine.cost_add]
  split <;> omega

theorem costsAtMost_optional {body : Shape} {weight : Nat} (h : body.CostsAtMost weight)
    (greedy : Bool) : CostsAtMost (.repeated greedy ⟨0, some 1⟩ body) (weight + 72) := by
  intro backward m
  have hbody := h backward (m.add 1 0)
  rw [Machine.cost_add] at hbody
  simp only [make, Machine.cost_add]
  omega

theorem costsAtMost_pair {first second : Shape} {weight weight' : Nat}
    (hfirst : first.CostsAtMost weight) (hsecond : second.CostsAtMost weight') :
    CostsAtMost (.sequence [first, second]) (weight + weight') := by
  intro backward m
  rw [make]
  cases backward with
  | false =>
    have hfront := hfirst false m
    have hback := hsecond false (make false first m)
    simp only [makeAll, Bool.false_eq_true, if_false]
    omega
  | true =>
    have hback := hsecond true m
    have hfront := hfirst true (make true second m)
    simp only [makeAll, if_true]
    omega

/-- A set costs a bounded amount for each of its ranges, in both directions and within ASCII or
beyond it. -/
theorem costsAtMost_one (set : CodeSet) : CostsAtMost (.one set) (64 + 7000 * set.ranges.size) := by
  intro backward m
  have hpaths := length_pathsOf_le set
  have hbytes := length_flatten_pathsOf_le set
  have hforward := Machine.cost_addForward_le (pathsOf set) m
  have hbackward := Machine.cost_addBackward_le (pathsOf set) m
  rw [make]
  split
  · rw [Machine.cost_add]
    omega
  · split <;> omega

/-- So does one character of a set. It is a text if there is no other in the set. -/
theorem costsAtMost_ofSet (set : CodeSet) :
    CostsAtMost (.ofSet set) (128 + 7000 * set.ranges.size) := by
  have hone := (costsAtMost_one set).mono (by omega : _ ≤ 128 + 7000 * set.ranges.size)
  have htext : ∀ c, CostsAtMost (.text [c]) (128 + 7000 * set.ranges.size) := by
    intro c
    refine (costsAtMost_text [c]).mono ?_
    have hbytes := c.utf8Size_le_four
    rw [Text.byteLength_cons c [], Text.byteLength_nil]
    omega
  rw [ofSet]
  split
  · split
    · exact htext _
    · exact hone
  · exact hone

/-- Both machines start small, so what matters is the weight of the shape. -/
theorem fits_of_costsAtMost {shape : Shape} {weight : Nat} (h : shape.CostsAtMost weight)
    (hweight : weight ≤ 10000000) : shape.fits = true := by
  have hlead : ∀ bound, (lead bound).cost ≤ 112 := by decide
  have hforward : shape.forward.cost ≤ Machine.limit := by
    have hstart := hlead shape.startsText
    have hcost := h false ((lead shape.startsText).add 1 0)
    rw [Machine.cost_add] at hcost
    rw [forward, Machine.cost_add, Machine.limit]
    omega
  have hbackward : shape.backward.cost ≤ Machine.limit := by
    have hstart := hlead shape.endsText
    have hcost := h true (lead shape.endsText)
    rw [backward, Machine.cost_add, Machine.limit]
    omega
  simp only [fits, Machine.isFull, Bool.and_eq_true, Bool.not_eq_true', decide_eq_false_iff_not,
    Nat.not_lt]
  exact ⟨hforward, hbackward⟩

end Shape

end Written

/-! ## Patterns -/

open Written (Shape)

namespace CharSet

theorem size_codes_le (set : CharSet) : set.codes.ranges.size ≤ set.rangeCount := by
  induction set with
  | blank =>
    rw [codes, Unicode.whiteSpace_eq]
    exact Nat.le_refl 10
  | word =>
    refine Nat.le_trans (CodeSet.size_ofRanges_le _) (Nat.le_of_eq ?_)
    simp only [List.length_append, List.length_cons, List.length_nil, Array.length_toList,
      rangeCount]
  | digit =>
    refine Nat.le_trans (CodeSet.size_ofRanges_le _) (Nat.le_of_eq ?_)
    rw [List.length_cons, Array.length_toList, rangeCount, Nat.add_comm]
  | oneOf members =>
    refine Nat.le_trans (CodeSet.size_ofRanges_le _) (Nat.le_of_eq ?_)
    exact List.length_map _
  | range first last => exact Nat.le_refl 1
  | union left right ihLeft ihRight =>
    refine Nat.le_trans (CodeSet.size_ofRanges_le _) ?_
    rw [List.length_append, Array.length_toList, Array.length_toList]
    exact Nat.add_le_add ihLeft ihRight
  | compl set ih =>
    have hgaps := CodeSet.length_gaps_le Unicode.maxCode 0 set.codes.ranges.toList
    rw [Array.length_toList] at hgaps
    exact Nat.le_trans hgaps (Nat.succ_le_succ ih)

/-- One character of a set costs no more than the set weighs. -/
theorem costsAtMost_codes (set : CharSet) : Shape.CostsAtMost (.ofSet set.codes) set.weight := by
  have hsize := set.size_codes_le
  refine (Shape.costsAtMost_ofSet set.codes).mono ?_
  rw [weight]
  omega

end CharSet

namespace Pattern

/-- A character and any number of the same kind are repeated once at least, and all other patterns
stand one after the other. -/
theorem seq_cases (p q : Pattern) :
    ((seq p q).shape = .sequence [p.shape, q.shape] ∧
        (seq p q).weight? = return (← p.weight?) + (← q.weight?)) ∨
      ∃ set greedy, p = one set ∧ q = run greedy set ∧
        (seq p q).shape = .repeated greedy ⟨1, none⟩ p.shape ∧
        (seq p q).weight? = some (set.weight + 40) := by
  cases p with
  | one set =>
    cases q with
    | run greedy more =>
      by_cases hsame : set = more
      · subst hsame
        exact .inr ⟨set, greedy, rfl, rfl, if_pos rfl, if_pos rfl⟩
      · exact .inl ⟨if_neg hsame, if_neg hsame⟩
    | _ => exact .inl ⟨rfl, rfl⟩
  | _ => exact .inl ⟨rfl, rfl⟩

/-- No pattern costs more than its weight. -/
theorem costsAtMost_shape {p : Pattern} {weight : Nat} (h : p.weight? = some weight) :
    p.shape.CostsAtMost weight := by
  induction p generalizing weight with
  | empty =>
    obtain rfl := Option.some.inj h
    exact Shape.costsAtMost_empty
  | edge condition =>
    obtain rfl := Option.some.inj h
    exact Shape.costsAtMost_look condition.look
  | text chars =>
    obtain rfl := Option.some.inj h
    exact Shape.costsAtMost_text chars
  | one set =>
    obtain rfl := Option.some.inj h
    exact set.costsAtMost_codes
  | run greedy set =>
    obtain rfl := Option.some.inj h
    exact Shape.costsAtMost_rounds set.costsAtMost_codes greedy
  | seq first second ihFirst ihSecond =>
    rcases seq_cases first second with ⟨hshape, hweight⟩ | ⟨set, greedy, rfl, _, hshape, hweight⟩
    · rw [hweight] at h
      obtain ⟨front, hfront, hrest⟩ := Option.bind_eq_some_iff.mp h
      obtain ⟨back, hback, hsum⟩ := Option.bind_eq_some_iff.mp hrest
      obtain rfl := Option.some.inj hsum
      rw [hshape]
      exact Shape.costsAtMost_pair (ihFirst hfront) (ihSecond hback)
    · obtain rfl := Option.some.inj (hweight.symm.trans h)
      rw [hshape]
      exact Shape.costsAtMost_rounds1 set.costsAtMost_codes greedy
  | either first second ihFirst =>
    cases second with
    | empty =>
      obtain ⟨body, hbody, rfl⟩ := Option.map_eq_some_iff.mp h
      exact Shape.costsAtMost_optional (ihFirst hbody) true
    | _ => cases h
  | group index body ih =>
    obtain ⟨inner, hinner, rfl⟩ := Option.map_eq_some_iff.mp h
    exact Shape.costsAtMost_group (ih hinner) index
  | textAnyCase | star => cases h

/-- A pattern fits exactly if its machines do. -/
theorem fits_eq (p : Pattern) : p.fits = p.shape.fits := by
  rw [fits]
  cases hweight : p.weight? with
  | none => rfl
  | some weight =>
    by_cases hsmall : weight ≤ 10000000
    · rw [Shape.fits_of_costsAtMost (costsAtMost_shape hweight) hsmall, Bool.or_true]
    · rw [Option.any_some, decide_eq_false hsmall, Bool.false_or]

/-- A pattern that weighs no more than ten million is small enough. -/
theorem fits_of_weight {p : Pattern} {weight : Nat} (h : p.weight? = some weight)
    (hweight : weight ≤ 10000000) : p.fits = true := by
  rw [fits_eq]
  exact Shape.fits_of_costsAtMost (costsAtMost_shape h) hweight

theorem finds_iff {p : Pattern} {text : List Char} :
    p.finds text = true ↔ p.isMatch text = true ∧ p.fits = true :=
  Bool.and_eq_true_iff

/-- Some pattern finds something exactly if one that is small enough does. -/
theorem anyMatch_iff {patterns : List Pattern} {text : List Char} :
    anyMatch patterns text = true ↔
      ∃ p ∈ patterns, p.isMatch text = true ∧ p.fits = true := by
  rw [anyMatch, List.any_eq_true]
  simp only [finds_iff]

end Pattern

end TokenAudit
