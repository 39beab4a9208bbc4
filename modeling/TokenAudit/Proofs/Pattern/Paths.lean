import Mathlib.Tactic.SplitIfs
import TokenAudit.Pattern.Written.Size

/-!
# Sequences of bytes

A range of code points is cut into ranges whose bytes are free of one another. A cut is made where
an end of the range falls inside a block, and takes away one such end; each block size has two of
them at most. So a range is cut into seven pieces at most, and a set has a bounded number of
sequences for each of its ranges.

## Main definitions

* `Written.looseEnds`: how many ends of a range fall inside blocks.

## Main results

* `Written.length_pathsBetween_le`: a range has one sequence more than loose ends, at most.
* `Written.length_pathsOf_le`, `Written.length_flatten_pathsOf_le`: what a set has for each range.
-/

namespace TokenAudit.Written

open Unicode (CodeSet)

/-! ## Loose ends -/

/-- Whether a range that starts at a code point starts inside a block, as a number. -/
def looseAt (block code : Nat) : Nat :=
  if code % block = 0 then 0 else 1

/-- How many ends of a range fall inside blocks. A range within one block has no loose ends. -/
def looseEnds (block first last : Nat) : Nat :=
  if first / block = last / block then 0 else looseAt block first + looseAt block (last + 1)

section

variable {block coarse first last cut : Nat}

theorem looseAt_le (block code : Nat) : looseAt block code ≤ 1 := by
  rw [looseAt]
  split <;> omega

theorem looseEnds_le (block first last : Nat) :
    looseEnds block first last ≤ looseAt block first + looseAt block (last + 1) := by
  rw [looseEnds]
  split
  · exact Nat.zero_le _
  · exact Nat.le_refl _

theorem div_eq_of_dvd {a b : Nat} (hdvd : block ∣ coarse) (h : a / block = b / block) :
    a / coarse = b / coarse := by
  obtain ⟨count, rfl⟩ := hdvd
  rw [← Nat.div_div_eq_div_mul, ← Nat.div_div_eq_div_mul, h]

/-- What falls inside a block falls inside a larger one. -/
theorem looseAt_of_dvd {code : Nat} (hdvd : block ∣ coarse) (h : code % block ≠ 0) :
    looseAt coarse code = 1 :=
  if_neg fun hzero =>
    h (Nat.mod_eq_zero_of_dvd (Nat.dvd_trans hdvd (Nat.dvd_of_mod_eq_zero hzero)))

/-- The last code point of a block is told by the next one. -/
theorem mod_eq_iff (hblock : 0 < block) : last % block = block - 1 ↔ (last + 1) % block = 0 := by
  obtain ⟨size, rfl⟩ := Nat.exists_eq_succ_of_ne_zero (Nat.ne_of_gt hblock)
  exact Nat.succ_mod_succ_eq_zero_iff.symm

/-! ## Cuts -/

/-- A range is not cut only if it has no loose ends. -/
theorem looseEnds_of_blockCut? (hblock : 0 < block) (h : blockCut? block first last = none) :
    looseEnds block first last = 0 := by
  simp only [blockCut?, beq_iff_eq, bne_iff_ne, ne_eq, mod_eq_iff hblock] at h
  rw [looseEnds, looseAt, looseAt]
  split_ifs at h ⊢
  · rfl
  · rfl

/-- Where a range is cut: after its first block if it starts inside that, or else before its last
block, inside which it ends. -/
theorem blockCut?_eq_some (hblock : 0 < block) (h : blockCut? block first last = some cut) :
    first / block ≠ last / block ∧ block ∣ cut ∧
      ((first % block ≠ 0 ∧ (cut - 1) / block = first / block) ∨
        ((last + 1) % block ≠ 0 ∧ cut / block = last / block)) := by
  simp only [blockCut?, beq_iff_eq, bne_iff_ne, ne_eq, mod_eq_iff hblock] at h
  split_ifs at h with hsame hfirst hlast
  · obtain rfl := Option.some.inj h
    exact ⟨hsame, Nat.dvd_mul_left _ _, .inr ⟨hlast, Nat.mul_div_cancel _ hblock⟩⟩
  · obtain rfl := Option.some.inj h
    refine ⟨hsame, Nat.dvd_mul_left _ _, .inl ⟨hfirst, ?_⟩⟩
    have hbefore : (first / block + 1) * block - 1 = (block - 1) + first / block * block := by
      rw [Nat.add_one_mul]
      omega
    rw [hbefore, Nat.add_mul_div_right _ _ hblock, Nat.div_eq_of_lt (by omega), Nat.zero_add]

/-- The pieces of a range have no more loose ends together than the range has, and one less if the
cut falls on the bound of a block. This holds of the blocks that the range is cut for, and of larger
ones. -/
theorem looseEnds_cut (hblock : 0 < block) (hdvd : block ∣ coarse)
    (h : blockCut? block first last = some cut) (hlt : first < cut) (hle : cut ≤ last) :
    looseEnds coarse first (cut - 1) + looseEnds coarse cut last ≤ looseEnds coarse first last ∧
      (first / coarse ≠ last / coarse → looseAt coarse cut = 0 →
        looseEnds coarse first (cut - 1) + looseEnds coarse cut last + 1 ≤
          looseEnds coarse first last) := by
  have hleft := looseEnds_le coarse first (cut - 1)
  have hright := looseEnds_le coarse cut last
  have hcut := looseAt_le coarse cut
  rw [Nat.sub_add_cancel (by omega)] at hleft
  by_cases hsame : first / coarse = last / coarse
  · -- All of the range is within one block, and so are its pieces.
    have hfirst : first / coarse ≤ (cut - 1) / coarse := Nat.div_le_div_right (by omega)
    have hnext : (cut - 1) / coarse ≤ cut / coarse := Nat.div_le_div_right (by omega)
    have hlast : cut / coarse ≤ last / coarse := Nat.div_le_div_right hle
    have hleft : looseEnds coarse first (cut - 1) = 0 := if_pos (by omega)
    have hright : looseEnds coarse cut last = 0 := if_pos (by omega)
    rw [hleft, hright]
    exact ⟨Nat.zero_le _, fun hne => absurd hsame hne⟩
  · have hwhole : looseEnds coarse first last =
        looseAt coarse first + looseAt coarse (last + 1) := if_neg hsame
    obtain ⟨_, _, ⟨hloose, hpiece⟩ | ⟨hloose, hpiece⟩⟩ := blockCut?_eq_some hblock h
    · -- The left piece is within the first block, and the range starts inside that.
      have hnone : looseEnds coarse first (cut - 1) = 0 := if_pos (div_eq_of_dvd hdvd hpiece.symm)
      have hstart : looseAt coarse first = 1 := looseAt_of_dvd hdvd hloose
      omega
    · -- The right piece is within the last block, and the range ends inside that.
      have hnone : looseEnds coarse cut last = 0 := if_pos (div_eq_of_dvd hdvd hpiece)
      have hend : looseAt coarse (last + 1) = 1 := looseAt_of_dvd hdvd hloose
      omega

/-- A cut for larger blocks makes no end loose. -/
theorem looseEnds_cut_fine {fine : Nat} (hblock : 0 < block) (hdvd : fine ∣ block)
    (h : blockCut? block first last = some cut) (hlt : first < cut)
    (hzero : looseEnds fine first last = 0) :
    looseEnds fine first (cut - 1) + looseEnds fine cut last = 0 := by
  obtain ⟨hne, hcut, _⟩ := blockCut?_eq_some hblock h
  have hapart : first / fine ≠ last / fine := fun hsame => hne (div_eq_of_dvd hdvd hsame)
  have hnone : looseAt fine cut = 0 := if_pos (Nat.mod_eq_zero_of_dvd (Nat.dvd_trans hdvd hcut))
  have hleft := looseEnds_le fine first (cut - 1)
  have hright := looseEnds_le fine cut last
  rw [Nat.sub_add_cancel (by omega)] at hleft
  rw [looseEnds, if_neg hapart] at hzero
  omega

end

/-! ## Ranges -/

/-- A cut takes away a loose end. -/
theorem looseEnds_of_cut? {first last cut : Nat} (h : cut? first last = some cut)
    (hlt : first < cut) (hle : cut ≤ last) :
    looseEnds 0x40 first (cut - 1) + looseEnds 0x1000 first (cut - 1) +
        looseEnds 0x40000 first (cut - 1) + (looseEnds 0x40 cut last + looseEnds 0x1000 cut last +
        looseEnds 0x40000 cut last) + 1 ≤
      looseEnds 0x40 first last + looseEnds 0x1000 first last + looseEnds 0x40000 first last := by
  have htight : ∀ {block : Nat}, 0 < block → blockCut? block first last = some cut →
      looseEnds block first (cut - 1) + looseEnds block cut last + 1 ≤
        looseEnds block first last := by
    intro block hblock hcut
    obtain ⟨hne, hbound, _⟩ := blockCut?_eq_some hblock hcut
    exact (looseEnds_cut hblock (Nat.dvd_refl _) hcut hlt hle).2 hne
      (if_pos (Nat.mod_eq_zero_of_dvd hbound))
  rw [cut?] at h
  cases hsmall : blockCut? 0x40 first last with
  | some next =>
    rw [hsmall] at h
    obtain rfl := Option.some.inj h
    have hown := htight (by decide) hsmall
    have hmiddle := (looseEnds_cut (by decide) (by decide : 0x40 ∣ 0x1000) hsmall hlt hle).1
    have hlarge := (looseEnds_cut (by decide) (by decide : 0x40 ∣ 0x40000) hsmall hlt hle).1
    omega
  | none =>
    have hnone := looseEnds_of_blockCut? (by decide) hsmall
    rw [hsmall] at h
    cases hmiddle : blockCut? 0x1000 first last with
    | some next =>
      rw [hmiddle] at h
      obtain rfl := Option.some.inj h
      have hown := htight (by decide) hmiddle
      have hfine := looseEnds_cut_fine (by decide) (by decide : 0x40 ∣ 0x1000) hmiddle hlt hnone
      have hlarge := (looseEnds_cut (by decide) (by decide : 0x1000 ∣ 0x40000) hmiddle hlt hle).1
      omega
    | none =>
      have hnone' := looseEnds_of_blockCut? (by decide) hmiddle
      rw [hmiddle] at h
      have hlarge : blockCut? 0x40000 first last = some cut := h
      have hown := htight (by decide) hlarge
      have hfine := looseEnds_cut_fine (by decide) (by decide : 0x40 ∣ 0x40000) hlarge hlt hnone
      have hfine' :=
        looseEnds_cut_fine (by decide) (by decide : 0x1000 ∣ 0x40000) hlarge hlt hnone'
      omega

/-- A range has one sequence of bytes more than it has loose ends, at most. -/
theorem length_pathsBetween_le (first last : Nat) :
    (pathsBetween first last).length ≤ looseEnds 0x40 first last + looseEnds 0x1000 first last +
      looseEnds 0x40000 first last + 1 := by
  fun_induction pathsBetween first last with
  | case1 first last hcut => exact Nat.le_add_left 1 _
  | case2 first last cut hcut hwithin ihLeft ihRight =>
    have hloose := looseEnds_of_cut? hcut hwithin.1 hwithin.2
    rw [List.length_append]
    omega
  | case3 first last cut hcut hwithin => exact Nat.le_add_left 1 _

theorem length_bytesOf_le (code : Nat) : (bytesOf code).length ≤ 4 := by
  rw [bytesOf]
  split_ifs <;> simp

theorem length_of_mem_pathsBetween {first last : Nat} {path : List ByteRange}
    (h : path ∈ pathsBetween first last) : path.length ≤ 4 := by
  have hzip : ∀ first last, ((bytesOf first).zip (bytesOf last)).length ≤ 4 := by
    intro first last
    rw [List.length_zip]
    exact Nat.le_trans (Nat.min_le_left _ _) (length_bytesOf_le first)
  fun_induction pathsBetween first last with
  | case1 first last hcut =>
    obtain rfl := List.mem_singleton.mp h
    exact hzip first last
  | case2 first last cut hcut hwithin ihLeft ihRight =>
    rcases List.mem_append.mp h with hleft | hright
    · exact ihLeft hleft
    · exact ihRight hright
  | case3 first last cut hcut hwithin =>
    obtain rfl := List.mem_singleton.mp h
    exact hzip first last

/-! ## Sets -/

theorem length_flatMap_le {α β : Type} (bound : Nat) {items : List α} {f : α → List β}
    (h : ∀ item ∈ items, (f item).length ≤ bound) :
    (items.flatMap f).length ≤ bound * items.length := by
  induction items with
  | nil => exact Nat.zero_le _
  | cons item rest ih =>
    obtain ⟨hitem, hrest⟩ := List.forall_mem_cons.mp h
    have hlater := ih hrest
    rw [List.flatMap_cons, List.length_append, List.length_cons, Nat.mul_succ]
    omega

/-- A set has up to seven sequences of bytes for each range and each number of bytes. -/
theorem length_pathsOf_le (set : CodeSet) : (pathsOf set).length ≤ 35 * set.ranges.size := by
  have hrange : ∀ first last, (pathsBetween first last).length ≤ 7 := by
    intro first last
    have hpaths := length_pathsBetween_le first last
    have hends : ∀ block, looseEnds block first last ≤ 2 := by
      intro block
      have hends := looseEnds_le block first last
      have hfirst := looseAt_le block first
      have hlast := looseAt_le block (last + 1)
      omega
    have hsmall := hends 0x40
    have hmiddle := hends 0x1000
    have hlarge := hends 0x40000
    omega
  rw [pathsOf, ← Array.length_toList]
  refine length_flatMap_le 35 fun range _ => ?_
  refine Nat.le_trans (length_flatMap_le 7 fun bounds _ => ?_) (by decide)
  dsimp only
  split
  · split
    · exact (by decide : 1 ≤ 7)
    · exact hrange _ _
  · exact Nat.zero_le 7

/-- No sequence has more than four bytes. -/
theorem length_flatten_pathsOf_le (set : CodeSet) :
    (pathsOf set).flatten.length ≤ 4 * (pathsOf set).length := by
  rw [← List.flatMap_id]
  refine length_flatMap_le 4 fun path hpath => ?_
  rw [pathsOf] at hpath
  obtain ⟨range, _, hpath⟩ := List.mem_flatMap.mp hpath
  obtain ⟨bounds, _, hpath⟩ := List.mem_flatMap.mp hpath
  dsimp only at hpath
  split at hpath
  · split at hpath
    · obtain rfl := List.mem_singleton.mp hpath
      exact (by decide : 1 ≤ 4)
    · exact length_of_mem_pathsBetween hpath
  · cases hpath

end TokenAudit.Written
