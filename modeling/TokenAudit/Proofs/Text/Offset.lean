import TokenAudit.Pattern.Match

/-!
# Boundaries

A byte offset of a text is a boundary if some characters of the text end there. `dropBytes?` cuts a
text at its boundaries and nowhere else, and every match that a pattern finds starts at one. Below
and above every offset there is a nearest boundary, and what lies between two boundaries can be
read.
-/

namespace TokenAudit

/-- The character before the text that follows `text`, if `before` is the one before `text`. -/
def lastBefore (before : Option Char) (text : List Char) : Option Char :=
  text.getLast?.or before

@[simp] theorem lastBefore_nil (before : Option Char) : lastBefore before [] = before := rfl

@[simp] theorem lastBefore_cons (before : Option Char) (c : Char) (text : List Char) :
    lastBefore before (c :: text) = lastBefore (some c) text := by
  rw [lastBefore, lastBefore, List.getLast?_cons]
  cases text.getLast? <;> rfl

theorem lastBefore_append (before : Option Char) (text more : List Char) :
    lastBefore before (text ++ more) = lastBefore (lastBefore before text) more := by
  rw [lastBefore, lastBefore, lastBefore, List.getLast?_append, Option.or_assoc]

namespace Text

/-! ## Lengths in bytes -/

private theorem foldl_utf8Size (text : List Char) (total : Nat) :
    text.foldl (fun total c => total + c.utf8Size) total = total + byteLength text := by
  induction text generalizing total with
  | nil => rfl
  | cons c rest ih =>
    rw [byteLength, List.foldl_cons, List.foldl_cons, ih, ih (0 + c.utf8Size)]
    omega

@[simp]
theorem byteLength_nil : byteLength [] = 0 := rfl

@[simp]
theorem byteLength_cons (c : Char) (rest : List Char) :
    byteLength (c :: rest) = c.utf8Size + byteLength rest := by
  rw [byteLength, List.foldl_cons, foldl_utf8Size, Nat.zero_add]

@[simp]
theorem byteLength_append (first second : List Char) :
    byteLength (first ++ second) = byteLength first + byteLength second := by
  induction first with
  | nil => simp
  | cons c rest ih =>
    rw [List.cons_append, byteLength_cons, byteLength_cons, ih]
    omega

/-- A text has no more characters than bytes. -/
theorem length_le_byteLength (text : List Char) : text.length ≤ byteLength text := by
  induction text with
  | nil => exact Nat.le_refl 0
  | cons c rest ih =>
    have := c.utf8Size_pos
    rw [List.length_cons, byteLength_cons]
    omega

/-- The length of a string in bytes is that of its characters. -/
theorem byteLength_toList (s : String) : byteLength s.toList = s.utf8ByteSize := by
  have hlist : ∀ text : List Char, byteLength text = (String.ofList text).utf8ByteSize := by
    intro text
    induction text with
    | nil => rfl
    | cons c rest ih =>
      rw [byteLength_cons, ih, String.ofList_cons, String.utf8ByteSize_append,
        String.utf8ByteSize_singleton]
  rw [hlist, String.ofList_toList]

/-! ## Cuts -/

/-- Some characters of the text end at the offset. -/
def IsBoundary (text : List Char) (offset : Nat) : Prop :=
  ∃ before after, text = before ++ after ∧ byteLength before = offset

/-- The characters of `part` stand in the text from byte `start` up to byte `stop`. -/
def IsSlice (text : List Char) (start stop : Nat) (part : List Char) : Prop :=
  ∃ before after, text = before ++ part ++ after ∧ byteLength before = start ∧
    start + byteLength part = stop

/-- A text is cut where its first characters end. -/
theorem dropBytes?_byteLength_append (before after : List Char) :
    dropBytes? (byteLength before) (before ++ after) = some after := by
  induction before with
  | nil =>
    rw [byteLength_nil, List.nil_append]
    cases after <;> rfl
  | cons c rest ih =>
    obtain ⟨n, hn⟩ : ∃ n, byteLength (c :: rest) = n + 1 := by
      refine ⟨byteLength (c :: rest) - 1, ?_⟩
      have := c.utf8Size_pos
      rw [byteLength_cons]
      omega
    have hle : c.utf8Size ≤ n + 1 := by
      rw [← hn, byteLength_cons]
      omega
    rw [hn, List.cons_append, dropBytes?, if_pos hle, ← hn, byteLength_cons,
      Nat.add_sub_cancel_left]
    exact ih

/-- A cut divides the text into the characters before the offset and the rest. -/
theorem exists_of_dropBytes?_eq_some {offset : Nat} {text after : List Char}
    (h : dropBytes? offset text = some after) :
    ∃ before, text = before ++ after ∧ byteLength before = offset := by
  fun_induction dropBytes? offset text with
  | case1 text => exact ⟨[], by simpa using h, rfl⟩
  | case2 => cases h
  | case3 n c rest hle ih =>
    obtain ⟨before, rfl, hlength⟩ := ih h
    refine ⟨c :: before, rfl, ?_⟩
    rw [byteLength_cons, hlength]
    omega
  | case4 => cases h

/-- A text cannot be cut exactly where no boundary is. -/
theorem dropBytes?_eq_none_iff {offset : Nat} {text : List Char} :
    dropBytes? offset text = none ↔ ¬IsBoundary text offset := by
  constructor
  · rintro h ⟨before, after, rfl, rfl⟩
    rw [dropBytes?_byteLength_append] at h
    cases h
  · intro h
    cases hcut : dropBytes? offset text with
    | none => rfl
    | some after =>
      obtain ⟨before, htext, hlength⟩ := exists_of_dropBytes?_eq_some hcut
      exact absurd ⟨before, after, htext, hlength⟩ h

/-- Whether an offset is a boundary is decided by cutting there. -/
instance (text : List Char) (offset : Nat) : Decidable (IsBoundary text offset) :=
  decidable_of_iff (dropBytes? offset text ≠ none)
    (by rw [ne_eq, dropBytes?_eq_none_iff, Classical.not_not])

/-- Taking as many bytes as some characters have from a text that starts with them takes these. -/
theorem takeBytes_byteLength_append (part after : List Char) :
    takeBytes (byteLength part) (part ++ after) = part := by
  induction part with
  | nil =>
    rw [byteLength_nil, takeBytes]
  | cons c rest ih =>
    obtain ⟨n, hn⟩ : ∃ n, byteLength (c :: rest) = n + 1 := by
      refine ⟨byteLength (c :: rest) - 1, ?_⟩
      have := c.utf8Size_pos
      rw [byteLength_cons]
      omega
    have hrest : n + 1 - c.utf8Size = byteLength rest := by
      rw [← hn, byteLength_cons]
      omega
    rw [hn, List.cons_append, takeBytes, hrest, ih]

/-- A boundary lies inside the text or at its end. -/
theorem IsBoundary.le_byteLength {text : List Char} {offset : Nat} (h : IsBoundary text offset) :
    offset ≤ byteLength text := by
  obtain ⟨before, after, rfl, rfl⟩ := h
  rw [byteLength_append]
  omega

/-- The first characters of a text are told by how many bytes they take. -/
theorem append_inj_of_byteLength {first second rest rest' : List Char}
    (h : first ++ rest = second ++ rest') (hlength : byteLength first = byteLength second) :
    first = second ∧ rest = rest' := by
  have hcut := dropBytes?_byteLength_append first rest
  rw [h, hlength, dropBytes?_byteLength_append] at hcut
  cases hcut
  exact ⟨List.append_cancel_right h, rfl⟩

/-- What is read from one boundary to a later one is what stands there. -/
theorem isSlice_takeBytes {text : List Char} {start stop : Nat} (hstart : IsBoundary text start)
    (hstop : IsBoundary text stop) (hle : start ≤ stop) :
    IsSlice text start stop (takeBytes (stop - start) ((dropBytes? start text).getD [])) := by
  obtain ⟨before, after, rfl, rfl⟩ := hstart
  obtain ⟨front, rest, htext, rfl⟩ := hstop
  -- The later boundary does not lie before the first one, so it cuts the characters after it.
  obtain ⟨part, rfl⟩ : ∃ part, front = before ++ part := by
    rcases List.append_eq_append_iff.mp htext with ⟨part, hfront, _⟩ | ⟨part, hbefore, hrest⟩
    · exact ⟨part, hfront⟩
    · rw [hbefore, byteLength_append] at hle
      have hnil : part = [] := by
        have := length_le_byteLength part
        exact List.length_eq_zero_iff.mp (by omega)
      exact ⟨[], by rw [hbefore, hnil, List.append_nil, List.append_nil]⟩
  rw [List.append_assoc, List.append_cancel_left_eq] at htext
  rw [dropBytes?_byteLength_append, Option.getD_some, byteLength_append, Nat.add_sub_cancel_left,
    htext, takeBytes_byteLength_append]
  exact ⟨before, rest, by rw [List.append_assoc], rfl, rfl⟩

/-! ## The nearest boundaries -/

/-- The boundary below an offset is found from any place at or below it. -/
theorem floorFrom_spec {here offset : Nat} (hle : here ≤ offset) (text : List Char) :
    ∃ before after, text = before ++ after ∧ floorFrom here offset text = here + byteLength before ∧
      here + byteLength before ≤ offset ∧
      ∀ c rest, after = c :: rest → offset < here + byteLength before + c.utf8Size := by
  induction text generalizing here with
  | nil => exact ⟨[], [], rfl, rfl, hle, nofun⟩
  | cons c rest ih =>
    rw [floorFrom]
    split
    · next hnext =>
      obtain ⟨before, after, rfl, hfloor, hbelow, hlast⟩ := ih hnext
      refine ⟨c :: before, after, rfl, ?_, ?_, fun d later hafter => ?_⟩
      · rw [hfloor, byteLength_cons, Nat.add_assoc]
      · rw [byteLength_cons]
        omega
      · have := hlast d later hafter
        rw [byteLength_cons]
        omega
    · next hbeyond =>
      refine ⟨[], c :: rest, rfl, rfl, hle, fun d later hafter => ?_⟩
      cases hafter
      rw [byteLength_nil]
      omega

/-- The boundary below an offset is one, and it is the last that is not above the offset. -/
theorem floorBoundary_spec (text : List Char) (offset : Nat) :
    IsBoundary text (floorBoundary text offset) ∧ floorBoundary text offset ≤ offset ∧
      ∀ other, IsBoundary text other → other ≤ offset → other ≤ floorBoundary text offset := by
  obtain ⟨before, after, rfl, hfloor, hbelow, hlast⟩ := floorFrom_spec (Nat.zero_le offset) text
  rw [Nat.zero_add] at hfloor hbelow hlast
  rw [floorBoundary, hfloor]
  refine ⟨⟨before, after, rfl, rfl⟩, hbelow, ?_⟩
  rintro other ⟨front, rest, htext, rfl⟩ hother
  rcases List.append_eq_append_iff.mp htext with ⟨part, rfl, hafter⟩ | ⟨part, hbefore, _⟩
  · cases part with
    | nil => exact Nat.le_of_eq (congrArg byteLength (List.append_nil before))
    | cons c part =>
      -- A later boundary would leave room for one more character.
      have := hlast c (part ++ rest) hafter
      rw [byteLength_append, byteLength_cons] at hother
      omega
  · rw [hbefore, byteLength_append]
    omega

/-- The boundary above an offset is found from any place at or below the one wanted. -/
theorem ceilFrom_spec (here offset : Nat) (text : List Char) :
    ∃ before after, text = before ++ after ∧ ceilFrom here offset text = here + byteLength before ∧
      (after = [] ∨ offset ≤ here + byteLength before) ∧
      ∀ front c rest, before = front ++ c :: rest → here + byteLength front < offset := by
  induction text generalizing here with
  | nil => exact ⟨[], [], rfl, rfl, .inl rfl, fun front c rest h => by simp at h⟩
  | cons c rest ih =>
    rw [ceilFrom]
    split
    · next hreached =>
      exact ⟨[], c :: rest, rfl, rfl, .inr hreached, fun front c rest h => by simp at h⟩
    · next hbelow =>
      obtain ⟨before, after, rfl, hceil, hend, hfirst⟩ := ih (here + c.utf8Size)
      refine ⟨c :: before, after, rfl, ?_, ?_, fun front d later hfront => ?_⟩
      · rw [hceil, byteLength_cons, Nat.add_assoc]
      · rw [byteLength_cons, ← Nat.add_assoc]
        exact hend
      · cases front with
        | nil =>
          rw [byteLength_nil]
          omega
        | cons e front =>
          obtain ⟨rfl, hrest⟩ := List.cons.inj hfront
          have := hfirst front d later hrest
          rw [byteLength_cons]
          omega

/-- The boundary above an offset is one. It is not below the offset, unless the text ends before,
and it is the first such boundary. -/
theorem ceilBoundary_spec (text : List Char) (offset : Nat) :
    IsBoundary text (ceilBoundary text offset) ∧
      min offset (byteLength text) ≤ ceilBoundary text offset ∧
      ∀ other, IsBoundary text other → min offset (byteLength text) ≤ other →
        ceilBoundary text offset ≤ other := by
  obtain ⟨before, after, rfl, hceil, hend, hfirst⟩ := ceilFrom_spec 0 offset text
  rw [Nat.zero_add] at hceil hend
  rw [ceilBoundary, hceil]
  refine ⟨⟨before, after, rfl, rfl⟩, ?_, ?_⟩
  · rcases hend with rfl | hreached
    · rw [List.append_nil]
      omega
    · omega
  · rintro other ⟨front, rest, htext, rfl⟩ hother
    rcases List.append_eq_append_iff.mp htext with ⟨part, rfl, _⟩ | ⟨part, hbefore, _⟩
    · rw [byteLength_append]
      omega
    · cases part with
      | nil => exact Nat.le_of_eq (congrArg byteLength (hbefore.trans (List.append_nil front)))
      | cons c part =>
        have hbelow := hfirst front c part hbefore
        have := c.utf8Size_pos
        rw [hbefore] at hother
        simp only [byteLength_append, byteLength_cons] at hother
        omega

end Text

/-! ## Matches -/

namespace Pattern

open Text

/-- A search finds a match at the end of some characters of the text that it reads. -/
theorem exists_of_findFrom_eq_some {p : Pattern} {before : Option Char} {offset : Nat}
    {text : List Char} {found : Found} (h : p.findFrom before offset text = some found) :
    ∃ skipped rest, text = skipped ++ rest ∧ found.start = offset + byteLength skipped := by
  induction text generalizing before offset with
  | nil =>
    rw [findFrom, Option.map_eq_some_iff] at h
    obtain ⟨last, _, rfl⟩ := h
    exact ⟨[], [], rfl, rfl⟩
  | cons c rest ih =>
    rw [findFrom] at h
    split at h
    · cases h
      exact ⟨[], c :: rest, rfl, rfl⟩
    · obtain ⟨skipped, after, rfl, hstart⟩ := ih h
      refine ⟨c :: skipped, after, rfl, ?_⟩
      rw [hstart, byteLength_cons]
      omega

/-- A match starts at a boundary of the text. -/
theorem isBoundary_of_find?_eq_some {p : Pattern} {text : List Char} {found : Found}
    (h : p.find? text = some found) : IsBoundary text found.start := by
  obtain ⟨skipped, rest, htext, hstart⟩ := exists_of_findFrom_eq_some h
  exact ⟨skipped, rest, htext, by rw [hstart, Nat.zero_add]⟩

end Pattern

end TokenAudit
