import Mathlib.Tactic.SplitIfs
import TokenAudit.Proofs.Text.Nesting
import TokenAudit.Proofs.Text.Offset

/-!
# Scans by offset

The scans of this library read lists of characters. Over the bytes of a text they can be run by
offsets: brackets are looked for among the bytes, and pieces are cut out between two offsets. Each
step that may fail there is checked here: a cut inside a character or in the wrong order, a byte
behind the end, a counter at zero that is taken down, a position that does not move on.

In UTF-8 a byte below `0x80` is a character of its own, and the bytes of every other character are
not below it. So an offset at which such a byte is found is a boundary.

## Main definitions

* `ScanFault`: what would break a scan off.
* `bytes`: the bytes of a text.
* `slice`: the characters between two offsets.
* `closeAt`: the offset of the bracket that closes the one at an offset.
* `Tells`: a test of bytes that tells characters.
* `collect`: what the scans from several places find.

## Main results

* `slice_eq_ok_iff`: a piece is cut out exactly between two boundaries in order.
* `closeFrom_bytes`: inside a bracket the counter is never at zero.
* `closeAt_opener`: the bracket that closes another one is found where the characters say.
* `Tells.any_getElem?`, `Tells.map_getElem?_last`, `Tells.length_takeWhile`: the bytes next to a
  boundary pass a test as the characters there do.
-/

namespace TokenAudit.ByteScan

open Text

/-- What would break a scan by offsets off. -/
inductive ScanFault
  /-- A cut at an offset that is no boundary, or at two in the wrong order. -/
  | slice (start stop : Nat)
  /-- A byte behind the end. -/
  | index (offset : Nat)
  /-- A counter at zero that is taken down, at an offset. -/
  | underflow (offset : Nat)
  /-- A position that does not move on. -/
  | stuck (offset : Nat)
  deriving Repr, BEq, DecidableEq

/-! ## Bytes -/

/-- The bytes of a text. -/
def bytes (text : List Char) : List UInt8 :=
  text.flatMap String.utf8EncodeChar

@[simp] theorem bytes_nil : bytes [] = [] := rfl

@[simp] theorem bytes_cons (c : Char) (text : List Char) :
    bytes (c :: text) = String.utf8EncodeChar c ++ bytes text := rfl

@[simp] theorem bytes_append (first second : List Char) :
    bytes (first ++ second) = bytes first ++ bytes second :=
  List.flatMap_append

@[simp] theorem length_bytes (text : List Char) : (bytes text).length = byteLength text := by
  induction text with
  | nil => rfl
  | cons c rest ih => rw [bytes_cons, List.length_append, ih, String.length_utf8EncodeChar,
      byteLength_cons]

/-- From a boundary on, the bytes are those of the characters after it. -/
theorem drop_bytes (before after : List Char) :
    (bytes (before ++ after)).drop (byteLength before) = bytes after := by
  rw [bytes_append, ← length_bytes, List.drop_left]

/-- The byte of a character below `0x80`. -/
def byteOf (c : Char) : UInt8 :=
  UInt8.ofNat c.toNat

/-- Such a character is one byte. -/
theorem utf8EncodeChar_of_lt {c : Char} (h : c.toNat < 0x80) :
    String.utf8EncodeChar c = [byteOf c] := by
  rw [String.utf8EncodeChar, if_pos (show c.val.toNat ≤ 0x7f from Nat.le_of_lt_succ h)]
  rfl

theorem utf8Size_of_lt {c : Char} (h : c.toNat < 0x80) : c.utf8Size = 1 := by
  rw [← String.length_utf8EncodeChar, utf8EncodeChar_of_lt h]
  rfl

/-- A character has at least one byte. -/
theorem exists_utf8EncodeChar_eq_cons (c : Char) :
    ∃ b more, String.utf8EncodeChar c = b :: more := by
  refine List.exists_cons_of_ne_nil (List.ne_nil_of_length_pos ?_)
  rw [String.length_utf8EncodeChar]
  exact c.utf8Size_pos

/-- The bytes of every other character are not below `0x80`. -/
theorem le_of_mem_utf8EncodeChar {c : Char} (h : 0x80 ≤ c.toNat) {b : UInt8}
    (hb : b ∈ String.utf8EncodeChar c) : 0x80 ≤ b.toNat := by
  -- Each of them is a remainder on top of a base that has the high bit set.
  have hlead : ∀ n base k : Nat, 0 < k → 0x80 ≤ base → base + k ≤ 256 →
      0x80 ≤ (UInt8.ofNat (n % k + base)).toNat := by
    intro n base k hk hbase hsum
    have := Nat.mod_lt n hk
    rw [UInt8.toNat_ofNat', Nat.mod_eq_of_lt (by omega)]
    omega
  have hhigh : ¬c.val.toNat ≤ 0x7f := Nat.not_le.mpr h
  rw [String.utf8EncodeChar, if_neg hhigh] at hb
  split_ifs at hb <;> simp only [List.mem_cons, List.not_mem_nil, or_false] at hb
  · rcases hb with rfl | rfl <;> apply hlead <;> decide
  · rcases hb with rfl | rfl | rfl <;> apply hlead <;> decide
  · rcases hb with rfl | rfl | rfl | rfl <;> apply hlead <;> decide

theorem toNat_byteOf {c : Char} (h : c.toNat < 0x80) : (byteOf c).toNat = c.toNat := by
  rw [byteOf, UInt8.toNat_ofNat', Nat.mod_eq_of_lt (by omega)]

/-- Characters below `0x80` are told by their bytes. -/
theorem byteOf_inj {c d : Char} (hc : c.toNat < 0x80) (hd : d.toNat < 0x80) :
    byteOf c = byteOf d ↔ c = d := by
  refine ⟨fun h => ?_, congrArg byteOf⟩
  have hnat := congrArg UInt8.toNat h
  rw [toNat_byteOf hc, toNat_byteOf hd] at hnat
  exact Char.toNat_inj.mp hnat

/-! ## Slices -/

/-- The characters of a text from one offset up to another. -/
def slice (text : List Char) (start stop : Nat) : Except ScanFault (List Char) :=
  if IsBoundary text start ∧ IsBoundary text stop ∧ start ≤ stop then
    .ok (takeBytes (stop - start) ((dropBytes? start text).getD []))
  else .error (.slice start stop)

/-- A piece is cut out exactly between two boundaries in order, and it is what stands there. -/
theorem slice_eq_ok_iff {text part : List Char} {start stop : Nat} :
    slice text start stop = .ok part ↔ IsSlice text start stop part := by
  constructor
  · intro h
    rw [slice] at h
    split at h
    · next hbounds =>
      cases h
      exact isSlice_takeBytes hbounds.1 hbounds.2.1 hbounds.2.2
    · cases h
  · rintro ⟨before, after, rfl, rfl, rfl⟩
    have hstart : IsBoundary (before ++ part ++ after) (byteLength before) :=
      ⟨before, part ++ after, List.append_assoc .., rfl⟩
    have hstop : IsBoundary (before ++ part ++ after) (byteLength before + byteLength part) :=
      ⟨before ++ part, after, rfl, byteLength_append ..⟩
    rw [slice, if_pos ⟨hstart, hstop, Nat.le_add_right ..⟩, List.append_assoc,
      dropBytes?_byteLength_append, Option.getD_some, Nat.add_sub_cancel_left,
      takeBytes_byteLength_append]

-- The accented letter takes two bytes.
example : slice ['\u00e9', ';'] 2 3 = .ok [';'] ∧
    slice ['\u00e9', ';'] 1 3 = .error (.slice 1 3) :=
  ⟨rfl, rfl⟩

/-- Characters that stand behind a boundary are cut out without a fault. -/
theorem slice_append (before part after : List Char) :
    slice (before ++ (part ++ after)) (byteLength before) (byteLength before + byteLength part) =
      .ok part :=
  slice_eq_ok_iff.mpr ⟨before, after, (List.append_assoc ..).symm, rfl, rfl⟩

/-- From a boundary to the end, the piece is all that follows. -/
theorem slice_to_end (before after : List Char) :
    slice (before ++ after) (byteLength before) (byteLength (before ++ after)) = .ok after :=
  slice_eq_ok_iff.mpr ⟨before, [], (List.append_nil _).symm, rfl, (byteLength_append ..).symm⟩

/-! ## Closing brackets -/

/-- The offset of the bracket that closes `depth` levels, in the bytes from the offset `here` on.
`none` if the bytes end first, or if the nesting gets deeper than `limit`. -/
def closeFrom (pair : Brackets) (limit : Option Nat) :
    Nat → Nat → List UInt8 → Except ScanFault (Option Nat)
  | _, _, [] => .ok none
  | depth, here, b :: rest =>
    if b = byteOf pair.opener then
      if limit.any (· < depth + 1) then .ok none
      else closeFrom pair limit (depth + 1) (here + 1) rest
    else if b = byteOf pair.closer then
      if depth = 0 then .error (.underflow here)
      else if depth = 1 then .ok (some here)
      else closeFrom pair limit (depth - 1) (here + 1) rest
    else closeFrom pair limit depth (here + 1) rest

/-- The offset of the bracket that closes the one at the offset `opened`. -/
def closeAt (pair : Brackets) (limit : Option Nat) (text : List Char) (opened : Nat) :
    Except ScanFault (Option Nat) :=
  if opened ≤ (bytes text).length then
    closeFrom pair limit 0 opened ((bytes text).drop opened)
  else .error (.index opened)

/-- Both brackets are characters of one byte. -/
structure OneByte (pair : Brackets) : Prop where
  opener : pair.opener.toNat < 0x80
  closer : pair.closer.toNat < 0x80

theorem oneByte_parens : OneByte parens := ⟨by decide, by decide⟩

theorem oneByte_braces : OneByte braces := ⟨by decide, by decide⟩

section Close

variable {pair : Brackets} {limit : Option Nat}

/-- Bytes that are not below `0x80` are passed over. -/
theorem closeFrom_high (hpair : OneByte pair) {high : List UInt8}
    (hhigh : ∀ b ∈ high, 0x80 ≤ b.toNat) (depth here : Nat) (rest : List UInt8) :
    closeFrom pair limit depth here (high ++ rest) =
      closeFrom pair limit depth (here + high.length) rest := by
  have hne : ∀ c : Char, c.toNat < 0x80 → ∀ b : UInt8, 0x80 ≤ b.toNat → b ≠ byteOf c := by
    rintro c hc b hb rfl
    rw [toNat_byteOf hc] at hb
    omega
  induction high generalizing here with
  | nil => rfl
  | cons b high ih =>
    have hb := hhigh b List.mem_cons_self
    rw [List.cons_append, closeFrom, if_neg (hne _ hpair.opener b hb),
      if_neg (hne _ hpair.closer b hb), ih fun b hb => hhigh b (List.mem_cons_of_mem _ hb),
      List.length_cons]
    congr 1
    omega

/-- One more character before what is read moves its end on. -/
theorem map_byteLength_cons (c : Char) (here : Nat) (read : Option (List Char × List Char)) :
    (read.map fun (inner, after) => (c :: inner, after)).map (fun r => here + byteLength r.1) =
      read.map fun r => here + c.utf8Size + byteLength r.1 := by
  cases read with
  | none => rfl
  | some r => simp [Nat.add_assoc]

/-- Inside a bracket the walk over the bytes ends without a fault, at the bracket that the walk over
the characters ends at. The counter is positive all the way: it would fall to zero only where the
walk ends. -/
theorem closeFrom_bytes (hpair : OneByte pair) {depth : Nat} (hdepth : 0 < depth) (here : Nat)
    (text : List Char) :
    closeFrom pair limit depth here (bytes text) =
      .ok ((enclosedAt pair limit depth text).map fun read => here + byteLength read.1) := by
  induction text generalizing depth here with
  | nil => rfl
  | cons c rest ih =>
    by_cases hc : c.toNat < 0x80
    · -- One byte, which is a bracket exactly if the character is.
      have hopener : byteOf c = byteOf pair.opener ↔ c = pair.opener := byteOf_inj hc hpair.opener
      have hcloser : byteOf c = byteOf pair.closer ↔ c = pair.closer := byteOf_inj hc hpair.closer
      rw [bytes_cons, utf8EncodeChar_of_lt hc, List.singleton_append, closeFrom, enclosedAt]
      simp only [hopener, hcloser, beq_iff_eq]
      by_cases hopens : c = pair.opener
      · rw [if_pos hopens, if_pos hopens]
        split
        · rfl
        · rw [ih (Nat.succ_pos depth), map_byteLength_cons, utf8Size_of_lt hc]
      · rw [if_neg hopens, if_neg hopens]
        split_ifs with hcloses hzero hlast
        · omega
        · rfl
        · omega
        · omega
        · rw [ih (by omega), map_byteLength_cons, utf8Size_of_lt hc]
        · rw [ih hdepth, map_byteLength_cons, utf8Size_of_lt hc]
    · -- Several bytes, of which none is a bracket.
      have hopens : c ≠ pair.opener := fun h => hc (h ▸ hpair.opener)
      have hcloses : c ≠ pair.closer := fun h => hc (h ▸ hpair.closer)
      have hhigh : ∀ b ∈ String.utf8EncodeChar c, 0x80 ≤ b.toNat := fun b hb =>
        le_of_mem_utf8EncodeChar (Nat.not_lt.mp hc) hb
      rw [bytes_cons, closeFrom_high hpair hhigh, String.length_utf8EncodeChar, ih hdepth,
        enclosedAt, if_neg (by simpa using hopens), if_neg (by simpa using hcloses),
        map_byteLength_cons]

/-- The search from an opening bracket ends without a fault, at the bracket that closes it. -/
theorem closeAt_opener (hpair : OneByte pair) (hlimit : limit.any (· < 1) = false)
    (before rest : List Char) :
    closeAt pair limit (before ++ pair.opener :: rest) (byteLength before) =
      .ok ((enclosed pair limit rest).map fun read =>
        byteLength before + 1 + byteLength read.1) := by
  have hle : byteLength before ≤ (bytes (before ++ pair.opener :: rest)).length := by
    rw [length_bytes, byteLength_append]
    exact Nat.le_add_right ..
  rw [closeAt, if_pos hle, drop_bytes, bytes_cons, utf8EncodeChar_of_lt hpair.opener,
    List.singleton_append, closeFrom, if_pos rfl, Nat.zero_add, hlimit]
  exact closeFrom_bytes hpair Nat.one_pos ..

-- Where no bracket opens, the counter would be taken below zero.
example : closeAt parens none ['\u00e9', ')'] 0 = .error (.underflow 2) := rfl

/-- What a bracket encloses is cut out without a fault. -/
theorem slice_enclosed (hpair : OneByte pair) {before rest inner after : List Char}
    (h : enclosed pair limit rest = some (inner, after)) :
    slice (before ++ pair.opener :: rest) (byteLength before + 1)
      (byteLength before + 1 + byteLength inner) = .ok inner := by
  have hrest : rest = inner ++ pair.closer :: after := eq_append_of_enclosedAt_eq_some h
  refine slice_eq_ok_iff.mpr ⟨before ++ [pair.opener], pair.closer :: after, ?_, ?_, rfl⟩
  · simp [hrest]
  · rw [byteLength_append, byteLength_cons, byteLength_nil, utf8Size_of_lt hpair.opener]

end Close

/-! ## Tests of bytes -/

/-- A test of bytes tells characters: those below `0x80` by their byte, and no other passes. -/
structure Tells (q : UInt8 → Bool) (p : Char → Bool) : Prop where
  low : ∀ c : Char, c.toNat < 0x80 → q (byteOf c) = p c
  high : ∀ b : UInt8, 0x80 ≤ b.toNat → q b = false
  wide : ∀ c : Char, 0x80 ≤ c.toNat → p c = false

namespace Tells

variable {q r : UInt8 → Bool} {p s : Char → Bool}

/-- The byte of one character tells it. -/
theorem eq {d : Char} (hd : d.toNat < 0x80) : Tells (· == byteOf d) (· == d) where
  low c hc := by
    rw [Bool.eq_iff_iff, beq_iff_eq, beq_iff_eq, byteOf_inj hc hd]
  high b hb := by
    rw [beq_eq_false_iff_ne]
    rintro rfl
    rw [toNat_byteOf hd] at hb
    omega
  wide c hc := by
    rw [beq_eq_false_iff_ne]
    rintro rfl
    omega

/-- A range of bytes tells a range of characters. -/
theorem range {first last : Char} (hfirst : first.toNat < 0x80) (hlast : last.toNat < 0x80) :
    Tells (fun b => byteOf first ≤ b && b ≤ byteOf last) (fun c => first ≤ c && c ≤ last) where
  low c hc := by
    have hle : ∀ {c d : Char}, c.toNat < 0x80 → d.toNat < 0x80 → (byteOf c ≤ byteOf d ↔ c ≤ d) := by
      intro c d hc hd
      rw [UInt8.le_iff_toNat_le, toNat_byteOf hc, toNat_byteOf hd]
      exact UInt32.le_iff_toNat_le.symm
    rw [Bool.eq_iff_iff]
    simp only [Bool.and_eq_true, decide_eq_true_eq, hle hfirst hc, hle hc hlast]
  high b hb := by
    have : ¬b ≤ byteOf last := by
      rw [UInt8.le_iff_toNat_le, toNat_byteOf hlast]
      omega
    simp [this]
  wide c hc := by
    have : ¬c ≤ last := fun h => by
      have := UInt32.le_iff_toNat_le.mp h
      exact absurd (Nat.le_trans hc this) (Nat.not_le.mpr hlast)
    simp [this]

/-- Two tests tell what passes one or the other. -/
theorem or (hq : Tells q p) (hr : Tells r s) :
    Tells (fun b => q b || r b) (fun c => p c || s c) where
  low c hc := by rw [hq.low c hc, hr.low c hc]
  high b hb := by rw [hq.high b hb, hr.high b hb, Bool.or_false]
  wide c hc := by rw [hq.wide c hc, hr.wide c hc, Bool.or_false]

/-- A character passes with its only byte, or neither it nor any of its bytes does. -/
theorem encode_cases (h : Tells q p) (c : Char) :
    (∃ b, String.utf8EncodeChar c = [b] ∧ q b = p c) ∨
      (p c = false ∧ ∀ b ∈ String.utf8EncodeChar c, q b = false) := by
  by_cases hc : c.toNat < 0x80
  · exact .inl ⟨byteOf c, utf8EncodeChar_of_lt hc, h.low c hc⟩
  · have hwide := Nat.not_lt.mp hc
    exact .inr ⟨h.wide c hwide, fun b hb => h.high b (le_of_mem_utf8EncodeChar hwide hb)⟩

/-- The byte at a boundary passes if the character after it does. -/
theorem any_getElem? (h : Tells q p) (before after : List Char) :
    (bytes (before ++ after))[byteLength before]?.any q = after.head?.any p := by
  rw [bytes_append, List.getElem?_append_right (Nat.le_of_eq (length_bytes before)), length_bytes,
    Nat.sub_self]
  cases after with
  | nil => rfl
  | cons c rest =>
    rw [bytes_cons]
    rcases h.encode_cases c with ⟨b, hbytes, hb⟩ | ⟨hc, hall⟩
    · simp [hbytes, hb]
    · obtain ⟨b, more, hbytes⟩ := exists_utf8EncodeChar_eq_cons c
      rw [hbytes] at hall ⊢
      simp [hc, hall b List.mem_cons_self]

/-- The byte before a boundary is there, and it passes if the character before it does. -/
theorem map_getElem?_last (h : Tells q p) (before : List Char) (c : Char) (after : List Char) :
    (bytes (before ++ c :: after))[byteLength (before ++ [c]) - 1]?.map q = some (p c) := by
  have hpos := c.utf8Size_pos
  have hindex : byteLength (before ++ [c]) - 1 = (bytes before).length + (c.utf8Size - 1) := by
    rw [byteLength_append, byteLength_cons, byteLength_nil, length_bytes]
    omega
  have hlast : c.utf8Size - 1 < (String.utf8EncodeChar c).length := by
    rw [String.length_utf8EncodeChar]
    omega
  rw [bytes_append, hindex, List.getElem?_append_right (Nat.le_add_right ..),
    Nat.add_sub_cancel_left, bytes_cons, List.getElem?_append_left hlast,
    List.getElem?_eq_getElem hlast, Option.map_some]
  rcases h.encode_cases c with ⟨b, hbytes, hb⟩ | ⟨hc, hall⟩
  · simp [hbytes, hb]
  · rw [hc, hall _ (List.getElem_mem hlast)]

/-- The bytes that pass from the start on are those of the characters that do. -/
theorem length_takeWhile (h : Tells q p) (text : List Char) :
    ((bytes text).takeWhile q).length = byteLength (text.takeWhile p) := by
  induction text with
  | nil => rfl
  | cons c rest ih =>
    rw [bytes_cons, List.takeWhile_cons]
    rcases h.encode_cases c with ⟨b, hbytes, hb⟩ | ⟨hc, hall⟩
    · have hsize : c.utf8Size = 1 := by
        rw [← String.length_utf8EncodeChar, hbytes, List.length_singleton]
      rw [hbytes, List.singleton_append, List.takeWhile_cons, hb]
      split
      · rw [List.length_cons, ih, byteLength_cons, hsize, Nat.add_comm]
      · rfl
    · obtain ⟨b, more, hbytes⟩ := exists_utf8EncodeChar_eq_cons c
      rw [hbytes] at hall ⊢
      rw [List.cons_append, List.takeWhile_cons, hall b List.mem_cons_self, hc]
      rfl

end Tells

/-! ## Several scans -/

variable {α β : Type}

/-- What the scans from several places find, unless one of them breaks off. -/
def collect (scan : α → Except ScanFault (Option β)) : List α → Except ScanFault (List β)
  | [] => .ok []
  | place :: rest => do
    let here ← scan place
    let later ← collect scan rest
    return here.toList ++ later

/-- Scans of which none breaks off find together what each of them finds. -/
theorem collect_eq_ok {scan : α → Except ScanFault (Option β)} {found : α → Option β}
    {places : List α} (h : ∀ place ∈ places, scan place = .ok (found place)) :
    collect scan places = .ok (places.filterMap found) := by
  induction places with
  | nil => rfl
  | cons place rest ih =>
    rw [collect, h place List.mem_cons_self, ih fun p hp => h p (List.mem_cons_of_mem _ hp),
      List.filterMap_cons]
    cases found place <;> rfl

end TokenAudit.ByteScan
