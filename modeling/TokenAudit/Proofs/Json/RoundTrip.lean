import TokenAudit.Json.Read
import TokenAudit.Json.Render
import TokenAudit.Proofs.Audit.Sequence
import Mathlib.Data.List.TakeDrop

/-!
# JSON text that is read back

A text that writes a value is read as this value, wherever white space stands between its tokens.
Floating point numbers are left out: reading them rounds.

## Main definitions

* `isExact`: a value has no floating point numbers, and its whole numbers have at most 64 bits.
* `EndsValue`: what can follow a written value.
* `Written`: a text writes a value, with any white space around its tokens.

## Main results

* `readChars?_escapeChar`, `readString?_quote`: a written string is read back.
* `readNumber?_compact`: so is a whole number.
* `readsValues`: so is every value, in as many steps as it is written with characters.
* `Written.read?_eq`: a text that writes a value is read as this value.
-/

namespace TokenAudit.Json

open Unicode Text

/-! ## Strings -/

/-- A digit of a number below sixteen has this number as its value. -/
theorem hexValue?_hexDigit {n : Nat} (h : n < 16) : hexValue? (Hash.hexDigit n) = some n := by
  have hall : ∀ n < 16, hexValue? (Hash.hexDigit n) = some n := by decide
  exact hall n h

/-- The escape of a control has the number of the control. -/
theorem hexUnit?_control {c : Char} (h : c.toNat < 0x20) :
    hexUnit? '0' '0' (Hash.hexDigit (c.toNat / 16)) (Hash.hexDigit (c.toNat % 16)) =
      some c.toNat := by
  have hzero : hexValue? '0' = some 0 := by decide
  have hvalue : 0x10 * (c.toNat / 16) + c.toNat % 16 = c.toNat := Nat.div_add_mod _ _
  simp [hexUnit?, hzero, hexValue?_hexDigit (show c.toNat / 16 < 16 by omega),
    hexValue?_hexDigit (Nat.mod_lt c.toNat (show 0 < 16 by decide)), hvalue]

/-- A one-letter escape is read as the character that it stands for. -/
theorem readChars?_letter {letter plain : Char} (h : unescape? letter = some plain)
    (text : List Char) :
    readChars? ('\\' :: letter :: text) =
      (readChars? text).map fun (chars, after) => (some plain :: chars, after) := by
  have hletter : letter ≠ 'u' := by
    rintro rfl
    cases h
  rw [readChars?]
  · rw [h]
    cases readChars? text <;> rfl
  · intros; contradiction
  · intros; contradiction

/-- The escape of a control is read as the control. It is no half of a surrogate pair, whatever
follows. -/
theorem readChars?_control {c : Char} (h : c.toNat < 0x20) (text : List Char) :
    readChars? ('\\' :: 'u' :: '0' :: '0' :: Hash.hexDigit (c.toNat / 16) ::
        Hash.hexDigit (c.toNat % 16) :: text) =
      (readChars? text).map fun (chars, after) => (some c :: chars, after) := by
  have hscalar : scalar? c.toNat = some c := by
    have hbelow : ¬0xD800 ≤ c.toNat := by omega
    simp [scalar?, hbelow, Char.ofNat_toNat]
  have hsingle (low : Nat) : paired? c.toNat low = none := by
    have hbelow : ¬0xD800 ≤ c.toNat := by omega
    simp [paired?, hbelow]
  -- If another escape follows, it is tried as the second half of a pair first.
  by_cases hnext : ∃ e f g k rest, text = '\\' :: 'u' :: e :: f :: g :: k :: rest
  · obtain ⟨e, f, g, k, rest, rfl⟩ := hnext
    have hnone : (hexUnit? e f g k).bind (paired? c.toNat) = none := by
      cases hexUnit? e f g k with
      | none => rfl
      | some low => exact hsingle low
    rw [readChars?, hexUnit?_control h]
    simp only [Option.bind_eq_bind, Option.bind_some, hnone, hscalar]
    cases readChars? ('\\' :: 'u' :: e :: f :: g :: k :: rest) <;> rfl
  · rw [readChars?, hexUnit?_control h]
    · simp only [Option.bind_eq_bind, Option.bind_some, hscalar]
      cases readChars? text <;> rfl
    · intro e f g k rest htext
      exact hnext ⟨e, f, g, k, rest, htext⟩

/-- Any other character but quotes and backslashes is read as itself. -/
theorem readChars?_plain {c : Char} (hquote : c ≠ '"') (hslash : c ≠ '\\') (h : ¬c.toNat < 0x20)
    (text : List Char) :
    readChars? (c :: text) =
      (readChars? text).map fun (chars, after) => (some c :: chars, after) := by
  rw [readChars?]
  · have hallowed : (decide (c.toNat < 0x20) || c == '\\') = false := by simp [h, hslash]
    rw [hallowed]
    cases readChars? text <;> rfl
  all_goals intros; contradiction

/-- A character is written with a one-letter escape, with its number, or as itself. -/
theorem escapeChar_cases (c : Char) :
    (∃ letter, escapeChar c = ['\\', letter] ∧ unescape? letter = some c) ∨
    (c.toNat < 0x20 ∧ escapeChar c =
      ['\\', 'u', '0', '0', Hash.hexDigit (c.toNat / 16), Hash.hexDigit (c.toNat % 16)]) ∨
    (c ≠ '"' ∧ c ≠ '\\' ∧ ¬c.toNat < 0x20 ∧ escapeChar c = [c]) := by
  unfold escapeChar
  simp only [beq_iff_eq]
  -- One case for each of the seven characters that have a letter.
  iterate 7
    split
    · next h =>
      subst h
      exact .inl ⟨_, rfl, rfl⟩
  split
  · next hcontrol => exact .inr (.inl ⟨hcontrol, rfl⟩)
  · next hquote hslash _ _ _ _ _ hcontrol => exact .inr (.inr ⟨hquote, hslash, hcontrol, rfl⟩)

/-- A written character is read back. -/
theorem readChars?_escapeChar (c : Char) (text : List Char) :
    readChars? (escapeChar c ++ text) =
      (readChars? text).map fun (chars, after) => (some c :: chars, after) := by
  obtain ⟨letter, hescape, hletter⟩ | ⟨hcontrol, hescape⟩ | ⟨hquote, hslash, hcontrol, hescape⟩ :=
    escapeChar_cases c
  · rw [hescape]
    exact readChars?_letter hletter text
  · rw [hescape]
    exact readChars?_control hcontrol text
  · rw [hescape]
    exact readChars?_plain hquote hslash hcontrol text

/-- The written characters of a string are read back up to the closing quote. -/
theorem readChars?_flatMap_escapeChar (chars rest : List Char) :
    readChars? (chars.flatMap escapeChar ++ '"' :: rest) = some (chars.map some, rest) := by
  induction chars with
  | nil => rfl
  | cons c chars ih =>
    rw [List.flatMap_cons, List.append_assoc, readChars?_escapeChar, ih]
    rfl

/-- A written string is read back, whatever follows it. -/
theorem readString?_quote (s : String) (rest : List Char) :
    readString? (s.toList.flatMap escapeChar ++ '"' :: rest) = some (some s, rest) := by
  have hchars : (s.toList.map some).mapM id = some s.toList := by
    rw [List.mapM_map]
    exact (mapM_eq_some_map (g := id) fun c _ => rfl).trans (congrArg some (List.map_id _))
  rw [readString?, readChars?_flatMap_escapeChar]
  simp [hchars]

/-! ## Whole numbers -/

mutual

/-- Whether a value has no floating point numbers; whole numbers have at most 64 bits. -/
def isExact : Json → Bool
  | int value => -0x8000000000000000 ≤ value && value < 0x10000000000000000
  | decimal _ => false
  | arr items => exactItems items
  | obj fields => exactFields fields
  | _ => true

/-- Whether the items of an array have no floating point numbers. -/
def exactItems : List Json → Bool
  | [] => true
  | item :: rest => isExact item && exactItems rest

/-- Whether the fields of an object have no floating point numbers. -/
def exactFields : List (String × Json) → Bool
  | [] => true
  | (_, value) :: rest => isExact value && exactFields rest

end

/-- What can follow a value: nothing, a comma, a closing bracket or white space. -/
def EndsValue (rest : List Char) : Prop :=
  ∀ c, rest.head? = some c → c = ',' ∨ c = ']' ∨ c = '\x7d' ∨ isSpace c = true

/-- What can follow a value does not go on with a number. -/
theorem EndsValue.head {c : Char} {rest : List Char} (h : EndsValue (c :: rest)) :
    isAsciiDigit c = false ∧ c ≠ '.' ∧ c ≠ 'e' ∧ c ≠ 'E' := by
  rcases h c rfl with rfl | rfl | rfl | hspace
  · decide
  · decide
  · decide
  · simp only [isSpace, Bool.or_eq_true, beq_iff_eq] at hspace
    obtain ((rfl | rfl) | rfl) | rfl := hspace <;> decide

theorem isAsciiDigit_of_mem_toDigits {n : Nat} {c : Char} (h : c ∈ Nat.toDigits 10 n) :
    isAsciiDigit c = true :=
  Nat.isDigit_of_mem_toDigits (by decide) (by decide) h

/-- The digits of a number start with a digit. -/
theorem toDigits_eq_cons (n : Nat) :
    ∃ c digits, Nat.toDigits 10 n = c :: digits ∧ isAsciiDigit c = true := by
  obtain ⟨c, digits, hdigits⟩ := List.exists_cons_of_ne_nil (Nat.toDigits_ne_nil (n := n) (b := 10))
  refine ⟨c, digits, hdigits, ?_⟩
  apply isAsciiDigit_of_mem_toDigits (n := n)
  rw [hdigits]
  exact List.mem_cons_self

theorem digitsValue_toDigits (n : Nat) : digitsValue (Nat.toDigits 10 n) = n :=
  Nat.ofDigitChars_ten_toDigits

/-- The digits of a positive number do not start with zero. -/
theorem head?_toDigits_ne_zero {n : Nat} (h : 0 < n) : (Nat.toDigits 10 n).head? ≠ some '0' := by
  induction n using Nat.strongRecOn with
  | ind n ih =>
    by_cases hdigit : n < 10
    · have hall : ∀ n < 10, 0 < n → [n.digitChar].head? ≠ some '0' := by decide
      rw [Nat.toDigits_of_lt_base hdigit]
      exact hall n hdigit h
    · -- The first digit is that of the number without its last digit.
      rw [Nat.toDigits_of_base_le (by decide) (by omega),
        List.head?_append_of_ne_nil _ Nat.toDigits_ne_nil]
      exact ih (n / 10) (by omega) (by omega)

/-- Leading digits are split off in front of anything that can follow a value. -/
theorem spanDigits_append {digits rest : List Char} (hdigits : ∀ c ∈ digits, isAsciiDigit c = true)
    (hrest : EndsValue rest) : spanDigits (digits ++ rest) = (digits, rest) := by
  have hnone : rest.takeWhile isAsciiDigit = [] ∧ rest.dropWhile isAsciiDigit = rest := by
    cases rest with
    | nil => exact ⟨rfl, rfl⟩
    | cons c rest => simp [hrest.head.1]
  rw [spanDigits, List.span_eq_takeWhile_dropWhile, List.takeWhile_append_of_pos hdigits,
    List.dropWhile_append_of_pos hdigits, hnone.1, hnone.2, List.append_nil]

/-- The digits of a number are read as a number without fraction and exponent. -/
theorem readUnsigned?_toDigits (negative : Bool) (n : Nat) {rest : List Char}
    (hrest : EndsValue rest) :
    readUnsigned? negative (Nat.toDigits 10 n ++ rest) =
      some (numberOf negative (Nat.toDigits 10 n) none none, rest) := by
  have hleading : ((Nat.toDigits 10 n).isEmpty || ((Nat.toDigits 10 n).head? == some '0' &&
      decide (1 < (Nat.toDigits 10 n).length))) = false := by
    -- Zero is the one number that starts with zero, and it has no second digit.
    by_cases hzero : n = 0
    · simp [hzero]
    · simp [Nat.toDigits_ne_nil, head?_toDigits_ne_zero (Nat.pos_of_ne_zero hzero)]
  have hfraction : readFraction? rest = some (none, rest) := by
    unfold readFraction?
    split
    · exact absurd rfl hrest.head.2.1
    · rfl
  have hexponent : readExponent? rest = some (none, rest) := by
    unfold readExponent?
    split
    · exact absurd rfl hrest.head.2.2.1
    · exact absurd rfl hrest.head.2.2.2
    · rfl
  rw [readUnsigned?, spanDigits_append (fun c hc => isAsciiDigit_of_mem_toDigits hc) hrest]
  simp [hleading, hfraction, hexponent]

theorem toList_compact_ofNat (n : Nat) : (compact (.int (.ofNat n))).toList = Nat.toDigits 10 n :=
  Nat.toList_repr

theorem toList_compact_negSucc (n : Nat) :
    (compact (.int (.negSucc n))).toList = '-' :: Nat.toDigits 10 (n + 1) := by
  have htext : compact (.int (.negSucc n)) = "-" ++ (n + 1).repr := rfl
  rw [htext, String.toList_append, Nat.toList_repr]
  rfl

/-- A whole number is written with a digit or a minus at the start. -/
theorem toList_compact_int (n : Int) : ∃ c rest, (compact (.int n)).toList = c :: rest ∧
    (c = '-' ∨ isAsciiDigit c = true) := by
  cases n with
  | ofNat n =>
    obtain ⟨c, digits, hdigits, hc⟩ := toDigits_eq_cons n
    exact ⟨c, digits, (toList_compact_ofNat n).trans hdigits, .inr hc⟩
  | negSucc n => exact ⟨'-', _, toList_compact_negSucc n, .inl rfl⟩

/-- Digits of a number below `2 ^ 64` are read as this number. -/
theorem numberOf_toDigits {n : Nat} (h : n < 0x10000000000000000) :
    numberOf false (Nat.toDigits 10 n) none none = .int n := by
  have hfits : n < 1 <<< 64 := h
  simp only [numberOf, digitsValue_toDigits, hfits]
  rfl

/-- A minus and digits of a positive number up to `2 ^ 63` are read as the negative number. -/
theorem numberOf_minus_toDigits {n : Nat} (hpos : 0 < n) (h : n ≤ 0x8000000000000000) :
    numberOf true (Nat.toDigits 10 n) none none = .int (-(n : Int)) := by
  have hfits : n ≤ 1 <<< 63 := h
  simp only [numberOf, digitsValue_toDigits, hfits, hpos]
  rfl

/-- A written whole number of at most 64 bits is read back. -/
theorem readNumber?_compact {n : Int} (h : isExact (.int n) = true) {rest : List Char}
    (hrest : EndsValue rest) :
    readNumber? ((compact (.int n)).toList ++ rest) = some (.int n, rest) := by
  simp only [isExact, Bool.and_eq_true, decide_eq_true_eq] at h
  cases n with
  | ofNat n =>
    have hfits : n < 0x10000000000000000 := Int.ofNat_lt.mp h.2
    have hunsigned : readNumber? (Nat.toDigits 10 n ++ rest) =
        readUnsigned? false (Nat.toDigits 10 n ++ rest) := by
      obtain ⟨c, digits, hdigits, hc⟩ := toDigits_eq_cons n
      rw [hdigits, List.cons_append, readNumber?]
      -- A digit is no minus.
      intro after hminus
      cases hminus
      cases hc
    rw [toList_compact_ofNat, hunsigned, readUnsigned?_toDigits false n hrest,
      numberOf_toDigits hfits]
    rfl
  | negSucc n =>
    have hfits : n + 1 ≤ 0x8000000000000000 := by
      have habove := h.1
      omega
    rw [toList_compact_negSucc, List.cons_append, readNumber?, readUnsigned?_toDigits true _ hrest,
      numberOf_minus_toDigits (Nat.succ_pos n) hfits]
    rfl

/-! ## Values -/

theorem skipSpace_cons {c : Char} (h : isSpace c = false) (text : List Char) :
    skipSpace (c :: text) = c :: text := by
  simp [skipSpace, h]

theorem skipSpace_skipSpace (text : List Char) : skipSpace (skipSpace text) = skipSpace text := by
  cases hskip : skipSpace text with
  | nil => rfl
  | cons c rest =>
    refine skipSpace_cons ?_ rest
    have hhead := List.head?_dropWhile_not isSpace text
    rw [← skipSpace, hskip] at hhead
    simpa using hhead

theorem isSpace_of_isAsciiDigit {c : Char} (h : isAsciiDigit c = true) : isSpace c = false := by
  rw [Bool.eq_false_iff]
  intro hspace
  simp only [isSpace, Bool.or_eq_true, beq_iff_eq] at hspace
  obtain ((rfl | rfl) | rfl) | rfl := hspace <;> cases h

/-- White space. -/
def IsGap (gap : List Char) : Prop :=
  ∀ c ∈ gap, isSpace c = true

theorem isGap_nil : IsGap [] :=
  fun _ hc => absurd hc List.not_mem_nil

theorem IsGap.skipSpace_append {gap : List Char} (h : IsGap gap) (text : List Char) :
    skipSpace (gap ++ text) = skipSpace text :=
  List.dropWhile_append_of_pos h

/-- White space can follow a value in front of what can. -/
theorem IsGap.endsValue {gap rest : List Char} (h : IsGap gap) (hrest : EndsValue rest) :
    EndsValue (gap ++ rest) := by
  cases gap with
  | nil => exact hrest
  | cons c gap =>
    intro d hd
    cases hd
    exact .inr (.inr (.inr (h c List.mem_cons_self)))

/-! ## Written values

A text writes a value if it has its tokens in order, with white space around them.
-/

theorem toList_quote (s : String) :
    (quote s).toList = '"' :: s.toList.flatMap escapeChar ++ ['"'] :=
  String.toList_ofList

mutual

/-- A text writes a value. -/
inductive Written : Json → List Char → Prop
  | null : Written .null (compact .null).toList
  | bool (value : Bool) : Written (.bool value) (compact (.bool value)).toList
  | int {n : Int} (h : isExact (.int n) = true) : Written (.int n) (compact (.int n)).toList
  | str (s : String) : Written (.str s) (quote s).toList
  | emptyArr : Written (.arr []) ['[', ']']
  | arr {items : List Json} {text : List Char} (h : WrittenItems items text) :
    Written (.arr items) ('[' :: text ++ [']'])
  | emptyObj : Written (.obj []) ['\x7b', '\x7d']
  | obj {fields : List (String × Json)} {text : List Char} (h : WrittenFields fields text) :
    Written (.obj fields) ('\x7b' :: text ++ ['\x7d'])

/-- A text writes the items of an array, with commas between them. -/
inductive WrittenItems : List Json → List Char → Prop
  | last {item : Json} {before text after : List Char} (hbefore : IsGap before)
    (hitem : Written item text) (hafter : IsGap after) :
    WrittenItems [item] (before ++ (text ++ after))
  | cons {item : Json} {before text after : List Char} {items : List Json} {more : List Char}
    (hbefore : IsGap before) (hitem : Written item text) (hafter : IsGap after)
    (hmore : WrittenItems items more) :
    WrittenItems (item :: items) (before ++ (text ++ (after ++ ',' :: more)))

/-- A text writes the fields of an object, with commas between them. -/
inductive WrittenFields : List (String × Json) → List Char → Prop
  | last {name : String} {value : Json} {before colon text after : List Char}
    (hbefore : IsGap before) (hcolon : IsGap colon) (hvalue : Written value text)
    (hafter : IsGap after) :
    WrittenFields [(name, value)]
      (before ++ ((quote name).toList ++ ':' :: (colon ++ (text ++ after))))
  | cons {name : String} {value : Json} {before colon text after : List Char}
    {fields : List (String × Json)} {more : List Char}
    (hbefore : IsGap before) (hcolon : IsGap colon) (hvalue : Written value text)
    (hafter : IsGap after) (hmore : WrittenFields fields more) :
    WrittenFields ((name, value) :: fields)
      (before ++ ((quote name).toList ++ ':' :: (colon ++ (text ++ (after ++ ',' :: more)))))

end

/-- A written value starts with a character that is no white space and closes no array. -/
theorem Written.head {value : Json} {text : List Char} (h : Written value text) :
    ∃ c rest, text = c :: rest ∧ isSpace c = false ∧ c ≠ ']' := by
  cases h with
  | null => exact ⟨'n', _, rfl, rfl, by decide⟩
  | bool value => cases value <;> exact ⟨_, _, rfl, rfl, by decide⟩
  | @int n hexact =>
    obtain ⟨c, rest, htext, hc⟩ := toList_compact_int n
    refine ⟨c, rest, htext, ?_⟩
    rcases hc with rfl | hdigit
    · exact ⟨rfl, by decide⟩
    · refine ⟨isSpace_of_isAsciiDigit hdigit, ?_⟩
      rintro rfl
      cases hdigit
  | str s => exact ⟨'"', _, toList_quote s, rfl, by decide⟩
  | emptyArr => exact ⟨'[', _, rfl, rfl, by decide⟩
  | arr hitems => exact ⟨'[', _, rfl, rfl, by decide⟩
  | emptyObj => exact ⟨'\x7b', _, rfl, rfl, by decide⟩
  | obj hfields => exact ⟨'\x7b', _, rfl, rfl, by decide⟩

/-- So do the written items of an array, after white space. -/
theorem WrittenItems.head {items : List Json} {text : List Char} (h : WrittenItems items text)
    (tail : List Char) : ∃ c rest, skipSpace (text ++ tail) = c :: rest ∧ c ≠ ']' := by
  cases h with
  | last hbefore hitem hafter =>
    obtain ⟨c, rest, rfl, hspace, hclose⟩ := hitem.head
    exact ⟨c, _, by rw [List.append_assoc, hbefore.skipSpace_append]; exact skipSpace_cons hspace _,
      hclose⟩
  | cons hbefore hitem hafter hmore =>
    obtain ⟨c, rest, rfl, hspace, hclose⟩ := hitem.head
    exact ⟨c, _, by rw [List.append_assoc, hbefore.skipSpace_append]; exact skipSpace_cons hspace _,
      hclose⟩

/-- Written fields start with the quote of a name, after white space. -/
theorem WrittenFields.head {fields : List (String × Json)} {text : List Char}
    (h : WrittenFields fields text) (tail : List Char) :
    ∃ rest, skipSpace (text ++ tail) = '"' :: rest := by
  cases h with
  | last hbefore _ _ _ =>
    exact ⟨_, by rw [List.append_assoc, hbefore.skipSpace_append, toList_quote]; rfl⟩
  | cons hbefore _ _ _ _ =>
    exact ⟨_, by rw [List.append_assoc, hbefore.skipSpace_append, toList_quote]; rfl⟩

/-! ## Reading what is written -/

theorem readValue?_skipSpace (fuel : Nat) (text : List Char) :
    readValue? fuel (skipSpace text) = readValue? fuel text := by
  cases fuel with
  | zero => rfl
  | succ fuel => rw [readValue?, readValue?, skipSpace_skipSpace]

theorem readItems?_skipSpace (fuel : Nat) (text : List Char) :
    readItems? fuel (skipSpace text) = readItems? fuel text := by
  cases fuel with
  | zero => rfl
  | succ fuel => rw [readItems?, readItems?, readValue?_skipSpace]

theorem readFields?_skipSpace (fuel : Nat) (text : List Char) :
    readFields? fuel (skipSpace text) = readFields? fuel text := by
  cases fuel with
  | zero => rfl
  | succ fuel => rw [readFields?, readFields?, skipSpace_skipSpace]

/-- White space in front of a value does not matter. -/
theorem readValue?_gap {gap : List Char} (h : IsGap gap) (fuel : Nat) (text : List Char) :
    readValue? fuel (gap ++ text) = readValue? fuel text := by
  rw [← readValue?_skipSpace, h.skipSpace_append, readValue?_skipSpace]

/-- What starts with a digit or a minus is read as a number. -/
theorem readValue?_number (fuel : Nat) {c : Char} (hc : c = '-' ∨ isAsciiDigit c = true)
    (text : List Char) : readValue? (fuel + 1) (c :: text) = readNumber? (c :: text) := by
  have hspace : isSpace c = false := by
    rcases hc with rfl | hdigit
    · rfl
    · exact isSpace_of_isAsciiDigit hdigit
  rw [readValue?, skipSpace_cons hspace]
  split
  case h_7 => rfl
  -- The other shapes start with a letter, a quote or a bracket.
  all_goals
    next h =>
      cases h
      rcases hc with hminus | hdigit
      · cases hminus
      · cases hdigit

/-- A written string is read as this string. -/
theorem readValue?_quote (fuel : Nat) (s : String) (rest : List Char) :
    readValue? (fuel + 1) ((quote s).toList ++ rest) = some (.str (some s), rest) := by
  simp only [toList_quote, List.cons_append, List.append_assoc, List.nil_append, readValue?,
    skipSpace_cons (show isSpace '"' = false from rfl), readString?_quote, Option.map_some]

/-- An array with items is read item by item. -/
theorem readValue?_arr (fuel : Nat) {c : Char} {text rest : List Char}
    (htext : skipSpace text = c :: rest) (hclose : c ≠ ']') :
    readValue? (fuel + 1) ('[' :: text) =
      (readItems? fuel text).map fun (items, after) => (.arr items, after) := by
  rw [readValue?, skipSpace_cons (by rfl), ← readItems?_skipSpace fuel text]
  simp only [htext]
  split
  · next h =>
    cases h
    exact absurd rfl hclose
  · rfl

/-- An object with fields is read field by field. -/
theorem readValue?_obj (fuel : Nat) {text rest : List Char} (htext : skipSpace text = '"' :: rest) :
    readValue? (fuel + 1) ('\x7b' :: text) =
      (readFields? fuel text).map fun (fields, after) => (.obj fields, after) := by
  rw [readValue?, skipSpace_cons (by rfl), ← readFields?_skipSpace fuel text]
  simp only [htext]
  rfl

/-- The last item of an array ends it. -/
theorem readItems?_last {fuel : Nat} {text after rest : List Char} {form : Form}
    (hafter : IsGap after) (h : readValue? fuel text = some (form, after ++ ']' :: rest)) :
    readItems? (fuel + 1) text = some ([form], rest) := by
  rw [readItems?, h]
  simp only [hafter.skipSpace_append, skipSpace_cons (show isSpace ']' = false from rfl)]

/-- Behind a comma the next items of an array follow. -/
theorem readItems?_comma {fuel : Nat} {text after rest : List Char} {form : Form}
    (hafter : IsGap after) (h : readValue? fuel text = some (form, after ++ ',' :: rest)) :
    readItems? (fuel + 1) text =
      (readItems? fuel rest).map fun (items, after) => (form :: items, after) := by
  rw [readItems?, h]
  simp only [hafter.skipSpace_append, skipSpace_cons (show isSpace ',' = false from rfl)]

/-- The last field of an object ends it. -/
theorem readFields?_last {fuel : Nat} (name : String) {before text after rest : List Char}
    {form : Form} (hbefore : IsGap before) (hafter : IsGap after)
    (h : readValue? fuel text = some (form, after ++ '\x7d' :: rest)) :
    readFields? (fuel + 1) (before ++ ((quote name).toList ++ ':' :: text)) =
      some ([(some name, form)], rest) := by
  rw [readFields?, hbefore.skipSpace_append, toList_quote]
  simp only [List.cons_append, List.append_assoc, List.nil_append,
    skipSpace_cons (show isSpace '"' = false from rfl), readString?_quote,
    skipSpace_cons (show isSpace ':' = false from rfl), h, hafter.skipSpace_append,
    skipSpace_cons (show isSpace '\x7d' = false from rfl)]

/-- Behind a comma the next fields of an object follow. -/
theorem readFields?_comma {fuel : Nat} (name : String) {before text after rest : List Char}
    {form : Form} (hbefore : IsGap before) (hafter : IsGap after)
    (h : readValue? fuel text = some (form, after ++ ',' :: rest)) :
    readFields? (fuel + 1) (before ++ ((quote name).toList ++ ':' :: text)) =
      (readFields? fuel rest).map fun (fields, after) => ((some name, form) :: fields, after) := by
  rw [readFields?, hbefore.skipSpace_append, toList_quote]
  simp only [List.cons_append, List.append_assoc, List.nil_append,
    skipSpace_cons (show isSpace '"' = false from rfl), readString?_quote,
    skipSpace_cons (show isSpace ':' = false from rfl), h, hafter.skipSpace_append,
    skipSpace_cons (show isSpace ',' = false from rfl)]

/-! A level of nesting takes at most two steps of the readers and writes two brackets, and an item
takes one step and writes at least one character. So the length of a text bounds the steps that
reading it takes, with one step to spare for the items of an array and the fields of an object. -/

/-- Values that are written in `fuel` characters are read back in as many steps, whatever can follow
them. -/
def ReadsValues (fuel : Nat) : Prop :=
  ∀ value text, Written value text → text.length ≤ fuel → ∀ rest, EndsValue rest → ∃ form,
    readValue? fuel (text ++ rest) = some (form, rest) ∧ form.value? = some value

/-- Items written in fewer than `fuel` characters are read back up to the closing bracket. -/
def ReadsItems (fuel : Nat) : Prop :=
  ∀ items text, WrittenItems items text → text.length < fuel → ∀ rest, ∃ forms,
    readItems? fuel (text ++ ']' :: rest) = some (forms, rest) ∧
      Form.itemValues? forms = some items

/-- Fields written in fewer than `fuel` characters are read back up to the closing bracket. -/
def ReadsFields (fuel : Nat) : Prop :=
  ∀ fields text, WrittenFields fields text → text.length < fuel → ∀ rest, ∃ forms,
    readFields? fuel (text ++ '\x7d' :: rest) = some (forms, rest) ∧
      Form.fieldValues? forms = some fields

theorem ReadsValues.succ {fuel : Nat} (hitems : ReadsItems fuel) (hfields : ReadsFields fuel) :
    ReadsValues (fuel + 1) := by
  intro value text hwritten hlength rest hrest
  cases hwritten with
  | null => exact ⟨.null, rfl, rfl⟩
  | bool value => cases value <;> exact ⟨.bool _, rfl, rfl⟩
  | @int n hexact =>
    refine ⟨.int n, ?_, rfl⟩
    obtain ⟨c, text, htext, hc⟩ := toList_compact_int n
    rw [htext, List.cons_append, readValue?_number fuel hc, ← List.cons_append, ← htext]
    exact readNumber?_compact hexact hrest
  | str s => exact ⟨.str (some s), readValue?_quote fuel s rest, rfl⟩
  | emptyArr => exact ⟨.arr [], rfl, rfl⟩
  | @arr items text hwritten =>
    simp only [List.length_append, List.length_cons, List.length_nil] at hlength
    obtain ⟨forms, hread, hvalues⟩ := hitems items text hwritten (by omega) rest
    obtain ⟨c, tail, htext, hclose⟩ := hwritten.head (']' :: rest)
    refine ⟨.arr forms, ?_, by simp [Form.value?, hvalues]⟩
    rw [List.append_assoc, List.singleton_append, List.cons_append,
      readValue?_arr fuel htext hclose, hread]
    rfl
  | emptyObj => exact ⟨.obj [], rfl, rfl⟩
  | @obj fields text hwritten =>
    simp only [List.length_append, List.length_cons, List.length_nil] at hlength
    obtain ⟨forms, hread, hvalues⟩ := hfields fields text hwritten (by omega) rest
    obtain ⟨tail, htext⟩ := hwritten.head ('\x7d' :: rest)
    refine ⟨.obj forms, ?_, by simp [Form.value?, hvalues]⟩
    rw [List.append_assoc, List.singleton_append, List.cons_append, readValue?_obj fuel htext,
      hread]
    rfl

theorem ReadsItems.succ {fuel : Nat} (hvalues : ReadsValues fuel) (hitems : ReadsItems fuel) :
    ReadsItems (fuel + 1) := by
  intro items text hwritten hlength rest
  cases hwritten with
  | @last item before text after hbefore hitem hafter =>
    simp only [List.length_append] at hlength
    obtain ⟨form, hread, hform⟩ := hvalues item text hitem (by omega) (after ++ ']' :: rest)
      (hafter.endsValue (by simp [EndsValue]))
    refine ⟨[form], ?_, by simp [Form.itemValues?, hform]⟩
    rw [← readValue?_gap hbefore] at hread
    simpa only [List.append_assoc] using readItems?_last hafter hread
  | @cons item before text after items more hbefore hitem hafter hmore =>
    simp only [List.length_append, List.length_cons] at hlength
    obtain ⟨form, hread, hform⟩ := hvalues item text hitem (by omega)
      (after ++ ',' :: (more ++ ']' :: rest)) (hafter.endsValue (by simp [EndsValue]))
    obtain ⟨forms, hreads, hforms⟩ := hitems items more hmore (by omega) rest
    refine ⟨form :: forms, ?_, by simp [Form.itemValues?, hform, hforms]⟩
    rw [← readValue?_gap hbefore] at hread
    have hcomma := readItems?_comma hafter hread
    rw [hreads] at hcomma
    simpa only [List.append_assoc, List.cons_append, Option.map_some] using hcomma

theorem ReadsFields.succ {fuel : Nat} (hvalues : ReadsValues fuel) (hfields : ReadsFields fuel) :
    ReadsFields (fuel + 1) := by
  intro fields text hwritten hlength rest
  cases hwritten with
  | @last name value before colon text after hbefore hcolon hvalue hafter =>
    simp only [List.length_append, List.length_cons] at hlength
    obtain ⟨form, hread, hform⟩ := hvalues value text hvalue (by omega) (after ++ '\x7d' :: rest)
      (hafter.endsValue (by simp [EndsValue]))
    refine ⟨[(some name, form)], ?_, by simp [Form.fieldValues?, hform]⟩
    rw [← readValue?_gap hcolon] at hread
    simpa only [List.append_assoc, List.cons_append] using
      readFields?_last name hbefore hafter hread
  | @cons name value before colon text after fields more hbefore hcolon hvalue hafter hmore =>
    simp only [List.length_append, List.length_cons] at hlength
    obtain ⟨form, hread, hform⟩ := hvalues value text hvalue (by omega)
      (after ++ ',' :: (more ++ '\x7d' :: rest)) (hafter.endsValue (by simp [EndsValue]))
    obtain ⟨forms, hreads, hforms⟩ := hfields fields more hmore (by omega) rest
    refine ⟨(some name, form) :: forms, ?_, by simp [Form.fieldValues?, hform, hforms]⟩
    rw [← readValue?_gap hcolon] at hread
    have hcomma := readFields?_comma name hbefore hafter hread
    rw [hreads] at hcomma
    simpa only [List.append_assoc, List.cons_append, Option.map_some] using hcomma

/-- All that is written is read back. The readers call one another with less fuel, so the three
statements go together. -/
theorem readsValues (fuel : Nat) : ReadsValues fuel ∧ ReadsItems fuel ∧ ReadsFields fuel := by
  induction fuel with
  | zero =>
    refine ⟨?_, ?_, ?_⟩
    · intro value text hwritten hlength
      obtain ⟨c, rest, rfl, _⟩ := hwritten.head
      exact absurd hlength (Nat.not_succ_le_zero _)
    · intro items text _ hlength
      exact absurd hlength (Nat.not_lt_zero _)
    · intro fields text _ hlength
      exact absurd hlength (Nat.not_lt_zero _)
  | succ fuel ih =>
    obtain ⟨hvalues, hitems, hfields⟩ := ih
    exact ⟨.succ hitems hfields, .succ hvalues hitems, .succ hvalues hfields⟩

/-- A text that writes a value is read as this value. -/
theorem Written.read?_eq {value : Json} {text : String} (h : Written value text.toList) :
    read? text = some value := by
  obtain ⟨form, hread, hform⟩ := (readsValues (text.toList.length + 1)).1 value text.toList h
    (Nat.le_succ _) [] (by simp [EndsValue])
  rw [List.append_nil] at hread
  simp [read?, form?, formOfChars?, hread, skipSpace, hform]

end TokenAudit.Json
