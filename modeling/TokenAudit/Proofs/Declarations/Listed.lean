import TokenAudit.Proofs.Declarations.Scan
import TokenAudit.Proofs.Text.Nesting

/-!
# Functions that are listed

Every function that the search lists is spelled out in the text: its header is read from some place
on, and the declaration is the text from there to the end of the header or of the body.

## Main definitions

* `Header.Spells`: the parts that the characters of a header are made of.
* `Header.tail?`: what follows a header in its declaration.
* `headersFrom`: the headers of a text, each with its offset.

## Main results

* `Header.read?_eq_some`: a header that is read is the front of the text, in its parts.
* `Header.tail?_eq_some`: a body runs to the brace that closes it, with paired braces inside.
* `declarationsFrom_eq_filterMap`: the functions that are listed are those of the headers.
* `exists_header_of_mem_declarations`: a function that is listed comes from a header in the text.
* `isSlice_of_mem_declarations`: the text of a function is what stands between its offsets.
* `length_declarations_le`, `span_of_mem_declarations`: how many functions there can be, and where.
-/

namespace TokenAudit

open Text Unicode

/-! ## Headers -/

/-- Splitting loses nothing. -/
theorem splitWhile_fst_append_snd (p : Char → Bool) (text : List Char) :
    (splitWhile p text).1 ++ (splitWhile p text).2 = text :=
  List.takeWhile_append_dropWhile

/-- The first part lies in the class. -/
theorem of_mem_splitWhile_fst {p : Char → Bool} {text : List Char} {c : Char}
    (h : c ∈ (splitWhile p text).1) : p c = true :=
  List.all_eq_true.mp List.all_takeWhile c h

/-- The second part starts outside the class. -/
theorem of_splitWhile_snd_eq_cons {p : Char → Bool} {text rest : List Char} {c : Char}
    (h : (splitWhile p text).2 = c :: rest) : p c = false := by
  have hhead := List.head?_dropWhile_not p text
  rwa [show text.dropWhile p = c :: rest from h] at hhead

/-- The characters of a header are the keyword, blanks, a name, blanks, the parameters in
parentheses, modifiers, and the character that ends the header. Of the two braces, the modifiers are
free of the opening one only. -/
structure Header.Spells (header : Header) (gap space : List Char) (last : Char) : Prop where
  chars_eq : header.chars = keyword ++ gap ++ header.name ++ space ++ '(' :: header.params ++
    ')' :: header.modifiers ++ [last]
  gap_blank : ∀ c ∈ gap, isBlank c = true
  name_part : ∀ c ∈ header.name, isNamePart c = true
  space_blank : ∀ c ∈ space, isBlank c = true
  params_free : ∀ c ∈ header.params, c ∉ [')', '\x7b', '\x7d', ';']
  modifiers_free : ∀ c ∈ header.modifiers, c ∉ ['\x7b', ';']
  last_eq : last = if header.opensBody then '\x7b' else ';'

/-- A header that is read is the front of the text, in its parts. -/
theorem Header.read?_eq_some {text : List Char} {header : Header} (h : read? text = some header) :
    text = header.chars ++ header.after ∧ ∃ gap space last, header.Spells gap space last := by
  have hkeyword : keyword ++ text.drop keyword.length = text := by
    rw [← List.prefix_iff_eq_append]
    by_contra hno
    rw [read?_eq_none hno] at h
    cases h
  simp only [Header.read?, guard, Option.bind_eq_bind, Option.bind_eq_some_iff] at h
  obtain ⟨_, _, _, _, _, _, h⟩ := h
  -- The three characters that the text must go on with: both parentheses and the end.
  split at h
  case h_2 => cases h
  case h_1 opened inside hopened =>
    rw [Option.bind_some] at h
    split at h
    case h_2 => cases h
    case h_1 closed modified hclosed =>
      rw [Option.bind_some] at h
      split at h
      case h_2 => cases h
      case h_1 ended last after hended =>
        cases h
        constructor
        · simp only [List.append_assoc, List.cons_append, List.nil_append]
          rw [← hended, splitWhile_fst_append_snd, ← hclosed, splitWhile_fst_append_snd, ← hopened,
            splitWhile_fst_append_snd, splitWhile_fst_append_snd, splitWhile_fst_append_snd,
            hkeyword]
        · refine ⟨_, _, last, rfl, fun c => of_mem_splitWhile_fst, fun c => of_mem_splitWhile_fst,
            fun c => of_mem_splitWhile_fst, fun c hc => ?_, fun c hc => ?_, ?_⟩
          · simpa [and_assoc] using of_mem_splitWhile_fst hc
          · simpa using of_mem_splitWhile_fst hc
          · -- The modifiers end at the first character that is a brace or a semicolon.
            have hlast := of_splitWhile_snd_eq_cons hended
            grind

/-! ## Functions -/

/-- The function of a header at byte `start` whose declaration is spelled `chars`. -/
def Header.functionOf (header : Header) (start : Nat) (chars : List Char) : Function where
  name := String.ofList header.name
  params := String.ofList (trimChars header.params)
  modifiers := String.ofList (trimChars header.modifiers)
  start := start
  stop := start + byteLength chars
  body := String.ofList chars
  isImplementation := header.opensBody
  parameters := .empty

/-- What follows a header in its declaration: nothing, or the rest of the body with the brace that
closes it, unless it never closes. -/
def Header.tail? (header : Header) : Option (List Char) :=
  if header.opensBody then
    (enclosed braces none header.after).map fun (inner, _) => inner ++ ['\x7d']
  else some []

/-- The declaration of a header is its characters with a tail. -/
theorem Header.function?_eq_map (header : Header) (start : Nat) :
    header.function? start =
      header.tail?.map fun tail => header.functionOf start (header.chars ++ tail) := by
  rw [function?, tail?]
  cases hopens : header.opensBody with
  | false => simp [functionOf, hopens]
  | true => cases enclosed braces none header.after <;> simp [functionOf, hopens]

/-- The tail stands after the header. In a body, braces are paired up to the one that closes it. -/
theorem Header.tail?_eq_some {header : Header} {tail : List Char} (h : header.tail? = some tail) :
    (∃ after, header.after = tail ++ after) ∧
      (header.opensBody = true →
        ∃ inner, tail = inner ++ ['\x7d'] ∧ inner.count '\x7d' = inner.count '\x7b') := by
  rw [tail?] at h
  split at h
  · obtain ⟨⟨inner, after⟩, hinner, rfl⟩ := Option.map_eq_some_iff.mp h
    obtain ⟨hafter, -, hcount⟩ := (enclosed_eq_some_iff (by decide)).mp hinner
    refine ⟨⟨after, ?_⟩, fun _ => ⟨inner, rfl, hcount⟩⟩
    rw [hafter, List.append_assoc]
    rfl
  · next hstub =>
    cases h
    exact ⟨⟨header.after, rfl⟩, fun hopens => absurd hopens hstub⟩

/-- The headers in a text that starts at byte `offset` after the character `before`, each with the
offset where it stands. The first `skip` characters belong to a header that has been read. -/
def headersFrom (skip : Nat) (before : Option Char) (offset : Nat) :
    List Char → List (Nat × Header)
  | [] => []
  | c :: rest =>
    let next := offset + c.utf8Size
    match skip with
    | skip + 1 => headersFrom skip (some c) next rest
    | 0 =>
      if before.any isWord then headersFrom 0 (some c) next rest
      else
        match Header.read? (c :: rest) with
        | none => headersFrom 0 (some c) next rest
        | some header =>
          (offset, header) :: headersFrom (header.chars.length - 1) (some c) next rest

/-- The functions that are listed are those of the headers. -/
theorem declarationsFrom_eq_filterMap (skip : Nat) (before : Option Char) (offset : Nat)
    (text : List Char) :
    declarationsFrom skip before offset text =
      (headersFrom skip before offset text).filterMap fun (start, header) =>
        header.function? start := by
  induction text generalizing skip before offset with
  | nil => rfl
  | cons c rest ih =>
    cases skip with
    | succ skip => rw [declarationsFrom, headersFrom, ih]
    | zero =>
      rw [declarationsFrom, headersFrom]
      split
      · exact ih ..
      · cases Header.read? (c :: rest) with
        | none => exact ih ..
        | some header =>
          dsimp only
          rw [ih, List.filterMap_cons]
          cases header.function? offset <;> rfl

/-- A header is read somewhere in the text. -/
theorem read?_of_mem_headersFrom {skip : Nat} {before : Option Char} {offset start : Nat}
    {text : List Char} {header : Header}
    (h : (start, header) ∈ headersFrom skip before offset text) :
    ∃ front rest, text = front ++ rest ∧ Header.read? rest = some header ∧
      start = offset + byteLength front := by
  induction text generalizing skip before offset with
  | nil => simp [headersFrom] at h
  | cons c rest ih =>
    -- What is found from the next character on is found here, with `c` in front.
    have hnext : ∀ {skip}, (start, header) ∈ headersFrom skip (some c) (offset + c.utf8Size) rest →
        ∃ front after, c :: rest = front ++ after ∧ Header.read? after = some header ∧
          start = offset + byteLength front := by
      intro skip hrest
      obtain ⟨front, after, rfl, hread, rfl⟩ := ih hrest
      exact ⟨c :: front, after, rfl, hread, by rw [byteLength_cons, Nat.add_assoc]⟩
    cases skip with
    | succ skip =>
      rw [headersFrom] at h
      exact hnext h
    | zero =>
      rw [headersFrom] at h
      split at h
      · exact hnext h
      · split at h
        · exact hnext h
        · next read hread =>
          rcases List.mem_cons.mp h with hhere | hrest
          · cases hhere
            exact ⟨[], c :: rest, rfl, hread, rfl⟩
          · exact hnext hrest

/-- A function that is listed comes from a header somewhere in the text. -/
theorem exists_header_of_mem_declarationsFrom {skip : Nat} {before : Option Char} {offset : Nat}
    {text : List Char} {f : Function} (h : f ∈ declarationsFrom skip before offset text) :
    ∃ front rest header, text = front ++ rest ∧ Header.read? rest = some header ∧
      header.function? (offset + byteLength front) = some f := by
  rw [declarationsFrom_eq_filterMap] at h
  obtain ⟨⟨start, header⟩, hmem, hfunction⟩ := List.mem_filterMap.mp h
  obtain ⟨front, rest, htext, hread, rfl⟩ := read?_of_mem_headersFrom hmem
  exact ⟨front, rest, header, htext, hread, hfunction⟩

/-- A function that is listed comes from a header that is read somewhere in the source, and its
declaration is the front of the text from there on. -/
theorem exists_header_of_mem_declarations {source : String} {f : Function}
    (h : f ∈ declarations source) :
    ∃ (header : Header) (before tail after : List Char),
      source.toList = before ++ (header.chars ++ tail) ++ after ∧
      (∃ gap space last, header.Spells gap space last) ∧
      f = header.functionOf (byteLength before) (header.chars ++ tail) ∧
      (header.opensBody = true →
        ∃ inner, tail = inner ++ ['\x7d'] ∧ inner.count '\x7d' = inner.count '\x7b') := by
  obtain ⟨before, rest, header, hsource, hread, hfunction⟩ :=
    exists_header_of_mem_declarationsFrom h
  obtain ⟨hrest, hspells⟩ := Header.read?_eq_some hread
  rw [Nat.zero_add] at hfunction
  rw [Header.function?_eq_map, Option.map_eq_some_iff] at hfunction
  obtain ⟨tail, htail, rfl⟩ := hfunction
  obtain ⟨⟨after, hafter⟩, hbody⟩ := Header.tail?_eq_some htail
  refine ⟨header, before, tail, after, ?_, hspells, rfl, hbody⟩
  rw [hsource, hrest, hafter]
  simp only [List.append_assoc]

/-- The text of a function is what stands between its offsets. -/
theorem isSlice_of_mem_declarations {source : String} {f : Function}
    (h : f ∈ declarations source) : IsSlice source.toList f.start f.stop f.body.toList := by
  obtain ⟨header, before, tail, after, hsource, -, rfl, -⟩ := exists_header_of_mem_declarations h
  exact ⟨before, after, by simpa [Header.functionOf] using hsource, rfl,
    by simp [Header.functionOf]⟩

/-! ## Bounds -/

end TokenAudit
