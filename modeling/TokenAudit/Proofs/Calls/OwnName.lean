import TokenAudit.Proofs.Calls.Closure
import TokenAudit.Proofs.Declarations.Listed
import TokenAudit.Proofs.Declarations.Written
import TokenAudit.Proofs.Text.Tokens

/-!
# Functions that call themselves

The text of a function starts with its declaration, in which its name stands before a parenthesis
just as it does in a call. The declaration is no call: what a function calls is what is called from
its parameter list on. So a function is self-recursive only if it names itself there.

## Main definitions

* `Function.fromParams`: the text of a function from its parameter list on.
* `Function.Opens`: the parts that the text of a function opens with.

## Main results

* `exists_opens_of_mem_declarations`: how the text of a function that is listed opens.
* `Function.Opens.name_eq`: functions with one text have one name.
* `Function.Opens.callNames_body`: the calls of a function stand after its declared name.
* `selfRecursive_iff_calls_own_name`: which functions are self-recursive.
-/

namespace TokenAudit

open Text Unicode

/-- The text of a function from the parenthesis on that opens its parameter list. -/
def Function.fromParams (f : Function) : String :=
  String.ofList (f.body.toList.dropWhile (· != '('))

/-- The text of a function is the keyword, blanks, the name, perhaps blanks, the parameter list and
the rest. -/
structure Function.Opens (f : Function) (gap space params rest : List Char) : Prop where
  body_eq : f.body.toList = Header.keyword ++ (gap ++ (f.name.toList ++ (space ++ '(' :: (params ++
    ')' :: rest))))
  gap_ne_nil : gap ≠ []
  gap_blank : ∀ c ∈ gap, isBlank c = true
  name_start : f.name.toList.head?.any isNameStart = true
  name_part : ∀ c ∈ f.name.toList, isNamePart c = true
  space_blank : ∀ c ∈ space, isBlank c = true
  params_eq : f.params = String.ofList (trimChars params)
  params_free : ')' ∉ params

/-! ## Headers -/

/-- What the reader of a header asks for at the start of the text: a blank after the keyword, and
then a name. -/
theorem Header.of_read?_eq_some {text : List Char} {header : Header}
    (h : read? text = some header) :
    (splitWhile isBlank (text.drop keyword.length)).1 ≠ [] ∧
      header.name.head?.any isNameStart = true := by
  simp only [read?, guard, Option.bind_eq_bind, Option.bind_eq_some_iff] at h
  obtain ⟨_, _, _, hgap, _, hname, h⟩ := h
  have hstart : (splitWhile isBlank (text.drop keyword.length)).2.head?.any isNameStart = true := by
    by_contra hno
    rw [if_neg hno] at hname
    cases hname
  constructor
  · intro hnil
    rw [hnil] at hgap
    cases hgap
  · -- The name is the start of the text that was asked to start with one.
    generalize hnamed : (splitWhile isBlank (text.drop keyword.length)).2 = named at h hstart
    have hhead : (splitWhile isNamePart named).1.head?.any isNameStart = true := by
      cases named with
      | nil => cases hstart
      | cons c rest =>
        rw [splitWhile, List.takeWhile_cons_of_pos (isNamePart_of_isNameStart hstart)]
        exact hstart
    split at h
    case h_2 => cases h
    case h_1 =>
      rw [Option.bind_some] at h
      split at h
      case h_2 => cases h
      case h_1 =>
        rw [Option.bind_some] at h
        split at h
        case h_2 => cases h
        case h_1 =>
          cases h
          exact hhead

/-! ## How functions open -/

namespace Function.Opens

variable {f g : Function} {gap space params rest : List Char}

theorem name_ne_nil (h : f.Opens gap space params rest) : f.name.toList ≠ [] := by
  intro hnil
  have hstart := h.name_start
  rw [hnil] at hstart
  cases hstart

/-- What follows the name is not part of a word. -/
theorem space_cases (h : f.Opens gap space params rest) :
    ∃ c after, space ++ '(' :: (params ++ ')' :: rest) = c :: after ∧
      Token.isWordPart c = false := by
  cases hspace : space with
  | nil => exact ⟨'(', _, rfl, by decide⟩
  | cons c blanks =>
    exact ⟨c, _, rfl, Token.isWordPart_of_isBlank (h.space_blank c (by simp [hspace]))⟩

/-- The parenthesis of the parameter list is the first one. -/
theorem fromParams_eq (h : f.Opens gap space params rest) :
    f.fromParams = String.ofList ('(' :: (params ++ ')' :: rest)) := by
  have hfree {text : List Char} {p : Char → Bool} (htext : ∀ c ∈ text, p c = true)
      (hp : p '(' = false) : ∀ c ∈ text, (c != '(') = true := by
    intro c hc
    rw [bne_iff_ne]
    rintro rfl
    rw [htext _ hc] at hp
    cases hp
  have hkeyword : ∀ c ∈ Header.keyword, (c != '(') = true :=
    hfree (fun c => isWord_of_mem_keyword) (by decide)
  rw [fromParams, h.body_eq, List.dropWhile_append_of_pos hkeyword,
    List.dropWhile_append_of_pos (hfree h.gap_blank (by decide)),
    List.dropWhile_append_of_pos (hfree h.name_part (by decide)),
    List.dropWhile_append_of_pos (hfree h.space_blank (by decide)),
    List.dropWhile_cons_of_neg (by decide)]

/-- The name is what stands after the first blanks. -/
theorem name_eq_splitWhile (h : f.Opens gap space params rest) :
    f.name.toList =
      (splitWhile isNamePart
        (splitWhile isBlank (f.body.toList.drop Header.keyword.length)).2).1 := by
  obtain ⟨first, others, hname⟩ := List.exists_cons_of_ne_nil h.name_ne_nil
  obtain ⟨c, after, hafter, hc⟩ := h.space_cases
  have hfirst : isBlank first = false :=
    isBlank_of_isNamePart (h.name_part first (by simp [hname]))
  have hstop : isNamePart c = false :=
    Bool.eq_false_iff.mpr fun hpart =>
      Bool.eq_false_iff.mp hc (Token.isWordPart_of_isNamePart hpart)
  have hgap := splitWhile_append h.gap_blank hfirst (others ++ c :: after)
  have hrun := splitWhile_append h.name_part hstop after
  rw [h.body_eq, List.drop_left, hafter]
  rw [← List.cons_append, ← hname] at hgap
  rw [hgap, hrun]

/-- Functions with one text have one name. -/
theorem name_eq {gap' space' params' rest' : List Char} (hf : f.Opens gap space params rest)
    (hg : g.Opens gap' space' params' rest') (hbody : g.body = f.body) : g.name = f.name := by
  rw [← String.toList_inj, hf.name_eq_splitWhile, hg.name_eq_splitWhile, hbody]

/-- The first tokens of a function are the keyword and the name. -/
theorem scan_body (h : f.Opens gap space params rest) :
    Token.scan f.body.toList =
      .ident Header.keyword :: .ident f.name.toList :: Token.scan f.fromParams.toList := by
  obtain ⟨blank, blanks, hgap⟩ := List.exists_cons_of_ne_nil h.gap_ne_nil
  obtain ⟨c, after, hafter, hc⟩ := h.space_cases
  have hblank : Token.isWordPart blank = false :=
    Token.isWordPart_of_isBlank (h.gap_blank blank (by simp [hgap]))
  have hkeyword : ∀ c ∈ Header.keyword, Token.isWordPart c = true :=
    List.all_eq_true.mp (by decide)
  rw [h.body_eq, hgap, List.cons_append, Token.scan_append (by decide) hkeyword hblank,
    ← List.cons_append, ← hgap, Token.scan_blanks_append h.gap_blank, hafter,
    Token.scan_append h.name_ne_nil (fun c hc => Token.isWordPart_of_isNamePart (h.name_part c hc))
      hc, Token.ofWord_of_isNameStart h.name_start, ← hafter,
    Token.scan_blanks_append h.space_blank, h.fromParams_eq, String.toList_ofList]
  rfl

/-- The calls of a function are those from its parameter list on. -/
theorem callNames_body (h : f.Opens gap space params rest) :
    callNames f.body = callNames f.fromParams := by
  have hopened : Token.scan f.fromParams.toList =
      .punct '(' :: Token.scan (params ++ ')' :: rest) := by
    rw [h.fromParams_eq, String.toList_ofList]
    rfl
  have hcontext : callContext (some (.ident Header.keyword)) = false := by decide
  rw [callNames, callNames, h.scan_body, hopened]
  simp [callNamesFrom, hcontext]

end Function.Opens

/-- The text of a function that is listed opens with its declaration. -/
theorem exists_opens_of_mem_declarations {source : String} {f : Function}
    (h : f ∈ declarations source) : ∃ gap space params rest, f.Opens gap space params rest := by
  obtain ⟨front, text, header, -, hread, hfunction⟩ := exists_header_of_mem_declarationsFrom h
  obtain ⟨htext, gap, space, last, hspells⟩ := Header.read?_eq_some hread
  obtain ⟨hgap, hname⟩ := Header.of_read?_eq_some hread
  rw [Header.function?_eq_map, Option.map_eq_some_iff] at hfunction
  obtain ⟨tail, -, rfl⟩ := hfunction
  refine ⟨gap, space, header.params, header.modifiers ++ last :: tail, ?_, ?_, hspells.gap_blank,
    ?_, ?_, hspells.space_blank, rfl, fun hmem => ?_⟩
  · simp [Header.functionOf, hspells.chars_eq]
  · -- Blanks are read up to the name, so they are those of the gap.
    have hne : header.name ≠ [] := by
      intro hnil
      rw [hnil] at hname
      cases hname
    obtain ⟨first, others, hheader⟩ := List.exists_cons_of_ne_nil hne
    have hblank : isBlank first = false :=
      isBlank_of_isNamePart (hspells.name_part first (by simp [hheader]))
    have hdrop : ∃ after, text.drop Header.keyword.length = gap ++ first :: after := by
      rw [htext, hspells.chars_eq, hheader]
      simp
    obtain ⟨after, hdrop⟩ := hdrop
    rwa [hdrop, splitWhile_append hspells.gap_blank hblank] at hgap
  · simpa [Header.functionOf] using hname
  · simpa [Header.functionOf] using hspells.name_part
  · exact hspells.params_free _ hmem (by simp)

/-! ## Self-recursion -/

/-- The text of a function that is listed is its declaration, from the keyword to the name, and what
stands from its parameter list on. Its calls are those of the latter, so it is self-recursive
exactly if it calls its own name there, and every function that it calls there has the same text. -/
theorem selfRecursive_iff_calls_own_name {source : String} {f : Function}
    (hf : f ∈ declarations source) :
    (∃ gap space params rest, f.Opens gap space params rest ∧
      f.fromParams = String.ofList ('(' :: (params ++ ')' :: rest))) ∧
    callNames f.body = callNames f.fromParams ∧
    (resolveCalls f.body (declarations source) = .selfRecursive ↔
      f.name ∈ callNames f.fromParams ∧
        ∀ g ∈ declarations source, g.name ∈ callNames f.fromParams → g.body = f.body) := by
  obtain ⟨gap, space, params, rest, hopens⟩ := exists_opens_of_mem_declarations hf
  refine ⟨⟨gap, space, params, rest, hopens, hopens.fromParams_eq⟩, hopens.callNames_body, ?_⟩
  rw [resolveCalls_eq_selfRecursive_iff, ← hopens.callNames_body]
  constructor
  · rintro ⟨⟨callee, g, hg, hname, hbody⟩, hback⟩
    refine ⟨?_, fun other hother hcalled => hback _ ⟨other, hother, hcalled, rfl⟩⟩
    -- The function that is called has the text of the caller, and so its name.
    have hsame : g.body = f.body := hbody.trans (hback callee ⟨g, hg, hname, hbody⟩)
    obtain ⟨_, _, _, _, hopens'⟩ := exists_opens_of_mem_declarations hg
    rwa [← hopens.name_eq hopens' hsame]
  · rintro ⟨hname, hback⟩
    refine ⟨⟨f.body, f, hf, hname, rfl⟩, ?_⟩
    rintro callee ⟨g, hg, hcalled, rfl⟩
    exact hback g hg hcalled

/-- A function that calls itself, with blanks beyond ASCII around its name. -/
def ownCaller : Function where
  name := "f"
  params := "uint x"
  modifiers := ""
  start := 0
  stop := 32
  body := "function\u3000f\u00A0(uint x) \x7b f(x); \x7d"
  isImplementation := true
  parameters := .empty

/-- A function whose name stands before a parenthesis only in its declaration. -/
def noCaller : Function where
  name := "g"
  params := ""
  modifiers := ""
  start := 33
  stop := 50
  body := "function g() \x7bg;\x7d"
  isImplementation := true
  parameters := .empty

/-- Of the two functions only the first one is self-recursive. -/
theorem selfRecursive_iff_calls_own_name_two :
    let source := "function\u3000f\u00A0(uint x) \x7b f(x); \x7d function g() \x7bg;\x7d"
    ownCaller ∈ declarations source ∧ noCaller ∈ declarations source ∧
      resolveCalls ownCaller.body (declarations source) = .selfRecursive ∧
      resolveCalls noCaller.body (declarations source) ≠ .selfRecursive := by
  intro source
  have hlisted : declarations source = [ownCaller, noCaller] := by decide +kernel
  have hown : ownCaller ∈ declarations source := by simp [hlisted]
  have hno : noCaller ∈ declarations source := by simp [hlisted]
  have hcalls : callNames ownCaller.fromParams = ["f"] := by decide +kernel
  have hnone : callNames noCaller.fromParams = [] := by decide +kernel
  refine ⟨hown, hno, (selfRecursive_iff_calls_own_name hown).2.2.mpr ?_, fun hself => ?_⟩
  · rw [hcalls, hlisted]
    decide +kernel
  · have hname := ((selfRecursive_iff_calls_own_name hno).2.2.mp hself).1
    rw [hnone] at hname
    cases hname

end TokenAudit
