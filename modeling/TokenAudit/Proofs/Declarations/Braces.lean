import TokenAudit.Proofs.Declarations.Listed
import TokenAudit.Proofs.Text.Words

/-!
# Braces of a declaration

A body is closed by the brace that belongs to the one that opens it, so its braces are paired. The
head of the declaration may hold closing braces of its own, among the modifiers, and these are all
that the declaration has in excess.

## Main results

* `count_closer_eq_of_mem_declarations`: the closing braces of a function with a body are as many as
  the opening ones and those among the modifiers.
* `declarations_braces_paired_iff`: the braces of a function with a body are paired exactly if no
  brace stands among the modifiers.
-/

namespace TokenAudit

open Text Unicode

namespace Header.Spells

variable {header : Header} {gap space : List Char} {last : Char}

/-- The parts of a header before the modifiers hold no brace. -/
theorem count_front {c : Char} (h : header.Spells gap space last) (hc : c ∈ ['\x7b', '\x7d']) :
    (keyword ++ gap ++ header.name ++ space ++ '(' :: header.params ++ [')']).count c = 0 := by
  -- Each part lies in a class of characters that has neither brace.
  obtain ⟨hkeyword, hblank, hpart, hparens⟩ : keyword.count c = 0 ∧ isBlank c = false ∧
      isNamePart c = false ∧ ['(', ')'].count c = 0 := by
    rcases List.mem_pair.mp hc with rfl | rfl <;> decide
  have hparams : header.params.count c = 0 := by
    refine List.count_eq_zero.mpr fun hmem => h.params_free c hmem ?_
    rcases List.mem_pair.mp hc with rfl | rfl <;> decide
  simp only [List.count_append, List.count_cons, List.count_nil, hkeyword, hparams,
    count_eq_zero_of_forall h.gap_blank hblank, count_eq_zero_of_forall h.name_part hpart,
    count_eq_zero_of_forall h.space_blank hblank] at hparens ⊢
  omega

/-- The braces of a header stand among its modifiers and at its end. -/
theorem count_chars {c : Char} (h : header.Spells gap space last) (hc : c ∈ ['\x7b', '\x7d']) :
    header.chars.count c = header.modifiers.count c + [last].count c := by
  have hfront := h.count_front hc
  have hchars : header.chars =
      (keyword ++ gap ++ header.name ++ space ++ '(' :: header.params ++ [')']) ++
        (header.modifiers ++ [last]) := by
    simp [h.chars_eq]
  rw [hchars, List.count_append, hfront, List.count_append, Nat.zero_add]

/-- A header that opens a body has one opening brace, its last character. -/
theorem count_opener (h : header.Spells gap space last) (hopens : header.opensBody = true) :
    header.chars.count '\x7b' = 1 := by
  have hmodifiers : header.modifiers.count '\x7b' = 0 :=
    List.count_eq_zero.mpr fun hmem => h.modifiers_free _ hmem (by decide)
  rw [h.count_chars (by decide), hmodifiers, h.last_eq, hopens]
  rfl

/-- The closing braces of a header that opens a body are those of its modifiers. -/
theorem count_closer (h : header.Spells gap space last) (hopens : header.opensBody = true) :
    header.chars.count '\x7d' = header.modifiers.count '\x7d' := by
  rw [h.count_chars (by decide), h.last_eq, hopens]
  rfl

end Header.Spells

/-- The closing braces of a function with a body are as many as the opening ones and those among the
modifiers. -/
theorem count_closer_eq_of_mem_declarations {source : String} {f : Function}
    (hf : f ∈ declarations source) (hbody : f.isImplementation = true) :
    f.body.toList.count '\x7d' = f.body.toList.count '\x7b' + f.modifiers.toList.count '\x7d' := by
  obtain ⟨header, before, tail, after, -, ⟨gap, space, last, hspells⟩, rfl, htail⟩ :=
    exists_header_of_mem_declarations hf
  have hopens : header.opensBody = true := hbody
  obtain ⟨inner, rfl, hinner⟩ := htail hopens
  -- The brace that opens the body and the one that closes it make a pair.
  simp only [Header.functionOf, String.toList_ofList, List.count_append,
    hspells.count_opener hopens, hspells.count_closer hopens, count_trimChars (c := '\x7d') rfl, hinner]
  have hlast : ['\x7d'].count '\x7d' = 1 ∧ ['\x7d'].count '\x7b' = 0 := by decide
  omega

/-- The text between the offsets of a function with a body has as many opening as closing braces
exactly if no closing brace stands between its parameter list and its body. -/
theorem declarations_braces_paired_iff {source : String} {f : Function}
    (hf : f ∈ declarations source) (hbody : f.isImplementation = true) :
    IsSlice source.toList f.start f.stop f.body.toList ∧
      (f.body.toList.count '\x7b' = f.body.toList.count '\x7d' ↔
        '\x7d' ∉ f.modifiers.toList) := by
  refine ⟨isSlice_of_mem_declarations hf, ?_⟩
  rw [← List.count_eq_zero, count_closer_eq_of_mem_declarations hf hbody]
  omega

/-- A function whose body holds a block, after a character of two bytes. -/
def nestedFunction : Function :=
  ⟨"f", "", "public", 3, 28, "function f() public \x7b\x7b\x7d \x7d", true, .empty⟩

/-- The braces of a block in a body are paired like those of the body. -/
theorem declarations_braces_paired_nested :
    nestedFunction ∈ declarations "é function f() public \x7b\x7b\x7d \x7d" ∧
      IsSlice "é function f() public \x7b\x7b\x7d \x7d".toList 3 28 nestedFunction.body.toList ∧
      (nestedFunction.body.toList.count '\x7b' = nestedFunction.body.toList.count '\x7d' ↔
        '\x7d' ∉ nestedFunction.modifiers.toList) := by
  have hlisted : nestedFunction ∈ declarations "é function f() public \x7b\x7b\x7d \x7d" := by
    decide +kernel
  exact ⟨hlisted, declarations_braces_paired_iff hlisted rfl⟩

/-- A comment that mentions a function takes the end of one block and the start of the next for a
head, and the braces of what is listed are not paired. -/
theorem declarations_braces_unpaired_comment :
    ∃ f ∈ declarations "contract A \x7b /* function f() */ \x7d contract B \x7b \x7d",
      f.isImplementation = true ∧ f.body.toList.count '\x7b' ≠ f.body.toList.count '\x7d' := by
  decide +kernel

end TokenAudit
