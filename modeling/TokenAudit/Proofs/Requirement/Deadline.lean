import TokenAudit.Proofs.Pattern.Spacing
import TokenAudit.Requirement.Permit

/-!
# Guards on the deadline that state the opposite

A `require` that the deadline has passed, or an `if` before a `revert` that it has not, lets expired
permits through. The comparisons among such guards are never counted. The calls are counted in one
case: the rules look for `isValid(` and `isExpired(` wherever they stand, so they find them behind a
negation too.

## Main definitions

* `Permit.expiredForms`, `Permit.liveForms`: how guards state that the deadline has passed, or not.
* `Permit.oppositeForms`: what a guard must not state.

## Main results

* `Permit.anyMatch_deadlineRules_iff`: which opposite statements meet the rules.
* `Permit.deadline_of_opposite_guards`: when a permit with only such guards passes.
-/

namespace TokenAudit.Permit

open Pattern
open Written (Part Spaced letters unspaced patternOf)

/-! ## Statements about the deadline -/

/-- The tokens of statements that the deadline has passed. -/
def expiredForms (deadline : String) : List (List String) :=
  [[deadline, "<", "block", ".", "timestamp"], ["block", ".", "timestamp", ">", deadline],
   ["isExpired", "(", deadline, ")"], ["!", "isValid", "(", deadline, ")"]]

/-- The tokens of statements that the deadline has not passed. -/
def liveForms (deadline : String) : List (List String) :=
  [[deadline, ">=", "block", ".", "timestamp"], ["block", ".", "timestamp", "<=", deadline],
   ["!", "isExpired", "(", deadline, ")"], ["isValid", "(", deadline, ")"]]

/-- The statements that a guard of the given shape must not make. -/
def oppositeForms (deadline : String) : GuardKind → List (List String)
  | .require => expiredForms deadline
  | .ifRevert => liveForms deadline

/-- The call that is found behind a negation. -/
def deniedCall : GuardKind → String
  | .require => "isValid"
  | .ifRevert => "isExpired"

/-! ## What the rules find -/

/-- The parts of a call with one argument. -/
def callParts (function argument : String) : List Part :=
  [.text function, .text "(", .blanks, .text argument, .blanks, .text ")"]

theorem callOf_eq (function argument : String) :
    callOf function argument = patternOf (callParts function argument) :=
  rfl

theorem infix_of_isMatch_callOf {function argument : String} {text : List Char}
    (hfunction : BlankFree function) (hargument : BlankFree argument)
    (h : (callOf function argument).isMatch text = true) :
    function.toList ++ '(' :: (argument.toList ++ [')']) <:+: unspaced text := by
  have hletters : letters (callParts function argument) =
      function.toList ++ '(' :: (argument.toList ++ [')']) := by
    simp [letters, callParts, Part.letters]
  have hopen : BlankFree "(" := by decide
  have hclose : BlankFree ")" := by decide
  rw [← hletters]
  exact Written.letters_infix_of_isMatch ⟨hfunction, hopen, hargument, hclose, True.intro⟩ h

theorem infix_of_isMatch_compare {left sign right : String} {text : List Char}
    (hleft : BlankFree left) (hsign : BlankFree sign) (hright : BlankFree right)
    (h : (comparing (lit left) sign (lit right)).isMatch text = true) :
    left.toList ++ (sign.toList ++ right.toList) <:+: unspaced text :=
  Written.infix_of_isMatch_comparison hleft hsign hright h

/-- A call is found in another only if its name ends what stands before the parenthesis. -/
theorem suffix_of_isMatch_callOf {function deadline : String} {front : List String}
    {content : List Char} (hfunction : BlankFree function) (hd : IsIdentifier deadline)
    (hfree : ∀ token ∈ front, BlankFree token) (hparen : '(' ∉ front.flatMap String.toList)
    (h : Spaced (front ++ ["(", deadline, ")"]) content)
    (hmatch : (callOf function deadline).isMatch content = true) :
    function.toList <:+ front.flatMap String.toList := by
  have hinfix := infix_of_isMatch_callOf hfunction hd.blankFree hmatch
  have htokens : ∀ token ∈ front ++ ["(", deadline, ")"], BlankFree token := by
    simp only [List.forall_mem_append, List.forall_mem_cons]
    exact ⟨hfree, by decide, hd.blankFree, by decide, List.forall_mem_nil _⟩
  have hargument : '(' ∉ deadline.toList ++ [')'] := by
    simpa using hd.notMem (by decide) (by decide)
  have hletters : ["(", deadline, ")"].flatMap String.toList =
      '(' :: (deadline.toList ++ [')']) := by
    simp
  rw [h.unspaced_eq htokens, List.flatMap_append, hletters] at hinfix
  exact (Text.suffix_prefix_of_infix [] hparen hargument hinfix).1

/-- What stands before the parenthesis in the opposite statements that are calls. -/
def callFronts : GuardKind → List (List String)
  | .require => [["isExpired"], ["!", "isValid"]]
  | .ifRevert => [["!", "isExpired"], ["isValid"]]

theorem blankFree_of_mem_oppositeForms {deadline : String} (hd : BlankFree deadline)
    {kind : GuardKind} : ∀ form ∈ oppositeForms deadline kind, ∀ token ∈ form, BlankFree token := by
  cases kind <;>
    simp only [oppositeForms, expiredForms, liveForms, List.forall_mem_cons, hd, true_and] <;>
    decide

/-- A call is found in an opposite statement only if that is a call too. -/
theorem front_of_isMatch_callOf {function deadline : String} (hfunction : BlankFree function)
    (hd : IsIdentifier deadline) {kind : GuardKind} {form : List String}
    (hform : form ∈ oppositeForms deadline kind) {content : List Char} (h : Spaced form content)
    (hmatch : (callOf function deadline).isMatch content = true) :
    ∃ front ∈ callFronts kind, form = front ++ ["(", deadline, ")"] ∧
      function.toList <:+ front.flatMap String.toList := by
  have hparen : '(' ∈ form.flatMap String.toList := by
    rw [← h.unspaced_eq (blankFree_of_mem_oppositeForms hd.blankFree form hform)]
    exact (infix_of_isMatch_callOf hfunction hd.blankFree hmatch).subset (by simp)
  have hnone : '(' ∉ deadline.toList := hd.notMem (by decide) (by decide)
  have hfront : ∃ front ∈ callFronts kind, form = front ++ ["(", deadline, ")"] := by
    cases kind <;>
      simp only [oppositeForms, expiredForms, liveForms, List.mem_cons, List.not_mem_nil,
        or_false] at hform <;>
      rcases hform with rfl | rfl | rfl | rfl <;>
      simp [hnone, callFronts] at hparen ⊢
  obtain ⟨front, hfront, rfl⟩ := hfront
  have hfree : ∀ kind, ∀ front ∈ callFronts kind,
      (∀ token ∈ front, BlankFree token) ∧ '(' ∉ front.flatMap String.toList := by
    intro kind
    cases kind <;> decide
  obtain ⟨htokens, hfrontParen⟩ := hfree kind front hfront
  exact ⟨front, hfront, rfl,
    suffix_of_isMatch_callOf hfunction hd htokens hfrontParen h hmatch⟩

/-- No comparison among the rules is found in an opposite statement: the sign is missing, or what
stands around it is not what the rule asks for. -/
theorem not_isMatch_compare {deadline : String} (hd : IsIdentifier deadline) {kind : GuardKind}
    {form : List String} (hform : form ∈ oppositeForms deadline kind) {content : List Char}
    (h : Spaced form content) {p : Pattern}
    (hp : p ∈ (deadlineRules deadline kind).take 2) : p.isMatch content = false := by
  have hletters := h.unspaced_eq (blankFree_of_mem_oppositeForms hd.blankFree form hform)
  have hfree := hd.blankFree
  have hequal : '=' ∉ deadline.toList := hd.notMem (by decide) (by decide)
  have hless : '<' ∉ deadline.toList := hd.notMem (by decide) (by decide)
  have hgreater : '>' ∉ deadline.toList := hd.notMem (by decide) (by decide)
  have hdot : '.' ∉ deadline.toList := hd.notMem (by decide) (by decide)
  rw [Bool.eq_false_iff]
  intro hmatch
  cases kind with
  | require =>
    -- Both rules ask for a sign with an equals mark, and no statement of expiry has one.
    have hmem : '=' ∈ form.flatMap String.toList := by
      rw [← hletters]
      rcases List.mem_pair.mp hp with rfl | rfl
      · exact (infix_of_isMatch_compare hfree (by decide) (by decide) hmatch).subset (by simp)
      · exact (infix_of_isMatch_compare (by decide) (by decide) hfree hmatch).subset (by simp)
    simp only [oppositeForms, expiredForms, List.mem_cons, List.not_mem_nil, or_false] at hform
    rcases hform with rfl | rfl | rfl | rfl <;> simp [hequal] at hmem
  | ifRevert =>
    -- The signs asked for start the signs of the statements, so the sides have to be compared.
    simp only [oppositeForms, liveForms, List.mem_cons, List.not_mem_nil, or_false] at hform
    rcases List.mem_pair.mp hp with rfl | rfl
    · have hinfix := infix_of_isMatch_compare hfree (by decide) (by decide) hmatch
      rw [hletters] at hinfix
      have hmem : '<' ∈ form.flatMap String.toList := hinfix.subset (by simp)
      rcases hform with rfl | rfl | rfl | rfl
      · simp [hless] at hmem
      · have hfront : '<' ∉ "block.timestamp".toList := by decide
        have hback : '<' ∉ '=' :: deadline.toList := by simpa using hless
        have hsplit : deadline.toList ++ '<' :: ([] ++ "block.timestamp".toList) <:+:
            "block.timestamp".toList ++ '<' :: ([] ++ '=' :: deadline.toList) := by
          simpa using hinfix
        obtain ⟨-, hstart⟩ := Text.suffix_prefix_of_infix [] hfront hback hsplit
        simp at hstart
      · simp [hless] at hmem
      · simp [hless] at hmem
    · have hinfix := infix_of_isMatch_compare (by decide) (by decide) hfree hmatch
      rw [hletters] at hinfix
      have hmem : '>' ∈ form.flatMap String.toList := hinfix.subset (by simp)
      rcases hform with rfl | rfl | rfl | rfl
      · have hback : '>' ∉ '=' :: "block.timestamp".toList := by decide
        have hsplit : "block.timestamp".toList ++ '>' :: ([] ++ deadline.toList) <:+:
            deadline.toList ++ '>' :: ([] ++ '=' :: "block.timestamp".toList) := by
          simpa using hinfix
        obtain ⟨hend, -⟩ := Text.suffix_prefix_of_infix [] hgreater hback hsplit
        exact hdot (hend.subset (by simp))
      · simp [hgreater] at hmem
      · simp [hgreater] at hmem
      · simp [hgreater] at hmem

/-- The functions whose calls the rules look for. -/
def ruleCalls : GuardKind → List String
  | .require => ["!isExpired", "isValid"]
  | .ifRevert => ["isExpired", "!isValid"]

theorem drop_deadlineRules (deadline : String) (kind : GuardKind) :
    (deadlineRules deadline kind).drop 2 = (ruleCalls kind).map (callOf · deadline) := by
  cases kind <;> rfl

/-- Only the denied call ends what stands before a parenthesis. -/
theorem front_of_ruleCalls (kind : GuardKind) :
    ∀ function ∈ ruleCalls kind, BlankFree function ∧ ∀ front ∈ callFronts kind,
      function.toList <:+ front.flatMap String.toList →
        function = deniedCall kind ∧ front = ["!", deniedCall kind] := by
  cases kind <;> decide

/-- Of the rules on the deadline, an opposite statement meets at most the one for the denied
call. -/
theorem rule_of_opposite {deadline : String} (hd : IsIdentifier deadline) {kind : GuardKind}
    {form : List String} (hform : form ∈ oppositeForms deadline kind) {content : List Char}
    (h : Spaced form content) {p : Pattern} (hp : p ∈ deadlineRules deadline kind)
    (hmatch : p.isMatch content = true) :
    p = callOf (deniedCall kind) deadline ∧ form = ["!", deniedCall kind, "(", deadline, ")"] := by
  rw [← List.take_append_drop 2 (deadlineRules deadline kind), List.mem_append,
    drop_deadlineRules] at hp
  rcases hp with hp | hp
  · rw [not_isMatch_compare hd hform h hp] at hmatch
    cases hmatch
  · obtain ⟨function, hfunction, rfl⟩ := List.mem_map.mp hp
    obtain ⟨hfree, hfronts⟩ := front_of_ruleCalls kind function hfunction
    obtain ⟨front, hfront, rfl, hend⟩ := front_of_isMatch_callOf hfree hd hform h hmatch
    obtain ⟨rfl, rfl⟩ := hfronts front hfront hend
    exact ⟨rfl, rfl⟩

/-- A call is found where its name and its parenthesis stand together. -/
theorem isMatch_of_denied {function deadline : String} {content : List Char}
    (h : Spaced ["!", function ++ "(", deadline, ")"] content) :
    (callOf function deadline).isMatch content = true := by
  obtain ⟨gap, _, _, rfl, hname⟩ := Written.spaced_cons_iff.mp h
  obtain ⟨gap₁, _, _, rfl, hargument⟩ := Written.spaced_cons_iff.mp hname
  obtain ⟨piece, last, rfl, hpiece⟩ := hargument.exists_spells
  rw [callOf_eq, Written.isMatch_patternOf_iff]
  refine ⟨function.toList ++ ("(".toList ++ piece), ?_, ⟨gap ++ '!' :: gap₁, last, by simp⟩⟩
  exact spells_lit_cons.mpr ⟨_, rfl, spells_lit_cons.mpr ⟨_, rfl, hpiece⟩⟩

/-- A denied call is found only if its name and its parenthesis stand together. -/
theorem denied_of_isMatch {function deadline : String} (hfunction : function.toList ≠ [])
    (hfree : BlankFree function) (hparen : '(' ∉ function.toList) (hd : IsIdentifier deadline)
    {content : List Char} (h : Spaced ["!", function, "(", deadline, ")"] content)
    (hmatch : (callOf function deadline).isMatch content = true) :
    Spaced ["!", function ++ "(", deadline, ")"] content := by
  rw [callOf_eq, Written.isMatch_patternOf_iff] at hmatch
  obtain ⟨piece, hspells, hinfix⟩ := hmatch
  simp only [callParts, Part.pattern, List.map_cons, List.map_nil, spells_lit_cons,
    spells_blanks_cons, spells_nil] at hspells
  simp only [Written.spaced_cons_iff, Written.spaced_nil_iff] at h ⊢
  obtain ⟨_, rfl, _, rfl, inner, _, _, rfl, _, rfl, inner', _, _, rfl, _, rfl, rfl⟩ := hspells
  obtain ⟨gap, hgap, _, rfl, gap₁, hgap₁, _, rfl, gap₂, hgap₂, _, rfl, gap₃, hgap₃, _, rfl, gap₄,
    hgap₄, last, rfl, hlast⟩ := h
  have hnone : ∀ {gap : List Char}, (∀ c ∈ gap, Unicode.isBlank c = true) → '(' ∉ gap :=
    fun hgap => Text.notMem_of_blanks hgap (by decide)
  have hname : '(' ∉ deadline.toList := hd.notMem (by decide) (by decide)
  have hfront : '(' ∉ gap ++ '!' :: (gap₁ ++ function.toList) := by
    simp [hnone hgap, hnone hgap₁, hparen]
  have hback : '(' ∉ gap₃ ++ (deadline.toList ++ (gap₄ ++ ')' :: last)) := by
    simp [hnone hgap₃, hnone hgap₄, hnone hlast, hname]
  have hcall : function.toList ++ '(' :: (inner ++ (deadline.toList ++ (inner' ++ [')']))) <:+:
      (gap ++ '!' :: (gap₁ ++ function.toList) ++ gap₂) ++
        '(' :: (gap₃ ++ (deadline.toList ++ (gap₄ ++ ')' :: last))) := by
    simpa using hinfix
  -- The text has one opening parenthesis, so the name found must end right before it.
  obtain rfl := Text.blanks_eq_nil_of_infix hfunction hfree hgap₂ hfront hback hcall
  exact ⟨gap, hgap, _, rfl, gap₁, hgap₁, _, by simp, gap₃, hgap₃, _, rfl, gap₄, hgap₄, last, rfl,
    hlast⟩

/-- Which opposite statements are counted. -/
theorem anyMatch_deadlineRules_iff {deadline : String} (hd : IsIdentifier deadline)
    {kind : GuardKind} {form : List String} (hform : form ∈ oppositeForms deadline kind)
    {content : List Char} (h : Spaced form content) :
    anyMatch (deadlineRules deadline kind) content = true ↔
      Spaced ["!", deniedCall kind ++ "(", deadline, ")"] content ∧
        (callOf (deniedCall kind) deadline).fits = true := by
  have hcall : callOf (deniedCall kind) deadline ∈ deadlineRules deadline kind := by
    cases kind <;> simp [deadlineRules, deniedCall, expired, live]
  have hdenied : ∀ kind, (deniedCall kind).toList ≠ [] ∧ BlankFree (deniedCall kind) ∧
      '(' ∉ (deniedCall kind).toList := by
    intro kind
    cases kind <;> decide
  obtain ⟨hne, hfree, hparen⟩ := hdenied kind
  rw [anyMatch_iff]
  constructor
  · rintro ⟨p, hp, hmatch, hfits⟩
    obtain ⟨rfl, rfl⟩ := rule_of_opposite hd hform h hp hmatch
    exact ⟨denied_of_isMatch hne hfree hparen hd h hmatch, hfits⟩
  · rintro ⟨hspaced, hfits⟩
    exact ⟨_, hcall, isMatch_of_denied hspaced, hfits⟩

/-! ## Permits -/

/-- The deadline counts as checked if some condition meets the rules on it. -/
theorem deadline_verify {subject : Subject} {deadline : String}
    (hparam : subject.param? 3 = some deadline) :
    (verify subject).deadline = (Condition.harvest subject.units).any fun c =>
      anyMatch (deadlineRules deadline c.kind) c.content := by
  rw [verify, hparam]
  rfl

/-- If every guard of a permit states the opposite of what it should, the deadline counts as checked
exactly if some guard denies a call whose name and parenthesis stand together, unless the name of
the deadline is so long that the rule on the call is dropped. -/
theorem deadline_of_opposite_guards {subject : Subject} {deadline : String}
    (hparam : subject.param? 3 = some deadline) (hd : IsIdentifier deadline)
    (hopposite : ∀ c ∈ Condition.harvest subject.units,
      ∃ form ∈ oppositeForms deadline c.kind, Spaced form c.content) :
    (verify subject).deadline = true ↔ ∃ c ∈ Condition.harvest subject.units,
      (c.kind = .require ∧ Spaced ["!", "isValid(", deadline, ")"] c.content ∧
          (callOf "isValid" deadline).fits = true) ∨
        (c.kind = .ifRevert ∧ Spaced ["!", "isExpired(", deadline, ")"] c.content ∧
          (callOf "isExpired" deadline).fits = true) := by
  rw [deadline_verify hparam, List.any_eq_true]
  refine exists_congr fun c => and_congr_right fun hc => ?_
  obtain ⟨form, hform, hspaced⟩ := hopposite c hc
  rw [anyMatch_deadlineRules_iff hd hform hspaced]
  cases c.kind with
  | require =>
    have hcall : deniedCall .require = "isValid" := rfl
    have hname : "isValid" ++ "(" = "isValid(" := rfl
    simp only [hcall, hname, true_and, reduceCtorEq, false_and, or_false]
  | ifRevert =>
    have hcall : deniedCall .ifRevert = "isExpired" := rfl
    have hname : "isExpired" ++ "(" = "isExpired(" := rfl
    simp only [hcall, hname, true_and, reduceCtorEq, false_and, false_or]

/-- A permit with the given guard. -/
def guardedBy (guard : String) : Subject :=
  let params := "address o, address s, uint v, uint deadline"
  let text := "function permit(" ++ params ++ ") \x7b " ++ guard ++ " \x7d"
  ⟨⟨"permit", params, "", 0, text.utf8ByteSize, text, true,
    .ofList [("o", "address"), ("s", "address"), ("v", "uint"), ("deadline", "uint")]⟩,
    [], text, .standard⟩

/-- A permit that goes on only after its deadline is not counted as checking it. -/
theorem deadline_of_opposite_guards_passed :
    (∃ form ∈ oppositeForms "deadline" .require, Spaced form "deadline < block.timestamp".toList) ∧
      (verify (guardedBy "require(deadline < block.timestamp);")).deadline = false := by
  have hparam : (guardedBy "require(deadline < block.timestamp);").param? 3 = some "deadline" := by
    decide +kernel
  have hharvest : Condition.harvest (guardedBy "require(deadline < block.timestamp);").units =
      [⟨"deadline < block.timestamp".toList, .main, .require⟩] := by
    decide +kernel
  have hspaced : ∃ form ∈ oppositeForms "deadline" .require,
      Spaced form "deadline < block.timestamp".toList := by
    refine ⟨_, List.mem_cons_self, ?_⟩
    simp only [Written.spaced_cons_iff, Written.spaced_nil_iff]
    have hspace : ∀ c ∈ [' '], Unicode.isBlank c = true := List.all_eq_true.mp (by decide)
    have hnone : ∀ c ∈ [], Unicode.isBlank c = true := List.forall_mem_nil _
    exact ⟨[], hnone, _, rfl, [' '], hspace, _, rfl, [' '], hspace, _, rfl, [], hnone, _, rfl,
      [], hnone, [], rfl, hnone⟩
  have hopposite : ∀ c ∈ Condition.harvest
      (guardedBy "require(deadline < block.timestamp);").units,
      ∃ form ∈ oppositeForms "deadline" c.kind, Spaced form c.content := by
    intro c hc
    rw [hharvest] at hc
    obtain rfl := List.mem_singleton.mp hc
    exact hspaced
  refine ⟨hspaced, ?_⟩
  rw [Bool.eq_false_iff]
  intro hmet
  obtain ⟨c, hc, hdenied⟩ :=
    (deadline_of_opposite_guards hparam (by decide) hopposite).mp hmet
  rw [hharvest] at hc
  obtain rfl := List.mem_singleton.mp hc
  rcases hdenied with ⟨-, hdenied, -⟩ | ⟨hkind, -⟩
  · obtain ⟨gap, -, back, hcontent, -⟩ := Written.spaced_cons_iff.mp hdenied
    have hmem : '!' ∈ gap ++ ("!".toList ++ back) := by simp
    rw [← hcontent] at hmem
    revert hmem
    decide
  · cases hkind

/-- A permit that goes on only if its deadline is not valid counts as checking it. -/
theorem deadline_met_by_denied_call :
    (∃ form ∈ oppositeForms "deadline" .require, Spaced form "!isValid(deadline)".toList) ∧
      Condition.harvest (guardedBy "require(!isValid(deadline));").units =
        [⟨"!isValid(deadline)".toList, .main, .require⟩] ∧
      (verify (guardedBy "require(!isValid(deadline));")).deadline = true := by
  have hparam : (guardedBy "require(!isValid(deadline));").param? 3 = some "deadline" := by
    decide +kernel
  have hharvest : Condition.harvest (guardedBy "require(!isValid(deadline));").units =
      [⟨"!isValid(deadline)".toList, .main, .require⟩] := by
    decide +kernel
  refine ⟨⟨["!", "isValid", "(", "deadline", ")"], by decide, ?_⟩, hharvest, ?_⟩
  · have hnone : ∀ c ∈ [], Unicode.isBlank c = true := List.forall_mem_nil _
    simp only [Written.spaced_cons_iff, Written.spaced_nil_iff]
    exact ⟨[], hnone, _, rfl, [], hnone, _, rfl, [], hnone, _, rfl, [], hnone, _, rfl, [], hnone,
      [], rfl, hnone⟩
  · -- The conditions are known, so the text is not evaluated again.
    rw [deadline_verify hparam, hharvest]
    decide +kernel

end TokenAudit.Permit
