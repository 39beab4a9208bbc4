import TokenAudit.Proofs.ByteScan.Basic
import TokenAudit.Proofs.Declarations.Listed

/-!
# Declarations by offset

A declaration is cut out of the source between two offsets: where its header starts, and behind the
semicolon or the brace that ends it. The brace is looked for among the bytes from the one that opens
the body on.

## Main results

* `functionAt_eq_ok`: the function of a header is cut out without a fault.
* `declarationsAt_eq_ok`: the functions of a source are listed by offsets without a fault, and they
  are those that the walk over the characters lists.
-/

namespace TokenAudit.ByteScan

open Text Unicode

/-- The offset behind the declaration whose header stands at the offset `start`, unless its body
never closes. -/
def stopAt (source : List Char) (start : Nat) (header : Header) : Except ScanFault (Option Nat) :=
  let stop := start + byteLength header.chars
  if header.opensBody then (·.map (· + 1)) <$> closeAt braces none source (stop - 1)
  else .ok (some stop)

/-- The function whose header stands at the offset `start`, unless its body never closes. -/
def functionAt (source : List Char) (start : Nat) (header : Header) :
    Except ScanFault (Option Function) := do
  match ← stopAt source start header with
  | none => return none
  | some stop =>
    let chars ← slice source start stop
    return some { header.functionOf start chars with stop }

/-- The functions declared in a source, by offsets. -/
def declarationsAt (source : String) : Except ScanFault (List Function) :=
  collect (fun (start, header) => functionAt source.toList start header)
    (headersFrom 0 none 0 source.toList)

variable {before rest : List Char} {header : Header}

/-- The characters of a header that opens a body end in the brace. -/
theorem exists_chars_eq_append_brace (hread : Header.read? rest = some header)
    (hopens : header.opensBody = true) : ∃ front, header.chars = front ++ [braces.opener] := by
  obtain ⟨_, gap, space, last, hspells⟩ := Header.read?_eq_some hread
  have hlast : last = braces.opener := by rw [hspells.last_eq, if_pos hopens, braces]
  rw [hspells.chars_eq, hlast]
  exact ⟨_, rfl⟩

/-- The end of a declaration is found without a fault: behind its header and the tail of it. -/
theorem stopAt_eq_ok (hread : Header.read? rest = some header) :
    stopAt (before ++ rest) (byteLength before) header =
      .ok (header.tail?.map fun tail => byteLength before + byteLength (header.chars ++ tail)) := by
  rw [stopAt, Header.tail?]
  split
  · next hopens =>
    obtain ⟨front, hfront⟩ := exists_chars_eq_append_brace hread hopens
    have hsource : before ++ rest = (before ++ front) ++ braces.opener :: header.after := by
      rw [(Header.read?_eq_some hread).1, hfront]
      simp only [List.append_assoc, List.singleton_append]
    have hbrace : byteLength [braces.opener] = 1 := rfl
    have hopened : byteLength before + byteLength header.chars - 1 =
        byteLength (before ++ front) := by
      rw [hfront, byteLength_append, byteLength_append, hbrace]
      omega
    rw [hopened, hsource, closeAt_opener oneByte_braces rfl]
    cases enclosed braces none header.after with
    | none => rfl
    | some read =>
      have hcloser : byteLength ['\x7d'] = 1 := rfl
      refine congrArg (fun stop => Except.ok (some stop)) ?_
      rw [hfront]
      simp only [byteLength_append, hbrace, hcloser]
      omega
  · rw [Option.map_some, List.append_nil]

/-- The function of a header that stands in the source is cut out without a fault. -/
theorem functionAt_eq_ok (hread : Header.read? rest = some header) :
    functionAt (before ++ rest) (byteLength before) header =
      .ok (header.function? (byteLength before)) := by
  rw [functionAt, stopAt_eq_ok hread, Header.function?_eq_map]
  cases htail : header.tail? with
  | none => rfl
  | some tail =>
    obtain ⟨after, hafter⟩ := (Header.tail?_eq_some htail).1
    have hslice : slice (before ++ rest) (byteLength before)
        (byteLength before + byteLength (header.chars ++ tail)) = .ok (header.chars ++ tail) := by
      rw [(Header.read?_eq_some hread).1, hafter, ← List.append_assoc header.chars]
      exact slice_append ..
    simp only [bind, Except.bind, Option.map_some, hslice]
    rfl

/-- The functions of a source are listed by offsets without a fault. -/
theorem declarationsAt_eq_ok (source : String) :
    declarationsAt source = .ok (declarations source) := by
  rw [declarations, declarationsFrom_eq_filterMap]
  refine collect_eq_ok ?_
  rintro ⟨start, header⟩ hmem
  obtain ⟨front, rest, hsource, hread, rfl⟩ := read?_of_mem_headersFrom hmem
  rw [hsource, Nat.zero_add]
  exact functionAt_eq_ok hread

end TokenAudit.ByteScan
