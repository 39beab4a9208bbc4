import TokenAudit.Command.Report
import TokenAudit.Json.Render
import TokenAudit.Selector
import TokenAudit.Session

/-!
# Commands about standards and selectors
-/

namespace TokenAudit.Command

/-- A document as the output of a command. -/
def document (value : Json) : String :=
  value.pretty ++ "\n"

/-- Lists the standards. -/
def standards (json : Bool) : String :=
  if json then
    document (.arr (Standard.all.map fun s =>
      .obj [("name", .str s.name), ("function", .str s.functionName),
        ("default_signature", .str s.defaultSignature),
        ("selector", .str (Signature.selectorHex s.defaultSignature))]))
  else
    unlines ("Standards:" :: Standard.all.map fun s =>
      "- " ++ s.name ++ " " ++ Signature.selectorHex s.defaultSignature ++ " " ++ s.defaultSignature)

/-- The lines about a known selector. -/
def knownLines (entry : SelectorEntry) : List String :=
  ("Known: " ++ entry.erc ++ " " ++ entry.signature) ::
    match entry.receiverHook, entry.magicValue with
    | some hook, some magic => ["Receiver hook: " ++ hook ++ " (must return " ++ magic ++ ")"]
    | _, _ => []

/-- Shows the normal form, the hash and the selector of a signature. -/
def selector (signature : String) (json : Bool) : Session String := do
  if !Signature.hasParams signature then
    Session.fail ("Invalid signature '" ++ signature ++ "': expected name(type, ...)")
  let known := Selector.lookupSignature? signature
  if json then
    return document (.obj [("signature", .str signature),
      ("normalized", .str (Signature.normalize signature)),
      ("hash", .str (Signature.hashHex signature)),
      ("selector", .str (Signature.selectorHex signature)),
      ("known", (known.map (·.toJson)).getD .null)])
  return unlines (["Signature: " ++ signature, "Normalized: " ++ Signature.normalize signature,
    "Keccak-256: " ++ Signature.hashHex signature, "Selector: " ++ Signature.selectorHex signature] ++
    (known.map knownLines).getD [])

/-- The line about a selector that was found. -/
def foundLine (entry : SelectorEntry) : String :=
  "- " ++ entry.selector ++ " " ++ entry.erc ++ " " ++ entry.signature ++
    (entry.receiverHook.map (" -> " ++ ·)).getD ""

/-- Looks for known selectors in bytecode, given as text or in a file. -/
def scanBytecode (hex file : Option String) (json : Bool) : Session String := do
  let code ← match hex, file with
    | some code, _ => pure code
    | none, some file =>
      Session.read ("Failed to read bytecode at " ++ file) (·.readText ⟨file⟩)
    | none, none => Session.fail "Either --hex or --file is required"
  let found := Selector.scan code
  if json then return document (.arr (found.map (·.toJson)))
  if found.isEmpty then return "No known selectors found.\n"
  return unlines ("Selectors found:" :: found.map foundLine)

end TokenAudit.Command
