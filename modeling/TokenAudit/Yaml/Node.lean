import TokenAudit.Yaml.Scan

/-!
# YAML nodes

A document is a tree of nodes. A node that has an anchor can be referred to later in the document.
-/

namespace TokenAudit.Yaml

/-- A node of a document. -/
inductive Node
  /-- A scalar. -/
  | scalar (tag : Option String) (text : String) (style : Style)
  /-- A sequence. -/
  | sequence (tag : Option String) (items : List Node)
  /-- A mapping. -/
  | mapping (tag : Option String) (entries : List (Node × Node))
  /-- A reference to the anchored node with this number. -/
  | alias (number : Nat)
  deriving Repr, BEq, Inhabited

/-- A scalar that is left out. -/
def Node.blank : Node :=
  .scalar none "" .plain

/-- A document. -/
structure Document where
  /-- The outermost node. -/
  root : Node
  /-- For each number that an alias may have, which anchor it belongs to, latest first. -/
  numbers : List (Nat × Nat)
  /-- The nodes that have an anchor, by the place of the anchor among all. -/
  anchored : List (Nat × Node)

/-- The node that an alias refers to; any other node itself. -/
def Document.follow (document : Document) : Node → Node
  | .alias number =>
    ((document.numbers.lookup number).bind fun place => document.anchored.lookup place).getD
      (.alias number)
  | node => node

/-- What is left to read of a document, and what its names mean so far. -/
structure Reader where
  /-- The tokens to come. -/
  rest : List Token
  /-- The meaning of tag handles. -/
  handles : List (String × String)
  /-- The anchor names, each with the number of its latest anchor. -/
  names : List (String × Nat)
  /-- For each number, which anchor it belongs to, latest first. -/
  numbers : List (Nat × Nat)
  /-- The nodes that have an anchor. -/
  anchored : List (Nat × Node)

namespace Reader

/-- The next token. -/
def next? (r : Reader) : Option Token :=
  r.rest.head?

/-- The reader after the next token. -/
def skip (r : Reader) : Reader :=
  { r with rest := r.rest.drop 1 }

/-- Whether the next token is one of these. -/
def sees (r : Reader) (tokens : List Token) : Bool :=
  r.next?.any tokens.contains

/-- Gives a number to an anchor: how many names there were before it. So an anchor that uses a name
again shares its number with the next new name, and the later of the two has it. -/
def declare (r : Reader) : Option String → Reader
  | none => r
  | some name =>
    let number := r.names.length
    { r with
      names := (name, number) :: r.names.filter (·.1 != name)
      numbers := (number, r.numbers.length) :: r.numbers }

/-- Records the node of the anchor that has `place` anchors before it. -/
def settle (r : Reader) (anchor : Option String) (place : Nat) (node : Node) : Reader :=
  if anchor.isSome then { r with anchored := (place, node) :: r.anchored } else r

/-- The anchor and the tag in front of a node, in either order. -/
def properties (r : Reader) : Option String × Option (String × String) × Reader :=
  match r.rest with
  | .anchor name :: .tag handle suffix :: rest => (some name, some (handle, suffix), { r with rest })
  | .tag handle suffix :: .anchor name :: rest => (some name, some (handle, suffix), { r with rest })
  | .anchor name :: rest => (some name, none, { r with rest })
  | .tag handle suffix :: rest => (none, some (handle, suffix), { r with rest })
  | _ => (none, none, r)

/-- The full text of a tag; an error if its handle has no meaning. -/
def tag? (r : Reader) : Option (String × String) → Option (Option String)
  | none => some none
  | some (handle, suffix) =>
    if handle.isEmpty then some (some suffix)
    else (r.handles.lookup handle).map fun meaning => some (meaning ++ suffix)

mutual

/-- A node. Inside flow collections no block can start; the entries of a sequence that is the value of
a key need no deeper indentation. -/
def node? (block indentless : Bool) : Nat → Reader → Option (Node × Reader)
  | 0, _ => none
  | fuel + 1, r =>
    match r.rest with
    | .alias name :: rest =>
      (r.names.lookup name).map fun number => (.alias number, { r with rest })
    | _ =>
      let (anchor, written, r) := r.properties
      match r.tag? written with
      | none => none
      | some tag =>
        let place := r.numbers.length
        let r := r.declare anchor
        let finish (result : Option (Node × Reader)) : Option (Node × Reader) :=
          result.map fun (node, r) => (node, r.settle anchor place node)
        match r.rest with
        | .blockEntry :: _ =>
          if indentless then
            finish ((indentlessItems? fuel r).map fun (items, r) => (.sequence tag items, r))
          else if anchor.isSome || tag.isSome then finish (some (.scalar tag "" .plain, r))
          else none
        | .scalar text style :: rest =>
          finish (some (.scalar tag text style, { r with rest }))
        | .flowSequenceStart :: rest =>
          finish ((flowItems? true fuel { r with rest }).map fun (items, r) =>
            (.sequence tag items, r))
        | .flowMappingStart :: rest =>
          finish ((flowEntries? true fuel { r with rest }).map fun (entries, r) =>
            (.mapping tag entries, r))
        | .blockSequenceStart :: rest =>
          if block then
            finish ((blockItems? fuel { r with rest }).map fun (items, r) => (.sequence tag items, r))
          else if anchor.isSome || tag.isSome then finish (some (.scalar tag "" .plain, r))
          else none
        | .blockMappingStart :: rest =>
          if block then
            finish ((blockEntries? fuel { r with rest }).map fun (entries, r) =>
              (.mapping tag entries, r))
          else if anchor.isSome || tag.isSome then finish (some (.scalar tag "" .plain, r))
          else none
        | _ =>
          if anchor.isSome || tag.isSome then finish (some (.scalar tag "" .plain, r)) else none

/-- A node, or nothing if one of the tokens `ends` comes first. -/
def nodeUnless? (ends : List Token) (block indentless : Bool) : Nat → Reader → Option (Node × Reader)
  | 0, _ => none
  | fuel + 1, r => if r.sees ends then some (.blank, r) else node? block indentless fuel r

/-- The items of a block sequence, with its end. -/
def blockItems? : Nat → Reader → Option (List Node × Reader)
  | 0, _ => none
  | fuel + 1, r =>
    match r.rest with
    | .blockEntry :: rest =>
      match nodeUnless? [.blockEntry, .blockEnd] true false fuel { r with rest } with
      | none => none
      | some (item, r) => (blockItems? fuel r).map fun (items, r) => (item :: items, r)
    | .blockEnd :: rest => some ([], { r with rest })
    | _ => none

/-- The items of a block sequence that is not indented; it has no end of its own. -/
def indentlessItems? : Nat → Reader → Option (List Node × Reader)
  | 0, _ => none
  | fuel + 1, r =>
    match r.rest with
    | .blockEntry :: rest =>
      match nodeUnless? [.blockEntry, .key, .value, .blockEnd] true false fuel { r with rest } with
      | none => none
      | some (item, r) => (indentlessItems? fuel r).map fun (items, r) => (item :: items, r)
    | _ => some ([], r)

/-- The entries of a block mapping, with its end. -/
def blockEntries? : Nat → Reader → Option (List (Node × Node) × Reader)
  | 0, _ => none
  | fuel + 1, r =>
    match r.rest with
    | .key :: rest =>
      match nodeUnless? [.key, .value, .blockEnd] true true fuel { r with rest } with
      | none => none
      | some (key, r) =>
        match blockValue? fuel r with
        | none => none
        | some (value, r) => (blockEntries? fuel r).map fun (entries, r) => ((key, value) :: entries, r)
    | .blockEnd :: rest => some ([], { r with rest })
    | _ => none

/-- The value of an entry of a block mapping. -/
def blockValue? : Nat → Reader → Option (Node × Reader)
  | 0, _ => none
  | fuel + 1, r =>
    match r.rest with
    | .value :: rest => nodeUnless? [.key, .value, .blockEnd] true true fuel { r with rest }
    | _ => some (.blank, r)

/-- The items of a flow sequence, with its end. A key makes an item a mapping of one entry. -/
def flowItems? (first : Bool) : Nat → Reader → Option (List Node × Reader)
  | 0, _ => none
  | fuel + 1, r =>
    if r.sees [.flowSequenceEnd] then some ([], r.skip)
    else if first || r.sees [.flowEntry] then
      let r := if first then r else r.skip
      if r.sees [.flowSequenceEnd] then some ([], r.skip)
      else
        let item? :=
          if r.sees [.key] then
            (flowPair? fuel r.skip).map fun (entry, r) => (Node.mapping none [entry], r)
          else node? false false fuel r
        match item? with
        | none => none
        | some (item, r) => (flowItems? false fuel r).map fun (items, r) => (item :: items, r)
    else none

/-- The entry of a mapping that is an item of a flow sequence. The token that shows that the key is
left out is dropped. -/
def flowPair? : Nat → Reader → Option ((Node × Node) × Reader)
  | 0, _ => none
  | fuel + 1, r =>
    let key? :=
      if r.sees [.value, .flowEntry, .flowSequenceEnd] then some (Node.blank, r.skip)
      else node? false false fuel r
    match key? with
    | none => none
    | some (key, r) =>
      (flowValue? .flowSequenceEnd fuel r).map fun (value, r) => ((key, value), r)

/-- The value of an entry in a flow collection that is closed by `last`. -/
def flowValue? (last : Token) : Nat → Reader → Option (Node × Reader)
  | 0, _ => none
  | fuel + 1, r =>
    match r.rest with
    | .value :: rest => nodeUnless? [.flowEntry, last] false false fuel { r with rest }
    | _ => some (.blank, r)

/-- The entries of a flow mapping, with its end. -/
def flowEntries? (first : Bool) : Nat → Reader → Option (List (Node × Node) × Reader)
  | 0, _ => none
  | fuel + 1, r =>
    if r.sees [.flowMappingEnd] then some ([], r.skip)
    else if first || r.sees [.flowEntry] then
      let r := if first then r else r.skip
      if r.sees [.flowMappingEnd] then some ([], r.skip)
      else
        let pair? :=
          if r.sees [.key] then
            match nodeUnless? [.value, .flowEntry, .flowMappingEnd] false false fuel r.skip with
            | none => none
            | some (key, r) =>
              (flowValue? .flowMappingEnd fuel r).map fun (value, r) => ((key, value), r)
          else (node? false false fuel r).map fun (key, r) => ((key, Node.blank), r)
        match pair? with
        | none => none
        | some (entry, r) => (flowEntries? false fuel r).map fun (entries, r) => (entry :: entries, r)
    else none

end

/-- Reads the directives before a document: at most one version, 1.1 or 1.2, and each tag handle
once. -/
def directives? (versioned : Bool) (handles : List (String × String)) :
    List Token → Option (List (String × String) × List Token)
  | .version major minor :: rest =>
    if versioned || major != 1 || (minor != 1 && minor != 2) then none
    else directives? true handles rest
  | .tagDirective handle meaning :: rest =>
    if (handles.lookup handle).isSome then none
    else directives? versioned (handles ++ [(handle, meaning)]) rest
  | tokens => some (handles, tokens)

/-- The tag handles that need no directive. -/
def defaultHandles : List (String × String) :=
  [("!", "!"), ("!!", "tag:yaml.org,2002:")]

/-- Whether a token is a directive or a document mark. -/
def isMark : Token → Bool
  | .version .. | .tagDirective .. | .documentStart | .documentEnd => true
  | _ => false

/-- The document that tokens write: exactly one. -/
def document? (tokens : List Token) : Option Document := do
  let first ← tokens.head?
  let explicit := isMark first && first != .documentEnd
  let (handles, rest) ← if explicit then directives? false [] tokens else some ([], tokens)
  let rest ←
    if explicit then
      match rest with
      | .documentStart :: rest => some rest
      | _ => none
    else some rest
  let start : Reader := ⟨rest, handles ++ defaultHandles, [], [], []⟩
  let (root, r) ←
    if explicit && rest.head?.all isMark then some (Node.blank, start)
    else node? true false (4 * tokens.length + 8) start
  if r.rest.all (· == .documentEnd) then return ⟨root, r.numbers, r.anchored⟩ else none

end Reader

/-- The one document of a text. -/
def Document.ofText? (text : String) : Option Document :=
  (tokens? text).bind Reader.document?

end TokenAudit.Yaml
