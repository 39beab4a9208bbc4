import TokenAudit.Json.Read
import TokenAudit.Json.Record
import TokenAudit.Path
import TokenAudit.Standard
import TokenAudit.Yaml.Node
import TokenAudit.Yaml.Render

/-!
# Audit specs

A spec names the sources to audit and the target: a standard, a signature, or both. Specs are YAML or
JSON documents.
-/

namespace TokenAudit

open Text

/-- What to audit, and how. -/
structure AuditSpec where
  /-- The name of the audit. -/
  name : String
  /-- The directory or file to audit. -/
  sources : String
  /-- The name of the standard. -/
  standard : Option String
  /-- The signature of the function to look for. -/
  signature : Option String
  /-- The profile. -/
  profile : Option Profile
  /-- Whether files are analyzed side by side. -/
  parallel : Option Bool
  /-- A note. -/
  description : Option String
  deriving Repr, BEq, DecidableEq

/-- The two ways to write a spec. -/
inductive SpecFormat
  /-- JSON. -/
  | json
  /-- YAML. -/
  | yaml
  deriving Repr, BEq, DecidableEq

/-- What is wrong with a spec. -/
inductive SpecError
  /-- The file cannot be read. -/
  | read (path cause : String)
  /-- The text is no spec in its format. -/
  | malformed (format : SpecFormat)
  /-- A field that must not be blank is. -/
  | missingField (name : String)
  /-- The name cannot serve as a directory name. -/
  | invalidName (name : String)
  /-- No target can be settled on. -/
  | target (cause : StandardError)
  deriving Repr, BEq, DecidableEq

namespace SpecError

/-- What is said of a text that is no spec in its format, before the reason. -/
def malformedMessage : SpecFormat → String
  | .json => "Failed to parse audit spec JSON: "
  | .yaml => "Failed to parse audit spec YAML: "

/-- The wording of an error. -/
def message : SpecError → String
  | read path cause => "Failed to read audit spec at " ++ path ++ ": " ++ cause
  | malformed format => malformedMessage format ++ "not an audit spec"
  | missingField name => "Audit spec '" ++ name ++ "' is required"
  | invalidName name =>
    "Audit name '" ++ name ++
      "' must be a single plain path component (no '/', '\\', '..' or leading '.')"
  | target cause => cause.message

end SpecError

namespace AuditSpec

/-- The fields of a spec, in order. -/
def fieldNames : List String :=
  ["name", "sources", "standard", "signature", "profile", "parallel", "description"]

/-- The target of a spec. -/
def target (spec : AuditSpec) : Except StandardError Target :=
  Target.resolve spec.standard spec.signature

/-- Checks a spec: the name, then the sources, then the target. -/
def validate (spec : AuditSpec) : Except SpecError Unit := do
  if isBlankText spec.name then throw (.missingField "name")
  if !isPlainName spec.name then throw (.invalidName spec.name)
  if isBlankText spec.sources then throw (.missingField "sources")
  let _ ← spec.target.mapError .target

/-- The profile of a spec, or another one. -/
def profileOr (spec : AuditSpec) (otherwise : Profile) : Profile :=
  spec.profile.getD otherwise

/-! ## JSON -/

/-- The profile with exactly this name. -/
def profileNamed? (name : String) : Option Profile :=
  [Profile.standard, Profile.gasFamily].find? (·.name == name)

/-- A profile in a JSON document. -/
def jsonProfile? (value : Json) : Option Profile :=
  value.asWord?.bind profileNamed?

/-- The spec that a JSON text describes. -/
def ofForm? (form : Json.Form) : Option AuditSpec := do
  let fields ← form.record? fieldNames 2
  match ← fields.mapM (·.mapM Json.Form.value?) with
  | [name, sources, standard, signature, profile, parallel, description] =>
    return {
      name := ← Json.needed Json.asText? name
      sources := ← Json.needed Json.asText? sources
      standard := ← Json.optional Json.asText? standard
      signature := ← Json.optional Json.asText? signature
      profile := ← Json.optional jsonProfile? profile
      parallel := ← Json.optional Json.asBool? parallel
      description := ← Json.optional Json.asText? description }
  | _ => none

/-! ## YAML -/

/-- The tag of null. -/
def nullTag : String := "tag:yaml.org,2002:null"

/-- The tag of truth values. -/
def boolTag : String := "tag:yaml.org,2002:bool"

/-- The text of a scalar. -/
def yamlText? : Yaml.Node → Option String
  | .scalar _ text _ => some text
  | _ => none

/-- A truth value: a plain scalar, or a literal one that has the tag. -/
def yamlBool? : Yaml.Node → Option Bool
  | .scalar _ text .plain => Yaml.boolWord? text
  | .scalar tag text .literal => if tag == some boolTag then Yaml.boolWord? text else none
  | _ => none

/-- The name in a local tag, which starts with an exclamation mark. -/
def localTag? (tag : Option String) : Option String :=
  match tag.map String.toList with
  | some ['!'] => some "!"
  | some ('!' :: name) => some (String.ofList name)
  | _ => none

/-- A profile: its name as a scalar, or as a local tag of null. -/
def yamlProfile? : Yaml.Node → Option Profile
  | .scalar tag text style =>
    match localTag? tag with
    | none => profileNamed? text
    | some name =>
      if style == .plain && (text.isEmpty || Yaml.isNullWord text) then profileNamed? name else none
  | _ => none

/-- A value that may be null. -/
def yamlOptional {α : Type} (decode : Yaml.Node → Option α) (node : Yaml.Node) :
    Option (Option α) :=
  match node with
  | .scalar none text .plain =>
    if text.isEmpty || Yaml.isNullWord text then some none else (decode node).map some
  | .scalar (some tag) text .plain =>
    if tag == nullTag then (if Yaml.isNullWord text then some none else none)
    else (decode node).map some
  | _ => (decode node).map some

/-- The one value of a key: absent, present, or an error if it is given twice. -/
def yamlSingle? (name : String) (entries : List (String × Yaml.Node)) : Option (Option Yaml.Node) :=
  match entries.filter (·.1 == name) with
  | [] => some none
  | [(_, value)] => some (some value)
  | _ => none

/-- The spec that a YAML document describes. Keys that are no fields do not matter. -/
def ofYaml? (document : Yaml.Document) : Option AuditSpec := do
  let .mapping _ entries := document.follow document.root | none
  let entries ← entries.mapM fun (key, value) =>
    (yamlText? (document.follow key)).map fun name => (name, document.follow value)
  match ← fieldNames.mapM (yamlSingle? · entries) with
  | [name, sources, standard, signature, profile, parallel, description] =>
    let optional {α : Type} (decode : Yaml.Node → Option α) (field : Option Yaml.Node) :
        Option (Option α) :=
      match field with
      | none => some none
      | some node => yamlOptional decode node
    return {
      name := ← name.bind yamlText?
      sources := ← sources.bind yamlText?
      standard := ← optional yamlText? standard
      signature := ← optional yamlText? signature
      profile := ← optional yamlProfile? profile
      parallel := ← optional yamlBool? parallel
      description := ← optional yamlText? description }
  | _ => none

/-- The spec as a YAML document, without the fields that are not set. -/
def toYaml (spec : AuditSpec) : String :=
  let line (name : String) (value : String) : String := name ++ ": " ++ value
  let string? (name : String) (value : Option String) : String :=
    (value.map fun s => line name (Yaml.renderString s)).getD ""
  line "name" (Yaml.renderString spec.name) ++
    line "sources" (Yaml.renderString spec.sources) ++
    string? "standard" spec.standard ++
    string? "signature" spec.signature ++
    ((spec.profile.map fun p => line "profile" (p.name ++ "\n")).getD "") ++
    ((spec.parallel.map fun b => line "parallel" (if b then "true\n" else "false\n")).getD "") ++
    string? "description" spec.description

/-- The spec that some bytes describe in a format. YAML must be text throughout. -/
def ofBytes? (format : SpecFormat) (bytes : ByteArray) : Option AuditSpec :=
  match format with
  | .json => (Json.formOfBytes? bytes).bind ofForm?
  | .yaml => ((String.fromUTF8? bytes).bind Yaml.Document.ofText?).bind ofYaml?

/-- The spec that some bytes describe in a format, or what is wrong with them. -/
def parse (format : SpecFormat) (bytes : ByteArray) : Except SpecError AuditSpec :=
  match ofBytes? format bytes with
  | some spec => .ok spec
  | none => .error (.malformed format)

end AuditSpec

end TokenAudit
