import TokenAudit.Json.Read
import TokenAudit.Json.Record
import TokenAudit.Spec

/-!
# Project configurations
-/

namespace TokenAudit

/-- The configuration of a project. -/
structure ProjectConfig where
  /-- The name of the project. -/
  name : String
  /-- A note. -/
  description : Option String := none
  /-- The version of the configuration's format. -/
  configVersion : String := "0.1.0"
  /-- The path of the run store. -/
  storePath : String
  /-- The profile of audits that name none. -/
  defaultProfile : Option Profile := none
  /-- Whether files are analyzed side by side. -/
  parallel : Bool := false
  /-- The extensions of source files. -/
  extensions : List String := ["sol"]
  deriving Repr, BEq, DecidableEq

namespace ProjectConfig

/-- The fields of a configuration, in order. -/
def fieldNames : List String :=
  ["name", "description", "config_version", "db", "default_profile", "parallel", "extensions"]

/-- The path of the run store in a JSON text. -/
def storePath? (form : Json.Form) : Option String := do
  match ← form.record? ["path"] 1 with
  | [path] => Json.needed Json.asText? (← path.mapM Json.Form.value?)
  | _ => none

/-- The configuration that a JSON text describes. -/
def ofForm? (form : Json.Form) : Option ProjectConfig := do
  match ← form.record? fieldNames 4 with
  | [name, description, configVersion, store, defaultProfile, parallel, extensions] =>
    let value? (field : Option Json.Form) : Option (Option Json) := field.mapM Json.Form.value?
    return {
      name := ← Json.needed Json.asText? (← value? name)
      description := ← Json.optional Json.asText? (← value? description)
      configVersion := ← Json.needed Json.asText? (← value? configVersion)
      storePath := ← store.bind storePath?
      defaultProfile := ← Json.optional AuditSpec.jsonProfile? (← value? defaultProfile)
      parallel := ← Json.defaulted false Json.asBool? (← value? parallel)
      extensions := ← Json.defaulted ["sol"] Json.asTexts? (← value? extensions) }
  | _ => none

/-- The configuration that a text describes. -/
def ofText? (text : String) : Option ProjectConfig :=
  (Json.form? text).bind ofForm?

/-- The configuration as a JSON document. -/
def toJson (config : ProjectConfig) : Json :=
  .obj ([("name", .str config.name), ("description", .ofText? config.description),
    ("config_version", .str config.configVersion),
    ("db", .obj [("path", .str config.storePath)])] ++
    (match config.defaultProfile with
      | some profile => [("default_profile", .str profile.name)]
      | none => []) ++
    [("parallel", .bool config.parallel), ("extensions", .arr (config.extensions.map .str))])

end ProjectConfig

end TokenAudit
