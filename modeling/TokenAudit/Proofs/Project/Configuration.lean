import Mathlib.Data.List.Forall2
import TokenAudit.Project.Config
import TokenAudit.Proofs.Json.Document

/-!
# Configurations that are written and read

A configuration is read from the form of a text, field by field, and only the fields that matter
need a value. Where the whole text has a value, the fields of its form have the values that the
fields of this value have. So a configuration that has been written is read back, whatever it holds.

## Main definitions

* `Json.Form.FieldMeans`: a field of a form stands for a field of a value.

## Main results

* `Json.Form.record?_of_value?`: the fields of the form of an object have the values of its fields.
* `ProjectConfig.ofText?_pretty`: a configuration is read back.
-/

namespace TokenAudit

namespace Json

/-! ## Fields of forms -/

/-- A field of a form stands for a field of a value: it has the same name, and its value. -/
def Form.FieldMeans (form : String × Form) (field : String × Json) : Prop :=
  form.1 = field.1 ∧ form.2.value? = some field.2

/-- A field that is given at most once in a value is given so in a form of this value. -/
theorem single?_of_forall₂ {fields : List (String × Json)} {forms : List (String × Form)}
    (h : List.Forall₂ Form.FieldMeans forms fields) (name : String) {value : Option Json}
    (hvalue : single? name fields = some value) :
    ∃ form, single? name forms = some form ∧ form.mapM Form.value? = some value := by
  have hfound : List.Forall₂ Form.FieldMeans (forms.filter (·.1 == name))
      (fields.filter (·.1 == name)) :=
    List.rel_filter (fun form field hfield => by simp [hfield.1]) h
  rw [single?] at hvalue ⊢
  generalize forms.filter (·.1 == name) = found at hfound ⊢
  generalize fields.filter (·.1 == name) = given at hfound hvalue
  cases hfound with
  | nil =>
    cases hvalue
    exact ⟨none, rfl, rfl⟩
  | cons hfirst hrest =>
    cases hrest with
    | nil =>
      cases hvalue
      exact ⟨_, rfl, by simp [hfirst.2]⟩
    | cons _ _ => cases hvalue

namespace Form

theorem exists_of_value?_eq_obj {form : Form} {fields : List (String × Json)}
    (h : form.value? = some (.obj fields)) :
    ∃ forms, form = .obj forms ∧ fieldValues? forms = some fields := by
  cases form with
  | obj forms =>
    rw [value?, Option.map_eq_some_iff] at h
    obtain ⟨values, hvalues, hobj⟩ := h
    cases hobj
    exact ⟨forms, rfl, hvalues⟩
  | _ => simp [value?, decimalValue?] at h

/-- Fields with values have names. -/
theorem exists_named_of_fieldValues? {forms : List (Option String × Form)}
    {fields : List (String × Json)} (h : fieldValues? forms = some fields) :
    ∃ named : List (String × Form),
      (forms.mapM fun field => field.1.map fun name => (name, field.2)) = some named ∧
      List.Forall₂ FieldMeans named fields := by
  induction forms generalizing fields with
  | nil =>
    cases h
    exact ⟨[], rfl, .nil⟩
  | cons first rest ih =>
    obtain ⟨name, form⟩ := first
    simp only [fieldValues?, Option.bind_eq_bind, Option.bind_eq_some_iff, Option.pure_def,
      Option.some.injEq] at h
    obtain ⟨name, rfl, value, hvalue, values, hvalues, rfl⟩ := h
    obtain ⟨named, hnamed, hforms⟩ := ih hvalues
    exact ⟨(name, form) :: named, by simp [hnamed], .cons ⟨rfl, hvalue⟩ hforms⟩

/-- The fields of the form of an object have the values of its fields. -/
theorem record?_of_value? {form : Form} {fields : List (String × Json)} {names : List String}
    {values : List (Option Json)} (atLeast : Nat) (h : form.value? = some (.obj fields))
    (hvalues : Json.record? names atLeast (.obj fields) = some values) :
    ∃ forms, form.record? names atLeast = some forms ∧
      List.Forall₂ (fun form value => form.mapM value? = some value) forms values := by
  obtain ⟨forms, rfl, hfields⟩ := exists_of_value?_eq_obj h
  obtain ⟨named, hnamed, hmatch⟩ := exists_named_of_fieldValues? hfields
  change (∃ found, ((forms.mapM fun field => field.1.map fun name => (name, field.2)) >>=
    fun fields => names.mapM (single? · fields)) = some found ∧ _)
  rw [hnamed]
  change names.mapM (single? · fields) = some values at hvalues
  change ∃ found, names.mapM (single? · named) = some found ∧ _
  induction names generalizing values with
  | nil =>
    cases hvalues
    exact ⟨[], rfl, .nil⟩
  | cons name rest ih =>
    simp only [List.mapM_cons, Option.bind_eq_bind, Option.bind_eq_some_iff, Option.pure_def,
      Option.some.injEq] at hvalues
    obtain ⟨value, hvalue, later, hlater, rfl⟩ := hvalues
    obtain ⟨form, hform, hvalue⟩ := single?_of_forall₂ hmatch name hvalue
    obtain ⟨found, hfound, hrest⟩ := ih hlater
    exact ⟨form :: found, by simp [hform, hfound], .cons hvalue hrest⟩

end Form

theorem asTexts?_texts (texts : List String) : asTexts? (.arr (texts.map .str)) = some texts := by
  rw [asTexts?]
  induction texts with
  | nil => rfl
  | cons text rest ih => rw [List.map_cons, List.mapM_cons, ih, asText?]; rfl

end Json

namespace ProjectConfig

variable (config : ProjectConfig)

theorem exactUpTo_toJson : Json.ExactUpTo 2 config.toJson := by
  have hdescription : Json.ExactUpTo 1 (.ofText? config.description) := by
    cases config.description with
    | none => exact .null
    | some text => exact .str text
  have hstore : Json.ExactUpTo 1 (.obj [("path", .str config.storePath)]) :=
    .obj (by simp [Json.ExactUpTo.str])
  refine .obj ?_
  cases config.defaultProfile with
  | none => simp [Json.ExactUpTo.str, Json.ExactUpTo.bool, Json.ExactUpTo.texts, *]
  | some profile => simp [Json.ExactUpTo.str, Json.ExactUpTo.bool, Json.ExactUpTo.texts, *]

/-- The fields of a configuration as they are written. -/
theorem record?_toJson :
    config.toJson.record? fieldNames 4 =
      some [some (.str config.name), some (.ofText? config.description),
        some (.str config.configVersion), some (.obj [("path", .str config.storePath)]),
        config.defaultProfile.map fun profile => .str profile.name, some (.bool config.parallel),
        some (.arr (config.extensions.map .str))] := by
  rw [toJson]
  cases config.defaultProfile <;> rfl

theorem bind_storePath? {form : Option Json.Form} {path : String}
    (h : form.mapM Json.Form.value? = some (some (.obj [("path", .str path)]))) :
    form.bind storePath? = some path := by
  cases form with
  | none => cases h
  | some form =>
    have hvalue : form.value? = some (.obj [("path", .str path)]) := by simpa using h
    have hrecord : Json.record? ["path"] 1 (.obj [("path", .str path)]) =
        some [some (.str path)] := rfl
    obtain ⟨forms, hforms, hvalues⟩ := Json.Form.record?_of_value? 1 hvalue hrecord
    rcases hvalues with _ | ⟨hpath, _ | _⟩
    rw [Option.bind_some, storePath?, hforms]
    simp [hpath, Json.needed, Json.asText?]

theorem optional_description (text : Option String) :
    Json.optional Json.asText? (some (.ofText? text)) = some text := by
  cases text <;> rfl

theorem optional_profile (profile : Option Profile) :
    Json.optional AuditSpec.jsonProfile? (profile.map fun profile => .str profile.name) =
      some profile := by
  rcases profile with _ | _ | _ <;> rfl

/-- A form that has the value of a configuration is read as this configuration. -/
theorem ofForm?_of_value? {form : Json.Form} (h : form.value? = some config.toJson) :
    ofForm? form = some config := by
  obtain ⟨forms, hforms, hvalues⟩ := Json.Form.record?_of_value? 4 h config.record?_toJson
  rcases hvalues with _ | ⟨hname, _ | ⟨hdescription, _ | ⟨hversion, _ | ⟨hstore, _ | ⟨hprofile, _ |
    ⟨hparallel, _ | ⟨hextensions, _ | _⟩⟩⟩⟩⟩⟩⟩
  rw [ofForm?, hforms]
  simp [hname, hdescription, hversion, bind_storePath? hstore, hprofile, hparallel, hextensions,
    optional_description, optional_profile, Json.needed, Json.defaulted, Json.asText?, Json.asBool?,
    Json.asTexts?_texts]

/-- A configuration is read back. -/
theorem ofText?_pretty : ofText? config.toJson.pretty = some config := by
  have hread := Json.read?_pretty config.exactUpTo_toJson.isExact
  obtain ⟨form, hform, hvalue⟩ := Option.bind_eq_some_iff.mp hread
  rw [ofText?, hform]
  exact config.ofForm?_of_value? hvalue

end ProjectConfig

end TokenAudit
