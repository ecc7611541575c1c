import InvoiceReadiness.Json.Reader
import InvoiceReadiness.Registry.Field
import InvoiceReadiness.Value.Shown

/-!
# The registry of a release

A registry is kept in a file with an object whose member `fields` lists the
fields. The file is refused as a whole if one of them lacks its identifier or its
business term, so that nothing is reported against half a registry.
-/

namespace InvoiceReadiness

/-- The fields of a release, and what the release says about itself. -/
structure Registry where
  specId : String
  version : String
  description : String
  effectiveDate : String
  fields : List Registry.Field

namespace Registry

/-- The fields that entries describe; `position` is that of the first entry. -/
def fieldsOf (position : Nat) : List Value → Result (List Field)
  | [] => .ok []
  | entry :: rest =>
    match entry with
    | .object members => do
      let r : Record := ⟨members⟩
      if !(r.get "dr_id").isFilled || !(r.get "business_term").isFilled then
        throw (.registry (.incompleteField position))
      let field ← Field.ofRecord r
      let more ← fieldsOf (position + 1) rest
      return field :: more
    | _ => .error (.registry (.incompleteField position))

/-- The text of a member that describes a release; empty if it is absent. -/
def labelOf (release : Record) (name : String) : Result String :=
  if release.has name then (release.get name).shown else .ok ""

/-- The registry that a value describes. -/
def ofValue (v : Value) : Result Registry := do
  match v with
  | .object members =>
    let release : Record := ⟨members⟩
    match release.get "fields" with
    | .list entries =>
      let fields ← fieldsOf 0 entries
      return {
        specId := ← labelOf release "specId"
        version := ← labelOf release "version"
        description := ← labelOf release "description"
        effectiveDate := ← labelOf release "effectiveDate"
        fields }
    | _ => throw (.registry .noFields)
  | _ => throw (.registry .noFields)

/-- The registry that a text writes. -/
def ofText (s : String) : Result Registry :=
  match Json.read Json.fileLimits s with
  | .ok v => ofValue v
  | .error .malformedJson => .error (.registry .notJson)
  | .error fault => .error fault

/-- The registry that a file holds; there may be no file. -/
def ofFile (content : Option String) : Result Registry :=
  match content with
  | some s => ofText s
  | none => .error (.registry .unreadable)

/-- The registry that a file of bytes holds. -/
def ofBytes (bytes : ByteArray) : Result Registry :=
  match String.fromUTF8? bytes with
  | some s => ofText s
  | none => .error .malformedUtf8

/-- The first field with an identifier. -/
def find? (registry : Registry) (id : Value) : Option Field :=
  registry.fields.find? fun f => f.id.same id

end Registry

end InvoiceReadiness
