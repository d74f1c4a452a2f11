import RecordTags.Field.Cell
import RecordTags.Json.Read
import RecordTags.Options
import RecordTags.Record

/-!
Contract: records that are declared by a JSON text.

Owns: `Schema`, its encoding, its reading from a text, the rules that its field
names obey, and the zero record that it declares.
-/

namespace RecordTags

open RecordTags.Json RecordTags.Text

structure FieldSpec where
  name : String
  type : FieldType
deriving DecidableEq, Repr

/-- The declaration of a record, with the options of binding into it. -/
structure Schema where
  fields : List FieldSpec
  options : BindOptions
deriving DecidableEq, Repr

/-! ## Rules -/

inductive SchemaFault where
  | noFields
  | blankName
  | repeatedName (name : String)
  /-- A name that differs from an earlier one but has the same form. -/
  | collision (name form : String)
deriving DecidableEq, Repr

namespace SchemaFault

/-- The field at fault, or the list of fields. -/
def subject : SchemaFault → String
  | noFields | blankName => "fields"
  | repeatedName name | collision name _ => name

def reason : SchemaFault → String
  | noFields => "must declare at least one field"
  | blankName => "field names must not be empty"
  | repeatedName _ => "declared more than once"
  | collision _ form => "collides with another field as " ++ quoted form

def message (fault : SchemaFault) : String :=
  "invalid " ++ fault.subject ++ ": " ++ fault.reason

end SchemaFault

/-- Why a text is no schema. -/
inductive SchemaError where
  | misfit (misfit : Misfit)
  | fault (fault : SchemaFault)
deriving DecidableEq, Repr

namespace SchemaError

def message : SchemaError → String
  | misfit .shape => "invalid schema JSON: not a schema"
  | misfit (.unknownType written) =>
    "invalid schema JSON: " ++ FieldType.unknownMessage written
  | fault broken => broken.message

end SchemaError

/-- The first fault of the names in a list, behind names that are fine. -/
def firstNameFault (style : NameStyle) : (earlier : List String) → List String →
    Option SchemaFault
  | _, [] => none
  | earlier, name :: rest =>
    let form := style.normalize name
    if (trim name.toList).isEmpty then some .blankName
    else if earlier.contains name then some (.repeatedName name)
    else if (earlier.map style.normalize).contains form then some (.collision name form)
    else firstNameFault style (earlier ++ [name]) rest

namespace Schema

def names (schema : Schema) : List String := schema.fields.map FieldSpec.name

/-- The first rule that a schema breaks: it has a field, and its names are not
blank and differ, also in the form in which they are compared. -/
def fault? (schema : Schema) : Option SchemaFault :=
  if schema.fields.isEmpty then some .noFields
  else firstNameFault schema.options.naming [] schema.names

def record (schema : Schema) : Record Cell :=
  { fields := schema.fields.map fun field => (field.name, .zero field.type) }

/-! ## Encoding -/

def toJson (schema : Schema) : Json :=
  .object
    [("fields", Json.ofList
        (fun field => .object [("name", .string field.name), ("type", field.type.toJson)])
        schema.fields),
      ("options", schema.options.toJson)]

end Schema

def FieldSpec.decode : Decoder FieldSpec :=
  decodeStructure
    [ { name := "name", presence := .required, store := fun field json =>
          (decodeString json).map fun name => { field with name } },
      { name := "type", presence := .required, store := fun field json =>
          (FieldType.decode json).map fun type => { field with type } } ]
    { name := "", type := .bool }

namespace Schema

def decode : Decoder Schema :=
  decodeStructure
    [ { name := "fields", presence := .required, store := fun schema json =>
          (decodeList FieldSpec.decode json).map fun fields => { schema with fields } },
      { name := "options", presence := .defaulted, store := fun schema json =>
          (BindOptions.decode json).map fun options => { schema with options } } ]
    { fields := [], options := {} }

/-- The schema that a text declares, whatever its names. A text that stops
being JSON is reported for an unknown type that comes before the fault. -/
def ofJsonText (text : String) : Except Misfit Schema :=
  match Json.read text with
  | .ok json => decode json
  | .error part =>
    match decode part with
    | .error (.unknownType written) => .error (.unknownType written)
    | _ => .error .shape

/-- The schema that a text declares, if its names obey the rules. -/
def ofText (text : String) : Except SchemaError Schema :=
  match ofJsonText text with
  | .error misfit => .error (.misfit misfit)
  | .ok schema =>
    match schema.fault? with
    | some fault => .error (.fault fault)
    | none => .ok schema

end Schema

namespace Record

/-- The value of the first field with exactly this name. -/
def storedAt? (record : Record Cell) (name : String) : Option Stored :=
  (List.lookup name record.fields).map Cell.stored

/-- A record as an object, in the order of its fields. -/
def toJson (record : Record Cell) : Json :=
  .object (record.fields.map fun (name, cell) => (name, cell.stored.toJson))

end Record

end RecordTags
