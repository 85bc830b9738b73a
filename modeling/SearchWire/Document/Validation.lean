import SearchWire.Document.Glob
import SearchWire.Error
import SearchWire.Expr.Field
import SearchWire.Json.Text

/-!
# Validation of source documents

Values are checked against declared types. A missing value passes for every
type, a list takes single values for items, and objects are checked against
their own schemas. The first offence is reported, with the documents and
keys on the way to it.
-/

namespace SearchWire

namespace FieldType

def mismatch (type : FieldType) (value : Json) : Error :=
  .validation (type.wireName ++ " field does not accept value " ++ value.text)

/-- A pair of numbers, or an object with both coordinates; a string is not
looked into. -/
def acceptsGeoPoint : Json → Bool
  | .string _ => true
  | .array [a, b] => a.isNumber && b.isNumber
  | .object members => Entries.contains "lat" members && Entries.contains "lon" members
  | _ => false

def acceptsPlain : FieldType → Json → Bool
  | .string, .string _ => true
  | .text, .string _ => true
  | .keyword, .string _ => true
  | .binary, .string _ => true
  | .ip, .string _ => true
  | .integer, .int n => -Int.pow 2 31 ≤ n && n < Int.pow 2 31
  | .long, .int _ => true
  | .float, value => value.isNumber
  | .double, value => value.isNumber
  | .boolean, .bool _ => true
  | .date, .string _ => true
  | .date, .int _ => true
  | .geoPoint, value => acceptsGeoPoint value
  | _, _ => false

end FieldType

def Error.inMember (docType name : String) : Error → Error
  | .validation reason => .validation (docType ++ "." ++ name ++ ": " ++ reason)
  | error => error

mutual
def FieldType.validate : FieldType → Json → Result Unit
  | _, .null => .ok ()
  | .object document, value =>
    match value with
    | .object members => document.validateMembers members
    | value => .error (FieldType.mismatch (.object document) value)
  | .nested document, value =>
    match value with
    | .object members => document.validateMembers members
    | value => .error (FieldType.mismatch (.nested document) value)
  | .list element, value =>
    match value with
    | .array items => items.forM (fun item => element.validate item)
    | value => element.validate value
  | type, value => if type.acceptsPlain value then .ok () else .error (type.mismatch value)

/-- Members in their order, each by its declared field, else by the first
template that matches. -/
def Document.validateMembers : Document → List (String × Json) → Result Unit
  | ⟨docType, dynamic, _, _, fields, templates⟩, members =>
    members.forM fun (name, value) =>
      Except.mapError (Error.inMember docType name) (
        match validateDeclared fields name value with
        | some result => result
        | none =>
          match validateMatching templates name value with
          | some result => result
          | none => if dynamic then .ok () else .error (.unknownField docType name))

def validateDeclared : List Field → String → Json → Option (Result Unit)
  | [], _, _ => none
  | ⟨fieldName, _, _, type, _, _⟩ :: rest, name, value =>
    if fieldName == name then some (type.validate value) else validateDeclared rest name value

def validateMatching : List Field → String → Json → Option (Result Unit)
  | [], _, _ => none
  | ⟨pattern, _, _, type, _, _⟩ :: rest, name, value =>
    if Glob.isMatch pattern name then some (type.validate value) else validateMatching rest name value
end

def Document.validate (document : Document) (source : Json) : Result Unit :=
  match source with
  | .object members => document.validateMembers members
  | source =>
    .error (.validation (document.docType ++ " document must be an object, got " ++ source.text))

end SearchWire
