import SearchWire.Expr.Basic

/-!
# Fields

References to document fields: their names and paths, their declared types
and the sub-fields that index them otherwise.
-/

namespace SearchWire

namespace FieldType

def default : FieldType := .string

/-- The name of a type in a mapping; a list maps as its elements do. -/
def wireName : FieldType → String
  | .string => "string"
  | .text => "text"
  | .keyword => "keyword"
  | .integer => "integer"
  | .long => "long"
  | .float => "float"
  | .double => "double"
  | .boolean => "boolean"
  | .date => "date"
  | .binary => "binary"
  | .ip => "ip"
  | .geoPoint => "geo_point"
  | .object _ => "object"
  | .nested _ => "nested"
  | .list element => element.wireName

/-- The schema of object and nested types, seen through lists. -/
def document? : FieldType → Option Document
  | .object document => some document
  | .nested document => some document
  | .list element => element.document?
  | _ => none

def supportsRange : FieldType → Bool
  | .integer => true
  | .long => true
  | .float => true
  | .double => true
  | .date => true
  | .ip => true
  | .list element => element.supportsRange
  | _ => false

end FieldType

namespace MultiFields

def isEmpty : MultiFields → Bool
  | .none => true
  | .types named => named.isEmpty
  | .fields full => full.isEmpty

end MultiFields

namespace Field

def typed (name : String) (type : FieldType) : Field := ⟨name, none, none, type, .none, []⟩

def new (name : String) : Field := typed name .default

def path (field : Field) : String :=
  match field.subField with
  | some sub => field.name ++ "." ++ sub
  | none => field.name

def sub (field : Field) (name : String) : Field := { field with subField := some name }

def attachedTo (field : Field) (docType : String) : Field := { field with docType := some docType }

def withType (field : Field) (type : FieldType) : Field := { field with type }

/-- One more sub-field, in the form that the others have. -/
def withMultiField (field : Field) (name : String) (type : FieldType) : Field :=
  { field with
    multiFields := match field.multiFields with
      | .none => .types [(name, type)]
      | .types named => .types (Entries.put name type named)
      | .fields full => .fields (full ++ [typed name type]) }

def withMultiFields (field : Field) (multiFields : MultiFields) : Field := { field with multiFields }

def withOption (field : Field) (key : String) (value : Expr) : Field :=
  { field with options := Entries.put key value field.options }

end Field

namespace MetaField

def new (name : String) : MetaField := ⟨name, []⟩

def withOption (field : MetaField) (key : String) (value : Expr) : MetaField :=
  { field with options := Entries.put key value field.options }

def id : MetaField := new "_id"
def source : MetaField := new "_source"
def all : MetaField := new "_all"
def routing : MetaField := new "_routing"
def timestamp : MetaField := new "_timestamp"
def ttl : MetaField := new "_ttl"

def parent (docType : String) : MetaField := (new "_parent").withOption "type" (.string docType)

end MetaField

end SearchWire
