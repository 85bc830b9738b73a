import SearchWire.Document.Glob
import SearchWire.Error
import SearchWire.Expr.Field

/-!
# Document schemas

A schema is drafted call by call and checked once, when it is built: the
type has a name, and so has every declared field, each a different one.
Fields are then looked up by name: a declared field, a sub-field of one,
the first template that matches, and on dynamic documents any other name.
-/

namespace SearchWire

namespace Document

def schemaless (docType : String) : Document := ⟨docType, true, [], [], [], []⟩

structure Draft where
  docType : String
  dynamic : Bool
  options : Params
  metaFields : List MetaField
  fields : List Field
  templates : List Field

namespace Draft

def start (docType : String) : Draft := ⟨docType, false, .empty, [], [], []⟩

def withDynamic (draft : Draft) (dynamic : Bool) : Draft := { draft with dynamic }
def withOption (draft : Draft) (key : String) (value : Expr) : Draft :=
  { draft with options := draft.options.put key value }
def addMetaField (draft : Draft) (field : MetaField) : Draft :=
  { draft with metaFields := draft.metaFields ++ [field] }
def addField (draft : Draft) (field : Field) : Draft := { draft with fields := draft.fields ++ [field] }

/-- The name of a template is a pattern for the names of fields. -/
def addTemplate (draft : Draft) (field : Field) : Draft :=
  { draft with templates := draft.templates ++ [field] }

/-- The first name that is empty or among those before it. -/
def nameFault? (seen : List String) : List Field → Option (Option String)
  | [] => none
  | field :: rest =>
    if field.name = "" then some none
    else if field.name ∈ seen then some (some field.name)
    else nameFault? (field.name :: seen) rest

def build (draft : Draft) : Result Document :=
  if draft.docType = "" then .error (.validation "document type name cannot be empty")
  else match nameFault? [] draft.fields with
    | some none => .error (.validation (draft.docType ++ ": field name cannot be empty"))
    | some (some name) =>
      .error (.validation (draft.docType ++ ": field `" ++ name ++ "` is declared twice"))
    | none => .ok {
        docType := draft.docType
        dynamic := draft.dynamic
        options := draft.options.entries
        metaFields := draft.metaFields
        fields := draft.fields.map (·.attachedTo draft.docType)
        templates := draft.templates }

end Draft

def declared? (document : Document) (name : String) : Option Field :=
  document.fields.find? (·.name == name)

def template? (document : Document) (name : String) : Option Field :=
  document.templates.find? (Glob.isMatch ·.name name)

/-- What stands before and behind the first point of a name. -/
def splitName? (name : String) : Option (String × String) :=
  match name.toList.dropWhile (· != '.') with
  | [] => none
  | _ :: rest => some (String.ofList (name.toList.takeWhile (· != '.')), String.ofList rest)

def declaredSub? (document : Document) (name : String) : Option Field := do
  let (head, rest) ← splitName? name
  return (← document.declared? head).sub rest

def field (document : Document) (name : String) : Result Field :=
  match document.declared? name <|> document.declaredSub? name with
  | some field => .ok field
  | none =>
    match document.template? name with
    | some template => .ok ((Field.typed name template.type).attachedTo document.docType)
    | none =>
      if document.dynamic then .ok ((Field.new name).attachedTo document.docType)
      else .error (.unknownField document.docType name)

end Document

end SearchWire
