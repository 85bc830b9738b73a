import SearchWire.Error.Position

/-!
# Errors

Every failure has a cause of its own. A malformed value also says where in
the body it stands; the place grows from the inside out, one step for each
container that reports it.
-/

namespace SearchWire

inductive Step where
  | key (name : String)
  | index (position : Nat)
deriving DecidableEq

abbrev Path := List Step

namespace Path

def stepChars : Step → List Char
  | .key name => name.toList
  | .index position => '[' :: Nat.toDigits 10 position ++ [']']

/-- A point sets off what follows, unless that opens with a bracket or is
empty. -/
def setOff : List Char → List Char
  | [] => []
  | '[' :: rest => '[' :: rest
  | rest => '.' :: rest

def chars : Path → List Char
  | [] => []
  | step :: rest => stepChars step ++ setOff (chars rest)

def text (path : Path) : String := String.ofList (chars path)

end Path

inductive Error where
  | unsupportedNode (tag dialect : String)
  | malformed (path : Path) (reason : String)
  | validation (reason : String)
  | unknownField (docType field : String)
  | depthExceeded (limit : Nat)
  | serialization (reason : String)
deriving DecidableEq

namespace Error

/-- A malformed value, seen from the value itself. -/
def malformedHere (reason : String) : Error := .malformed [] reason

def unserializable (reason : String) : Error := .serialization (Position.settle reason)

/-- The same error seen from one container further out. -/
def within (step : Step) : Error → Error
  | .malformed path reason => .malformed (step :: path) reason
  | error => error

def atKey (name : String) (error : Error) : Error := error.within (.key name)
def atIndex (position : Nat) (error : Error) : Error := error.within (.index position)

def path? : Error → Option String
  | .malformed path _ => some path.text
  | _ => none

/-- The library was used wrongly, whatever the data. -/
def isProgrammingError : Error → Bool
  | .unsupportedNode .. => true
  | .depthExceeded _ => true
  | _ => false

def message : Error → String
  | .unsupportedNode tag dialect =>
    "Node `" ++ tag ++ "` is not supported by the " ++ dialect ++ " compiler"
  | .malformed path reason => "Malformed parameter at `" ++ path.text ++ "`: " ++ reason
  | .validation reason => "Validation error: " ++ reason
  | .unknownField docType field =>
    "Unknown field `" ++ field ++ "` on document type `" ++ docType ++ "`"
  | .depthExceeded limit =>
    "Expression nesting exceeds the limit of " ++ toString limit ++ " levels"
  | .serialization reason => "Serialization error: " ++ reason

end Error

abbrev Result := Except Error

def Result.atKey {α : Type} (name : String) : Result α → Result α := Except.mapError (Error.atKey name)
def Result.atIndex {α : Type} (position : Nat) : Result α → Result α :=
  Except.mapError (Error.atIndex position)

end SearchWire
