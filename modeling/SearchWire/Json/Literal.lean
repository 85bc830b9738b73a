import SearchWire.Json.Token

/-!
# JSON documents as written

A literal keeps what the text says: repeated members, number digits, escape
codes. Its value is a `Json`, in which a repeated member has kept its first
place and its last value. A part that is never looked at needs no value, so
that a settings reader can pass over members that it does not know.
-/

namespace SearchWire.Json

inductive Literal where
  | null
  | bool (value : Bool)
  | number (numeral : Numeral)
  | string (codes : Codes)
  | array (items : List Literal)
  | object (members : List (Codes × Literal))

namespace Literal

/-- A container that is not closed yet, its last item first. -/
inductive Open where
  | array (items : List Literal)
  | object (members : List (Codes × Literal))
  | member (members : List (Codes × Literal)) (key : Codes)

inductive Expected where
  | value
  | valueOrClose
  | key
  | keyOrClose
  | colon
  | commaOrClose

inductive State where
  | reading (containers : List Open) (expected : Expected)
  | finished (value : Literal)

def State.add (value : Literal) : List Open → Option State
  | [] => some (.finished value)
  | .array items :: rest => some (.reading (.array (value :: items) :: rest) .commaOrClose)
  | .member members key :: rest =>
    some (.reading (.object ((key, value) :: members) :: rest) .commaOrClose)
  | .object _ :: _ => none

def State.close (containers : List Open) (token : Token) : Option State :=
  match containers, token with
  | .array items :: rest, .closeArray => State.add (.array items.reverse) rest
  | .object members :: rest, .closeObject => State.add (.object members.reverse) rest
  | _, _ => none

def State.value (containers : List Open) : Token → Option State
  | .openArray => some (.reading (.array [] :: containers) .valueOrClose)
  | .openObject => some (.reading (.object [] :: containers) .keyOrClose)
  | .null => State.add .null containers
  | .bool value => State.add (.bool value) containers
  | .number numeral => State.add (.number numeral) containers
  | .string codes => State.add (.string codes) containers
  | _ => none

def State.key (containers : List Open) (token : Token) : Option State :=
  match containers, token with
  | .object members :: rest, .string codes => some (.reading (.member members codes :: rest) .colon)
  | _, _ => none

def State.step (state : State) (token : Token) : Option State :=
  match state with
  | .finished _ => none
  | .reading containers expected =>
    match expected, token, containers with
    | .value, token, _ => State.value containers token
    | .valueOrClose, .closeArray, _ => State.close containers .closeArray
    | .valueOrClose, token, _ => State.value containers token
    | .key, token, _ => State.key containers token
    | .keyOrClose, .closeObject, _ => State.close containers .closeObject
    | .keyOrClose, token, _ => State.key containers token
    | .colon, .colon, _ => some (.reading containers .value)
    | .commaOrClose, .comma, .array _ :: _ => some (.reading containers .value)
    | .commaOrClose, .comma, .object _ :: _ => some (.reading containers .key)
    | .commaOrClose, token, _ => State.close containers token
    | _, _, _ => none

def readAll (state : State) : List Token → Option Literal
  | [] =>
    match state with
    | .finished value => some value
    | .reading .. => none
  | token :: rest => (state.step token).bind (readAll · rest)

def ofText? (text : String) : Option Literal :=
  (Token.scan? text).bind (readAll (.reading [] .value))

mutual
/-- The value, in at most `levels` levels of arrays and objects. -/
def value? : Literal → Nat → Option Json
  | .null, _ => some .null
  | .bool value, _ => some (.bool value)
  | .number numeral, _ => numeral.value?
  | .string codes, _ => codes.text?.map .string
  | .array items, levels + 1 => (itemValues? items levels).map .array
  | .object members, levels + 1 => (memberValues? members levels).map fun ms => .object (Entries.ofPairs ms)
  | _, 0 => none
def itemValues? : List Literal → Nat → Option (List Json)
  | [], _ => some []
  | item :: rest, levels => do return (← value? item levels) :: (← itemValues? rest levels)
def memberValues? : List (Codes × Literal) → Nat → Option (List (String × Json))
  | [], _ => some []
  | (codes, literal) :: rest, levels => do
    return (← codes.text?, ← value? literal levels) :: (← memberValues? rest levels)
end

end Literal

/-- Levels of arrays and objects that a text may nest. -/
def greatestNesting : Nat := 127

def ofText? (text : String) : Option Json :=
  (Literal.ofText? text).bind (·.value? greatestNesting)

end SearchWire.Json
