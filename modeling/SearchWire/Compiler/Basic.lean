import SearchWire.Error
import SearchWire.Expr.Field
import SearchWire.Json.Text
import SearchWire.Query.Search

/-!
# Dialects, depth and the parts of bodies

What the compilation of every node draws on: the nesting limit, the checks
of values, and the ways in which operands and parameters share an object.
-/

namespace SearchWire

inductive Dialect where
  | query
  | mapping
deriving DecidableEq

def Dialect.name : Dialect → String
  | .query => "query"
  | .mapping => "mapping"

structure Compiler where
  dialect : Dialect
  maxDepth : Nat

namespace Compiler

def enter (c : Compiler) (depth : Nat) : Result Nat :=
  if depth < c.maxDepth then .ok (depth + 1) else .error (.depthExceeded c.maxDepth)

def enterUnless (c : Compiler) (empty : Bool) (depth : Nat) : Result Nat :=
  if empty then .ok depth else c.enter depth

def unsupported (c : Compiler) (node : Node) : Error := .unsupportedNode node.tag c.dialect.name

end Compiler

namespace Json

/-- JSON has no text for infinities and for what is not a number. -/
def ofDouble (x : Double) : Result Json :=
  if x.isFinite then .ok (.float x)
  else .error (.malformedHere (x.text ++ " is not a finite number"))

def fieldName : Json → Result String
  | .string text => .ok text
  | other => .error (.malformedHere ("expected a field name, got " ++ other.text))

def weightText : Json → String
  | .string text => text
  | other => other.text

/-- Operands and the parameters beside them; a parameter wins over an
operand of its name. -/
def withParams (operands params : Entries Json) : Json := .object (Entries.merge operands params)

/-- An operand alone, or under a key of its own beside its parameters. -/
def beside (key : String) (operand : Json) (params : Entries Json) : Json :=
  if params.isEmpty then operand else withParams [(key, operand)] params

def optional (key : String) (value : Option Json) : Entries Json := (value.map (key, ·)).toList

def group (key : String) (items : List Json) : Entries Json :=
  if items.isEmpty then [] else [(key, .array items)]

def section? (key : String) (members : Entries Json) : Entries Json :=
  if members.isEmpty then [] else [(key, .object members)]

end Json

end SearchWire
