import SearchWire.Expr.Basic

/-!
# Boolean filters

`and` and `or` over operands in order, and `not`. The operators build these
filters; a chain of one operator becomes one filter as long as the left
operand carries no parameters of its own.
-/

namespace SearchWire

namespace BooleanFilter

def new (operator : BoolOperator) (operands : List Expr) : BooleanFilter := ⟨operator, operands, []⟩

def all (operands : List Expr) : BooleanFilter := new .and operands
def any (operands : List Expr) : BooleanFilter := new .or operands

def withParam (filter : BooleanFilter) (key : String) (value : Expr) : BooleanFilter :=
  { filter with params := Entries.put key value filter.params }

def withParams (filter : BooleanFilter) (params : Params) : BooleanFilter :=
  { filter with params := Entries.merge filter.params params.entries }

def push (filter : BooleanFilter) (operand : Expr) : BooleanFilter :=
  { filter with operands := filter.operands ++ [operand] }

def size (filter : BooleanFilter) : Nat := filter.operands.length

def isEmpty (filter : BooleanFilter) : Bool := filter.operands.isEmpty

end BooleanFilter

namespace Negation

def new (operand : Expr) : Negation := ⟨operand, []⟩

def withParam (filter : Negation) (key : String) (value : Expr) : Negation :=
  { filter with params := Entries.put key value filter.params }

end Negation

namespace Expr

def ofBoolean (filter : BooleanFilter) : Expr := .node (.boolean filter)

/-- Join two operands. A left operand that already joins others in the same
way, and has no parameters, takes the right one in. -/
def combine (operator : BoolOperator) (left right : Expr) : Expr :=
  match left with
  | .node (.boolean filter) =>
    if filter.operator = operator ∧ filter.params.isEmpty then .ofBoolean (filter.push right)
    else .ofBoolean (.new operator [left, right])
  | left => .ofBoolean (.new operator [left, right])

def and (left right : Expr) : Expr := combine .and left right
def or (left right : Expr) : Expr := combine .or left right
def not (operand : Expr) : Expr := .node (.negation (.new operand))

/-- All of several filters: none, the only one, or their conjunction. -/
def joinFilters : List Expr → Option Expr
  | [] => none
  | [filter] => some filter
  | filters => some (.ofBoolean (.all filters))

end Expr

end SearchWire
