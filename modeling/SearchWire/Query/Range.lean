import SearchWire.Expr.Field

/-!
# Range queries

A range has two scopes of options: bounds and their options stand under the
field, options of the query beside it. A range is started with a bound, or
through a draft that is refused as long as it has none.
-/

namespace SearchWire

namespace Range

def boundNames : List String := ["gte", "gt", "lte", "lt", "from", "to"]
def lowerNames : List String := ["gte", "gt", "from"]
def upperNames : List String := ["lte", "lt", "to"]

def bounded (field : Expr) (bound : String) (value : Expr) : Range := ⟨field, [(bound, value)], []⟩

def withParam (range : Range) (key : String) (value : Expr) : Range :=
  { range with params := Entries.put key value range.params }

def withQueryParam (range : Range) (key : String) (value : Expr) : Range :=
  { range with queryParams := Entries.put key value range.queryParams }

def gte (range : Range) (value : Expr) : Range := range.withParam "gte" value
def gt (range : Range) (value : Expr) : Range := range.withParam "gt" value
def lte (range : Range) (value : Expr) : Range := range.withParam "lte" value
def lt (range : Range) (value : Expr) : Range := range.withParam "lt" value
def withBoost (range : Range) (boost : Double) : Range := range.withParam "boost" (.float boost)

def hasBounds (range : Range) : Bool := boundNames.any (Entries.contains · range.params)
def isUnboundedLower (range : Range) : Bool := !lowerNames.any (Entries.contains · range.params)
def isUnboundedUpper (range : Range) : Bool := !upperNames.any (Entries.contains · range.params)

/-- A range that may still lack bounds. -/
structure Draft where
  range : Range

namespace Draft

def start (field : Expr) : Draft := ⟨⟨field, [], []⟩⟩

def withParam (draft : Draft) (key : String) (value : Expr) : Draft := ⟨draft.range.withParam key value⟩
def withQueryParam (draft : Draft) (key : String) (value : Expr) : Draft :=
  ⟨draft.range.withQueryParam key value⟩

def gte (draft : Draft) (value : Expr) : Draft := draft.withParam "gte" value
def gt (draft : Draft) (value : Expr) : Draft := draft.withParam "gt" value
def lte (draft : Draft) (value : Expr) : Draft := draft.withParam "lte" value
def lt (draft : Draft) (value : Expr) : Draft := draft.withParam "lt" value

def build (draft : Draft) : Result Range :=
  if draft.range.hasBounds then .ok draft.range
  else .error (.validation "range query requires at least one of gte, gt, lte, lt, from, to")

end Draft

end Range

end SearchWire
