import SearchWire.Error
import SearchWire.Settings

/-!
# Expressions and nodes

An expression is plain data, finished JSON, or a node with a meaning of its
own: queries, filters, sorts, aggregations, whole searches, and the fields
and documents of a schema. Every place that takes "anything" holds an
expression, so all of these types are defined together.

Parameters, options, sub-aggregations and typed sub-fields are entries in
insertion order. Their distinct keys cannot be asked for inside the types that
are defined here, as these are nested in their own entries; whole containers
are handed over as `Params`.
-/

namespace SearchWire

mutual
inductive Expr where
  | null
  | bool (value : Bool)
  | int (value : Int)
  | float (value : Double)
  | string (text : String)
  | list (items : List Expr)
  | map (entries : List (String × Expr))
  /-- JSON that is emitted as it is. -/
  | raw (json : Json)
  | node (node : Node)

inductive Node where
  | field (field : Field)
  | metaField (field : MetaField)
  | boost (boost : Boost)
  | fieldQuery (query : FieldQuery)
  | named (query : NamedQuery)
  | range (range : Range)
  | terms (terms : Terms)
  | multiMatch (query : MultiMatch)
  | wrapped (query : WrappedQuery)
  | boolean (filter : BooleanFilter)
  | negation (filter : Negation)
  | sort (clause : SortClause)
  | aggregation (aggregation : Aggregation)
  | source (source : SourceFilter)
  | rescore (rescorer : Rescorer)
  | search (search : Search)
  | document (document : Document)

structure Field where
  name : String
  subField : Option String
  /-- The document type that the field was resolved from. -/
  docType : Option String
  type : FieldType
  multiFields : MultiFields
  options : List (String × Expr)

inductive FieldType where
  | string
  | text
  | keyword
  | integer
  | long
  | float
  | double
  | boolean
  | date
  | binary
  | ip
  | geoPoint
  | object (document : Document)
  | nested (document : Document)
  | list (element : FieldType)

/-- Sub-fields that index one value in several ways. -/
inductive MultiFields where
  | none
  | types (types : List (String × FieldType))
  | fields (fields : List Field)

structure MetaField where
  name : String
  options : List (String × Expr)

structure Document where
  docType : String
  /-- Undeclared fields are accepted. -/
  dynamic : Bool
  options : List (String × Expr)
  metaFields : List MetaField
  fields : List Field
  /-- Fields whose names are patterns for undeclared fields. -/
  templates : List Field

structure Boost where
  target : Expr
  weight : Expr

structure FieldQuery where
  kind : FieldQueryKind
  field : Expr
  operand : Expr
  params : List (String × Expr)

structure NamedQuery where
  name : String
  params : List (String × Expr)

structure Range where
  field : Expr
  /-- Bounds and options under the field. -/
  params : List (String × Expr)
  /-- Options beside the field. -/
  queryParams : List (String × Expr)

structure Terms where
  field : Expr
  values : List Expr
  params : List (String × Expr)

structure MultiMatch where
  operand : Expr
  fields : List Expr
  params : List (String × Expr)

/-- A query used where a filter is expected. -/
structure WrappedQuery where
  query : Expr
  params : List (String × Expr)

structure BooleanFilter where
  operator : BoolOperator
  operands : List Expr
  params : List (String × Expr)

structure Negation where
  operand : Expr
  params : List (String × Expr)

structure SortClause where
  target : Expr
  order : Option SortOrder
  params : List (String × Expr)

inductive Aggregation where
  | metric (name : String) (params : List (String × Expr))
  | bucket (name : String) (params : List (String × Expr)) (subs : List (String × Aggregation))
  | filter (filter : Expr) (subs : List (String × Aggregation))

inductive SourceFilter where
  | disabled
  | fields (fields : List Expr)
  | patterns (included excluded : List Expr)

structure Rescorer where
  query : Expr
  windowSize : Option Nat
  queryWeight : Option Double
  rescoreQueryWeight : Option Double
  scoreMode : Option ScoreMode

/-- A search request, with the settings that it is compiled with. -/
structure Search where
  query : Option Expr
  filters : List Expr
  postFilters : List Expr
  sorts : List Expr
  source : Option SourceFilter
  aggregations : List (String × Aggregation)
  limit : Option Nat
  offset : Option Nat
  rescorers : List Rescorer
  config : Config
end

abbrev Params := Container Expr
abbrev Aggregations := Entries Aggregation

instance : Inhabited Expr := ⟨.null⟩

namespace Node

def tag : Node → String
  | .field _ => "field"
  | .metaField _ => "mapping_field"
  | .boost _ => "boost_expression"
  | .fieldQuery _ => "field_query"
  | .named _ => "query_expression"
  | .range _ => "range"
  | .terms _ => "terms"
  | .multiMatch _ => "multi_match"
  | .wrapped _ => "query"
  | .boolean _ => "boolean_expression"
  | .negation _ => "not"
  | .sort _ => "sort"
  | .aggregation (.metric ..) => "agg"
  | .aggregation (.bucket ..) => "bucket_agg"
  | .aggregation (.filter ..) => "filter_agg"
  | .source _ => "source"
  | .rescore _ => "rescore"
  | .search _ => "search_query"
  | .document _ => "document"

end Node

namespace Expr

/-- A natural number; one that does not fit a signed 64-bit integer is
finished JSON. -/
def ofNat (n : Nat) : Expr := if n < Nat.pow 2 63 then .int n else .raw (.int n)

def ofMatchOperator (operator : MatchOperator) : Expr := .string operator.text
def ofSortOrder (order : SortOrder) : Expr := .string order.text
def ofScoreMode (mode : ScoreMode) : Expr := .string mode.text

def ofMinimumShouldMatch : MinimumShouldMatch → Expr
  | .count clauses => .ofNat clauses
  | .percentage text => .string text

def ofParams (params : Params) : Expr := .map params.entries

def ofField (field : Field) : Expr := .node (.field field)

def node? : Expr → Option Node
  | .node inner => some inner
  | _ => none

def string? : Expr → Option String
  | .string text => some text
  | _ => none

def isNull : Expr → Bool
  | .null => true
  | _ => false

end Expr

end SearchWire
