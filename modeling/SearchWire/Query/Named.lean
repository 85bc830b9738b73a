import SearchWire.Expr.Basic

/-!
# Named queries

Queries and filters that are a name around parameters, and the `bool` query
that becomes one.
-/

namespace SearchWire

namespace NamedQuery

def new (name : String) (params : Params) : NamedQuery := ⟨name, params.entries⟩

def withParam (query : NamedQuery) (key : String) (value : Expr) : NamedQuery :=
  { query with params := Entries.put key value query.params }

def matchAll : NamedQuery := ⟨"match_all", []⟩
def existing (field : Expr) : NamedQuery := ⟨"exists", [("field", field)]⟩
def missing (field : Expr) : NamedQuery := ⟨"missing", [("field", field)]⟩
def ids (values : List Expr) : NamedQuery := ⟨"ids", [("values", .list values)]⟩

/-- At most so many documents of each shard. -/
def limit (value : Nat) : NamedQuery := ⟨"limit", [("value", .ofNat value)]⟩

def filtered (query : Option Expr) (filter : Expr) : NamedQuery :=
  ⟨"filtered", (query.map ("query", ·)).toList ++ [("filter", filter)]⟩

def disMax (queries : List Expr) : NamedQuery := ⟨"dis_max", [("queries", .list queries)]⟩
def constantScore (filter : Expr) : NamedQuery := ⟨"constant_score", [("filter", filter)]⟩
def constantScoreQuery (query : Expr) : NamedQuery := ⟨"constant_score", [("query", query)]⟩
def nested (path query : Expr) : NamedQuery := ⟨"nested", [("path", path), ("query", query)]⟩

def hasParent (parentType : String) (query : Expr) : NamedQuery :=
  ⟨"has_parent", [("parent_type", .string parentType), ("query", query)]⟩

def hasChild (childType : String) (query : Expr) : NamedQuery :=
  ⟨"has_child", [("type", .string childType), ("query", query)]⟩

def boosting (positive negative : Expr) (negativeBoost : Double) : NamedQuery :=
  ⟨"boosting",
    [("positive", positive), ("negative", negative), ("negative_boost", .float negativeBoost)]⟩

def functionScore (query : Expr) (functions : List Params) : NamedQuery :=
  ⟨"function_score", [("query", query), ("functions", .list (functions.map .ofParams))]⟩

end NamedQuery

namespace WrappedQuery

def new (query : Expr) : WrappedQuery := ⟨query, []⟩

def withParam (query : WrappedQuery) (key : String) (value : Expr) : WrappedQuery :=
  { query with params := Entries.put key value query.params }

end WrappedQuery

structure BoolQuery where
  must : List Expr
  /-- Clauses that must match and do not score. -/
  filter : List Expr
  should : List Expr
  mustNot : List Expr
  minimumShouldMatch : Option MinimumShouldMatch
  boost : Option Double

namespace BoolQuery

def empty : BoolQuery := ⟨[], [], [], [], none, none⟩

def addMust (query : BoolQuery) (clause : Expr) : BoolQuery := { query with must := query.must ++ [clause] }
def addFilter (query : BoolQuery) (clause : Expr) : BoolQuery :=
  { query with filter := query.filter ++ [clause] }
def addShould (query : BoolQuery) (clause : Expr) : BoolQuery :=
  { query with should := query.should ++ [clause] }
def addMustNot (query : BoolQuery) (clause : Expr) : BoolQuery :=
  { query with mustNot := query.mustNot ++ [clause] }
def withMinimumShouldMatch (query : BoolQuery) (minimum : MinimumShouldMatch) : BoolQuery :=
  { query with minimumShouldMatch := some minimum }
def withBoost (query : BoolQuery) (boost : Double) : BoolQuery := { query with boost := some boost }

def clauseCount (query : BoolQuery) : Nat :=
  query.must.length + query.filter.length + query.should.length + query.mustNot.length

def isEmpty (query : BoolQuery) : Bool := query.clauseCount = 0

def group (key : String) (clauses : List Expr) : Entries Expr :=
  if clauses.isEmpty then [] else [(key, .list clauses)]

/-- The parameters in their fixed order, whatever the order of the calls. -/
def toNamed (query : BoolQuery) : NamedQuery :=
  ⟨"bool", group "must" query.must ++ group "filter" query.filter ++ group "should" query.should ++
    group "must_not" query.mustNot ++
    (query.minimumShouldMatch.map (("minimum_should_match", .ofMinimumShouldMatch ·))).toList ++
    (query.boost.map (("boost", .float ·))).toList⟩

end BoolQuery

end SearchWire
