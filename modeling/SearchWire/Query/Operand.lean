import SearchWire.Query.Boolean
import SearchWire.Query.Named
import SearchWire.Query.Range

/-!
# Queries of fields

Queries that match one field, or several, against an operand, and the short
ways to start one from a field.
-/

namespace SearchWire

namespace Boost

def new (target weight : Expr) : Boost := ⟨target, weight⟩

end Boost

namespace FieldQuery

def new (kind : FieldQueryKind) (field operand : Expr) : FieldQuery := ⟨kind, field, operand, []⟩

def withParam (query : FieldQuery) (key : String) (value : Expr) : FieldQuery :=
  { query with params := Entries.put key value query.params }

def withParams (query : FieldQuery) (params : Params) : FieldQuery :=
  { query with params := Entries.merge query.params params.entries }

def withBoost (query : FieldQuery) (boost : Double) : FieldQuery := query.withParam "boost" (.float boost)

def withOperator (query : FieldQuery) (operator : MatchOperator) : FieldQuery :=
  query.withParam "operator" (.ofMatchOperator operator)

def withAnalyzer (query : FieldQuery) (analyzer : String) : FieldQuery :=
  query.withParam "analyzer" (.string analyzer)

/-- The operand stands under a key of its own, beside the parameters. -/
def isLongForm (query : FieldQuery) : Bool := !query.params.isEmpty

end FieldQuery

namespace Terms

def new (field : Expr) (values : List Expr) : Terms := ⟨field, values, []⟩

def addTerm (query : Terms) (value : Expr) : Terms := { query with values := query.values ++ [value] }

def withParam (query : Terms) (key : String) (value : Expr) : Terms :=
  { query with params := Entries.put key value query.params }

def withBoost (query : Terms) (boost : Double) : Terms := query.withParam "boost" (.float boost)

end Terms

namespace MultiMatch

def new (operand : Expr) (fields : List Expr) : MultiMatch := ⟨operand, fields, []⟩

def withParam (query : MultiMatch) (key : String) (value : Expr) : MultiMatch :=
  { query with params := Entries.put key value query.params }

def withType (query : MultiMatch) (type : String) : MultiMatch := query.withParam "type" (.string type)

end MultiMatch

namespace SortClause

def new (target : Expr) : SortClause := ⟨target, none, []⟩

def withOrder (clause : SortClause) (order : SortOrder) : SortClause := { clause with order := some order }
def asc (clause : SortClause) : SortClause := clause.withOrder .asc
def desc (clause : SortClause) : SortClause := clause.withOrder .desc

def withParam (clause : SortClause) (key : String) (value : Expr) : SortClause :=
  { clause with params := Entries.put key value clause.params }

end SortClause

namespace Field

def query (field : Field) (kind : FieldQueryKind) (operand : Expr) : FieldQuery :=
  .new kind (.ofField field) operand

def term (field : Field) (value : Expr) : FieldQuery := field.query .term value
def matching (field : Field) (text : Expr) : FieldQuery := field.query .matching text
def matchPhrase (field : Field) (text : Expr) : FieldQuery := field.query .matchPhrase text
def startsWith (field : Field) (value : Expr) : FieldQuery := field.query .startsWith value
def wildcard (field : Field) (pattern : Expr) : FieldQuery := field.query .wildcard pattern
def regexp (field : Field) (pattern : Expr) : FieldQuery := field.query .regexp pattern
def fuzzy (field : Field) (value : Expr) : FieldQuery := field.query .fuzzy value
def terms (field : Field) (values : List Expr) : Terms := .new (.ofField field) values

def range (field : Field) : Range.Draft := .start (.ofField field)
def gte (field : Field) (value : Expr) : Range := .bounded (.ofField field) "gte" value
def gt (field : Field) (value : Expr) : Range := .bounded (.ofField field) "gt" value
def lte (field : Field) (value : Expr) : Range := .bounded (.ofField field) "lte" value
def lt (field : Field) (value : Expr) : Range := .bounded (.ofField field) "lt" value

def existing (field : Field) : NamedQuery := .existing (.ofField field)
def missing (field : Field) : NamedQuery := .missing (.ofField field)
def asc (field : Field) : SortClause := (SortClause.new (.ofField field)).asc
def desc (field : Field) : SortClause := (SortClause.new (.ofField field)).desc
def boost (field : Field) (weight : Double) : Boost := .new (.ofField field) (.float weight)

end Field

end SearchWire
