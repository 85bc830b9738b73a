import SearchWire.Query.Aggregation
import SearchWire.Query.Boolean
import SearchWire.Query.Named

/-!
# Searches

A search gathers the parts of a request body. Several filters are joined
into one, and a query under filters is a `filtered` query.
-/

namespace SearchWire

namespace SourceFilter

def including (fields : List Expr) : SourceFilter := .patterns fields []
def excluding (fields : List Expr) : SourceFilter := .patterns [] fields

/-- Nothing is selected that would not be returned anyway. -/
def isEmpty : SourceFilter → Bool
  | .disabled => false
  | .fields names => names.isEmpty
  | .patterns included excluded => included.isEmpty && excluded.isEmpty

end SourceFilter

namespace Rescorer

def new (query : Expr) : Rescorer := ⟨query, none, none, none, none⟩

def withWindowSize (rescorer : Rescorer) (size : Nat) : Rescorer := { rescorer with windowSize := some size }
def withQueryWeight (rescorer : Rescorer) (weight : Double) : Rescorer :=
  { rescorer with queryWeight := some weight }
def withRescoreQueryWeight (rescorer : Rescorer) (weight : Double) : Rescorer :=
  { rescorer with rescoreQueryWeight := some weight }
def withScoreMode (rescorer : Rescorer) (mode : ScoreMode) : Rescorer :=
  { rescorer with scoreMode := some mode }

end Rescorer

namespace Search

def empty : Search := ⟨none, [], [], [], none, [], none, none, [], .default⟩

def withQuery (search : Search) (query : Expr) : Search := { search with query := some query }
def addFilter (search : Search) (filter : Expr) : Search :=
  { search with filters := search.filters ++ [filter] }

/-- A filter that aggregations do not see. -/
def addPostFilter (search : Search) (filter : Expr) : Search :=
  { search with postFilters := search.postFilters ++ [filter] }

def addSort (search : Search) (clause : Expr) : Search := { search with sorts := search.sorts ++ [clause] }
def withSource (search : Search) (source : SourceFilter) : Search := { search with source := some source }
def withAggregation (search : Search) (name : String) (aggregation : Aggregation) : Search :=
  { search with aggregations := Entries.put name aggregation search.aggregations }
def withLimit (search : Search) (limit : Nat) : Search := { search with limit := some limit }
def withOffset (search : Search) (offset : Nat) : Search := { search with offset := some offset }
def addRescorer (search : Search) (rescorer : Rescorer) : Search :=
  { search with rescorers := search.rescorers ++ [rescorer] }
def withConfig (search : Search) (config : Config) : Search := { search with config }

def filteredQuery (search : Search) : Option Expr :=
  match Expr.joinFilters search.filters with
  | some filter => some (.node (.named (.filtered search.query filter)))
  | none => search.query

def postFilter (search : Search) : Option Expr := Expr.joinFilters search.postFilters

end Search

end SearchWire
