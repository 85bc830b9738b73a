import SearchWire.Expr.Basic

/-!
# Aggregations

Metrics over the documents in scope, buckets that split them, and the bucket
of those that match a filter. Buckets nest further aggregations by name.
-/

namespace SearchWire

namespace Aggregation

def filterName : String := "filter"

def ofMetric (name : String) (params : Params) : Aggregation := .metric name params.entries
def ofBucket (name : String) (params : Params) : Aggregation := .bucket name params.entries []

def onField (name : String) (field : Expr) : Aggregation := .metric name [("field", field)]

def avg (field : Expr) : Aggregation := onField "avg" field
def min (field : Expr) : Aggregation := onField "min" field
def max (field : Expr) : Aggregation := onField "max" field
def sum (field : Expr) : Aggregation := onField "sum" field
def stats (field : Expr) : Aggregation := onField "stats" field
def extendedStats (field : Expr) : Aggregation := onField "extended_stats" field
def valueCount (field : Expr) : Aggregation := onField "value_count" field
def cardinality (field : Expr) : Aggregation := onField "cardinality" field
def percentiles (field : Expr) : Aggregation := onField "percentiles" field

def topHits (size : Nat) : Aggregation := .metric "top_hits" [("size", .ofNat size)]

def byField (name : String) (field : Expr) : Aggregation := .bucket name [("field", field)] []

def terms (field : Expr) : Aggregation := byField "terms" field
def significantTerms (field : Expr) : Aggregation := byField "significant_terms" field
def missing (field : Expr) : Aggregation := byField "missing" field

def histogram (field interval : Expr) : Aggregation :=
  .bucket "histogram" [("field", field), ("interval", interval)] []

def dateHistogram (field : Expr) (interval : String) : Aggregation :=
  .bucket "date_histogram" [("field", field), ("interval", .string interval)] []

def ranges (field : Expr) (ranges : List Params) : Aggregation :=
  .bucket "range" [("field", field), ("ranges", .list (ranges.map .ofParams))] []

def nested (path : Expr) : Aggregation := .bucket "nested" [("path", path)] []
def all : Aggregation := .bucket "global" [] []
def filtered (filter : Expr) : Aggregation := .filter filter []

/-- A filter bucket has no parameters to add to. -/
def withParam (aggregation : Aggregation) (key : String) (value : Expr) : Aggregation :=
  match aggregation with
  | .metric name params => .metric name (Entries.put key value params)
  | .bucket name params subs => .bucket name (Entries.put key value params) subs
  | .filter condition subs => .filter condition subs

/-- Nest an aggregation under a name; a metric nests none. -/
def withSub (aggregation : Aggregation) (name : String) (sub : Aggregation) : Aggregation :=
  match aggregation with
  | .metric name params => .metric name params
  | .bucket kind params subs => .bucket kind params (Entries.put name sub subs)
  | .filter condition subs => .filter condition (Entries.put name sub subs)

def name : Aggregation → String
  | .metric name _ => name
  | .bucket name _ _ => name
  | .filter .. => filterName

end Aggregation

end SearchWire
