import SearchWire.Proofs.Form

/-!
# Visits

What the compilation of an expression demands, in the order in which it is
met: room for a level, a finite number, an expression that names a field, a
node that the dialect has a form for. Each demand carries the place that a
failure is reported at, and levels are counted from the expression itself.
-/

namespace SearchWire

inductive Demand where
  /-- One more level than so many around it. -/
  | level (depth : Nat)
  | finite (number : Double)
  | names (target : Expr)
  | node (node : Node)

structure Visit where
  place : Path
  demand : Demand

abbrev Visits := List Visit

def Dialect.supports : Dialect → Node → Bool
  | .query, .document _ => false
  | .query, _ => true
  | .mapping, .field _ => true
  | .mapping, .metaField _ => true
  | .mapping, .document _ => true
  | .mapping, _ => false

/-- Whether a demand is met where its levels are counted from `depth`. -/
def Demand.met (c : Compiler) (depth : Nat) : Demand → Bool
  | .level extra => depth + extra < c.maxDepth
  | .finite number => number.isFinite
  | .names target => (target.form c.dialect).isText
  | .node inner => c.dialect.supports inner

/-- What is reported about a demand that is not met, seen from its visit. -/
def Demand.fault (c : Compiler) : Demand → Error
  | .level _ => .depthExceeded c.maxDepth
  | .finite number => .malformedHere (number.text ++ " is not a finite number")
  | .names target => .malformedHere ("expected a field name, got " ++ (target.form c.dialect).text)
  | .node inner => c.unsupported inner

namespace Visit

def here (demand : Demand) : Visit := ⟨[], demand⟩

def under (step : Step) (visit : Visit) : Visit := { visit with place := step :: visit.place }

def deeper : Visit → Visit
  | ⟨place, .level depth⟩ => ⟨place, .level (depth + 1)⟩
  | visit => visit

def levels : Visit → Nat
  | ⟨_, .level depth⟩ => depth + 1
  | _ => 0

def fault (c : Compiler) (visit : Visit) : Error := visit.place.foldr Error.within (visit.demand.fault c)

def check (c : Compiler) (depth : Nat) (visit : Visit) : Result Unit :=
  if visit.demand.met c depth then .ok () else .error (visit.fault c)

end Visit

namespace Visits

def under (step : Step) (visits : Visits) : Visits := visits.map (Visit.under step)

def entered (visits : Visits) : Visits := .here (.level 0) :: visits.map Visit.deeper

def enteredUnless (empty : Bool) (visits : Visits) : Visits := if empty then visits else entered visits

/-- The first visit that fails decides. -/
def check (c : Compiler) (depth : Nat) : Visits → Result Unit
  | [] => .ok ()
  | visit :: rest => do
    visit.check c depth
    check c depth rest

def nesting (visits : Visits) : Nat := (visits.map Visit.levels).foldr max 0

end Visits

open Visit (here)
open Visits (under entered enteredUnless)

variable (d : Dialect)

mutual
def Expr.visits : Expr → Visits
  | .float value => [here (.finite value)]
  | .list items => entered (itemVisits items 0)
  | .map entries => entered (paramVisits entries)
  | .node inner =>
    entered (here (.node inner) :: match d with
      | .query => inner.queryVisits
      | .mapping => inner.mappingVisits)
  | _ => []

def itemVisits : List Expr → Nat → Visits
  | [], _ => []
  | item :: rest, position => under (.index position) item.visits ++ itemVisits rest (position + 1)

def paramVisits : List (String × Expr) → Visits
  | [] => []
  | (key, value) :: rest => under (.key key) value.visits ++ paramVisits rest

def Node.queryVisits : Node → Visits
  | .field _ => []
  | .metaField _ => []
  | .boost boost => boost.visits
  | .fieldQuery query => query.visits
  | .named query => query.visits
  | .range range => range.visits
  | .terms terms => terms.visits
  | .multiMatch query => query.visits
  | .wrapped query => query.visits
  | .boolean filter => filter.visits
  | .negation filter => filter.visits
  | .sort clause => clause.visits
  | .aggregation aggregation => aggregation.visits
  | .source source => source.visits
  | .rescore rescorer => rescorer.visits
  | .search search => search.visits
  | .document _ => []

def Node.mappingVisits : Node → Visits
  | .field field => under (.key field.name) field.fragmentVisits
  | .metaField field => field.optionsVisits
  | .document document => document.visits
  | _ => []

def Boost.visits : Boost → Visits
  | ⟨target, weight⟩ => target.visits ++ here (.names target) :: weight.visits

def FieldQuery.visits : FieldQuery → Visits
  | ⟨kind, field, operand, params⟩ =>
    field.visits ++ here (.names field) ::
      under (.key kind.text) (under (.key (field.form d).nameText) (operand.visits ++ paramVisits params))

def NamedQuery.visits : NamedQuery → Visits
  | ⟨name, params⟩ => under (.key name) (paramVisits params)

def Range.visits : Range → Visits
  | ⟨field, params, queryParams⟩ =>
    field.visits ++ here (.names field) :: under (.key "range")
      (paramVisits queryParams ++ under (.key (field.form d).nameText) (paramVisits params))

def Terms.visits : Terms → Visits
  | ⟨field, values, params⟩ =>
    field.visits ++ here (.names field) :: under (.key "terms")
      (under (.key (field.form d).nameText) (itemVisits values 0) ++ paramVisits params)

def MultiMatch.visits : MultiMatch → Visits
  | ⟨operand, fields, params⟩ => operand.visits ++ itemVisits fields 0 ++ paramVisits params

def WrappedQuery.visits : WrappedQuery → Visits
  | ⟨query, params⟩ => query.visits ++ paramVisits params

def BooleanFilter.visits : BooleanFilter → Visits
  | ⟨operator, operands, params⟩ => under (.key operator.text) (itemVisits operands 0) ++ paramVisits params

def Negation.visits : Negation → Visits
  | ⟨operand, params⟩ => under (.key "not") operand.visits ++ paramVisits params

/-- Under an order or parameters the target has to name a field. -/
def SortClause.visits : SortClause → Visits
  | ⟨target, order, params⟩ =>
    target.visits ++ paramVisits params ++
      if order.isNone ∧ params.isEmpty then [] else [here (.names target)]

def Aggregation.visits : Aggregation → Visits
  | .metric _ params => paramVisits params
  | .bucket _ params subs =>
    paramVisits params ++
      under (.key "aggregations") (enteredUnless subs.isEmpty (aggregationVisits subs))
  | .filter condition subs =>
    under (.key "aggregations") (enteredUnless subs.isEmpty (aggregationVisits subs)) ++
      under (.key Aggregation.filterName) condition.visits

def aggregationVisits : List (String × Aggregation) → Visits
  | [] => []
  | (name, aggregation) :: rest => under (.key name) aggregation.visits ++ aggregationVisits rest

def SourceFilter.visits : SourceFilter → Visits
  | .disabled => []
  | .fields names => itemVisits names 0
  | .patterns included excluded =>
    under (.key "include") (itemVisits included 0) ++ under (.key "exclude") (itemVisits excluded 0)

def Rescorer.visits : Rescorer → Visits
  | ⟨query, _, queryWeight, rescoreQueryWeight, _⟩ =>
    under (.key "rescore_query") query.visits ++
      (queryWeight.toList ++ rescoreQueryWeight.toList).map fun weight => here (.finite weight)

def rescorerVisits : List Rescorer → Nat → Visits
  | [], _ => []
  | rescorer :: rest, position =>
    under (.key "rescore") (under (.index position) rescorer.visits) ++ rescorerVisits rest (position + 1)

def optionalVisits : Option Expr → Visits
  | none => []
  | some expr => expr.visits

def sourceVisits : Option SourceFilter → Visits
  | none => []
  | some source => if source.isEmpty then [] else entered (under (.key "_source") source.visits)

def filtersVisits : List Expr → Visits
  | [] => []
  | [filter] => filter.visits
  | first :: second :: rest =>
    entered (under (.key "and")
      (under (.index 0) first.visits ++ itemVisits (second :: rest) 1))

def Search.visits : Search → Visits
  | ⟨query, filters, postFilters, sorts, source, aggregations, _, _, rescorers, _⟩ =>
    under (.key "query") (
      if filters.isEmpty then optionalVisits query
      else entered (under (.key "filtered")
        (under (.key "query") (optionalVisits query) ++ under (.key "filter") (filtersVisits filters)))) ++
    under (.key "sort") (itemVisits sorts 0) ++ sourceVisits source ++
    under (.key "aggregations") (enteredUnless aggregations.isEmpty (aggregationVisits aggregations)) ++
    enteredUnless rescorers.isEmpty (rescorerVisits rescorers 0) ++
    under (.key "post_filter") (filtersVisits postFilters)

/-- Every fragment of a mapping is a level of its own. -/
def Field.fragmentVisits : Field → Visits
  | ⟨_, _, _, type, multiFields, options⟩ =>
    entered (type.propertiesVisits ++ multiFields.fragmentVisits ++ paramVisits options)

def FieldType.propertiesVisits : FieldType → Visits
  | .object ⟨_, _, _, _, fields, _⟩ => under (.key "properties") (fieldVisits fields)
  | .nested ⟨_, _, _, _, fields, _⟩ => under (.key "properties") (fieldVisits fields)
  | .list element => element.propertiesVisits
  | _ => []

def fieldVisits : List Field → Visits
  | [] => []
  | field :: rest => under (.key field.name) field.fragmentVisits ++ fieldVisits rest

def MultiFields.fragmentVisits : MultiFields → Visits
  | .fields fields => under (.key "fields") (fieldVisits fields)
  | _ => []

def MetaField.optionsVisits : MetaField → Visits
  | ⟨name, options⟩ => under (.key name) (paramVisits options)

def metaFieldVisits : List MetaField → Visits
  | [] => []
  | field :: rest => field.optionsVisits ++ metaFieldVisits rest

def templateVisits : List Field → Nat → Visits
  | [], _ => []
  | field :: rest, position =>
    under (.key "dynamic_templates") (under (.index position) field.fragmentVisits) ++
      templateVisits rest (position + 1)

def Document.visits : Document → Visits
  | ⟨_, _, options, metaFields, fields, templates⟩ =>
    paramVisits options ++ metaFieldVisits metaFields ++
      under (.key "properties") (fieldVisits fields) ++ templateVisits templates 0
end

-- ---------------------------------------------------------------------------
-- Lists of parts
-- ---------------------------------------------------------------------------

theorem itemVisits_eq_flatMap (items : List Expr) (position : Nat) :
    itemVisits d items position =
      (items.zipIdx position).flatMap fun item => under (.index item.2) (item.1.visits d) := by
  induction items generalizing position with
  | nil => rfl
  | cons item rest ih => rw [itemVisits, ih, List.zipIdx_cons, List.flatMap_cons]

theorem rescorerVisits_eq_flatMap (rescorers : List Rescorer) (position : Nat) :
    rescorerVisits d rescorers position = (rescorers.zipIdx position).flatMap fun rescorer =>
      under (.key "rescore") (under (.index rescorer.2) (rescorer.1.visits d)) := by
  induction rescorers generalizing position with
  | nil => rfl
  | cons rescorer rest ih => rw [rescorerVisits, ih, List.zipIdx_cons, List.flatMap_cons]

theorem templateVisits_eq_flatMap (fields : List Field) (position : Nat) :
    templateVisits d fields position = (fields.zipIdx position).flatMap fun field =>
      under (.key "dynamic_templates") (under (.index field.2) (field.1.fragmentVisits d)) := by
  induction fields generalizing position with
  | nil => rfl
  | cons field rest ih => rw [templateVisits, ih, List.zipIdx_cons, List.flatMap_cons]

theorem paramVisits_eq_flatMap (params : Entries Expr) :
    paramVisits d params = params.flatMap fun entry => under (.key entry.1) (entry.2.visits d) := by
  induction params with
  | nil => rfl
  | cons entry rest ih => rw [paramVisits, ih, List.flatMap_cons]

theorem aggregationVisits_eq_flatMap (aggregations : Aggregations) :
    aggregationVisits d aggregations = aggregations.flatMap fun entry => under (.key entry.1) (entry.2.visits d) := by
  induction aggregations with
  | nil => rfl
  | cons entry rest ih => rw [aggregationVisits, ih, List.flatMap_cons]

theorem fieldVisits_eq_flatMap (fields : List Field) :
    fieldVisits d fields = fields.flatMap fun field => under (.key field.name) (field.fragmentVisits d) := by
  induction fields with
  | nil => rfl
  | cons field rest ih => rw [fieldVisits, ih, List.flatMap_cons]

theorem metaFieldVisits_eq_flatMap (fields : List MetaField) :
    metaFieldVisits d fields = fields.flatMap (MetaField.optionsVisits d) := by
  induction fields with
  | nil => rfl
  | cons field rest ih => rw [metaFieldVisits, ih, List.flatMap_cons]

end SearchWire
