import SearchWire.Compiler.Body

/-!
# Forms

The body of an expression as if nothing in it were at fault: it depends on
neither the limit nor the depth. A float has a form whether or not it is
finite, and what names no field counts as the empty name.
-/

namespace SearchWire

def Json.nameText : Json → String
  | .string text => text
  | _ => ""

/-- Texts are the values that name a field. -/
def Json.isText : Json → Bool
  | .string _ => true
  | _ => false

variable (d : Dialect)

mutual
def Expr.form : Expr → Json
  | .null => .null
  | .bool value => .bool value
  | .int value => .int value
  | .float value => .float value
  | .string text => .string text
  | .raw json => json
  | .list items => .array (itemForms items)
  | .map entries => .object (paramForms entries)
  | .node inner =>
    match d with
    | .query => inner.queryForm
    | .mapping => inner.mappingForm

def itemForms : List Expr → List Json
  | [] => []
  | item :: rest => item.form :: itemForms rest

def paramForms : List (String × Expr) → List (String × Json)
  | [] => []
  | (key, value) :: rest => (key, value.form) :: paramForms rest

def Node.queryForm : Node → Json
  | .field field => .string field.path
  | .metaField field => .string field.name
  | .boost boost => boost.form
  | .fieldQuery query => query.form
  | .named query => query.form
  | .range range => range.form
  | .terms terms => terms.form
  | .multiMatch query => query.form
  | .wrapped query => query.form
  | .boolean filter => filter.form
  | .negation filter => filter.form
  | .sort clause => clause.form
  | .aggregation aggregation => aggregation.form
  | .source source => source.form
  | .rescore rescorer => rescorer.form
  | .search search => search.form
  | .document _ => .null

def Node.mappingForm : Node → Json
  | .field field => .single field.name (.object field.fragmentForm)
  | .metaField field => .object field.optionsForm
  | .document document => document.form
  | _ => .null

def Boost.form : Boost → Json
  | ⟨target, weight⟩ => .string (target.form.nameText ++ "^" ++ weight.form.weightText)

def FieldQuery.form : FieldQuery → Json
  | ⟨kind, field, operand, params⟩ =>
    .single kind.text
      (.single field.form.nameText (Json.beside kind.operandKey operand.form (paramForms params)))

def NamedQuery.form : NamedQuery → Json
  | ⟨name, params⟩ => .single name (.object (paramForms params))

def Range.form : Range → Json
  | ⟨field, params, queryParams⟩ =>
    .single "range" (.object
      (Entries.put field.form.nameText (.object (paramForms params)) (paramForms queryParams)))

def Terms.form : Terms → Json
  | ⟨field, values, params⟩ =>
    .single "terms"
      (Json.withParams [(field.form.nameText, .array (itemForms values))] (paramForms params))

def MultiMatch.form : MultiMatch → Json
  | ⟨operand, fields, params⟩ =>
    .single "multi_match"
      (Json.withParams [("query", operand.form), ("fields", .array (itemForms fields))] (paramForms params))

def WrappedQuery.form : WrappedQuery → Json
  | ⟨query, params⟩ =>
    let params := paramForms params
    let body := Json.withParams [("query", query.form)] params
    if params.isEmpty then body else .single "fquery" body

def BooleanFilter.form : BooleanFilter → Json
  | ⟨operator, operands, params⟩ =>
    .single operator.text (Json.beside "filters" (.array (itemForms operands)) (paramForms params))

def Negation.form : Negation → Json
  | ⟨operand, params⟩ => .single "not" (Json.beside "filter" operand.form (paramForms params))

def SortClause.form : SortClause → Json
  | ⟨target, order, params⟩ =>
    let params := paramForms params
    let order := order.map (Json.string ·.text)
    if params.isEmpty then
      match order with
      | some order => .single target.form.nameText order
      | none => target.form
    else .single target.form.nameText (Json.withParams (Json.optional "order" order) params)

def Aggregation.form : Aggregation → Json
  | .metric name params => .single name (.object (paramForms params))
  | .bucket name params subs =>
    Json.withParams [(name, .object (paramForms params))]
      (Json.section? "aggregations" (aggregationForms subs))
  | .filter condition subs =>
    Json.withParams [(Aggregation.filterName, condition.form)]
      (Json.section? "aggregations" (aggregationForms subs))

def aggregationForms : List (String × Aggregation) → List (String × Json)
  | [] => []
  | (name, aggregation) :: rest => (name, aggregation.form) :: aggregationForms rest

def SourceFilter.form : SourceFilter → Json
  | .disabled => .bool false
  | .fields names => .array (itemForms names)
  | .patterns included excluded =>
    .object (Json.group "include" (itemForms included) ++ Json.group "exclude" (itemForms excluded))

def Rescorer.form : Rescorer → Json
  | ⟨query, windowSize, queryWeight, rescoreQueryWeight, scoreMode⟩ =>
    let query := ("rescore_query", query.form) ::
      Json.optional "query_weight" (queryWeight.map .float) ++
      Json.optional "rescore_query_weight" (rescoreQueryWeight.map .float) ++
      Json.optional "score_mode" (scoreMode.map (Json.string ·.text))
    .object (("query", .object query) :: Json.optional "window_size" (windowSize.map Json.ofNat))

def rescorerForms : List Rescorer → List Json
  | [] => []
  | rescorer :: rest => rescorer.form :: rescorerForms rest

def optionalForm : Option Expr → Option Json
  | none => none
  | some expr => some expr.form

def sourceForm : Option SourceFilter → Option Json
  | none => none
  | some source => if source.isEmpty then none else some source.form

def filtersForm : List Expr → Option Json
  | [] => none
  | [filter] => some filter.form
  | first :: second :: rest => some (.single "and" (.array (first.form :: itemForms (second :: rest))))

def Search.form : Search → Json
  | ⟨query, filters, postFilters, sorts, source, aggregations, limit, offset, rescorers, _⟩ =>
    let query :=
      if filters.isEmpty then optionalForm query
      else some (.single "filtered" (.object
        (Json.optional "query" (optionalForm query) ++ Json.optional "filter" (filtersForm filters))))
    .object (Json.optional "query" query ++ Json.group "sort" (itemForms sorts) ++
      Json.optional "_source" (sourceForm source) ++
      Json.section? "aggregations" (aggregationForms aggregations) ++
      Json.optional "size" (limit.map Json.ofNat) ++ Json.optional "from" (offset.map Json.ofNat) ++
      Json.group "rescore" (rescorerForms rescorers) ++
      Json.optional "post_filter" (filtersForm postFilters))

def Field.fragmentForm : Field → List (String × Json)
  | ⟨_, _, _, type, multiFields, options⟩ =>
    Entries.merge (("type", .string type.wireName) :: Json.optional "properties" type.propertiesForm ++
      Json.section? "fields" multiFields.fragmentForms) (paramForms options)

def FieldType.propertiesForm : FieldType → Option Json
  | .object ⟨_, _, _, _, fields, _⟩ => some (.object (Entries.ofPairs (fieldForms fields)))
  | .nested ⟨_, _, _, _, fields, _⟩ => some (.object (Entries.ofPairs (fieldForms fields)))
  | .list element => element.propertiesForm
  | _ => none

def fieldForms : List Field → List (String × Json)
  | [] => []
  | field :: rest => (field.name, .object field.fragmentForm) :: fieldForms rest

def MultiFields.fragmentForms : MultiFields → List (String × Json)
  | .none => []
  | .types types => types.map fun entry => (entry.1, .single "type" (.string entry.2.wireName))
  | .fields fields => Entries.ofPairs (fieldForms fields)

def MetaField.optionsForm : MetaField → List (String × Json)
  | ⟨name, options⟩ => Json.section? name (paramForms options)

def metaFieldForms : List MetaField → List (String × Json)
  | [] => []
  | field :: rest => field.optionsForm ++ metaFieldForms rest

def templateForms : List Field → List Json
  | [] => []
  | field :: rest =>
    .single field.name
      (.object [("path_match", .string field.name), ("mapping", .object field.fragmentForm)]) ::
      templateForms rest

def Document.form : Document → Json
  | ⟨docType, _, options, metaFields, fields, templates⟩ =>
    let body := Entries.put "properties" (.object (Entries.ofPairs (fieldForms fields)))
      (Entries.merge (paramForms options) (metaFieldForms metaFields))
    .single docType (Json.withParams body (Json.group "dynamic_templates" (templateForms templates)))
end

theorem itemForms_eq_map (items : List Expr) : itemForms d items = items.map (Expr.form d) := by
  induction items with
  | nil => rfl
  | cons item rest ih => rw [itemForms, ih, List.map_cons]

theorem rescorerForms_eq_map (rescorers : List Rescorer) :
    rescorerForms d rescorers = rescorers.map (Rescorer.form d) := by
  induction rescorers with
  | nil => rfl
  | cons rescorer rest ih => rw [rescorerForms, ih, List.map_cons]

theorem paramForms_eq_map (params : Entries Expr) :
    paramForms d params = params.map fun entry => (entry.1, entry.2.form d) := by
  induction params with
  | nil => rfl
  | cons entry rest ih => rw [paramForms, ih, List.map_cons]

theorem aggregationForms_eq_map (aggregations : Aggregations) :
    aggregationForms d aggregations = aggregations.map fun entry => (entry.1, entry.2.form d) := by
  induction aggregations with
  | nil => rfl
  | cons entry rest ih => rw [aggregationForms, ih, List.map_cons]

theorem fieldForms_eq_map (fields : List Field) :
    fieldForms d fields = fields.map fun field => (field.name, .object (field.fragmentForm d)) := by
  induction fields with
  | nil => rfl
  | cons field rest ih => rw [fieldForms, ih, List.map_cons]

@[simp] theorem paramForms_eq_nil {params : Entries Expr} : paramForms d params = [] ↔ params = [] := by
  rw [paramForms_eq_map, List.map_eq_nil_iff]

end SearchWire
