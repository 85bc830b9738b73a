import SearchWire.Compiler.Basic

/-!
# The walk over expressions

One recursion over the expression tree for both dialects. Nodes, maps and
lists cost one level of depth each; so do every container of aggregations,
the source and the rescorers of a search, and every field of a mapping.
A malformed value is reported with the path that leads to it.
-/

namespace SearchWire

variable (c : Compiler)

mutual
/-- `depth` is the level at which the expression is met. -/
def Expr.compileAt : Expr → Nat → Result Json
  | .null, _ => .ok .null
  | .bool value, _ => .ok (.bool value)
  | .int value, _ => .ok (.int value)
  | .float value, _ => Json.ofDouble value
  | .string text, _ => .ok (.string text)
  | .raw json, _ => .ok json
  | .list items, depth => do
    let depth ← c.enter depth
    return .array (← compileItems items 0 depth)
  | .map entries, depth => do
    let depth ← c.enter depth
    return .object (← compileParams entries depth)
  | .node inner, depth => do
    let depth ← c.enter depth
    match c.dialect with
    | .query => Node.queryAt inner depth
    | .mapping => Node.mappingAt inner depth

def compileItems : List Expr → Nat → Nat → Result (List Json)
  | [], _, _ => .ok []
  | item :: rest, position, depth => do
    let json ← Result.atIndex position (item.compileAt depth)
    return json :: (← compileItems rest (position + 1) depth)

def compileParams : List (String × Expr) → Nat → Result (List (String × Json))
  | [], _ => .ok []
  | (key, value) :: rest, depth => do
    let json ← Result.atKey key (value.compileAt depth)
    return (key, json) :: (← compileParams rest depth)

/-- The form of a node in a search request; `depth` is that of its parts. -/
def Node.queryAt : Node → Nat → Result Json
  | .field field, _ => .ok (.string field.path)
  | .metaField field, _ => .ok (.string field.name)
  | .boost boost, depth => boost.compileAt depth
  | .fieldQuery query, depth => query.compileAt depth
  | .named query, depth => query.compileAt depth
  | .range range, depth => range.compileAt depth
  | .terms terms, depth => terms.compileAt depth
  | .multiMatch query, depth => query.compileAt depth
  | .wrapped query, depth => query.compileAt depth
  | .boolean filter, depth => filter.compileAt depth
  | .negation filter, depth => filter.compileAt depth
  | .sort clause, depth => clause.compileAt depth
  | .aggregation aggregation, depth => aggregation.compileAt depth
  | .source source, depth => source.compileAt depth
  | .rescore rescorer, depth => rescorer.compileAt depth
  | .search search, depth => search.compileAt depth
  | .document document, _ => .error (c.unsupported (.document document))

def Node.mappingAt : Node → Nat → Result Json
  | .field field, depth => do
    let fragment ← Result.atKey field.name (field.fragmentAt depth)
    return .single field.name (.object fragment)
  | .metaField field, depth => do return .object (← field.optionsAt depth)
  | .document document, depth => document.compileAt depth
  | node, _ => .error (c.unsupported node)

def Boost.compileAt : Boost → Nat → Result Json
  | ⟨target, weight⟩, depth => do
    let target ← Json.fieldName (← target.compileAt depth)
    let weight ← weight.compileAt depth
    return .string (target ++ "^" ++ weight.weightText)

def FieldQuery.compileAt : FieldQuery → Nat → Result Json
  | ⟨kind, field, operand, params⟩, depth => do
    let field ← Json.fieldName (← field.compileAt depth)
    let operand ← Result.atKey kind.text (Result.atKey field (operand.compileAt depth))
    let params ← Result.atKey kind.text (Result.atKey field (compileParams params depth))
    return .single kind.text (.single field (Json.beside kind.operandKey operand params))

def NamedQuery.compileAt : NamedQuery → Nat → Result Json
  | ⟨name, params⟩, depth => do
    return .single name (.object (← Result.atKey name (compileParams params depth)))

/-- The field comes last unless a parameter of its name has a place before,
and its bounds win over that parameter. -/
def Range.compileAt : Range → Nat → Result Json
  | ⟨field, params, queryParams⟩, depth => do
    let field ← Json.fieldName (← field.compileAt depth)
    let beside ← Result.atKey "range" (compileParams queryParams depth)
    let bounds ← Result.atKey "range" (Result.atKey field (compileParams params depth))
    return .single "range" (.object (Entries.put field (.object bounds) beside))

def Terms.compileAt : Terms → Nat → Result Json
  | ⟨field, values, params⟩, depth => do
    let field ← Json.fieldName (← field.compileAt depth)
    let values ← Result.atKey "terms" (Result.atKey field (compileItems values 0 depth))
    let params ← Result.atKey "terms" (compileParams params depth)
    return .single "terms" (Json.withParams [(field, .array values)] params)

def MultiMatch.compileAt : MultiMatch → Nat → Result Json
  | ⟨operand, fields, params⟩, depth => do
    let operand ← operand.compileAt depth
    let fields ← compileItems fields 0 depth
    let params ← compileParams params depth
    return .single "multi_match" (Json.withParams [("query", operand), ("fields", .array fields)] params)

def WrappedQuery.compileAt : WrappedQuery → Nat → Result Json
  | ⟨query, params⟩, depth => do
    let query ← query.compileAt depth
    let params ← compileParams params depth
    let body := Json.withParams [("query", query)] params
    return if params.isEmpty then body else .single "fquery" body

def BooleanFilter.compileAt : BooleanFilter → Nat → Result Json
  | ⟨operator, operands, params⟩, depth => do
    let operands ← Result.atKey operator.text (compileItems operands 0 depth)
    let params ← compileParams params depth
    return .single operator.text (Json.beside "filters" (.array operands) params)

def Negation.compileAt : Negation → Nat → Result Json
  | ⟨operand, params⟩, depth => do
    let operand ← Result.atKey "not" (operand.compileAt depth)
    let params ← compileParams params depth
    return .single "not" (Json.beside "filter" operand params)

def SortClause.compileAt : SortClause → Nat → Result Json
  | ⟨target, order, params⟩, depth => do
    let target ← target.compileAt depth
    let params ← compileParams params depth
    let order := order.map (Json.string ·.text)
    if params.isEmpty then
      match order with
      | some order => return .single (← target.fieldName) order
      | none => return target
    else return .single (← target.fieldName) (Json.withParams (Json.optional "order" order) params)

/-- A sub-aggregation container named `aggregations` wins over a kind of
that name, and so does the condition of a filter bucket. -/
def Aggregation.compileAt : Aggregation → Nat → Result Json
  | .metric name params, depth => do return .single name (.object (← compileParams params depth))
  | .bucket name params subs, depth => do
    let params ← compileParams params depth
    let subs ← Result.atKey "aggregations" (do
      compileAggregations subs (← c.enterUnless subs.isEmpty depth))
    return Json.withParams [(name, .object params)] (Json.section? "aggregations" subs)
  | .filter condition subs, depth => do
    let subs ← Result.atKey "aggregations" (do
      compileAggregations subs (← c.enterUnless subs.isEmpty depth))
    let condition ← Result.atKey Aggregation.filterName (condition.compileAt depth)
    return Json.withParams [(Aggregation.filterName, condition)] (Json.section? "aggregations" subs)

def compileAggregations : List (String × Aggregation) → Nat → Result (List (String × Json))
  | [], _ => .ok []
  | (name, aggregation) :: rest, depth => do
    let json ← Result.atKey name (aggregation.compileAt depth)
    return (name, json) :: (← compileAggregations rest depth)

def SourceFilter.compileAt : SourceFilter → Nat → Result Json
  | .disabled, _ => .ok (.bool false)
  | .fields names, depth => do return .array (← compileItems names 0 depth)
  | .patterns included excluded, depth => do
    let included ← Result.atKey "include" (compileItems included 0 depth)
    let excluded ← Result.atKey "exclude" (compileItems excluded 0 depth)
    return .object (Json.group "include" included ++ Json.group "exclude" excluded)

def Rescorer.compileAt : Rescorer → Nat → Result Json
  | ⟨query, windowSize, queryWeight, rescoreQueryWeight, scoreMode⟩, depth => do
    let query ← Result.atKey "rescore_query" (query.compileAt depth)
    let queryWeight ← queryWeight.mapM Json.ofDouble
    let rescoreQueryWeight ← rescoreQueryWeight.mapM Json.ofDouble
    let query := ("rescore_query", query) :: Json.optional "query_weight" queryWeight ++
      Json.optional "rescore_query_weight" rescoreQueryWeight ++
      Json.optional "score_mode" (scoreMode.map (Json.string ·.text))
    return .object (("query", .object query) :: Json.optional "window_size" (windowSize.map Json.ofNat))

def compileRescorers : List Rescorer → Nat → Nat → Result (List Json)
  | [], _, _ => .ok []
  | rescorer :: rest, position, depth => do
    let json ← Result.atKey "rescore" (Result.atIndex position (rescorer.compileAt depth))
    return json :: (← compileRescorers rest (position + 1) depth)

def compileOptional : Option Expr → Nat → Result (Option Json)
  | none, _ => .ok none
  | some expr, depth => do return some (← expr.compileAt depth)

def compileSource : Option SourceFilter → Nat → Result (Option Json)
  | none, _ => .ok none
  | some source, depth =>
    if source.isEmpty then .ok none
    else do
      let depth ← c.enter depth
      return some (← Result.atKey "_source" (source.compileAt depth))

def compileFilters : List Expr → Nat → Result (Option Json)
  | [], _ => .ok none
  | [filter], depth => do return some (← filter.compileAt depth)
  | first :: second :: rest, depth => do
    let depth ← c.enter depth
    let first ← Result.atKey "and" (Result.atIndex 0 (first.compileAt depth))
    let others ← Result.atKey "and" (compileItems (second :: rest) 1 depth)
    return some (.single "and" (.array (first :: others)))

/-- The parts of a body come in a fixed order. A query under filters is one
level deeper than a query alone. -/
def Search.compileAt : Search → Nat → Result Json
  | ⟨query, filters, postFilters, sorts, source, aggregations, limit, offset, rescorers, _⟩, depth => do
    let query ← Result.atKey "query" (
      if filters.isEmpty then compileOptional query depth
      else do
        let depth ← c.enter depth
        let query ← Result.atKey "filtered" (Result.atKey "query" (compileOptional query depth))
        let filter ← Result.atKey "filtered" (Result.atKey "filter" (compileFilters filters depth))
        return some (.single "filtered"
          (.object (Json.optional "query" query ++ Json.optional "filter" filter))))
    let sorts ← Result.atKey "sort" (compileItems sorts 0 depth)
    let source ← compileSource source depth
    let aggregations ← Result.atKey "aggregations" (do
      compileAggregations aggregations (← c.enterUnless aggregations.isEmpty depth))
    let rescorers ← compileRescorers rescorers 0 (← c.enterUnless rescorers.isEmpty depth)
    let postFilter ← Result.atKey "post_filter" (compileFilters postFilters depth)
    return .object (Json.optional "query" query ++ Json.group "sort" sorts ++
      Json.optional "_source" source ++ Json.section? "aggregations" aggregations ++
      Json.optional "size" (limit.map Json.ofNat) ++ Json.optional "from" (offset.map Json.ofNat) ++
      Json.group "rescore" rescorers ++ Json.optional "post_filter" postFilter)

/-- The mapping of a field without its name: the type, the fields of a
sub-document, the sub-fields, and last the options. -/
def Field.fragmentAt : Field → Nat → Result (List (String × Json))
  | ⟨_, _, _, type, multiFields, options⟩, depth => do
    let depth ← c.enter depth
    let properties ← type.propertiesAt depth
    let subFields ← multiFields.fragmentsAt depth
    let options ← compileParams options depth
    return Entries.merge (("type", .string type.wireName) :: Json.optional "properties" properties ++
      Json.section? "fields" subFields) options

def FieldType.propertiesAt : FieldType → Nat → Result (Option Json)
  | .object ⟨_, _, _, _, fields, _⟩, depth => do
    return some (.object (Entries.ofPairs (← Result.atKey "properties" (compileFields fields depth))))
  | .nested ⟨_, _, _, _, fields, _⟩, depth => do
    return some (.object (Entries.ofPairs (← Result.atKey "properties" (compileFields fields depth))))
  | .list element, depth => element.propertiesAt depth
  | _, _ => .ok none

def compileFields : List Field → Nat → Result (List (String × Json))
  | [], _ => .ok []
  | field :: rest, depth => do
    let fragment ← Result.atKey field.name (field.fragmentAt depth)
    return (field.name, .object fragment) :: (← compileFields rest depth)

def MultiFields.fragmentsAt : MultiFields → Nat → Result (List (String × Json))
  | .none, _ => .ok []
  | .types types, _ => .ok (types.map fun entry => (entry.1, .single "type" (.string entry.2.wireName)))
  | .fields fields, depth => do
    return Entries.ofPairs (← Result.atKey "fields" (compileFields fields depth))

def MetaField.optionsAt : MetaField → Nat → Result (List (String × Json))
  | ⟨name, options⟩, depth => do
    return Json.section? name (← Result.atKey name (compileParams options depth))

def compileMetaFields : List MetaField → Nat → Result (List (String × Json))
  | [], _ => .ok []
  | field :: rest, depth => do
    let options ← field.optionsAt depth
    return options ++ (← compileMetaFields rest depth)

def compileTemplates : List Field → Nat → Nat → Result (List Json)
  | [], _, _ => .ok []
  | field :: rest, position, depth => do
    let fragment ← Result.atKey "dynamic_templates" (Result.atIndex position (field.fragmentAt depth))
    let template := .single field.name
      (.object [("path_match", .string field.name), ("mapping", .object fragment)])
    return template :: (← compileTemplates rest (position + 1) depth)

/-- Options and meta fields come first, but the declared fields win over
any of them that is named `properties`. -/
def Document.compileAt : Document → Nat → Result Json
  | ⟨docType, _, options, metaFields, fields, templates⟩, depth => do
    let options ← compileParams options depth
    let metaFields ← compileMetaFields metaFields depth
    let properties ← Result.atKey "properties" (compileFields fields depth)
    let templates ← compileTemplates templates 0 depth
    let body := Entries.put "properties" (.object (Entries.ofPairs properties))
      (Entries.merge options metaFields)
    return .single docType (Json.withParams body (Json.group "dynamic_templates" templates))
end

end SearchWire
