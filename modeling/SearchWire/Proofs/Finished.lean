import Mathlib.Logic.Basic
import SearchWire.Compiler.Body

/-!
# Finished parts

A tree in which some parts, at any nesting, were exchanged for the JSON that
they compile to at the level where they are met. A dialect does not meet every
part: neither does it go below the limit, nor into nodes that it does not
write. Where nothing is met, any JSON may stand.
-/

namespace SearchWire

variable (c : Compiler)

namespace Compiler

/-- The level of what stands in a container, unless the limit cuts it off. -/
def below (reach : Option Nat) : Option Nat :=
  reach.bind fun depth => if depth < c.maxDepth then some (depth + 1) else none

def within (dialect : Dialect) (reach : Option Nat) : Option Nat :=
  if c.dialect = dialect then reach else none

def among : List Expr → Option Nat → Option Nat
  | _ :: _ :: _, reach => c.below reach
  | _, reach => reach

def under (filters : List Expr) (reach : Option Nat) : Option Nat :=
  if filters.isEmpty then reach else c.below reach

end Compiler

mutual
/-- The second expression is the first one with some of its parts finished. -/
inductive Expr.Finished : Option Nat → Expr → Expr → Prop
  | part : (∀ depth ∈ reach, Expr.compileAt c expr depth = .ok json) → Expr.Finished reach expr (.raw json)
  | same : Expr.Finished reach expr expr
  | list : ItemsFinished (c.below reach) items items' → Expr.Finished reach (.list items) (.list items')
  | map : ParamsFinished (c.below reach) entries entries' → Expr.Finished reach (.map entries) (.map entries')
  | node : Node.Finished (c.within .query (c.below reach)) (c.within .mapping (c.below reach)) node node' →
    Expr.Finished reach (.node node) (.node node')

inductive ItemsFinished : Option Nat → List Expr → List Expr → Prop
  | nil : ItemsFinished reach [] []
  | cons : Expr.Finished reach item item' → ItemsFinished reach rest rest' →
    ItemsFinished reach (item :: rest) (item' :: rest')

inductive ParamsFinished : Option Nat → List (String × Expr) → List (String × Expr) → Prop
  | nil : ParamsFinished reach [] []
  | cons : Expr.Finished reach value value' → ParamsFinished reach rest rest' →
    ParamsFinished reach ((key, value) :: rest) ((key, value') :: rest')

/-- Some nodes are written in search requests, some in mappings. -/
inductive Node.Finished : Option Nat → Option Nat → Node → Node → Prop
  | field : Field.Finished mapping field field' → Node.Finished query mapping (.field field) (.field field')
  | metaField : MetaField.Finished mapping field field' →
    Node.Finished query mapping (.metaField field) (.metaField field')
  | boost : Expr.Finished query target target' → Expr.Finished query weight weight' →
    Node.Finished query mapping (.boost ⟨target, weight⟩) (.boost ⟨target', weight'⟩)
  | fieldQuery : Expr.Finished query field field' → Expr.Finished query operand operand' →
    ParamsFinished query params params' →
    Node.Finished query mapping (.fieldQuery ⟨kind, field, operand, params⟩)
      (.fieldQuery ⟨kind, field', operand', params'⟩)
  | named : ParamsFinished query params params' →
    Node.Finished query mapping (.named ⟨name, params⟩) (.named ⟨name, params'⟩)
  | range : Expr.Finished query field field' → ParamsFinished query params params' →
    ParamsFinished query queryParams queryParams' →
    Node.Finished query mapping (.range ⟨field, params, queryParams⟩) (.range ⟨field', params', queryParams'⟩)
  | terms : Expr.Finished query field field' → ItemsFinished query values values' →
    ParamsFinished query params params' →
    Node.Finished query mapping (.terms ⟨field, values, params⟩) (.terms ⟨field', values', params'⟩)
  | multiMatch : Expr.Finished query operand operand' → ItemsFinished query fields fields' →
    ParamsFinished query params params' →
    Node.Finished query mapping (.multiMatch ⟨operand, fields, params⟩) (.multiMatch ⟨operand', fields', params'⟩)
  | wrapped : Expr.Finished query operand operand' → ParamsFinished query params params' →
    Node.Finished query mapping (.wrapped ⟨operand, params⟩) (.wrapped ⟨operand', params'⟩)
  | boolean : ItemsFinished query operands operands' → ParamsFinished query params params' →
    Node.Finished query mapping (.boolean ⟨operator, operands, params⟩) (.boolean ⟨operator, operands', params'⟩)
  | negation : Expr.Finished query operand operand' → ParamsFinished query params params' →
    Node.Finished query mapping (.negation ⟨operand, params⟩) (.negation ⟨operand', params'⟩)
  | sort : Expr.Finished query target target' → ParamsFinished query params params' →
    Node.Finished query mapping (.sort ⟨target, order, params⟩) (.sort ⟨target', order, params'⟩)
  | aggregation : Aggregation.Finished query aggregation aggregation' →
    Node.Finished query mapping (.aggregation aggregation) (.aggregation aggregation')
  | source : SourceFilter.Finished query source source' →
    Node.Finished query mapping (.source source) (.source source')
  | rescore : Rescorer.Finished query rescorer rescorer' →
    Node.Finished query mapping (.rescore rescorer) (.rescore rescorer')
  | search : Search.Finished query search search' → Node.Finished query mapping (.search search) (.search search')
  | document : Document.Finished mapping mapping document document' →
    Node.Finished query mapping (.document document) (.document document')

inductive Aggregation.Finished : Option Nat → Aggregation → Aggregation → Prop
  | metric : ParamsFinished reach params params' →
    Aggregation.Finished reach (.metric name params) (.metric name params')
  | bucket : ParamsFinished reach params params' → AggregationsFinished (c.below reach) subs subs' →
    Aggregation.Finished reach (.bucket name params subs) (.bucket name params' subs')
  | filter : Expr.Finished reach condition condition' → AggregationsFinished (c.below reach) subs subs' →
    Aggregation.Finished reach (.filter condition subs) (.filter condition' subs')

inductive AggregationsFinished :
    Option Nat → List (String × Aggregation) → List (String × Aggregation) → Prop
  | nil : AggregationsFinished reach [] []
  | cons : Aggregation.Finished reach aggregation aggregation' → AggregationsFinished reach rest rest' →
    AggregationsFinished reach ((name, aggregation) :: rest) ((name, aggregation') :: rest')

inductive SourceFilter.Finished : Option Nat → SourceFilter → SourceFilter → Prop
  | disabled : SourceFilter.Finished reach .disabled .disabled
  | fields : ItemsFinished reach names names' → SourceFilter.Finished reach (.fields names) (.fields names')
  | patterns : ItemsFinished reach included included' → ItemsFinished reach excluded excluded' →
    SourceFilter.Finished reach (.patterns included excluded) (.patterns included' excluded')

inductive Rescorer.Finished : Option Nat → Rescorer → Rescorer → Prop
  | mk : Expr.Finished reach query query' →
    Rescorer.Finished reach ⟨query, windowSize, queryWeight, rescoreQueryWeight, scoreMode⟩
      ⟨query', windowSize, queryWeight, rescoreQueryWeight, scoreMode⟩

inductive RescorersFinished : Option Nat → List Rescorer → List Rescorer → Prop
  | nil : RescorersFinished reach [] []
  | cons : Rescorer.Finished reach rescorer rescorer' → RescorersFinished reach rest rest' →
    RescorersFinished reach (rescorer :: rest) (rescorer' :: rest')

inductive QueryFinished : Option Nat → Option Expr → Option Expr → Prop
  | none : QueryFinished reach none none
  | some : Expr.Finished reach query query' → QueryFinished reach (some query) (some query')

inductive SourceFinished : Option Nat → Option SourceFilter → Option SourceFilter → Prop
  | none : SourceFinished reach none none
  | some : SourceFilter.Finished reach source source' → SourceFinished reach (some source) (some source')

inductive Search.Finished : Option Nat → Search → Search → Prop
  | mk : QueryFinished (c.under filters reach) query query' →
    ItemsFinished (c.among filters (c.under filters reach)) filters filters' →
    ItemsFinished (c.among postFilters reach) postFilters postFilters' → ItemsFinished reach sorts sorts' →
    SourceFinished (c.below reach) source source' →
    AggregationsFinished (c.below reach) aggregations aggregations' →
    RescorersFinished (c.below reach) rescorers rescorers' →
    Search.Finished reach
      ⟨query, filters, postFilters, sorts, source, aggregations, limit, offset, rescorers, config⟩
      ⟨query', filters', postFilters', sorts', source', aggregations', limit, offset, rescorers', config⟩

inductive Field.Finished : Option Nat → Field → Field → Prop
  | mk : FieldType.Finished (c.below reach) type type' →
    MultiFields.Finished (c.below reach) multiFields multiFields' → ParamsFinished (c.below reach) options options' →
    Field.Finished reach ⟨name, subField, docType, type, multiFields, options⟩
      ⟨name, subField, docType, type', multiFields', options'⟩

inductive FieldsFinished : Option Nat → List Field → List Field → Prop
  | nil : FieldsFinished reach [] []
  | cons : Field.Finished reach field field' → FieldsFinished reach rest rest' →
    FieldsFinished reach (field :: rest) (field' :: rest')

/-- Of the schema of a type only the declared fields are written. -/
inductive FieldType.Finished : Option Nat → FieldType → FieldType → Prop
  | same : FieldType.Finished reach type type
  | object : Document.Finished reach none document document' →
    FieldType.Finished reach (.object document) (.object document')
  | nested : Document.Finished reach none document document' →
    FieldType.Finished reach (.nested document) (.nested document')
  | list : FieldType.Finished reach element element' → FieldType.Finished reach (.list element) (.list element')

inductive TypesFinished : List (String × FieldType) → List (String × FieldType) → Prop
  | nil : TypesFinished [] []
  | cons : FieldType.Finished none type type' → TypesFinished rest rest' →
    TypesFinished ((name, type) :: rest) ((name, type') :: rest')

inductive MultiFields.Finished : Option Nat → MultiFields → MultiFields → Prop
  | none : MultiFields.Finished reach .none .none
  | types : TypesFinished types types' → MultiFields.Finished reach (.types types) (.types types')
  | fields : FieldsFinished reach fields fields' → MultiFields.Finished reach (.fields fields) (.fields fields')

inductive MetaField.Finished : Option Nat → MetaField → MetaField → Prop
  | mk : ParamsFinished reach options options' → MetaField.Finished reach ⟨name, options⟩ ⟨name, options'⟩

inductive MetaFieldsFinished : Option Nat → List MetaField → List MetaField → Prop
  | nil : MetaFieldsFinished reach [] []
  | cons : MetaField.Finished reach field field' → MetaFieldsFinished reach rest rest' →
    MetaFieldsFinished reach (field :: rest) (field' :: rest')

/-- The declared fields are met at one level, all else at another one. -/
inductive Document.Finished : Option Nat → Option Nat → Document → Document → Prop
  | mk : ParamsFinished others options options' → MetaFieldsFinished others metaFields metaFields' →
    FieldsFinished declared fields fields' → FieldsFinished others templates templates' →
    Document.Finished declared others ⟨docType, dynamic, options, metaFields, fields, templates⟩
      ⟨docType, dynamic, options', metaFields', fields', templates'⟩
end

variable {c}

-- ---------------------------------------------------------------------------
-- Levels
-- ---------------------------------------------------------------------------

section
variable {α : Type} {reach : Option Nat} {depth : Nat}

theorem Compiler.mem_within {dialect : Dialect} (here : c.dialect = dialect) (met : depth ∈ reach) :
    depth ∈ c.within dialect reach := by
  rwa [Compiler.within, if_pos here]

theorem Compiler.mem_under_of_isEmpty {filters : List Expr} (alone : filters.isEmpty) (met : depth ∈ reach) :
    depth ∈ c.under filters reach := by
  rwa [Compiler.under, if_pos alone]

theorem Compiler.mem_under_of_not_isEmpty {filters : List Expr} (filtered : ¬filters.isEmpty)
    (met : depth ∈ c.below reach) : depth ∈ c.under filters reach := by
  rwa [Compiler.under, if_neg filtered]

theorem bind_congr₂ {β : Type} {first second : Result α} {next next' : α → Result β} (same : second = first)
    (after : ∀ value, next' value = next value) : (second >>= next') = (first >>= next) := by
  rw [same]
  exact bind_congr after

theorem Compiler.enter_bind_eq {first second : Nat → Result α} (met : depth ∈ reach)
    (same : ∀ inner ∈ c.below reach, second inner = first inner) :
    (c.enter depth >>= second) = (c.enter depth >>= first) := by
  cases met
  by_cases room : depth < c.maxDepth
  · have inner : depth + 1 ∈ c.below (some depth) := by simp [Compiler.below, room]
    rw [Compiler.enter, if_pos room]
    exact same _ inner
  · rw [Compiler.enter, if_neg room]
    rfl

theorem ItemsFinished.isEmpty_eq {items items' : List Expr} (finished : ItemsFinished c reach items items') :
    items'.isEmpty = items.isEmpty := by
  cases finished <;> rfl

theorem SourceFilter.Finished.isEmpty_eq {source source' : SourceFilter} :
    SourceFilter.Finished c reach source source' → source'.isEmpty = source.isEmpty
  | .disabled => rfl
  | .fields names => names.isEmpty_eq
  | .patterns included excluded => congrArg₂ and included.isEmpty_eq excluded.isEmpty_eq

theorem Aggregation.Finished.tag_eq {aggregation aggregation' : Aggregation} :
    Aggregation.Finished c reach aggregation aggregation' →
      (Node.aggregation aggregation').tag = (Node.aggregation aggregation).tag
  | .metric _ | .bucket _ _ | .filter _ _ => rfl

theorem Field.Finished.name_eq {field field' : Field} :
    Field.Finished c reach field field' → field'.name = field.name
  | .mk _ _ _ => rfl

theorem FieldType.Finished.wireName_eq {type type' : FieldType} :
    FieldType.Finished c reach type type' → type'.wireName = type.wireName
  | .same | .object _ | .nested _ => rfl
  | .list element => element.wireName_eq

theorem TypesFinished.map_wireName_eq {types types' : List (String × FieldType)} (json : String → Json) :
    TypesFinished c types types' →
      types'.map (fun entry => (entry.1, json entry.2.wireName)) =
        types.map fun entry => (entry.1, json entry.2.wireName)
  | .nil => rfl
  | .cons type rest => by
    rw [List.map_cons, List.map_cons, type.wireName_eq, rest.map_wireName_eq]

end

-- ---------------------------------------------------------------------------
-- The walk over both trees
-- ---------------------------------------------------------------------------

theorem AggregationsFinished.container_eq {reach inner : Option Nat} {depth : Nat}
    {subs subs' : List (String × Aggregation)} (finished : AggregationsFinished c inner subs subs')
    (met : depth ∈ reach)
    (each : ∀ inner ∈ c.below reach, compileAggregations c subs' inner = compileAggregations c subs inner) :
    (c.enterUnless subs'.isEmpty depth >>= compileAggregations c subs') =
      (c.enterUnless subs.isEmpty depth >>= compileAggregations c subs) := by
  cases finished with
  | nil => rfl
  | cons _ _ => exact Compiler.enter_bind_eq met each

theorem RescorersFinished.container_eq {α : Type} {reach inner : Option Nat} {depth : Nat}
    {rescorers rescorers' : List Rescorer} (finished : RescorersFinished c inner rescorers rescorers')
    (met : depth ∈ reach)
    (each : ∀ inner ∈ c.below reach, compileRescorers c rescorers' 0 inner = compileRescorers c rescorers 0 inner)
    (next : List Json → Result α) :
    (c.enterUnless rescorers'.isEmpty depth >>= fun inner => compileRescorers c rescorers' 0 inner >>= next) =
      (c.enterUnless rescorers.isEmpty depth >>= fun inner => compileRescorers c rescorers 0 inner >>= next) := by
  cases finished with
  | nil => rfl
  | cons _ _ =>
    refine Compiler.enter_bind_eq met fun inner met => ?_
    rw [each inner met]

mutual
theorem Expr.Finished.compileAt_eq {reach : Option Nat} {a b : Expr} :
    Expr.Finished c reach a b → ∀ depth ∈ reach, b.compileAt c depth = a.compileAt c depth
  | .part compiles, depth, met => (compiles depth met).symm
  | .same, _, _ => rfl
  | .list items, depth, met => by
    rw [Expr.compileAt, Expr.compileAt]
    refine Compiler.enter_bind_eq met fun inner met => ?_
    rw [items.compileItems_eq 0 inner met]
  | .map entries, depth, met => by
    rw [Expr.compileAt, Expr.compileAt]
    refine Compiler.enter_bind_eq met fun inner met => ?_
    rw [entries.compileParams_eq inner met]
  | .node node, depth, met => by
    rw [Expr.compileAt, Expr.compileAt]
    refine Compiler.enter_bind_eq met fun inner met => ?_
    cases dialect : c.dialect with
    | query => exact node.queryAt_eq inner (Compiler.mem_within dialect met)
    | mapping => exact node.mappingAt_eq inner (Compiler.mem_within dialect met)
termination_by structural finished => finished

theorem ItemsFinished.compileItems_eq {reach : Option Nat} {items items' : List Expr} :
    ItemsFinished c reach items items' → ∀ position, ∀ depth ∈ reach,
      compileItems c items' position depth = compileItems c items position depth
  | .nil, _, _, _ => rfl
  | .cons head rest, position, depth, met => by
    rw [compileItems, compileItems, head.compileAt_eq depth met, rest.compileItems_eq (position + 1) depth met]
termination_by structural finished => finished

theorem ParamsFinished.compileParams_eq {reach : Option Nat} {params params' : List (String × Expr)} :
    ParamsFinished c reach params params' → ∀ depth ∈ reach,
      compileParams c params' depth = compileParams c params depth
  | .nil, _, _ => rfl
  | .cons head rest, depth, met => by
    rw [compileParams, compileParams, head.compileAt_eq depth met, rest.compileParams_eq depth met]
termination_by structural finished => finished

theorem Node.Finished.queryAt_eq {query mapping : Option Nat} {a b : Node} :
    Node.Finished c query mapping a b → ∀ depth ∈ query, b.queryAt c depth = a.queryAt c depth
  | .field (.mk _ _ _), _, _ => rfl
  | .metaField (.mk _), _, _ => rfl
  | .boost target weight, depth, met => by
    rw [Node.queryAt, Node.queryAt, Boost.compileAt, Boost.compileAt, target.compileAt_eq depth met,
      weight.compileAt_eq depth met]
  | .fieldQuery field operand params, depth, met => by
    rw [Node.queryAt, Node.queryAt, FieldQuery.compileAt, FieldQuery.compileAt, field.compileAt_eq depth met,
      operand.compileAt_eq depth met, params.compileParams_eq depth met]
  | .named params, depth, met => by
    rw [Node.queryAt, Node.queryAt, NamedQuery.compileAt, NamedQuery.compileAt, params.compileParams_eq depth met]
  | .range field params queryParams, depth, met => by
    rw [Node.queryAt, Node.queryAt, Range.compileAt, Range.compileAt, field.compileAt_eq depth met,
      params.compileParams_eq depth met, queryParams.compileParams_eq depth met]
  | .terms field values params, depth, met => by
    rw [Node.queryAt, Node.queryAt, Terms.compileAt, Terms.compileAt, field.compileAt_eq depth met,
      values.compileItems_eq 0 depth met, params.compileParams_eq depth met]
  | .multiMatch operand fields params, depth, met => by
    rw [Node.queryAt, Node.queryAt, MultiMatch.compileAt, MultiMatch.compileAt, operand.compileAt_eq depth met,
      fields.compileItems_eq 0 depth met, params.compileParams_eq depth met]
  | .wrapped operand params, depth, met => by
    rw [Node.queryAt, Node.queryAt, WrappedQuery.compileAt, WrappedQuery.compileAt, operand.compileAt_eq depth met,
      params.compileParams_eq depth met]
  | .boolean operands params, depth, met => by
    rw [Node.queryAt, Node.queryAt, BooleanFilter.compileAt, BooleanFilter.compileAt,
      operands.compileItems_eq 0 depth met, params.compileParams_eq depth met]
  | .negation operand params, depth, met => by
    rw [Node.queryAt, Node.queryAt, Negation.compileAt, Negation.compileAt, operand.compileAt_eq depth met,
      params.compileParams_eq depth met]
  | .sort target params, depth, met => by
    rw [Node.queryAt, Node.queryAt, SortClause.compileAt, SortClause.compileAt, target.compileAt_eq depth met,
      params.compileParams_eq depth met]
  | .aggregation aggregation, depth, met => by
    rw [Node.queryAt, Node.queryAt, aggregation.compileAt_eq depth met]
  | .source source, depth, met => by
    rw [Node.queryAt, Node.queryAt, source.compileAt_eq depth met]
  | .rescore rescorer, depth, met => by
    rw [Node.queryAt, Node.queryAt, rescorer.compileAt_eq depth met]
  | .search search, depth, met => by
    rw [Node.queryAt, Node.queryAt, search.compileAt_eq depth met]
  | .document _, _, _ => rfl
termination_by structural finished => finished

theorem Aggregation.Finished.compileAt_eq {reach : Option Nat} {a b : Aggregation} :
    Aggregation.Finished c reach a b → ∀ depth ∈ reach, b.compileAt c depth = a.compileAt c depth
  | .metric params, depth, met => by
    rw [Aggregation.compileAt, Aggregation.compileAt, params.compileParams_eq depth met]
  | .bucket params subs, depth, met => by
    have container := subs.container_eq met fun inner met => subs.compileAggregations_eq inner met
    rw [Aggregation.compileAt, Aggregation.compileAt, params.compileParams_eq depth met, container]
  | .filter condition subs, depth, met => by
    have container := subs.container_eq met fun inner met => subs.compileAggregations_eq inner met
    rw [Aggregation.compileAt, Aggregation.compileAt, condition.compileAt_eq depth met, container]
termination_by structural finished => finished

theorem AggregationsFinished.compileAggregations_eq {reach : Option Nat} {subs subs' : List (String × Aggregation)} :
    AggregationsFinished c reach subs subs' → ∀ depth ∈ reach,
      compileAggregations c subs' depth = compileAggregations c subs depth
  | .nil, _, _ => rfl
  | .cons head rest, depth, met => by
    rw [compileAggregations, compileAggregations, head.compileAt_eq depth met,
      rest.compileAggregations_eq depth met]
termination_by structural finished => finished

theorem SourceFilter.Finished.compileAt_eq {reach : Option Nat} {a b : SourceFilter} :
    SourceFilter.Finished c reach a b → ∀ depth ∈ reach, b.compileAt c depth = a.compileAt c depth
  | .disabled, _, _ => rfl
  | .fields names, depth, met => by
    rw [SourceFilter.compileAt, SourceFilter.compileAt, names.compileItems_eq 0 depth met]
  | .patterns included excluded, depth, met => by
    rw [SourceFilter.compileAt, SourceFilter.compileAt, included.compileItems_eq 0 depth met,
      excluded.compileItems_eq 0 depth met]
termination_by structural finished => finished

theorem Rescorer.Finished.compileAt_eq {reach : Option Nat} {a b : Rescorer} :
    Rescorer.Finished c reach a b → ∀ depth ∈ reach, b.compileAt c depth = a.compileAt c depth
  | .mk query, depth, met => by
    rw [Rescorer.compileAt, Rescorer.compileAt, query.compileAt_eq depth met]
termination_by structural finished => finished

theorem RescorersFinished.compileRescorers_eq {reach : Option Nat} {rescorers rescorers' : List Rescorer} :
    RescorersFinished c reach rescorers rescorers' → ∀ position, ∀ depth ∈ reach,
      compileRescorers c rescorers' position depth = compileRescorers c rescorers position depth
  | .nil, _, _, _ => rfl
  | .cons head rest, position, depth, met => by
    rw [compileRescorers, compileRescorers, head.compileAt_eq depth met,
      rest.compileRescorers_eq (position + 1) depth met]
termination_by structural finished => finished

theorem QueryFinished.compileOptional_eq {reach : Option Nat} {query query' : Option Expr} :
    QueryFinished c reach query query' → ∀ depth ∈ reach,
      compileOptional c query' depth = compileOptional c query depth
  | .none, _, _ => rfl
  | .some query, depth, met => by
    rw [compileOptional, compileOptional, query.compileAt_eq depth met]
termination_by structural finished => finished

theorem SourceFinished.compileSource_eq {reach inner : Option Nat} {source source' : Option SourceFilter} :
    SourceFinished c inner source source' → inner = c.below reach → ∀ depth ∈ reach,
      compileSource c source' depth = compileSource c source depth
  | .none, _, _, _ => rfl
  | .some source, inside, depth, met => by
    rw [compileSource, compileSource, source.isEmpty_eq]
    split
    · rfl
    · refine Compiler.enter_bind_eq met fun inner met => ?_
      rw [source.compileAt_eq inner (inside ▸ met)]
termination_by structural finished => finished

theorem ItemsFinished.compileFilters_eq {reach inner : Option Nat} {filters filters' : List Expr} :
    ItemsFinished c inner filters filters' → inner = c.among filters reach → ∀ depth ∈ reach,
      compileFilters c filters' depth = compileFilters c filters depth
  | .nil, _, _, _ => rfl
  | .cons head .nil, alone, depth, met => by
    rw [compileFilters, compileFilters, head.compileAt_eq depth (alone ▸ met)]
  | .cons head (.cons second rest), several, depth, met => by
    rw [compileFilters, compileFilters]
    refine Compiler.enter_bind_eq met fun inner met => ?_
    have inside : _ = c.below reach := several
    replace met := inside ▸ met
    rw [head.compileAt_eq inner met, compileItems, compileItems, second.compileAt_eq inner met,
      rest.compileItems_eq 2 inner met]
termination_by structural finished => finished

theorem Search.Finished.compileAt_eq {reach : Option Nat} {a b : Search} :
    Search.Finished c reach a b → ∀ depth ∈ reach, b.compileAt c depth = a.compileAt c depth
  | .mk query filters postFilters sorts source aggregations rescorers, depth, met => by
    have container := aggregations.container_eq met fun inner met => aggregations.compileAggregations_eq inner met
    rw [Search.compileAt, Search.compileAt, sorts.compileItems_eq 0 depth met,
      source.compileSource_eq rfl depth met, container, postFilters.compileFilters_eq rfl depth met,
      filters.isEmpty_eq]
    refine bind_congr₂ (congrArg (Result.atKey "query") ?_) fun query => ?_
    · split
      case isTrue alone => exact query.compileOptional_eq depth (Compiler.mem_under_of_isEmpty alone met)
      case isFalse filtered =>
        refine Compiler.enter_bind_eq met fun inner met => ?_
        replace met := Compiler.mem_under_of_not_isEmpty filtered met
        rw [query.compileOptional_eq inner met, filters.compileFilters_eq rfl inner met]
    · refine bind_congr fun sorts => bind_congr fun source => bind_congr fun aggregations => ?_
      exact rescorers.container_eq met (fun inner met => rescorers.compileRescorers_eq 0 inner met) _
termination_by structural finished => finished

theorem Node.Finished.mappingAt_eq {query mapping : Option Nat} {a b : Node} :
    Node.Finished c query mapping a b → ∀ depth ∈ mapping, b.mappingAt c depth = a.mappingAt c depth
  | .field field, depth, met => by
    rw [Node.mappingAt, Node.mappingAt, field.fragmentAt_eq depth met, field.name_eq]
  | .metaField field, depth, met => by
    rw [Node.mappingAt, Node.mappingAt, field.optionsAt_eq depth met]
  | .document document, depth, met => by
    rw [Node.mappingAt, Node.mappingAt, document.compileAt_eq depth met met]
  | .aggregation aggregation, _, _ =>
    congrArg (fun tag => Except.error (Error.unsupportedNode tag c.dialect.name)) aggregation.tag_eq
  | .boost _ _, _, _ | .fieldQuery _ _ _, _, _ | .named _, _, _ | .range _ _ _, _, _ | .terms _ _ _, _, _
  | .multiMatch _ _ _, _, _ | .wrapped _ _, _, _ | .boolean _ _, _, _ | .negation _ _, _, _ | .sort _ _, _, _
  | .source _, _, _ | .rescore _, _, _ | .search _, _, _ => rfl
termination_by structural finished => finished

theorem Field.Finished.fragmentAt_eq {reach : Option Nat} {a b : Field} :
    Field.Finished c reach a b → ∀ depth ∈ reach, b.fragmentAt c depth = a.fragmentAt c depth
  | .mk type multiFields options, depth, met => by
    rw [Field.fragmentAt, Field.fragmentAt]
    refine Compiler.enter_bind_eq met fun inner met => ?_
    rw [type.propertiesAt_eq inner met, multiFields.fragmentsAt_eq inner met, options.compileParams_eq inner met,
      type.wireName_eq]
termination_by structural finished => finished

theorem FieldsFinished.compileFields_eq {reach : Option Nat} {fields fields' : List Field} :
    FieldsFinished c reach fields fields' → ∀ depth ∈ reach,
      compileFields c fields' depth = compileFields c fields depth
  | .nil, _, _ => rfl
  | .cons head rest, depth, met => by
    rw [compileFields, compileFields, head.fragmentAt_eq depth met, rest.compileFields_eq depth met, head.name_eq]
termination_by structural finished => finished

theorem FieldsFinished.compileTemplates_eq {reach : Option Nat} {fields fields' : List Field} :
    FieldsFinished c reach fields fields' → ∀ position, ∀ depth ∈ reach,
      compileTemplates c fields' position depth = compileTemplates c fields position depth
  | .nil, _, _, _ => rfl
  | .cons head rest, position, depth, met => by
    rw [compileTemplates, compileTemplates, head.fragmentAt_eq depth met,
      rest.compileTemplates_eq (position + 1) depth met, head.name_eq]
termination_by structural finished => finished

theorem FieldType.Finished.propertiesAt_eq {reach : Option Nat} {a b : FieldType} :
    FieldType.Finished c reach a b → ∀ depth ∈ reach, b.propertiesAt c depth = a.propertiesAt c depth
  | .same, _, _ => rfl
  | .object (.mk _ _ fields _), depth, met | .nested (.mk _ _ fields _), depth, met => by
    rw [FieldType.propertiesAt, FieldType.propertiesAt, fields.compileFields_eq depth met]
  | .list element, depth, met => element.propertiesAt_eq depth met
termination_by structural finished => finished

theorem MultiFields.Finished.fragmentsAt_eq {reach : Option Nat} {a b : MultiFields} :
    MultiFields.Finished c reach a b → ∀ depth ∈ reach, b.fragmentsAt c depth = a.fragmentsAt c depth
  | .none, _, _ => rfl
  | .types types, _, _ => congrArg Except.ok (types.map_wireName_eq fun name => .single "type" (.string name))
  | .fields fields, depth, met => by
    rw [MultiFields.fragmentsAt, MultiFields.fragmentsAt, fields.compileFields_eq depth met]
termination_by structural finished => finished

theorem MetaField.Finished.optionsAt_eq {reach : Option Nat} {a b : MetaField} :
    MetaField.Finished c reach a b → ∀ depth ∈ reach, b.optionsAt c depth = a.optionsAt c depth
  | .mk options, depth, met => by
    rw [MetaField.optionsAt, MetaField.optionsAt, options.compileParams_eq depth met]
termination_by structural finished => finished

theorem MetaFieldsFinished.compileMetaFields_eq {reach : Option Nat} {fields fields' : List MetaField} :
    MetaFieldsFinished c reach fields fields' → ∀ depth ∈ reach,
      compileMetaFields c fields' depth = compileMetaFields c fields depth
  | .nil, _, _ => rfl
  | .cons head rest, depth, met => by
    rw [compileMetaFields, compileMetaFields, head.optionsAt_eq depth met, rest.compileMetaFields_eq depth met]
termination_by structural finished => finished

theorem Document.Finished.compileAt_eq {declared others : Option Nat} {a b : Document} :
    Document.Finished c declared others a b → ∀ depth ∈ declared, depth ∈ others →
      b.compileAt c depth = a.compileAt c depth
  | .mk options metaFields fields templates, depth, met, metOthers => by
    rw [Document.compileAt, Document.compileAt, options.compileParams_eq depth metOthers,
      metaFields.compileMetaFields_eq depth metOthers, fields.compileFields_eq depth met,
      templates.compileTemplates_eq 0 depth metOthers]
termination_by structural finished => finished
end

-- ---------------------------------------------------------------------------
-- Whole trees
-- ---------------------------------------------------------------------------

/-- A part matters only through the JSON that it compiles to: with any of them
finished, the whole compiles to the same body, or fails with the same error. -/
theorem finished_parts_keep_result (c : Compiler) {a b : Expr} (finished : Expr.Finished c (some 0) a b) :
    b.compile c = a.compile c :=
  finished.compileAt_eq 0 rfl

/-- The target of a match, and an item of its operand, finished around a
parameter that fails. -/
theorem finished_parts_keep_result_boosted :
    let params := [("slop", Expr.float .nan)]
    let a := Expr.node (.fieldQuery
      ⟨.matching, .node (.boost ⟨.string "title", .int 2⟩), .list [.bool true, .string "x"], params⟩)
    let b := Expr.node (.fieldQuery
      ⟨.matching, .raw (.string "title^2"), .list [.bool true, .raw (.string "x")], params⟩)
    b.compile ⟨.query, 4⟩ = a.compile ⟨.query, 4⟩ := by
  intro params a b
  have target : Expr.Finished ⟨.query, 4⟩ (some 1) (.node (.boost ⟨.string "title", .int 2⟩))
      (.raw (.string "title^2")) := by
    refine .part fun depth met => ?_
    cases met
    rfl
  have item : Expr.Finished ⟨.query, 4⟩ (some 2) (.string "x") (.raw (.string "x")) := .part fun _ _ => rfl
  have operand : Expr.Finished ⟨.query, 4⟩ (some 1) (.list [.bool true, .string "x"])
      (.list [.bool true, .raw (.string "x")]) := .list (.cons .same (.cons item .nil))
  have whole : Expr.Finished ⟨.query, 4⟩ (some 0) a b :=
    .node (.fieldQuery target operand (.cons .same .nil))
  exact finished_parts_keep_result ⟨.query, 4⟩ whole

end SearchWire
