import SearchWire.Proofs.Checks

/-!
# Compilation is a check before a form

Compiling an expression fails as the first of its visits that fails, and
gives its form otherwise. The proof follows the walk: one case for every
kind of node, each an equation between computations that may fail.
-/

namespace SearchWire

-- ---------------------------------------------------------------------------
-- Values
-- ---------------------------------------------------------------------------

theorem Json.ofDouble_eq (c : Compiler) (depth : Nat) (number : Double) :
    Json.ofDouble number = (Visit.here (.finite number)).check c depth >>= fun _ => .ok (.float number) := by
  cases finite : number.isFinite <;>
    simp [Json.ofDouble, Visit.here, Visit.check, Visit.fault, Demand.met, Demand.fault, finite]

theorem Json.fieldName_form (c : Compiler) (depth : Nat) (target : Expr) :
    (target.form c.dialect).fieldName =
      (Visit.here (.names target)).check c depth >>= fun _ => .ok (target.form c.dialect).nameText := by
  cases form : target.form c.dialect <;>
    simp [Visit.here, Visit.check, Visit.fault, Demand.met, Demand.fault, Json.fieldName, Json.isText,
      Json.nameText, form]

theorem Json.mapM_ofDouble (c : Compiler) (depth : Nat) (number : Option Double) :
    number.mapM Json.ofDouble =
      Visits.check c depth (number.toList.map fun x => .here (.finite x)) >>= fun _ =>
        .ok (number.map .float) := by
  cases number with
  | none => rfl
  | some x =>
    have alone : (some x).mapM Json.ofDouble = some <$> Json.ofDouble x := rfl
    rw [alone, Json.ofDouble_eq c depth x, Option.toList_some, List.map_singleton, Visits.check_cons]
    cases (Visit.here (.finite x)).check c depth <;> rfl

section
variable {c : Compiler} {depth : Nat} {inner : Node} {α : Type}

theorem Visit.check_supported (supported : c.dialect.supports inner = true) (next : Result α) :
    ((Visit.here (.node inner)).check c depth >>= fun _ => next) = next := by
  rw [Visit.check_node, if_pos supported, Result.ok_bind]

theorem Visit.check_unsupported (unsupported : c.dialect.supports inner = false) (next : Result α) :
    ((Visit.here (.node inner)).check c depth >>= fun _ => next) = .error (c.unsupported inner) := by
  rw [Visit.check_node, if_neg (by simp [unsupported]), Result.error_bind]

end

-- ---------------------------------------------------------------------------
-- The walk
-- ---------------------------------------------------------------------------

variable {c : Compiler}

mutual
theorem Expr.compileAt_eq (depth : Nat) : (expr : Expr) → expr.compileAt c depth =
    (expr.visits c.dialect).check c depth >>= fun _ => .ok (expr.form c.dialect)
  | .null => rfl
  | .bool _ => rfl
  | .int _ => rfl
  | .float value => by
    simp [Expr.compileAt, Expr.visits, Expr.form, Json.ofDouble_eq c depth value]
  | .string _ => rfl
  | .raw _ => rfl
  | .list items => by
    simp [Expr.compileAt, Expr.visits, Expr.form, compileItems_eq _ 0 items]
  | .map entries => by
    simp [Expr.compileAt, Expr.visits, Expr.form, compileParams_eq _ entries]
  | .node inner => by
    simp only [Expr.compileAt, Expr.visits, Expr.form, Visits.check_entered, Visits.check_cons,
      bind_assoc]
    congr 1
    funext depth
    cases dialect : c.dialect with
    | query => simpa [dialect] using inner.queryAt_eq depth dialect
    | mapping => simpa [dialect] using inner.mappingAt_eq depth dialect

theorem compileItems_eq (depth position : Nat) : (items : List Expr) →
    compileItems c items position depth =
      (itemVisits c.dialect items position).check c depth >>= fun _ => .ok (itemForms c.dialect items)
  | [] => rfl
  | item :: rest => by
    simp [compileItems, itemVisits, itemForms, item.compileAt_eq depth,
      compileItems_eq depth (position + 1) rest]

theorem compileParams_eq (depth : Nat) : (params : List (String × Expr)) →
    compileParams c params depth =
      (paramVisits c.dialect params).check c depth >>= fun _ => .ok (paramForms c.dialect params)
  | [] => rfl
  | (key, value) :: rest => by
    simp [compileParams, paramVisits, paramForms, value.compileAt_eq depth, compileParams_eq depth rest]

theorem Node.queryAt_eq (depth : Nat) (dialect : c.dialect = .query) : (inner : Node) →
    inner.queryAt c depth = (Visit.here (.node inner)).check c depth >>= fun _ =>
      (inner.queryVisits c.dialect).check c depth >>= fun _ => .ok (inner.queryForm c.dialect)
  | .field _ | .metaField _ => by
    rw [Visit.check_supported (by rw [dialect]; rfl), Node.queryAt, Node.queryVisits, Node.queryForm]
    rfl
  | .boost boost => by
    rw [Visit.check_supported (by rw [dialect]; rfl), Node.queryAt, Node.queryVisits, Node.queryForm,
      boost.compileAt_eq depth]
  | .fieldQuery query => by
    rw [Visit.check_supported (by rw [dialect]; rfl), Node.queryAt, Node.queryVisits, Node.queryForm,
      query.compileAt_eq depth]
  | .named query => by
    rw [Visit.check_supported (by rw [dialect]; rfl), Node.queryAt, Node.queryVisits, Node.queryForm,
      query.compileAt_eq depth]
  | .range range => by
    rw [Visit.check_supported (by rw [dialect]; rfl), Node.queryAt, Node.queryVisits, Node.queryForm,
      range.compileAt_eq depth]
  | .terms terms => by
    rw [Visit.check_supported (by rw [dialect]; rfl), Node.queryAt, Node.queryVisits, Node.queryForm,
      terms.compileAt_eq depth]
  | .multiMatch query => by
    rw [Visit.check_supported (by rw [dialect]; rfl), Node.queryAt, Node.queryVisits, Node.queryForm,
      query.compileAt_eq depth]
  | .wrapped query => by
    rw [Visit.check_supported (by rw [dialect]; rfl), Node.queryAt, Node.queryVisits, Node.queryForm,
      query.compileAt_eq depth]
  | .boolean filter => by
    rw [Visit.check_supported (by rw [dialect]; rfl), Node.queryAt, Node.queryVisits, Node.queryForm,
      filter.compileAt_eq depth]
  | .negation filter => by
    rw [Visit.check_supported (by rw [dialect]; rfl), Node.queryAt, Node.queryVisits, Node.queryForm,
      filter.compileAt_eq depth]
  | .sort clause => by
    rw [Visit.check_supported (by rw [dialect]; rfl), Node.queryAt, Node.queryVisits, Node.queryForm,
      clause.compileAt_eq depth]
  | .aggregation aggregation => by
    rw [Visit.check_supported (by rw [dialect]; rfl), Node.queryAt, Node.queryVisits, Node.queryForm,
      aggregation.compileAt_eq depth]
  | .source source => by
    rw [Visit.check_supported (by rw [dialect]; rfl), Node.queryAt, Node.queryVisits, Node.queryForm,
      source.compileAt_eq depth]
  | .rescore rescorer => by
    rw [Visit.check_supported (by rw [dialect]; rfl), Node.queryAt, Node.queryVisits, Node.queryForm,
      rescorer.compileAt_eq depth]
  | .search search => by
    rw [Visit.check_supported (by rw [dialect]; rfl), Node.queryAt, Node.queryVisits, Node.queryForm,
      search.compileAt_eq depth]
  | .document _ => by rw [Visit.check_unsupported (by rw [dialect]; rfl), Node.queryAt]

theorem Node.mappingAt_eq (depth : Nat) (dialect : c.dialect = .mapping) : (inner : Node) →
    inner.mappingAt c depth = (Visit.here (.node inner)).check c depth >>= fun _ =>
      (inner.mappingVisits c.dialect).check c depth >>= fun _ => .ok (inner.mappingForm c.dialect)
  | .field field => by
    rw [Visit.check_supported (by rw [dialect]; rfl)]
    simp [Node.mappingAt, Node.mappingVisits, Node.mappingForm, field.fragmentAt_eq depth]
  | .metaField field => by
    rw [Visit.check_supported (by rw [dialect]; rfl)]
    simp [Node.mappingAt, Node.mappingVisits, Node.mappingForm, field.optionsAt_eq depth]
  | .document document => by
    rw [Visit.check_supported (by rw [dialect]; rfl), Node.mappingAt, Node.mappingVisits, Node.mappingForm,
      document.compileAt_eq depth]
  | .boost _ | .fieldQuery _ | .named _ | .range _ | .terms _ | .multiMatch _ | .wrapped _ | .boolean _ | .negation _
  | .sort _ | .aggregation _ | .source _ | .rescore _ | .search _ => by
    rw [Visit.check_unsupported (by rw [dialect]; rfl), Node.mappingAt]
    all_goals nofun

theorem Boost.compileAt_eq (depth : Nat) : (boost : Boost) → boost.compileAt c depth =
    (boost.visits c.dialect).check c depth >>= fun _ => .ok (boost.form c.dialect)
  | ⟨target, weight⟩ => by
    simp [Boost.compileAt, Boost.visits, Boost.form, target.compileAt_eq depth, weight.compileAt_eq depth,
      Json.fieldName_form c depth target]

theorem FieldQuery.compileAt_eq (depth : Nat) : (query : FieldQuery) → query.compileAt c depth =
    (query.visits c.dialect).check c depth >>= fun _ => .ok (query.form c.dialect)
  | ⟨kind, field, operand, params⟩ => by
    simp [FieldQuery.compileAt, FieldQuery.visits, FieldQuery.form, field.compileAt_eq depth,
      operand.compileAt_eq depth, compileParams_eq depth params, Json.fieldName_form c depth field]

theorem NamedQuery.compileAt_eq (depth : Nat) : (query : NamedQuery) → query.compileAt c depth =
    (query.visits c.dialect).check c depth >>= fun _ => .ok (query.form c.dialect)
  | ⟨name, params⟩ => by
    simp [NamedQuery.compileAt, NamedQuery.visits, NamedQuery.form, compileParams_eq depth params]

theorem Range.compileAt_eq (depth : Nat) : (range : Range) → range.compileAt c depth =
    (range.visits c.dialect).check c depth >>= fun _ => .ok (range.form c.dialect)
  | ⟨field, params, queryParams⟩ => by
    simp [Range.compileAt, Range.visits, Range.form, field.compileAt_eq depth,
      compileParams_eq depth params, compileParams_eq depth queryParams, Json.fieldName_form c depth field]

theorem Terms.compileAt_eq (depth : Nat) : (terms : Terms) → terms.compileAt c depth =
    (terms.visits c.dialect).check c depth >>= fun _ => .ok (terms.form c.dialect)
  | ⟨field, values, params⟩ => by
    simp [Terms.compileAt, Terms.visits, Terms.form, field.compileAt_eq depth,
      compileItems_eq depth 0 values, compileParams_eq depth params, Json.fieldName_form c depth field]

theorem MultiMatch.compileAt_eq (depth : Nat) : (query : MultiMatch) → query.compileAt c depth =
    (query.visits c.dialect).check c depth >>= fun _ => .ok (query.form c.dialect)
  | ⟨operand, fields, params⟩ => by
    simp [MultiMatch.compileAt, MultiMatch.visits, MultiMatch.form, operand.compileAt_eq depth,
      compileItems_eq depth 0 fields, compileParams_eq depth params]

theorem WrappedQuery.compileAt_eq (depth : Nat) : (query : WrappedQuery) → query.compileAt c depth =
    (query.visits c.dialect).check c depth >>= fun _ => .ok (query.form c.dialect)
  | ⟨query, params⟩ => by
    simp [WrappedQuery.compileAt, WrappedQuery.visits, WrappedQuery.form, query.compileAt_eq depth,
      compileParams_eq depth params]

theorem BooleanFilter.compileAt_eq (depth : Nat) : (filter : BooleanFilter) → filter.compileAt c depth =
    (filter.visits c.dialect).check c depth >>= fun _ => .ok (filter.form c.dialect)
  | ⟨operator, operands, params⟩ => by
    simp [BooleanFilter.compileAt, BooleanFilter.visits, BooleanFilter.form,
      compileItems_eq depth 0 operands, compileParams_eq depth params]

theorem Negation.compileAt_eq (depth : Nat) : (filter : Negation) → filter.compileAt c depth =
    (filter.visits c.dialect).check c depth >>= fun _ => .ok (filter.form c.dialect)
  | ⟨operand, params⟩ => by
    simp [Negation.compileAt, Negation.visits, Negation.form, operand.compileAt_eq depth,
      compileParams_eq depth params]

theorem SortClause.compileAt_eq (depth : Nat) : (clause : SortClause) → clause.compileAt c depth =
    (clause.visits c.dialect).check c depth >>= fun _ => .ok (clause.form c.dialect)
  | ⟨target, order, params⟩ => by
    by_cases empty : params = []
    · subst empty
      cases order <;>
        simp [SortClause.compileAt, SortClause.visits, SortClause.form, target.compileAt_eq depth,
          compileParams, paramVisits, paramForms, Json.fieldName_form c depth target]
    · have given := compileParams_eq depth params
      cases order <;>
        simp [SortClause.compileAt, SortClause.visits, SortClause.form, target.compileAt_eq depth,
          given, Json.fieldName_form c depth target, empty]

theorem Aggregation.compileAt_eq (depth : Nat) : (aggregation : Aggregation) →
    aggregation.compileAt c depth =
      (aggregation.visits c.dialect).check c depth >>= fun _ => .ok (aggregation.form c.dialect)
  | .metric name params => by
    simp [Aggregation.compileAt, Aggregation.visits, Aggregation.form, compileParams_eq depth params]
  | .bucket name params subs => by
    simp [Aggregation.compileAt, Aggregation.visits, Aggregation.form, compileParams_eq depth params,
      compileAggregations_eq _ subs]
  | .filter condition subs => by
    simp [Aggregation.compileAt, Aggregation.visits, Aggregation.form, condition.compileAt_eq depth,
      compileAggregations_eq _ subs]

theorem compileAggregations_eq (depth : Nat) : (aggregations : List (String × Aggregation)) →
    compileAggregations c aggregations depth =
      (aggregationVisits c.dialect aggregations).check c depth >>= fun _ =>
        .ok (aggregationForms c.dialect aggregations)
  | [] => rfl
  | (name, aggregation) :: rest => by
    simp [compileAggregations, aggregationVisits, aggregationForms, aggregation.compileAt_eq depth,
      compileAggregations_eq depth rest]

theorem SourceFilter.compileAt_eq (depth : Nat) : (source : SourceFilter) → source.compileAt c depth =
    (source.visits c.dialect).check c depth >>= fun _ => .ok (source.form c.dialect)
  | .disabled => rfl
  | .fields names => by
    simp [SourceFilter.compileAt, SourceFilter.visits, SourceFilter.form, compileItems_eq depth 0 names]
  | .patterns included excluded => by
    simp [SourceFilter.compileAt, SourceFilter.visits, SourceFilter.form,
      compileItems_eq depth 0 included, compileItems_eq depth 0 excluded]

theorem Rescorer.compileAt_eq (depth : Nat) : (rescorer : Rescorer) → rescorer.compileAt c depth =
    (rescorer.visits c.dialect).check c depth >>= fun _ => .ok (rescorer.form c.dialect)
  | ⟨query, windowSize, queryWeight, rescoreQueryWeight, scoreMode⟩ => by
    simp [Rescorer.compileAt, Rescorer.visits, Rescorer.form, query.compileAt_eq depth,
      Json.mapM_ofDouble c depth queryWeight, Json.mapM_ofDouble c depth rescoreQueryWeight]

theorem compileRescorers_eq (depth position : Nat) : (rescorers : List Rescorer) →
    compileRescorers c rescorers position depth =
      (rescorerVisits c.dialect rescorers position).check c depth >>= fun _ =>
        .ok (rescorerForms c.dialect rescorers)
  | [] => rfl
  | rescorer :: rest => by
    simp [compileRescorers, rescorerVisits, rescorerForms, rescorer.compileAt_eq depth,
      compileRescorers_eq depth (position + 1) rest]

theorem compileOptional_eq (depth : Nat) : (expr : Option Expr) → compileOptional c expr depth =
    (optionalVisits c.dialect expr).check c depth >>= fun _ => .ok (optionalForm c.dialect expr)
  | none => rfl
  | some expr => by simp [compileOptional, optionalVisits, optionalForm, expr.compileAt_eq depth]

theorem compileSource_eq (depth : Nat) : (source : Option SourceFilter) → compileSource c source depth =
    (sourceVisits c.dialect source).check c depth >>= fun _ => .ok (sourceForm c.dialect source)
  | none => rfl
  | some source => by
    cases empty : source.isEmpty <;>
      simp [compileSource, sourceVisits, sourceForm, source.compileAt_eq, empty]

theorem compileFilters_eq (depth : Nat) : (filters : List Expr) → compileFilters c filters depth =
    (filtersVisits c.dialect filters).check c depth >>= fun _ => .ok (filtersForm c.dialect filters)
  | [] => rfl
  | [filter] => by simp [compileFilters, filtersVisits, filtersForm, filter.compileAt_eq depth]
  | first :: second :: rest => by
    simp [compileFilters, filtersVisits, filtersForm, first.compileAt_eq,
      compileItems_eq _ 1 (second :: rest)]

theorem Search.compileAt_eq (depth : Nat) : (search : Search) → search.compileAt c depth =
    (search.visits c.dialect).check c depth >>= fun _ => .ok (search.form c.dialect)
  | ⟨query, filters, postFilters, sorts, source, aggregations, limit, offset, rescorers, config⟩ => by
    cases none : filters.isEmpty <;>
      simp [Search.compileAt, Search.visits, Search.form, compileOptional_eq _ query,
        compileFilters_eq _ filters, compileFilters_eq depth postFilters, compileItems_eq depth 0 sorts,
        compileSource_eq depth source, compileAggregations_eq _ aggregations,
        compileRescorers_eq _ 0 rescorers, none]

theorem Field.fragmentAt_eq (depth : Nat) : (field : Field) → field.fragmentAt c depth =
    (field.fragmentVisits c.dialect).check c depth >>= fun _ => .ok (field.fragmentForm c.dialect)
  | ⟨name, subField, docType, type, multiFields, options⟩ => by
    simp [Field.fragmentAt, Field.fragmentVisits, Field.fragmentForm, type.propertiesAt_eq,
      multiFields.fragmentsAt_eq, compileParams_eq _ options]

theorem FieldType.propertiesAt_eq (depth : Nat) : (type : FieldType) → type.propertiesAt c depth =
    (type.propertiesVisits c.dialect).check c depth >>= fun _ => .ok (type.propertiesForm c.dialect)
  | .object ⟨docType, dynamic, options, metaFields, fields, templates⟩ => by
    simp [FieldType.propertiesAt, FieldType.propertiesVisits, FieldType.propertiesForm,
      compileFields_eq depth fields]
  | .nested ⟨docType, dynamic, options, metaFields, fields, templates⟩ => by
    simp [FieldType.propertiesAt, FieldType.propertiesVisits, FieldType.propertiesForm,
      compileFields_eq depth fields]
  | .list element => by
    simp [FieldType.propertiesAt, FieldType.propertiesVisits, FieldType.propertiesForm,
      element.propertiesAt_eq depth]
  | .string => rfl
  | .text => rfl
  | .keyword => rfl
  | .integer => rfl
  | .long => rfl
  | .float => rfl
  | .double => rfl
  | .boolean => rfl
  | .date => rfl
  | .binary => rfl
  | .ip => rfl
  | .geoPoint => rfl

theorem compileFields_eq (depth : Nat) : (fields : List Field) → compileFields c fields depth =
    (fieldVisits c.dialect fields).check c depth >>= fun _ => .ok (fieldForms c.dialect fields)
  | [] => rfl
  | field :: rest => by
    simp [compileFields, fieldVisits, fieldForms, field.fragmentAt_eq depth, compileFields_eq depth rest]

theorem MultiFields.fragmentsAt_eq (depth : Nat) : (multiFields : MultiFields) →
    multiFields.fragmentsAt c depth = (multiFields.fragmentVisits c.dialect).check c depth >>= fun _ =>
      .ok (multiFields.fragmentForms c.dialect)
  | .none => rfl
  | .types _ => rfl
  | .fields fields => by
    simp [MultiFields.fragmentsAt, MultiFields.fragmentVisits, MultiFields.fragmentForms,
      compileFields_eq depth fields]

theorem MetaField.optionsAt_eq (depth : Nat) : (field : MetaField) → field.optionsAt c depth =
    (field.optionsVisits c.dialect).check c depth >>= fun _ => .ok (field.optionsForm c.dialect)
  | ⟨name, options⟩ => by
    simp [MetaField.optionsAt, MetaField.optionsVisits, MetaField.optionsForm, compileParams_eq depth options]

theorem compileMetaFields_eq (depth : Nat) : (fields : List MetaField) → compileMetaFields c fields depth =
    (metaFieldVisits c.dialect fields).check c depth >>= fun _ => .ok (metaFieldForms c.dialect fields)
  | [] => rfl
  | field :: rest => by
    simp [compileMetaFields, metaFieldVisits, metaFieldForms, field.optionsAt_eq depth,
      compileMetaFields_eq depth rest]

theorem compileTemplates_eq (depth position : Nat) : (fields : List Field) →
    compileTemplates c fields position depth =
      (templateVisits c.dialect fields position).check c depth >>= fun _ =>
        .ok (templateForms c.dialect fields)
  | [] => rfl
  | field :: rest => by
    simp [compileTemplates, templateVisits, templateForms, field.fragmentAt_eq depth,
      compileTemplates_eq depth (position + 1) rest]

theorem Document.compileAt_eq (depth : Nat) : (document : Document) → document.compileAt c depth =
    (document.visits c.dialect).check c depth >>= fun _ => .ok (document.form c.dialect)
  | ⟨docType, dynamic, options, metaFields, fields, templates⟩ => by
    simp [Document.compileAt, Document.visits, Document.form, compileParams_eq depth options,
      compileMetaFields_eq depth metaFields, compileFields_eq depth fields,
      compileTemplates_eq depth 0 templates]
end

-- ---------------------------------------------------------------------------
-- What is compiled as a whole
-- ---------------------------------------------------------------------------

open Visits (entered)

theorem Expr.compile_eq (expr : Expr) : expr.compile c =
    Visits.check c 0 (expr.visits c.dialect) >>= fun _ => .ok (expr.form c.dialect) :=
  expr.compileAt_eq 0

theorem Search.compile_eq (config : Config) (search : Search) : search.compile config =
    Visits.check (config.compiler .query) 0 (entered (search.visits .query)) >>= fun _ =>
      .ok (search.form .query) := by
  simp [Search.compile, search.compileAt_eq, Config.compiler]

theorem Aggregations.compile_eq (config : Config) (aggregations : Aggregations) :
    aggregations.compile config =
      Visits.check (config.compiler .query) 0 (entered (aggregationVisits .query aggregations)) >>= fun _ =>
        .ok (.object (aggregationForms .query aggregations)) := by
  simp [Aggregations.compile, compileAggregations_eq, Config.compiler]

theorem Document.compile_eq (config : Config) (document : Document) : document.compile config =
    Visits.check (config.compiler .mapping) 0 (entered (document.visits .mapping)) >>= fun _ =>
      .ok (document.form .mapping) := by
  simp [Document.compile, document.compileAt_eq, Config.compiler]

theorem Field.mapping_eq (config : Config) (field : Field) (depth : Nat) : field.mapping config depth =
    Visits.check (config.compiler .mapping) depth (field.fragmentVisits .mapping) >>= fun _ =>
      .ok (.object (field.fragmentForm .mapping)) := by
  simp [Field.mapping, field.fragmentAt_eq, Config.compiler]

end SearchWire
