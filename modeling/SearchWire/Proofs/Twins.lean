import SearchWire.Proofs.Congruence
import SearchWire.Proofs.Matched
import SearchWire.Proofs.Rule

/-!
# Equal expressions have equal bodies

Equality of expressions forgets the order of entries, while compilation goes
through them one by one and stops at the first fault. The order decides which
fault that is, and where members stand, but neither whether there is a fault
nor which value a key is given.
-/

namespace SearchWire

open Json (Same)
open Entries (Alike Aligned)

variable {c : Compiler}

theorem Expr.eq_of_isPlainWeight {a b : Expr} (plain : a.IsPlainWeight) (eq : a.beq b) : a = b := by
  cases a with
  | int value =>
    cases b with
    | int other => exact congrArg _ (beq_iff_eq.mp eq)
    | _ => cases eq
  | string text =>
    cases b with
    | string other => exact congrArg _ (beq_iff_eq.mp eq)
    | _ => cases eq
  | _ => cases plain

/-- Equal containers are alike where a walk over the first one finds, for each
of its values, a related one in the second. -/
theorem Entries.Alike.of_walk {α : Type} {r : α → α → Prop} {as bs : Entries α} {rule : Prop} {found : Bool}
    (obeys : Rule.plain.keys (Entries.keys as) ∧ rule) (same : (as.length == bs.length && found) = true)
    (walk : rule → found → ∀ entry ∈ as, ∃ b, Entries.get? entry.1 bs = some b ∧ r entry.2 b) :
    Alike r as bs := by
  obtain ⟨length, found⟩ := Bool.and_eq_true_iff.mp same
  exact .of_found obeys.1 (beq_iff_eq.mp length) (walk obeys.2 found)

theorem eachType_found : (as : List (String × FieldType)) → {bs : List (String × FieldType)} →
    typesBeq as bs → ∀ entry ∈ as, ∃ b, Entries.get? entry.1 bs = some b ∧ entry.2.wireName = b.wireName
  | [], _, _ => List.forall_mem_nil _
  | (name, a) :: as, bs, eq => by
    obtain ⟨head, rest⟩ := Bool.and_eq_true_iff.mp eq
    refine List.forall_mem_cons.mpr ⟨?_, eachType_found as rest⟩
    cases found : Entries.get? name bs with
    | none =>
      rw [found] at head
      cases head
    | some b =>
      rw [found] at head
      exact ⟨b, rfl, a.wireName_eq head⟩

theorem MultiFields.types_alike {as bs : List (String × FieldType)} (distinct : Entries.Distinct as)
    (eq : (as.length == bs.length && typesBeq as bs) = true) (depth : Nat) :
    Result.Alike (Alike Same) ((MultiFields.types as).fragmentsAt c depth)
      ((MultiFields.types bs).fragmentsAt c depth) := by
  obtain ⟨length, eq⟩ := Bool.and_eq_true_iff.mp eq
  have alike := Alike.of_found (r := fun a b => a.wireName = b.wireName) distinct (beq_iff_eq.mp length)
    (eachType_found as eq)
  have json (type other : FieldType) (sameName : type.wireName = other.wireName) :
      Same (.single "type" (.string type.wireName)) (.single "type" (.string other.wireName)) := by
    rw [sameName]
    exact .single (.string _)
  exact .ok (alike.map json)

-- ---------------------------------------------------------------------------
-- The walk over both trees
-- ---------------------------------------------------------------------------

mutual
theorem Expr.twins_of_beq : (a : Expr) → {b : Expr} → a.Obeys .plain → a.beq b → a.Twins c b
  | .null, b, _, eq => by
    cases b with
    | null => exact fun _ => .ok rfl
    | _ => cases eq
  | .bool _, b, _, eq => by
    cases b with
    | bool _ => exact fun _ => .ok eq
    | _ => cases eq
  | .int _, b, _, eq => by
    cases b with
    | int _ => exact fun _ => .ok eq
    | _ => cases eq
  | .string _, b, _, eq => by
    cases b with
    | string _ => exact fun _ => .ok eq
    | _ => cases eq
  | .raw _, b, _, eq => by
    cases b with
    | raw _ => exact fun _ => .ok eq
    | _ => cases eq
  | .float _, b, _, eq => by
    cases b with
    | float _ => exact fun _ => Json.ofDouble_alike eq
    | _ => cases eq
  | .list items, b, obeys, eq => by
    cases b with
    | list others =>
      have twins := items_twins items obeys eq
      intro depth
      refine .bind (.refl _) ?_
      rintro depth _ rfl
      exact .bind (compileItems_congr twins 0 depth) fun _ _ same => .ok (.array same)
    | _ => cases eq
  | .map entries, b, obeys, eq => by
    cases b with
    | map others =>
      have twins : Alike (Expr.Twins c) entries others := .of_walk obeys eq (params_twins entries)
      intro depth
      refine .bind (.refl _) ?_
      rintro depth _ rfl
      exact .bind (compileParams_congr twins depth) fun _ _ alike => .ok (.object alike)
    | _ => cases eq
  | .node inner, b, obeys, eq => by
    cases b with
    | node other =>
      intro depth
      refine .bind (.refl _) ?_
      rintro depth _ rfl
      cases c.dialect with
      | query => exact inner.queryAt_alike obeys eq depth
      | mapping => exact inner.mappingAt_alike obeys eq depth
    | _ => cases eq
termination_by structural a => a

theorem items_twins : (as : List Expr) → {bs : List Expr} → itemsObey .plain as → exprsBeq as bs →
    List.Forall₂ (Expr.Twins c) as bs
  | [], bs, _, eq => by
    cases bs with
    | nil => exact .nil
    | cons _ _ => cases eq
  | a :: as, bs, obeys, eq => by
    cases bs with
    | nil => cases eq
    | cons b bs =>
      obtain ⟨head, rest⟩ := Bool.and_eq_true_iff.mp eq
      exact .cons (a.twins_of_beq obeys.1 head) (items_twins as obeys.2 rest)
termination_by structural a => a

theorem params_twins : (as : List (String × Expr)) → {bs : List (String × Expr)} → paramsObey .plain as →
    paramsBeq as bs → ∀ entry ∈ as, ∃ b, Entries.get? entry.1 bs = some b ∧ entry.2.Twins c b
  | [], _, _, _ => List.forall_mem_nil _
  | (key, a) :: as, bs, obeys, eq => by
    obtain ⟨head, rest⟩ := Bool.and_eq_true_iff.mp eq
    refine List.forall_mem_cons.mpr ⟨?_, params_twins as obeys.2 rest⟩
    cases found : Entries.get? key bs with
    | none =>
      rw [found] at head
      cases head
    | some b =>
      rw [found] at head
      exact ⟨b, rfl, a.twins_of_beq obeys.1 head⟩
termination_by structural a => a

theorem Node.queryAt_alike : (a : Node) → {b : Node} → a.Obeys .plain → a.beq b → (depth : Nat) →
    Result.Alike Same (a.queryAt c depth) (b.queryAt c depth)
  | .field _, _, _, eq, _ => by
    cases Node.matched_of_beq eq with
    | field same =>
      rw [Node.queryAt, Node.queryAt, Field.path_eq same]
      exact .ok (.string _)
  | .metaField _, _, _, eq, _ => by
    cases Node.matched_of_beq eq with
    | metaField same =>
      rw [Node.queryAt, Node.queryAt, MetaField.name_eq same]
      exact .ok (.string _)
  | .boost ⟨target, weight⟩, _, obeys, eq, depth => by
    cases Node.matched_of_beq eq with
    | boost sameTarget sameWeight =>
      obtain rfl := Expr.eq_of_isPlainWeight obeys.2.2 sameWeight
      exact Boost.compileAt_congr weight (target.twins_of_beq obeys.1 sameTarget) depth
  | .fieldQuery ⟨_, field, operand, params⟩, _, obeys, eq, depth => by
    cases Node.matched_of_beq eq with
    | fieldQuery sameField sameOperand sameParams =>
      exact FieldQuery.compileAt_congr _ (field.twins_of_beq obeys.1 sameField)
        (operand.twins_of_beq obeys.2.1 sameOperand) (.of_walk obeys.2.2 sameParams (params_twins params)) depth
  | .named ⟨_, params⟩, _, obeys, eq, depth => by
    cases Node.matched_of_beq eq with
    | named sameParams => exact NamedQuery.compileAt_congr _ (.of_walk obeys sameParams (params_twins params)) depth
  | .range ⟨field, params, queryParams⟩, _, obeys, eq, depth => by
    cases Node.matched_of_beq eq with
    | range sameField sameParams sameQueryParams =>
      exact Range.compileAt_congr (field.twins_of_beq obeys.1 sameField)
        (.of_walk obeys.2.1 sameParams (params_twins params))
        (.of_walk obeys.2.2 sameQueryParams (params_twins queryParams)) depth
  | .terms ⟨field, values, params⟩, _, obeys, eq, depth => by
    cases Node.matched_of_beq eq with
    | terms sameField sameValues sameParams =>
      exact Terms.compileAt_congr (field.twins_of_beq obeys.1 sameField)
        (items_twins values obeys.2.1 sameValues) (.of_walk obeys.2.2 sameParams (params_twins params)) depth
  | .multiMatch ⟨operand, fields, params⟩, _, obeys, eq, depth => by
    cases Node.matched_of_beq eq with
    | multiMatch sameOperand sameFields sameParams =>
      exact MultiMatch.compileAt_congr (operand.twins_of_beq obeys.1 sameOperand)
        (items_twins fields obeys.2.1 sameFields) (.of_walk obeys.2.2 sameParams (params_twins params)) depth
  | .wrapped ⟨query, params⟩, _, obeys, eq, depth => by
    cases Node.matched_of_beq eq with
    | wrapped sameQuery sameParams =>
      exact WrappedQuery.compileAt_congr (query.twins_of_beq obeys.1 sameQuery)
        (.of_walk obeys.2 sameParams (params_twins params)) depth
  | .boolean ⟨_, operands, params⟩, _, obeys, eq, depth => by
    cases Node.matched_of_beq eq with
    | boolean sameOperands sameParams =>
      exact BooleanFilter.compileAt_congr _ (items_twins operands obeys.1 sameOperands)
        (.of_walk obeys.2 sameParams (params_twins params)) depth
  | .negation ⟨operand, params⟩, _, obeys, eq, depth => by
    cases Node.matched_of_beq eq with
    | negation sameOperand sameParams =>
      exact Negation.compileAt_congr (operand.twins_of_beq obeys.1 sameOperand)
        (.of_walk obeys.2 sameParams (params_twins params)) depth
  | .sort ⟨target, _, params⟩, _, obeys, eq, depth => by
    cases Node.matched_of_beq eq with
    | sort sameTarget sameParams =>
      exact SortClause.compileAt_congr _ (target.twins_of_beq obeys.1 sameTarget)
        (.of_walk obeys.2 sameParams (params_twins params)) depth
  | .aggregation aggregation, _, obeys, eq, depth => by
    cases Node.matched_of_beq eq with
    | aggregation same => exact aggregation.twins_of_beq obeys same depth
  | .source source, _, obeys, eq, depth => by
    cases Node.matched_of_beq eq with
    | source same => exact (source.twins_of_beq obeys same).2 depth
  | .rescore rescorer, _, obeys, eq, depth => by
    cases Node.matched_of_beq eq with
    | rescore same => exact rescorer.twins_of_beq obeys same depth
  | .search search, _, obeys, eq, depth => by
    cases Node.matched_of_beq eq with
    | search same => exact search.compileAt_alike obeys same depth
  | .document _, _, _, eq, _ => by
    cases Node.matched_of_beq eq with
    | document => exact .error _ _
termination_by structural a => a

theorem Aggregation.twins_of_beq : (a : Aggregation) → {b : Aggregation} → a.Obeys .plain → a.beq b →
    a.Twins c b
  | .metric name params, b, obeys, eq => by
    cases b with
    | metric name' params' =>
      obtain ⟨sameName, sameParams⟩ := Bool.and_eq_true_iff.mp eq
      obtain rfl := beq_iff_eq.mp sameName
      exact Aggregation.twins_metric _ (.of_walk obeys sameParams (params_twins params))
    | _ => cases eq
  | .bucket name params subs, b, obeys, eq => by
    cases b with
    | bucket name' params' subs' =>
      obtain ⟨eq, sameSubs⟩ := Bool.and_eq_true_iff.mp eq
      obtain ⟨sameName, sameParams⟩ := Bool.and_eq_true_iff.mp eq
      obtain rfl := beq_iff_eq.mp sameName
      exact Aggregation.twins_bucket _ (.of_walk obeys.1 sameParams (params_twins params))
        (.of_walk obeys.2 sameSubs (aggregations_twins subs))
    | _ => cases eq
  | .filter condition subs, b, obeys, eq => by
    cases b with
    | filter condition' subs' =>
      obtain ⟨sameCondition, sameSubs⟩ := Bool.and_eq_true_iff.mp eq
      exact Aggregation.twins_filter (condition.twins_of_beq obeys.1 sameCondition)
        (.of_walk obeys.2 sameSubs (aggregations_twins subs))
    | _ => cases eq
termination_by structural a => a

theorem aggregations_twins : (as : List (String × Aggregation)) → {bs : List (String × Aggregation)} →
    aggregationsObey .plain as → aggregationsBeq as bs →
    ∀ entry ∈ as, ∃ b, Entries.get? entry.1 bs = some b ∧ entry.2.Twins c b
  | [], _, _, _ => List.forall_mem_nil _
  | (name, a) :: as, bs, obeys, eq => by
    obtain ⟨head, rest⟩ := Bool.and_eq_true_iff.mp eq
    refine List.forall_mem_cons.mpr ⟨?_, aggregations_twins as obeys.2 rest⟩
    cases found : Entries.get? name bs with
    | none =>
      rw [found] at head
      cases head
    | some b =>
      rw [found] at head
      exact ⟨b, rfl, a.twins_of_beq obeys.1 head⟩
termination_by structural a => a

theorem SourceFilter.twins_of_beq : (a : SourceFilter) → {b : SourceFilter} → a.Obeys .plain → a.beq b →
    a.Twins c b
  | .disabled, b, _, eq => by
    cases b with
    | disabled => exact ⟨rfl, fun _ => .ok (.bool false)⟩
    | _ => cases eq
  | .fields names, b, obeys, eq => by
    cases b with
    | fields names' => exact SourceFilter.twins_fields (items_twins names obeys eq)
    | _ => cases eq
  | .patterns included excluded, b, obeys, eq => by
    cases b with
    | patterns included' excluded' =>
      obtain ⟨sameIncluded, sameExcluded⟩ := Bool.and_eq_true_iff.mp eq
      exact SourceFilter.twins_patterns (items_twins included obeys.1 sameIncluded)
        (items_twins excluded obeys.2 sameExcluded)
    | _ => cases eq
termination_by structural a => a

theorem Rescorer.twins_of_beq : (a : Rescorer) → {b : Rescorer} → a.Obeys .plain → a.beq b → a.Twins c b
  | ⟨query, windowSize, queryWeight, rescoreQueryWeight, scoreMode⟩,
    ⟨query', windowSize', queryWeight', rescoreQueryWeight', scoreMode'⟩, obeys, eq => by
    obtain ⟨eq, sameMode⟩ := Bool.and_eq_true_iff.mp eq
    obtain ⟨eq, sameRescoreWeight⟩ := Bool.and_eq_true_iff.mp eq
    obtain ⟨eq, sameWeight⟩ := Bool.and_eq_true_iff.mp eq
    obtain ⟨sameQuery, sameSize⟩ := Bool.and_eq_true_iff.mp eq
    obtain rfl := beq_iff_eq.mp sameSize
    obtain rfl := beq_iff_eq.mp sameMode
    exact Rescorer.twins_of_query _ _ (query.twins_of_beq obeys sameQuery) sameWeight sameRescoreWeight
termination_by structural a => a

theorem rescorers_twins : (as : List Rescorer) → {bs : List Rescorer} → rescorersObey .plain as →
    rescorersBeq as bs → List.Forall₂ (Rescorer.Twins c) as bs
  | [], bs, _, eq => by
    cases bs with
    | nil => exact .nil
    | cons _ _ => cases eq
  | a :: as, bs, obeys, eq => by
    cases bs with
    | nil => cases eq
    | cons b bs =>
      obtain ⟨head, rest⟩ := Bool.and_eq_true_iff.mp eq
      exact .cons (a.twins_of_beq obeys.1 head) (rescorers_twins as obeys.2 rest)
termination_by structural a => a

theorem query_twins : (a : Option Expr) → {b : Option Expr} → queryObeys .plain a → queryBeq a b →
    Option.Rel (Expr.Twins c) a b
  | none, b, _, eq => by
    cases b with
    | none => exact .none
    | some _ => cases eq
  | some a, b, obeys, eq => by
    cases b with
    | none => cases eq
    | some _ => exact .some (a.twins_of_beq obeys eq)
termination_by structural a => a

theorem source_twins : (a : Option SourceFilter) → {b : Option SourceFilter} → sourceObeys .plain a →
    sourceBeq a b → Option.Rel (SourceFilter.Twins c) a b
  | none, b, _, eq => by
    cases b with
    | none => exact .none
    | some _ => cases eq
  | some a, b, obeys, eq => by
    cases b with
    | none => cases eq
    | some _ => exact .some (a.twins_of_beq obeys eq)
termination_by structural a => a

theorem Search.compileAt_alike : (a : Search) → {b : Search} → a.Obeys .plain → a.beq b →
    (depth : Nat) → Result.Alike Same (a.compileAt c depth) (b.compileAt c depth)
  | ⟨query, filters, postFilters, sorts, source, aggregations, limit, offset, rescorers, config⟩,
    ⟨query', filters', postFilters', sorts', source', aggregations', limit', offset', rescorers', config'⟩,
    obeys, eq, depth => by
    obtain ⟨regularQuery, regularFilters, regularPostFilters, regularSorts, regularSource, regularAggregations,
      regularRescorers⟩ := obeys
    obtain ⟨eq, -⟩ := Bool.and_eq_true_iff.mp eq
    obtain ⟨eq, sameRescorers⟩ := Bool.and_eq_true_iff.mp eq
    obtain ⟨eq, sameOffset⟩ := Bool.and_eq_true_iff.mp eq
    obtain ⟨eq, sameLimit⟩ := Bool.and_eq_true_iff.mp eq
    obtain ⟨eq, sameAggregations⟩ := Bool.and_eq_true_iff.mp eq
    obtain ⟨eq, sameSource⟩ := Bool.and_eq_true_iff.mp eq
    obtain ⟨eq, sameSorts⟩ := Bool.and_eq_true_iff.mp eq
    obtain ⟨eq, samePostFilters⟩ := Bool.and_eq_true_iff.mp eq
    obtain ⟨sameQuery, sameFilters⟩ := Bool.and_eq_true_iff.mp eq
    obtain rfl := beq_iff_eq.mp sameLimit
    obtain rfl := beq_iff_eq.mp sameOffset
    exact Search.compileAt_congr _ _ _ _ (query_twins query regularQuery sameQuery)
      (items_twins filters regularFilters sameFilters) (items_twins postFilters regularPostFilters samePostFilters)
      (items_twins sorts regularSorts sameSorts) (source_twins source regularSource sameSource)
      (.of_walk regularAggregations sameAggregations (aggregations_twins aggregations))
      (rescorers_twins rescorers regularRescorers sameRescorers) depth
termination_by structural a => a

theorem Node.mappingAt_alike : (a : Node) → {b : Node} → a.Obeys .plain → a.beq b → (depth : Nat) →
    Result.Alike Same (a.mappingAt c depth) (b.mappingAt c depth)
  | .field field, _, obeys, eq, depth => by
    cases Node.matched_of_beq eq with
    | field same =>
      obtain ⟨name, twins⟩ := field.twins_of_beq obeys same
      refine .bind ((twins depth).atKey _ _) fun _ _ fragment => ?_
      rw [name]
      exact .ok (.single (.object fragment))
  | .metaField field, _, obeys, eq, depth => by
    cases Node.matched_of_beq eq with
    | metaField same =>
      exact .bind (field.twins_of_beq obeys same depth) fun _ _ options => .ok (.object options.2)
  | .document document, _, obeys, eq, depth => by
    cases Node.matched_of_beq eq with
    | document same => exact document.compileAt_alike obeys same depth
  | .boost _, _, _, eq, _ | .fieldQuery _, _, _, eq, _ | .named _, _, _, eq, _ | .range _, _, _, eq, _
  | .terms _, _, _, eq, _ | .multiMatch _, _, _, eq, _ | .wrapped _, _, _, eq, _ | .boolean _, _, _, eq, _
  | .negation _, _, _, eq, _ | .sort _, _, _, eq, _ | .aggregation _, _, _, eq, _ | .source _, _, _, eq, _
  | .rescore _, _, _, eq, _ | .search _, _, _, eq, _ => by
    cases Node.matched_of_beq eq
    exact .error _ _
termination_by structural a => a

theorem Field.twins_of_beq : (a : Field) → {b : Field} → a.Obeys .plain → a.beq b → a.Twins c b
  | ⟨name, subField, docType, type, multiFields, options⟩,
    ⟨name', subField', docType', type', multiFields', options'⟩, obeys, eq => by
    obtain ⟨eq, sameOptions⟩ := Bool.and_eq_true_iff.mp eq
    obtain ⟨eq, sameMultiFields⟩ := Bool.and_eq_true_iff.mp eq
    obtain ⟨eq, sameType⟩ := Bool.and_eq_true_iff.mp eq
    obtain ⟨eq, -⟩ := Bool.and_eq_true_iff.mp eq
    obtain ⟨sameName, -⟩ := Bool.and_eq_true_iff.mp eq
    obtain rfl := beq_iff_eq.mp sameName
    exact Field.twins_of_parts _ _ _ _ _ (type.wireName_eq sameType)
      (type.propertiesAt_alike obeys.1 sameType) (multiFields.fragmentsAt_alike obeys.2.1 sameMultiFields)
      (.of_walk obeys.2.2 sameOptions (params_twins options))
termination_by structural a => a

theorem fields_twins : (as : List Field) → {bs : List Field} → fieldsObey .plain as → fieldsBeq as bs →
    List.Forall₂ (Field.Twins c) as bs
  | [], bs, _, eq => by
    cases bs with
    | nil => exact .nil
    | cons _ _ => cases eq
  | a :: as, bs, obeys, eq => by
    cases bs with
    | nil => cases eq
    | cons b bs =>
      obtain ⟨head, rest⟩ := Bool.and_eq_true_iff.mp eq
      exact .cons (a.twins_of_beq obeys.1 head) (fields_twins as obeys.2 rest)
termination_by structural a => a

theorem FieldType.propertiesAt_alike : (a : FieldType) → {b : FieldType} → a.Obeys .plain → a.beq b →
    (depth : Nat) → Result.Alike (Option.Rel Same) (a.propertiesAt c depth) (b.propertiesAt c depth)
  | .object document, _, obeys, eq, depth => by
    cases FieldType.matched_of_beq eq with
    | object same => exact document.propertiesAt_alike obeys same depth
    | plain none => cases none
  | .nested document, _, obeys, eq, depth => by
    cases FieldType.matched_of_beq eq with
    | nested same =>
      rw [FieldType.propertiesAt_nested, FieldType.propertiesAt_nested]
      exact document.propertiesAt_alike obeys same depth
    | plain none => cases none
  | .list element, _, obeys, eq, depth => by
    cases FieldType.matched_of_beq eq with
    | list same => exact element.propertiesAt_alike obeys same depth
    | plain none =>
      rw [FieldType.propertiesAt_eq_none _ depth none]
      exact .ok .none
  | .string, _, _, eq, _ | .text, _, _, eq, _ | .keyword, _, _, eq, _ | .integer, _, _, eq, _
  | .long, _, _, eq, _ | .float, _, _, eq, _ | .double, _, _, eq, _ | .boolean, _, _, eq, _
  | .date, _, _, eq, _ | .binary, _, _, eq, _ | .ip, _, _, eq, _ | .geoPoint, _, _, eq, _ => by
    cases FieldType.matched_of_beq eq
    exact .ok .none
termination_by structural a => a

theorem Document.propertiesAt_alike : (a : Document) → {b : Document} → a.Obeys .plain → a.beq b →
    (depth : Nat) → Result.Alike (Option.Rel Same) ((FieldType.object a).propertiesAt c depth)
      ((FieldType.object b).propertiesAt c depth)
  | ⟨_, _, _, _, fields, _⟩, ⟨_, _, _, _, fields', _⟩, obeys, eq, depth => by
    obtain ⟨eq, -⟩ := Bool.and_eq_true_iff.mp eq
    obtain ⟨-, sameFields⟩ := Bool.and_eq_true_iff.mp eq
    have twins := fields_twins fields obeys.2.2.1 sameFields
    refine .bind ((compileFields_congr twins depth).atKey _ _) fun _ _ properties => ?_
    exact .ok (.some (.object (.ofPairs properties)))
termination_by structural a => a

theorem MultiFields.fragmentsAt_alike : (a : MultiFields) → {b : MultiFields} → a.Obeys .plain → a.beq b →
    (depth : Nat) → Result.Alike (Alike Same) (a.fragmentsAt c depth) (b.fragmentsAt c depth)
  | .none, b, _, eq, _ => by
    cases b with
    | none => exact .ok .nil
    | _ => cases eq
  | .types types, b, obeys, eq, depth => by
    cases b with
    | types types' => exact MultiFields.types_alike obeys.1 eq depth
    | _ => cases eq
  | .fields fields, b, obeys, eq, depth => by
    cases b with
    | fields fields' =>
      have twins := fields_twins fields obeys eq
      exact .bind ((compileFields_congr twins depth).atKey _ _) fun _ _ fragments => .ok (.ofPairs fragments)
    | _ => cases eq
termination_by structural a => a

theorem MetaField.twins_of_beq : (a : MetaField) → {b : MetaField} → a.Obeys .plain → a.beq b → a.Twins c b
  | ⟨name, options⟩, ⟨name', options'⟩, obeys, eq => by
    obtain ⟨sameName, sameOptions⟩ := Bool.and_eq_true_iff.mp eq
    obtain rfl := beq_iff_eq.mp sameName
    exact MetaField.twins_of_options _ (.of_walk obeys sameOptions (params_twins options))
termination_by structural a => a

theorem metaFields_twins : (as : List MetaField) → {bs : List MetaField} → metaFieldsObey .plain as →
    metaFieldsBeq as bs → List.Forall₂ (MetaField.Twins c) as bs
  | [], bs, _, eq => by
    cases bs with
    | nil => exact .nil
    | cons _ _ => cases eq
  | a :: as, bs, obeys, eq => by
    cases bs with
    | nil => cases eq
    | cons b bs =>
      obtain ⟨head, rest⟩ := Bool.and_eq_true_iff.mp eq
      exact .cons (a.twins_of_beq obeys.1 head) (metaFields_twins as obeys.2 rest)
termination_by structural a => a

theorem Document.compileAt_alike : (a : Document) → {b : Document} → a.Obeys .plain → a.beq b →
    (depth : Nat) → Result.Alike Same (a.compileAt c depth) (b.compileAt c depth)
  | ⟨docType, dynamic, options, metaFields, fields, templates⟩,
    ⟨docType', dynamic', options', metaFields', fields', templates'⟩, obeys, eq, depth => by
    obtain ⟨regularOptions, regularMetaFields, regularFields, regularTemplates⟩ := obeys
    obtain ⟨eq, sameTemplates⟩ := Bool.and_eq_true_iff.mp eq
    obtain ⟨eq, sameFields⟩ := Bool.and_eq_true_iff.mp eq
    obtain ⟨eq, sameMetaFields⟩ := Bool.and_eq_true_iff.mp eq
    obtain ⟨eq, sameOptions⟩ := Bool.and_eq_true_iff.mp eq
    obtain ⟨sameDocType, -⟩ := Bool.and_eq_true_iff.mp eq
    obtain rfl := beq_iff_eq.mp sameDocType
    exact Document.compileAt_congr _ _ _ (.of_walk regularOptions sameOptions (params_twins options))
      (metaFields_twins metaFields regularMetaFields sameMetaFields)
      (fields_twins fields regularFields sameFields) (fields_twins templates regularTemplates sameTemplates) depth
termination_by structural a => a
end

-- ---------------------------------------------------------------------------
-- Whole trees
-- ---------------------------------------------------------------------------

/-- Trees that are equal compile to bodies that are equal, or do not compile.
Whatever is put together from `Params` holds no key twice; a weight is part of a
text, so it has to be one that is written in one way. -/
theorem equal_trees_compile_alike (c : Compiler) {a b : Expr} (regular : a.Obeys .plain) (eq : a == b) :
    (∃ json other, a.compile c = .ok json ∧ b.compile c = .ok other ∧ json == other) ∨
      ∃ error other, a.compile c = .error error ∧ b.compile c = .error other := by
  have alike : Result.Alike Same (a.compile c) (b.compile c) := a.twins_of_beq regular eq 0
  generalize a.compile c = first, b.compile c = second at alike ⊢
  cases alike with
  | ok same => exact .inl ⟨_, _, rfl, rfl, same⟩
  | error error other => exact .inr ⟨error, other, rfl, rfl⟩

/-- A boosted match whose parameters come in two orders and whose zeros have
two signs. -/
theorem equal_trees_compile_alike_boosted :
    let target := Expr.node (.boost ⟨.string "title", .int 2⟩)
    let params : Params := .ofPairs [("slop", .float .zero), ("type", .null)]
    let a := Expr.node (.fieldQuery ⟨.matching, target, .string "x", params.entries⟩)
    let b := Expr.node (.fieldQuery
      ⟨.matching, target, .string "x", [("type", .null), ("slop", .float (.ofCode true 0))]⟩)
    ∃ json other, a.compile ⟨.query, 4⟩ = .ok json ∧ b.compile ⟨.query, 4⟩ = .ok other ∧ json == other := by
  intro target params a b
  have regular : a.Obeys .plain := ⟨⟨trivial, trivial, trivial⟩, trivial, params.distinct, trivial, trivial, trivial⟩
  have eq : a == b := by decide
  have compiles : ∃ json, a.compile ⟨.query, 4⟩ = .ok json := ⟨_, rfl⟩
  obtain ⟨json, compiles⟩ := compiles
  rcases equal_trees_compile_alike ⟨.query, 4⟩ regular eq with bodies | ⟨error, other, fails, -⟩
  · exact bodies
  · rw [compiles] at fails
    cases fails

end SearchWire
