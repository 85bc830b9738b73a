import SearchWire.Proofs.Checks
import SearchWire.Proofs.Congruence

/-!
# Operands and parameters

Parameters go by any key, that of an operand included. Nodes that put both into
one object keep the operands in front and give a shared key to the parameter;
without parameters most have a short form. A range is the other way round: the
bounds of its field win over a parameter that is named as the field is, and
take its place.
-/

namespace SearchWire

open Entries (Distinct Aligned)

-- ---------------------------------------------------------------------------
-- Results
-- ---------------------------------------------------------------------------

theorem Compiler.enter_eq_ok_iff {c : Compiler} {depth inner : Nat} :
    c.enter depth = .ok inner ↔ depth < c.maxDepth ∧ depth + 1 = inner := by
  rw [enter]
  split
  · next room => simp [room]
  · next full => simp [full]

theorem Json.fieldName_eq_ok_iff {json : Json} {field : String} :
    json.fieldName = .ok field ↔ json = .string field := by
  cases json <;> simp [fieldName]

-- ---------------------------------------------------------------------------
-- Objects
-- ---------------------------------------------------------------------------

section
variable (c : Compiler) (depth : Nat)

def CompiledParams (params : Entries Expr) (compiled : Entries Json) : Prop :=
  Aligned (fun expr json => expr.compileAt c depth = .ok json) params compiled

/-- An object of operands and parameters. The keys of the operands come first,
then those of the parameters that are new; where a parameter has the key of an
operand, the operand is lost. -/
def Overlaid (operands : Entries Json) (params : Entries Expr) (json : Json) : Prop :=
  ∃ members, json = .object members ∧
    Entries.keys members = Entries.keys operands ++ (Entries.keys params).filter (· ∉ Entries.keys operands) ∧
    (∀ key expr, Entries.get? key params = some expr →
      ∃ value, expr.compileAt c depth = .ok value ∧ Entries.get? key members = some value) ∧
    ∀ key, key ∉ Entries.keys params → Entries.get? key members = Entries.get? key operands

/-- The short form without parameters, an object of both with some. -/
def ShortOrOverlaid (short : Json) (operands : Entries Json) (params : Entries Expr) (json : Json) : Prop :=
  (params = [] → json = short) ∧ (params ≠ [] → Overlaid c depth operands params json)

def FieldQuery.Joined (query : FieldQuery) (body : Json) : Prop :=
  ∃ field operand part, query.field.compileAt c depth = .ok (.string field) ∧
    query.operand.compileAt c depth = .ok operand ∧ body = .single query.kind.text (.single field part) ∧
    ShortOrOverlaid c depth operand [(query.kind.operandKey, operand)] query.params part

def Terms.Joined (terms : Terms) (body : Json) : Prop :=
  ∃ field values part, terms.field.compileAt c depth = .ok (.string field) ∧
    compileItems c terms.values 0 depth = .ok values ∧ body = .single "terms" part ∧
    Overlaid c depth [(field, .array values)] terms.params part

def MultiMatch.Joined (query : MultiMatch) (body : Json) : Prop :=
  ∃ operand fields part, query.operand.compileAt c depth = .ok operand ∧
    compileItems c query.fields 0 depth = .ok fields ∧ body = .single "multi_match" part ∧
    Overlaid c depth [("query", operand), ("fields", .array fields)] query.params part

/-- The name around the object is part of the long form alone. -/
def WrappedQuery.Joined (query : WrappedQuery) (body : Json) : Prop :=
  ∃ operand, query.query.compileAt c depth = .ok operand ∧
    (query.params = [] → body = .single "query" operand) ∧
    (query.params ≠ [] → ∃ part, body = .single "fquery" part ∧
      Overlaid c depth [("query", operand)] query.params part)

def BooleanFilter.Joined (filter : BooleanFilter) (body : Json) : Prop :=
  ∃ operands part, compileItems c filter.operands 0 depth = .ok operands ∧
    body = .single filter.operator.text part ∧
    ShortOrOverlaid c depth (.array operands) [("filters", .array operands)] filter.params part

def Negation.Joined (filter : Negation) (body : Json) : Prop :=
  ∃ operand part, filter.operand.compileAt c depth = .ok operand ∧ body = .single "not" part ∧
    ShortOrOverlaid c depth operand [("filter", operand)] filter.params part

/-- Without an order and parameters a clause is its target. -/
def SortClause.Joined (clause : SortClause) (body : Json) : Prop :=
  ∃ target, clause.target.compileAt c depth = .ok target ∧
    (clause.params = [] → clause.order = none → body = target) ∧
    (∀ order, clause.params = [] → clause.order = some order →
      ∃ field, target = .string field ∧ body = .single field (.string order.text)) ∧
    (clause.params ≠ [] → ∃ field part, target = .string field ∧ body = .single field part ∧
      Overlaid c depth (Json.optional "order" (clause.order.map (Json.string ·.text))) clause.params part)

def Field.Joined (field : Field) (fragment : Entries Json) : Prop :=
  ∃ properties subFields, field.type.propertiesAt c depth = .ok properties ∧
    properties.isSome = field.type.document?.isSome ∧
    field.multiFields.fragmentsAt c depth = .ok subFields ∧ subFields.isEmpty = field.multiFields.isEmpty ∧
    Overlaid c depth (("type", .string field.type.wireName) :: Json.optional "properties" properties ++
      Json.section? "fields" subFields) field.options (.object fragment)

/-- The bounds stand under the field whatever else is named so, in the place of
that parameter or behind all others. -/
def Range.Joined (range : Range) (body : Json) : Prop :=
  ∃ field bounds members, range.field.compileAt c depth = .ok (.string field) ∧
    CompiledParams c depth range.params bounds ∧ body = .single "range" (.object members) ∧
    Entries.keys members = (if field ∈ Entries.keys range.queryParams then Entries.keys range.queryParams
      else Entries.keys range.queryParams ++ [field]) ∧
    Entries.get? field members = some (.object bounds) ∧
    ∀ key expr, key ≠ field → Entries.get? key range.queryParams = some expr →
      ∃ value, expr.compileAt c depth = .ok value ∧ Entries.get? key members = some value

end

-- ---------------------------------------------------------------------------
-- Nodes
-- ---------------------------------------------------------------------------

section
variable {c : Compiler} {depth : Nat} {params : Entries Expr} {compiled operands : Entries Json} {body : Json}

theorem compiledParams_of_compileParams (compiles : compileParams c params depth = .ok compiled) :
    CompiledParams c depth params compiled := by
  rw [compileParams_eq_compileEach] at compiles
  exact Entries.aligned_of_compileEach compiles

namespace CompiledParams

theorem get? (given : CompiledParams c depth params compiled) {key : String} {expr : Expr}
    (found : Entries.get? key params = some expr) :
    ∃ value, expr.compileAt c depth = .ok value ∧ Entries.get? key compiled = some value := by
  have related := given.found key
  rw [found] at related
  generalize Entries.get? key compiled = value at related ⊢
  cases related with
  | some compiles => exact ⟨_, compiles, rfl⟩

theorem isEmpty_eq (given : CompiledParams c depth params compiled) : compiled.isEmpty = params.isEmpty := by
  cases given <;> rfl

theorem overlaid (given : CompiledParams c depth params compiled) (distinct : Distinct params) :
    Overlaid c depth operands params (Json.withParams operands compiled) := by
  have keys : Entries.keys params = Entries.keys compiled := given.keys_eq
  have distinct : Distinct compiled := by rwa [Distinct, ← keys]
  refine ⟨_, rfl, ?_, fun key expr found => ?_, fun key absent => ?_⟩
  · rw [Entries.keys_merge distinct, keys]
  · obtain ⟨value, compiles, found⟩ := given.get? found
    refine ⟨value, compiles, ?_⟩
    rw [Entries.get?_merge_of_distinct distinct, found, Option.some_or]
  · rw [keys, ← Entries.get?_eq_none_iff] at absent
    rw [Entries.get?_merge_of_distinct distinct, absent, Option.none_or]

theorem shortOrOverlaid (given : CompiledParams c depth params compiled) (distinct : Distinct params)
    (key : String) (operand : Json) :
    ShortOrOverlaid c depth operand [(key, operand)] params (Json.beside key operand compiled) := by
  rw [Json.beside, given.isEmpty_eq]
  constructor
  · rintro rfl
    rfl
  · intro some
    rw [if_neg (by simpa using some)]
    exact given.overlaid distinct

end CompiledParams

theorem FieldQuery.joined {query : FieldQuery} (distinct : Distinct query.params)
    (compiles : query.compileAt c depth = .ok body) : query.Joined c depth body := by
  obtain ⟨kind, field, operand, params⟩ := query
  simp only [compileAt, Result.bind_eq_ok_iff, Result.atKey_eq_ok_iff, Json.fieldName_eq_ok_iff] at compiles
  obtain ⟨_, named, name, rfl, value, matched, compiled, given, whole⟩ := compiles
  cases whole
  exact ⟨name, value, _, named, matched, rfl,
    (compiledParams_of_compileParams given).shortOrOverlaid distinct _ _⟩

theorem Terms.joined {terms : Terms} (distinct : Distinct terms.params)
    (compiles : terms.compileAt c depth = .ok body) : terms.Joined c depth body := by
  obtain ⟨field, values, params⟩ := terms
  simp only [compileAt, Result.bind_eq_ok_iff, Result.atKey_eq_ok_iff, Json.fieldName_eq_ok_iff] at compiles
  obtain ⟨_, named, name, rfl, items, listed, compiled, given, whole⟩ := compiles
  cases whole
  exact ⟨name, items, _, named, listed, rfl, (compiledParams_of_compileParams given).overlaid distinct⟩

theorem MultiMatch.joined {query : MultiMatch} (distinct : Distinct query.params)
    (compiles : query.compileAt c depth = .ok body) : query.Joined c depth body := by
  obtain ⟨operand, fields, params⟩ := query
  simp only [compileAt, Result.bind_eq_ok_iff] at compiles
  obtain ⟨value, matched, names, listed, compiled, given, whole⟩ := compiles
  cases whole
  exact ⟨value, names, _, matched, listed, rfl, (compiledParams_of_compileParams given).overlaid distinct⟩

theorem WrappedQuery.joined {query : WrappedQuery} (distinct : Distinct query.params)
    (compiles : query.compileAt c depth = .ok body) : query.Joined c depth body := by
  obtain ⟨inner, params⟩ := query
  simp only [compileAt, Result.bind_eq_ok_iff] at compiles
  obtain ⟨value, matched, compiled, given, whole⟩ := compiles
  have given := compiledParams_of_compileParams given
  rw [given.isEmpty_eq] at whole
  refine ⟨value, matched, ?_, fun some => ⟨_, ?_, given.overlaid distinct⟩⟩
  · rintro rfl
    cases given
    exact (Except.ok.inj whole).symm
  · rw [if_neg (by simpa using some)] at whole
    exact (Except.ok.inj whole).symm

theorem BooleanFilter.joined {filter : BooleanFilter} (distinct : Distinct filter.params)
    (compiles : filter.compileAt c depth = .ok body) : filter.Joined c depth body := by
  obtain ⟨operator, operands, params⟩ := filter
  simp only [compileAt, Result.bind_eq_ok_iff, Result.atKey_eq_ok_iff] at compiles
  obtain ⟨items, listed, compiled, given, whole⟩ := compiles
  cases whole
  exact ⟨items, _, listed, rfl, (compiledParams_of_compileParams given).shortOrOverlaid distinct _ _⟩

theorem Negation.joined {filter : Negation} (distinct : Distinct filter.params)
    (compiles : filter.compileAt c depth = .ok body) : filter.Joined c depth body := by
  obtain ⟨operand, params⟩ := filter
  simp only [compileAt, Result.bind_eq_ok_iff, Result.atKey_eq_ok_iff] at compiles
  obtain ⟨value, matched, compiled, given, whole⟩ := compiles
  cases whole
  exact ⟨value, _, matched, rfl, (compiledParams_of_compileParams given).shortOrOverlaid distinct _ _⟩

theorem SortClause.joined {clause : SortClause} (distinct : Distinct clause.params)
    (compiles : clause.compileAt c depth = .ok body) : clause.Joined c depth body := by
  obtain ⟨target, order, params⟩ := clause
  simp only [compileAt, Result.bind_eq_ok_iff] at compiles
  obtain ⟨value, sorted, compiled, given, whole⟩ := compiles
  have given := compiledParams_of_compileParams given
  rw [given.isEmpty_eq] at whole
  refine ⟨value, sorted, ?_, ?_, fun some => ?_⟩
  · rintro rfl rfl
    exact (Except.ok.inj whole).symm
  · rintro order rfl rfl
    obtain ⟨name, named, whole⟩ := Result.bind_eq_ok_iff.mp whole
    exact ⟨name, Json.fieldName_eq_ok_iff.mp named, (Except.ok.inj whole).symm⟩
  · rw [if_neg (by simpa using some)] at whole
    obtain ⟨name, named, whole⟩ := Result.bind_eq_ok_iff.mp whole
    exact ⟨name, _, Json.fieldName_eq_ok_iff.mp named, (Except.ok.inj whole).symm, given.overlaid distinct⟩

theorem FieldType.isSome_of_propertiesAt {properties : Option Json} :
    (type : FieldType) → type.propertiesAt c depth = .ok properties → properties.isSome = type.document?.isSome
  | .object ⟨_, _, _, _, _, _⟩, compiles | .nested ⟨_, _, _, _, _, _⟩, compiles => by
    obtain ⟨_, -, whole⟩ := Result.bind_eq_ok_iff.mp compiles
    cases whole
    rfl
  | .list element, compiles => isSome_of_propertiesAt element compiles
  | .string, compiles | .text, compiles | .keyword, compiles | .integer, compiles | .long, compiles
  | .float, compiles | .double, compiles | .boolean, compiles | .date, compiles | .binary, compiles
  | .ip, compiles | .geoPoint, compiles => by
    cases compiles
    rfl

theorem compileFields_eq_nil_iff {fields : List Field} {fragments : List (String × Json)}
    (compiles : compileFields c fields depth = .ok fragments) : fragments = [] ↔ fields = [] := by
  cases fields with
  | nil =>
    cases compiles
    exact iff_of_true rfl rfl
  | cons field rest =>
    simp only [compileFields, Result.bind_eq_ok_iff] at compiles
    obtain ⟨_, -, _, -, whole⟩ := compiles
    cases whole
    exact iff_of_false (List.cons_ne_nil _ _) (List.cons_ne_nil _ _)

theorem MultiFields.isEmpty_of_fragmentsAt {multiFields : MultiFields} {subFields : Entries Json}
    (compiles : multiFields.fragmentsAt c depth = .ok subFields) : subFields.isEmpty = multiFields.isEmpty := by
  cases multiFields with
  | none =>
    cases compiles
    rfl
  | types named =>
    cases compiles
    cases named <;> rfl
  | fields full =>
    obtain ⟨fragments, listed, whole⟩ := Result.bind_eq_ok_iff.mp compiles
    have listed := Result.atKey_eq_ok_iff.mp listed
    cases whole
    rw [Bool.eq_iff_iff, List.isEmpty_iff, Entries.ofPairs_eq_nil_iff, MultiFields.isEmpty, List.isEmpty_iff]
    exact compileFields_eq_nil_iff listed

theorem Field.joined {field : Field} {fragment : Entries Json} (distinct : Distinct field.options)
    (compiles : field.fragmentAt c depth = .ok fragment) : field.Joined c (depth + 1) fragment := by
  obtain ⟨name, subField, docType, type, multiFields, options⟩ := field
  simp only [fragmentAt, Result.bind_eq_ok_iff] at compiles
  obtain ⟨inner, entered, properties, declared, subFields, listed, compiled, given, whole⟩ := compiles
  obtain ⟨-, rfl⟩ := Compiler.enter_eq_ok_iff.mp entered
  cases whole
  exact ⟨properties, subFields, declared, type.isSome_of_propertiesAt declared, listed,
    MultiFields.isEmpty_of_fragmentsAt listed, (compiledParams_of_compileParams given).overlaid distinct⟩

theorem Range.joined {range : Range} (compiles : range.compileAt c depth = .ok body) :
    range.Joined c depth body := by
  obtain ⟨field, params, queryParams⟩ := range
  simp only [compileAt, Result.bind_eq_ok_iff, Result.atKey_eq_ok_iff, Json.fieldName_eq_ok_iff] at compiles
  obtain ⟨_, named, name, rfl, beside, others, bounds, given, whole⟩ := compiles
  cases whole
  have others := compiledParams_of_compileParams others
  refine ⟨name, bounds, _, named, compiledParams_of_compileParams given, rfl, ?_, ?_, fun key expr other found => ?_⟩
  · rw [Entries.keys_put, others.keys_eq]
  · rw [Entries.get?_put, if_pos rfl]
  · obtain ⟨value, compiles, found⟩ := others.get? found
    exact ⟨value, compiles, by rw [Entries.get?_put, if_neg (Ne.symm other), found]⟩

theorem Node.queryAt_of_compileAt {inner : Node}
    (foreign : inner.mappingAt c (depth + 1) = .error (c.unsupported inner))
    (compiles : (Expr.node inner).compileAt c depth = .ok body) : inner.queryAt c (depth + 1) = .ok body := by
  simp only [Expr.compileAt, Result.bind_eq_ok_iff] at compiles
  obtain ⟨_, entered, whole⟩ := compiles
  obtain ⟨-, rfl⟩ := Compiler.enter_eq_ok_iff.mp entered
  cases dialect : c.dialect with
  | query => simpa only [dialect] using whole
  | mapping =>
    simp only [dialect, foreign] at whole
    cases whole

end

/-- Wherever a node of operands and parameters compiles, its parameters are
laid over the operands, whatever their keys. In a range the bounds are laid over
the parameters. -/
theorem params_laid_over_operands (c : Compiler) (depth : Nat) (params : Params) :
    (∀ (query : FieldQuery) (body : Json),
      (Expr.node (.fieldQuery { query with params := params.entries })).compileAt c depth = .ok body →
        FieldQuery.Joined c (depth + 1) { query with params := params.entries } body) ∧
    (∀ (terms : Terms) (body : Json),
      (Expr.node (.terms { terms with params := params.entries })).compileAt c depth = .ok body →
        Terms.Joined c (depth + 1) { terms with params := params.entries } body) ∧
    (∀ (query : MultiMatch) (body : Json),
      (Expr.node (.multiMatch { query with params := params.entries })).compileAt c depth = .ok body →
        MultiMatch.Joined c (depth + 1) { query with params := params.entries } body) ∧
    (∀ (query : WrappedQuery) (body : Json),
      (Expr.node (.wrapped { query with params := params.entries })).compileAt c depth = .ok body →
        WrappedQuery.Joined c (depth + 1) { query with params := params.entries } body) ∧
    (∀ (filter : BooleanFilter) (body : Json),
      (Expr.node (.boolean { filter with params := params.entries })).compileAt c depth = .ok body →
        BooleanFilter.Joined c (depth + 1) { filter with params := params.entries } body) ∧
    (∀ (filter : Negation) (body : Json),
      (Expr.node (.negation { filter with params := params.entries })).compileAt c depth = .ok body →
        Negation.Joined c (depth + 1) { filter with params := params.entries } body) ∧
    (∀ (clause : SortClause) (body : Json),
      (Expr.node (.sort { clause with params := params.entries })).compileAt c depth = .ok body →
        SortClause.Joined c (depth + 1) { clause with params := params.entries } body) ∧
    (∀ (field : Field) (fragment : Entries Json),
      Field.fragmentAt c { field with options := params.entries } depth = .ok fragment →
        Field.Joined c (depth + 1) { field with options := params.entries } fragment) ∧
    (∀ (range : Range) (body : Json),
      (Expr.node (.range range)).compileAt c depth = .ok body → range.Joined c (depth + 1) body) := by
  refine ⟨?fieldQuery, ?terms, ?multiMatch, ?wrapped, ?boolean, ?negation, ?sort, ?field, ?range⟩
  case fieldQuery =>
    intro query body compiles
    exact FieldQuery.joined params.distinct (Node.queryAt_of_compileAt rfl compiles)
  case terms =>
    intro terms body compiles
    exact Terms.joined params.distinct (Node.queryAt_of_compileAt rfl compiles)
  case multiMatch =>
    intro query body compiles
    exact MultiMatch.joined params.distinct (Node.queryAt_of_compileAt rfl compiles)
  case wrapped =>
    intro query body compiles
    exact WrappedQuery.joined params.distinct (Node.queryAt_of_compileAt rfl compiles)
  case boolean =>
    intro filter body compiles
    exact BooleanFilter.joined params.distinct (Node.queryAt_of_compileAt rfl compiles)
  case negation =>
    intro filter body compiles
    exact Negation.joined params.distinct (Node.queryAt_of_compileAt rfl compiles)
  case sort =>
    intro clause body compiles
    exact SortClause.joined params.distinct (Node.queryAt_of_compileAt rfl compiles)
  case field =>
    intro field fragment compiles
    exact Field.joined params.distinct compiles
  case range =>
    intro range body compiles
    exact range.joined (Node.queryAt_of_compileAt rfl compiles)

/-- A match query loses its text to a parameter of that name, and a sub-document
its fields to an option, but no parameter named as the field takes the bounds of a
range. -/
theorem params_laid_over_operands_named_alike :
    let c : Compiler := ⟨.query, 2⟩
    let query : FieldQuery := ⟨.matching, .string "a", .string "x", [("boost", .int 2), ("query", .string "y")]⟩
    let range : Range := ⟨.string "a", [("gte", .int 1)], [("a", .null), ("boost", .int 2)]⟩
    let field : Field :=
      { Field.typed "a" (.object ⟨"b", false, [], [], [], []⟩) with options := [("properties", .null)] }
    query.Joined c 1 (.single "match" (.single "a" (.object [("query", .string "y"), ("boost", .int 2)]))) ∧
      range.Joined c 1 (.single "range" (.object [("a", .single "gte" (.int 1)), ("boost", .int 2)])) ∧
      field.Joined c 1 [("type", .string "object"), ("properties", .null)] := by
  intro c query range field
  obtain ⟨fieldQuery, -⟩ := params_laid_over_operands c 0 (.ofPairs [("boost", .int 2), ("query", .string "y")])
  obtain ⟨-, -, -, -, -, -, -, declared, bounded⟩ := params_laid_over_operands c 0 (.ofPairs [("properties", .null)])
  exact ⟨fieldQuery query _ rfl, bounded range _ rfl, declared field _ rfl⟩

end SearchWire
