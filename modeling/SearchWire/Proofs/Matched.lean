import SearchWire.Expr.Equality
import SearchWire.Expr.Field

/-!
# Equal nodes, part by part

Equal nodes are of one kind and have equal parts. Entries match when there are
as many of them on both sides and every one is found, under its key, on the
other.
-/

namespace SearchWire

def MatchedParams (params params' : Entries Expr) : Prop :=
  (params.length == params'.length && paramsBeq params params') = true

inductive Node.Matched : Node → Node → Prop
  | field {a b : Field} (same : a.beq b) : Matched (.field a) (.field b)
  | metaField {a b : MetaField} (same : a.beq b) : Matched (.metaField a) (.metaField b)
  | boost {target target' weight weight' : Expr} (sameTarget : target.beq target')
    (sameWeight : weight.beq weight') : Matched (.boost ⟨target, weight⟩) (.boost ⟨target', weight'⟩)
  | fieldQuery {kind : FieldQueryKind} {field field' operand operand' : Expr} {params params' : Entries Expr}
    (sameField : field.beq field') (sameOperand : operand.beq operand')
    (sameParams : MatchedParams params params') :
    Matched (.fieldQuery ⟨kind, field, operand, params⟩) (.fieldQuery ⟨kind, field', operand', params'⟩)
  | named {name : String} {params params' : Entries Expr} (sameParams : MatchedParams params params') :
    Matched (.named ⟨name, params⟩) (.named ⟨name, params'⟩)
  | range {field field' : Expr} {params params' queryParams queryParams' : Entries Expr}
    (sameField : field.beq field') (sameParams : MatchedParams params params')
    (sameQueryParams : MatchedParams queryParams queryParams') :
    Matched (.range ⟨field, params, queryParams⟩) (.range ⟨field', params', queryParams'⟩)
  | terms {field field' : Expr} {values values' : List Expr} {params params' : Entries Expr}
    (sameField : field.beq field') (sameValues : exprsBeq values values')
    (sameParams : MatchedParams params params') :
    Matched (.terms ⟨field, values, params⟩) (.terms ⟨field', values', params'⟩)
  | multiMatch {operand operand' : Expr} {fields fields' : List Expr} {params params' : Entries Expr}
    (sameOperand : operand.beq operand') (sameFields : exprsBeq fields fields')
    (sameParams : MatchedParams params params') :
    Matched (.multiMatch ⟨operand, fields, params⟩) (.multiMatch ⟨operand', fields', params'⟩)
  | wrapped {query query' : Expr} {params params' : Entries Expr} (sameQuery : query.beq query')
    (sameParams : MatchedParams params params') :
    Matched (.wrapped ⟨query, params⟩) (.wrapped ⟨query', params'⟩)
  | boolean {operator : BoolOperator} {operands operands' : List Expr} {params params' : Entries Expr}
    (sameOperands : exprsBeq operands operands') (sameParams : MatchedParams params params') :
    Matched (.boolean ⟨operator, operands, params⟩) (.boolean ⟨operator, operands', params'⟩)
  | negation {operand operand' : Expr} {params params' : Entries Expr} (sameOperand : operand.beq operand')
    (sameParams : MatchedParams params params') :
    Matched (.negation ⟨operand, params⟩) (.negation ⟨operand', params'⟩)
  | sort {target target' : Expr} {order : Option SortOrder} {params params' : Entries Expr}
    (sameTarget : target.beq target') (sameParams : MatchedParams params params') :
    Matched (.sort ⟨target, order, params⟩) (.sort ⟨target', order, params'⟩)
  | aggregation {a b : Aggregation} (same : a.beq b) : Matched (.aggregation a) (.aggregation b)
  | source {a b : SourceFilter} (same : a.beq b) : Matched (.source a) (.source b)
  | rescore {a b : Rescorer} (same : a.beq b) : Matched (.rescore a) (.rescore b)
  | search {a b : Search} (same : a.beq b) : Matched (.search a) (.search b)
  | document {a b : Document} (same : a.beq b) : Matched (.document a) (.document b)

theorem Node.matched_of_beq {a b : Node} : a.beq b → a.Matched b := by
  fun_cases Node.beq a b
  case case1 => exact .field
  case case2 => exact .metaField
  case case3 b =>
    cases b
    intro eq
    obtain ⟨sameTarget, sameWeight⟩ := Bool.and_eq_true_iff.mp eq
    exact .boost sameTarget sameWeight
  case case4 b =>
    cases b
    intro eq
    obtain ⟨eq, sameParams⟩ := Bool.and_eq_true_iff.mp eq
    obtain ⟨eq, sameOperand⟩ := Bool.and_eq_true_iff.mp eq
    obtain ⟨sameKind, sameField⟩ := Bool.and_eq_true_iff.mp eq
    obtain rfl := beq_iff_eq.mp sameKind
    exact .fieldQuery sameField sameOperand sameParams
  case case5 b =>
    cases b
    intro eq
    obtain ⟨sameName, sameParams⟩ := Bool.and_eq_true_iff.mp eq
    obtain rfl := beq_iff_eq.mp sameName
    exact .named sameParams
  case case6 b =>
    cases b
    intro eq
    obtain ⟨eq, sameQueryParams⟩ := Bool.and_eq_true_iff.mp eq
    obtain ⟨sameField, sameParams⟩ := Bool.and_eq_true_iff.mp eq
    exact .range sameField sameParams sameQueryParams
  case case7 b =>
    cases b
    intro eq
    obtain ⟨eq, sameParams⟩ := Bool.and_eq_true_iff.mp eq
    obtain ⟨sameField, sameValues⟩ := Bool.and_eq_true_iff.mp eq
    exact .terms sameField sameValues sameParams
  case case8 b =>
    cases b
    intro eq
    obtain ⟨eq, sameParams⟩ := Bool.and_eq_true_iff.mp eq
    obtain ⟨sameOperand, sameFields⟩ := Bool.and_eq_true_iff.mp eq
    exact .multiMatch sameOperand sameFields sameParams
  case case9 b =>
    cases b
    intro eq
    obtain ⟨sameQuery, sameParams⟩ := Bool.and_eq_true_iff.mp eq
    exact .wrapped sameQuery sameParams
  case case10 b =>
    cases b
    intro eq
    obtain ⟨eq, sameParams⟩ := Bool.and_eq_true_iff.mp eq
    obtain ⟨sameOperator, sameOperands⟩ := Bool.and_eq_true_iff.mp eq
    obtain rfl := beq_iff_eq.mp sameOperator
    exact .boolean sameOperands sameParams
  case case11 b =>
    cases b
    intro eq
    obtain ⟨sameOperand, sameParams⟩ := Bool.and_eq_true_iff.mp eq
    exact .negation sameOperand sameParams
  case case12 b =>
    cases b
    intro eq
    obtain ⟨eq, sameParams⟩ := Bool.and_eq_true_iff.mp eq
    obtain ⟨sameTarget, sameOrder⟩ := Bool.and_eq_true_iff.mp eq
    obtain rfl := beq_iff_eq.mp sameOrder
    exact .sort sameTarget sameParams
  case case13 => exact .aggregation
  case case14 => exact .source
  case case15 => exact .rescore
  case case16 => exact .search
  case case17 => exact .document
  case case18 => exact fun eq => nomatch eq

/-- Equal types both have a schema, or are the same. -/
inductive FieldType.Matched : FieldType → FieldType → Prop
  | object {a b : Document} (same : a.beq b) : Matched (.object a) (.object b)
  | nested {a b : Document} (same : a.beq b) : Matched (.nested a) (.nested b)
  | list {a b : FieldType} (same : a.beq b) : Matched (.list a) (.list b)
  | plain {type : FieldType} (plain : type.document? = none) : Matched type type

theorem FieldType.matched_of_beq {a b : FieldType} : a.beq b → a.Matched b := by
  fun_cases FieldType.beq a b
  case case13 => exact .object
  case case14 => exact .nested
  case case15 => exact .list
  case case16 => exact fun eq => nomatch eq
  all_goals exact fun _ => .plain rfl

theorem FieldType.wireName_eq : (a : FieldType) → {b : FieldType} → a.beq b → a.wireName = b.wireName
  | .list a, _, eq => by
    cases matched_of_beq eq with
    | list same =>
      have same := a.wireName_eq same
      exact same
    | plain => rfl
  | .object _, _, eq | .nested _, _, eq | .string, _, eq | .text, _, eq | .keyword, _, eq | .integer, _, eq
  | .long, _, eq | .float, _, eq | .double, _, eq | .boolean, _, eq | .date, _, eq | .binary, _, eq
  | .ip, _, eq | .geoPoint, _, eq => by
    cases matched_of_beq eq <;> rfl

theorem Field.path_eq {a b : Field} (eq : a.beq b) : a.path = b.path := by
  cases a
  cases b
  obtain ⟨eq, -⟩ := Bool.and_eq_true_iff.mp eq
  obtain ⟨eq, -⟩ := Bool.and_eq_true_iff.mp eq
  obtain ⟨eq, -⟩ := Bool.and_eq_true_iff.mp eq
  obtain ⟨eq, -⟩ := Bool.and_eq_true_iff.mp eq
  obtain ⟨sameName, sameSubField⟩ := Bool.and_eq_true_iff.mp eq
  obtain rfl := beq_iff_eq.mp sameName
  obtain rfl := beq_iff_eq.mp sameSubField
  rfl

theorem MetaField.name_eq {a b : MetaField} (eq : a.beq b) : a.name = b.name := by
  cases a
  obtain ⟨sameName, -⟩ := Bool.and_eq_true_iff.mp eq
  exact beq_iff_eq.mp sameName

end SearchWire
