import SearchWire.Expr.Basic

/-!
# Structural equality

Expressions are equal when they have the same form: a finished JSON value
differs from the expression that it prints like. Entries are looked up by
key, so their order does not matter, and floats compare as numbers.
-/

namespace SearchWire

def optionEq {α : Type} (eq : α → α → Bool) : Option α → Option α → Bool
  | none, none => true
  | some a, some b => eq a b
  | _, _ => false

mutual
def Expr.beq : Expr → Expr → Bool
  | .null, .null => true
  | .bool a, .bool b => a == b
  | .int a, .int b => a == b
  | .float a, .float b => a.numEq b
  | .string a, .string b => a == b
  | .list as, .list bs => exprsBeq as bs
  | .map as, .map bs => as.length == bs.length && paramsBeq as bs
  | .raw a, .raw b => a == b
  | .node a, .node b => Node.beq a b
  | _, _ => false
termination_by structural a _ => a

def exprsBeq : List Expr → List Expr → Bool
  | [], [] => true
  | a :: as, b :: bs => Expr.beq a b && exprsBeq as bs
  | _, _ => false
termination_by structural a _ => a

/-- Every entry has an equal one under the same key. -/
def paramsBeq : List (String × Expr) → List (String × Expr) → Bool
  | [], _ => true
  | (key, a) :: as, bs =>
    (match Entries.get? key bs with
      | some b => Expr.beq a b
      | none => false) && paramsBeq as bs
termination_by structural a _ => a

def Node.beq : Node → Node → Bool
  | .field a, .field b => Field.beq a b
  | .metaField a, .metaField b => MetaField.beq a b
  | .boost ⟨target, weight⟩, .boost b => target.beq b.target && weight.beq b.weight
  | .fieldQuery ⟨kind, field, operand, params⟩, .fieldQuery b =>
    kind == b.kind && field.beq b.field && operand.beq b.operand &&
      (params.length == b.params.length && paramsBeq params b.params)
  | .named ⟨name, params⟩, .named b =>
    name == b.name && (params.length == b.params.length && paramsBeq params b.params)
  | .range ⟨field, params, queryParams⟩, .range b =>
    field.beq b.field && (params.length == b.params.length && paramsBeq params b.params) &&
      (queryParams.length == b.queryParams.length && paramsBeq queryParams b.queryParams)
  | .terms ⟨field, values, params⟩, .terms b =>
    field.beq b.field && exprsBeq values b.values &&
      (params.length == b.params.length && paramsBeq params b.params)
  | .multiMatch ⟨operand, fields, params⟩, .multiMatch b =>
    operand.beq b.operand && exprsBeq fields b.fields &&
      (params.length == b.params.length && paramsBeq params b.params)
  | .wrapped ⟨query, params⟩, .wrapped b =>
    query.beq b.query && (params.length == b.params.length && paramsBeq params b.params)
  | .boolean ⟨operator, operands, params⟩, .boolean b =>
    operator == b.operator && exprsBeq operands b.operands &&
      (params.length == b.params.length && paramsBeq params b.params)
  | .negation ⟨operand, params⟩, .negation b =>
    operand.beq b.operand && (params.length == b.params.length && paramsBeq params b.params)
  | .sort ⟨target, order, params⟩, .sort b =>
    target.beq b.target && order == b.order &&
      (params.length == b.params.length && paramsBeq params b.params)
  | .aggregation a, .aggregation b => Aggregation.beq a b
  | .source a, .source b => SourceFilter.beq a b
  | .rescore a, .rescore b => Rescorer.beq a b
  | .search a, .search b => Search.beq a b
  | .document a, .document b => Document.beq a b
  | _, _ => false
termination_by structural a _ => a

def Field.beq : Field → Field → Bool
  | ⟨name, subField, docType, type, multiFields, options⟩, b =>
    name == b.name && subField == b.subField && docType == b.docType && type.beq b.type &&
      multiFields.beq b.multiFields &&
      (options.length == b.options.length && paramsBeq options b.options)
termination_by structural a _ => a

def fieldsBeq : List Field → List Field → Bool
  | [], [] => true
  | a :: as, b :: bs => Field.beq a b && fieldsBeq as bs
  | _, _ => false
termination_by structural a _ => a

def FieldType.beq : FieldType → FieldType → Bool
  | .string, .string => true
  | .text, .text => true
  | .keyword, .keyword => true
  | .integer, .integer => true
  | .long, .long => true
  | .float, .float => true
  | .double, .double => true
  | .boolean, .boolean => true
  | .date, .date => true
  | .binary, .binary => true
  | .ip, .ip => true
  | .geoPoint, .geoPoint => true
  | .object a, .object b => Document.beq a b
  | .nested a, .nested b => Document.beq a b
  | .list a, .list b => FieldType.beq a b
  | _, _ => false
termination_by structural a _ => a

def typesBeq : List (String × FieldType) → List (String × FieldType) → Bool
  | [], _ => true
  | (name, a) :: as, bs =>
    (match Entries.get? name bs with
      | some b => FieldType.beq a b
      | none => false) && typesBeq as bs
termination_by structural a _ => a

def MultiFields.beq : MultiFields → MultiFields → Bool
  | .none, .none => true
  | .types as, .types bs => as.length == bs.length && typesBeq as bs
  | .fields as, .fields bs => fieldsBeq as bs
  | _, _ => false
termination_by structural a _ => a

def MetaField.beq : MetaField → MetaField → Bool
  | ⟨name, options⟩, b =>
    name == b.name && (options.length == b.options.length && paramsBeq options b.options)
termination_by structural a _ => a

def metaFieldsBeq : List MetaField → List MetaField → Bool
  | [], [] => true
  | a :: as, b :: bs => MetaField.beq a b && metaFieldsBeq as bs
  | _, _ => false
termination_by structural a _ => a

def Document.beq : Document → Document → Bool
  | ⟨docType, dynamic, options, metaFields, fields, templates⟩, b =>
    docType == b.docType && dynamic == b.dynamic &&
      (options.length == b.options.length && paramsBeq options b.options) &&
      metaFieldsBeq metaFields b.metaFields && fieldsBeq fields b.fields &&
      fieldsBeq templates b.templates
termination_by structural a _ => a

def Aggregation.beq : Aggregation → Aggregation → Bool
  | .metric name params, .metric name' params' =>
    name == name' && (params.length == params'.length && paramsBeq params params')
  | .bucket name params subs, .bucket name' params' subs' =>
    name == name' && (params.length == params'.length && paramsBeq params params') &&
      (subs.length == subs'.length && aggregationsBeq subs subs')
  | .filter filter subs, .filter filter' subs' =>
    filter.beq filter' && (subs.length == subs'.length && aggregationsBeq subs subs')
  | _, _ => false
termination_by structural a _ => a

def aggregationsBeq : List (String × Aggregation) → List (String × Aggregation) → Bool
  | [], _ => true
  | (name, a) :: as, bs =>
    (match Entries.get? name bs with
      | some b => Aggregation.beq a b
      | none => false) && aggregationsBeq as bs
termination_by structural a _ => a

def SourceFilter.beq : SourceFilter → SourceFilter → Bool
  | .disabled, .disabled => true
  | .fields as, .fields bs => exprsBeq as bs
  | .patterns included excluded, .patterns included' excluded' =>
    exprsBeq included included' && exprsBeq excluded excluded'
  | _, _ => false
termination_by structural a _ => a

def Rescorer.beq : Rescorer → Rescorer → Bool
  | ⟨query, windowSize, queryWeight, rescoreQueryWeight, scoreMode⟩, b =>
    query.beq b.query && windowSize == b.windowSize &&
      optionEq Binary.numEq queryWeight b.queryWeight &&
      optionEq Binary.numEq rescoreQueryWeight b.rescoreQueryWeight && scoreMode == b.scoreMode
termination_by structural a _ => a

def rescorersBeq : List Rescorer → List Rescorer → Bool
  | [], [] => true
  | a :: as, b :: bs => Rescorer.beq a b && rescorersBeq as bs
  | _, _ => false
termination_by structural a _ => a

def queryBeq : Option Expr → Option Expr → Bool
  | none, none => true
  | some a, some b => Expr.beq a b
  | _, _ => false
termination_by structural a _ => a

def sourceBeq : Option SourceFilter → Option SourceFilter → Bool
  | none, none => true
  | some a, some b => SourceFilter.beq a b
  | _, _ => false
termination_by structural a _ => a

def Search.beq : Search → Search → Bool
  | ⟨query, filters, postFilters, sorts, source, aggregations, limit, offset, rescorers, config⟩, b =>
    queryBeq query b.query && exprsBeq filters b.filters && exprsBeq postFilters b.postFilters &&
    exprsBeq sorts b.sorts && sourceBeq source b.source &&
    (aggregations.length == b.aggregations.length && aggregationsBeq aggregations b.aggregations) &&
    limit == b.limit && offset == b.offset && rescorersBeq rescorers b.rescorers && config == b.config
termination_by structural a _ => a
end

instance : BEq Expr := ⟨Expr.beq⟩
instance : BEq Document := ⟨Document.beq⟩
instance : BEq Search := ⟨Search.beq⟩

end SearchWire
