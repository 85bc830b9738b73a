import SearchWire.Expr.Basic

/-!
# Rules for whole trees

What is asked of the weight of every boost and of the keys of every container
in a tree, wherever they stand. That no container holds a key twice is such a
rule.
-/

namespace SearchWire

structure Rule where
  weight : Expr → Prop
  keys : List String → Prop

/-- Integers and texts are the weights that are written in one way only. -/
def Expr.IsPlainWeight : Expr → Prop
  | .int _ => True
  | .string _ => True
  | _ => False

/-- No container holds a key twice, and all weights are plain. -/
def Rule.plain : Rule := ⟨Expr.IsPlainWeight, List.Nodup⟩

variable (rule : Rule)

mutual
def Expr.Obeys : Expr → Prop
  | .list items => itemsObey items
  | .map entries => rule.keys (Entries.keys entries) ∧ paramsObey entries
  | .node inner => inner.Obeys
  | _ => True

def itemsObey : List Expr → Prop
  | [] => True
  | item :: rest => item.Obeys ∧ itemsObey rest

def paramsObey : List (String × Expr) → Prop
  | [] => True
  | (_, value) :: rest => value.Obeys ∧ paramsObey rest

def Node.Obeys : Node → Prop
  | .field field => field.Obeys
  | .metaField field => field.Obeys
  | .boost ⟨target, weight⟩ => target.Obeys ∧ weight.Obeys ∧ rule.weight weight
  | .fieldQuery ⟨_, field, operand, params⟩ =>
    field.Obeys ∧ operand.Obeys ∧ rule.keys (Entries.keys params) ∧ paramsObey params
  | .named ⟨_, params⟩ => rule.keys (Entries.keys params) ∧ paramsObey params
  | .range ⟨field, params, queryParams⟩ =>
    field.Obeys ∧ (rule.keys (Entries.keys params) ∧ paramsObey params) ∧
      rule.keys (Entries.keys queryParams) ∧ paramsObey queryParams
  | .terms ⟨field, values, params⟩ =>
    field.Obeys ∧ itemsObey values ∧ rule.keys (Entries.keys params) ∧ paramsObey params
  | .multiMatch ⟨operand, fields, params⟩ =>
    operand.Obeys ∧ itemsObey fields ∧ rule.keys (Entries.keys params) ∧ paramsObey params
  | .wrapped ⟨query, params⟩ => query.Obeys ∧ rule.keys (Entries.keys params) ∧ paramsObey params
  | .boolean ⟨_, operands, params⟩ =>
    itemsObey operands ∧ rule.keys (Entries.keys params) ∧ paramsObey params
  | .negation ⟨operand, params⟩ => operand.Obeys ∧ rule.keys (Entries.keys params) ∧ paramsObey params
  | .sort ⟨target, _, params⟩ => target.Obeys ∧ rule.keys (Entries.keys params) ∧ paramsObey params
  | .aggregation aggregation => aggregation.Obeys
  | .source source => source.Obeys
  | .rescore rescorer => rescorer.Obeys
  | .search search => search.Obeys
  | .document document => document.Obeys

def Aggregation.Obeys : Aggregation → Prop
  | .metric _ params => rule.keys (Entries.keys params) ∧ paramsObey params
  | .bucket _ params subs =>
    (rule.keys (Entries.keys params) ∧ paramsObey params) ∧
      rule.keys (Entries.keys subs) ∧ aggregationsObey subs
  | .filter condition subs =>
    condition.Obeys ∧ rule.keys (Entries.keys subs) ∧ aggregationsObey subs

def aggregationsObey : List (String × Aggregation) → Prop
  | [] => True
  | (_, aggregation) :: rest => aggregation.Obeys ∧ aggregationsObey rest

def SourceFilter.Obeys : SourceFilter → Prop
  | .disabled => True
  | .fields names => itemsObey names
  | .patterns included excluded => itemsObey included ∧ itemsObey excluded

def Rescorer.Obeys : Rescorer → Prop
  | ⟨query, _, _, _, _⟩ => query.Obeys

def rescorersObey : List Rescorer → Prop
  | [] => True
  | rescorer :: rest => rescorer.Obeys ∧ rescorersObey rest

def queryObeys : Option Expr → Prop
  | none => True
  | some query => query.Obeys

def sourceObeys : Option SourceFilter → Prop
  | none => True
  | some source => source.Obeys

def Search.Obeys : Search → Prop
  | ⟨query, filters, postFilters, sorts, source, aggregations, _, _, rescorers, _⟩ =>
    queryObeys query ∧ itemsObey filters ∧ itemsObey postFilters ∧ itemsObey sorts ∧ sourceObeys source ∧
    (rule.keys (Entries.keys aggregations) ∧ aggregationsObey aggregations) ∧ rescorersObey rescorers

def Field.Obeys : Field → Prop
  | ⟨_, _, _, type, multiFields, options⟩ =>
    type.Obeys ∧ multiFields.Obeys ∧ rule.keys (Entries.keys options) ∧ paramsObey options

def fieldsObey : List Field → Prop
  | [] => True
  | field :: rest => field.Obeys ∧ fieldsObey rest

def FieldType.Obeys : FieldType → Prop
  | .object document => document.Obeys
  | .nested document => document.Obeys
  | .list element => element.Obeys
  | _ => True

def typesObey : List (String × FieldType) → Prop
  | [] => True
  | (_, type) :: rest => type.Obeys ∧ typesObey rest

def MultiFields.Obeys : MultiFields → Prop
  | .none => True
  | .types types => rule.keys (Entries.keys types) ∧ typesObey types
  | .fields fields => fieldsObey fields

def MetaField.Obeys : MetaField → Prop
  | ⟨_, options⟩ => rule.keys (Entries.keys options) ∧ paramsObey options

def metaFieldsObey : List MetaField → Prop
  | [] => True
  | field :: rest => field.Obeys ∧ metaFieldsObey rest

def Document.Obeys : Document → Prop
  | ⟨_, _, options, metaFields, fields, templates⟩ =>
    (rule.keys (Entries.keys options) ∧ paramsObey options) ∧ metaFieldsObey metaFields ∧
      fieldsObey fields ∧ fieldsObey templates
end

end SearchWire
