import SearchWire.Proofs.Reached

/-!
# Types in lists

A mapping says of a field that it holds numbers, and not whether it holds one or
many of them. So it does not matter where in a schema types stand in lists, and
in how many: the name of a type, the fields of its documents and the levels that
these cost are seen through lists.
-/

namespace SearchWire

mutual
/-- The second expression is the first one with some of the types in it wrapped in lists. -/
inductive Expr.Listed : Expr → Expr → Prop
  | same : Expr.Listed expr expr
  | list : ItemsListed items items' → Expr.Listed (.list items) (.list items')
  | map : ParamsListed entries entries' → Expr.Listed (.map entries) (.map entries')
  | node : Node.Listed node node' → Expr.Listed (.node node) (.node node')

inductive ItemsListed : List Expr → List Expr → Prop
  | nil : ItemsListed [] []
  | cons : Expr.Listed item item' → ItemsListed rest rest' → ItemsListed (item :: rest) (item' :: rest')

inductive ParamsListed : List (String × Expr) → List (String × Expr) → Prop
  | nil : ParamsListed [] []
  | cons : Expr.Listed value value' → ParamsListed rest rest' →
    ParamsListed ((key, value) :: rest) ((key, value') :: rest')

/-- Mappings have no form for the nodes of search requests, whatever types stand in them. -/
inductive Node.Listed : Node → Node → Prop
  | field : Field.Listed field field' → Node.Listed (.field field) (.field field')
  | metaField : MetaField.Listed field field' → Node.Listed (.metaField field) (.metaField field')
  | document : Document.Listed document document' → Node.Listed (.document document) (.document document')
  | foreign : ¬node.InSchema → ¬node'.InSchema → node'.tag = node.tag → Node.Listed node node'

inductive Field.Listed : Field → Field → Prop
  | same : Field.Listed field field
  | mk : FieldType.Listed type type' → MultiFields.Listed multiFields multiFields' → ParamsListed options options' →
    Field.Listed ⟨name, subField, docType, type, multiFields, options⟩
      ⟨name, subField, docType, type', multiFields', options'⟩

inductive FieldsListed : List Field → List Field → Prop
  | nil : FieldsListed [] []
  | cons : Field.Listed field field' → FieldsListed rest rest' → FieldsListed (field :: rest) (field' :: rest')

inductive FieldType.Listed : FieldType → FieldType → Prop
  | same : FieldType.Listed type type
  | wrap : FieldType.Listed type type' → FieldType.Listed type (.list type')
  | object : Document.Listed document document' → FieldType.Listed (.object document) (.object document')
  | nested : Document.Listed document document' → FieldType.Listed (.nested document) (.nested document')
  | list : FieldType.Listed element element' → FieldType.Listed (.list element) (.list element')

inductive TypesListed : List (String × FieldType) → List (String × FieldType) → Prop
  | nil : TypesListed [] []
  | cons : FieldType.Listed type type' → TypesListed rest rest' →
    TypesListed ((name, type) :: rest) ((name, type') :: rest')

inductive MultiFields.Listed : MultiFields → MultiFields → Prop
  | none : MultiFields.Listed .none .none
  | types : TypesListed types types' → MultiFields.Listed (.types types) (.types types')
  | fields : FieldsListed fields fields' → MultiFields.Listed (.fields fields) (.fields fields')

inductive MetaField.Listed : MetaField → MetaField → Prop
  | mk : ParamsListed options options' → MetaField.Listed ⟨name, options⟩ ⟨name, options'⟩

inductive MetaFieldsListed : List MetaField → List MetaField → Prop
  | nil : MetaFieldsListed [] []
  | cons : MetaField.Listed field field' → MetaFieldsListed rest rest' →
    MetaFieldsListed (field :: rest) (field' :: rest')

inductive Document.Listed : Document → Document → Prop
  | mk : ParamsListed options options' → MetaFieldsListed metaFields metaFields' → FieldsListed fields fields' →
    FieldsListed templates templates' →
    Document.Listed ⟨docType, dynamic, options, metaFields, fields, templates⟩
      ⟨docType, dynamic, options', metaFields', fields', templates'⟩
end

-- ---------------------------------------------------------------------------
-- What does not see types
-- ---------------------------------------------------------------------------

theorem Field.Listed.name_eq {field field' : Field} : Field.Listed field field' → field'.name = field.name
  | .same | .mk _ _ _ => rfl

theorem FieldType.Listed.wireName_eq {type type' : FieldType} :
    FieldType.Listed type type' → type'.wireName = type.wireName
  | .same | .object _ | .nested _ => rfl
  | .wrap type | .list type => type.wireName_eq

theorem TypesListed.map_wireName_eq {types types' : List (String × FieldType)} (json : String → Json) :
    TypesListed types types' →
      types'.map (fun entry => (entry.1, json entry.2.wireName)) =
        types.map fun entry => (entry.1, json entry.2.wireName)
  | .nil => rfl
  | .cons type rest => by rw [List.map_cons, List.map_cons, type.wireName_eq, rest.map_wireName_eq]

theorem Node.mappingAt_foreign {c : Compiler} {inner : Node} (foreign : ¬inner.InSchema) (depth : Nat) :
    inner.mappingAt c depth = .error (c.unsupported inner) := by
  cases inner with
  | field | metaField | document => exact absurd trivial foreign
  | _ => rfl

-- ---------------------------------------------------------------------------
-- The walk over both schemas
-- ---------------------------------------------------------------------------

variable {config : Config}

mutual
theorem Expr.Listed.compileAt_eq {a b : Expr} : Expr.Listed a b → ∀ depth,
    b.compileAt (config.compiler .mapping) depth = a.compileAt (config.compiler .mapping) depth
  | .same, _ => rfl
  | .list items, depth => by
    rw [Expr.compileAt, Expr.compileAt]
    refine bind_congr fun inner => ?_
    rw [items.compileItems_eq 0 inner]
  | .map entries, depth => by
    rw [Expr.compileAt, Expr.compileAt]
    refine bind_congr fun inner => ?_
    rw [entries.compileParams_eq inner]
  | .node node, depth => by
    rw [Expr.compileAt, Expr.compileAt]
    exact bind_congr fun inner => node.mappingAt_eq inner
termination_by structural listed => listed

theorem ItemsListed.compileItems_eq {items items' : List Expr} : ItemsListed items items' → ∀ position depth,
    compileItems (config.compiler .mapping) items' position depth =
      compileItems (config.compiler .mapping) items position depth
  | .nil, _, _ => rfl
  | .cons head rest, position, depth => by
    rw [compileItems, compileItems, head.compileAt_eq depth, rest.compileItems_eq (position + 1) depth]
termination_by structural listed => listed

theorem ParamsListed.compileParams_eq {params params' : List (String × Expr)} : ParamsListed params params' →
    ∀ depth, compileParams (config.compiler .mapping) params' depth =
      compileParams (config.compiler .mapping) params depth
  | .nil, _ => rfl
  | .cons head rest, depth => by
    rw [compileParams, compileParams, head.compileAt_eq depth, rest.compileParams_eq depth]
termination_by structural listed => listed

theorem Node.Listed.mappingAt_eq {a b : Node} : Node.Listed a b → ∀ depth,
    b.mappingAt (config.compiler .mapping) depth = a.mappingAt (config.compiler .mapping) depth
  | .field field, depth => by
    rw [Node.mappingAt, Node.mappingAt, field.fragmentAt_eq depth, field.name_eq]
  | .metaField field, depth => by
    rw [Node.mappingAt, Node.mappingAt, field.optionsAt_eq depth]
  | .document document, depth => document.compileAt_eq depth
  | .foreign outside outside' tag, depth => by
    rw [Node.mappingAt_foreign outside, Node.mappingAt_foreign outside', Compiler.unsupported, Compiler.unsupported, tag]
termination_by structural listed => listed

theorem Field.Listed.fragmentAt_eq {a b : Field} : Field.Listed a b → ∀ depth,
    b.fragmentAt (config.compiler .mapping) depth = a.fragmentAt (config.compiler .mapping) depth
  | .same, _ => rfl
  | .mk type multiFields options, depth => by
    rw [Field.fragmentAt, Field.fragmentAt]
    refine bind_congr fun inner => ?_
    rw [type.propertiesAt_eq inner, multiFields.fragmentsAt_eq inner, options.compileParams_eq inner, type.wireName_eq]
termination_by structural listed => listed

theorem FieldsListed.compileFields_eq {fields fields' : List Field} : FieldsListed fields fields' → ∀ depth,
    compileFields (config.compiler .mapping) fields' depth = compileFields (config.compiler .mapping) fields depth
  | .nil, _ => rfl
  | .cons head rest, depth => by
    rw [compileFields, compileFields, head.fragmentAt_eq depth, rest.compileFields_eq depth, head.name_eq]
termination_by structural listed => listed

theorem FieldsListed.compileTemplates_eq {fields fields' : List Field} : FieldsListed fields fields' →
    ∀ position depth, compileTemplates (config.compiler .mapping) fields' position depth =
      compileTemplates (config.compiler .mapping) fields position depth
  | .nil, _, _ => rfl
  | .cons head rest, position, depth => by
    rw [compileTemplates, compileTemplates, head.fragmentAt_eq depth, rest.compileTemplates_eq (position + 1) depth,
      head.name_eq]
termination_by structural listed => listed

theorem FieldType.Listed.propertiesAt_eq {a b : FieldType} : FieldType.Listed a b → ∀ depth,
    b.propertiesAt (config.compiler .mapping) depth = a.propertiesAt (config.compiler .mapping) depth
  | .same, _ => rfl
  | .wrap type, depth => by rw [FieldType.propertiesAt, type.propertiesAt_eq depth]
  | .object (.mk _ _ fields _), depth | .nested (.mk _ _ fields _), depth => by
    rw [FieldType.propertiesAt, FieldType.propertiesAt, fields.compileFields_eq depth]
  | .list element, depth => by
    rw [FieldType.propertiesAt, FieldType.propertiesAt, element.propertiesAt_eq depth]
termination_by structural listed => listed

theorem MultiFields.Listed.fragmentsAt_eq {a b : MultiFields} : MultiFields.Listed a b → ∀ depth,
    b.fragmentsAt (config.compiler .mapping) depth = a.fragmentsAt (config.compiler .mapping) depth
  | .none, _ => rfl
  | .types types, _ => congrArg Except.ok (types.map_wireName_eq fun name => .single "type" (.string name))
  | .fields fields, depth => by
    rw [MultiFields.fragmentsAt, MultiFields.fragmentsAt, fields.compileFields_eq depth]
termination_by structural listed => listed

theorem MetaField.Listed.optionsAt_eq {a b : MetaField} : MetaField.Listed a b → ∀ depth,
    b.optionsAt (config.compiler .mapping) depth = a.optionsAt (config.compiler .mapping) depth
  | .mk options, depth => by
    rw [MetaField.optionsAt, MetaField.optionsAt, options.compileParams_eq depth]
termination_by structural listed => listed

theorem MetaFieldsListed.compileMetaFields_eq {fields fields' : List MetaField} : MetaFieldsListed fields fields' →
    ∀ depth, compileMetaFields (config.compiler .mapping) fields' depth =
      compileMetaFields (config.compiler .mapping) fields depth
  | .nil, _ => rfl
  | .cons head rest, depth => by
    rw [compileMetaFields, compileMetaFields, head.optionsAt_eq depth, rest.compileMetaFields_eq depth]
termination_by structural listed => listed

theorem Document.Listed.compileAt_eq {a b : Document} : Document.Listed a b → ∀ depth,
    b.compileAt (config.compiler .mapping) depth = a.compileAt (config.compiler .mapping) depth
  | .mk options metaFields fields templates, depth => by
    rw [Document.compileAt, Document.compileAt, options.compileParams_eq depth,
      metaFields.compileMetaFields_eq depth, fields.compileFields_eq depth, templates.compileTemplates_eq 0 depth]
termination_by structural listed => listed
end

-- ---------------------------------------------------------------------------
-- Whole schemas
-- ---------------------------------------------------------------------------

/-- With any of its types wrapped in lists, any number of times, a schema has
the same mapping, or fails with the same error. The same holds of a field alone
and of any expression that has schemas and fields in it. -/
theorem lists_keep_mapping (config : Config) :
    (∀ document document', Document.Listed document document' → document'.compile config = document.compile config) ∧
    (∀ field field', Field.Listed field field' →
      ∀ depth, field'.mapping config depth = field.mapping config depth) ∧
    ∀ expr expr', Expr.Listed expr expr' →
      expr'.compile (config.compiler .mapping) = expr.compile (config.compiler .mapping) := by
  refine ⟨fun document document' listed => ?_, fun field field' listed depth => ?_, fun expr expr' listed => ?_⟩
  · exact bind_congr fun depth => listed.compileAt_eq depth
  · rw [Field.mapping, Field.mapping, listed.fragmentAt_eq depth]
  · exact listed.compileAt_eq 0

/-- Types of fields and of sub-fields, in a pattern, in a schema below a list, and
in a query that has no mapping. -/
theorem lists_keep_mapping_post :
    let author (wrap : FieldType → FieldType) : Field :=
      .typed "author" (.list (wrap (.nested ⟨"user", true, [], [], [.typed "name" (wrap .text)], []⟩)))
    let title (wrap : FieldType → FieldType) : Field :=
      ⟨"title", none, none, wrap .string, .types [("raw", wrap .keyword)], [("index", .bool true)]⟩
    let tags (wrap : FieldType → FieldType) : Field :=
      ⟨"tags", none, none, .string, .fields [.typed "count" (wrap .long)], []⟩
    let post (wrap : FieldType → FieldType) : Document :=
      ⟨"post", false, [], [], [author wrap, title wrap, tags wrap], [.typed "at_*" (wrap .date)]⟩
    let lists (type : FieldType) : FieldType := .list (.list type)
    let query (wrap : FieldType → FieldType) : Expr :=
      .map [("title", .ofField (title wrap)),
        ("range", .node (.range ⟨.ofField (.typed "age" (wrap .long)), [], []⟩))]
    (post lists).compile ⟨3⟩ = (post id).compile ⟨3⟩ ∧ (∃ json, (post id).compile ⟨3⟩ = .ok json) ∧
      (post lists).compile ⟨2⟩ = (post id).compile ⟨2⟩ ∧ (post id).compile ⟨2⟩ = .error (.depthExceeded 2) ∧
      (author lists).mapping ⟨4⟩ 1 = (author id).mapping ⟨4⟩ 1 ∧
      (query lists).compile ⟨.mapping, 3⟩ = (query id).compile ⟨.mapping, 3⟩ ∧
      ∃ error, (query id).compile ⟨.mapping, 3⟩ = .error error := by
  intro author title tags post lists query
  have wrapped (type : FieldType) : FieldType.Listed type (lists type) := .wrap (.wrap .same)
  have typed (name : String) (type : FieldType) : Field.Listed (.typed name type) (.typed name (lists type)) :=
    .mk (wrapped type) .none .nil
  have user : Document.Listed ⟨"user", true, [], [], [.typed "name" .text], []⟩
      ⟨"user", true, [], [], [.typed "name" (lists .text)], []⟩ := .mk .nil .nil (.cons (typed "name" .text) .nil) .nil
  have authors : Field.Listed (author id) (author lists) := .mk (.list (.wrap (.wrap (.nested user)))) .none .nil
  have titles : Field.Listed (title id) (title lists) :=
    .mk (wrapped .string) (.types (.cons (wrapped .keyword) .nil)) (.cons .same .nil)
  have counts : Field.Listed (tags id) (tags lists) := .mk .same (.fields (.cons (typed "count" .long) .nil)) .nil
  have posts : Document.Listed (post id) (post lists) :=
    .mk .nil .nil (.cons authors (.cons titles (.cons counts .nil))) (.cons (typed "at_*" .date) .nil)
  have queries : Expr.Listed (query id) (query lists) :=
    .map (.cons (.node (.field titles)) (.cons (.node (.foreign nofun nofun rfl)) .nil))
  refine ⟨(lists_keep_mapping ⟨3⟩).1 _ _ posts, ⟨_, rfl⟩, (lists_keep_mapping ⟨2⟩).1 _ _ posts, rfl,
    (lists_keep_mapping ⟨4⟩).2.1 _ _ authors 1, (lists_keep_mapping ⟨3⟩).2.2 _ _ queries, ⟨_, rfl⟩⟩

end SearchWire
