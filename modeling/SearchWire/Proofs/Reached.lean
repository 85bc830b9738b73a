import SearchWire.Proofs.Demands
import SearchWire.Proofs.Success

/-!
# When mappings compile

A mapping is made of parts: expressions, and fields without their names. What
it meets directly inside a part is told part by part; most of the schema of an
object type is not met at all. Every part but a plain value is a level of its
own, so a part stands as deep as there are parts around it. A mapping compiles
exactly if no level lies beyond the limit, every node belongs to a schema and
every float is finite.
-/

namespace SearchWire

inductive Part where
  | expr (expr : Expr)
  | fragment (field : Field)

def Node.InSchema : Node → Prop
  | .field _ => True
  | .metaField _ => True
  | .document _ => True
  | _ => False

namespace Part

/-- Nodes, maps, lists and fragments are levels of their own. -/
def IsLevel : Part → Prop
  | .expr (.list _) => True
  | .expr (.map _) => True
  | .expr (.node _) => True
  | .expr _ => False
  | .fragment _ => True

/-- What a mapping meets directly inside a part. Of the schema of an object
type it meets the declared fields, of a sub-field that is only a type nothing. -/
inductive Holds : Part → Part → Prop
  | item {items : List Expr} {item : Expr} (mem : item ∈ items) : Holds (.expr (.list items)) (.expr item)
  | member {entries : Entries Expr} {key : String} {value : Expr} (mem : (key, value) ∈ entries) :
    Holds (.expr (.map entries)) (.expr value)
  | field (field : Field) : Holds (.expr (.node (.field field))) (.fragment field)
  | metaOption {field : MetaField} {key : String} {value : Expr} (mem : (key, value) ∈ field.options) :
    Holds (.expr (.node (.metaField field))) (.expr value)
  | documentOption {document : Document} {key : String} {value : Expr} (mem : (key, value) ∈ document.options) :
    Holds (.expr (.node (.document document))) (.expr value)
  | documentMeta {document : Document} {field : MetaField} {key : String} {value : Expr}
    (mem : field ∈ document.metaFields) (option : (key, value) ∈ field.options) :
    Holds (.expr (.node (.document document))) (.expr value)
  | declared {document : Document} {field : Field} (mem : field ∈ document.fields) :
    Holds (.expr (.node (.document document))) (.fragment field)
  | template {document : Document} {field : Field} (mem : field ∈ document.templates) :
    Holds (.expr (.node (.document document))) (.fragment field)
  | option {field : Field} {key : String} {value : Expr} (mem : (key, value) ∈ field.options) :
    Holds (.fragment field) (.expr value)
  | property {field inner : Field} {document : Document} (typed : field.type.document? = some document)
    (mem : inner ∈ document.fields) : Holds (.fragment field) (.fragment inner)
  | subField {field inner : Field} {fields : List Field} (full : field.multiFields = .fields fields)
    (mem : inner ∈ fields) : Holds (.fragment field) (.fragment inner)

/-- A part that is met within another, with so many parts around it. -/
inductive Meets : Part → Nat → Part → Prop
  | here (part : Part) : Meets part 0 part
  | inside {outer inner part : Part} {level : Nat} (holds : Holds outer inner) (meets : Meets inner level part) :
    Meets outer (level + 1) part

/-- What is demanded of a part by itself, where it stands on a level. -/
inductive Asks (level : Nat) : Part → Demand → Prop
  | level {part : Part} (isLevel : part.IsLevel) : Asks level part (.level level)
  | finite (number : Double) : Asks level (.expr (.float number)) (.finite number)
  | node (inner : Node) : Asks level (.expr (.node inner)) (.node inner)

def visits : Part → Visits
  | .expr value => value.visits .mapping
  | .fragment field => field.fragmentVisits .mapping

end Part

-- ---------------------------------------------------------------------------
-- One part
-- ---------------------------------------------------------------------------

open Visits

namespace Part

variable {demand : Demand}

theorem demands_of_asks {part : Part} (asks : part.Asks 0 demand) : part.visits.Demands demand := by
  cases asks with
  | @level part isLevel =>
    cases part with
    | fragment field => exact demands_fragmentVisits_iff.mpr (.inl rfl)
    | expr expr =>
      cases expr with
      | list | map | node => exact demands_entered_iff.mpr (.inl rfl)
      | _ => cases isLevel
  | finite number => exact demands_here_iff.mpr rfl
  | node inner => exact demands_entered_iff.mpr (.inr ⟨_, ⟨[], List.mem_cons_self⟩, rfl⟩)

theorem demands_node {inner : Node} (within : (inner.mappingVisits .mapping).Demands demand) :
    (Part.expr (.node inner)).visits.Demands demand.deeper := by
  obtain ⟨place, mem⟩ := within
  exact demands_entered_iff.mpr (.inr ⟨demand, ⟨place, List.mem_cons_of_mem _ mem⟩, rfl⟩)

theorem Holds.demands {outer inner : Part} (holds : Holds outer inner) (within : inner.visits.Demands demand) :
    outer.visits.Demands demand.deeper := by
  cases holds with
  | item mem => exact demands_entered_iff.mpr (.inr ⟨_, demands_itemVisits_iff.mpr ⟨_, mem, within⟩, rfl⟩)
  | member mem => exact demands_entered_iff.mpr (.inr ⟨_, demands_paramVisits_iff.mpr ⟨_, mem, within⟩, rfl⟩)
  | field field => exact demands_node (demands_under_iff.mpr within)
  | metaOption mem => exact demands_node (demands_optionsVisits_iff.mpr ⟨_, mem, within⟩)
  | documentOption mem =>
    exact demands_node (demands_documentVisits_iff.mpr (.inl (.inl (.inl
      (demands_paramVisits_iff.mpr ⟨_, mem, within⟩)))))
  | documentMeta mem option =>
    exact demands_node (demands_documentVisits_iff.mpr (.inl (.inl (.inr
      (demands_metaFieldVisits_iff.mpr ⟨_, mem, _, option, within⟩)))))
  | declared mem =>
    exact demands_node (demands_documentVisits_iff.mpr (.inl (.inr
      (demands_fieldVisits_iff.mpr ⟨_, mem, within⟩))))
  | template mem =>
    exact demands_node (demands_documentVisits_iff.mpr (.inr
      (demands_templateVisits_iff.mpr ⟨_, mem, within⟩)))
  | option mem =>
    exact demands_fragmentVisits_iff.mpr (.inr ⟨_, .inr (demands_paramVisits_iff.mpr ⟨_, mem, within⟩), rfl⟩)
  | property typed mem =>
    exact demands_fragmentVisits_iff.mpr (.inr ⟨_, .inl (.inl
      ((demands_propertiesVisits_iff _).mpr ⟨_, typed, _, mem, within⟩)), rfl⟩)
  | subField full mem =>
    exact demands_fragmentVisits_iff.mpr (.inr ⟨_, .inl (.inr
      (demands_subFieldVisits_iff.mpr ⟨_, full, _, mem, within⟩)), rfl⟩)

theorem holds_of_demands_node {node : Node} (made : (node.mappingVisits .mapping).Demands demand) :
    ∃ inner, Holds (.expr (.node node)) inner ∧ inner.visits.Demands demand := by
  cases node with
  | field field => exact ⟨_, .field field, demands_under_iff.mp made⟩
  | metaField field =>
    obtain ⟨⟨key, value⟩, mem, made⟩ := demands_optionsVisits_iff.mp made
    exact ⟨_, .metaOption mem, made⟩
  | document document =>
    obtain ((made | made) | made) | made := demands_documentVisits_iff.mp made
    · obtain ⟨⟨key, value⟩, mem, made⟩ := demands_paramVisits_iff.mp made
      exact ⟨_, .documentOption mem, made⟩
    · obtain ⟨field, mem, ⟨key, value⟩, option, made⟩ := demands_metaFieldVisits_iff.mp made
      exact ⟨_, .documentMeta mem option, made⟩
    · obtain ⟨field, mem, made⟩ := demands_fieldVisits_iff.mp made
      exact ⟨_, .declared mem, made⟩
    · obtain ⟨field, mem, made⟩ := demands_templateVisits_iff.mp made
      exact ⟨_, .template mem, made⟩
  | _ => exact absurd made not_demands_nil

theorem asks_or_holds (part : Part) (made : part.visits.Demands demand) : part.Asks 0 demand ∨
    ∃ inner, Holds part inner ∧ ∃ below, inner.visits.Demands below ∧ demand = below.deeper := by
  cases part with
  | fragment field =>
    rcases demands_fragmentVisits_iff.mp made with rfl | ⟨below, (within | within) | within, rfl⟩
    · exact .inl (.level trivial)
    · obtain ⟨document, typed, inner, mem, within⟩ := (demands_propertiesVisits_iff _).mp within
      exact .inr ⟨_, .property typed mem, below, within, rfl⟩
    · obtain ⟨fields, full, inner, mem, within⟩ := demands_subFieldVisits_iff.mp within
      exact .inr ⟨_, .subField full mem, below, within, rfl⟩
    · obtain ⟨⟨key, value⟩, mem, within⟩ := demands_paramVisits_iff.mp within
      exact .inr ⟨_, .option mem, below, within, rfl⟩
  | expr expr =>
    cases expr with
    | float number =>
      obtain rfl := demands_here_iff.mp made
      exact .inl (.finite number)
    | list items =>
      rcases demands_entered_iff.mp made with rfl | ⟨below, within, rfl⟩
      · exact .inl (.level trivial)
      · obtain ⟨item, mem, within⟩ := demands_itemVisits_iff.mp within
        exact .inr ⟨_, .item mem, below, within, rfl⟩
    | map entries =>
      rcases demands_entered_iff.mp made with rfl | ⟨below, within, rfl⟩
      · exact .inl (.level trivial)
      · obtain ⟨⟨key, value⟩, mem, within⟩ := demands_paramVisits_iff.mp within
        exact .inr ⟨_, .member mem, below, within, rfl⟩
    | node node =>
      rcases demands_entered_iff.mp made with rfl | ⟨below, ⟨place, mem⟩, rfl⟩
      · exact .inl (.level trivial)
      · rcases List.mem_cons.mp mem with same | mem
        · cases same
          exact .inl (.node node)
        · obtain ⟨inner, holds, within⟩ := holds_of_demands_node ⟨place, mem⟩
          exact .inr ⟨inner, holds, below, within, rfl⟩
    | _ => exact absurd made not_demands_nil

-- ---------------------------------------------------------------------------
-- All parts
-- ---------------------------------------------------------------------------

theorem asks_succ_iff {level : Nat} {part : Part} :
    part.Asks (level + 1) demand ↔ ∃ below, part.Asks level below ∧ demand = below.deeper := by
  constructor
  · intro asks
    cases asks with
    | level isLevel => exact ⟨_, .level isLevel, rfl⟩
    | finite number => exact ⟨_, .finite number, rfl⟩
    | node inner => exact ⟨_, .node inner, rfl⟩
  · rintro ⟨below, asks, rfl⟩
    cases asks with
    | level isLevel => exact .level isLevel
    | finite number => exact .finite number
    | node inner => exact .node inner

theorem sizeOf_lt_of_entry {key : String} {value : Expr} {params : Entries Expr} (mem : (key, value) ∈ params) :
    sizeOf value < sizeOf params := by
  have entry := List.sizeOf_lt_of_mem mem
  simp only [Prod.mk.sizeOf_spec] at entry
  omega

theorem sizeOf_document_lt {document : Document} :
    (type : FieldType) → type.document? = some document → sizeOf document < sizeOf type
  | .object _, rfl | .nested _, rfl => by simp
  | .list element, typed => by
    have smaller := sizeOf_document_lt element typed
    simp only [FieldType.list.sizeOf_spec]
    omega

theorem Holds.sizeOf_lt : {outer inner : Part} → Holds outer inner → sizeOf inner < sizeOf outer
  | _, _, .item mem => by
    have item := List.sizeOf_lt_of_mem mem
    simp only [expr.sizeOf_spec, Expr.list.sizeOf_spec]
    omega
  | _, _, .member mem => by
    have value := sizeOf_lt_of_entry mem
    simp only [expr.sizeOf_spec, Expr.map.sizeOf_spec]
    omega
  | _, _, .field _ => by
    simp only [expr.sizeOf_spec, fragment.sizeOf_spec, Expr.node.sizeOf_spec, Node.field.sizeOf_spec]
    omega
  | _, _, @Holds.metaOption ⟨_, _⟩ _ _ mem => by
    have value := sizeOf_lt_of_entry mem
    simp only [expr.sizeOf_spec, Expr.node.sizeOf_spec, Node.metaField.sizeOf_spec, MetaField.mk.sizeOf_spec] at value ⊢
    omega
  | _, _, @Holds.documentOption ⟨_, _, _, _, _, _⟩ _ _ mem => by
    have value := sizeOf_lt_of_entry mem
    simp only [expr.sizeOf_spec, Expr.node.sizeOf_spec, Node.document.sizeOf_spec, Document.mk.sizeOf_spec] at value ⊢
    omega
  | _, _, @Holds.documentMeta ⟨_, _, _, _, _, _⟩ ⟨_, _⟩ _ _ mem inside => by
    have field := List.sizeOf_lt_of_mem mem
    have value := sizeOf_lt_of_entry inside
    simp only [expr.sizeOf_spec, Expr.node.sizeOf_spec, Node.document.sizeOf_spec, Document.mk.sizeOf_spec,
      MetaField.mk.sizeOf_spec] at field value ⊢
    omega
  | _, _, @Holds.declared ⟨_, _, _, _, _, _⟩ _ mem | _, _, @Holds.template ⟨_, _, _, _, _, _⟩ _ mem => by
    have field := List.sizeOf_lt_of_mem mem
    simp only [expr.sizeOf_spec, fragment.sizeOf_spec, Expr.node.sizeOf_spec, Node.document.sizeOf_spec,
      Document.mk.sizeOf_spec] at field ⊢
    omega
  | _, _, @Holds.option ⟨_, _, _, _, _, _⟩ _ _ mem => by
    have value := sizeOf_lt_of_entry mem
    simp only [expr.sizeOf_spec, fragment.sizeOf_spec, Field.mk.sizeOf_spec] at value ⊢
    omega
  | _, _, @Holds.property ⟨_, _, _, type, _, _⟩ _ ⟨_, _, _, _, _, _⟩ typed mem => by
    have document := sizeOf_document_lt type typed
    have field := List.sizeOf_lt_of_mem mem
    simp only [fragment.sizeOf_spec, Field.mk.sizeOf_spec, Document.mk.sizeOf_spec] at document field ⊢
    omega
  | _, _, @Holds.subField ⟨_, _, _, _, _, _⟩ _ _ rfl mem => by
    have field := List.sizeOf_lt_of_mem mem
    simp only [fragment.sizeOf_spec, Field.mk.sizeOf_spec, MultiFields.fields.sizeOf_spec]
    omega

theorem meets_of_demands (part : Part) {demand : Demand} (made : part.visits.Demands demand) :
    ∃ level inner, Meets part level inner ∧ Asks level inner demand := by
  rcases part.asks_or_holds made with asks | ⟨inner, holds, below, within, same⟩
  · exact ⟨0, part, .here part, asks⟩
  · have smaller := holds.sizeOf_lt
    obtain ⟨level, found, meets, asks⟩ := meets_of_demands inner within
    exact ⟨level + 1, found, .inside holds meets, asks_succ_iff.mpr ⟨below, asks, same⟩⟩
termination_by sizeOf part

theorem Meets.demands {outer part : Part} {level : Nat} (meets : Meets outer level part)
    (asks : Asks level part demand) : outer.visits.Demands demand := by
  induction meets generalizing demand with
  | here part => exact demands_of_asks asks
  | inside holds _ ih =>
    obtain ⟨below, within, rfl⟩ := asks_succ_iff.mp asks
    exact holds.demands (ih within)

theorem demands_iff (part : Part) : part.visits.Demands demand ↔
    ∃ level inner, Meets part level inner ∧ Asks level inner demand :=
  ⟨part.meets_of_demands, fun ⟨_, _, meets, asks⟩ => meets.demands asks⟩

end Part

-- ---------------------------------------------------------------------------
-- Mappings
-- ---------------------------------------------------------------------------

theorem Node.inSchema_iff {inner : Node} : inner.InSchema ↔ Dialect.mapping.supports inner := by
  cases inner <;> simp [InSchema, Dialect.supports]

namespace Expr

variable {limit : Nat} {expr : Expr}

def Meets (expr : Expr) (level : Nat) (part : Part) : Prop := Part.Meets (.expr expr) level part

theorem demands_mapping_iff {demand : Demand} : expr.Demands .mapping demand ↔
    ∃ level part, expr.Meets level part ∧ part.Asks level demand :=
  Part.demands_iff (.expr expr)

theorem demands_level_iff {level : Nat} : expr.Demands .mapping (.level level) ↔
    ∃ part, expr.Meets level part ∧ part.IsLevel := by
  rw [demands_mapping_iff]
  constructor
  · rintro ⟨_, part, meets, ⟨isLevel⟩⟩
    exact ⟨part, meets, isLevel⟩
  · rintro ⟨part, meets, isLevel⟩
    exact ⟨level, part, meets, .level isLevel⟩

theorem demands_finite_iff {number : Double} : expr.Demands .mapping (.finite number) ↔
    ∃ level, expr.Meets level (.expr (.float number)) := by
  rw [demands_mapping_iff]
  constructor
  · rintro ⟨level, _, meets, ⟨_⟩⟩
    exact ⟨level, meets⟩
  · rintro ⟨level, meets⟩
    exact ⟨level, _, meets, .finite number⟩

theorem demands_node_iff {inner : Node} : expr.Demands .mapping (.node inner) ↔
    ∃ level, expr.Meets level (.expr (.node inner)) := by
  rw [demands_mapping_iff]
  constructor
  · rintro ⟨level, _, meets, ⟨_⟩⟩
    exact ⟨level, meets⟩
  · rintro ⟨level, meets⟩
    exact ⟨level, _, meets, .node inner⟩

theorem not_demands_names {target : Expr} : ¬expr.Demands .mapping (.names target) := by
  rw [demands_mapping_iff]
  rintro ⟨_, _, _, ⟨⟩⟩

theorem lt_nesting_iff {d : Dialect} :
    limit < expr.nesting d ↔ ∃ level, expr.Demands d (.level level) ∧ limit ≤ level := by
  rw [← Nat.not_le, nesting_le_iff]
  simp only [Classical.not_forall, Nat.not_lt, exists_prop]

/-- Exactly the expressions whose parts keep to the limit, are finite and
belong to a schema have a mapping, and a failure tells which part is at fault. -/
theorem compile_mapping_exact (limit : Nat) (expr : Expr) :
    ((∃ json, expr.compile ⟨.mapping, limit⟩ = .ok json) ↔
      (∀ level part, expr.Meets level part → part.IsLevel → level < limit) ∧
      (∀ level number, expr.Meets level (.expr (.float number)) → number.isFinite) ∧
      ∀ level inner, expr.Meets level (.expr (.node inner)) → inner.InSchema) ∧
    ∀ error, expr.compile ⟨.mapping, limit⟩ = .error error →
      (∃ level inner, error = .unsupportedNode inner.tag "mapping" ∧
        expr.Meets level (.expr (.node inner)) ∧ ¬inner.InSchema) ∨
      (∃ place level number, error = .malformed place (number.text ++ " is not a finite number") ∧
        expr.Meets level (.expr (.float number)) ∧ ¬number.isFinite) ∨
      (error = .depthExceeded limit ∧ ∃ level part, expr.Meets level part ∧ part.IsLevel ∧ limit ≤ level) := by
  constructor
  · rw [exists_compile_eq_ok_iff, nesting_le_iff]
    simp only [demands_level_iff, demands_finite_iff, demands_node_iff, ← Node.inSchema_iff]
    constructor
    · rintro ⟨levels, numbers, -, nodes⟩
      exact ⟨fun level part meets isLevel => levels level ⟨part, meets, isLevel⟩,
        fun level number meets => numbers number ⟨level, meets⟩, fun level inner meets => nodes inner ⟨level, meets⟩⟩
    · rintro ⟨levels, numbers, nodes⟩
      exact ⟨fun level ⟨part, meets, isLevel⟩ => levels level part meets isLevel,
        fun number ⟨level, meets⟩ => numbers level number meets, fun target names => absurd names not_demands_names,
        fun inner ⟨level, meets⟩ => nodes level inner meets⟩
  · intro error h
    obtain ⟨eq, deep⟩ | ⟨place, number, eq, demand, infinite⟩ | ⟨place, target, eq, demand, nameless⟩ |
      ⟨inner, eq, demand, unsupported⟩ := compile_eq_error h
    · obtain ⟨level, demand, beyond⟩ := lt_nesting_iff.mp deep
      obtain ⟨part, meets, isLevel⟩ := demands_level_iff.mp demand
      exact .inr (.inr ⟨eq, level, part, meets, isLevel, beyond⟩)
    · obtain ⟨level, meets⟩ := demands_finite_iff.mp demand
      exact .inr (.inl ⟨place, level, number, eq, meets, by simp [infinite]⟩)
    · exact absurd demand not_demands_names
    · obtain ⟨level, meets⟩ := demands_node_iff.mp demand
      exact .inl ⟨level, inner, eq, meets, by simp [Node.inSchema_iff, unsupported]⟩

/-- The options of a schema count where it is a document of its own, not where
it is the type of a field. -/
example :
    let user : Document := ⟨"user", false, [("boost", .float .nan)], [], [], []⟩
    (ofField (.typed "author" (.object user))).compile ⟨.mapping, 2⟩ =
        .ok (.single "author" (.object [("type", .string "object"), ("properties", .object [])])) ∧
      (node (.document user)).compile ⟨.mapping, 2⟩ =
        .error (.malformed [.key "boost"] "NaN is not a finite number") := ⟨rfl, rfl⟩

end Expr

end SearchWire
