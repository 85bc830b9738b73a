import SearchWire.Proofs.Assembly
import SearchWire.Proofs.Precedence

/-!
# Sub-fields in two forms

Sub-fields are given by their types, under names of their own, or as fields in
a list. Given one by one, both forms lead to the same names in the same order,
and the last type of a name counts. What differs is the mapping of a sub-field
with a schema: only in the list does it bring the fields of the schema.
-/

namespace SearchWire

-- ---------------------------------------------------------------------------
-- Sub-fields given one by one
-- ---------------------------------------------------------------------------

def Field.withEach (field : Field) (given : List (String × FieldType)) : Field :=
  given.foldl (fun field entry => field.withMultiField entry.1 entry.2) field

theorem Field.withEach_types {field : Field} {named : List (String × FieldType)}
    (form : field.multiFields = .types named) (given : List (String × FieldType)) :
    field.withEach given = { field with multiFields := .types (Entries.merge named given) } := by
  induction given generalizing field named with
  | nil =>
    cases field
    cases form
    rfl
  | cons entry rest ih =>
    have next : (field.withMultiField entry.1 entry.2).multiFields = .types (Entries.put entry.1 entry.2 named) := by
      simp [withMultiField, form]
    exact ih next

theorem Field.withEach_none {field : Field} (form : field.multiFields = .none) {given : List (String × FieldType)}
    (some : given ≠ []) : field.withEach given = { field with multiFields := .types (Entries.ofPairs given) } := by
  cases given with
  | nil => exact absurd rfl some
  | cons entry rest =>
    have next : (field.withMultiField entry.1 entry.2).multiFields = .types [entry] := by
      simp [withMultiField, form]
    exact withEach_types next rest

theorem Field.withEach_fields {field : Field} {full : List Field} (form : field.multiFields = .fields full)
    (given : List (String × FieldType)) : field.withEach given =
      { field with multiFields := .fields (full ++ given.map fun entry => .typed entry.1 entry.2) } := by
  induction given generalizing field full with
  | nil =>
    cases field
    cases form
    simp [withEach]
  | cons entry rest ih =>
    have next : (field.withMultiField entry.1 entry.2).multiFields = .fields (full ++ [.typed entry.1 entry.2]) := by
      simp [withMultiField, form]
    rw [List.map_cons, List.append_cons]
    exact ih next

-- ---------------------------------------------------------------------------
-- Their mappings
-- ---------------------------------------------------------------------------

section
variable {d : Dialect}

theorem FieldType.propertiesForm_eq_none_iff (type : FieldType) :
    type.propertiesForm d = none ↔ type.document? = none := by
  cases type with
  | object document | nested document =>
    cases document
    simp [propertiesForm, document?]
  | list element => exact propertiesForm_eq_none_iff element
  | _ => simp [propertiesForm, document?]

/-- The mapping of a field that has a type and nothing else. -/
def FieldType.fragment (d : Dialect) (type : FieldType) : Entries Json :=
  ("type", .string type.wireName) :: Json.optional "properties" (type.propertiesForm d)

theorem fieldForms_typed (given : List (String × FieldType)) :
    fieldForms d (given.map fun entry => .typed entry.1 entry.2) =
      given.map fun entry => (entry.1, .object (entry.2.fragment d)) := by
  have alone (entry : String × FieldType) : (Field.typed entry.1 entry.2).fragmentForm d = entry.2.fragment d := by
    simp [Field.typed, Field.fragmentForm, MultiFields.fragmentForms, FieldType.fragment, Json.section?,
      paramForms, Entries.merge]
  rw [fieldForms_eq_map, List.map_map]
  exact List.map_congr_left fun entry _ => congrArg (entry.1, Json.object ·) (alone entry)

theorem FieldType.fragment_eq_single_iff {type : FieldType} :
    Json.object (type.fragment d) = .single "type" (.string type.wireName) ↔ type.document? = none := by
  rw [← propertiesForm_eq_none_iff (d := d)]
  cases properties : type.propertiesForm d <;> simp [fragment, Json.single, Json.optional, properties]

theorem FieldType.fields_not_mem_keys_fragment (type : FieldType) :
    "fields" ∉ Entries.keys (type.fragment d) := by
  cases properties : type.propertiesForm d <;>
    simp [fragment, Entries.keys, Json.optional, properties]

theorem Field.fragmentForm_with (field : Field) (multiFields : MultiFields) :
    ({ field with multiFields } : Field).fragmentForm d =
      Entries.merge (field.type.fragment d ++ Json.section? "fields" (multiFields.fragmentForms d))
        (paramForms d field.options) := rfl

theorem Field.withEach_bare {field : Field} (bare : field.multiFields = .none ∨ field.multiFields = .types [])
    (given : List (String × FieldType)) : ∃ multiFields, field.withEach given = { field with multiFields } ∧
      multiFields.fragmentVisits d = [] ∧ multiFields.fragmentForms d =
        (Entries.ofPairs given).map fun entry => (entry.1, .single "type" (.string entry.2.wireName)) := by
  rcases bare with form | form
  · by_cases some : given = []
    · subst some
      refine ⟨.none, ?_, rfl, rfl⟩
      cases field
      cases form
      rfl
    · exact ⟨_, withEach_none form some, rfl, rfl⟩
  · exact ⟨_, withEach_types form given, rfl, rfl⟩

theorem Field.withEach_listed (field : Field) (given : List (String × FieldType)) : ∃ multiFields,
    (field.withMultiFields (.fields [])).withEach given = { field with multiFields } ∧
      multiFields.fragmentForms d =
        (Entries.ofPairs given).map fun entry => (entry.1, .object (entry.2.fragment d)) := by
  refine ⟨_, withEach_fields rfl given, ?_⟩
  rw [Entries.map_ofPairs fun type : FieldType => Json.object (type.fragment d), ← fieldForms_typed]
  rfl

theorem merge_section?_fields_eq_iff {given : List (String × FieldType)} {base options : Entries Json}
    (absent : "fields" ∉ Entries.keys base) :
    Entries.merge (base ++ Json.section? "fields"
      ((Entries.ofPairs given).map fun entry => (entry.1, .single "type" (.string entry.2.wireName)))) options =
    Entries.merge (base ++ Json.section? "fields"
      ((Entries.ofPairs given).map fun entry => (entry.1, .object (entry.2.fragment d)))) options ↔
    "fields" ∈ Entries.keys options ∨ ∀ entry ∈ Entries.ofPairs given, entry.2.document? = none := by
  cases Entries.ofPairs given with
  | nil => simp
  | cons first rest =>
    have present (f : String × FieldType → String × Json) :
      Json.section? "fields" ((first :: rest).map f) = [("fields", .object ((first :: rest).map f))] := rfl
    rw [present, present, Entries.merge_append_single_inj absent, Json.object.injEq, List.map_inj_left]
    refine or_congr_right (forall₂_congr fun entry _ => ?_)
    rw [Prod.mk.injEq, eq_comm (a := Json.single _ _), FieldType.fragment_eq_single_iff]
    exact and_iff_right rfl

theorem Field.check_of_unvisited {compiler : Compiler} {depth : Nat} {field : Field} {bare full : MultiFields}
    (unvisited : bare.fragmentVisits d = [])
    (passes : Visits.check compiler depth (({ field with multiFields := full } : Field).fragmentVisits d) = .ok ()) :
    Visits.check compiler depth (({ field with multiFields := bare } : Field).fragmentVisits d) = .ok () := by
  obtain ⟨room, passes⟩ := Visits.check_entered_eq_ok_iff.mp passes
  obtain ⟨passes, options⟩ := Visits.check_append_eq_ok_iff.mp passes
  obtain ⟨properties, -⟩ := Visits.check_append_eq_ok_iff.mp passes
  refine Visits.check_entered_eq_ok_iff.mpr ⟨room, ?_⟩
  rw [unvisited, List.append_nil]
  exact Visits.check_append_eq_ok_iff.mpr ⟨properties, options⟩

end

/-- Wherever a field compiles with its sub-fields in a list, it compiles with them
in the form of types, and both mappings are the same exactly if an option takes
the place of the sub-fields or no sub-field, by the last type of its name, has a
schema. -/
theorem sub_field_forms_agree_exactly {field : Field} (given : List (String × FieldType))
    (bare : field.multiFields = .none ∨ field.multiFields = .types []) {config : Config} {depth : Nat}
    {listed : Json}
    (compiles : ((field.withMultiFields (.fields [])).withEach given).mapping config depth = .ok listed) :
    ∃ typed, (field.withEach given).mapping config depth = .ok typed ∧
      (typed = listed ↔ "fields" ∈ Entries.keys field.options ∨
        ∀ entry ∈ Entries.ofPairs given, entry.2.document? = none) := by
  obtain ⟨types, first, unvisited, typesForms⟩ := @Field.withEach_bare .mapping field bare given
  obtain ⟨fields, second, fieldsForms⟩ := @Field.withEach_listed .mapping field given
  rw [second, Field.mapping_eq, Visits.bind_ok_eq_ok_iff, ← Visits.check_eq_ok_iff] at compiles
  obtain ⟨passes, rfl⟩ := compiles
  rw [first, Field.mapping_eq, Field.check_of_unvisited unvisited passes, Result.ok_bind]
  refine ⟨_, rfl, ?_⟩
  rw [Json.object.injEq, Field.fragmentForm_with, Field.fragmentForm_with, typesForms, fieldsForms,
    merge_section?_fields_eq_iff (FieldType.fields_not_mem_keys_fragment _), keys_paramForms]

/-- A name is given twice, and the type with a schema is not the last. -/
theorem sub_field_forms_agree_exactly_again :
    let author : Document := ⟨"author", false, [], [], [.new "name"], []⟩
    let given := [("o", FieldType.object author), ("raw", .keyword), ("o", .list .long)]
    (Field.new "f").multiFields = .none ∧
    ∃ json, (((Field.new "f").withMultiFields (.fields [])).withEach given).mapping .default 0 = .ok json ∧
      ((Field.new "f").withEach given).mapping .default 0 = .ok json := by
  intro author given
  obtain ⟨listed, compiles⟩ : ∃ listed,
    (((Field.new "f").withMultiFields (.fields [])).withEach given).mapping .default 0 = .ok listed := ⟨_, rfl⟩
  obtain ⟨typed, typedCompiles, agree⟩ := sub_field_forms_agree_exactly given (.inl rfl) compiles
  have same : typed = listed := agree.mpr (.inr (by decide))
  exact ⟨rfl, listed, compiles, same ▸ typedCompiles⟩

/-- The schema of a sub-field is mapped from the list alone. -/
theorem typed_sub_field_without_schema :
    let author : Document := ⟨"author", false, [], [], [.new "name"], []⟩
    let given := [("o", FieldType.object author)]
    let name := Json.object [("name", .single "type" (.string "string"))]
    ((Field.new "f").withEach given).mapping .default 0 =
      .ok (.object [("type", .string "string"), ("fields", .single "o" (.single "type" (.string "object")))]) ∧
    (((Field.new "f").withMultiFields (.fields [])).withEach given).mapping .default 0 =
      .ok (.object [("type", .string "string"),
        ("fields", .single "o" (.object [("type", .string "object"), ("properties", name)]))]) := ⟨rfl, rfl⟩

end SearchWire
