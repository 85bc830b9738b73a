import Mathlib.Data.List.Forall2
import SearchWire.Document.Schema
import SearchWire.Proofs.Alike
import SearchWire.Proofs.Settled

/-!
# Assembled mappings

The mapping of a document is put together from the mappings of its fields.
A schema that was built declares no name twice, so none of them is lost, and
what the fields are given does not depend on where they stand.
-/

namespace SearchWire

-- ---------------------------------------------------------------------------
-- Drafts
-- ---------------------------------------------------------------------------

namespace Document.Draft

inductive Call where
  | dynamic (accepted : Bool)
  | option (key : String) (value : Expr)
  | metaField (field : MetaField)
  | field (field : Field)
  | template (field : Field)

def Call.field? : Call → Option Field
  | .field added => some added
  | _ => none

def Call.template? : Call → Option Field
  | .template added => some added
  | _ => none

def call (draft : Draft) : Call → Draft
  | .dynamic accepted => draft.withDynamic accepted
  | .option key value => draft.withOption key value
  | .metaField field => draft.addMetaField field
  | .field field => draft.addField field
  | .template field => draft.addTemplate field

def ofCalls (docType : String) (calls : List Call) : Draft := calls.foldl call (start docType)

theorem call_eq (draft : Draft) (next : Call) :
    (draft.call next).docType = draft.docType ∧
      (draft.call next).fields = draft.fields ++ next.field?.toList ∧
      (draft.call next).templates = draft.templates ++ next.template?.toList := by
  cases next <;> simp [call, withDynamic, withOption, addMetaField, addField, addTemplate, Call.field?,
    Call.template?]

theorem foldl_call_eq (draft : Draft) (calls : List Call) :
    (calls.foldl call draft).docType = draft.docType ∧
      (calls.foldl call draft).fields = draft.fields ++ calls.filterMap Call.field? ∧
      (calls.foldl call draft).templates = draft.templates ++ calls.filterMap Call.template? := by
  induction calls generalizing draft with
  | nil => simp
  | cons next rest ih =>
    obtain ⟨docType, fields, templates⟩ := draft.call_eq next
    obtain ⟨docType', fields', templates'⟩ := ih (draft.call next)
    rw [List.foldl_cons, docType', fields', templates', docType, fields, templates]
    refine ⟨rfl, ?_, ?_⟩
    · cases added : next.field? <;> simp [added]
    · cases added : next.template? <;> simp [added]

theorem nodup_of_nameFault?_eq_none {seen : List String} {fields : List Field}
    (sound : nameFault? seen fields = none) :
    (fields.map (·.name)).Nodup ∧ ∀ field ∈ fields, field.name ∉ seen := by
  induction fields generalizing seen with
  | nil => simp
  | cons field rest ih =>
    rw [nameFault?] at sound
    split at sound
    · cases sound
    · split at sound
      · cases sound
      · next unseen =>
        obtain ⟨distinct, fresh⟩ := ih sound
        simp only [List.mem_cons, not_or] at fresh
        refine ⟨?_, List.forall_mem_cons.mpr ⟨unseen, fun other mem => (fresh other mem).2⟩⟩
        rw [List.map_cons, List.nodup_cons]
        refine ⟨?_, distinct⟩
        rintro mem
        obtain ⟨other, mem, same⟩ := List.mem_map.mp mem
        exact (fresh other mem).1 same

theorem build_eq_ok {draft : Draft} {document : Document} (built : draft.build = .ok document) :
    document.docType = draft.docType ∧ document.fields = draft.fields.map (·.attachedTo draft.docType) ∧
      document.templates = draft.templates ∧ (draft.fields.map (·.name)).Nodup := by
  rw [build] at built
  split at built
  · cases built
  · split at built
    · cases built
    · cases built
    · next sound =>
      cases built
      exact ⟨rfl, rfl, rfl, (nodup_of_nameFault?_eq_none sound).1⟩

theorem build_ofCalls_eq_ok {docType : String} {calls : List Call} {document : Document}
    (built : (ofCalls docType calls).build = .ok document) :
    document.docType = docType ∧
      document.fields = (calls.filterMap Call.field?).map (·.attachedTo docType) ∧
      document.templates = calls.filterMap Call.template? ∧
      ((calls.filterMap Call.field?).map (·.name)).Nodup := by
  obtain ⟨named, declared, patterns⟩ := foldl_call_eq (start docType) calls
  have built := build_eq_ok built
  rw [ofCalls, named, declared, patterns] at built
  exact built

end Document.Draft

-- ---------------------------------------------------------------------------
-- Fragments
-- ---------------------------------------------------------------------------

/-- The fragment of a field that is compiled on its own. -/
structure Field.Alone (limit : Nat) (field : Field) (fragment : Entries Json) : Prop where
  compile : (Expr.ofField field).compile ⟨.mapping, limit⟩ = .ok (.single field.name (.object fragment))
  mapping : field.mapping ⟨limit⟩ 0 = .ok (.object fragment)

/-- Fields at any nesting below some of them: in the schemas of their types
and among their sub-fields. -/
inductive Field.Inside : List Field → Field → Prop
  | here {fields : List Field} {field : Field} (mem : field ∈ fields) : Inside fields field
  | schema {fields : List Field} {outer field : Field} {document : Document} (mem : outer ∈ fields)
    (typed : outer.type.document? = some document) (inside : Inside document.fields field) : Inside fields field
  | subField {fields subFields : List Field} {outer field : Field} (mem : outer ∈ fields)
    (full : outer.multiFields = .fields subFields) (inside : Inside subFields field) : Inside fields field

open Visits (check)

section
variable {d : Dialect} {c : Compiler} {limit depth : Nat}

theorem FieldType.propertiesVisits_eq {document : Document} :
    (type : FieldType) → type.document? = some document → type.propertiesVisits d = Visits.under (.key "properties") (fieldVisits d document.fields)
  | .object ⟨_, _, _, _, _, _⟩, rfl | .nested ⟨_, _, _, _, _, _⟩, rfl => rfl
  | .list element, typed => element.propertiesVisits_eq typed

theorem FieldType.propertiesForm_eq {document : Document} :
    (type : FieldType) → type.document? = some document → type.propertiesForm d = some (.object (Entries.ofPairs (fieldForms d document.fields)))
  | .object ⟨_, _, _, _, _, _⟩, rfl | .nested ⟨_, _, _, _, _, _⟩, rfl => rfl
  | .list element, typed => element.propertiesForm_eq typed

theorem check_fieldVisits_eq_ok_iff {fields : List Field} : check c depth (fieldVisits d fields) = .ok () ↔
    ∀ field ∈ fields, check c depth (field.fragmentVisits d) = .ok () := by
  simp only [fieldVisits_eq_flatMap, Visits.check_flatMap_eq_ok_iff, Visits.check_under_eq_ok_iff]

theorem check_templateVisits_eq_ok_iff {fields : List Field} {position : Nat} :
    check c depth (templateVisits d fields position) = .ok () ↔
      ∀ field ∈ fields, check c depth (field.fragmentVisits d) = .ok () := by
  rw [templateVisits_eq_flatMap, Visits.check_flatMap_eq_ok_iff, List.forall_mem_zipIdx, List.forall_mem_iff_getElem]
  simp only [Visits.check_under_eq_ok_iff]

theorem Field.Inside.check_eq_ok {fields : List Field} {field : Field} (inside : Field.Inside fields field)
    (outer : ∀ field ∈ fields, check c depth (field.fragmentVisits d) = .ok ()) :
    check c depth (field.fragmentVisits d) = .ok () := by
  induction inside generalizing depth with
  | here mem => exact outer _ mem
  | @schema fields container _ document mem typed _ ih =>
    obtain ⟨name, subField, docType, type, multiFields, options⟩ := container
    obtain ⟨-, passes⟩ := Visits.check_entered_eq_ok_iff.mp (outer _ mem)
    obtain ⟨passes, -⟩ := Visits.check_append_eq_ok_iff.mp passes
    obtain ⟨passes, -⟩ := Visits.check_append_eq_ok_iff.mp passes
    rw [type.propertiesVisits_eq typed, Visits.check_under_eq_ok_iff, check_fieldVisits_eq_ok_iff] at passes
    exact Visits.check_eq_ok_mono (Nat.le_succ depth) (ih passes)
  | @subField fields subFields container _ mem full _ ih =>
    obtain ⟨name, subField, docType, type, multiFields, options⟩ := container
    subst full
    obtain ⟨-, passes⟩ := Visits.check_entered_eq_ok_iff.mp (outer _ mem)
    obtain ⟨passes, -⟩ := Visits.check_append_eq_ok_iff.mp passes
    obtain ⟨-, passes⟩ := Visits.check_append_eq_ok_iff.mp passes
    rw [MultiFields.fragmentVisits, Visits.check_under_eq_ok_iff, check_fieldVisits_eq_ok_iff] at passes
    exact Visits.check_eq_ok_mono (Nat.le_succ depth) (ih passes)

theorem Field.alone_of_check {field : Field}
    (passes : check ⟨.mapping, limit⟩ 1 (field.fragmentVisits .mapping) = .ok ()) :
    field.Alone limit (field.fragmentForm .mapping) := by
  have outer := Visits.check_eq_ok_mono (Nat.zero_le 1) passes
  have room : 0 < limit := by
    cases field
    exact Nat.lt_of_succ_lt (Visits.check_entered_eq_ok_iff.mp passes).1
  have node : check ⟨.mapping, limit⟩ 0 ((Expr.ofField field).visits .mapping) = .ok () := by
    have named : check ⟨.mapping, limit⟩ 1
        (Visits.under (.key field.name) (field.fragmentVisits .mapping)) = .ok () :=
      Visits.check_under_eq_ok_iff.mpr passes
    exact Visits.check_entered_eq_ok_iff.mpr ⟨room, named⟩
  constructor
  · rw [Expr.compile_eq, node]
    rfl
  · rw [Field.mapping_eq, Config.compiler, outer]
    rfl

theorem keys_paramForms (params : Entries Expr) : Entries.keys (paramForms d params) = Entries.keys params := by
  rw [paramForms_eq_map, Entries.keys_map]

theorem keys_fieldForms (fields : List Field) : Entries.keys (fieldForms d fields) = fields.map (·.name) := by
  rw [fieldForms_eq_map, Entries.keys, List.map_map]
  rfl

theorem fieldForms_attachedTo (docType : String) (fields : List Field) :
    fieldForms d (fields.map (·.attachedTo docType)) = fieldForms d fields := by
  rw [fieldForms_eq_map, fieldForms_eq_map, List.map_map]
  refine List.map_congr_left fun field _ => ?_
  cases field
  rfl

theorem fieldVisits_attachedTo (docType : String) (fields : List Field) :
    fieldVisits d (fields.map (·.attachedTo docType)) = fieldVisits d fields := by
  rw [fieldVisits_eq_flatMap, fieldVisits_eq_flatMap, List.flatMap_map]
  refine List.flatMap_congr fun field _ => ?_
  cases field
  rfl

theorem Field.get?_properties_fragmentForm {field : Field} {document : Document}
    (typed : field.type.document? = some document) (free : "properties" ∉ Entries.keys field.options) :
    Entries.get? "properties" (field.fragmentForm d) =
      some (.object (Entries.ofPairs (fieldForms d document.fields))) := by
  obtain ⟨name, subField, docType, type, multiFields, options⟩ := field
  have absent : Entries.get? "properties" (paramForms d options).reverse = none := by
    rw [Entries.get?_eq_none_iff, Entries.keys_reverse, List.mem_reverse, keys_paramForms]
    exact free
  rw [Field.fragmentForm, Entries.get?_merge, absent, type.propertiesForm_eq typed]
  rfl

theorem Document.form_eq (document : Document) : ∃ members,
    document.form d = .single document.docType (.object members) ∧
      Entries.get? "properties" members = some (.object (Entries.ofPairs (fieldForms d document.fields))) ∧
      (document.templates ≠ [] →
        Entries.get? "dynamic_templates" members = some (.array (templateForms d document.templates))) := by
  obtain ⟨docType, dynamic, options, metaFields, fields, templates⟩ := document
  have alone (items : List Json) :
      (Json.group "dynamic_templates" items).reverse = Json.group "dynamic_templates" items := by
    cases items <;> rfl
  refine ⟨_, rfl, ?_, ?_⟩
  · rw [Entries.get?_merge, alone, Json.get?_group, Entries.get?_put]
    rfl
  · intro some
    have items : templateForms d templates ≠ [] := by
      cases templates with
      | nil => exact absurd rfl some
      | cons _ _ => exact List.cons_ne_nil _ _
    rw [Entries.get?_merge, alone, Json.get?_group, if_pos ⟨rfl, items⟩]
    rfl

end

-- ---------------------------------------------------------------------------
-- Whole documents
-- ---------------------------------------------------------------------------

/-- The member that a field gives to the properties of a mapping. -/
def Field.Entered (limit : Nat) (field : Field) (entry : String × Json) : Prop :=
  entry.1 = field.name ∧ ∃ fragment, field.Alone limit fragment ∧ entry.2 = .object fragment

def Field.Templated (limit : Nat) (field : Field) (item : Json) : Prop :=
  ∃ fragment, field.Alone limit fragment ∧
    item = .single field.name (.object [("path_match", .string field.name), ("mapping", .object fragment)])

section
variable {limit : Nat} {fields : List Field}

theorem fieldForms_entered
    (passes : ∀ field ∈ fields, check ⟨.mapping, limit⟩ 1 (field.fragmentVisits .mapping) = .ok ()) :
    List.Forall₂ (Field.Entered limit) fields (fieldForms .mapping fields) := by
  induction fields with
  | nil => exact .nil
  | cons field rest ih =>
    obtain ⟨head, rest⟩ := List.forall_mem_cons.mp passes
    exact .cons ⟨rfl, _, Field.alone_of_check head, rfl⟩ (ih rest)

theorem templateForms_templated
    (passes : ∀ field ∈ fields, check ⟨.mapping, limit⟩ 1 (field.fragmentVisits .mapping) = .ok ()) :
    List.Forall₂ (Field.Templated limit) fields (templateForms .mapping fields) := by
  induction fields with
  | nil => exact .nil
  | cons field rest ih =>
    obtain ⟨head, rest⟩ := List.forall_mem_cons.mp passes
    exact .cons ⟨_, Field.alone_of_check head, rfl⟩ (ih rest)

theorem Field.fragmentAt_eq_ok {c : Compiler} {depth : Nat} {field : Field} {fragment : Entries Json}
    (compiles : field.fragmentAt c depth = .ok fragment) : field.fragmentForm c.dialect = fragment := by
  rw [Field.fragmentAt_eq, Visits.bind_ok_eq_ok_iff] at compiles
  exact compiles.2

theorem Document.compile_eq_ok {document : Document} {body : Json}
    (compiles : document.compile ⟨limit⟩ = .ok body) :
    body = document.form .mapping ∧
      ∀ field ∈ document.fields ++ document.templates,
        check ⟨.mapping, limit⟩ 1 (field.fragmentVisits .mapping) = .ok () := by
  rw [Document.compile_eq, Visits.bind_ok_eq_ok_iff, ← Visits.check_eq_ok_iff] at compiles
  obtain ⟨passes, rfl⟩ := compiles
  obtain ⟨docType, dynamic, options, metaFields, fields, templates⟩ := document
  obtain ⟨-, passes⟩ := Visits.check_entered_eq_ok_iff.mp passes
  obtain ⟨passes, templates⟩ := Visits.check_append_eq_ok_iff.mp passes
  obtain ⟨-, fields⟩ := Visits.check_append_eq_ok_iff.mp passes
  rw [Visits.check_under_eq_ok_iff] at fields
  exact ⟨rfl, List.forall_mem_append.mpr
    ⟨check_fieldVisits_eq_ok_iff.mp fields, check_templateVisits_eq_ok_iff.mp templates⟩⟩

end

open Document.Draft (Call ofCalls)

/-- The mapping of a schema that was built, call by call, gives every declared
field and every template the fragment that it has on its own, in the order of
the calls. All fields below them compile on their own too, and whatever field
is compiled, wherever, its fragment has the properties that the schema of its
type has on its own. -/
theorem document_mapping_assembled {docType : String} {calls : List Call} {document : Document} {limit : Nat}
    {body : Json} (built : (ofCalls docType calls).build = .ok document)
    (compiles : document.compile ⟨limit⟩ = .ok body) :
    ∃ members, body = .single docType (.object members) ∧
      (∃ properties, Entries.get? "properties" members = some (.object properties) ∧
        List.Forall₂ (Field.Entered limit) (calls.filterMap Call.field?) properties) ∧
      (calls.filterMap Call.template? ≠ [] →
        ∃ items, Entries.get? "dynamic_templates" members = some (.array items) ∧
          List.Forall₂ (Field.Templated limit) (calls.filterMap Call.template?) items) ∧
      (∀ field, Field.Inside (document.fields ++ document.templates) field →
        ∃ fragment, field.Alone limit fragment ∧
          ∀ depth other, field.fragmentAt ⟨.mapping, limit⟩ depth = .ok other → other = fragment) ∧
      ∀ (field : Field) (depth : Nat) (fragment : Entries Json) (sub : Document) (subBody : Json),
        field.fragmentAt ⟨.mapping, limit⟩ depth = .ok fragment →
        field.type.document? = some sub → "properties" ∉ Entries.keys field.options →
        sub.compile ⟨limit⟩ = .ok subBody →
        ∃ subMembers properties, subBody = .single sub.docType (.object subMembers) ∧
          Entries.get? "properties" subMembers = some properties ∧
          Entries.get? "properties" fragment = some properties := by
  obtain ⟨rfl, fields, templates, distinct⟩ := Document.Draft.build_ofCalls_eq_ok built
  obtain ⟨rfl, passes⟩ := Document.compile_eq_ok compiles
  obtain ⟨members, form, properties, patterns⟩ := document.form_eq
  obtain ⟨fieldsPass, templatesPass⟩ := List.forall_mem_append.mp passes
  rw [← check_fieldVisits_eq_ok_iff, fields, fieldVisits_attachedTo, check_fieldVisits_eq_ok_iff] at fieldsPass
  rw [← keys_fieldForms] at distinct
  rw [fields, fieldForms_attachedTo, Entries.ofPairs_eq_self distinct] at properties
  rw [templates] at templatesPass patterns
  refine ⟨members, form, ⟨_, properties, fieldForms_entered fieldsPass⟩,
    fun some => ⟨_, patterns some, templateForms_templated templatesPass⟩, fun field inside => ?_, ?_⟩
  · have alone := Field.alone_of_check (inside.check_eq_ok passes)
    exact ⟨_, alone, fun depth other compiles => (Field.fragmentAt_eq_ok compiles).symm⟩
  · intro field depth fragment sub subBody compiles typed free subCompiles
    obtain rfl := Field.fragmentAt_eq_ok compiles
    obtain ⟨rfl, -⟩ := Document.compile_eq_ok subCompiles
    obtain ⟨subMembers, form, properties, -⟩ := sub.form_eq
    exact ⟨subMembers, _, form, properties, Field.get?_properties_fragmentForm typed free⟩

/-- A schema with an option and a meta field that are named as its properties
are, over a field that has a schema of its own. -/
theorem document_mapping_assembled_post :
    let user : Document := ⟨"user", false, [], [], [.new "name"], []⟩
    let author := Field.typed "author" (.list (.object user))
    let tag := Field.typed "tag_*" .keyword
    let calls := [Call.option "properties" (.string "none"), .field author,
      .metaField ⟨"properties", [("enabled", .bool true)]⟩, .template tag, .field (.new "title")]
    ∃ members properties items fragment,
      ((ofCalls "post" calls).build >>= Document.compile ⟨4⟩) = .ok (.single "post" (.object members)) ∧
        Entries.get? "properties" members = some (.object properties) ∧
        List.Forall₂ (Field.Entered 4) [author, .new "title"] properties ∧
        Entries.get? "dynamic_templates" members = some (.array items) ∧
        List.Forall₂ (Field.Templated 4) [tag] items ∧
        (author.attachedTo "post").Alone 4 fragment ∧
        ∃ subMembers, user.compile ⟨4⟩ = .ok (.single "user" (.object subMembers)) ∧
          Entries.get? "properties" fragment = Entries.get? "properties" subMembers := by
  intro user author tag calls
  have runs : ∃ document body, (ofCalls "post" calls).build = .ok document ∧ document.compile ⟨4⟩ = .ok body ∧
      author.attachedTo "post" ∈ document.fields ++ document.templates := ⟨_, _, rfl, rfl, List.mem_cons_self⟩
  have alone : ∃ body, user.compile ⟨4⟩ = .ok body := ⟨_, rfl⟩
  obtain ⟨document, body, built, compiles, mem⟩ := runs
  obtain ⟨userBody, userCompiles⟩ := alone
  obtain ⟨members, rfl, ⟨properties, found, entered⟩, templates, inside, schema⟩ :=
    document_mapping_assembled built compiles
  obtain ⟨items, patterns, templated⟩ := templates (List.cons_ne_nil _ _)
  obtain ⟨fragment, authorAlone, only⟩ := inside _ (.here mem)
  obtain ⟨subMembers, _, rfl, same, same'⟩ :=
    schema (author.attachedTo "post") 1 _ user userBody rfl rfl List.not_mem_nil userCompiles
  rw [built]
  exact ⟨members, properties, items, fragment, compiles, found, entered, patterns, templated, authorAlone,
    subMembers, userCompiles, (only 1 _ rfl ▸ same').trans same.symm⟩

end SearchWire
