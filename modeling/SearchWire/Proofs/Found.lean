import SearchWire.Compiler.Body
import SearchWire.Proofs.SubNames

/-!
# Fields that are found

A field is found in one of three ways: it is declared, it is a sub-field of one
that is declared, or it is made up for a name that a template or the document
accepts. Either way it belongs to the document and is named as it was asked
for, except that a declared field with a sub-field selected names the sub-field.
-/

namespace SearchWire

namespace Document

variable {document : Document} {name : String} {found : Field}

/-- A schema that was drafted call by call and built, or one that declares
nothing. -/
inductive Made : Document → Prop
  | built {docType : String} {calls : List Draft.Call} {document : Document}
    (built : (Draft.ofCalls docType calls).build = .ok document) : Made document
  | schemaless (docType : String) : Made (schemaless docType)

/-- How a field can be found under a name. -/
inductive Finds (document : Document) (name : String) : Field → Prop
  | declared {field : Field} (mem : field ∈ document.fields) (named : field.name = name) :
    Finds document name field
  | subField {field : Field} {rest : String} (undeclared : ¬document.Declares name)
    (mem : field ∈ document.fields) (below : name = field.name ++ "." ++ rest) :
    Finds document name (field.sub rest)
  | accepted (undeclared : ¬document.Declares name) (type : FieldType) :
    Finds document name ((Field.typed name type).attachedTo document.docType)

-- ---------------------------------------------------------------------------
-- Schemas
-- ---------------------------------------------------------------------------

theorem Made.docType_eq (made : document.Made) {declared : Field} (mem : declared ∈ document.fields) :
    declared.docType = some document.docType := by
  cases made with
  | built built =>
    obtain ⟨rfl, fields, -⟩ := Draft.build_ofCalls_eq_ok built
    rw [fields] at mem
    obtain ⟨given, -, rfl⟩ := List.mem_map.mp mem
    rfl
  | schemaless docType => cases mem

theorem Made.fields_nodup (made : document.Made) : (document.fields.map (·.name)).Nodup := by
  cases made with
  | built built => exact Draft.build_fields_nodup built
  | schemaless docType => exact List.nodup_nil

-- ---------------------------------------------------------------------------
-- Look-up
-- ---------------------------------------------------------------------------

theorem declared?_eq_some (known : document.declared? name = some found) :
    found ∈ document.fields ∧ found.name = name :=
  ⟨List.mem_of_find?_eq_some known, by simpa using List.find?_some known⟩

theorem declaredSub?_eq_some (known : document.declaredSub? name = some found) :
    ∃ declared ∈ document.fields, ∃ rest, found = declared.sub rest ∧ name = declared.name ++ "." ++ rest := by
  simp only [declaredSub?, bind, Option.bind_eq_some_iff, pure, Option.some.injEq] at known
  obtain ⟨⟨head, rest⟩, divided, declared, known, rfl⟩ := known
  obtain ⟨mem, rfl⟩ := declared?_eq_some known
  exact ⟨declared, mem, rest, rfl, (splitName?_eq_some_iff.mp divided).1⟩

theorem finds_of_field (looked : document.field name = .ok found) : document.Finds name found := by
  by_cases declares : document.Declares name
  · obtain ⟨known, mem, named, known_looked⟩ := field_of_declares declares
    cases known_looked.symm.trans looked
    exact .declared mem named
  · have undeclared := declared?_eq_none_iff.mpr declares
    cases sub : document.declaredSub? name with
    | some known =>
      have known_looked : document.field name = .ok known := by simp [field, undeclared, sub]
      cases known_looked.symm.trans looked
      obtain ⟨declared, mem, rest, rfl, below⟩ := declaredSub?_eq_some sub
      exact .subField declares mem below
    | none =>
      rw [field_eq (.inr (declaredSub?_eq_none_iff.mp sub)), undeclared] at looked
      cases matched : document.template? name with
      | some template =>
        simp only [matched] at looked
        cases looked
        exact .accepted declares template.type
      | none =>
        simp only [matched] at looked
        split at looked
        · cases looked
          exact .accepted declares .default
        · cases looked

-- ---------------------------------------------------------------------------
-- What was found
-- ---------------------------------------------------------------------------

theorem Finds.docType_eq (made : document.Made) (finds : document.Finds name found) :
    found.docType = some document.docType := by
  cases finds with
  | declared mem _ => exact made.docType_eq mem
  | @subField declared _ _ mem _ =>
    have owned : declared.docType = some document.docType := made.docType_eq mem
    exact owned
  | accepted _ _ => rfl

theorem Finds.path_eq_iff (made : document.Made) (finds : document.Finds name found) :
    found.path = name ↔ ∀ declared ∈ document.fields, declared.name = name → declared.subField = none := by
  have vacuous (undeclared : ¬document.Declares name) :
      ∀ declared ∈ document.fields, declared.name = name → declared.subField = none :=
    fun declared mem named => absurd ⟨declared, mem, named⟩ undeclared
  cases finds with
  | declared mem named =>
    subst named
    rw [Field.path_eq_name_iff]
    constructor
    · intro unselected other inside same
      rwa [List.inj_on_of_nodup_map made.fields_nodup inside mem same]
    · intro unselected
      exact unselected found mem rfl
  | subField undeclared _ below => exact iff_of_true below.symm (vacuous undeclared)
  | accepted undeclared _ => exact iff_of_true rfl (vacuous undeclared)

theorem Finds.path_of_ne (finds : document.Finds name found) (other : found.path ≠ name) :
    found ∈ document.fields ∧ found.name = name ∧
      ∃ sub, found.subField = some sub ∧ found.path = name ++ "." ++ sub := by
  cases finds with
  | declared mem named =>
    refine ⟨mem, named, ?_⟩
    cases selected : found.subField with
    | none => exact absurd ((Field.path_eq_name_iff.mpr selected).trans named) other
    | some sub => exact ⟨sub, rfl, by rw [Field.path, selected, named]⟩
  | subField _ _ below => exact absurd below.symm other
  | accepted _ _ => exact absurd rfl other

end Document

theorem Expr.fieldNameAt_ofField {limit depth : Nat} (room : depth < limit) (field : Field) :
    (Expr.ofField field).fieldNameAt ⟨.query, limit⟩ depth = .ok field.path := by
  simp [fieldNameAt, ofField, compileAt, Compiler.enter, room, Node.queryAt, Json.fieldName]

/-- Whatever a schema finds belongs to it, and has the name that was asked for
as its path, in searches too, exactly unless a declared field of that name has a
sub-field selected: then the path is that of the sub-field. -/
theorem found_fields_keep_names {document : Document} (made : document.Made) {name : String} {found : Field}
    (looked : document.field name = .ok found) :
    found.docType = some document.docType ∧
    (found.path = name ↔ ∀ declared ∈ document.fields, declared.name = name → declared.subField = none) ∧
    (found.path ≠ name → found ∈ document.fields ∧ found.name = name ∧
      ∃ sub, found.subField = some sub ∧ found.path = name ++ "." ++ sub) ∧
    ∀ limit depth, depth < limit →
      (Expr.ofField found).fieldNameAt ⟨.query, limit⟩ depth = .ok found.path := by
  have finds := Document.finds_of_field looked
  exact ⟨finds.docType_eq made, finds.path_eq_iff made, finds.path_of_ne,
    fun limit depth room => Expr.fieldNameAt_ofField room found⟩

/-- A field from elsewhere with options, a sub-field of it, a name that a template
matches and one that only a dynamic document accepts. -/
theorem found_fields_keep_names_orders :
    let user := ((Field.typed "user" .text).withOption "index" (.bool false)).attachedTo "account"
    let calls := [Document.Draft.Call.dynamic true, .field user, .template (.typed "tag_*" .keyword)]
    ∃ orders, (Document.Draft.ofCalls "order" calls).build = .ok orders ∧
      ∀ name ∈ ["user", "user.raw", "tag_new", "total"], ∃ found, orders.field name = .ok found ∧
        found.docType = some "order" ∧ found.path = name ∧
        (Expr.ofField found).fieldNameAt ⟨.query, 1⟩ 0 = .ok name := by
  intro user calls
  let orders : Document := ⟨"order", true, [], [], [user.attachedTo "order"], [.typed "tag_*" .keyword]⟩
  have built : (Document.Draft.ofCalls "order" calls).build = .ok orders := rfl
  have unselected : ∀ declared ∈ orders.fields, declared.subField = none := List.forall_mem_singleton.mpr rfl
  have runs : ∀ name ∈ ["user", "user.raw", "tag_new", "total"], ∃ found, orders.field name = .ok found := by
    simp only [List.forall_mem_cons]
    exact ⟨⟨_, rfl⟩, ⟨_, rfl⟩, ⟨_, rfl⟩, ⟨_, rfl⟩, List.forall_mem_nil _⟩
  refine ⟨orders, built, fun name mem => ?_⟩
  obtain ⟨found, looked⟩ := runs name mem
  obtain ⟨docType, path, -, written⟩ := found_fields_keep_names (.built built) looked
  have kept : found.path = name := path.mpr fun declared inside _ => unselected declared inside
  exact ⟨found, looked, docType, kept, kept ▸ written 1 0 Nat.one_pos⟩

/-- A sub-field that was selected before its field was declared is found in the
place of the field. -/
theorem selected_sub_field_found_for_field :
    ∃ account found, (Document.Draft.ofCalls "account" [.field ((Field.new "user").sub "raw")]).build = .ok account ∧
      account.field "user" = .ok found ∧ found.path = "user.raw" ∧
      (Expr.ofField found).fieldNameAt ⟨.query, 1⟩ 0 = .ok "user.raw" := ⟨_, _, rfl, rfl, rfl, rfl⟩

end SearchWire
