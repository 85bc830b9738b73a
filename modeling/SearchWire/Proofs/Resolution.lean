import Mathlib.Data.List.TakeWhile
import SearchWire.Document.Schema
import SearchWire.Document.Validation
import SearchWire.Proofs.Checks

/-!
# What names stand for

Looking a field up and validating a member both ask what a name stands for: a
declared field, else the first template that matches, else anything or nothing.
They part only over names with a point below a declared field. Elsewhere a name
is found exactly if a member of that name can be accepted, and what it accepts
is what the type that is found accepts.
-/

namespace SearchWire

theorem FieldType.validate_null (type : FieldType) : type.validate .null = .ok () := by
  rw [FieldType.validate]

namespace Document

variable {document : Document} {name : String}

-- ---------------------------------------------------------------------------
-- Names
-- ---------------------------------------------------------------------------

def Declares (document : Document) (name : String) : Prop := ∃ field ∈ document.fields, field.name = name

/-- What stands before the first point of the name is declared. -/
def Dotted (document : Document) (name : String) : Prop :=
  ∃ head rest, name = head ++ "." ++ rest ∧ '.' ∉ head.toList ∧ document.Declares head

def Matches (document : Document) (name : String) : Prop :=
  ∃ template ∈ document.templates, Glob.isMatch template.name name = true

theorem splitName?_eq_some_iff {head rest : String} :
    splitName? name = some (head, rest) ↔ name = head ++ "." ++ rest ∧ '.' ∉ head.toList := by
  rw [← String.toList_inj]
  constructor
  · intro parts
    unfold splitName? at parts
    split at parts
    · cases parts
    · next point behind found =>
      have first := List.head?_dropWhile_not (· != '.') name.toList
      simp only [found, List.head?_cons, bne_eq_false_iff_eq] at first
      subst first
      cases parts
      refine ⟨?_, fun mem => ?_⟩
      · simpa [found] using (@List.takeWhile_append_dropWhile _ (· != '.') name.toList).symm
      · exact absurd (List.mem_takeWhile_imp (String.toList_ofList ▸ mem)) (by decide)
  · rintro ⟨whole, pointless⟩
    have before : ∀ c ∈ head.toList, (c != '.') = true := by
      intro c mem
      simpa using ne_of_mem_of_not_mem mem pointless
    simp [splitName?, whole, List.dropWhile_append_of_pos before, List.takeWhile_append_of_pos before]

theorem declared?_isSome_iff : (document.declared? name).isSome ↔ document.Declares name := by
  simp [declared?, Declares]

theorem declared?_eq_none_iff : document.declared? name = none ↔ ¬document.Declares name := by
  rw [← declared?_isSome_iff, Option.not_isSome_iff_eq_none]

theorem template?_isSome_iff : (document.template? name).isSome ↔ document.Matches name := by
  simp [template?, Matches]

theorem declaredSub?_isSome_iff : (document.declaredSub? name).isSome ↔ document.Dotted name := by
  have parts : document.Dotted name ↔
      ∃ head rest, splitName? name = some (head, rest) ∧ (document.declared? head).isSome := by
    simp [Dotted, splitName?_eq_some_iff, declared?_isSome_iff, and_assoc]
  rw [parts, declaredSub?]
  rcases splitName? name with - | ⟨head, rest⟩
  · simp
  · cases known : document.declared? head <;> simp [known]

theorem declaredSub?_eq_none_iff : document.declaredSub? name = none ↔ ¬document.Dotted name := by
  rw [← declaredSub?_isSome_iff, Option.not_isSome_iff_eq_none]

-- ---------------------------------------------------------------------------
-- What is found
-- ---------------------------------------------------------------------------

/-- The type that members of a name have. -/
def type? (document : Document) (name : String) : Option FieldType :=
  ((document.declared? name).or (document.template? name)).map (·.type)

theorem type?_isSome_iff : (document.type? name).isSome ↔ document.Declares name ∨ document.Matches name := by
  simp [type?, ← declared?_isSome_iff, ← template?_isSome_iff]

theorem field_eq (plain : document.Declares name ∨ ¬document.Dotted name) :
    document.field name = match document.declared? name with
      | some field => .ok field
      | none => match document.template? name with
        | some template => .ok ((Field.typed name template.type).attachedTo document.docType)
        | none => if document.dynamic then .ok ((Field.new name).attachedTo document.docType)
          else .error (.unknownField document.docType name) := by
  unfold field
  cases declared : document.declared? name with
  | some field => simp
  | none =>
    have undotted := declaredSub?_eq_none_iff.mpr (plain.resolve_left (declared?_eq_none_iff.mp declared))
    cases matched : document.template? name <;> simp [undotted]

theorem field_of_type? {type : FieldType} (plain : document.Declares name ∨ ¬document.Dotted name)
    (found : document.type? name = some type) :
    ∃ field, document.field name = .ok field ∧ field.type = type := by
  rw [field_eq plain]
  unfold type? at found
  cases declared : document.declared? name with
  | some field => simpa [declared] using found
  | none =>
    cases matched : document.template? name with
    | some template => simpa [declared, matched, Field.typed, Field.attachedTo] using found
    | none => simp [declared, matched] at found

theorem field_of_type?_eq_none (plain : document.Declares name ∨ ¬document.Dotted name)
    (unfound : document.type? name = none) :
    document.field name = if document.dynamic then .ok ((Field.new name).attachedTo document.docType)
      else .error (.unknownField document.docType name) := by
  simp only [type?, Option.map_eq_none_iff, Option.or_eq_none_iff] at unfound
  rw [field_eq plain, unfound.1, unfound.2]

-- ---------------------------------------------------------------------------
-- What is accepted
-- ---------------------------------------------------------------------------

theorem validateDeclared_eq (fields : List Field) (name : String) (value : Json) :
    validateDeclared fields name value = (fields.find? (·.name == name)).map (·.type.validate value) := by
  induction fields with
  | nil => simp [validateDeclared]
  | cons field rest ih =>
    obtain ⟨fieldName, _, _, type, _, _⟩ := field
    simp only [validateDeclared, List.find?_cons, ih]
    cases fieldName == name <;> simp

theorem validateMatching_eq (templates : List Field) (name : String) (value : Json) :
    validateMatching templates name value =
      (templates.find? (Glob.isMatch ·.name name)).map (·.type.validate value) := by
  induction templates with
  | nil => simp [validateMatching]
  | cons template rest ih =>
    obtain ⟨pattern, _, _, type, _, _⟩ := template
    simp only [validateMatching, List.find?_cons, ih]
    cases Glob.isMatch pattern name <;> simp

def validateMember (document : Document) (name : String) (value : Json) : Result Unit :=
  Except.mapError (Error.inMember document.docType name) (match document.type? name with
    | some type => type.validate value
    | none => if document.dynamic then .ok () else .error (.unknownField document.docType name))

theorem validate_object (members : List (String × Json)) :
    document.validate (.object members) =
      members.forM fun entry => document.validateMember entry.1 entry.2 := by
  obtain ⟨docType, dynamic, options, metaFields, fields, templates⟩ := document
  rw [validate, validateMembers]
  congr 1
  funext ⟨name, value⟩
  simp only [validateMember, type?, declared?, template?, validateDeclared_eq, validateMatching_eq]
  cases fields.find? (·.name == name) with
  | some field => simp
  | none => cases templates.find? (Glob.isMatch ·.name name) <;> simp

theorem validate_single (value : Json) :
    document.validate (.single name value) = document.validateMember name value := by
  rw [Json.single, validate_object]
  change document.validateMember name value >>= (fun _ => .ok ()) = _
  cases document.validateMember name value <;> rfl

theorem validate_object_eq_ok_iff {members : List (String × Json)} :
    document.validate (.object members) = .ok () ↔
      ∀ entry ∈ members, document.validate (.single entry.1 entry.2) = .ok () := by
  simp only [validate_object, Result.forM_eq_ok_iff, validate_single]

theorem validate_single_of_type? {type : FieldType} (found : document.type? name = some type) (value : Json) :
    document.validate (.single name value) = .ok () ↔ type.validate value = .ok () := by
  rw [validate_single, validateMember, found, Result.mapError_eq_ok_iff]

theorem validate_single_of_type?_eq_none (unfound : document.type? name = none) (value : Json) :
    document.validate (.single name value) =
      if document.dynamic then .ok () else .error (.unknownField document.docType name) := by
  rw [validate_single, validateMember, unfound]
  cases document.dynamic <;> rfl

theorem lookup_error_iff (plain : document.Declares name ∨ ¬document.Dotted name) (error : Error) :
    document.field name = .error error ↔ document.validate (.single name .null) = .error error := by
  cases found : document.type? name with
  | some type =>
    obtain ⟨field, looked, -⟩ := field_of_type? plain found
    have accepted : document.validate (.single name .null) = .ok () :=
      (validate_single_of_type? found .null).mpr type.validate_null
    simp [looked, accepted]
  | none =>
    rw [field_of_type?_eq_none plain found, validate_single_of_type?_eq_none found]
    cases document.dynamic <;> simp

theorem error_of_lookup {error : Error} (plain : document.Declares name ∨ ¬document.Dotted name)
    (fails : document.field name = .error error) : error = .unknownField document.docType name := by
  cases found : document.type? name with
  | some type =>
    obtain ⟨field, looked, -⟩ := field_of_type? plain found
    simp [looked] at fails
  | none =>
    rw [field_of_type?_eq_none plain found] at fails
    split at fails <;> simp_all

end Document

-- ---------------------------------------------------------------------------
-- Agreement
-- ---------------------------------------------------------------------------

/-- Outside the names below a declared field, a name is unknown to look-up
exactly if it is unknown to validation, with the same error. A member that is
declared or that a template matches is accepted exactly by the type that is
found for it, and any other member is accepted where the document is dynamic.
An object is accepted exactly if each of its members is accepted alone. -/
theorem lookup_agrees_with_validation (document : Document) :
    (∀ name, document.Declares name ∨ ¬document.Dotted name →
      (∀ error, document.field name = .error error ↔ document.validate (.single name .null) = .error error) ∧
      (∀ error, document.field name = .error error → error = .unknownField document.docType name) ∧
      (document.Declares name ∨ document.Matches name → ∃ field, document.field name = .ok field ∧
        ∀ value, document.validate (.single name value) = .ok () ↔ field.type.validate value = .ok ()) ∧
      (¬(document.Declares name ∨ document.Matches name) → document.dynamic = true →
        ∀ value, document.validate (.single name value) = .ok ())) ∧
    (∀ members, document.validate (.object members) = .ok () ↔
      ∀ entry ∈ members, document.validate (.single entry.1 entry.2) = .ok ()) ∧
    (∀ members others, members.Perm others →
      (document.validate (.object members) = .ok () ↔ document.validate (.object others) = .ok ())) ∧
    ∀ members others, document.validate (.object members) = .ok () → others ⊆ members →
      document.validate (.object others) = .ok () := by
  refine ⟨fun name plain => ⟨Document.lookup_error_iff plain, fun error => Document.error_of_lookup plain, ?_, ?_⟩,
    fun members => Document.validate_object_eq_ok_iff, ?_, ?_⟩
  · intro known
    obtain ⟨type, found⟩ := Option.isSome_iff_exists.mp (Document.type?_isSome_iff.mpr known)
    obtain ⟨field, looked, rfl⟩ := Document.field_of_type? plain found
    exact ⟨field, looked, Document.validate_single_of_type? found⟩
  · intro unknown dynamic value
    rw [← Document.type?_isSome_iff, Option.not_isSome_iff_eq_none] at unknown
    rw [Document.validate_single_of_type?_eq_none unknown, if_pos dynamic]
  · intro members others perm
    simp only [Document.validate_object_eq_ok_iff, perm.mem_iff]
  · intro members others accepted subset
    rw [Document.validate_object_eq_ok_iff] at accepted ⊢
    exact fun entry mem => accepted entry (subset mem)

/-- A declared name that a template of another type matches too, one that only
the template matches, and one that nothing knows of. -/
theorem lookup_agrees_with_validation_overlap :
    let strict : Document := ⟨"post", false, [], [], [.typed "title" .text], [.typed "t*" .long]⟩
    let loose : Document := { strict with dynamic := true }
    (∃ field, strict.field "title" = .ok field ∧
      (strict.validate (.single "title" (.int 1)) = .ok () ↔ field.type.validate (.int 1) = .ok ())) ∧
    (∃ field, strict.field "tags" = .ok field ∧
      (strict.validate (.single "tags" (.int 1)) = .ok () ↔ field.type.validate (.int 1) = .ok ())) ∧
    strict.validate (.single "author" .null) = .error (.unknownField "post" "author") ∧
    loose.validate (.single "author" (.int 1)) = .ok () ∧
    strict.validate (.object [("tags", .int 1), ("title", .null)]) = .ok () ∧
    strict.validate (.single "tags" (.int 1)) = .ok () := by
  intro strict loose
  have declared : strict.Declares "title" := ⟨_, List.mem_cons_self, rfl⟩
  have undotted (document : Document) {name : String} (pointless : '.' ∉ name.toList) : ¬document.Dotted name := by
    rintro ⟨head, rest, rfl, -⟩
    simp at pointless
  have matched : strict.Matches "tags" := ⟨_, List.mem_cons_self, by decide⟩
  have unknown : ¬(loose.Declares "author" ∨ loose.Matches "author") := by
    rintro (⟨field, mem, named⟩ | ⟨template, mem, matched⟩)
    · cases List.mem_singleton.mp mem
      exact absurd named (by decide)
    · cases List.mem_singleton.mp mem
      exact absurd matched (by decide)
  obtain ⟨names, -, reordered, smaller⟩ := lookup_agrees_with_validation strict
  obtain ⟨looseNames, -⟩ := lookup_agrees_with_validation loose
  obtain ⟨title, foundTitle, takesTitle⟩ := (names "title" (.inl declared)).2.2.1 (.inl declared)
  obtain ⟨tags, foundTags, takesTags⟩ := (names "tags" (.inr (undotted _ (by decide)))).2.2.1 (.inr matched)
  refine ⟨⟨title, foundTitle, takesTitle _⟩, ⟨tags, foundTags, takesTags _⟩, ?_, ?_, ?_, ?_⟩
  · exact ((names "author" (.inr (undotted _ (by decide)))).1 _).mp rfl
  · exact (looseNames "author" (.inr (undotted _ (by decide)))).2.2.2 unknown rfl _
  · exact (reordered [("title", .null), ("tags", .int 1)] _ (.swap _ _ _)).mp rfl
  · exact smaller [("title", .null), ("tags", .int 1)] [("tags", .int 1)] rfl (by simp)

end SearchWire
