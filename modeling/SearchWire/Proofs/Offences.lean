import SearchWire.Proofs.Positions

/-!
# First offences

A source is judged in the order of its keys and items, and each of them with all
that lies below it before the next. What is reported is the first offence: a value
that the innermost type refuses, behind the documents and keys that lead to it, or
a key that a strict document has no field for, by itself.
-/

namespace SearchWire

-- ---------------------------------------------------------------------------
-- Offences
-- ---------------------------------------------------------------------------

inductive Offence where
  | refused (type : FieldType) (value : Json)
  | unknown (docType name : String)

/-- The documents on the way to an offence, each with the key that is followed,
the outermost first. -/
abbrev Trail := List (String × String)

def Trail.text : Trail → String
  | [] => ""
  | (docType, name) :: rest => docType ++ "." ++ name ++ ": " ++ text rest

/-- How an offence is reported at the end of a trail. -/
def Offence.error (offence : Offence) (trail : Trail) : Error :=
  match offence with
  | .refused type value =>
    .validation (trail.text ++ type.wireName ++ " field does not accept value " ++ value.text)
  | .unknown docType name => .unknownField docType name

theorem Offence.error_cons (docType name : String) (trail : Trail) (offence : Offence) :
    offence.error ((docType, name) :: trail) = (offence.error trail).inMember docType name := by
  cases offence with
  | refused type value => simp [error, Error.inMember, Trail.text, String.append_assoc]
  | unknown docType name => rfl

namespace FieldType

/-- The offence stands in a value of the type, at a position that counts the
members and items on the way to it and at the end of a trail. -/
inductive Offends (offence : Offence) : FieldType → Json → List Nat → Trail → Prop
  | plain {type : FieldType} {value : Json} (plain : type.isPlain = true) (present : value ≠ .null)
    (refused : type.acceptsPlain value = false) (same : offence = .refused type value) :
    Offends offence type value [] []
  | noObject {type : FieldType} {document : Document} {value : Json} (held : type.schema? = some document)
    (present : value ≠ .null) (refused : ∀ members, value ≠ .object members) (same : offence = .refused type value) :
    Offends offence type value [] []
  | unknown {type : FieldType} {document : Document} {members : List (String × Json)} {i : Nat} {name : String}
    {value : Json} (held : type.schema? = some document) (here : members[i]? = some (name, value))
    (undeclared : document.type? name = none) (strict : document.dynamic = false)
    (same : offence = .unknown document.docType name) :
    Offends offence type (.object members) [i] [(document.docType, name)]
  | member {type inner : FieldType} {document : Document} {members : List (String × Json)} {i : Nat}
    {name : String} {value : Json} {position : List Nat} {trail : Trail} (held : type.schema? = some document)
    (here : members[i]? = some (name, value)) (declared : document.type? name = some inner)
    (below : Offends offence inner value position trail) :
    Offends offence type (.object members) (i :: position) ((document.docType, name) :: trail)
  | item {element : FieldType} {items : List Json} {i : Nat} {item : Json} {position : List Nat} {trail : Trail}
    (here : items[i]? = some item) (below : Offends offence element item position trail) :
    Offends offence (.list element) (.array items) (i :: position) trail
  | single {element : FieldType} {value : Json} {position : List Nat} {trail : Trail}
    (single : ∀ items, value ≠ .array items) (same : Offends offence element value position trail) :
    Offends offence (.list element) value position trail

end FieldType

/-- Positions are compared number by number, so that what lies below a member or an
item comes before the next one. -/
def AtOrBefore : List Nat → List Nat → Prop
  | [], _ => True
  | _ :: _, [] => False
  | i :: rest, j :: rest' => i < j ∨ i = j ∧ AtOrBefore rest rest'

theorem AtOrBefore.antisymm {position position' : List Nat} (before : AtOrBefore position position')
    (before' : AtOrBefore position' position) : position = position' := by
  induction position generalizing position' with
  | nil =>
    cases position' with
    | nil => rfl
    | cons => cases before'
  | cons i rest ih =>
    cases position' with
    | nil => cases before
    | cons j rest' =>
      rcases before with less | ⟨rfl, before⟩
      · rcases before' with less' | ⟨rfl, -⟩
        · exact absurd less' (Nat.lt_asymm less)
        · exact absurd less (Nat.lt_irrefl _)
      · rw [ih before (before'.resolve_left (Nat.lt_irrefl _)).2]

/-- No other offence stands before it. -/
def Document.FirstOffence (document : Document) (members : List (String × Json)) (position : List Nat)
    (trail : Trail) (offence : Offence) : Prop :=
  FieldType.Offends offence (.object document) (.object members) position trail ∧
    ∀ other position' trail', FieldType.Offends other (.object document) (.object members) position' trail' →
      AtOrBefore position position'

-- ---------------------------------------------------------------------------
-- Outcomes
-- ---------------------------------------------------------------------------

/-- Nothing offends and all passes, or the first offence is reported. -/
inductive Outcome (offends : Offence → List Nat → Trail → Prop) : Result Unit → Prop
  | passes (none : ∀ offence position trail, ¬offends offence position trail) : Outcome offends (.ok ())
  | fails {offence : Offence} {position : List Nat} {trail : Trail} (here : offends offence position trail)
    (first : ∀ other position' trail', offends other position' trail' → AtOrBefore position position') :
    Outcome offends (.error (offence.error trail))

theorem Result.forM_eq_error_iff {α : Type} {check : α → Result Unit} {items : List α} {error : Error} :
    items.forM check = .error error ↔ ∃ before item after, items = before ++ item :: after ∧
      (∀ passed ∈ before, check passed = .ok ()) ∧ check item = .error error := by
  induction items with
  | nil => simp [List.forM]
  | cons head rest ih =>
    simp only [List.forM, List.cons_eq_append_iff]
    cases checked : check head with
    | error reason =>
      constructor
      · rintro ⟨⟩
        exact ⟨[], head, rest, .inl ⟨rfl, rfl⟩, List.forall_mem_nil _, checked⟩
      · rintro ⟨before, item, after, ⟨rfl, same⟩ | ⟨others, rfl, -⟩, passed, fails⟩
        · cases same
          exact checked.symm.trans fails
        · cases checked.symm.trans (passed head List.mem_cons_self)
    | ok _ =>
      rw [Result.ok_bind, ih]
      constructor
      · rintro ⟨before, item, after, rfl, passed, fails⟩
        exact ⟨head :: before, item, after, .inr ⟨before, rfl, rfl⟩, List.forall_mem_cons.mpr ⟨checked, passed⟩, fails⟩
      · rintro ⟨before, item, after, ⟨rfl, same⟩ | ⟨others, rfl, rfl⟩, passed, fails⟩
        · cases same
          cases checked.symm.trans fails
        · exact ⟨others, item, after, rfl, (List.forall_mem_cons.mp passed).2, fails⟩

namespace Outcome

variable {offends : Offence → List Nat → Trail → Prop} {result : Result Unit}

theorem congr {offends' : Offence → List Nat → Trail → Prop}
    (same : ∀ offence position trail, offends' offence position trail ↔ offends offence position trail)
    (outcome : Outcome offends result) : Outcome offends' result := by
  cases outcome with
  | passes none => exact .passes fun offence position trail => mt (same ..).mp (none _ _ _)
  | fails here first =>
    exact .fails ((same ..).mpr here) fun other position' trail' there => first _ _ _ ((same ..).mp there)

theorem of_value {type : FieldType} {value : Json} :
    Outcome (fun offence position trail => position = [] ∧ trail = [] ∧ offence = .refused type value)
      (.error (type.mismatch value)) := by
  have here : Outcome (fun offence position trail => position = [] ∧ trail = [] ∧ offence = .refused type value)
      (.error ((Offence.refused type value).error [])) :=
    .fails ⟨rfl, rfl, rfl⟩ fun _ _ _ _ => trivial
  simpa [Offence.error, Trail.text, FieldType.mismatch] using here

theorem inMember (outcome : Outcome offends result) (docType name : String) :
    Outcome (fun offence position trail => ∃ rest, trail = (docType, name) :: rest ∧ offends offence position rest)
      (Except.mapError (Error.inMember docType name) result) := by
  cases outcome with
  | passes none =>
    refine .passes ?_
    rintro offence position trail ⟨rest, -, there⟩
    exact none _ _ _ there
  | fails here first =>
    rw [Except.mapError, ← Offence.error_cons]
    refine .fails ⟨_, rfl, here⟩ ?_
    rintro other position' trail' ⟨rest, -, there⟩
    exact first _ _ _ there

theorem forM {α : Type} {check : α → Result Unit} {offends : α → Offence → List Nat → Trail → Prop}
    {items : List α} (each : ∀ item ∈ items, Outcome (offends item) (check item)) :
    Outcome (fun offence position trail => ∃ i item rest, position = i :: rest ∧ items[i]? = some item ∧
      offends item offence rest trail) (items.forM check) := by
  have none_of_ok {item : α} (mem : item ∈ items) (passed : check item = .ok ()) (offence : Offence)
      (position : List Nat) (trail : Trail) : ¬offends item offence position trail := by
    have outcome := each item mem
    rw [passed] at outcome
    cases outcome with
    | passes none => exact none _ _ _
  cases judged : items.forM check with
  | ok _ =>
    refine .passes ?_
    rintro offence position trail ⟨i, item, rest, -, here, there⟩
    have mem := List.mem_of_getElem? here
    exact none_of_ok mem (Result.forM_eq_ok_iff.mp judged item mem) _ _ _ there
  | error error =>
    obtain ⟨before, item, after, rfl, passed, fails⟩ := Result.forM_eq_error_iff.mp judged
    have outcome := each item (by simp)
    rw [fails] at outcome
    cases outcome with
    | fails here first =>
      refine .fails ⟨before.length, item, _, rfl, by simp, here⟩ ?_
      rintro other position' trail' ⟨i, item', rest, rfl, here', there⟩
      rcases Nat.lt_trichotomy i before.length with earlier | same | later
      · -- All that stands before the item has passed.
        rw [List.getElem?_append_left earlier] at here'
        have mem := List.mem_of_getElem? here'
        exact absurd there (none_of_ok (List.mem_append_left _ mem) (passed item' mem) _ _ _)
      · subst same
        obtain rfl : item = item' := by simpa using here'
        exact .inr ⟨rfl, first _ _ _ there⟩
      · exact .inl later

end Outcome

-- ---------------------------------------------------------------------------
-- Offences by kinds of types
-- ---------------------------------------------------------------------------

namespace FieldType

variable {type element : FieldType} {document : Document} {value : Json} {offence : Offence} {position : List Nat}
  {trail : Trail}

theorem schema?_of_isPlain (plain : type.isPlain = true) : type.schema? = none := by
  cases type <;> simp_all [isPlain, schema?]

theorem not_offends_null : ¬Offends offence type .null position trail := by
  intro offends
  generalize absent : Json.null = value at offends
  induction offends with
  | plain _ present => exact present absent.symm
  | noObject _ present => exact present absent.symm
  | single _ _ ih => exact ih absent
  | _ => cases absent

theorem offends_plain_iff (plain : type.isPlain = true) (present : value ≠ .null) :
    Offends offence type value position trail ↔
      type.acceptsPlain value = false ∧ position = [] ∧ trail = [] ∧ offence = .refused type value := by
  constructor
  · intro offends
    cases offends with
    | plain _ _ refused same => exact ⟨refused, rfl, rfl, same⟩
    | noObject held | unknown held | member held => cases (schema?_of_isPlain plain).symm.trans held
    | item | single => cases plain
  · rintro ⟨refused, rfl, rfl, same⟩
    exact .plain plain present refused same

theorem offends_noObject_iff (held : type.schema? = some document) (present : value ≠ .null)
    (refused : ∀ members, value ≠ .object members) :
    Offends offence type value position trail ↔ position = [] ∧ trail = [] ∧ offence = .refused type value := by
  constructor
  · intro offends
    cases offends with
    | plain plain => cases (schema?_of_isPlain plain).symm.trans held
    | noObject _ _ _ same => exact ⟨rfl, rfl, same⟩
    | unknown | member => exact absurd rfl (refused _)
    | item | single => cases held
  · rintro ⟨rfl, rfl, same⟩
    exact .noObject held present refused same

def OffendsAt (document : Document) (entry : String × Json) (offence : Offence) (position : List Nat)
    (trail : Trail) : Prop :=
  match document.type? entry.1 with
  | some inner => Offends offence inner entry.2 position trail
  | none => document.dynamic = false ∧ position = [] ∧ trail = [] ∧ offence = .unknown document.docType entry.1

theorem offends_object_iff (held : type.schema? = some document) {members : List (String × Json)} :
    Offends offence type (.object members) position trail ↔
      ∃ i entry rest, position = i :: rest ∧ members[i]? = some entry ∧
        ∃ later, trail = (document.docType, entry.1) :: later ∧ OffendsAt document entry offence rest later := by
  constructor
  · intro offends
    cases offends with
    | plain plain => cases (schema?_of_isPlain plain).symm.trans held
    | noObject _ _ refused => exact absurd rfl (refused members)
    | unknown held' here undeclared strict same =>
      cases held.symm.trans held'
      exact ⟨_, _, [], rfl, here, [], rfl, by simp [OffendsAt, undeclared, strict, same]⟩
    | member held' here declared below =>
      cases held.symm.trans held'
      exact ⟨_, _, _, rfl, here, _, rfl, by simpa [OffendsAt, declared] using below⟩
    | single => cases held
  · rintro ⟨i, ⟨name, value⟩, rest, rfl, here, later, rfl, below⟩
    cases declared : document.type? name with
    | some inner => exact .member held here declared (by simpa [OffendsAt, declared] using below)
    | none =>
      obtain ⟨strict, rfl, rfl, same⟩ : document.dynamic = false ∧ rest = [] ∧ later = [] ∧
        offence = .unknown document.docType name := by simpa [OffendsAt, declared] using below
      exact .unknown held here declared strict same

theorem offends_array_iff {items : List Json} :
    Offends offence (.list element) (.array items) position trail ↔
      ∃ i item rest, position = i :: rest ∧ items[i]? = some item ∧ Offends offence element item rest trail := by
  constructor
  · intro offends
    cases offends with
    | plain plain => cases plain
    | noObject held => cases held
    | item here below => exact ⟨_, _, _, rfl, here, below⟩
    | single single => exact absurd rfl (single items)
  · rintro ⟨i, item, rest, rfl, here, below⟩
    exact .item here below

theorem offends_single_iff (single : ∀ items, value ≠ .array items) :
    Offends offence (.list element) value position trail ↔ Offends offence element value position trail := by
  constructor
  · intro offends
    cases offends with
    | plain plain => cases plain
    | noObject held | unknown held | member held => cases held
    | item => exact absurd rfl (single _)
    | single _ same => exact same
  · exact .single single

theorem Offends.unique {offence' : Offence} {trail' : Trail} (offends : Offends offence type value position trail)
    (other : Offends offence' type value position trail') : offence = offence' ∧ trail = trail' := by
  induction offends generalizing trail' with
  | plain plain present _ same =>
    obtain ⟨-, -, rfl, same'⟩ := (offends_plain_iff plain present).mp other
    exact ⟨same.trans same'.symm, rfl⟩
  | noObject held present refused same =>
    obtain ⟨-, rfl, same'⟩ := (offends_noObject_iff held present refused).mp other
    exact ⟨same.trans same'.symm, rfl⟩
  | unknown held here undeclared _ same =>
    obtain ⟨i, entry, rest, ⟨⟩, here', later, rfl, below⟩ := (offends_object_iff held).mp other
    cases here.symm.trans here'
    simp only [OffendsAt, undeclared] at below
    obtain ⟨-, -, rfl, same'⟩ := below
    exact ⟨same.trans same'.symm, rfl⟩
  | member held here declared _ ih =>
    obtain ⟨i, entry, rest, ⟨⟩, here', later, rfl, below⟩ := (offends_object_iff held).mp other
    cases here.symm.trans here'
    simp only [OffendsAt, declared] at below
    obtain ⟨same, rfl⟩ := ih below
    exact ⟨same, rfl⟩
  | item here _ ih =>
    obtain ⟨i, item, rest, ⟨⟩, here', below⟩ := offends_array_iff.mp other
    cases here.symm.trans here'
    exact ih below
  | single single _ ih => exact ih ((offends_single_iff single).mp other)

-- ---------------------------------------------------------------------------
-- Validation
-- ---------------------------------------------------------------------------

theorem validate_object_of_schema? (held : type.schema? = some document) (members : List (String × Json)) :
    type.validate (.object members) = document.validate (.object members) := by
  cases type with
  | object | nested =>
    obtain rfl := Option.some.inj held
    simp [FieldType.validate, Document.validate]
  | _ => cases held

theorem validate_noObject (held : type.schema? = some document) (present : value ≠ .null)
    (refused : ∀ members, value ≠ .object members) : type.validate value = .error (type.mismatch value) := by
  cases type with
  | object | nested =>
    cases value with
    | null => exact absurd rfl present
    | object members => exact absurd rfl (refused members)
    | _ => simp [FieldType.validate]
  | _ => cases held

theorem outcome_member {entry : String × Json}
    (below : ∀ inner, document.type? entry.1 = some inner →
      Outcome (fun offence => Offends offence inner entry.2) (inner.validate entry.2)) :
    Outcome (fun offence position trail =>
        ∃ later, trail = (document.docType, entry.1) :: later ∧ OffendsAt document entry offence position later)
      (document.validateMember entry.1 entry.2) := by
  refine Outcome.inMember ?_ document.docType entry.1
  cases declared : document.type? entry.1 with
  | some inner => exact (below inner declared).congr fun _ _ _ => by simp [OffendsAt, declared]
  | none =>
    cases strict : document.dynamic with
    | true => exact .passes fun _ _ _ => by simp [OffendsAt, declared, strict]
    | false =>
      have here : OffendsAt document entry (.unknown document.docType entry.1) [] [] := by
        simp [OffendsAt, declared, strict]
      exact .fails here fun _ _ _ _ => trivial

theorem outcome (type : FieldType) (value : Json) :
    Outcome (fun offence => Offends offence type value) (type.validate value) := by
  by_cases absent : value = .null
  · rw [absent, validate_null]
    exact .passes fun _ _ _ => not_offends_null
  · rcases type.kinds with ⟨element, rfl⟩ | ⟨document, held⟩ | plain
    · obtain ⟨items, rfl⟩ | single := value.array_or_single
      · rw [validate_list_array]
        refine (Outcome.forM fun item mem => ?_).congr fun _ _ _ => offends_array_iff
        have := sizeOf_lt_of_item mem
        exact outcome element item
      · rw [validate_list_single single]
        exact (outcome element value).congr fun _ _ _ => offends_single_iff single
    · by_cases isObject : ∃ members, value = .object members
      · obtain ⟨members, rfl⟩ := isObject
        rw [validate_object_of_schema? held, Document.validate_object]
        refine (Outcome.forM fun entry mem => ?_).congr fun _ _ _ => offends_object_iff held
        refine outcome_member fun inner _ => ?_
        have := sizeOf_lt_of_member mem
        exact outcome inner entry.2
      · have refused : ∀ members, value ≠ .object members := fun members same => isObject ⟨members, same⟩
        rw [validate_noObject held absent refused]
        exact Outcome.of_value.congr fun _ _ _ => offends_noObject_iff held absent refused
    · rw [validate_plain plain absent]
      cases accepted : type.acceptsPlain value with
      | true => exact .passes fun _ _ _ => by simp [offends_plain_iff plain absent, accepted]
      | false => exact Outcome.of_value.congr fun _ _ _ => by simp [offends_plain_iff plain absent, accepted]
-- A single value below a list leaves the value and shrinks the type; items and members shrink the value.
termination_by (sizeOf value, sizeOf type)

end FieldType

-- ---------------------------------------------------------------------------
-- Sources
-- ---------------------------------------------------------------------------

/-- A source is accepted exactly if nothing in it offends. It is refused exactly
with the report of its first offence: the trail and the reason for a value that a
type refuses, the document and the key for a key that is not declared. There is one
first offence at most. -/
theorem first_offence_reported (document : Document) (members : List (String × Json)) :
    (document.validate (.object members) = .ok () ↔ ∀ offence position trail,
      ¬FieldType.Offends offence (.object document) (.object members) position trail) ∧
    (∀ error, document.validate (.object members) = .error error ↔ ∃ position trail offence,
      document.FirstOffence members position trail offence ∧ error = offence.error trail) ∧
    ∀ position trail offence position' trail' offence',
      document.FirstOffence members position trail offence →
      document.FirstOffence members position' trail' offence' →
        position = position' ∧ trail = trail' ∧ offence = offence' := by
  have unique {position position' : List Nat} {trail trail' : Trail} {offence offence' : Offence}
      (first : document.FirstOffence members position trail offence)
      (other : document.FirstOffence members position' trail' offence') :
      position = position' ∧ trail = trail' ∧ offence = offence' := by
    obtain rfl := (first.2 _ _ _ other.1).antisymm (other.2 _ _ _ first.1)
    obtain ⟨rfl, rfl⟩ := first.1.unique other.1
    exact ⟨rfl, rfl, rfl⟩
  have outcome := FieldType.outcome (.object document) (.object members)
  rw [FieldType.validate_object_of_schema? rfl] at outcome
  generalize document.validate (.object members) = result at outcome ⊢
  refine ⟨?_, ?_, fun _ _ _ _ _ _ => unique⟩
  · cases outcome with
    | passes none => exact iff_of_true rfl none
    | fails here _ => exact iff_of_false nofun fun none => none _ _ _ here
  · intro error
    cases outcome with
    | passes none =>
      refine iff_of_false nofun ?_
      rintro ⟨position, trail, offence, first, -⟩
      exact none _ _ _ first.1
    | fails here first =>
      have first : document.FirstOffence members _ _ _ := ⟨here, first⟩
      constructor
      · rintro ⟨⟩
        exact ⟨_, _, _, first, rfl⟩
      · rintro ⟨position, trail, offence, other, rfl⟩
        obtain ⟨-, rfl, rfl⟩ := unique first other
        rfl

/-- The age of the second author, behind an author without offence and before a
key that is not declared, and that key where it comes first. -/
theorem first_offence_reported_authors :
    let author : Document := ⟨"author", false, [], [], [.typed "age" .integer], []⟩
    let post : Document := ⟨"post", false, [], [], [.typed "title" .text, .typed "authors" (.list (.nested author))], []⟩
    let source (second : List (String × Json)) :=
      [("title", .null), ("authors", .array [.object [("age", .int 40)], .object second]), ("age", .null)]
    let aged := source [("age", .string "old"), ("name", .null)]
    let named := source [("name", .null), ("age", .string "old")]
    (∃ position trail offence, post.FirstOffence aged position trail offence ∧
      offence.error trail = .validation "post.authors: author.age: integer field does not accept value \"old\"" ∧
      ∀ position' trail' offence', post.FirstOffence aged position' trail' offence' → position' = position) ∧
    (∃ position trail offence, post.FirstOffence named position trail offence ∧
      offence.error trail = .unknownField "author" "name") ∧
    ∀ offence position trail,
      ¬FieldType.Offends offence (.object post) (.object [("title", .string "a")]) position trail := by
  intro author post source aged named
  obtain ⟨-, reported, unique⟩ := first_offence_reported post aged
  obtain ⟨position, trail, offence, first, text⟩ := (reported (.validation
    "post.authors: author.age: integer field does not accept value \"old\"")).mp rfl
  obtain ⟨position', trail', offence', first', text'⟩ :=
    ((first_offence_reported post named).2.1 (.unknownField "author" "name")).mp rfl
  have accepted := (first_offence_reported post [("title", .string "a")]).1.mp rfl
  refine ⟨⟨position, trail, offence, first, text.symm, fun _ _ _ other => ?_⟩,
    ⟨position', trail', offence', first', text'.symm⟩, accepted⟩
  exact (unique _ _ _ _ _ _ other first).1

end SearchWire
