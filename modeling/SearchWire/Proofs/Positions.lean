import SearchWire.Proofs.Acceptance

/-!
# Positions in values

A type declares a type at every position of a value: at the items of a list, at
the members of an object and, through both, at all that lies below them. A value
is accepted exactly if each of its positions admits what stands there, so that
what a validated value holds is known position by position.
-/

namespace SearchWire

namespace Document

def Knows (document : Document) (name : String) : Prop :=
  document.dynamic = true ∨ (document.type? name).isSome

theorem validate_object_eq_ok_iff_types {document : Document} {members : List (String × Json)} :
    document.validate (.object members) = .ok () ↔ ∀ entry ∈ members, document.Knows entry.1 ∧
      ∀ type, document.type? entry.1 = some type → type.validate entry.2 = .ok () := by
  rw [validate_object_eq_ok_iff]
  refine forall₂_congr fun entry _ => ?_
  cases found : document.type? entry.1 with
  | some type => simp [validate_single_of_type? found, Knows, found]
  | none => cases dynamic : document.dynamic <;> simp [validate_single_of_type?_eq_none found, Knows, found, dynamic]

end Document

namespace FieldType

/-- The part stands in a value of a type where `declared` is declared. -/
inductive Stands (declared : FieldType) (part : Json) : FieldType → Json → Prop
  | here : Stands declared part declared part
  | item {element : FieldType} {items : List Json} {item : Json} :
    item ∈ items → Stands declared part element item → Stands declared part (.list element) (.array items)
  | single {element : FieldType} {value : Json} :
    (∀ items, value ≠ .array items) → Stands declared part element value →
      Stands declared part (.list element) value
  | member {outer inner : FieldType} {document : Document} {members : List (String × Json)} {name : String}
    {value : Json} :
    outer.schema? = some document → (name, value) ∈ members → document.type? name = some inner →
      Stands declared part inner value → Stands declared part outer (.object members)

/-- What a type asks of a value itself, whatever its items are and its members hold. -/
def Admits (type : FieldType) (value : Json) : Prop :=
  value = .null ∨ match type with
    | .list _ => True
    | .object document => ∃ members, value = .object members ∧ ∀ entry ∈ members, document.Knows entry.1
    | .nested document => ∃ members, value = .object members ∧ ∀ entry ∈ members, document.Knows entry.1
    | plain => plain.acceptsPlain value = true

variable {type declared : FieldType} {value part : Json}

theorem admits_plain_iff (plain : type.isPlain = true) (present : value ≠ .null) :
    type.Admits value ↔ type.acceptsPlain value = true := by
  cases type with
  | object | nested | list => simp [isPlain] at plain
  | _ => simp [Admits, present]

theorem admits_iff_of_schema? {document : Document} (held : type.schema? = some document) (present : value ≠ .null) :
    type.Admits value ↔ ∃ members, value = .object members ∧ ∀ entry ∈ members, document.Knows entry.1 := by
  cases type with
  | object | nested =>
    obtain rfl := Option.some.inj held
    simp [Admits, present]
  | _ => cases held

theorem admits_of_validate (accepted : type.validate value = .ok ()) : type.Admits value := by
  by_cases absent : value = .null
  · exact .inl absent
  · rcases type.kinds with ⟨element, rfl⟩ | ⟨document, held⟩ | plain
    · exact .inr trivial
    · obtain ⟨members, same, accepted⟩ := (validate_eq_ok_iff_of_schema? held absent).mp accepted
      rw [Document.validate_object_eq_ok_iff_types] at accepted
      exact (admits_iff_of_schema? held absent).mpr ⟨members, same, fun entry mem => (accepted entry mem).1⟩
    · exact (admits_plain_iff plain absent).mpr ((validate_plain_eq_ok_iff plain absent).mp accepted)

theorem Stands.validate_eq_ok (stands : Stands declared part type value) (accepted : type.validate value = .ok ()) :
    declared.validate part = .ok () := by
  induction stands with
  | here => exact accepted
  | item mem _ ih => exact ih (validate_list_array_eq_ok_iff.mp accepted _ mem)
  | single single _ ih => exact ih (validate_list_single single ▸ accepted)
  | member held mem found _ ih =>
    obtain ⟨_, ⟨⟩, accepted⟩ := (validate_eq_ok_iff_of_schema? held (by nofun)).mp accepted
    exact ih ((Document.validate_object_eq_ok_iff_types.mp accepted _ mem).2 _ found)

theorem sizeOf_lt_of_item {items : List Json} {item : Json} (mem : item ∈ items) :
    sizeOf item < sizeOf (Json.array items) := by
  have smaller := List.sizeOf_lt_of_mem mem
  simp only [Json.array.sizeOf_spec]
  omega

theorem sizeOf_lt_of_member {members : List (String × Json)} {entry : String × Json} (mem : entry ∈ members) :
    sizeOf entry.2 < sizeOf (Json.object members) := by
  have smaller := List.sizeOf_lt_of_mem mem
  obtain ⟨name, value⟩ := entry
  simp only [Json.object.sizeOf_spec, Prod.mk.sizeOf_spec] at smaller ⊢
  omega

theorem validate_of_admits (type : FieldType) (value : Json)
    (admitted : ∀ declared part, Stands declared part type value → declared.Admits part) :
    type.validate value = .ok () := by
  by_cases absent : value = .null
  · rw [absent, validate_null]
  · rcases type.kinds with ⟨element, rfl⟩ | ⟨document, held⟩ | plain
    · obtain ⟨items, rfl⟩ | single := value.array_or_single
      · refine validate_list_array_eq_ok_iff.mpr fun item mem => ?_
        have := sizeOf_lt_of_item mem
        exact validate_of_admits element item fun _ _ stands => admitted _ _ (.item mem stands)
      · rw [validate_list_single single]
        exact validate_of_admits element value fun _ _ stands => admitted _ _ (.single single stands)
    · obtain ⟨members, rfl, known⟩ := (admits_iff_of_schema? held absent).mp (admitted _ _ .here)
      refine (validate_eq_ok_iff_of_schema? held absent).mpr ⟨members, rfl, ?_⟩
      refine Document.validate_object_eq_ok_iff_types.mpr fun entry mem => ⟨known entry mem, fun inner found => ?_⟩
      have := sizeOf_lt_of_member mem
      exact validate_of_admits inner entry.2 fun _ _ stands => admitted _ _ (.member held mem found stands)
    · exact (validate_plain_eq_ok_iff plain absent).mpr ((admits_plain_iff plain absent).mp (admitted _ _ .here))
-- A single value below a list leaves the value and shrinks the type; items and members shrink the value.
termination_by (sizeOf value, sizeOf type)

theorem validate_eq_ok_iff_admits : type.validate value = .ok () ↔
    ∀ declared part, Stands declared part type value → declared.Admits part :=
  ⟨fun accepted _ _ stands => admits_of_validate (stands.validate_eq_ok accepted), type.validate_of_admits value⟩

theorem integer_admits_iff {n : Int} : integer.Admits (.int n) ↔ -Int.pow 2 31 ≤ n ∧ n < Int.pow 2 31 := by
  rw [admits_plain_iff rfl (by nofun), acceptsPlain, Bool.and_eq_true, decide_eq_true_iff, decide_eq_true_iff]

theorem long_admits (n : Int) : long.Admits (.int n) := (admits_plain_iff rfl (by nofun)).mpr rfl

end FieldType

-- ---------------------------------------------------------------------------
-- Integers
-- ---------------------------------------------------------------------------

open FieldType (Stands)

/-- A value is accepted exactly if each of its positions admits what stands
there. An integer is admitted where an integer is declared exactly if it has 32
bits, so that all integers of an accepted value fit there; where a long is
declared any integer is admitted. -/
theorem accepted_integers_exact (type : FieldType) (value : Json) :
    (type.validate value = .ok () ↔ ∀ declared part, Stands declared part type value → declared.Admits part) ∧
    (∀ n, FieldType.integer.Admits (.int n) ↔ -Int.pow 2 31 ≤ n ∧ n < Int.pow 2 31) ∧
    (∀ n, FieldType.long.Admits (.int n)) ∧
    (type.validate value = .ok () → ∀ n, Stands .integer (.int n) type value →
      -Int.pow 2 31 ≤ n ∧ n < Int.pow 2 31) := by
  refine ⟨FieldType.validate_eq_ok_iff_admits, fun n => FieldType.integer_admits_iff, FieldType.long_admits, ?_⟩
  intro accepted n stands
  exact FieldType.integer_admits_iff.mp (FieldType.admits_of_validate (stands.validate_eq_ok accepted))

/-- A list of authors, with an age below a declared name and a count below one
that a template matches. -/
theorem accepted_integers_exact_authors :
    let author : Document := ⟨"author", false, [], [], [.typed "age" .integer], [.typed "n_*" .long]⟩
    let authors := FieldType.list (.object author)
    let value (age count : Int) := Json.array [.null, .object [("age", .int age), ("n_books", .int count)]]
    authors.validate (value 40 3) = .ok () ∧ -Int.pow 2 31 ≤ 40 ∧ 40 < Int.pow 2 31 ∧
      authors.validate (value 2147483648 3) ≠ .ok () := by
  intro author authors value
  have stands (age count : Int) : Stands .integer (.int age) authors (value age count) :=
    .item (List.mem_cons_of_mem _ List.mem_cons_self) (.member rfl List.mem_cons_self rfl .here)
  have accepted : authors.validate (value 40 3) = .ok () := rfl
  obtain ⟨lower, upper⟩ := (accepted_integers_exact authors (value 40 3)).2.2.2 accepted 40 (stands 40 3)
  refine ⟨accepted, lower, upper, fun wide => ?_⟩
  have fits := (accepted_integers_exact authors (value 2147483648 3)).2.2.2 wide _ (stands 2147483648 3)
  exact absurd fits.2 (by decide)

/-- An integer of more than 64 signed bits is accepted where a long is declared. -/
theorem long_accepts_unsigned : FieldType.long.validate (.int 9223372036854775808) = .ok () ∧
    Stands .long (.int 9223372036854775808) .long (.int 9223372036854775808) ∧
    ¬9223372036854775808 < Int.pow 2 63 := ⟨rfl, .here, by decide⟩

end SearchWire
