import SearchWire.Proofs.Resolution

/-!
# What types accept

Acceptance of a value taken apart: an array under a list by its items, any other
value under a list as if the list were not there, an object by its members. A
list takes whatever its elements may be, save where a point is written as a pair
of numbers: the list takes the pair for its own items.
-/

namespace SearchWire

theorem Result.forM_outcome {α : Type} {check : α → Result Unit} {fails : α → Bool} {blames : Error → Prop}
    {items : List α}
    (each : ∀ item ∈ items, (fails item = false ∧ check item = .ok ()) ∨
      fails item = true ∧ ∃ error, check item = .error error ∧ blames error) :
    (items.any fails = false ∧ items.forM check = .ok ()) ∨
      items.any fails = true ∧ ∃ error, items.forM check = .error error ∧ blames error := by
  induction items with
  | nil => exact .inl ⟨rfl, rfl⟩
  | cons item rest ih =>
    obtain ⟨head, rest⟩ := List.forall_mem_cons.mp each
    rw [List.any_cons, List.forM]
    obtain ⟨passes, checked⟩ | ⟨fails, error, checked, blamed⟩ := head
    · rw [passes, checked, Bool.false_or, Result.ok_bind]
      exact ih rest
    · rw [fails, checked, Bool.true_or, Result.error_bind]
      exact .inr ⟨rfl, error, rfl, blamed⟩

theorem Json.array_or_single (value : Json) :
    (∃ items, value = .array items) ∨ ∀ items, value ≠ .array items := by
  cases value <;> simp

namespace FieldType

variable {element : FieldType}

-- ---------------------------------------------------------------------------
-- Lists and objects
-- ---------------------------------------------------------------------------

theorem validate_list_array (items : List Json) :
    (list element).validate (.array items) = items.forM fun item => element.validate item := by
  rw [FieldType.validate]

theorem validate_list_array_eq_ok_iff {items : List Json} :
    (list element).validate (.array items) = .ok () ↔ ∀ item ∈ items, element.validate item = .ok () := by
  rw [validate_list_array, Result.forM_eq_ok_iff]

theorem validate_list_single {value : Json} (single : ∀ items, value ≠ .array items) :
    (list element).validate value = element.validate value := by
  cases value with
  | null => rw [validate_null, validate_null]
  | array items => exact absurd rfl (single items)
  | _ => rfl

def schema? : FieldType → Option Document
  | .object document => some document
  | .nested document => some document
  | _ => none

theorem validate_eq_ok_iff_of_schema? {type : FieldType} {document : Document} {value : Json}
    (held : type.schema? = some document) (present : value ≠ .null) :
    type.validate value = .ok () ↔
      ∃ members, value = .object members ∧ document.validate (.object members) = .ok () := by
  cases type with
  | object | nested =>
    obtain rfl := Option.some.inj held
    cases value with
    | null => exact absurd rfl present
    | object members => simp [FieldType.validate, Document.validate]
    | _ => simp [FieldType.validate]
  | _ => cases held

-- ---------------------------------------------------------------------------
-- Plain types
-- ---------------------------------------------------------------------------

def isPlain : FieldType → Bool
  | .object _ => false
  | .nested _ => false
  | .list _ => false
  | _ => true

theorem kinds (type : FieldType) :
    (∃ element, type = .list element) ∨ (∃ document, type.schema? = some document) ∨ type.isPlain = true := by
  cases type <;> simp [schema?, isPlain]

theorem validate_plain {type : FieldType} {value : Json} (plain : type.isPlain = true) (present : value ≠ .null) :
    type.validate value = if type.acceptsPlain value then .ok () else .error (type.mismatch value) := by
  cases type with
  | object | nested | list => cases plain
  | _ =>
    cases value with
    | null => exact absurd rfl present
    | _ => rfl

theorem validate_plain_eq_ok_iff {type : FieldType} {value : Json} (plain : type.isPlain = true)
    (present : value ≠ .null) : type.validate value = .ok () ↔ type.acceptsPlain value = true := by
  rw [validate_plain plain present]
  split <;> simp_all

-- ---------------------------------------------------------------------------
-- Points as pairs
-- ---------------------------------------------------------------------------

/-- A point is written as a pair of numbers below as many arrays as the type
has lists. -/
def readsPair : FieldType → Json → Bool
  | .geoPoint, .array [a, b] => a.isNumber && b.isNumber
  | .list element, .array items => items.any fun item => element.readsPair item
  | _, _ => false

def RejectsNumber (error : Error) : Prop :=
  ∃ number : Json, number.isNumber = true ∧ error = mismatch .geoPoint number

theorem validate_geoPoint_number {number : Json} (isNumber : number.isNumber = true) :
    geoPoint.validate number = .error (mismatch .geoPoint number) := by
  cases number with
  | int n => rfl
  | float x => rfl
  | _ => simp [Json.isNumber] at isNumber

theorem acceptsGeoPoint_array_iff {items : List Json} : acceptsGeoPoint (.array items) = true ↔
    ∃ a b, items = [a, b] ∧ a.isNumber = true ∧ b.isNumber = true := by
  constructor
  · intro accepted
    rcases items with - | ⟨a, - | ⟨b, - | ⟨c, rest⟩⟩⟩
    · cases accepted
    · cases accepted
    · exact ⟨a, b, rfl, by simpa [acceptsGeoPoint] using accepted⟩
    · cases accepted
  · rintro ⟨a, b, rfl, first, second⟩
    simp [acceptsGeoPoint, first, second]

theorem acceptsPlain_array_iff {type : FieldType} {items : List Json} : type.acceptsPlain (.array items) = true ↔
    type = .geoPoint ∧ ∃ a b, items = [a, b] ∧ a.isNumber = true ∧ b.isNumber = true := by
  cases type with
  | geoPoint => simp [acceptsPlain, acceptsGeoPoint_array_iff]
  | _ => simp [acceptsPlain, Json.isNumber]

theorem readsPair_single {type : FieldType} {value : Json} (single : ∀ items, value ≠ .array items) :
    type.readsPair value = false := by
  unfold readsPair
  split
  · exact absurd rfl (single _)
  · exact absurd rfl (single _)
  · rfl

/-- A list takes what its elements may be, unless it reads a pair of numbers
there as two items. -/
theorem validate_list_outcome (type : FieldType) (value : Json) (accepted : type.validate value = .ok ()) :
    (type.readsPair value = false ∧ (list type).validate value = .ok ()) ∨
      type.readsPair value = true ∧ ∃ error, (list type).validate value = .error error ∧ RejectsNumber error := by
  obtain ⟨items, rfl⟩ | single := value.array_or_single
  · rcases type.kinds with ⟨element, rfl⟩ | ⟨document, held⟩ | plain
    · rw [validate_list_array_eq_ok_iff] at accepted
      rw [validate_list_array, readsPair]
      exact Result.forM_outcome fun item mem => validate_list_outcome element item (accepted item mem)
    · obtain ⟨members, ⟨⟩, -⟩ := (validate_eq_ok_iff_of_schema? held (by nofun)).mp accepted
    · have accepted := (validate_plain_eq_ok_iff plain (by nofun)).mp accepted
      obtain ⟨rfl, a, b, rfl, first, second⟩ := acceptsPlain_array_iff.mp accepted
      refine .inr ⟨by simp [readsPair, first, second], mismatch .geoPoint a, ?_, a, first, rfl⟩
      rw [validate_list_array, List.forM, validate_geoPoint_number first, Result.error_bind]
  · exact .inl ⟨readsPair_single single, (validate_list_single single).trans accepted⟩

end FieldType

-- ---------------------------------------------------------------------------
-- Lists and their elements
-- ---------------------------------------------------------------------------

theorem FieldType.wireName_of_readsPair : (type : FieldType) → (value : Json) → type.readsPair value = true →
    type.wireName = "geo_point"
  | .geoPoint, _, _ => rfl
  | .list element, .array items, reads => by
    obtain ⟨item, -, reads⟩ := List.any_eq_true.mp reads
    exact wireName_of_readsPair element item reads

/-- An array is accepted by a list exactly if its items are, and any other value
exactly as an element is. Whatever an element may be the list accepts too, except
where a point is read from a pair of numbers: there the list asks each number to
be a point and refuses it. So no list of another type refuses what its elements
may be. -/
theorem lists_accept_elements (type : FieldType) :
    (∀ items, (FieldType.list type).validate (.array items) = .ok () ↔
      ∀ item ∈ items, type.validate item = .ok ()) ∧
    (∀ value, (∀ items, value ≠ .array items) → (FieldType.list type).validate value = type.validate value) ∧
    (∀ value, type.validate value = .ok () →
      ((FieldType.list type).validate value = .ok () ↔ type.readsPair value = false) ∧
      (type.readsPair value = true → ∃ number, number.isNumber = true ∧
        (FieldType.list type).validate value = .error (FieldType.mismatch .geoPoint number))) ∧
    (type.wireName ≠ "geo_point" → ∀ value, type.validate value = .ok () →
      (FieldType.list type).validate value = .ok ()) := by
  refine ⟨fun items => FieldType.validate_list_array_eq_ok_iff, fun value => FieldType.validate_list_single, ?_, ?_⟩
  · intro value accepted
    obtain ⟨unread, taken⟩ | ⟨read, error, refused, number, isNumber, rfl⟩ :=
      type.validate_list_outcome value accepted
    · simp [unread, taken]
    · exact ⟨by simp [read, refused], fun _ => ⟨number, isNumber, refused⟩⟩
  · intro other value accepted
    obtain ⟨-, taken⟩ | ⟨read, -⟩ := type.validate_list_outcome value accepted
    · exact taken
    · exact absurd (type.wireName_of_readsPair value read) other

/-- Points of two forms are a list of points, but no list of such lists; numbers
are a list of lists of one number each. -/
theorem lists_accept_elements_points :
    let points := FieldType.list .geoPoint
    let value := Json.array [.array [.int 1, .int 2], .string "1,2"]
    points.validate value = .ok () ∧ (FieldType.list points).validate value ≠ .ok () ∧
      (FieldType.list .long).validate (.array [.int 1, .int 2]) = .ok () ∧
      (FieldType.list (.list .long)).validate (.array [.int 1, .int 2]) = .ok () := by
  intro points value
  have accepted : points.validate value = .ok () := by
    refine ((lists_accept_elements .geoPoint).1 _).mpr (List.forall_mem_cons.mpr ⟨rfl, ?_⟩)
    exact List.forall_mem_singleton.mpr rfl
  have refused := mt ((lists_accept_elements points).2.2.1 value accepted).1.mp (by decide)
  have numbers : (FieldType.list .long).validate (.array [.int 1, .int 2]) = .ok () := rfl
  exact ⟨accepted, refused, numbers, (lists_accept_elements (.list .long)).2.2.2 (by decide) _ numbers⟩

/-- One point as a pair of numbers is no list of points. -/
theorem point_pair_refused_by_list : FieldType.geoPoint.validate (.array [.int 1, .int 2]) = .ok () ∧
    (FieldType.list .geoPoint).validate (.array [.int 1, .int 2]) =
      .error (FieldType.mismatch .geoPoint (.int 1)) := ⟨rfl, rfl⟩

end SearchWire
