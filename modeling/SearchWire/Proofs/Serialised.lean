import SearchWire.Proofs.Alike
import SearchWire.Serial

/-!
# The parts of serialised values

A value is read as the list of all its parts, in the order in which they are
met. Which parts there are decides how the value ends: a float that JSON
cannot hold refuses it before anything is written, an integer or a key that
does not fit refuses it while it is written. What is written can be traced
back from every place to a part.
-/

namespace SearchWire

-- ---------------------------------------------------------------------------
-- Nulls in JSON
-- ---------------------------------------------------------------------------

namespace Json

variable {json member : Json} {place : Path} {items : List Json} {members : Entries Json}

def isPlain : Json → Bool
  | .array _ => false
  | .object _ => false
  | _ => true

theorem eq_of_at?_eq_some (plain : json.isPlain) (found : json.at? place = some member) :
    place = [] ∧ json = member := by
  cases place with
  | nil => exact ⟨rfl, Option.some.inj found⟩
  | cons step rest =>
    cases json with
    | array items => cases plain
    | object members => cases plain
    | _ => cases step <;> cases found

theorem at?_array_eq_null (found : at? place (.array items) = some .null) :
    ∃ position rest item, place = .index position :: rest ∧ items[position]? = some item ∧
      item.at? rest = some .null := by
  cases place with
  | nil => cases found
  | cons step rest =>
    cases step with
    | key _ => cases found
    | index position =>
      obtain ⟨item, inside, found⟩ := Option.bind_eq_some_iff.mp found
      exact ⟨position, rest, item, rfl, inside, found⟩

theorem at?_object_eq_null (found : at? place (.object members) = some .null) :
    ∃ key rest member, place = .key key :: rest ∧ Entries.get? key members = some member ∧
      member.at? rest = some .null := by
  cases place with
  | nil => cases found
  | cons step rest =>
    cases step with
    | index _ => cases found
    | key key =>
      obtain ⟨member, inside, found⟩ := Option.bind_eq_some_iff.mp found
      exact ⟨key, rest, member, rfl, inside, found⟩

theorem at?_single_eq_null {name : String} (found : at? place (.single name json) = some .null) :
    ∃ rest, place = .key name :: rest ∧ json.at? rest = some .null := by
  obtain ⟨key, rest, member, rfl, inside, found⟩ := at?_object_eq_null found
  by_cases same : name = key
  · obtain rfl : json = member := by simpa [Entries.get?, same] using inside
    exact ⟨rest, by rw [same], found⟩
  · simp [Entries.get?, same] at inside

end Json

namespace Serial

-- ---------------------------------------------------------------------------
-- Parts
-- ---------------------------------------------------------------------------

inductive Role where
  | value
  | key
deriving DecidableEq

structure Part where
  /-- The record fields around it, outermost first. -/
  names : List String
  role : Role
  value : Serial

def isKeyKind : Serial → Bool
  | .bool _ | .int _ | .single _ | .double _ | .char _ | .string _ | .unitVariant _ => true
  | .newtype content => content.isKeyKind
  | _ => false

namespace Part

def inField (name : String) (part : Part) : Part := { part with names := name :: part.names }

def notFinite (part : Part) : Bool :=
  match part.value with
  | .single value => !value.isFinite
  | .double value => !value.isFinite
  | _ => false

def floatText (part : Part) : String :=
  match part.value with
  | .single value => value.text
  | .double value => value.text
  | _ => ""

def reason (part : Part) : String :=
  part.names.foldr (fun name rest => name ++ ": " ++ rest) (part.floatText ++ " is not a finite number")

/-- An integer of more than 64 bits as a value, or a key without a text. -/
def misfit (part : Part) : Bool :=
  match part.role, part.value with
  | .value, .int value => !(-Int.pow 2 63 ≤ value ∧ value < Int.pow 2 64)
  | .value, _ => false
  | .key, value => !value.isKeyKind

end Part

mutual
/-- A value with all its parts, a key before its value. What is wrapped in a
new type keeps the role of the whole. -/
def parts (role : Role) : Serial → List Part
  | .some content => ⟨[], role, .some content⟩ :: parts .value content
  | .newtype content => ⟨[], role, .newtype content⟩ :: parts role content
  | .newtypeVariant name content => ⟨[], role, .newtypeVariant name content⟩ :: parts .value content
  | .seq items => ⟨[], role, .seq items⟩ :: itemParts items
  | .tuple items => ⟨[], role, .tuple items⟩ :: itemParts items
  | .namedTuple items => ⟨[], role, .namedTuple items⟩ :: itemParts items
  | .tupleVariant name items => ⟨[], role, .tupleVariant name items⟩ :: itemParts items
  | .map entries => ⟨[], role, .map entries⟩ :: entryParts entries
  | .record fields => ⟨[], role, .record fields⟩ :: fieldParts fields
  | .recordVariant name fields => ⟨[], role, .recordVariant name fields⟩ :: fieldParts fields
  | plain => [⟨[], role, plain⟩]

def itemParts : List Serial → List Part
  | [] => []
  | item :: rest => parts .value item ++ itemParts rest

def entryParts : List (Serial × Serial) → List Part
  | [] => []
  | (key, value) :: rest => parts .key key ++ parts .value value ++ entryParts rest

def fieldParts : List (String × Serial) → List Part
  | [] => []
  | (name, value) :: rest => (parts .value value).map (Part.inField name) ++ fieldParts rest
end

-- ---------------------------------------------------------------------------
-- Floats that JSON cannot hold
-- ---------------------------------------------------------------------------

theorem refusal?_eq_find? {f : Format} (x : Binary f) (part : Part) (notFinite : part.notFinite = !x.isFinite)
    (text : part.floatText = x.text) (outermost : part.names = []) :
    refusal? x = ([part].find? Part.notFinite).map Part.reason := by
  rw [refusal?, List.find?_singleton, notFinite]
  cases x.isFinite with
  | true => rfl
  | false => simp [Part.reason, outermost, text]

mutual
theorem notFinite?_eq_find? (role : Role) : (value : Serial) →
    value.notFinite? = ((value.parts role).find? Part.notFinite).map Part.reason
  | .single value => refusal?_eq_find? value _ rfl rfl rfl
  | .double value => refusal?_eq_find? value _ rfl rfl rfl
  | .some content => notFinite?_eq_find? .value content
  | .newtype content => notFinite?_eq_find? role content
  | .newtypeVariant _ content => notFinite?_eq_find? .value content
  | .seq items | .tuple items | .namedTuple items | .tupleVariant _ items => itemsNotFinite?_eq_find? items
  | .map entries => entriesNotFinite?_eq_find? entries
  | .record fields | .recordVariant _ fields => fieldsNotFinite?_eq_find? fields
  | .bool _ | .int _ | .char _ | .string _ | .bytes _ | .none | .unit | .namedUnit | .unitVariant _ => rfl

theorem itemsNotFinite?_eq_find? : (items : List Serial) →
    itemsNotFinite? items = ((itemParts items).find? Part.notFinite).map Part.reason
  | [] => rfl
  | item :: rest => by
    rw [itemsNotFinite?, itemParts, List.find?_append, Option.map_or, notFinite?_eq_find? .value item,
      itemsNotFinite?_eq_find? rest]

theorem entriesNotFinite?_eq_find? : (entries : List (Serial × Serial)) →
    entriesNotFinite? entries = ((entryParts entries).find? Part.notFinite).map Part.reason
  | [] => rfl
  | (key, value) :: rest => by
    rw [entriesNotFinite?, entryParts, List.find?_append, List.find?_append, Option.map_or, Option.map_or,
      notFinite?_eq_find? .key key, notFinite?_eq_find? .value value, entriesNotFinite?_eq_find? rest]

theorem fieldsNotFinite?_eq_find? : (fields : List (String × Serial)) →
    fieldsNotFinite? fields = ((fieldParts fields).find? Part.notFinite).map Part.reason
  | [] => rfl
  | (name, value) :: rest => by
    rw [fieldsNotFinite?, fieldParts, List.find?_append, Option.map_or, List.find?_map,
      notFinite?_eq_find? .value value, fieldsNotFinite?_eq_find? rest, Option.map_map, Option.map_map]
    rfl
end

-- ---------------------------------------------------------------------------
-- Parts that do not fit
-- ---------------------------------------------------------------------------

/-- A computation that gives a value where all parts fit, and refuses the value
where one does not. -/
inductive Settles {α : Type} : Result α → List Part → Prop
  | ok {parts : List Part} (value : α) (fit : ∀ part ∈ parts, part.misfit = false) : Settles (.ok value) parts
  | error {parts : List Part} {part : Part} (reason : String) (mem : part ∈ parts) (misfit : part.misfit = true) :
    Settles (.error (.serialization reason)) parts

namespace Settles

variable {α β : Type} {result : Result α} {parts later : List Part}

theorem cons {part : Part} (fit : part.misfit = false) (settles : Settles result parts) :
    Settles result (part :: parts) := by
  cases settles with
  | ok value all => exact .ok value (List.forall_mem_cons.mpr ⟨fit, all⟩)
  | error reason mem misfit => exact .error reason (List.mem_cons_of_mem _ mem) misfit

theorem bind {next : α → Result β} (first : Settles result parts)
    (second : ∀ value, Settles (next value) later) : Settles (result >>= next) (parts ++ later) := by
  cases first with
  | ok value all =>
    have second := second value
    generalize eq : next value = outcome at second
    have bound : (Except.ok value >>= next) = outcome := eq
    rw [bound]
    cases second with
    | ok value all' => exact .ok value (List.forall_mem_append.mpr ⟨all, all'⟩)
    | error reason mem misfit => exact .error reason (List.mem_append_right _ mem) misfit
  | error reason mem misfit => exact .error reason (List.mem_append_left _ mem) misfit

theorem map (settles : Settles result parts) (f : α → β) :
    Settles (result >>= fun value => .ok (f value)) parts := by
  cases settles with
  | ok value all => exact .ok _ all
  | error reason mem misfit => exact .error reason mem misfit

theorem inField (settles : Settles result parts) (name : String) :
    Settles result (parts.map (Part.inField name)) := by
  cases settles with
  | ok value all => exact .ok value (List.forall_mem_map.mpr all)
  | error reason mem misfit => exact .error reason (List.mem_map_of_mem mem) misfit

theorem single {part : Part} (value : α) (fit : part.misfit = false) : Settles (.ok value) [part] :=
  .ok value (List.forall_mem_singleton.mpr fit)

end Settles

theorem mem_parts (role : Role) (value : Serial) : ⟨[], role, value⟩ ∈ value.parts role := by
  cases value <;> exact List.mem_cons_self

theorem keyText_settles : (key : Serial) → Settles key.keyText (key.parts .key)
  | .newtype content => by
    have settles := keyText_settles content
    rw [keyText, parts]
    generalize content.keyText = result at settles
    cases settles with
    | ok text fit =>
      have kind : (⟨[], .key, content⟩ : Part).misfit = false := fit _ (mem_parts .key content)
      exact .ok text (List.forall_mem_cons.mpr ⟨kind, fit⟩)
    | error reason mem misfit => exact .error reason (List.mem_cons_of_mem _ mem) misfit
  | .bool true | .bool false | .int _ | .single _ | .double _ | .char _ | .string _ | .unitVariant _ =>
    .single _ rfl
  | .bytes _ | .none | .some _ | .unit | .namedUnit | .newtypeVariant _ _ | .seq _ | .tuple _ | .namedTuple _
  | .tupleVariant _ _ | .map _ | .record _ | .recordVariant _ _ => .error _ (mem_parts .key _) rfl

theorem ofInt_settles (value : Int) : Settles (ofInt value) [⟨[], .value, .int value⟩] := by
  rw [ofInt]
  split
  case isTrue fits => exact .single _ (congrArg not (decide_eq_true fits))
  case isFalse large => exact .error _ List.mem_cons_self (congrArg not (decide_eq_false large))

mutual
theorem json_settles : (value : Serial) → Settles value.json (value.parts .value)
  | .int value => ofInt_settles value
  | .some content => .cons rfl (json_settles content)
  | .newtype content => .cons rfl (json_settles content)
  | .newtypeVariant _ content => .cons rfl ((json_settles content).map _)
  | .seq items | .tuple items | .namedTuple items | .tupleVariant _ items =>
    .cons rfl ((itemsJson_settles items).map _)
  | .map entries => .cons rfl ((entriesJson_settles entries).map _)
  | .record fields | .recordVariant _ fields => .cons rfl ((fieldsJson_settles fields).map _)
  | .bool _ | .single _ | .double _ | .char _ | .string _ | .bytes _ | .none | .unit | .namedUnit
  | .unitVariant _ => .single _ rfl

theorem itemsJson_settles : (items : List Serial) → Settles (itemsJson items) (itemParts items)
  | [] => .ok [] (List.forall_mem_nil _)
  | item :: rest => (json_settles item).bind fun _ => (itemsJson_settles rest).map _

theorem entriesJson_settles : (entries : List (Serial × Serial)) → Settles (entriesJson entries) (entryParts entries)
  | [] => .ok [] (List.forall_mem_nil _)
  | (key, value) :: rest => by
    rw [entryParts, List.append_assoc]
    exact (keyText_settles key).bind fun _ => (json_settles value).bind fun _ => (entriesJson_settles rest).map _

theorem fieldsJson_settles : (fields : List (String × Serial)) → Settles (fieldsJson fields) (fieldParts fields)
  | [] => .ok [] (List.forall_mem_nil _)
  | (name, value) :: rest => ((json_settles value).inField name).bind fun _ => (fieldsJson_settles rest).map _
end

-- ---------------------------------------------------------------------------
-- Origins
-- ---------------------------------------------------------------------------

def isNothing : Serial → Bool
  | .none | .unit | .namedUnit => true
  | _ => false

/-- The last item with a property. -/
def IsLast {α : Type} (p : α → Prop) (items : List α) (item : α) : Prop :=
  ∃ before after, items = before ++ item :: after ∧ p item ∧ ∀ later ∈ after, ¬p later

/-- The part that stands at a place of the JSON of a value. Of entries under
one key the last one counts. -/
inductive Origin : Serial → Path → Serial → Prop
  | here : Origin value [] value
  | some : Origin content place part → Origin (.some content) place part
  | newtype : Origin content place part → Origin (.newtype content) place part
  | newtypeVariant : Origin content place part → Origin (.newtypeVariant name content) (.key name :: place) part
  | seq : items[i]? = Option.some item → Origin item place part → Origin (.seq items) (.index i :: place) part
  | tuple : items[i]? = Option.some item → Origin item place part → Origin (.tuple items) (.index i :: place) part
  | namedTuple : items[i]? = Option.some item → Origin item place part →
    Origin (.namedTuple items) (.index i :: place) part
  | tupleVariant : items[i]? = Option.some item → Origin item place part →
    Origin (.tupleVariant name items) (.key name :: .index i :: place) part
  | map : IsLast (fun entry => entry.1.keyText = .ok key) entries entry → Origin entry.2 place part →
    Origin (.map entries) (.key key :: place) part
  | record : IsLast (fun field => field.1 = key) fields field → Origin field.2 place part →
    Origin (.record fields) (.key key :: place) part
  | recordVariant : IsLast (fun field => field.1 = key) fields field → Origin field.2 place part →
    Origin (.recordVariant name fields) (.key name :: .key key :: place) part

/-- A null at a place comes from a part that has no content. -/
def NullFrom (value : Serial) (place : Path) : Prop := ∃ part, Origin value place part ∧ part.isNothing

theorem bind_eq_ok {α β : Type} {result : Result α} {next : α → Result β} {value : β}
    (ok : (result >>= next) = .ok value) : ∃ first, result = .ok first ∧ next first = .ok value := by
  cases result with
  | ok first => exact ⟨first, rfl, ok⟩
  | error error => cases ok

theorem ofFloat_ne_null {f : Format} {x : Binary f} {widened : Double} (finite : refusal? x = Option.none) :
    ofFloat x widened ≠ .null := by
  rw [refusal?] at finite
  split at finite
  · next holds =>
    rw [ofFloat, if_pos holds]
    exact nofun
  · cases finite

theorem isPlain_ofFloat {f : Format} (x : Binary f) (widened : Double) : (ofFloat x widened).isPlain := by
  rw [ofFloat]
  split <;> rfl

theorem eq_int_of_ofInt {value : Int} {json : Json} (fits : ofInt value = .ok json) : json = .int value := by
  rw [ofInt] at fits
  split at fits
  · cases fits
    rfl
  · cases fits

theorem IsLast.cons {α : Type} {p : α → Prop} {items : List α} {item : α} (first : α) (last : IsLast p items item) :
    IsLast p (first :: items) item := by
  obtain ⟨before, after, rfl, holds, later⟩ := last
  exact ⟨first :: before, after, rfl, holds, later⟩

theorem array_nullFrom {items : List Serial} {json : Json} {place : Path}
    (each : ∀ {written : List Json} {position : Nat} {member : Json} {rest : Path}, itemsJson items = .ok written →
      written[position]? = Option.some member → member.at? rest = Option.some .null →
      ∃ item, items[position]? = Option.some item ∧ NullFrom item rest)
    (runs : (itemsJson items >>= fun written => .ok (.array written)) = .ok json)
    (null : json.at? place = Option.some .null) :
    ∃ position rest item, place = .index position :: rest ∧ items[position]? = Option.some item ∧
      NullFrom item rest := by
  obtain ⟨written, compiles, whole⟩ := bind_eq_ok runs
  cases whole
  obtain ⟨position, rest, member, rfl, inside, null⟩ := Json.at?_array_eq_null null
  obtain ⟨item, inside, from_⟩ := each compiles inside null
  exact ⟨position, rest, item, rfl, inside, from_⟩

theorem object_nullFrom {α : Type} {pairs : List (α × Serial)} {has : String → α × Serial → Prop}
    {result : Result (Entries Json)} {json : Json} {place : Path}
    (each : ∀ {written : Entries Json} {key : String} {member : Json} {rest : Path}, result = .ok written →
      Entries.get? key written.reverse = Option.some member → member.at? rest = Option.some .null →
      ∃ pair, IsLast (has key) pairs pair ∧ NullFrom pair.2 rest)
    (runs : (result >>= fun written => .ok (.object (Entries.ofPairs written))) = .ok json)
    (null : json.at? place = Option.some .null) :
    ∃ key rest pair, place = .key key :: rest ∧ IsLast (has key) pairs pair ∧ NullFrom pair.2 rest := by
  obtain ⟨written, compiles, whole⟩ := bind_eq_ok runs
  cases whole
  obtain ⟨key, rest, member, rfl, inside, null⟩ := Json.at?_object_eq_null null
  rw [Entries.ofPairs, Entries.get?_merge, Entries.get?_nil, Option.or_none] at inside
  obtain ⟨pair, last, from_⟩ := each compiles inside null
  exact ⟨key, rest, pair, rfl, last, from_⟩

theorem isLast_cases {α : Type} {items : List α} {key text : String} {member json : Json} {others : Entries Json}
    (has : α → Prop) (first : α)
    (inside : Entries.get? key ((text, json) :: others).reverse = Option.some member)
    (named : text = key → has first)
    (later : key ∉ Entries.keys others → ∀ item ∈ items, ¬has item) :
    (json = member ∧ IsLast has (first :: items) first) ∨ Entries.get? key others.reverse = Option.some member := by
  rw [List.reverse_cons, Entries.get?_append] at inside
  cases found : Entries.get? key others.reverse with
  | some _ => exact .inr (by rwa [found] at inside)
  | none =>
    rw [found, Option.none_or] at inside
    rw [Entries.get?_eq_none_iff, Entries.keys_reverse, List.mem_reverse] at found
    by_cases same : text = key
    · refine .inl ⟨by simpa [Entries.get?, same] using inside, [], items, rfl, named same, later found⟩
    · simp [Entries.get?, same] at inside

theorem exists_key_of_entriesJson : {entries : List (Serial × Serial)} → {written : Entries Json} →
    entriesJson entries = .ok written → ∀ entry ∈ entries, ∃ text ∈ Entries.keys written, entry.1.keyText = .ok text
  | [], _, _ => List.forall_mem_nil _
  | (key, value) :: rest, _, runs => by
    obtain ⟨text, keyed, runs⟩ := bind_eq_ok runs
    obtain ⟨json, -, runs⟩ := bind_eq_ok runs
    obtain ⟨others, compiles, whole⟩ := bind_eq_ok runs
    cases whole
    refine List.forall_mem_cons.mpr ⟨⟨text, List.mem_cons_self, keyed⟩, fun entry mem => ?_⟩
    obtain ⟨text, mem, keyed⟩ := exists_key_of_entriesJson compiles entry mem
    exact ⟨text, List.mem_cons_of_mem _ mem, keyed⟩

theorem keys_fieldsJson : {fields : List (String × Serial)} → {written : Entries Json} →
    fieldsJson fields = .ok written → Entries.keys written = fields.map (·.1)
  | [], _, runs => by
    cases runs
    rfl
  | (name, value) :: rest, _, runs => by
    obtain ⟨json, -, runs⟩ := bind_eq_ok runs
    obtain ⟨others, compiles, whole⟩ := bind_eq_ok runs
    cases whole
    exact congrArg (name :: ·) (keys_fieldsJson compiles)

mutual
theorem json_nullFrom : (value : Serial) → {json : Json} → {place : Path} → value.notFinite? = Option.none →
    value.json = .ok json → json.at? place = Option.some .null → NullFrom value place
  | .none, _, _, _, compiles, null | .unit, _, _, _, compiles, null | .namedUnit, _, _, _, compiles, null => by
    cases compiles
    obtain ⟨rfl, -⟩ := Json.eq_of_at?_eq_some rfl null
    exact ⟨_, .here, rfl⟩
  | .some content, _, _, finite, compiles, null => by
    obtain ⟨part, origin, nothing⟩ := json_nullFrom content finite compiles null
    exact ⟨part, .some origin, nothing⟩
  | .newtype content, _, _, finite, compiles, null => by
    obtain ⟨part, origin, nothing⟩ := json_nullFrom content finite compiles null
    exact ⟨part, .newtype origin, nothing⟩
  | .newtypeVariant _ content, _, _, finite, runs, null => by
    obtain ⟨inner, compiles, whole⟩ := bind_eq_ok runs
    cases whole
    obtain ⟨rest, rfl, inside⟩ := Json.at?_single_eq_null null
    obtain ⟨part, origin, nothing⟩ := json_nullFrom content finite compiles inside
    exact ⟨part, .newtypeVariant origin, nothing⟩
  | .seq items, _, _, finite, runs, null => by
    obtain ⟨_, _, item, rfl, inside, part, origin, nothing⟩ :=
      array_nullFrom (itemsJson_nullFrom items finite) runs null
    exact ⟨part, .seq inside origin, nothing⟩
  | .tuple items, _, _, finite, runs, null => by
    obtain ⟨_, _, item, rfl, inside, part, origin, nothing⟩ :=
      array_nullFrom (itemsJson_nullFrom items finite) runs null
    exact ⟨part, .tuple inside origin, nothing⟩
  | .namedTuple items, _, _, finite, runs, null => by
    obtain ⟨_, _, item, rfl, inside, part, origin, nothing⟩ :=
      array_nullFrom (itemsJson_nullFrom items finite) runs null
    exact ⟨part, .namedTuple inside origin, nothing⟩
  | .tupleVariant _ items, _, _, finite, runs, null => by
    obtain ⟨written, compiles, whole⟩ := bind_eq_ok runs
    cases whole
    obtain ⟨_, rfl, array⟩ := Json.at?_single_eq_null null
    obtain ⟨_, _, item, rfl, inside, part, origin, nothing⟩ :=
      array_nullFrom (itemsJson_nullFrom items finite) (by rw [compiles]; rfl) array
    exact ⟨part, .tupleVariant inside origin, nothing⟩
  | .map entries, _, _, finite, runs, null => by
    obtain ⟨_, _, entry, rfl, last, part, origin, nothing⟩ :=
      object_nullFrom (entriesJson_nullFrom entries finite) runs null
    exact ⟨part, .map last origin, nothing⟩
  | .record fields, _, _, finite, runs, null => by
    obtain ⟨_, _, field, rfl, last, part, origin, nothing⟩ :=
      object_nullFrom (fieldsJson_nullFrom fields finite) runs null
    exact ⟨part, .record last origin, nothing⟩
  | .recordVariant _ fields, _, _, finite, runs, null => by
    obtain ⟨written, compiles, whole⟩ := bind_eq_ok runs
    cases whole
    obtain ⟨_, rfl, object⟩ := Json.at?_single_eq_null null
    obtain ⟨_, _, field, rfl, last, part, origin, nothing⟩ :=
      object_nullFrom (fieldsJson_nullFrom fields finite) (by rw [compiles]; rfl) object
    exact ⟨part, .recordVariant last origin, nothing⟩
  | .single x, _, _, finite, compiles, null | .double x, _, _, finite, compiles, null => by
    cases compiles
    obtain ⟨-, null⟩ := Json.eq_of_at?_eq_some (isPlain_ofFloat x _) null
    exact absurd null (ofFloat_ne_null finite)
  | .int value, _, _, _, compiles, null => by
    obtain rfl := eq_int_of_ofInt compiles
    obtain ⟨-, null⟩ := Json.eq_of_at?_eq_some rfl null
    cases null
  | .bytes values, _, _, _, compiles, null => by
    cases compiles
    obtain ⟨position, rest, member, rfl, inside, null⟩ := Json.at?_array_eq_null null
    rw [List.getElem?_map] at inside
    obtain ⟨byte, -, rfl⟩ := Option.map_eq_some_iff.mp inside
    obtain ⟨-, null⟩ := Json.eq_of_at?_eq_some rfl null
    cases null
  | .bool _, _, _, _, compiles, null | .char _, _, _, _, compiles, null | .string _, _, _, _, compiles, null
  | .unitVariant _, _, _, _, compiles, null => by
    cases compiles
    obtain ⟨-, null⟩ := Json.eq_of_at?_eq_some rfl null
    cases null

theorem itemsJson_nullFrom : (items : List Serial) → itemsNotFinite? items = Option.none →
    ∀ {written : List Json} {position : Nat} {member : Json} {rest : Path}, itemsJson items = .ok written →
      written[position]? = Option.some member → member.at? rest = Option.some .null →
      ∃ item, items[position]? = Option.some item ∧ NullFrom item rest
  | [], _, _, _, _, _, runs, inside, _ => by
    cases runs
    simp at inside
  | item :: items, finite, _, position, _, _, runs, inside, null => by
    obtain ⟨head, rest⟩ := Option.or_eq_none_iff.mp finite
    obtain ⟨first, compiles, runs⟩ := bind_eq_ok runs
    obtain ⟨others, compiles', whole⟩ := bind_eq_ok runs
    cases whole
    cases position with
    | zero =>
      cases inside
      exact ⟨item, rfl, json_nullFrom item head compiles null⟩
    | succ position => exact itemsJson_nullFrom items rest compiles' inside null

theorem entriesJson_nullFrom : (entries : List (Serial × Serial)) → entriesNotFinite? entries = Option.none →
    ∀ {written : Entries Json} {key : String} {member : Json} {rest : Path}, entriesJson entries = .ok written →
      Entries.get? key written.reverse = Option.some member → member.at? rest = Option.some .null →
      ∃ entry, IsLast (fun entry => entry.1.keyText = .ok key) entries entry ∧ NullFrom entry.2 rest
  | [], _, _, _, _, _, runs, inside, _ => by
    cases runs
    cases inside
  | (key, value) :: entries, finite, _, name, _, _, runs, inside, null => by
    obtain ⟨head, rest⟩ := Option.or_eq_none_iff.mp finite
    obtain ⟨-, head⟩ := Option.or_eq_none_iff.mp head
    obtain ⟨text, keyed, runs⟩ := bind_eq_ok runs
    obtain ⟨json, compiles, runs⟩ := bind_eq_ok runs
    obtain ⟨others, compiles', whole⟩ := bind_eq_ok runs
    cases whole
    have later (fresh : name ∉ Entries.keys others) : ∀ entry ∈ entries, ¬entry.1.keyText = .ok name := by
      intro entry mem same
      obtain ⟨text, mem, keyed⟩ := exists_key_of_entriesJson compiles' entry mem
      obtain rfl : text = name := Except.ok.inj (keyed.symm.trans same)
      exact fresh mem
    have cases := isLast_cases (fun entry => entry.1.keyText = .ok name) (key, value) inside
      (fun same => same ▸ keyed) later
    rcases cases with ⟨rfl, last⟩ | inside
    · exact ⟨_, last, json_nullFrom value head compiles null⟩
    · obtain ⟨entry, last, from_⟩ := entriesJson_nullFrom entries rest compiles' inside null
      exact ⟨entry, last.cons _, from_⟩

theorem fieldsJson_nullFrom : (fields : List (String × Serial)) → fieldsNotFinite? fields = Option.none →
    ∀ {written : Entries Json} {key : String} {member : Json} {rest : Path}, fieldsJson fields = .ok written →
      Entries.get? key written.reverse = Option.some member → member.at? rest = Option.some .null →
      ∃ field, IsLast (fun field => field.1 = key) fields field ∧ NullFrom field.2 rest
  | [], _, _, _, _, _, runs, inside, _ => by
    cases runs
    cases inside
  | (name, value) :: fields, finite, _, key, _, _, runs, inside, null => by
    obtain ⟨head, rest⟩ := Option.or_eq_none_iff.mp finite
    obtain ⟨json, compiles, runs⟩ := bind_eq_ok runs
    obtain ⟨others, compiles', whole⟩ := bind_eq_ok runs
    cases whole
    have later (fresh : key ∉ Entries.keys others) : ∀ field ∈ fields, ¬field.1 = key := by
      rintro field mem rfl
      rw [keys_fieldsJson compiles'] at fresh
      exact fresh (List.mem_map_of_mem mem)
    rcases isLast_cases (fun field => field.1 = key) (name, value) inside id later with ⟨rfl, last⟩ | inside
    · exact ⟨_, last, json_nullFrom value (Option.map_eq_none_iff.mp head) compiles null⟩
    · obtain ⟨field, last, from_⟩ := fieldsJson_nullFrom fields rest compiles' inside null
      exact ⟨field, last.cons _, from_⟩
end

-- ---------------------------------------------------------------------------
-- Outcomes
-- ---------------------------------------------------------------------------

theorem ofSerial_eq (value : Serial) : Expr.ofSerial value =
    match (value.parts .value).find? Part.notFinite with
    | Option.some first => .error (.malformed [] first.reason)
    | Option.none => value.json >>= fun json => .ok (.raw json) := by
  rw [Expr.ofSerial, notFinite?_eq_find? .value value]
  cases (value.parts .value).find? Part.notFinite <;> rfl

/-- What becomes of a value: one of three things, each with its reason. -/
inductive Outcome (value : Serial) : Result Expr → Prop
  | malformed {first : Part} (found : (value.parts .value).find? Part.notFinite = Option.some first) :
    Outcome value (.error (.malformed [] first.reason))
  | refused {part : Part} (reason : String) (finite : ∀ part ∈ value.parts .value, part.notFinite = false)
    (mem : part ∈ value.parts .value) (misfit : part.misfit = true) :
    Outcome value (.error (.serialization reason))
  | raw {json : Json} (finite : ∀ part ∈ value.parts .value, part.notFinite = false)
    (fit : ∀ part ∈ value.parts .value, part.misfit = false) (written : value.json = .ok json)
    (nulls : ∀ place, json.at? place = Option.some .null → NullFrom value place) :
    Outcome value (.ok (.raw json))

theorem ofSerial_outcome (value : Serial) : Outcome value (Expr.ofSerial value) := by
  rw [ofSerial_eq]
  cases found : (value.parts .value).find? Part.notFinite with
  | some first => exact .malformed found
  | none =>
    have finite : ∀ part ∈ value.parts .value, part.notFinite = false := by
      simpa using List.find?_eq_none.mp found
    have checked : value.notFinite? = Option.none := by
      rw [notFinite?_eq_find? .value value, found]
      rfl
    have settles := json_settles value
    cases result : value.json with
    | ok json =>
      rw [result] at settles
      cases settles with
      | ok _ fit => exact .raw finite fit result fun place null => json_nullFrom value checked result null
    | error error =>
      rw [result] at settles
      cases settles with
      | error reason mem misfit => exact .refused reason finite mem misfit

theorem not_finite_of_find? {parts : List Part} {first : Part}
    (found : parts.find? Part.notFinite = Option.some first) : ¬∀ part ∈ parts, part.notFinite = false := by
  intro finite
  have offends : first.notFinite = true := List.find?_some found
  rw [finite first (List.mem_of_find?_eq_some found)] at offends
  cases offends

/-- A serialised value is malformed exactly if it has a float that JSON cannot
hold, and the first one is told; else it cannot be serialised exactly if it has
an integer or a key that does not fit; else it is the JSON that is written for
it, where nothing but parts without content is null. -/
theorem serialised_values_classified (value : Serial) :
    (∀ path reason, Expr.ofSerial value = .error (.malformed path reason) ↔
      path = [] ∧ ∃ first, (value.parts .value).find? Part.notFinite = Option.some first ∧ reason = first.reason) ∧
    ((∃ reason, Expr.ofSerial value = .error (.serialization reason)) ↔
      (∀ part ∈ value.parts .value, part.notFinite = false) ∧ ∃ part ∈ value.parts .value, part.misfit = true) ∧
    ((∃ expr, Expr.ofSerial value = .ok expr) ↔
      (∀ part ∈ value.parts .value, part.notFinite = false) ∧ ∀ part ∈ value.parts .value, part.misfit = false) ∧
    ∀ expr, Expr.ofSerial value = .ok expr → ∃ json, expr = .raw json ∧ value.json = .ok json ∧
      ∀ place, json.at? place = Option.some .null → NullFrom value place := by
  have outcome := ofSerial_outcome value
  generalize Expr.ofSerial value = result at outcome ⊢
  cases outcome with
  | @malformed first found =>
    have infinite := not_finite_of_find? found
    refine ⟨fun path reason => ⟨fun same => ?_, ?_⟩, ⟨nofun, fun fits => absurd fits.1 infinite⟩,
      ⟨nofun, fun fits => absurd fits.1 infinite⟩, nofun⟩
    · cases same
      exact ⟨rfl, first, found, rfl⟩
    · rintro ⟨rfl, other, found', rfl⟩
      rw [found] at found'
      cases found'
      rfl
  | refused reason finite mem misfit =>
    refine ⟨fun path reason => ⟨nofun, ?_⟩, ⟨fun _ => ⟨finite, _, mem, misfit⟩, fun _ => ⟨reason, rfl⟩⟩,
      ⟨nofun, fun fits => ?_⟩, nofun⟩
    · rintro ⟨-, first, found, -⟩
      exact absurd finite (not_finite_of_find? found)
    · rw [fits.2 _ mem] at misfit
      cases misfit
  | raw finite fit written nulls =>
    refine ⟨fun path reason => ⟨nofun, ?_⟩, ⟨nofun, ?_⟩, ⟨fun _ => ⟨finite, fit⟩, fun _ => ⟨_, rfl⟩⟩, ?_⟩
    · rintro ⟨-, first, found, -⟩
      exact absurd finite (not_finite_of_find? found)
    · rintro ⟨-, part, mem, misfit⟩
      rw [fit part mem] at misfit
      cases misfit
    · rintro expr ⟨⟩
      exact ⟨_, rfl, written, nulls⟩

example :
    Expr.ofSerial (.record [("boost", .double .zero), ("by", .map [(.newtype (.single .nan), .unit)])]) =
      .error (.malformed [] "by: NaN is not a finite number") := rfl

end Serial

end SearchWire
