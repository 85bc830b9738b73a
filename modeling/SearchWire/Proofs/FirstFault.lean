import Mathlib.Data.List.MinMax
import SearchWire.Proofs.Offences
import SearchWire.Proofs.PlainData
import SearchWire.Proofs.Written

/-!
# First faults in data

With room for all its levels, data can be at fault in its floats alone. The walk
meets them in the order of parts, each part with all that lies below it before the
next, and reports the first that is not finite. The path of the report grows from
the float outwards; since no key of the data can be taken for a position, it reads
as the place that is written from the root.
-/

namespace SearchWire

-- ---------------------------------------------------------------------------
-- Names
-- ---------------------------------------------------------------------------

namespace Path

/-- A key that is not empty and opens with no bracket. -/
def IsName (key : String) : Prop := key ≠ "" ∧ key.toList.head? ≠ some '['

instance (key : String) : Decidable (IsName key) := inferInstanceAs (Decidable (_ ∧ _))

theorem setsOff_of_isName {path : Path} (names : ∀ key, .key key ∈ path → IsName key) : setsOff path := by
  rcases path with _ | ⟨key | position, rest⟩
  · rfl
  · obtain ⟨nonempty, unbracketed⟩ := names key List.mem_cons_self
    cases chars : key.toList with
    | nil => exact absurd (String.toList_eq_nil_iff.mp chars) nonempty
    | cons first others => simpa [setsOff, chars] using unbracketed
  · rfl

theorem plain_of_isName {path : Path} (names : ∀ key, .key key ∈ path → IsName key) : plain path := by
  induction path with
  | nil => rfl
  | cons step rest ih =>
    have names : ∀ key, .key key ∈ rest → IsName key := fun key mem => names key (List.mem_cons_of_mem _ mem)
    rw [plain, Bool.and_eq_true]
    exact ⟨setsOff_of_isName names, ih names⟩

end Path

namespace Expr

-- ---------------------------------------------------------------------------
-- Data
-- ---------------------------------------------------------------------------

/-- Scalars, finished JSON, and lists and maps of data, where every key is a name. -/
inductive Data : Expr → Prop
  | null : Data .null
  | bool (value : Bool) : Data (.bool value)
  | int (value : Int) : Data (.int value)
  | float (number : Double) : Data (.float number)
  | string (text : String) : Data (.string text)
  | raw (json : Json) : Data (.raw json)
  | list {items : List Expr} (each : ∀ item ∈ items, Data item) : Data (.list items)
  | map {entries : Entries Expr} (named : ∀ entry ∈ entries, Path.IsName entry.1) (each : ∀ entry ∈ entries, Data entry.2) :
    Data (.map entries)

def itemParts (items : List Expr) (start : Nat) : List (Step × Expr) :=
  (items.zipIdx start).map fun (item, i) => (.index i, item)

def entryParts (entries : Entries Expr) : List (Step × Expr) := entries.map fun (key, value) => (.key key, value)

def parts : Expr → List (Step × Expr)
  | .list items => itemParts items 0
  | .map entries => entryParts entries
  | _ => []

/-- A float stands in an expression, at a position that counts the parts on the
way to it, and at the end of a path. -/
inductive Carries : Expr → Double → List Nat → Path → Prop
  | float (number : Double) : Carries (.float number) number [] []
  | part {expr part : Expr} {step : Step} {number : Double} {i : Nat} {position : List Nat} {path : Path}
    (found : expr.parts[i]? = some (step, part)) (below : part.Carries number position path) :
    Carries expr number (i :: position) (step :: path)

/-- The float is not finite, and no other such float stands before it. -/
structure FirstFault (expr : Expr) (number : Double) (position : List Nat) (path : Path) : Prop where
  carried : expr.Carries number position path
  notFinite : number.isFinite = false
  first : ∀ other position' path', expr.Carries other position' path' → other.isFinite = false →
    AtOrBefore position position'

/-- A float stands in one of several parts, at a position that counts them, the
first part before all others. -/
inductive Carried : List (Step × Expr) → Double → List Nat → Path → Prop
  | head {step : Step} {part : Expr} {parts : List (Step × Expr)} {number : Double} {position : List Nat} {path : Path}
    (below : part.Carries number position path) : Carried ((step, part) :: parts) number (0 :: position) (step :: path)
  | tail {first : Step × Expr} {parts : List (Step × Expr)} {number : Double} {i : Nat} {position : List Nat}
    {path : Path} (below : Carried parts number (i :: position) path) :
    Carried (first :: parts) number ((i + 1) :: position) path

section
variable {expr part : Expr} {step : Step} {parts : List (Step × Expr)} {number : Double} {position : List Nat}
  {path : Path}

theorem Carried.of_getElem? {i : Nat} (found : parts[i]? = some (step, part))
    (below : part.Carries number position path) : Carried parts number (i :: position) (step :: path) := by
  induction parts generalizing i with
  | nil => simp at found
  | cons first parts ih =>
    cases i with
    | zero =>
      cases found
      exact .head below
    | succ i => exact .tail (ih found)

theorem Carried.exists_part (carried : Carried parts number position path) :
    ∃ i step part rest path', parts[i]? = some (step, part) ∧ position = i :: rest ∧ path = step :: path' ∧
      part.Carries number rest path' := by
  induction carried with
  | head below => exact ⟨0, _, _, _, _, rfl, rfl, rfl, below⟩
  | tail _ ih =>
    obtain ⟨i, step, part, rest, path', found, same, rfl, below⟩ := ih
    cases same
    exact ⟨_, step, part, _, path', found, rfl, rfl, below⟩

theorem carries_iff : expr.Carries number position path ↔
    (expr = .float number ∧ position = [] ∧ path = []) ∨ Carried expr.parts number position path := by
  constructor
  · intro carries
    cases carries with
    | float => exact .inl ⟨rfl, rfl, rfl⟩
    | part found below => exact .inr (.of_getElem? found below)
  · rintro (⟨rfl, rfl, rfl⟩ | carried)
    · exact .float number
    · obtain ⟨i, step, part, rest, path', found, rfl, rfl, below⟩ := carried.exists_part
      exact .part found below

theorem not_carried_nil : ¬Carried [] number position path := nofun

theorem carries_float_iff {other : Double} :
    (Expr.float other).Carries number position path ↔ other = number ∧ position = [] ∧ path = [] := by
  simp [carries_iff, Expr.parts, not_carried_nil]

theorem Carries.unique {other : Double} {path' : Path} (carries : expr.Carries number position path)
    (carries' : expr.Carries other position path') : number = other ∧ path = path' := by
  induction carries generalizing path' with
  | float =>
    cases carries'
    exact ⟨rfl, rfl⟩
  | part found _ ih =>
    cases carries' with
    | part found' below' =>
      cases found.symm.trans found'
      obtain ⟨rfl, rfl⟩ := ih below'
      exact ⟨rfl, rfl⟩

theorem Data.of_mem_parts (data : expr.Data) {step : Step} {part : Expr} (mem : (step, part) ∈ expr.parts) :
    part.Data ∧ ∀ key, step = .key key → Path.IsName key := by
  cases data with
  | list each =>
    obtain ⟨⟨item, i⟩, mem, same⟩ := List.mem_map.mp mem
    cases same
    exact ⟨each _ (List.fst_mem_of_mem_zipIdx mem), nofun⟩
  | map named each =>
    obtain ⟨⟨key, value⟩, mem, same⟩ := List.mem_map.mp mem
    cases same
    refine ⟨each _ mem, ?_⟩
    rintro _ ⟨⟩
    exact named _ mem
  | _ => cases mem

theorem Carries.text_eq_written (carries : expr.Carries number position path) (data : expr.Data) :
    path.text = path.written := by
  have names : ∀ key, .key key ∈ path → Path.IsName key := by
    induction carries with
    | float => simp
    | part found _ ih =>
      obtain ⟨partData, named⟩ := data.of_mem_parts (List.mem_of_getElem? found)
      intro key mem
      rcases List.mem_cons.mp mem with same | mem
      · exact named key same.symm
      · exact ih partData key mem
  rw [Path.text, Path.written, (Path.chars_eq_written_iff path).mpr (Path.plain_of_isName names)]

end

-- ---------------------------------------------------------------------------
-- Outcomes of the walk
-- ---------------------------------------------------------------------------

/-- All floats are finite and the whole compiles, or the first that is not is reported. -/
inductive Walked {α : Type} (carries : Double → List Nat → Path → Prop) : Result α → Prop
  | compiles {value : α} (finite : ∀ number position path, carries number position path → number.isFinite = true) :
    Walked carries (.ok value)
  | fails {number : Double} {position : List Nat} {path : Path} (carried : carries number position path)
    (notFinite : number.isFinite = false)
    (first : ∀ other position' path', carries other position' path' → other.isFinite = false →
      AtOrBefore position position') :
    Walked carries (.error (.malformed path (number.text ++ " is not a finite number")))

namespace Walked

variable {α β γ : Type} {carries carries' : Double → List Nat → Path → Prop} {result : Result α}

theorem congr (same : ∀ number position path, carries' number position path ↔ carries number position path)
    (walked : Walked carries result) : Walked carries' result := by
  cases walked with
  | compiles finite => exact .compiles fun number position path carried => finite _ _ _ ((same ..).mp carried)
  | fails carried notFinite first =>
    exact .fails ((same ..).mpr carried) notFinite fun other position' path' carried' =>
      first _ _ _ ((same ..).mp carried')

theorem entered {c : Compiler} {depth : Nat} {next : Nat → Result α} (room : depth < c.maxDepth)
    (walked : Walked carries (next (depth + 1))) : Walked carries (c.enter depth >>= next) := by
  rwa [Compiler.enter, if_pos room]

theorem map (f : α → β) (walked : Walked carries result) : Walked carries (result >>= fun value => .ok (f value)) := by
  cases walked with
  | compiles finite => exact .compiles finite
  | fails carried notFinite first => exact .fails carried notFinite first

theorem nil (value : α) : Walked (Carried []) (.ok value) :=
  .compiles fun _ _ _ carried => absurd carried not_carried_nil

theorem cons {step : Step} {part : Expr} {parts : List (Step × Expr)} {rest : Result β} (join : α → β → γ)
    (head : Walked part.Carries result) (tail : Walked (Carried parts) rest) :
    Walked (Carried ((step, part) :: parts))
      (Except.mapError (Error.within step) result >>= fun value => rest >>= fun values => .ok (join value values)) := by
  cases head with
  | fails carried notFinite first =>
    refine .fails (.head carried) notFinite fun other position' path' carried' notFinite' => ?_
    cases carried' with
    | head below => exact .inr ⟨rfl, first _ _ _ below notFinite'⟩
    | tail below => exact .inl (Nat.zero_lt_succ _)
  | compiles finite =>
    cases tail with
    | compiles finite' =>
      refine .compiles fun number position path carried => ?_
      cases carried with
      | head below => exact finite _ _ _ below
      | tail below => exact finite' _ _ _ below
    | fails carried notFinite first =>
      -- All floats of the first part are finite, and the others move on by one position.
      obtain ⟨i, _, _, _, _, -, rfl, -⟩ := carried.exists_part
      refine .fails (.tail carried) notFinite fun other position' path' carried' notFinite' => ?_
      cases carried' with
      | head below => simp [finite _ _ _ below] at notFinite'
      | tail below =>
        rcases first _ _ _ below notFinite' with less | ⟨rfl, before⟩
        · exact .inl (Nat.succ_lt_succ less)
        · exact .inr ⟨rfl, before⟩

end Walked

-- ---------------------------------------------------------------------------
-- The walk
-- ---------------------------------------------------------------------------

section
variable {c : Compiler} {depth : Nat}

theorem walked_items {items : List Expr} (start : Nat)
    (each : ∀ item ∈ items, Walked item.Carries (item.compileAt c depth)) :
    Walked (Carried (itemParts items start)) (compileItems c items start depth) := by
  induction items generalizing start with
  | nil => exact .nil []
  | cons item rest ih =>
    obtain ⟨head, tail⟩ := List.forall_mem_cons.mp each
    exact head.cons List.cons (ih (start + 1) tail)

theorem walked_entries {entries : Entries Expr}
    (each : ∀ entry ∈ entries, Walked entry.2.Carries (entry.2.compileAt c depth)) :
    Walked (Carried (entryParts entries)) (compileParams c entries depth) := by
  induction entries with
  | nil => exact .nil []
  | cons entry rest ih =>
    obtain ⟨head, tail⟩ := List.forall_mem_cons.mp each
    exact head.cons (fun json others => (entry.1, json) :: others) (ih tail)

end

-- ---------------------------------------------------------------------------
-- Levels
-- ---------------------------------------------------------------------------

section
variable {d : Dialect}

theorem nesting_itemVisits (items : List Expr) (start : Nat) :
    (itemVisits d items start).nesting = (items.map (nesting d)).foldr max 0 := by
  induction items generalizing start with
  | nil => rfl
  | cons item rest ih =>
    rw [itemVisits, Visits.nesting_append, Visits.nesting_under, ih, List.map_cons, List.foldr_cons, nesting]

theorem nesting_paramVisits (entries : Entries Expr) :
    (paramVisits d entries).nesting = (entries.map fun entry => entry.2.nesting d).foldr max 0 := by
  induction entries with
  | nil => rfl
  | cons entry rest ih =>
    rw [paramVisits, Visits.nesting_append, Visits.nesting_under, ih, List.map_cons, List.foldr_cons, nesting]

theorem nesting_list (items : List Expr) :
    (Expr.list items).nesting d = (items.map (nesting d)).foldr max 0 + 1 := by
  rw [nesting, visits, Visits.nesting_entered, nesting_itemVisits]

theorem nesting_map (entries : Entries Expr) :
    (Expr.map entries).nesting d = (entries.map fun entry => entry.2.nesting d).foldr max 0 + 1 := by
  rw [nesting, visits, Visits.nesting_entered, nesting_paramVisits]

end

theorem room_of_levels {depth limit : Nat} {levels : List Nat} (room : depth + (levels.foldr max 0 + 1) ≤ limit) :
    depth < limit ∧ ∀ level ∈ levels, depth + 1 + level ≤ limit := by
  refine ⟨by omega, fun level mem => ?_⟩
  have le : level ≤ levels.foldr max 0 := List.le_max_of_le' 0 mem (Nat.le_refl level)
  omega

-- ---------------------------------------------------------------------------
-- First faults
-- ---------------------------------------------------------------------------

section
variable {d : Dialect} {limit depth : Nat}

theorem Data.walked {expr : Expr} (data : expr.Data) (room : depth + expr.nesting d ≤ limit) :
    Walked expr.Carries (expr.compileAt ⟨d, limit⟩ depth) := by
  induction data generalizing depth with
  | null | bool | int | string | raw =>
    exact .compiles fun _ _ _ carries => by simp [carries_iff, parts, not_carried_nil] at carries
  | float number =>
    rw [compileAt, Json.ofDouble]
    split
    · next finite =>
      refine .compiles fun other position path carries => ?_
      obtain ⟨rfl, -, -⟩ := carries_float_iff.mp carries
      exact finite
    · next notFinite => exact .fails (.float number) (by simpa using notFinite) fun _ _ _ _ _ => trivial
  | @list items each ih =>
    obtain ⟨level, below⟩ := room_of_levels (nesting_list items ▸ room)
    have walked := walked_items 0 fun item mem => ih item mem (below _ (List.mem_map_of_mem mem))
    exact ((walked.map Json.array).entered level).congr fun _ _ _ => by simp [carries_iff, parts]
  | @map entries named each ih =>
    obtain ⟨level, below⟩ := room_of_levels (nesting_map entries ▸ room)
    have walked := walked_entries fun entry mem => ih entry mem (below _ (List.mem_map_of_mem mem))
    exact ((walked.map Json.object).entered level).congr fun _ _ _ => by simp [carries_iff, parts]

end

theorem FirstFault.unique {expr : Expr} {number number' : Double} {position position' : List Nat} {path path' : Path}
    (fault : expr.FirstFault number position path) (other : expr.FirstFault number' position' path') :
    number = number' ∧ path = path' := by
  have before := fault.first _ _ _ other.carried other.notFinite
  have behind := other.first _ _ _ fault.carried fault.notFinite
  obtain rfl := before.antisymm behind
  exact fault.carried.unique other.carried

end Expr

/-- Data that nests no deeper than the limit fails exactly if a float in it is not
finite. What is reported is the first of these floats, by the place that is written
from the root. -/
theorem first_fault_reported {d : Dialect} {limit : Nat} {expr : Expr} (data : expr.Data)
    (room : expr.nesting d ≤ limit) :
    ((∃ error, expr.compile ⟨d, limit⟩ = .error error) ↔
      ∃ number position path, expr.Carries number position path ∧ number.isFinite = false) ∧
    ∀ error, expr.compile ⟨d, limit⟩ = .error error ↔ ∃ number position path, expr.FirstFault number position path ∧
      error = .malformed path (number.text ++ " is not a finite number") ∧ error.path? = some path.written := by
  have walked : Expr.Walked expr.Carries (expr.compile ⟨d, limit⟩) := data.walked (by rwa [Nat.zero_add])
  generalize expr.compile ⟨d, limit⟩ = result at walked ⊢
  cases walked with
  | compiles finite =>
    refine ⟨iff_of_false nofun ?_, fun error => iff_of_false nofun ?_⟩
    · rintro ⟨number, position, path, carries, notFinite⟩
      simp [finite _ _ _ carries] at notFinite
    · rintro ⟨number, position, path, fault, -⟩
      simpa [finite _ _ _ fault.carried] using fault.notFinite
  | @fails number position path carries notFinite first =>
    have fault : expr.FirstFault number position path := ⟨carries, notFinite, first⟩
    refine ⟨iff_of_true ⟨_, rfl⟩ ⟨number, position, path, carries, notFinite⟩, fun error => ⟨?_, ?_⟩⟩
    · rintro ⟨⟩
      exact ⟨number, position, path, fault, rfl, congrArg some (carries.text_eq_written data)⟩
    · rintro ⟨number', position', path', other, rfl, -⟩
      obtain ⟨rfl, rfl⟩ := fault.unique other
      rfl

/-- A float in a list of a list, behind one that is finite and before another that is not. -/
theorem first_fault_reported_filters :
    let age : Expr := .map [("age", .float .nan)]
    let expr : Expr := .map [("filters", .list [.list [.float .zero, age]]), ("boost", .float (.infinity true))]
    expr.Data ∧ expr.nesting .mapping = 4 ∧ ∃ error number position path,
      expr.compile ⟨.mapping, 4⟩ = .error error ∧ expr.FirstFault number position path ∧
        path.written = "filters[0][1].age" ∧
        error.message = "Malformed parameter at `filters[0][1].age`: NaN is not a finite number" := by
  intro age expr
  have age : age.Data := .map (by decide) (List.forall_mem_singleton.mpr (.float _))
  have inner : (Expr.list [.float .zero, .map [("age", .float .nan)]]).Data :=
    .list (List.forall_mem_cons.mpr ⟨.float _, List.forall_mem_singleton.mpr age⟩)
  have data : expr.Data :=
    .map (by decide) (List.forall_mem_cons.mpr
      ⟨.list (List.forall_mem_singleton.mpr inner), List.forall_mem_singleton.mpr (.float _)⟩)
  have levels : expr.nesting .mapping = 4 := by decide
  obtain ⟨-, reported⟩ := first_fault_reported data (Nat.le_of_eq levels)
  obtain ⟨number, position, path, fault, -, written⟩ := (reported _).mp rfl
  exact ⟨data, levels, _, number, position, path, rfl, fault, (Option.some.inj written).symm, by decide⟩

end SearchWire
