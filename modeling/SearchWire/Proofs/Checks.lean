import Mathlib.Data.List.Enum
import SearchWire.Proofs.Visits

/-!
# Checks

How checks of visits compose, when they pass, and what their failures say.
A check passes when every demand is met; a failure is that of a demand that
is not met, at the place of its visit.
-/

namespace SearchWire

-- ---------------------------------------------------------------------------
-- Results
-- ---------------------------------------------------------------------------

namespace Result

variable {α β : Type}

@[simp] theorem pure_eq (value : α) : (pure value : Result α) = .ok value := rfl

@[simp] theorem ok_bind (value : α) (next : α → Result β) : (Except.ok value >>= next) = next value := rfl

@[simp] theorem error_bind (error : Error) (next : α → Result β) :
    (Except.error error >>= next) = .error error := rfl

@[simp] theorem atKey_ok (key : String) (value : α) : atKey key (.ok value) = .ok value := rfl

theorem atKey_error (key : String) (error : Error) :
    atKey key (.error error : Result α) = .error (error.atKey key) := rfl

@[simp] theorem atIndex_ok (position : Nat) (value : α) : atIndex position (.ok value) = .ok value := rfl

@[simp] theorem atKey_bind (key : String) (first : Result α) (next : α → Result β) :
    atKey key (first >>= next) = atKey key first >>= fun value => atKey key (next value) := by
  cases first <;> rfl

@[simp] theorem atIndex_bind (position : Nat) (first : Result α) (next : α → Result β) :
    atIndex position (first >>= next) =
      atIndex position first >>= fun value => atIndex position (next value) := by
  cases first <;> rfl

variable {result : Result α} {value : α}

theorem bind_eq_ok_iff {next : α → Result β} {value : β} :
    (result >>= next) = .ok value ↔ ∃ first, result = .ok first ∧ next first = .ok value := by
  cases result <;> simp

theorem mapError_eq_ok_iff {change : Error → Error} :
    Except.mapError change result = .ok value ↔ result = .ok value := by
  cases result with
  | ok given => rfl
  | error error => exact ⟨nofun, nofun⟩

theorem atKey_eq_ok_iff {key : String} : atKey key result = .ok value ↔ result = .ok value :=
  mapError_eq_ok_iff

theorem atIndex_eq_ok_iff {position : Nat} : atIndex position result = .ok value ↔ result = .ok value :=
  mapError_eq_ok_iff

theorem forM_eq_ok_iff {check : α → Result Unit} {items : List α} :
    items.forM check = .ok () ↔ ∀ item ∈ items, check item = .ok () := by
  induction items with
  | nil => simp [List.forM]
  | cons item rest ih =>
    rw [List.forall_mem_cons, ← ih, List.forM]
    cases check item <;> simp

end Result

-- ---------------------------------------------------------------------------
-- Checks
-- ---------------------------------------------------------------------------

namespace Visits

variable (c : Compiler) (depth : Nat)

@[simp] theorem check_nil : check c depth [] = .ok () := rfl

@[simp] theorem check_cons (visit : Visit) (rest : Visits) :
    check c depth (visit :: rest) = visit.check c depth >>= fun _ => check c depth rest := rfl

@[simp] theorem check_append (first second : Visits) :
    check c depth (first ++ second) = check c depth first >>= fun _ => check c depth second := by
  induction first with
  | nil => rfl
  | cons visit rest ih => simp [ih]

theorem check_under (step : Step) (visits : Visits) :
    check c depth (under step visits) = Except.mapError (Error.within step) (check c depth visits) := by
  induction visits with
  | nil => rfl
  | cons visit rest ih =>
    have head : (visit.under step).check c depth =
        Except.mapError (Error.within step) (visit.check c depth) := by
      cases met : visit.demand.met c depth <;> simp only [Visit.check, Visit.under, met] <;> rfl
    simp only [under] at ih
    simp only [under, List.map_cons, check_cons, head, ih]
    cases visit.check c depth <;> rfl

@[simp] theorem check_under_key (key : String) (visits : Visits) :
    check c depth (under (.key key) visits) = Result.atKey key (check c depth visits) :=
  check_under c depth (.key key) visits

@[simp] theorem check_under_index (position : Nat) (visits : Visits) :
    check c depth (under (.index position) visits) = Result.atIndex position (check c depth visits) :=
  check_under c depth (.index position) visits

theorem check_deeper (visit : Visit) : visit.deeper.check c depth = visit.check c (depth + 1) := by
  obtain ⟨place, demand⟩ := visit
  cases demand with
  | level extra =>
    simp [Visit.deeper, Visit.check, Visit.fault, Demand.met, Demand.fault, Nat.add_comm, Nat.add_left_comm]
  | _ => rfl

@[simp] theorem check_entered (visits : Visits) :
    check c depth (entered visits) = c.enter depth >>= fun depth => check c depth visits := by
  have inside : check c depth (visits.map Visit.deeper) = check c (depth + 1) visits := by
    induction visits with
    | nil => rfl
    | cons visit rest ih => simp [check_deeper, ih]
  by_cases room : depth < c.maxDepth <;>
    simp [entered, Visit.here, Visit.check, Visit.fault, Demand.met, Demand.fault, Compiler.enter,
      room, inside]

@[simp] theorem check_enteredUnless (empty : Bool) (visits : Visits) :
    check c depth (enteredUnless empty visits) =
      c.enterUnless empty depth >>= fun depth => check c depth visits := by
  cases empty <;> simp [enteredUnless, Compiler.enterUnless]

end Visits

@[simp] theorem Visit.check_node (c : Compiler) (depth : Nat) (inner : Node) :
    (Visit.here (.node inner)).check c depth =
      if c.dialect.supports inner then .ok () else .error (c.unsupported inner) := rfl

-- ---------------------------------------------------------------------------
-- Verdicts
-- ---------------------------------------------------------------------------

theorem Error.within_malformed (place path : Path) (reason : String) :
    place.foldr within (.malformed path reason) = .malformed (place ++ path) reason := by
  induction place with
  | nil => rfl
  | cons step rest ih => rw [List.foldr_cons, ih]; rfl

theorem Error.within_of_path_none (place : Path) {error : Error} (h : error.path? = none) :
    place.foldr within error = error := by
  induction place with
  | nil => rfl
  | cons step rest ih =>
    rw [List.foldr_cons, ih]
    cases error with
    | malformed path reason => simp [path?] at h
    | _ => rfl

theorem Visit.fault_level (c : Compiler) (place : Path) (extra : Nat) :
    fault c ⟨place, .level extra⟩ = .depthExceeded c.maxDepth := Error.within_of_path_none place rfl

theorem Visit.fault_finite (c : Compiler) (place : Path) (number : Double) :
    fault c ⟨place, .finite number⟩ = .malformed place (number.text ++ " is not a finite number") :=
  (Error.within_malformed place [] _).trans (by rw [List.append_nil])

theorem Visit.fault_names (c : Compiler) (place : Path) (target : Expr) :
    fault c ⟨place, .names target⟩ =
      .malformed place ("expected a field name, got " ++ (target.form c.dialect).text) :=
  (Error.within_malformed place [] _).trans (by rw [List.append_nil])

theorem Visit.fault_node (c : Compiler) (place : Path) (inner : Node) :
    fault c ⟨place, .node inner⟩ = c.unsupported inner := Error.within_of_path_none place rfl

namespace Visits

variable {c : Compiler} {depth : Nat} {visits : Visits}

theorem check_eq_ok_iff :
    check c depth visits = .ok () ↔ ∀ visit ∈ visits, visit.demand.met c depth := by
  induction visits with
  | nil => simp
  | cons visit rest ih =>
    cases met : visit.demand.met c depth <;> simp [Visit.check, met, ih]

theorem exists_of_check_eq_error {error : Error} (h : check c depth visits = .error error) :
    ∃ visit ∈ visits, visit.demand.met c depth = false ∧ error = visit.fault c := by
  induction visits with
  | nil => simp at h
  | cons visit rest ih =>
    cases met : visit.demand.met c depth with
    | false =>
      refine ⟨visit, List.mem_cons_self, met, ?_⟩
      simpa [Visit.check, met, eq_comm] using h
    | true =>
      obtain ⟨other, mem, unmet, eq⟩ := ih (by simpa [Visit.check, met] using h)
      exact ⟨other, List.mem_cons_of_mem _ mem, unmet, eq⟩

theorem bind_ok_eq_ok_iff {α : Type} {value result : α} :
    (check c depth visits >>= fun _ => .ok value) = .ok result ↔
      (∀ visit ∈ visits, visit.demand.met c depth) ∧ value = result := by
  rw [← check_eq_ok_iff]
  cases check c depth visits <;> simp

theorem bind_ok_eq_error_iff {α : Type} {value : α} {error : Error} :
    (check c depth visits >>= fun _ => .ok value) = .error error ↔ check c depth visits = .error error := by
  cases check c depth visits <;> simp

theorem check_append_eq_ok_iff {first second : Visits} : check c depth (first ++ second) = .ok () ↔
    check c depth first = .ok () ∧ check c depth second = .ok () := by
  rw [check_eq_ok_iff, check_eq_ok_iff, check_eq_ok_iff]
  exact List.forall_mem_append

theorem check_under_eq_ok_iff {step : Step} :
    check c depth (under step visits) = .ok () ↔ check c depth visits = .ok () := by
  simp [check_eq_ok_iff, under, Visit.under]

theorem check_entered_eq_ok_iff : check c depth (entered visits) = .ok () ↔
    depth < c.maxDepth ∧ check c (depth + 1) visits = .ok () := by
  rw [check_entered, Compiler.enter]
  by_cases room : depth < c.maxDepth <;> simp [room]

/-- Visits that pass further in pass further out. -/
theorem check_eq_ok_mono {outer : Nat} (le : outer ≤ depth) (h : check c depth visits = .ok ()) :
    check c outer visits = .ok () := by
  rw [check_eq_ok_iff] at h ⊢
  intro visit mem
  obtain ⟨place, demand⟩ := visit
  have met := h _ mem
  cases demand with
  | level extra => simp only [Demand.met, decide_eq_true_eq] at met ⊢; omega
  | _ => exact met

theorem nesting_le_iff {limit : Nat} : nesting visits ≤ limit ↔ ∀ visit ∈ visits, visit.levels ≤ limit := by
  induction visits with
  | nil => simp [nesting]
  | cons visit rest ih =>
    rw [List.forall_mem_cons, ← ih]
    exact Nat.max_le

theorem check_flatMap_eq_ok_iff {α : Type} {list : List α} {visits : α → Visits} :
    check c depth (list.flatMap visits) = .ok () ↔ ∀ item ∈ list, check c depth (visits item) = .ok () := by
  simp only [check_eq_ok_iff, List.forall_mem_flatMap]

theorem check_itemVisits_eq_ok_iff {d : Dialect} {items : List Expr} {position : Nat} :
    check c depth (itemVisits d items position) = .ok () ↔
      ∀ item ∈ items, check c depth (item.visits d) = .ok () := by
  rw [itemVisits_eq_flatMap, check_flatMap_eq_ok_iff, List.forall_mem_zipIdx, List.forall_mem_iff_getElem]
  simp only [check_under_eq_ok_iff]

theorem check_queryNode_eq_ok_iff {limit : Nat} {inner : Node} :
    check ⟨.query, limit⟩ depth ((Expr.node inner).visits .query) = .ok () ↔
      depth < limit ∧ Dialect.query.supports inner ∧
        check ⟨.query, limit⟩ (depth + 1) (inner.queryVisits .query) = .ok () := by
  rw [Expr.visits, check_entered_eq_ok_iff, check_eq_ok_iff, check_eq_ok_iff, List.forall_mem_cons]
  rfl

end Visits

end SearchWire
