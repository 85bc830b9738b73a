import SearchWire.Proofs.Settled

/-!
# The limit is a threshold

Visits ask for nothing but room of the limit. So what compiles under one
limit compiles to the same body under every limit that its nesting keeps to,
and fails for want of room under every other.
-/

namespace SearchWire

/-- From some limit on a computation gives one and the same body; below it,
it fails for want of room. -/
def SharpThreshold (run : Nat → Result Json) : Prop :=
  ∀ limit json, run limit = .ok json → ∃ least, ∀ other,
    (least ≤ other → run other = .ok json) ∧ (other < least → run other = .error (.depthExceeded other))

namespace Visits

variable {d : Dialect} {limit : Nat} {visits : Visits}

theorem met_or_level (met : ∀ visit ∈ visits, visit.demand.met ⟨d, limit⟩ 0) (other : Nat) {visit : Visit}
    (mem : visit ∈ visits) :
    visit.demand.met ⟨d, other⟩ 0 ∨ ∃ place extra, visit = ⟨place, .level extra⟩ := by
  obtain ⟨place, demand⟩ := visit
  cases demand with
  | level extra => exact .inr ⟨place, extra, rfl⟩
  | finite number => exact .inl (met _ mem)
  | names target => exact .inl (met _ mem)
  | node inner => exact .inl (met _ mem)

theorem check_of_nesting_le (met : ∀ visit ∈ visits, visit.demand.met ⟨d, limit⟩ 0) {other : Nat}
    (room : visits.nesting ≤ other) : check ⟨d, other⟩ 0 visits = .ok () := by
  rw [check_eq_ok_iff]
  intro visit mem
  obtain same | ⟨place, extra, rfl⟩ := met_or_level met other mem
  · exact same
  · simpa [Demand.met, Visit.levels, Nat.succ_le_iff] using nesting_le_iff.mp room _ mem

theorem check_of_lt_nesting (met : ∀ visit ∈ visits, visit.demand.met ⟨d, limit⟩ 0) {other : Nat}
    (deep : other < visits.nesting) : check ⟨d, other⟩ 0 visits = .error (.depthExceeded other) := by
  cases outcome : check ⟨d, other⟩ 0 visits with
  | ok _ =>
    rw [check_eq_ok_iff] at outcome
    refine absurd (nesting_le_iff.mpr fun visit mem => ?_) (Nat.not_le_of_lt deep)
    obtain ⟨place, demand⟩ := visit
    cases demand with
    | level extra => simpa [Demand.met, Visit.levels, Nat.succ_le_iff] using outcome _ mem
    | _ => exact Nat.zero_le other
  | error error =>
    obtain ⟨visit, mem, unmet, rfl⟩ := exists_of_check_eq_error outcome
    obtain same | ⟨place, extra, rfl⟩ := met_or_level met other mem
    · simp [same] at unmet
    · rw [Visit.fault_level]

theorem sharpThreshold (d : Dialect) (visits : Visits) (json : Json) :
    SharpThreshold fun limit => check ⟨d, limit⟩ 0 visits >>= fun _ => .ok json := by
  intro limit result h
  obtain ⟨met, rfl⟩ := bind_ok_eq_ok_iff.mp h
  refine ⟨visits.nesting, fun other => ⟨fun room => ?_, fun deep => ?_⟩⟩
  · simp [check_of_nesting_le met room]
  · simp [check_of_lt_nesting met deep]

end Visits

/-- The limit decides whether there is room and nothing else, whatever is
compiled. -/
theorem depth_limit_sharp :
    (∀ (d : Dialect) (expr : Expr), SharpThreshold fun limit => expr.compile ⟨d, limit⟩) ∧
    (∀ search : Search, SharpThreshold fun limit => search.compile ⟨limit⟩) ∧
    (∀ aggregations : Aggregations, SharpThreshold fun limit => aggregations.compile ⟨limit⟩) ∧
    (∀ document : Document, SharpThreshold fun limit => document.compile ⟨limit⟩) ∧
    ∀ field : Field, SharpThreshold fun limit => field.mapping ⟨limit⟩ 0 := by
  refine ⟨fun d expr => ?_, fun search => ?_, fun aggregations => ?_, fun document => ?_, fun field => ?_⟩
  · simp only [Expr.compile_eq]
    exact Visits.sharpThreshold d _ _
  · simp only [Search.compile_eq, Config.compiler]
    exact Visits.sharpThreshold .query _ _
  · simp only [Aggregations.compile_eq, Config.compiler]
    exact Visits.sharpThreshold .query _ _
  · simp only [Document.compile_eq, Config.compiler]
    exact Visits.sharpThreshold .mapping _ _
  · simp only [Field.mapping_eq, Config.compiler]
    exact Visits.sharpThreshold .mapping _ _

theorem depth_limit_sharp_lists :
    ∃ least, ∀ other,
      (least ≤ other → (Expr.list [.list []]).compile ⟨.query, other⟩ = .ok (.array [.array []])) ∧
      (other < least → (Expr.list [.list []]).compile ⟨.query, other⟩ = .error (.depthExceeded other)) :=
  depth_limit_sharp.1 .query (.list [.list []]) 2 _ rfl

end SearchWire
