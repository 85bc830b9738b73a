import SearchWire.Proofs.Exchange
import SearchWire.Proofs.Leaves
import SearchWire.Proofs.Settled
import SearchWire.Proofs.Trace
import SearchWire.Proofs.Written

/-!
# Blame

A number that is not finite is reported at the place where it would stand in
the body, provided that every container on the way tells its steps. Some do
not: what is reported then leaves out keys of the place.
-/

namespace SearchWire

namespace Frame

variable {inner outer : PartKind}

theorem abridges (frame : Frame inner outer) : Path.Abridges frame.reports frame.stands := by
  cases frame with
  | queryOperand query =>
    obtain ⟨kind, field, operand, params⟩ := query
    cases params with
    | nil => exact .refl _
    | cons param rest =>
      have named : kind.operandKey ≠ "" := by cases kind <;> decide
      exact .keep _ (.keep _ (.drop (.inl named) .nil))
  | multiMatchOperand query => exact .drop (.inl (by decide)) (.drop (.inl (by decide)) .nil)
  | multiMatchField query gap => exact .drop (.inl (by decide)) (.drop (.inl (by decide)) (.refl _))
  | multiMatchParam query slot => exact .drop (.inl (by decide)) (.refl _)
  | wrappedQuery wrapped =>
    obtain ⟨query, params⟩ := wrapped
    cases params with
    | nil => exact .drop (.inl (by decide)) .nil
    | cons param rest => exact .drop (.inl (by decide)) (.drop (.inl (by decide)) .nil)
  | wrappedParam wrapped slot => exact .drop (.inl (by decide)) (.refl _)
  | booleanOperand filter gap =>
    obtain ⟨operator, operands, params⟩ := filter
    cases params with
    | nil => exact .refl _
    | cons param rest => exact .keep _ (.drop (.inl (by decide)) (.refl _))
  | booleanParam filter slot => exact .drop (.inr (List.cons_ne_nil _ _)) (.refl _)
  | negationOperand filter =>
    obtain ⟨operand, params⟩ := filter
    cases params with
    | nil => exact .refl _
    | cons param rest => exact .keep _ (.drop (.inl (by decide)) .nil)
  | negationParam filter slot => exact .drop (.inl (by decide)) (.refl _)
  | sortParam clause slot => exact .drop (.inr (List.cons_ne_nil _ _)) (.refl _)
  | metricParam name slot => exact .drop (.inr (List.cons_ne_nil _ _)) (.refl _)
  | bucketParam name slot subs => exact .drop (.inr (List.cons_ne_nil _ _)) (.refl _)
  | rescoreQuery rescorer => exact .drop (.inl (by decide)) (.refl _)
  | _ => exact .refl _

theorem told_iff (frame : Frame inner outer) : frame.reports = frame.stands ↔ frame.told := by
  cases frame with
  | queryOperand query =>
    obtain ⟨kind, field, operand, params⟩ := query
    cases params <;> simp [reports, stands, told]
  | wrappedQuery wrapped =>
    obtain ⟨query, params⟩ := wrapped
    cases params <;> simp [reports, stands, told]
  | booleanOperand filter gap =>
    obtain ⟨operator, operands, params⟩ := filter
    cases params <;> simp [reports, stands, told]
  | negationOperand filter =>
    obtain ⟨operand, params⟩ := filter
    cases params <;> simp [reports, stands, told]
  | _ => simp [reports, stands, told]

end Frame

namespace Hole

variable {kind : PartKind}

theorem abridges (hole : Hole kind) : Path.Abridges hole.reports hole.stands := by
  induction hole with
  | number => exact .nil
  | queryWeight rescorer => exact .drop (.inl (by decide)) (.drop (.inl (by decide)) .nil)
  | rescoreQueryWeight rescorer => exact .drop (.inl (by decide)) (.drop (.inl (by decide)) .nil)
  | inside frame hole ih => exact frame.abridges.append ih

theorem told_iff (hole : Hole kind) : hole.reports = hole.stands ↔ hole.told := by
  induction hole with
  | number => simp [reports, stands, told]
  | queryWeight rescorer => simp [reports, stands, told]
  | rescoreQueryWeight rescorer => simp [reports, stands, told]
  | inside frame hole ih =>
    rw [reports, stands, frame.abridges.append_eq_append_iff hole.abridges, frame.told_iff, ih, told,
      Bool.and_eq_true]

variable {limit : Nat} {number : Double} {body : Json}

theorem check_of_compile {hole : Hole .expr} (h : Expr.compile ⟨.query, limit⟩ (hole.fill number) = .ok body) :
    Visits.check ⟨.query, limit⟩ 0 (PartKind.expr.visits (hole.fill number)) = .ok () := by
  rw [Expr.compile_eq, Visits.bind_ok_eq_ok_iff, ← Visits.check_eq_ok_iff] at h
  exact h.1

theorem compile_finite {hole : Hole .expr} (h : Expr.compile ⟨.query, limit⟩ (hole.fill number) = .ok body)
    (finite : number.isFinite) {other : Double} (finite' : other.isFinite) :
    Expr.compile ⟨.query, limit⟩ (hole.fill other) = .ok (PartKind.expr.form (hole.fill other)) := by
  have pass := hole.follows finite other 0 (check_of_compile h)
  rw [Double.verdict, if_pos finite', Path.report_ok] at pass
  rw [Expr.compile_eq]
  exact (congrArg (· >>= _) pass)

theorem compile_notFinite {hole : Hole .expr} (h : Expr.compile ⟨.query, limit⟩ (hole.fill number) = .ok body)
    (finite : number.isFinite) {other : Double} (notFinite : other.isFinite = false) :
    Expr.compile ⟨.query, limit⟩ (hole.fill other) =
      .error (.malformed hole.reports (other.text ++ " is not a finite number")) := by
  have fault := hole.follows finite other 0 (check_of_compile h)
  rw [Double.verdict, if_neg (by simp [notFinite]), Error.malformedHere, Path.report_malformed,
    List.append_nil] at fault
  rw [Expr.compile_eq]
  exact (congrArg (· >>= _) fault)

theorem EndsAt.eq_stands {hole : Hole .expr} {place : Path} (ends : hole.EndsAt ⟨.query, limit⟩ place)
    (h : Expr.compile ⟨.query, limit⟩ (hole.fill number) = .ok body) (finite : number.isFinite) :
    place = hole.stands :=
  Hole.eq_stands hole fun other finite' => ends other _ finite' (compile_finite h finite finite')

end Hole

/-- Whatever number is read while an expression compiles, the expression is a hole around it.
Put a number that is not finite there, and it is reported where the other one was read;
that is where the number ends up in a body exactly if no step is lost. -/
theorem Expr.malformed_where_read {limit : Nat} {expr : Expr} {body : Json} {number : Double} {place : Path}
    (compiles : expr.compile ⟨.query, limit⟩ = .ok body) (read : Visits.Reads (expr.visits .query) number place) :
    ∃ hole : Hole .expr, hole.fill number = expr ∧
      (∀ other : Double, other.isFinite = false → Expr.compile ⟨.query, limit⟩ (hole.fill other) =
        .error (.malformed place (other.text ++ " is not a finite number"))) ∧
      ∀ stood, hole.EndsAt ⟨.query, limit⟩ stood → (place = stood ↔ hole.told) := by
  obtain ⟨hole, rfl, rfl⟩ := expr.exists_hole read
  have finite : number.isFinite := Visits.check_eq_ok_iff.mp (Hole.check_of_compile compiles) _ read
  refine ⟨hole, rfl, fun other notFinite => Hole.compile_notFinite compiles finite notFinite, fun stood ends => ?_⟩
  rw [ends.eq_stands compiles finite, hole.told_iff]

/-- Put a number that is not finite where a finite one ends up in a body, and
a malformed value is reported; its path is the place in the body exactly if no
step is lost on the way, and it reads as that place exactly if moreover the
keys on the way can be told apart. -/
theorem malformed_path_exact {limit : Nat} {hole : Hole .expr} {number other : Double} {body : Json}
    {place : Path} (compiles : Expr.compile ⟨.query, limit⟩ (hole.fill number) = .ok body)
    (finite : number.isFinite) (ends : hole.EndsAt ⟨.query, limit⟩ place) (notFinite : other.isFinite = false) :
    ∃ error, Expr.compile ⟨.query, limit⟩ (hole.fill other) = .error error ∧
      error = .malformed hole.reports (other.text ++ " is not a finite number") ∧
      (hole.reports = place ↔ hole.told) ∧
      (error.path? = some place.written ↔ hole.told ∧ place.plain) := by
  obtain rfl := ends.eq_stands compiles finite
  refine ⟨_, Hole.compile_notFinite compiles finite notFinite, rfl, hole.told_iff, ?_⟩
  rw [Error.path?, Option.some_inj, Path.text_eq_written_iff hole.abridges, hole.told_iff]

def Hole.tieBreaker : Hole .expr :=
  .inside (.multiMatchParam ⟨.string "x", [.string "title"], []⟩ ⟨[], "tie_breaker", []⟩) .number

theorem malformed_path_tieBreaker :
    Hole.tieBreaker.EndsAt ⟨.query, 8⟩ [.key "multi_match", .key "tie_breaker"] ∧
      ∃ error, Expr.compile ⟨.query, 8⟩ (Hole.tieBreaker.fill .nan) = .error error ∧
        error = .malformed [.key "tie_breaker"] "NaN is not a finite number" ∧
        error.path? ≠ some "multi_match.tie_breaker" := by
  have ends : Hole.tieBreaker.EndsAt ⟨.query, 8⟩ [.key "multi_match", .key "tie_breaker"] := by
    intro number body _ h
    rw [Expr.compile_eq, Visits.bind_ok_eq_ok_iff] at h
    obtain ⟨-, rfl⟩ := h
    rfl
  have compiles : ∃ body, Expr.compile ⟨.query, 8⟩ (Hole.tieBreaker.fill .zero) = .ok body := ⟨_, rfl⟩
  have notFinite : (.nan : Double).isFinite = false := by decide
  obtain ⟨body, compiles⟩ := compiles
  obtain ⟨error, fails, rfl, -, exact⟩ := malformed_path_exact compiles (by decide) ends notFinite
  refine ⟨ends, _, fails, rfl, fun path => ?_⟩
  have written : Path.written [.key "multi_match", .key "tie_breaker"] = "multi_match.tie_breaker" := by decide
  have told := (exact.mp (path.trans (congrArg some written.symm))).1
  exact absurd told (by decide)

end SearchWire
