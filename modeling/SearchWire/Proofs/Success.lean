import SearchWire.Proofs.Settled

/-!
# When expressions compile

An expression compiles exactly if its nesting keeps to the limit and every
other demand of its visits is met, and each kind of failure shows a demand
that is not. In search requests the demands say: floats are finite, no
document is met, and what stands for a field name is one by its form.
-/

namespace SearchWire

namespace Expr

/-- Somewhere in the expression the dialect makes a demand. -/
def Demands (d : Dialect) (expr : Expr) (demand : Demand) : Prop := ∃ place, ⟨place, demand⟩ ∈ expr.visits d

def nesting (d : Dialect) (expr : Expr) : Nat := (expr.visits d).nesting

/-- The expressions that stand for a field name in search requests. -/
def NamesField : Expr → Prop
  | .string _ => True
  | .raw (.string _) => True
  | .node (.field _) => True
  | .node (.metaField _) => True
  | .node (.boost _) => True
  | .node (.sort ⟨target, none, []⟩) => target.NamesField
  | _ => False

end Expr

-- ---------------------------------------------------------------------------
-- Either dialect
-- ---------------------------------------------------------------------------

section
variable {d : Dialect} {limit : Nat} {expr : Expr}

theorem Expr.compile_eq_ok_iff {json : Json} : expr.compile ⟨d, limit⟩ = .ok json ↔
    (∀ visit ∈ expr.visits d, visit.demand.met ⟨d, limit⟩ 0) ∧ expr.form d = json := by
  rw [Expr.compile, Expr.compileAt_eq]
  exact Visits.bind_ok_eq_ok_iff

theorem Expr.nesting_le_iff : expr.nesting d ≤ limit ↔
    ∀ extra, expr.Demands d (.level extra) → extra < limit := by
  rw [nesting, Visits.nesting_le_iff]
  constructor
  · rintro h extra ⟨place, mem⟩
    exact h _ mem
  · rintro h ⟨place, demand⟩ mem
    cases demand with
    | level extra => exact h extra ⟨place, mem⟩
    | _ => exact Nat.zero_le limit

theorem Expr.exists_compile_eq_ok_iff : (∃ json, expr.compile ⟨d, limit⟩ = .ok json) ↔
    expr.nesting d ≤ limit ∧
    (∀ number, expr.Demands d (.finite number) → number.isFinite) ∧
    (∀ target, expr.Demands d (.names target) → (target.form d).isText) ∧
    (∀ inner, expr.Demands d (.node inner) → d.supports inner) := by
  simp only [compile_eq_ok_iff, exists_and_left, exists_eq', and_true, nesting_le_iff]
  constructor
  · intro met
    refine ⟨?_, ?_, ?_, ?_⟩
    · rintro extra ⟨place, mem⟩
      simpa [Demand.met] using met _ mem
    · rintro number ⟨place, mem⟩
      exact met _ mem
    · rintro target ⟨place, mem⟩
      exact met _ mem
    · rintro inner ⟨place, mem⟩
      exact met _ mem
  · rintro ⟨levels, numbers, targets, nodes⟩ ⟨place, demand⟩ mem
    cases demand with
    | level extra => simpa [Demand.met] using levels extra ⟨place, mem⟩
    | finite number => exact numbers number ⟨place, mem⟩
    | names target => exact targets target ⟨place, mem⟩
    | node inner => exact nodes inner ⟨place, mem⟩

theorem Expr.compile_eq_error {error : Error} (h : expr.compile ⟨d, limit⟩ = .error error) :
    (error = .depthExceeded limit ∧ limit < expr.nesting d) ∨
    (∃ place number, error = .malformed place (number.text ++ " is not a finite number") ∧
      expr.Demands d (.finite number) ∧ number.isFinite = false) ∨
    (∃ place target, error = .malformed place ("expected a field name, got " ++ (target.form d).text) ∧
      expr.Demands d (.names target) ∧ (target.form d).isText = false) ∨
    (∃ inner, error = .unsupportedNode inner.tag d.name ∧
      expr.Demands d (.node inner) ∧ d.supports inner = false) := by
  rw [Expr.compile, Expr.compileAt_eq, Visits.bind_ok_eq_error_iff] at h
  obtain ⟨⟨place, demand⟩, mem, unmet, rfl⟩ := Visits.exists_of_check_eq_error h
  cases demand with
  | level extra =>
    refine .inl ⟨Visit.fault_level _ place extra, Nat.lt_of_not_le fun fits => ?_⟩
    have room := nesting_le_iff.mp fits extra ⟨place, mem⟩
    simp [Demand.met, Nat.not_le_of_lt room] at unmet
  | finite number => exact .inr (.inl ⟨place, number, Visit.fault_finite _ place number, ⟨place, mem⟩, unmet⟩)
  | names target =>
    exact .inr (.inr (.inl ⟨place, target, Visit.fault_names _ place target, ⟨place, mem⟩, unmet⟩))
  | node inner => exact .inr (.inr (.inr ⟨inner, Visit.fault_node _ place inner, ⟨place, mem⟩, unmet⟩))

end

-- ---------------------------------------------------------------------------
-- Search requests
-- ---------------------------------------------------------------------------

theorem Dialect.query_supports_iff {inner : Node} :
    Dialect.query.supports inner ↔ ∀ document, inner ≠ .document document := by
  cases inner <;> simp [supports]

theorem Expr.isText_form_iff : (expr : Expr) → ((expr.form .query).isText ↔ expr.NamesField)
  | .null => by simp [form, Json.isText, NamesField]
  | .bool _ => by simp [form, Json.isText, NamesField]
  | .int _ => by simp [form, Json.isText, NamesField]
  | .float _ => by simp [form, Json.isText, NamesField]
  | .string _ => by simp [form, Json.isText, NamesField]
  | .list _ => by simp [form, Json.isText, NamesField]
  | .map _ => by simp [form, Json.isText, NamesField]
  | .raw json => by cases json <;> simp [form, Json.isText, NamesField]
  | .node (.field _) => by simp [form, Node.queryForm, Json.isText, NamesField]
  | .node (.metaField _) => by simp [form, Node.queryForm, Json.isText, NamesField]
  | .node (.boost ⟨_, _⟩) => by simp [form, Node.queryForm, Boost.form, Json.isText, NamesField]
  | .node (.sort ⟨target, none, []⟩) => by
    simpa [form, Node.queryForm, SortClause.form, paramForms, NamesField] using target.isText_form_iff
  | .node (.sort ⟨_, none, _ :: _⟩) => by
    simp [form, Node.queryForm, SortClause.form, paramForms, Json.isText, Json.single, NamesField]
  | .node (.sort ⟨_, some _, params⟩) => by
    cases params <;>
      simp [form, Node.queryForm, SortClause.form, paramForms, Json.isText, Json.single, NamesField]
  | .node (.fieldQuery ⟨_, _, _, _⟩) => by
    simp [form, Node.queryForm, FieldQuery.form, Json.isText, Json.single, NamesField]
  | .node (.named ⟨_, _⟩) => by
    simp [form, Node.queryForm, NamedQuery.form, Json.isText, Json.single, NamesField]
  | .node (.range ⟨_, _, _⟩) => by
    simp [form, Node.queryForm, Range.form, Json.isText, Json.single, NamesField]
  | .node (.terms ⟨_, _, _⟩) => by
    simp [form, Node.queryForm, Terms.form, Json.isText, Json.single, NamesField]
  | .node (.multiMatch ⟨_, _, _⟩) => by
    simp [form, Node.queryForm, MultiMatch.form, Json.isText, Json.single, NamesField]
  | .node (.wrapped ⟨_, params⟩) => by
    cases params <;> simp [form, Node.queryForm, WrappedQuery.form, paramForms, Json.isText, Json.single,
      Json.withParams, NamesField]
  | .node (.boolean ⟨_, _, _⟩) => by
    simp [form, Node.queryForm, BooleanFilter.form, Json.isText, Json.single, NamesField]
  | .node (.negation ⟨_, _⟩) => by
    simp [form, Node.queryForm, Negation.form, Json.isText, Json.single, NamesField]
  | .node (.aggregation aggregation) => by
    cases aggregation <;> simp [form, Node.queryForm, Aggregation.form, Json.isText, Json.single,
      Json.withParams, NamesField]
  | .node (.source source) => by
    cases source <;> simp [form, Node.queryForm, SourceFilter.form, Json.isText, NamesField]
  | .node (.rescore ⟨_, _, _, _, _⟩) => by
    simp [form, Node.queryForm, Rescorer.form, Json.isText, NamesField]
  | .node (.search ⟨_, _, _, _, _, _, _, _, _, _⟩) => by
    simp [form, Node.queryForm, Search.form, Json.isText, NamesField]
  | .node (.document _) => by simp [form, Node.queryForm, Json.isText, NamesField]

/-- Exactly the expressions without a fault compile for a search request,
and a failure tells which kind of fault there is. -/
theorem Expr.compile_query_exact (limit : Nat) (expr : Expr) :
    ((∃ json, expr.compile ⟨.query, limit⟩ = .ok json) ↔
      expr.nesting .query ≤ limit ∧
      (∀ number, expr.Demands .query (.finite number) → number.isFinite) ∧
      (∀ document, ¬ expr.Demands .query (.node (.document document))) ∧
      (∀ target, expr.Demands .query (.names target) → target.NamesField)) ∧
    ∀ error, expr.compile ⟨.query, limit⟩ = .error error →
      (error = .unsupportedNode "document" "query" ∧
        ∃ document, expr.Demands .query (.node (.document document))) ∨
      ((∃ place reason, error = .malformed place reason) ∧
        ((∃ number, expr.Demands .query (.finite number) ∧ ¬ number.isFinite) ∨
          ∃ target, expr.Demands .query (.names target) ∧ ¬ target.NamesField)) ∨
      (error = .depthExceeded limit ∧ limit < expr.nesting .query) := by
  constructor
  · rw [exists_compile_eq_ok_iff]
    simp only [isText_form_iff, Dialect.query_supports_iff]
    constructor
    · rintro ⟨levels, numbers, targets, nodes⟩
      exact ⟨levels, numbers, fun document demand => nodes _ demand document rfl, targets⟩
    · rintro ⟨levels, numbers, documents, targets⟩
      exact ⟨levels, numbers, targets, fun inner demand document eq => documents document (eq ▸ demand)⟩
  · intro error h
    obtain deep | ⟨place, number, eq, demand, infinite⟩ | ⟨place, target, eq, demand, nameless⟩ |
      ⟨inner, eq, demand, unsupported⟩ := compile_eq_error h
    · exact .inr (.inr deep)
    · exact .inr (.inl ⟨⟨_, _, eq⟩, .inl ⟨number, demand, by simp [infinite]⟩⟩)
    · refine .inr (.inl ⟨⟨_, _, eq⟩, .inr ⟨target, demand, fun named => ?_⟩⟩)
      simp [target.isText_form_iff.mpr named] at nameless
    · cases inner with
      | document document => exact .inl ⟨eq, document, demand⟩
      | _ => simp [Dialect.supports] at unsupported

end SearchWire
