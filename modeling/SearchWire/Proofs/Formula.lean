import SearchWire.Proofs.Place
import SearchWire.Proofs.Settled
import SearchWire.Query.Operand

/-!
# Formulas on the wire

A formula is a filter as it is written down: queries of fields under
operators and under groups that name theirs. The operators change the tree
while it grows, so the body that a formula compiles to has another shape;
read back as a formula over the bodies of its leaves, it has the same truth
value. So have the filters of a search, joined into one.
-/

namespace SearchWire

inductive Leaf where
  | fieldQuery (query : FieldQuery)
  | range (range : Range)
  | terms (terms : Terms)

def Leaf.expr : Leaf → Expr
  | .fieldQuery query => .node (.fieldQuery query)
  | .range bounds => .node (.range bounds)
  | .terms listed => .node (.terms listed)

mutual
inductive Formula where
  | leaf (leaf : Leaf)
  | and (left right : Formula)
  | or (left right : Formula)
  | not (operand : Formula)
  | group (group : Group)

inductive Group where
  | new (operator : BoolOperator) (operands : List Formula)
  | push (group : Group) (operand : Formula)
end

-- ---------------------------------------------------------------------------
-- The filters that formulas build
-- ---------------------------------------------------------------------------

mutual
def Formula.expr : Formula → Expr
  | .leaf leaf => leaf.expr
  | .and left right => left.expr.and right.expr
  | .or left right => left.expr.or right.expr
  | .not operand => operand.expr.not
  | .group group => .ofBoolean group.filter

def Group.filter : Group → BooleanFilter
  | .new operator operands => .new operator (formulaExprs operands)
  | .push group operand => group.filter.push operand.expr

def formulaExprs : List Formula → List Expr
  | [] => []
  | formula :: rest => formula.expr :: formulaExprs rest
end

mutual
def Formula.leaves : Formula → List Leaf
  | .leaf leaf => [leaf]
  | .and left right => left.leaves ++ right.leaves
  | .or left right => left.leaves ++ right.leaves
  | .not operand => operand.leaves
  | .group group => group.leaves

def Group.leaves : Group → List Leaf
  | .new _ operands => formulaLeaves operands
  | .push group operand => group.leaves ++ operand.leaves

def formulaLeaves : List Formula → List Leaf
  | [] => []
  | formula :: rest => formula.leaves ++ formulaLeaves rest
end

-- ---------------------------------------------------------------------------
-- Truth
-- ---------------------------------------------------------------------------

def BoolOperator.join : BoolOperator → List Bool → Bool
  | .and, values => values.all id
  | .or, values => values.any id

def Group.operator : Group → BoolOperator
  | .new operator _ => operator
  | .push group _ => group.operator

section
variable (value : Leaf → Bool)

mutual
def Formula.holds : Formula → Bool
  | .leaf leaf => value leaf
  | .and left right => left.holds && right.holds
  | .or left right => left.holds || right.holds
  | .not operand => !operand.holds
  | .group group => group.holds

def Group.holds : Group → Bool
  | .new operator operands => operator.join (formulasHold operands)
  | .push group operand => group.operator.join [group.holds, operand.holds]

def formulasHold : List Formula → List Bool
  | [] => []
  | formula :: rest => formula.holds :: formulasHold rest
end

end

section
variable (truth : Json → Bool)

mutual
/-- A body read as a formula over the bodies that are none. -/
def Json.reads : Json → Bool
  | .object [("and", .array operands)] => BoolOperator.and.join (eachReads operands)
  | .object [("or", .array operands)] => BoolOperator.or.join (eachReads operands)
  | .object [("not", operand)] => !operand.reads
  | json => truth json

def eachReads : List Json → List Bool
  | [] => []
  | json :: rest => json.reads :: eachReads rest
end

/-- The truth value of a leaf is that of the body it compiles to by itself. -/
def Leaf.value (c : Compiler) (leaf : Leaf) : Bool :=
  match leaf.expr.compile c with
  | .ok json => truth json
  | .error _ => false

end

theorem BoolOperator.join_append (operator : BoolOperator) (values : List Bool) (value : Bool) :
    operator.join (values ++ [value]) = operator.join [operator.join values, value] := by
  cases operator <;> simp [join]

section
variable (truth : Json → Bool)

theorem eachReads_append (first second : List Json) :
    eachReads truth (first ++ second) = eachReads truth first ++ eachReads truth second := by
  induction first with
  | nil => rfl
  | cons json rest ih => simp [eachReads, ih]

theorem Json.reads_single_operator (operator : BoolOperator) (operands : List Json) :
    (Json.single operator.text (.array operands)).reads truth = operator.join (eachReads truth operands) := by
  cases operator <;> simp [Json.single, BoolOperator.text, Json.reads]

theorem Json.reads_single_not (operand : Json) :
    (Json.single "not" operand).reads truth = !operand.reads truth := by
  simp [Json.single, Json.reads]

theorem Json.reads_single {name : String} (and : name ≠ "and") (or : name ≠ "or") (not : name ≠ "not")
    (json : Json) : (Json.single name json).reads truth = truth (Json.single name json) := by
  unfold Json.single Json.reads
  split <;> simp_all

theorem Leaf.reads_form (leaf : Leaf) :
    (leaf.expr.form .query).reads truth = truth (leaf.expr.form .query) := by
  cases leaf with
  | fieldQuery query =>
    obtain ⟨kind, field, operand, params⟩ := query
    apply Json.reads_single <;> cases kind <;> decide
  | range bounds =>
    obtain ⟨field, params, queryParams⟩ := bounds
    apply Json.reads_single <;> decide
  | terms listed =>
    obtain ⟨field, values, params⟩ := listed
    apply Json.reads_single <;> decide

theorem BooleanFilter.reads_new (operator : BoolOperator) (operands : List Expr) :
    ((Expr.ofBoolean (.new operator operands)).form .query).reads truth =
      operator.join (eachReads truth (itemForms .query operands)) :=
  Json.reads_single_operator truth operator _

theorem BooleanFilter.reads_push (operator : BoolOperator) (operands : List Expr) (operand : Expr) :
    ((Expr.ofBoolean ((BooleanFilter.new operator operands).push operand)).form .query).reads truth =
      operator.join [((Expr.ofBoolean (.new operator operands)).form .query).reads truth,
        (operand.form .query).reads truth] := by
  have pushed : (BooleanFilter.new operator operands).push operand = .new operator (operands ++ [operand]) := rfl
  rw [pushed, reads_new, reads_new, itemForms_eq_map, itemForms_eq_map, List.map_append,
    eachReads_append, List.map_singleton, ← BoolOperator.join_append]
  rfl

/-- However the operands are put together, the operator joins them. -/
theorem Expr.reads_combine (operator : BoolOperator) (left right : Expr) :
    ((Expr.combine operator left right).form .query).reads truth =
      operator.join [(left.form .query).reads truth, (right.form .query).reads truth] := by
  have fresh : ((Expr.ofBoolean (.new operator [left, right])).form .query).reads truth =
      operator.join [(left.form .query).reads truth, (right.form .query).reads truth] := by
    rw [BooleanFilter.reads_new]
    rfl
  unfold combine
  split
  · next filter =>
    obtain ⟨_, operands, params⟩ := filter
    split
    · next same =>
      obtain ⟨rfl, empty⟩ := same
      obtain rfl := List.isEmpty_iff.mp empty
      exact BooleanFilter.reads_push truth _ operands right
    · exact fresh
  · exact fresh

theorem Group.filter_eq : (group : Group) → ∃ operands, group.filter = .new group.operator operands
  | .new _ operands => ⟨formulaExprs operands, rfl⟩
  | .push group operand => by
    obtain ⟨operands, eq⟩ := group.filter_eq
    exact ⟨operands ++ [operand.expr], by rw [Group.filter, eq]; rfl⟩

mutual
theorem Formula.reads_form : (formula : Formula) → (formula.expr.form .query).reads truth =
    formula.holds fun leaf => truth (leaf.expr.form .query)
  | .leaf leaf => leaf.reads_form truth
  | .and left right => by
    rw [Formula.expr, Expr.and, Expr.reads_combine, left.reads_form, right.reads_form]
    simp [BoolOperator.join, Formula.holds]
  | .or left right => by
    rw [Formula.expr, Expr.or, Expr.reads_combine, left.reads_form, right.reads_form]
    simp [BoolOperator.join, Formula.holds]
  | .not operand => by
    have negated : ((operand.expr.not).form .query) = .single "not" (operand.expr.form .query) := rfl
    rw [Formula.expr, negated, Json.reads_single_not, operand.reads_form, Formula.holds]
  | .group group => by
    rw [Formula.expr, group.reads_form, Formula.holds]

theorem Group.reads_form : (group : Group) → ((Expr.ofBoolean group.filter).form .query).reads truth =
    group.holds fun leaf => truth (leaf.expr.form .query)
  | .new operator operands => by
    rw [Group.filter, BooleanFilter.reads_new, formulas_reads_form operands, Group.holds]
  | .push group operand => by
    obtain ⟨operands, eq⟩ := group.filter_eq
    have whole := group.reads_form
    rw [eq] at whole
    rw [Group.filter, eq, BooleanFilter.reads_push, whole, operand.reads_form, Group.holds]

theorem formulas_reads_form : (formulas : List Formula) →
    eachReads truth (itemForms .query (formulaExprs formulas)) =
      formulasHold (fun leaf => truth (leaf.expr.form .query)) formulas
  | [] => rfl
  | formula :: rest => by
    rw [formulaExprs, itemForms, eachReads, formula.reads_form, formulas_reads_form rest, formulasHold]
end

end

mutual
theorem Formula.holds_congr {first second : Leaf → Bool} : (formula : Formula) →
    (∀ leaf ∈ formula.leaves, first leaf = second leaf) → formula.holds first = formula.holds second
  | .leaf leaf, h => h leaf (List.mem_singleton.mpr rfl)
  | .and left right, h => by
    obtain ⟨hl, hr⟩ := List.forall_mem_append.mp h
    rw [Formula.holds, Formula.holds, left.holds_congr hl, right.holds_congr hr]
  | .or left right, h => by
    obtain ⟨hl, hr⟩ := List.forall_mem_append.mp h
    rw [Formula.holds, Formula.holds, left.holds_congr hl, right.holds_congr hr]
  | .not operand, h => by rw [Formula.holds, Formula.holds, operand.holds_congr h]
  | .group group, h => by rw [Formula.holds, Formula.holds, group.holds_congr h]

theorem Group.holds_congr {first second : Leaf → Bool} : (group : Group) →
    (∀ leaf ∈ group.leaves, first leaf = second leaf) → group.holds first = group.holds second
  | .new _ operands, h => by rw [Group.holds, Group.holds, formulasHold_congr operands h]
  | .push group operand, h => by
    obtain ⟨hg, ho⟩ := List.forall_mem_append.mp h
    rw [Group.holds, Group.holds, group.holds_congr hg, operand.holds_congr ho]

theorem formulasHold_congr {first second : Leaf → Bool} : (formulas : List Formula) →
    (∀ leaf ∈ formulaLeaves formulas, first leaf = second leaf) →
    formulasHold first formulas = formulasHold second formulas
  | [], _ => rfl
  | formula :: rest, h => by
    obtain ⟨hf, hr⟩ := List.forall_mem_append.mp h
    rw [formulasHold, formulasHold, formula.holds_congr hf, formulasHold_congr rest hr]
end

-- ---------------------------------------------------------------------------
-- Leaves of what compiles
-- ---------------------------------------------------------------------------

section
variable {limit depth : Nat}

theorem Expr.compile_of_check {expr : Expr} (h : Visits.check ⟨.query, limit⟩ depth (expr.visits .query) = .ok ()) :
    expr.compile ⟨.query, limit⟩ = .ok (expr.form .query) := by
  rw [compile_eq, Visits.check_eq_ok_mono (Nat.zero_le depth) h]
  rfl

theorem BooleanFilter.check_new {operator : BoolOperator} (operands : List Expr) :
    Visits.check ⟨.query, limit⟩ depth ((Expr.ofBoolean (.new operator operands)).visits .query) = .ok () ↔
      depth < limit ∧
        ∀ operand ∈ operands, Visits.check ⟨.query, limit⟩ (depth + 1) (operand.visits .query) = .ok () := by
  rw [Expr.ofBoolean, BooleanFilter.new, Visits.check_queryNode_eq_ok_iff, Node.queryVisits,
    BooleanFilter.visits, paramVisits, List.append_nil, Visits.check_under_eq_ok_iff,
    Visits.check_itemVisits_eq_ok_iff]
  simp [Dialect.supports]

theorem Expr.check_combine {operator : BoolOperator} {left right : Expr}
    (h : Visits.check ⟨.query, limit⟩ depth ((Expr.combine operator left right).visits .query) = .ok ()) :
    Visits.check ⟨.query, limit⟩ depth (left.visits .query) = .ok () ∧
      Visits.check ⟨.query, limit⟩ depth (right.visits .query) = .ok () := by
  have fresh (h : Visits.check ⟨.query, limit⟩ depth
      ((Expr.ofBoolean (.new operator [left, right])).visits .query) = .ok ()) :
      Visits.check ⟨.query, limit⟩ depth (left.visits .query) = .ok () ∧
        Visits.check ⟨.query, limit⟩ depth (right.visits .query) = .ok () := by
    obtain ⟨-, operands⟩ := (BooleanFilter.check_new _).mp h
    exact ⟨Visits.check_eq_ok_mono (Nat.le_succ depth) (operands left (by simp)),
      Visits.check_eq_ok_mono (Nat.le_succ depth) (operands right (by simp))⟩
  unfold combine at h
  split at h
  · next filter =>
    obtain ⟨_, joined, params⟩ := filter
    split at h
    · next same =>
      obtain ⟨rfl, empty⟩ := same
      obtain rfl := List.isEmpty_iff.mp empty
      obtain ⟨room, operands⟩ := (BooleanFilter.check_new (joined ++ [right])).mp h
      refine ⟨(BooleanFilter.check_new _).mpr ⟨room, fun operand mem => operands operand (by simp [mem])⟩, ?_⟩
      exact Visits.check_eq_ok_mono (Nat.le_succ depth) (operands right (by simp))
    · exact fresh h
  · exact fresh h

end

mutual
theorem Formula.leaves_compile {limit : Nat} : (formula : Formula) → {depth : Nat} →
    Visits.check ⟨.query, limit⟩ depth (formula.expr.visits .query) = .ok () →
    ∀ leaf ∈ formula.leaves, leaf.expr.compile ⟨.query, limit⟩ = .ok (leaf.expr.form .query)
  | .leaf leaf, _, h, other, mem => by
    obtain rfl := List.mem_singleton.mp mem
    exact Expr.compile_of_check h
  | .and left right, _, h, leaf, mem => by
    obtain ⟨hl, hr⟩ := Expr.check_combine h
    rcases List.mem_append.mp mem with mem | mem
    · exact left.leaves_compile hl leaf mem
    · exact right.leaves_compile hr leaf mem
  | .or left right, _, h, leaf, mem => by
    obtain ⟨hl, hr⟩ := Expr.check_combine h
    rcases List.mem_append.mp mem with mem | mem
    · exact left.leaves_compile hl leaf mem
    · exact right.leaves_compile hr leaf mem
  | .not operand, depth, h, leaf, mem => by
    have inner : Visits.check ⟨.query, limit⟩ (depth + 1) (operand.expr.visits .query) = .ok () := by
      obtain ⟨-, -, negation⟩ := Visits.check_queryNode_eq_ok_iff.mp h
      exact Visits.check_under_eq_ok_iff.mp (Visits.check_append_eq_ok_iff.mp negation).1
    exact operand.leaves_compile inner leaf mem
  | .group group, _, h, leaf, mem => group.leaves_compile h leaf mem

theorem Group.leaves_compile {limit : Nat} : (group : Group) → {depth : Nat} →
    Visits.check ⟨.query, limit⟩ depth ((Expr.ofBoolean group.filter).visits .query) = .ok () →
    ∀ leaf ∈ group.leaves, leaf.expr.compile ⟨.query, limit⟩ = .ok (leaf.expr.form .query)
  | .new _ operands, _, h, leaf, mem =>
    formulas_leaves_compile operands ((BooleanFilter.check_new _).mp h).2 leaf mem
  | .push group operand, depth, h, leaf, mem => by
    obtain ⟨joined, eq⟩ := group.filter_eq
    rw [Group.filter, eq] at h
    obtain ⟨room, operands⟩ := (BooleanFilter.check_new (joined ++ [operand.expr])).mp h
    have whole : Visits.check ⟨.query, limit⟩ depth ((Expr.ofBoolean group.filter).visits .query) = .ok () := by
      rw [eq]
      exact (BooleanFilter.check_new _).mpr ⟨room, fun other mem => operands other (by simp [mem])⟩
    rcases List.mem_append.mp mem with mem | mem
    · exact group.leaves_compile whole leaf mem
    · exact operand.leaves_compile (operands operand.expr (by simp)) leaf mem

theorem formulas_leaves_compile {limit depth : Nat} : (formulas : List Formula) →
    (∀ operand ∈ formulaExprs formulas,
      Visits.check ⟨.query, limit⟩ depth (operand.visits .query) = .ok ()) →
    ∀ leaf ∈ formulaLeaves formulas, leaf.expr.compile ⟨.query, limit⟩ = .ok (leaf.expr.form .query)
  | formula :: rest, h, leaf, mem => by
    rcases List.mem_append.mp mem with mem | mem
    · exact formula.leaves_compile (h formula.expr (by simp [formulaExprs])) leaf mem
    · refine formulas_leaves_compile rest (fun operand mem => h operand ?_) leaf mem
      simp [formulaExprs, mem]
end

-- ---------------------------------------------------------------------------
-- Filters of searches
-- ---------------------------------------------------------------------------

end SearchWire
