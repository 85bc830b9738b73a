import SearchWire.Proofs.Formula
import SearchWire.Proofs.Gathered

/-!
# Chains of operators

The operators build a filter from two operands and take a left operand apart
that joins others already, so a chain of one operator is a single filter over
all of its operands, however long it is. It needs one level more than they do.
Filters that are given to a search one by one are joined in the same way.
-/

namespace SearchWire

-- ---------------------------------------------------------------------------
-- Flat filters
-- ---------------------------------------------------------------------------

namespace Expr

def chain (operator : BoolOperator) (first : Expr) (rest : List Expr) : Expr := rest.foldl (combine operator) first

example (a b c d : Expr) : chain .and a [b, c, d] = ((a.and b).and c).and d := rfl

/-- The expression joins operands by the operator and has no parameters. -/
def Joins (operator : BoolOperator) (expr : Expr) : Prop := ∃ operands, expr = .ofBoolean (.new operator operands)

theorem combine_joined (operator : BoolOperator) (operands : List Expr) (right : Expr) :
    combine operator (.ofBoolean (.new operator operands)) right =
      .ofBoolean (.new operator (operands ++ [right])) := by
  simp [combine, ofBoolean, BooleanFilter.new, BooleanFilter.push]

theorem combine_apart {operator : BoolOperator} {left : Expr} (apart : ¬left.Joins operator) (right : Expr) :
    combine operator left right = .ofBoolean (.new operator [left, right]) := by
  unfold combine
  split
  · next filter =>
    obtain ⟨own, operands, params⟩ := filter
    refine if_neg ?_
    rintro ⟨rfl, bare⟩
    obtain rfl := List.isEmpty_iff.mp bare
    exact apart ⟨operands, rfl⟩
  · rfl

theorem chain_joined (operator : BoolOperator) (operands rest : List Expr) :
    chain operator (.ofBoolean (.new operator operands)) rest = .ofBoolean (.new operator (operands ++ rest)) := by
  induction rest generalizing operands with
  | nil => rw [List.append_nil]; rfl
  | cons next rest ih =>
    rw [chain, List.foldl_cons, combine_joined]
    exact (ih (operands ++ [next])).trans (by rw [List.append_assoc, List.singleton_append])

theorem chain_apart {operator : BoolOperator} {first : Expr} (apart : ¬first.Joins operator) (second : Expr)
    (rest : List Expr) :
    chain operator first (second :: rest) = .ofBoolean (.new operator (first :: second :: rest)) := by
  rw [chain, List.foldl_cons, combine_apart apart]
  exact chain_joined operator [first, second] rest

-- ---------------------------------------------------------------------------
-- Levels
-- ---------------------------------------------------------------------------

theorem exists_compile_iff_check {d : Dialect} {limit : Nat} {expr : Expr} :
    (∃ json, expr.compile ⟨d, limit⟩ = .ok json) ↔ Visits.check ⟨d, limit⟩ 0 (expr.visits d) = .ok () := by
  simp only [compile_eq, Visits.bind_ok_eq_ok_iff, ← Visits.check_eq_ok_iff, exists_and_left, exists_eq', and_true]

/-- A flat filter needs one level more than its operands, however many they are. -/
theorem exists_compile_joined_iff {operator : BoolOperator} {limit : Nat} {operands : List Expr} :
    (∃ json, (Expr.ofBoolean (.new operator operands)).compile ⟨.query, limit⟩ = .ok json) ↔
      1 ≤ limit ∧ ∀ operand ∈ operands, ∃ json, operand.compile ⟨.query, limit - 1⟩ = .ok json := by
  rw [exists_compile_iff_check, BooleanFilter.check_new]
  refine and_congr_right fun room => ?_
  obtain ⟨limit, rfl⟩ := Nat.exists_eq_succ_of_ne_zero (Nat.ne_of_gt room)
  simp only [exists_compile_iff_check, Nat.succ_eq_add_one, Visits.check_succ_eq_ok_iff, Nat.add_sub_cancel]

end Expr

-- ---------------------------------------------------------------------------
-- Filters of searches
-- ---------------------------------------------------------------------------

theorem compileFilters_joined {c : Compiler} (dialect : c.dialect = .query) (first second : Expr)
    (rest : List Expr) (depth : Nat) :
    compileFilters c [.ofBoolean (.all (first :: second :: rest))] depth =
      compileFilters c (first :: second :: rest) depth := by
  simp [compileFilters, Expr.ofBoolean, BooleanFilter.all, BooleanFilter.new, Expr.compileAt, dialect,
    Node.queryAt, BooleanFilter.compileAt, compileItems, compileParams, BoolOperator.text, Json.beside]

namespace Search

variable {first second : Expr} {rest : List Expr}

/-- The same calls of every other method. -/
def SameBut (method : Method) (calls calls' : List Call) : Prop :=
  ∀ other : Method, other ≠ method → other.arguments calls = other.arguments calls'

inductive FilterList where
  | filters
  | postFilters

namespace FilterList

def method : FilterList → Method
  | filters => .filter
  | postFilters => .postFilter

def arguments : FilterList → List Call → List Expr
  | filters => Method.filter.arguments
  | postFilters => Method.postFilter.arguments

def get : FilterList → Search → List Expr
  | filters, search => search.filters
  | postFilters, search => search.postFilters

def set : FilterList → List Expr → Search → Search
  | filters, listed, search => { search with filters := listed }
  | postFilters, listed, search => { search with postFilters := listed }

theorem body_set (list : FilterList) (search : Search) :
    (list.set [.ofBoolean (.all (first :: second :: rest))] search).body =
      (list.set (first :: second :: rest) search).body := by
  have same := @compileFilters_joined (search.config.compiler .query) rfl first second rest
  cases list <;> simp only [set, body, compile, compileAt, List.isEmpty_cons, same]

theorem after_of_sameBut (list : FilterList) {search : Search} {calls calls' : List Call}
    (fresh : list.get search = []) (same : SameBut list.method calls calls') :
    search.after calls = list.set (list.arguments calls) (search.after calls') := by
  have others (other : Method) (apart : other ≠ list.method) : other.arguments calls = other.arguments calls' :=
    same other apart
  cases list <;> simp_all [after_eq_given, given, get, set, method, arguments]

theorem body_after (list : FilterList) {search : Search} {calls calls' : List Call}
    (fresh : list.get search = []) (same : SameBut list.method calls calls')
    (each : list.arguments calls = first :: second :: rest)
    (whole : list.arguments calls' = [.ofBoolean (.all (first :: second :: rest))]) :
    (search.after calls).body = (search.after calls').body := by
  have alone : search.after calls' = _ := list.after_of_sameBut fresh fun _ _ => rfl
  rw [whole] at alone
  rw [list.after_of_sameBut fresh same, each, ← list.body_set, ← alone]

end FilterList

end Search

/-- A chain of one operator is one filter without parameters over all of its
operands, those of the first taken apart if it is such a filter itself. If it is
not, the chain compiles exactly if its operands do, one level below the limit, and
a search has the same body with the filters, or post filters, of a chain of
conjunctions one by one as with the chain. -/
theorem chains_flatten (operator : BoolOperator) (first second : Expr) (rest : List Expr) :
    let chain := first.chain operator (second :: rest)
    (∀ operands, first = .ofBoolean (.new operator operands) →
      chain = .ofBoolean (.new operator (operands ++ second :: rest))) ∧
    (¬first.Joins operator →
      chain = .ofBoolean (.new operator (first :: second :: rest)) ∧
      (∀ limit, (∃ json, chain.compile ⟨.query, limit⟩ = .ok json) ↔
        1 ≤ limit ∧ ∀ operand ∈ first :: second :: rest, ∃ json, operand.compile ⟨.query, limit - 1⟩ = .ok json) ∧
      (operator = .and → ∀ (search : Search) (calls calls' : List Search.Call),
        (search.filters = [] → Search.SameBut .filter calls calls' →
          Search.Method.filter.arguments calls = first :: second :: rest →
          Search.Method.filter.arguments calls' = [chain] →
          (search.after calls).body = (search.after calls').body) ∧
        (search.postFilters = [] → Search.SameBut .postFilter calls calls' →
          Search.Method.postFilter.arguments calls = first :: second :: rest →
          Search.Method.postFilter.arguments calls' = [chain] →
          (search.after calls).body = (search.after calls').body))) := by
  intro chain
  constructor
  · rintro operands rfl
    exact Expr.chain_joined operator operands (second :: rest)
  · intro apart
    have flat : chain = .ofBoolean (.new operator (first :: second :: rest)) := Expr.chain_apart apart second rest
    refine ⟨flat, fun limit => flat ▸ Expr.exists_compile_joined_iff, ?_⟩
    rintro rfl search calls calls'
    constructor
    · intro fresh same each joined
      exact Search.FilterList.filters.body_after fresh same each (flat ▸ joined)
    · intro fresh same each joined
      exact Search.FilterList.postFilters.body_after fresh same each (flat ▸ joined)

/-- A conjunction with a parameter stays whole, and one without is taken apart.
The filters stand between other calls. -/
theorem chains_flatten_cached :
    let a := Expr.string "a"
    let b := Expr.ofBoolean (.any [a, a])
    let cached := Expr.ofBoolean ((BooleanFilter.all [a]).withParam "_cache" (.bool true))
    let chain := (cached.and b).and a
    ((Expr.ofBoolean (.all [a, b])).and a).and cached = .ofBoolean (.all [a, b, a, cached]) ∧
      ¬cached.Joins .and ∧ chain = .ofBoolean (.all [cached, b, a]) ∧
      (∃ json, chain.compile ⟨.query, 2⟩ = .ok json) ∧ ¬(∃ json, chain.compile ⟨.query, 1⟩ = .ok json) ∧
      (Search.empty.after [.filter cached, .limit 1, .filter b, .sort a, .filter a]).body =
        (Search.empty.after [.sort a, .filter chain, .limit 1]).body ∧
      (Search.empty.after [.postFilter cached, .limit 1, .postFilter b, .sort a, .postFilter a]).body =
        (Search.empty.after [.sort a, .postFilter chain, .limit 1]).body := by
  intro a b cached chain
  have apart : ¬cached.Joins .and := by
    rintro ⟨operands, same⟩
    simp only [cached, Expr.ofBoolean, BooleanFilter.new, BooleanFilter.withParam, Expr.node.injEq,
      Node.boolean.injEq, BooleanFilter.mk.injEq] at same
    obtain ⟨-, -, bare⟩ := same
    cases bare
  obtain ⟨taken, -⟩ := chains_flatten .and (.ofBoolean (.all [a, b])) a [cached]
  obtain ⟨-, whole⟩ := chains_flatten .and cached b [a]
  obtain ⟨flat, levels, searches⟩ := whole apart
  have compile : ∀ operand ∈ [cached, b, a], ∃ json, operand.compile ⟨.query, 1⟩ = .ok json := by
    simp only [List.forall_mem_cons]
    exact ⟨⟨_, rfl⟩, ⟨_, rfl⟩, ⟨_, rfl⟩, List.forall_mem_nil _⟩
  refine ⟨taken [a, b] rfl, apart, flat, (levels 2).mpr ⟨by decide, compile⟩, fun compiles => ?_, ?_, ?_⟩
  · obtain ⟨-, operands⟩ := (levels 1).mp compiles
    obtain ⟨json, impossible⟩ := operands cached List.mem_cons_self
    cases impossible
  · refine (searches rfl .empty _ _).1 rfl (fun method other => ?_) rfl rfl
    cases method with
    | filter => exact absurd rfl other
    | _ => rfl
  · refine (searches rfl .empty _ _).2 rfl (fun method other => ?_) rfl rfl
    cases method with
    | postFilter => exact absurd rfl other
    | _ => rfl

end SearchWire
