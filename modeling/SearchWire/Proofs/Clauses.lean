import SearchWire.Proofs.Gathered

/-!
# Clauses of bool queries

A bool query is put together clause by clause, each in one of four roles. Whatever
the order of the calls, the body has a list for every role that was given a clause,
with the clauses of that role in the order of their calls, and behind the lists the
last settings. No clause is lost and none is moved to another role.
-/

namespace SearchWire

namespace BoolQuery

-- ---------------------------------------------------------------------------
-- Calls
-- ---------------------------------------------------------------------------

inductive Role where
  | must
  | filter
  | should
  | mustNot
deriving DecidableEq

namespace Role

def all : List Role := [.must, .filter, .should, .mustNot]

def key : Role → String
  | .must => "must"
  | .filter => "filter"
  | .should => "should"
  | .mustNot => "must_not"

end Role

inductive Call where
  | clause (role : Role) (clause : Expr)
  | minimumShouldMatch (minimum : MinimumShouldMatch)
  | boost (boost : Double)

def Call.clause? (role : Role) : Call → Option Expr
  | .clause given added => if given = role then some added else none
  | _ => none

def Call.minimum? : Call → Option MinimumShouldMatch
  | .minimumShouldMatch minimum => some minimum
  | _ => none

def Call.boost? : Call → Option Double
  | .boost factor => some factor
  | _ => none

def call (query : BoolQuery) : Call → BoolQuery
  | .clause .must clause => query.addMust clause
  | .clause .filter clause => query.addFilter clause
  | .clause .should clause => query.addShould clause
  | .clause .mustNot clause => query.addMustNot clause
  | .minimumShouldMatch minimum => query.withMinimumShouldMatch minimum
  | .boost boost => query.withBoost boost

def after (query : BoolQuery) (calls : List Call) : BoolQuery := calls.foldl call query

def Role.clauses (role : Role) (calls : List Call) : List Expr := calls.filterMap (Call.clause? role)

def minimums (calls : List Call) : List MinimumShouldMatch := calls.filterMap Call.minimum?

def boosts (calls : List Call) : List Double := calls.filterMap Call.boost?

/-- What calls add to a query: their clauses to the lists, and the last settings. -/
def given (query : BoolQuery) (calls : List Call) : BoolQuery where
  must := query.must ++ Role.must.clauses calls
  filter := query.filter ++ Role.filter.clauses calls
  should := query.should ++ Role.should.clauses calls
  mustNot := query.mustNot ++ Role.mustNot.clauses calls
  minimumShouldMatch := (minimums calls).getLast?.or query.minimumShouldMatch
  boost := (boosts calls).getLast?.or query.boost

theorem given_cons (query : BoolQuery) (next : Call) (rest : List Call) :
    query.given (next :: rest) = (query.call next).given rest := by
  rcases next with ⟨role, clause⟩ | minimum | boost
  · cases role <;>
      simp [given, call, Role.clauses, minimums, boosts, Call.clause?, Call.minimum?, Call.boost?, addMust, addFilter,
        addShould, addMustNot]
  · simp [given, call, Role.clauses, minimums, boosts, Call.clause?, Call.minimum?, Call.boost?,
      withMinimumShouldMatch, List.filterMap_cons, List.getLast?_cons]
  · simp [given, call, Role.clauses, minimums, boosts, Call.clause?, Call.minimum?, Call.boost?, withBoost,
      List.filterMap_cons, List.getLast?_cons]

theorem after_eq_given (query : BoolQuery) (calls : List Call) : query.after calls = query.given calls := by
  induction calls generalizing query with
  | nil =>
    cases query
    simp [after, given, Role.clauses, minimums, boosts]
  | cons next rest ih =>
    rw [given_cons, ← ih]
    rfl

theorem clauseCount_after (calls : List Call) :
    (empty.after calls).clauseCount = (Role.all.flatMap fun role => role.clauses calls).length := by
  simp [after_eq_given, given, empty, clauseCount, Role.all, Nat.add_assoc]

end BoolQuery

-- ---------------------------------------------------------------------------
-- Members of the body
-- ---------------------------------------------------------------------------

section
variable {c : Compiler} {depth : Nat} {expr : Expr} {json : Json}

theorem Expr.compileAt_of_le {outer : Nat} (le : outer ≤ depth) (compiles : expr.compileAt c depth = .ok json) :
    expr.compileAt c outer = .ok json := by
  rw [compileAt_eq, Visits.bind_ok_eq_ok_iff, ← Visits.check_eq_ok_iff] at compiles ⊢
  exact ⟨Visits.check_eq_ok_mono le compiles.1, compiles.2⟩

theorem CompiledItems.of_le {outer : Nat} {items : List Expr} {values : List Json} (le : outer ≤ depth)
    (compiled : CompiledItems c depth items values) : CompiledItems c outer items values :=
  compiled.imp fun _ _ => Expr.compileAt_of_le le

theorem CompiledParams.exists_append {first second : Entries Expr} {compiled : Entries Json}
    (given : CompiledParams c depth (first ++ second) compiled) : ∃ front back, compiled = front ++ back ∧
      CompiledParams c depth first front ∧ CompiledParams c depth second back := by
  induction first generalizing compiled with
  | nil => exact ⟨[], compiled, rfl, .nil, given⟩
  | cons entry rest ih =>
    cases given with
    | cons head tail =>
      obtain ⟨front, back, rfl, given, given'⟩ := ih tail
      exact ⟨_ :: front, back, rfl, .cons head given, given'⟩

theorem CompiledParams.exists_single {key : String} {compiled : Entries Json}
    (given : CompiledParams c depth [(key, expr)] compiled) :
    ∃ json, compiled = [(key, json)] ∧ expr.compileAt c depth = .ok json := by
  cases given with
  | @cons _ entry _ _ head tail =>
    cases tail
    obtain ⟨name, json⟩ := entry
    obtain ⟨rfl, compiles⟩ := head
    exact ⟨json, rfl, compiles⟩

end

namespace BoolQuery

section
variable {c : Compiler} {depth : Nat} {compiled : Entries Json}

theorem compiled_group {key : String} {clauses : List Expr}
    (given : CompiledParams c depth (group key clauses) compiled) :
    ∃ values, compiled = Json.group key values ∧ CompiledItems c (depth + 1) clauses values := by
  cases clauses with
  | nil =>
    cases given
    exact ⟨[], rfl, .nil⟩
  | cons first rest =>
    obtain ⟨_, rfl, compiles⟩ := given.exists_single
    simp only [Expr.compileAt, Result.bind_eq_ok_iff, Compiler.enter_eq_ok_iff] at compiles
    obtain ⟨_, ⟨-, rfl⟩, values, compiles, whole⟩ := compiles
    cases whole
    have items := compileItems_eq_ok compiles
    cases items with
    | cons head tail => exact ⟨_, rfl, .cons head tail⟩

theorem compiled_setting {α : Type} {key : String} {setting : Option α} {expr : α → Expr} {json : α → Json}
    (value : ∀ given compiled, (expr given).compileAt c depth = .ok compiled → compiled = json given)
    (given : CompiledParams c depth (setting.map fun given => (key, expr given)).toList compiled) :
    compiled = Json.optional key (setting.map json) := by
  cases setting with
  | none =>
    cases given
    rfl
  | some given' =>
    obtain ⟨_, rfl, compiles⟩ := given.exists_single
    rw [value _ _ compiles]
    rfl

/-- Counts are written exactly, those too that are finished JSON since they do
not fit an integer. -/
theorem compileAt_ofMinimumShouldMatch (minimum : MinimumShouldMatch) :
    (Expr.ofMinimumShouldMatch minimum).compileAt c depth = .ok minimum.json := by
  cases minimum with
  | percentage text => rfl
  | count clauses =>
    rw [Expr.ofMinimumShouldMatch, Expr.ofNat]
    split <;> rfl

theorem eq_float_of_compileAt {x : Double} {json : Json} (compiles : (Expr.float x).compileAt c depth = .ok json) :
    json = .float x := by
  rw [Expr.compileAt, Json.ofDouble] at compiles
  split at compiles
  · exact (Except.ok.inj compiles).symm
  · cases compiles

theorem compileAt_toNamed_eq_ok {query : BoolQuery} {body : Json}
    (compiles : (Expr.node (.named query.toNamed)).compileAt c depth = .ok body) : ∃ musts filters shoulds mustNots,
    body = .single "bool" (.object (Json.group "must" musts ++ Json.group "filter" filters ++
      Json.group "should" shoulds ++ Json.group "must_not" mustNots ++
      Json.optional "minimum_should_match" (query.minimumShouldMatch.map MinimumShouldMatch.json) ++
      Json.optional "boost" (query.boost.map Json.float))) ∧
    CompiledItems c (depth + 2) query.must musts ∧ CompiledItems c (depth + 2) query.filter filters ∧
    CompiledItems c (depth + 2) query.should shoulds ∧ CompiledItems c (depth + 2) query.mustNot mustNots := by
  replace compiles := Node.queryAt_of_compileAt rfl compiles
  simp only [Node.queryAt, toNamed, NamedQuery.compileAt, Result.bind_eq_ok_iff, Result.atKey_eq_ok_iff] at compiles
  obtain ⟨members, compiles, whole⟩ := compiles
  cases whole
  obtain ⟨_, _, rfl, given, boost⟩ := (compiledParams_of_compileParams compiles).exists_append
  obtain ⟨_, _, rfl, given, minimum⟩ := given.exists_append
  obtain ⟨_, _, rfl, given, mustNot⟩ := given.exists_append
  obtain ⟨_, _, rfl, given, should⟩ := given.exists_append
  obtain ⟨_, _, rfl, must, filter⟩ := given.exists_append
  obtain ⟨musts, rfl, mustItems⟩ := compiled_group must
  obtain ⟨filters, rfl, filterItems⟩ := compiled_group filter
  obtain ⟨shoulds, rfl, shouldItems⟩ := compiled_group should
  obtain ⟨mustNots, rfl, mustNotItems⟩ := compiled_group mustNot
  obtain rfl := compiled_setting (fun minimum _ compiles =>
    (Except.ok.inj ((compileAt_ofMinimumShouldMatch minimum).symm.trans compiles)).symm) minimum
  obtain rfl := compiled_setting (fun _ _ => eq_float_of_compileAt) boost
  exact ⟨musts, filters, shoulds, mustNots, rfl, mustItems, filterItems, shouldItems, mustNotItems⟩

end

-- ---------------------------------------------------------------------------
-- What is kept
-- ---------------------------------------------------------------------------

def sections : List String := ["must", "filter", "should", "must_not", "minimum_should_match", "boost"]

def Role.listed (role : Role) (members : Entries Json) : List Json :=
  match Entries.get? role.key members with
  | some (.array items) => items
  | _ => []

/-- The members of the body of a bool query that was put together by calls. The
query stands at the level `depth`. -/
structure Kept (c : Compiler) (depth : Nat) (calls : List Call) (members : Entries Json) : Prop where
  ordered : (Entries.keys members).Sublist sections
  present : ∀ role : Role, role.key ∈ Entries.keys members ↔ role.clauses calls ≠ []
  /-- Each clause has the value that it has two levels further down, and so on its own. -/
  clauses : ∀ role : Role, role.key ∈ Entries.keys members → ∃ values,
    Entries.get? role.key members = some (.array values) ∧
      ∀ level ≤ depth + 2, CompiledItems c level (role.clauses calls) values
  count : (Role.all.flatMap fun role => role.listed members).length = (empty.after calls).clauseCount
  isEmpty : (empty.after calls).isEmpty = true ↔ ∀ role : Role, role.key ∉ Entries.keys members
  minimum : Entries.get? "minimum_should_match" members = (minimums calls).getLast?.map MinimumShouldMatch.json
  boost : Entries.get? "boost" members = (boosts calls).getLast?.map Json.float

theorem isEmpty_after_iff (calls : List Call) :
    (empty.after calls).isEmpty = true ↔ ∀ role : Role, role.clauses calls = [] := by
  rw [isEmpty, clauseCount_after, decide_eq_true_iff, List.length_eq_zero_iff, List.flatMap_eq_nil_iff]
  exact ⟨fun none role => none role (by cases role <;> decide), fun none role _ => none role⟩

theorem kept_of_compileAt {c : Compiler} {depth : Nat} {calls : List Call} {body : Json}
    (compiles : (Expr.node (.named (empty.after calls).toNamed)).compileAt c depth = .ok body) :
    ∃ members, body = .single "bool" (.object members) ∧ Kept c depth calls members := by
  obtain ⟨musts, filters, shoulds, mustNots, rfl, must, filter, should, mustNot⟩ := compileAt_toNamed_eq_ok compiles
  simp only [after_eq_given, given, empty, Option.or_none, List.nil_append] at must filter should mustNot ⊢
  refine ⟨_, rfl, ?_⟩
  generalize whole : Json.group "must" musts ++ Json.group "filter" filters ++ Json.group "should" shoulds ++
    Json.group "must_not" mustNots ++
    Json.optional "minimum_should_match" ((minimums calls).getLast?.map MinimumShouldMatch.json) ++
    Json.optional "boost" ((boosts calls).getLast?.map Json.float) = members
  -- Each role has its values, and what stands under its key are they.
  let values : Role → List Json
    | .must => musts
    | .filter => filters
    | .should => shoulds
    | .mustNot => mustNots
  have compiled (role : Role) : CompiledItems c (depth + 2) (role.clauses calls) (values role) := by
    cases role <;> assumption
  have found (role : Role) : Entries.get? role.key members =
      if values role ≠ [] then some (.array (values role)) else none := by
    subst whole
    cases role <;> simp [Entries.get?_append, Role.key, values]
  have present (role : Role) : role.key ∈ Entries.keys members ↔ role.clauses calls ≠ [] := by
    simp [Entries.mem_keys_iff, found, forall₂_eq_nil_iff (compiled role)]
  constructor
  case ordered =>
    subst whole
    simp only [Entries.keys_append]
    exact (((((Json.keys_group_sublist _ _).append (Json.keys_group_sublist _ _)).append
      (Json.keys_group_sublist _ _)).append (Json.keys_group_sublist _ _)).append
      (Json.keys_optional_sublist _ _)).append (Json.keys_optional_sublist _ _)
  case present => exact present
  case clauses =>
    intro role mem
    have some : values role ≠ [] := mt (forall₂_eq_nil_iff (compiled role)).mp ((present role).mp mem)
    exact ⟨values role, by rw [found, if_pos some], fun level le => (compiled role).of_le le⟩
  case count =>
    have length (role : Role) : (role.listed members).length = (role.clauses calls).length := by
      rw [(compiled role).length_eq, Role.listed, found]
      by_cases none : values role = [] <;> simp [none]
    simp [clauseCount_after, Role.all, length]
  case isEmpty =>
    rw [isEmpty_after_iff]
    simp only [present, not_not]
  case minimum =>
    subst whole
    simp [Entries.get?_append]
  case boost =>
    subst whole
    simp [Entries.get?_append]

end BoolQuery

/-- Wherever a bool query compiles, whatever the calls that have put it together, its
body has one list for each role that was given a clause, of exactly the clauses of
that role in the order of their calls, and the last of each setting behind the
lists. There are as many clauses in the body as the query counts. -/
theorem bool_queries_keep_clauses {calls : List BoolQuery.Call} {c : Compiler} {depth : Nat} {body : Json}
    (compiles : (Expr.node (.named (BoolQuery.empty.after calls).toNamed)).compileAt c depth = .ok body) :
    ∃ members, body = .single "bool" (.object members) ∧ BoolQuery.Kept c depth calls members :=
  BoolQuery.kept_of_compileAt compiles

/-- Clauses of three roles between settings that are made twice, with a count that
does not fit an integer of 64 bits. -/
theorem bool_queries_keep_clauses_interleaved :
    let a := Expr.string "a"
    let b := Expr.list [a]
    let calls : List BoolQuery.Call := [.clause .should a, .boost .zero, .clause .must b,
      .minimumShouldMatch (.count 1), .clause .should b, .clause .mustNot a, .boost (.ofCode true 0),
      .minimumShouldMatch (.count 18446744073709551615)]
    ∃ members, (Expr.node (.named (BoolQuery.empty.after calls).toNamed)).compile (Config.default.compiler .query) =
        .ok (.single "bool" (.object members)) ∧
      Entries.keys members = ["must", "should", "must_not", "minimum_should_match", "boost"] ∧
      Entries.get? "minimum_should_match" members = some (.int 18446744073709551615) ∧
      BoolQuery.Kept (Config.default.compiler .query) 0 calls members := by
  intro a b calls
  have compiles : ∃ members, (Expr.node (.named (BoolQuery.empty.after calls).toNamed)).compile
      (Config.default.compiler .query) = .ok (.single "bool" (.object members)) ∧
      Entries.keys members = ["must", "should", "must_not", "minimum_should_match", "boost"] ∧
      Entries.get? "minimum_should_match" members = some (.int 18446744073709551615) := ⟨_, rfl, rfl, rfl⟩
  obtain ⟨members, compiles, keys, minimum⟩ := compiles
  obtain ⟨_, whole, kept⟩ := bool_queries_keep_clauses compiles
  cases whole
  exact ⟨members, compiles, keys, minimum, kept⟩

end SearchWire
