import Mathlib.Data.List.Forall2
import SearchWire.Proofs.Agreement
import SearchWire.Proofs.Precedence

/-!
# Gathered searches

A search is put together by calls, and each method has a part of it to itself.
What a method was called with, in the order of its own calls, decides its part,
so calls of different methods may change places. The body has one section for
every part that was given, in an order of its own.
-/

namespace SearchWire

namespace Search

-- ---------------------------------------------------------------------------
-- Calls of one method
-- ---------------------------------------------------------------------------

inductive Method where
  | query
  | filter
  | postFilter
  | sort
  | source
  | aggregation
  | limit
  | offset
  | rescorer
  | config

namespace Method

abbrev Argument : Method → Type
  | .query | .filter | .postFilter | .sort => Expr
  | .source => SourceFilter
  | .aggregation => String × Aggregation
  | .limit | .offset => Nat
  | .rescorer => Rescorer
  | .config => Config

def argument? : (method : Method) → Call → Option method.Argument
  | .query, .query expr => some expr
  | .filter, .filter expr => some expr
  | .postFilter, .postFilter expr => some expr
  | .sort, .sort clause => some clause
  | .source, .source patterns => some patterns
  | .aggregation, .aggregation name counted => some (name, counted)
  | .limit, .limit count => some count
  | .offset, .offset count => some count
  | .rescorer, .rescorer pass => some pass
  | .config, .config settings => some settings
  | _, _ => none

def arguments (method : Method) (calls : List Call) : List method.Argument := calls.filterMap method.argument?

theorem arguments_cons (method : Method) (next : Call) (rest : List Call) :
    method.arguments (next :: rest) = (method.argument? next).toList ++ method.arguments rest := by
  cases found : method.argument? next <;> simp [arguments, found]

end Method

/-- What calls add to a search: single parts take the last argument of their
method, lists take all of them. -/
def given (search : Search) (calls : List Call) : Search where
  query := (Method.query.arguments calls).getLast?.or search.query
  filters := search.filters ++ Method.filter.arguments calls
  postFilters := search.postFilters ++ Method.postFilter.arguments calls
  sorts := search.sorts ++ Method.sort.arguments calls
  source := (Method.source.arguments calls).getLast?.or search.source
  aggregations := Entries.merge search.aggregations (Method.aggregation.arguments calls)
  limit := (Method.limit.arguments calls).getLast?.or search.limit
  offset := (Method.offset.arguments calls).getLast?.or search.offset
  rescorers := search.rescorers ++ Method.rescorer.arguments calls
  config := (Method.config.arguments calls).getLast?.getD search.config

theorem given_cons (search : Search) (next : Call) (rest : List Call) :
    search.given (next :: rest) = (search.call next).given rest := by
  cases next <;>
    simp [given, call, Method.arguments_cons, Method.argument?, withQuery, addFilter, addPostFilter, addSort,
      withSource, withAggregation, withLimit, withOffset, addRescorer, withConfig, List.getLast?_cons,
      Entries.merge]

theorem after_eq_given (search : Search) (calls : List Call) : search.after calls = search.given calls := by
  induction calls generalizing search with
  | nil =>
    cases search
    simp [after, given, Method.arguments, Entries.merge]
  | cons next rest ih =>
    rw [given_cons, ← ih]
    rfl

end Search

-- ---------------------------------------------------------------------------
-- Sections of a body
-- ---------------------------------------------------------------------------

theorem forall₂_eq_nil_iff {α β : Type} {r : α → β → Prop} {items : List α} {values : List β}
    (related : List.Forall₂ r items values) : values = [] ↔ items = [] := by
  cases related <;> simp

section
variable (c : Compiler) (depth : Nat)

def CompiledItems (items : List Expr) (values : List Json) : Prop :=
  List.Forall₂ (fun item value => item.compileAt c depth = .ok value) items values

def CompiledRescorers (rescorers : List Rescorer) (values : List Json) : Prop :=
  List.Forall₂ (fun rescorer value => rescorer.compileAt c depth = .ok value) rescorers values

def CompiledOptional (query : Option Expr) (value : Option Json) : Prop :=
  Option.Rel (fun query value => query.compileAt c depth = .ok value) query value

/-- Filters as one value: the only one as it is, several as the list of them
all, one level further down. -/
inductive CompiledFilters : List Expr → Option Json → Prop
  | none : CompiledFilters [] none
  | only {filter : Expr} {value : Json} (compiles : filter.compileAt c depth = .ok value) :
    CompiledFilters [filter] (some value)
  | several {filters : List Expr} {values : List Json} (several : 2 ≤ filters.length)
    (compile : CompiledItems c (depth + 1) filters values) :
    CompiledFilters filters (some (.single "and" (.array values)))

/-- The query alone, or beside the filters and then one level further down. -/
inductive CompiledQuery : Option Expr → List Expr → Option Json → Prop
  | plain {query : Option Expr} {value : Option Json} (compiles : CompiledOptional c depth query value) :
    CompiledQuery query [] value
  | filtered {query : Option Expr} {filters : List Expr} {value joined : Option Json} (given : filters ≠ [])
    (compiles : CompiledOptional c (depth + 1) query value)
    (filtered : CompiledFilters c (depth + 1) filters joined) :
    CompiledQuery query filters
      (some (.single "filtered" (.object (Json.optional "query" value ++ Json.optional "filter" joined))))

end

section
variable {c : Compiler} {depth position : Nat}

theorem CompiledFilters.eq_none_iff {filters : List Expr} {value : Option Json}
    (compiled : CompiledFilters c depth filters value) : value = .none ↔ filters = [] := by
  cases compiled with
  | none => simp
  | only => simp
  | several several =>
    simp only [reduceCtorEq, false_iff]
    rintro rfl
    cases several

theorem CompiledQuery.eq_none_iff {query : Option Expr} {filters : List Expr} {value : Option Json}
    (compiled : CompiledQuery c depth query filters value) : value = none ↔ query = none ∧ filters = [] := by
  cases compiled with
  | plain compiles => cases compiles <;> simp
  | filtered given => simp [given]

theorem compileItems_eq_ok {items : List Expr} {values : List Json}
    (compiles : compileItems c items position depth = .ok values) : CompiledItems c depth items values := by
  induction items generalizing position values with
  | nil =>
    cases compiles
    exact .nil
  | cons item rest ih =>
    simp only [compileItems, Result.bind_eq_ok_iff, Result.atIndex_eq_ok_iff] at compiles
    obtain ⟨value, head, values, tail, whole⟩ := compiles
    cases whole
    exact .cons head (ih tail)

theorem compileRescorers_eq_ok {rescorers : List Rescorer} {values : List Json}
    (compiles : compileRescorers c rescorers position depth = .ok values) :
    CompiledRescorers c depth rescorers values := by
  induction rescorers generalizing position values with
  | nil =>
    cases compiles
    exact .nil
  | cons rescorer rest ih =>
    simp only [compileRescorers, Result.bind_eq_ok_iff, Result.atKey_eq_ok_iff,
      Result.atIndex_eq_ok_iff] at compiles
    obtain ⟨value, head, values, tail, whole⟩ := compiles
    cases whole
    exact .cons head (ih tail)

theorem compileOptional_eq_ok {query : Option Expr} {value : Option Json}
    (compiles : compileOptional c query depth = .ok value) : CompiledOptional c depth query value := by
  cases query with
  | none =>
    cases compiles
    exact .none
  | some query =>
    obtain ⟨value, inner, whole⟩ := Result.bind_eq_ok_iff.mp compiles
    cases whole
    exact .some inner

theorem compileFilters_eq_ok {filters : List Expr} {value : Option Json}
    (compiles : compileFilters c filters depth = .ok value) : CompiledFilters c depth filters value := by
  match filters with
  | [] =>
    cases compiles
    exact .none
  | [filter] =>
    obtain ⟨value, inner, whole⟩ := Result.bind_eq_ok_iff.mp compiles
    cases whole
    exact .only inner
  | first :: second :: rest =>
    simp only [compileFilters, Result.bind_eq_ok_iff, Result.atKey_eq_ok_iff, Result.atIndex_eq_ok_iff,
      Compiler.enter_eq_ok_iff] at compiles
    obtain ⟨_, ⟨-, rfl⟩, head, headCompiles, others, othersCompile, whole⟩ := compiles
    cases whole
    exact .several (by simp) (.cons headCompiles (compileItems_eq_ok othersCompile))

theorem compileSource_eq_ok {source : Option SourceFilter} {value : Option Json}
    (compiles : compileSource c source depth = .ok value) :
    value ≠ none ↔ ∃ chosen, source = some chosen ∧ chosen.isEmpty = false := by
  cases source with
  | none =>
    cases compiles
    simp
  | some chosen =>
    rw [compileSource] at compiles
    cases empty : chosen.isEmpty with
    | true =>
      rw [if_pos empty] at compiles
      cases compiles
      simp [empty]
    | false =>
      rw [if_neg (by simp [empty])] at compiles
      simp only [Result.bind_eq_ok_iff] at compiles
      obtain ⟨_, -, _, -, whole⟩ := compiles
      cases whole
      simp [empty]

theorem compileAggregations_eq_nil_iff {aggregations : Aggregations} {values : Entries Json}
    (compiles : compileAggregations c aggregations depth = .ok values) : values = [] ↔ aggregations = [] := by
  cases aggregations with
  | nil =>
    cases compiles
    simp
  | cons entry rest =>
    simp only [compileAggregations, Result.bind_eq_ok_iff] at compiles
    obtain ⟨_, -, _, -, whole⟩ := compiles
    cases whole
    simp

theorem Search.compileAt_eq_ok {search : Search} {body : Json} (compiles : search.compileAt c depth = .ok body) :
    ∃ query sorts source aggregations rescorers postFilter,
      body = .object (Json.optional "query" query ++ Json.group "sort" sorts ++
        Json.optional "_source" source ++ Json.section? "aggregations" aggregations ++
        Json.optional "size" (search.limit.map Json.ofNat) ++
        Json.optional "from" (search.offset.map Json.ofNat) ++
        Json.group "rescore" rescorers ++ Json.optional "post_filter" postFilter) ∧
      CompiledQuery c depth search.query search.filters query ∧ CompiledItems c depth search.sorts sorts ∧
      (source ≠ none ↔ ∃ chosen, search.source = some chosen ∧ chosen.isEmpty = false) ∧
      (aggregations = [] ↔ search.aggregations = []) ∧
      CompiledRescorers c (depth + 1) search.rescorers rescorers ∧
      CompiledFilters c depth search.postFilters postFilter := by
  obtain ⟨query, filters, postFilters, sorts, source, aggregations, limit, offset, rescorers, config⟩ := search
  simp only [Search.compileAt, Result.bind_eq_ok_iff, Result.atKey_eq_ok_iff] at compiles
  obtain ⟨queryValue, queried, sortValues, sorted, sourceValue, chosen, aggregationValues, ⟨_, -, counted⟩, inner,
    entered, rescorerValues, rescored, postFilterValue, postFiltered, whole⟩ := compiles
  refine ⟨queryValue, sortValues, sourceValue, aggregationValues, rescorerValues, postFilterValue,
    (Except.ok.inj whole).symm, ?query, compileItems_eq_ok sorted, compileSource_eq_ok chosen,
    compileAggregations_eq_nil_iff counted, ?rescorers, compileFilters_eq_ok postFiltered⟩
  case query =>
    cases filters with
    | nil => exact .plain (compileOptional_eq_ok queried)
    | cons first rest =>
      simp only [List.isEmpty_cons, Bool.false_eq_true, if_false, Result.bind_eq_ok_iff, Result.atKey_eq_ok_iff,
        Compiler.enter_eq_ok_iff] at queried
      obtain ⟨_, ⟨-, rfl⟩, value, compiles, joined, filtered, whole⟩ := queried
      cases whole
      exact .filtered (List.cons_ne_nil _ _) (compileOptional_eq_ok compiles) (compileFilters_eq_ok filtered)
  case rescorers =>
    cases rescorers with
    | nil =>
      cases rescored
      exact .nil
    | cons first rest =>
      obtain ⟨-, rfl⟩ := Compiler.enter_eq_ok_iff.mp entered
      exact compileRescorers_eq_ok rescored

end

namespace Search

def sections : List String :=
  ["query", "sort", "_source", "aggregations", "size", "from", "rescore", "post_filter"]

/-- The members of the body of a search that was put together by calls: which
sections there are, and what those hold that gather something. `depth` is the
level of the parts of the search. -/
structure Laid (c : Compiler) (depth : Nat) (calls : List Call) (members : Entries Json) : Prop where
  ordered : (Entries.keys members).Sublist sections
  query : "query" ∈ Entries.keys members ↔
    Method.query.arguments calls ≠ [] ∨ Method.filter.arguments calls ≠ []
  sort : "sort" ∈ Entries.keys members ↔ Method.sort.arguments calls ≠ []
  /-- Of several sources the last decides. -/
  source : "_source" ∈ Entries.keys members ↔
    ∃ last, (Method.source.arguments calls).getLast? = some last ∧ last.isEmpty = false
  aggregations : "aggregations" ∈ Entries.keys members ↔ Method.aggregation.arguments calls ≠ []
  size : "size" ∈ Entries.keys members ↔ Method.limit.arguments calls ≠ []
  start : "from" ∈ Entries.keys members ↔ Method.offset.arguments calls ≠ []
  rescore : "rescore" ∈ Entries.keys members ↔ Method.rescorer.arguments calls ≠ []
  postFilter : "post_filter" ∈ Entries.keys members ↔ Method.postFilter.arguments calls ≠ []
  filters : CompiledQuery c depth (Method.query.arguments calls).getLast? (Method.filter.arguments calls)
    (Entries.get? "query" members)
  sorts : "sort" ∈ Entries.keys members → ∃ values, Entries.get? "sort" members = some (.array values) ∧
    CompiledItems c depth (Method.sort.arguments calls) values
  rescorers : "rescore" ∈ Entries.keys members →
    ∃ values, Entries.get? "rescore" members = some (.array values) ∧
      CompiledRescorers c (depth + 1) (Method.rescorer.arguments calls) values
  postFilters : CompiledFilters c depth (Method.postFilter.arguments calls) (Entries.get? "post_filter" members)

theorem laid_of_compileAt {c : Compiler} {depth : Nat} {calls : List Call} {body : Json}
    (compiles : (Search.empty.after calls).compileAt c depth = .ok body) :
    ∃ members, body = .object members ∧ Laid c depth calls members := by
  rw [after_eq_given] at compiles
  obtain ⟨query, sorts, source, aggregations, rescorers, postFilter, rfl, queried, sorted, chosen, counted,
    rescored, postFiltered⟩ := compileAt_eq_ok compiles
  refine ⟨_, rfl, ?_⟩
  simp only [given, empty, Option.or_none, List.nil_append] at queried sorted chosen counted rescored postFiltered ⊢
  constructor
  case ordered =>
    simp only [Entries.keys_append]
    exact (((((((Json.keys_optional_sublist _ _).append (Json.keys_group_sublist _ _)).append
      (Json.keys_optional_sublist _ _)).append (Json.keys_section?_sublist _ _)).append
      (Json.keys_optional_sublist _ _)).append (Json.keys_optional_sublist _ _)).append
      (Json.keys_group_sublist _ _)).append (Json.keys_optional_sublist _ _)
  case query => simp [Entries.mem_keys_iff, Entries.get?_append, queried.eq_none_iff, or_iff_not_imp_left]
  case sort => simp [Entries.mem_keys_iff, Entries.get?_append, forall₂_eq_nil_iff sorted]
  case source => simpa [Entries.mem_keys_iff, Entries.get?_append] using chosen
  case aggregations =>
    have counted := counted.trans Entries.ofPairs_eq_nil_iff
    simp [Entries.mem_keys_iff, Entries.get?_append, counted]
  case size => simp [Entries.mem_keys_iff, Entries.get?_append]
  case start => simp [Entries.mem_keys_iff, Entries.get?_append]
  case rescore => simp [Entries.mem_keys_iff, Entries.get?_append, forall₂_eq_nil_iff rescored]
  case postFilter => simp [Entries.mem_keys_iff, Entries.get?_append, postFiltered.eq_none_iff]
  case filters => simpa [Entries.get?_append] using queried
  case sorts =>
    intro mem
    have some : sorts ≠ [] := by simpa [Entries.mem_keys_iff, Entries.get?_append] using mem
    simpa [Entries.get?_append, some] using sorted
  case rescorers =>
    intro mem
    have some : rescorers ≠ [] := by simpa [Entries.mem_keys_iff, Entries.get?_append] using mem
    simpa [Entries.get?_append, some] using rescored
  case postFilters => simpa [Entries.get?_append] using postFiltered

end Search

/-- Searches that are put together by the same calls of every method, each
method's in one order, are the same and have the same body or error, however
the methods interleave. A body that compiles is laid out by what was given. -/
theorem searches_apart_from_interleaving :
    (∀ (search : Search) (calls calls' : List Search.Call),
      (∀ method : Search.Method, method.arguments calls = method.arguments calls') →
      search.after calls = search.after calls' ∧ (search.after calls).body = (search.after calls').body) ∧
    ∀ (calls : List Search.Call) (body : Json), (Search.empty.after calls).body = .ok body →
      ∃ members, body = .object members ∧
        Search.Laid ((Search.empty.after calls).config.compiler .query) 1 calls members := by
  constructor
  · intro search calls calls' same
    have after : search.after calls = search.after calls' := by
      simp only [Search.after_eq_given, Search.given, same]
    exact ⟨after, congrArg Search.body after⟩
  · intro calls body compiles
    obtain ⟨depth, entered, compiles⟩ := Result.bind_eq_ok_iff.mp compiles
    obtain ⟨-, rfl⟩ := Compiler.enter_eq_ok_iff.mp entered
    exact Search.laid_of_compileAt compiles

/-- Filters between limits, and an aggregation that is given again after another. -/
theorem searches_apart_from_interleaving_filters :
    let a := Expr.string "a"
    let b := Expr.string "b"
    let tags : Aggregation := .byField "terms" (.string "tag")
    let days : Aggregation := .dateHistogram (.string "day") "1d"
    let calls : List Search.Call := [.filter a, .limit 1, .aggregation "x" tags, .source (.fields [a]), .filter b,
      .aggregation "y" days, .limit 5, .aggregation "x" days, .source (.fields []), .sort a]
    let calls' : List Search.Call := [.sort a, .limit 1, .limit 5, .source (.fields [a]), .source (.fields []),
      .aggregation "x" tags, .aggregation "y" days, .aggregation "x" days, .filter a, .filter b]
    (∀ method : Search.Method, method.arguments calls = method.arguments calls') ∧
      Search.empty.after calls = Search.empty.after calls' ∧
      ∃ members, (Search.empty.after calls').body = .ok (.object members) ∧
        Entries.keys members = ["query", "sort", "aggregations", "size"] ∧
        Search.Laid (Config.default.compiler .query) 1 calls' members := by
  intro a b tags days calls calls'
  obtain ⟨interleaved, laid⟩ := searches_apart_from_interleaving
  have same (method : Search.Method) : method.arguments calls = method.arguments calls' := by cases method <;> rfl
  have compiles : ∃ members, (Search.empty.after calls').body = .ok (.object members) ∧
      Entries.keys members = ["query", "sort", "aggregations", "size"] := ⟨_, rfl, rfl⟩
  obtain ⟨members, compiles, keys⟩ := compiles
  obtain ⟨_, whole, laid⟩ := laid calls' _ compiles
  cases whole
  exact ⟨same, (interleaved .empty calls calls' same).1, members, compiles, keys, laid⟩

end SearchWire
