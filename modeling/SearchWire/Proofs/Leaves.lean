import SearchWire.Proofs.Sections

/-!
# Holes for all numbers

Every number that the compilation of an expression looks at can be left out:
the expression is a hole filled with it, and the frames around the hole report
the place of the visit.
-/

namespace SearchWire

/-- A number is looked at, and a fault in it is reported at the place. -/
def Visits.Reads (visits : Visits) (number : Double) (place : Path) : Prop :=
  (⟨place, .finite number⟩ : Visit) ∈ visits

namespace Visits

variable {number : Double} {place : Path} {visits rest : Visits}

theorem reads_nil : ¬Reads [] number place := List.not_mem_nil

theorem reads_append : Reads (visits ++ rest) number place ↔ Reads visits number place ∨ Reads rest number place :=
  List.mem_append

theorem reads_under {step : Step} :
    Reads (under step visits) number place ↔ ∃ inner, place = step :: inner ∧ Reads visits number inner := by
  simp only [Reads, under, List.mem_map]
  constructor
  · rintro ⟨⟨inner, demand⟩, mem, eq⟩
    obtain ⟨rfl, rfl⟩ := Visit.mk.inj eq
    exact ⟨inner, rfl, mem⟩
  · rintro ⟨inner, rfl, mem⟩
    exact ⟨_, mem, rfl⟩

theorem reads_entered : Reads (entered visits) number place ↔ Reads visits number place := by
  simp only [Reads, entered, List.mem_cons, List.mem_map]
  constructor
  · rintro (level | ⟨⟨inner, demand⟩, mem, eq⟩)
    · cases level
    · cases demand with
      | level depth => cases eq
      | _ => exact eq ▸ mem
  · exact fun mem => .inr ⟨_, mem, rfl⟩

theorem reads_enteredUnless {empty : Bool} :
    Reads (enteredUnless empty visits) number place ↔ Reads visits number place := by
  cases empty
  · exact reads_entered
  · exact Iff.rfl

theorem reads_names {target : Expr} :
    Reads (.here (.names target) :: visits) number place ↔ Reads visits number place := by
  simp [Reads, Visit.here]

theorem reads_node {inner : Node} :
    Reads (.here (.node inner) :: visits) number place ↔ Reads visits number place := by
  simp [Reads, Visit.here]

theorem reads_finite {value : Double} :
    Reads (.here (.finite value) :: visits) number place ↔
      (place = [] ∧ number = value) ∨ Reads visits number place := by
  simp [Reads, Visit.here]

end Visits

open Visits

theorem Search.reads_visits {number : Double} {place : Path} {search : Search} :
    Reads (search.visits .query) number place ↔ ∃ part, Reads (search.sectionVisits .query part) number place := by
  simp [Reads, Search.visits_eq_flatMap, Search.Section.mem_all]

theorem filters_exists_hole {number : Double} {place : Path} {filters : List Expr}
    (items : ∀ {place}, Reads (itemVisits .query filters 0) number place →
      ∃ (gap : Gap Expr) (hole : Hole .expr), gap.fill (hole.fill number) = filters ∧
        .index gap.before.length :: hole.reports = place)
    (h : Reads (filtersVisits .query filters) number place) :
    ∃ (gap : Gap Expr) (hole : Hole .expr), gap.fill (hole.fill number) = filters ∧
      (if gap.alone then [] else [.key "and", .index gap.before.length]) ++ hole.reports = place := by
  rcases filters with _ | ⟨first, _ | ⟨second, rest⟩⟩
  · exact (reads_nil h).elim
  · obtain ⟨gap, hole, fill, path⟩ := items (reads_append.mpr (.inl (reads_under.mpr ⟨place, rfl, h⟩)))
    cases alone : gap.alone with
    | true => exact ⟨gap, hole, fill, by simpa [alone] using (List.cons.inj path).2⟩
    | false =>
      have several := gap.several alone (hole.fill number)
      rw [fill] at several
      exact absurd several (Nat.lt_irrefl 1)
  · obtain ⟨inner, rfl, within⟩ := reads_under.mp (reads_entered.mp h)
    obtain ⟨gap, hole, fill, rfl⟩ := items within
    cases alone : gap.alone with
    | true =>
      obtain ⟨before, after⟩ := gap
      obtain ⟨rfl, rfl⟩ : before = [] ∧ after = [] := by simpa [Gap.alone] using alone
      cases fill
    | false => exact ⟨gap, hole, fill, by simp [alone]⟩

mutual
/-- Every number that is read can be left out, and the frames around the hole report the
place where it is read. -/
theorem Expr.exists_hole {number : Double} : (expr : Expr) → {place : Path} →
    Reads (expr.visits .query) number place →
    ∃ hole : Hole .expr, hole.fill number = expr ∧ hole.reports = place
  | .float value, place, h => by
    obtain ⟨rfl, rfl⟩ | none := reads_finite.mp h
    · exact ⟨.number, rfl, rfl⟩
    · exact (reads_nil none).elim
  | .list items, place, h => by
    obtain ⟨gap, hole, rfl, rfl⟩ := items_exists_hole items 0 (reads_entered.mp h)
    exact ⟨.inside (.item gap) hole, rfl, rfl⟩
  | .map entries, place, h => by
    obtain ⟨slot, hole, rfl, rfl⟩ := params_exists_hole entries (reads_entered.mp h)
    exact ⟨.inside (.entry slot) hole, rfl, rfl⟩
  | .node inner, place, h => inner.exists_hole (reads_node.mp (reads_entered.mp h))
  | .null, _, h => (reads_nil h).elim
  | .bool _, _, h => (reads_nil h).elim
  | .int _, _, h => (reads_nil h).elim
  | .string _, _, h => (reads_nil h).elim
  | .raw _, _, h => (reads_nil h).elim

theorem items_exists_hole {number : Double} : (items : List Expr) → (position : Nat) → {place : Path} →
    Reads (itemVisits .query items position) number place →
    ∃ (gap : Gap Expr) (hole : Hole .expr), gap.fill (hole.fill number) = items ∧
      .index (gap.before.length + position) :: hole.reports = place
  | [], _, _, h => (reads_nil h).elim
  | item :: rest, position, place, h => by
    rcases reads_append.mp h with h | h
    · obtain ⟨inner, rfl, within⟩ := reads_under.mp h
      obtain ⟨hole, rfl, rfl⟩ := item.exists_hole within
      exact ⟨⟨[], rest⟩, hole, rfl, by simp⟩
    · obtain ⟨⟨before, after⟩, hole, rfl, rfl⟩ := items_exists_hole rest (position + 1) h
      exact ⟨⟨item :: before, after⟩, hole, rfl, by simp; omega⟩

theorem params_exists_hole {number : Double} : (params : List (String × Expr)) → {place : Path} →
    Reads (paramVisits .query params) number place →
    ∃ (slot : Slot Expr) (hole : Hole .expr), slot.fill (hole.fill number) = params ∧
      .key slot.key :: hole.reports = place
  | [], _, h => (reads_nil h).elim
  | (key, value) :: rest, place, h => by
    rcases reads_append.mp h with h | h
    · obtain ⟨inner, rfl, within⟩ := reads_under.mp h
      obtain ⟨hole, rfl, rfl⟩ := value.exists_hole within
      exact ⟨⟨[], key, rest⟩, hole, rfl, rfl⟩
    · obtain ⟨⟨before, name, after⟩, hole, rfl, rfl⟩ := params_exists_hole rest h
      exact ⟨⟨(key, value) :: before, name, after⟩, hole, rfl, rfl⟩

theorem Node.exists_hole {number : Double} : (node : Node) → {place : Path} →
    Reads (node.queryVisits .query) number place →
    ∃ hole : Hole .expr, hole.fill number = .node node ∧ hole.reports = place
  | .field _, _, h => (reads_nil h).elim
  | .metaField _, _, h => (reads_nil h).elim
  | .boost ⟨target, weight⟩, place, h => by
    simp only [Node.queryVisits, Boost.visits, reads_append, reads_names] at h
    rcases h with h | h
    · obtain ⟨hole, rfl, rfl⟩ := target.exists_hole h
      exact ⟨.inside (.boostTarget ⟨.null, weight⟩) hole, rfl, rfl⟩
    · obtain ⟨hole, rfl, rfl⟩ := weight.exists_hole h
      exact ⟨.inside (.boostWeight ⟨target, .null⟩) hole, rfl, rfl⟩
  | .fieldQuery ⟨kind, field, operand, params⟩, place, h => by
    simp only [Node.queryVisits, FieldQuery.visits, reads_append, reads_names, reads_under] at h
    rcases h with h | ⟨_, rfl, _, rfl, h | h⟩
    · obtain ⟨hole, rfl, rfl⟩ := field.exists_hole h
      exact ⟨.inside (.queryField ⟨kind, .null, operand, params⟩) hole, rfl, rfl⟩
    · obtain ⟨hole, rfl, rfl⟩ := operand.exists_hole h
      exact ⟨.inside (.queryOperand ⟨kind, field, .null, params⟩) hole, rfl, rfl⟩
    · obtain ⟨slot, hole, rfl, rfl⟩ := params_exists_hole params h
      exact ⟨.inside (.queryParam ⟨kind, field, operand, []⟩ slot) hole, rfl, rfl⟩
  | .named ⟨name, params⟩, place, h => by
    obtain ⟨inner, rfl, within⟩ := reads_under.mp h
    obtain ⟨slot, hole, rfl, rfl⟩ := params_exists_hole params within
    exact ⟨.inside (.namedParam ⟨name, []⟩ slot) hole, rfl, rfl⟩
  | .range ⟨field, params, queryParams⟩, place, h => by
    simp only [Node.queryVisits, Range.visits, reads_append, reads_names, reads_under] at h
    rcases h with h | ⟨_, rfl, h | ⟨_, rfl, h⟩⟩
    · obtain ⟨hole, rfl, rfl⟩ := field.exists_hole h
      exact ⟨.inside (.rangeField ⟨.null, params, queryParams⟩) hole, rfl, rfl⟩
    · obtain ⟨slot, hole, rfl, rfl⟩ := params_exists_hole queryParams h
      exact ⟨.inside (.rangeParam ⟨field, params, []⟩ slot) hole, rfl, rfl⟩
    · obtain ⟨slot, hole, rfl, rfl⟩ := params_exists_hole params h
      exact ⟨.inside (.rangeBound ⟨field, [], queryParams⟩ slot) hole, rfl, rfl⟩
  | .terms ⟨field, values, params⟩, place, h => by
    simp only [Node.queryVisits, Terms.visits, reads_append, reads_names, reads_under] at h
    rcases h with h | ⟨_, rfl, ⟨_, rfl, h⟩ | h⟩
    · obtain ⟨hole, rfl, rfl⟩ := field.exists_hole h
      exact ⟨.inside (.termsField ⟨.null, values, params⟩) hole, rfl, rfl⟩
    · obtain ⟨gap, hole, rfl, rfl⟩ := items_exists_hole values 0 h
      exact ⟨.inside (.termsValue ⟨field, [], params⟩ gap) hole, rfl, rfl⟩
    · obtain ⟨slot, hole, rfl, rfl⟩ := params_exists_hole params h
      exact ⟨.inside (.termsParam ⟨field, values, []⟩ slot) hole, rfl, rfl⟩
  | .multiMatch ⟨operand, fields, params⟩, place, h => by
    simp only [Node.queryVisits, MultiMatch.visits, reads_append] at h
    rcases h with (h | h) | h
    · obtain ⟨hole, rfl, rfl⟩ := operand.exists_hole h
      exact ⟨.inside (.multiMatchOperand ⟨.null, fields, params⟩) hole, rfl, rfl⟩
    · obtain ⟨gap, hole, rfl, rfl⟩ := items_exists_hole fields 0 h
      exact ⟨.inside (.multiMatchField ⟨operand, [], params⟩ gap) hole, rfl, rfl⟩
    · obtain ⟨slot, hole, rfl, rfl⟩ := params_exists_hole params h
      exact ⟨.inside (.multiMatchParam ⟨operand, fields, []⟩ slot) hole, rfl, rfl⟩
  | .wrapped ⟨query, params⟩, place, h => by
    rcases reads_append.mp h with h | h
    · obtain ⟨hole, rfl, rfl⟩ := query.exists_hole h
      exact ⟨.inside (.wrappedQuery ⟨.null, params⟩) hole, rfl, rfl⟩
    · obtain ⟨slot, hole, rfl, rfl⟩ := params_exists_hole params h
      exact ⟨.inside (.wrappedParam ⟨query, []⟩ slot) hole, rfl, rfl⟩
  | .boolean ⟨operator, operands, params⟩, place, h => by
    simp only [Node.queryVisits, BooleanFilter.visits, reads_append, reads_under] at h
    rcases h with ⟨_, rfl, h⟩ | h
    · obtain ⟨gap, hole, rfl, rfl⟩ := items_exists_hole operands 0 h
      exact ⟨.inside (.booleanOperand ⟨operator, [], params⟩ gap) hole, rfl, rfl⟩
    · obtain ⟨slot, hole, rfl, rfl⟩ := params_exists_hole params h
      exact ⟨.inside (.booleanParam ⟨operator, operands, []⟩ slot) hole, rfl, rfl⟩
  | .negation ⟨operand, params⟩, place, h => by
    simp only [Node.queryVisits, Negation.visits, reads_append, reads_under] at h
    rcases h with ⟨_, rfl, h⟩ | h
    · obtain ⟨hole, rfl, rfl⟩ := operand.exists_hole h
      exact ⟨.inside (.negationOperand ⟨.null, params⟩) hole, rfl, rfl⟩
    · obtain ⟨slot, hole, rfl, rfl⟩ := params_exists_hole params h
      exact ⟨.inside (.negationParam ⟨operand, []⟩ slot) hole, rfl, rfl⟩
  | .sort ⟨target, order, params⟩, place, h => by
    have names : ¬Reads (if order.isNone ∧ params.isEmpty then [] else [.here (.names target)]) number place := by
      split
      · exact reads_nil
      · exact fun read => reads_nil (reads_names.mp read)
    simp only [Node.queryVisits, SortClause.visits, reads_append, names, or_false] at h
    rcases h with h | h
    · obtain ⟨hole, rfl, rfl⟩ := target.exists_hole h
      exact ⟨.inside (.sortTarget ⟨.null, order, params⟩) hole, rfl, rfl⟩
    · obtain ⟨slot, hole, rfl, rfl⟩ := params_exists_hole params h
      exact ⟨.inside (.sortParam ⟨target, order, []⟩ slot) hole, rfl, rfl⟩
  | .aggregation aggregation, place, h => by
    obtain ⟨hole, rfl, rfl⟩ := aggregation.exists_hole h
    exact ⟨.inside .aggregation hole, rfl, rfl⟩
  | .source source, place, h => by
    obtain ⟨hole, rfl, rfl⟩ := source.exists_hole h
    exact ⟨.inside .source hole, rfl, rfl⟩
  | .rescore rescorer, place, h => by
    obtain ⟨hole, rfl, rfl⟩ := rescorer.exists_hole h
    exact ⟨.inside .rescore hole, rfl, rfl⟩
  | .search search, place, h => by
    obtain ⟨hole, rfl, rfl⟩ := search.exists_hole h
    exact ⟨.inside .search hole, rfl, rfl⟩
  | .document _, _, h => (reads_nil h).elim

theorem Aggregation.exists_hole {number : Double} : (aggregation : Aggregation) → {place : Path} →
    Reads (aggregation.visits .query) number place →
    ∃ hole : Hole .aggregation, hole.fill number = aggregation ∧ hole.reports = place
  | .metric name params, place, h => by
    obtain ⟨slot, hole, rfl, rfl⟩ := params_exists_hole params h
    exact ⟨.inside (.metricParam name slot) hole, rfl, rfl⟩
  | .bucket name params subs, place, h => by
    simp only [Aggregation.visits, reads_append, reads_under, reads_enteredUnless] at h
    rcases h with h | ⟨_, rfl, h⟩
    · obtain ⟨slot, hole, rfl, rfl⟩ := params_exists_hole params h
      exact ⟨.inside (.bucketParam name slot subs) hole, rfl, rfl⟩
    · obtain ⟨slot, hole, rfl, rfl⟩ := aggregations_exists_hole subs h
      exact ⟨.inside (.bucketSub name params slot) hole, rfl, rfl⟩
  | .filter condition subs, place, h => by
    simp only [Aggregation.visits, reads_append, reads_under, reads_enteredUnless] at h
    rcases h with ⟨_, rfl, h⟩ | ⟨_, rfl, h⟩
    · obtain ⟨slot, hole, rfl, rfl⟩ := aggregations_exists_hole subs h
      exact ⟨.inside (.conditionSub condition slot) hole, rfl, rfl⟩
    · obtain ⟨hole, rfl, rfl⟩ := condition.exists_hole h
      exact ⟨.inside (.condition subs) hole, rfl, rfl⟩

theorem aggregations_exists_hole {number : Double} : (aggregations : List (String × Aggregation)) →
    {place : Path} → Reads (aggregationVisits .query aggregations) number place →
    ∃ (slot : Slot Aggregation) (hole : Hole .aggregation), slot.fill (hole.fill number) = aggregations ∧
      .key slot.key :: hole.reports = place
  | [], _, h => (reads_nil h).elim
  | (name, aggregation) :: rest, place, h => by
    rcases reads_append.mp h with h | h
    · obtain ⟨inner, rfl, within⟩ := reads_under.mp h
      obtain ⟨hole, rfl, rfl⟩ := aggregation.exists_hole within
      exact ⟨⟨[], name, rest⟩, hole, rfl, rfl⟩
    · obtain ⟨⟨before, key, after⟩, hole, rfl, rfl⟩ := aggregations_exists_hole rest h
      exact ⟨⟨(name, aggregation) :: before, key, after⟩, hole, rfl, rfl⟩

theorem SourceFilter.exists_hole {number : Double} : (source : SourceFilter) → {place : Path} →
    Reads (source.visits .query) number place →
    ∃ hole : Hole .source, hole.fill number = source ∧ hole.reports = place
  | .disabled, _, h => (reads_nil h).elim
  | .fields names, place, h => by
    obtain ⟨gap, hole, rfl, rfl⟩ := items_exists_hole names 0 h
    exact ⟨.inside (.sourceField gap) hole, rfl, rfl⟩
  | .patterns included excluded, place, h => by
    simp only [SourceFilter.visits, reads_append, reads_under] at h
    rcases h with ⟨_, rfl, h⟩ | ⟨_, rfl, h⟩
    · obtain ⟨gap, hole, rfl, rfl⟩ := items_exists_hole included 0 h
      exact ⟨.inside (.included gap excluded) hole, rfl, rfl⟩
    · obtain ⟨gap, hole, rfl, rfl⟩ := items_exists_hole excluded 0 h
      exact ⟨.inside (.excluded included gap) hole, rfl, rfl⟩

theorem Rescorer.exists_hole {number : Double} : (rescorer : Rescorer) → {place : Path} →
    Reads (rescorer.visits .query) number place →
    ∃ hole : Hole .rescorer, hole.fill number = rescorer ∧ hole.reports = place
  | ⟨query, windowSize, queryWeight, rescoreQueryWeight, scoreMode⟩, place, h => by
    rcases reads_append.mp h with h | h
    · obtain ⟨inner, rfl, within⟩ := reads_under.mp h
      obtain ⟨hole, rfl, rfl⟩ := query.exists_hole within
      exact ⟨.inside (.rescoreQuery ⟨.null, windowSize, queryWeight, rescoreQueryWeight, scoreMode⟩) hole, rfl, rfl⟩
    · simp only [Reads, List.mem_map, List.mem_append, Option.mem_toList] at h
      obtain ⟨weight, rfl | rfl, eq⟩ := h
      · cases eq
        exact ⟨.queryWeight ⟨query, windowSize, none, rescoreQueryWeight, scoreMode⟩, rfl, rfl⟩
      · cases eq
        exact ⟨.rescoreQueryWeight ⟨query, windowSize, queryWeight, none, scoreMode⟩, rfl, rfl⟩

theorem rescorers_exists_hole {number : Double} : (rescorers : List Rescorer) → (position : Nat) →
    {place : Path} → Reads (rescorerVisits .query rescorers position) number place →
    ∃ (gap : Gap Rescorer) (hole : Hole .rescorer), gap.fill (hole.fill number) = rescorers ∧
      .key "rescore" :: .index (gap.before.length + position) :: hole.reports = place
  | [], _, _, h => (reads_nil h).elim
  | rescorer :: rest, position, place, h => by
    rcases reads_append.mp h with h | h
    · obtain ⟨_, rfl, under⟩ := reads_under.mp h
      obtain ⟨inner, rfl, within⟩ := reads_under.mp under
      obtain ⟨hole, rfl, rfl⟩ := rescorer.exists_hole within
      exact ⟨⟨[], rest⟩, hole, rfl, by simp⟩
    · obtain ⟨⟨before, after⟩, hole, rfl, rfl⟩ := rescorers_exists_hole rest (position + 1) h
      exact ⟨⟨rescorer :: before, after⟩, hole, rfl, by simp; omega⟩

theorem optional_exists_hole {number : Double} : (optional : Option Expr) → {place : Path} →
    Reads (optionalVisits .query optional) number place →
    ∃ hole : Hole .expr, some (hole.fill number) = optional ∧ hole.reports = place
  | none, _, h => (reads_nil h).elim
  | some expr, place, h => by
    obtain ⟨hole, rfl, rfl⟩ := expr.exists_hole h
    exact ⟨hole, rfl, rfl⟩

theorem source_exists_hole {number : Double} : (source : Option SourceFilter) → {place : Path} →
    Reads (sourceVisits .query source) number place →
    ∃ hole : Hole .source, some (hole.fill number) = source ∧ .key "_source" :: hole.reports = place
  | none, _, h => (reads_nil h).elim
  | some source, place, h => by
    rw [sourceVisits] at h
    split at h
    · exact (reads_nil h).elim
    · obtain ⟨inner, rfl, within⟩ := reads_under.mp (reads_entered.mp h)
      obtain ⟨hole, rfl, rfl⟩ := source.exists_hole within
      exact ⟨hole, rfl, rfl⟩

theorem Search.exists_hole {number : Double} : (search : Search) → {place : Path} →
    Reads (search.visits .query) number place →
    ∃ hole : Hole .search, hole.fill number = search ∧ hole.reports = place
  | ⟨query, filters, postFilters, sorts, source, aggregations, limit, offset, rescorers, config⟩, place, h => by
    obtain ⟨part, h⟩ := Search.reads_visits.mp h
    cases part with
    | query =>
      obtain ⟨_, rfl, within⟩ := reads_under.mp h
      cases empty : filters.isEmpty with
      | true =>
        simp only [empty, if_true] at within
        obtain ⟨hole, rfl, rfl⟩ := optional_exists_hole query within
        exact ⟨.inside (.searchQuery ⟨none, filters, postFilters, sorts, source, aggregations, limit, offset,
          rescorers, config⟩) hole, rfl, by simp [Hole.reports, Frame.reports, Frame.stands, empty]⟩
      | false =>
        simp only [empty, Bool.false_eq_true, if_false, reads_entered, reads_append, reads_under] at within
        obtain ⟨_, rfl, ⟨_, rfl, read⟩ | ⟨_, rfl, read⟩⟩ := within
        · obtain ⟨hole, rfl, rfl⟩ := optional_exists_hole query read
          exact ⟨.inside (.searchQuery ⟨none, filters, postFilters, sorts, source, aggregations, limit, offset,
            rescorers, config⟩) hole, rfl, by simp [Hole.reports, Frame.reports, Frame.stands, empty]⟩
        · obtain ⟨gap, hole, rfl, rfl⟩ := filters_exists_hole (fun item => items_exists_hole filters 0 item) read
          exact ⟨.inside (.searchFilter ⟨query, [], postFilters, sorts, source, aggregations, limit, offset,
            rescorers, config⟩ gap) hole, rfl, rfl⟩
    | sort =>
      obtain ⟨_, rfl, within⟩ := reads_under.mp h
      obtain ⟨gap, hole, rfl, rfl⟩ := items_exists_hole sorts 0 within
      exact ⟨.inside (.searchSort ⟨query, filters, postFilters, [], source, aggregations, limit, offset,
        rescorers, config⟩ gap) hole, rfl, rfl⟩
    | source =>
      obtain ⟨hole, rfl, rfl⟩ := source_exists_hole source h
      exact ⟨.inside (.searchSource ⟨query, filters, postFilters, sorts, none, aggregations, limit, offset,
        rescorers, config⟩) hole, rfl, rfl⟩
    | aggregations =>
      obtain ⟨_, rfl, within⟩ := reads_under.mp h
      obtain ⟨slot, hole, rfl, rfl⟩ := aggregations_exists_hole aggregations (reads_enteredUnless.mp within)
      exact ⟨.inside (.searchAggregation ⟨query, filters, postFilters, sorts, source, [], limit, offset,
        rescorers, config⟩ slot) hole, rfl, rfl⟩
    | size => exact (reads_nil h).elim
    | start => exact (reads_nil h).elim
    | rescore =>
      obtain ⟨gap, hole, rfl, rfl⟩ := rescorers_exists_hole rescorers 0 (reads_enteredUnless.mp h)
      exact ⟨.inside (.searchRescorer ⟨query, filters, postFilters, sorts, source, aggregations, limit, offset,
        [], config⟩ gap) hole, rfl, rfl⟩
    | postFilter =>
      obtain ⟨_, rfl, within⟩ := reads_under.mp h
      obtain ⟨gap, hole, rfl, rfl⟩ := filters_exists_hole (fun item => items_exists_hole postFilters 0 item) within
      exact ⟨.inside (.searchPostFilter ⟨query, filters, [], sorts, source, aggregations, limit, offset,
        rescorers, config⟩ gap) hole, rfl, rfl⟩
end

end SearchWire
