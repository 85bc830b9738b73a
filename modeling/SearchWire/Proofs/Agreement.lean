import SearchWire.Entries.Lemmas
import SearchWire.Index
import SearchWire.Proofs.Settled

/-!
# Ways to a body

A search, a document and a container of aggregations can each be compiled in
several ways: as an expression, on its own, under its own settings or through
an index. All ways to one body agree. A container of aggregations on its own
needs one level less than the search around it, for levels count from the
depth at which a walk starts.
-/

namespace SearchWire

-- ---------------------------------------------------------------------------
-- Searches call by call
-- ---------------------------------------------------------------------------

namespace Search

inductive Call where
  | query (query : Expr)
  | filter (filter : Expr)
  | postFilter (filter : Expr)
  | sort (clause : Expr)
  | source (source : SourceFilter)
  | aggregation (name : String) (aggregation : Aggregation)
  | limit (limit : Nat)
  | offset (offset : Nat)
  | rescorer (rescorer : Rescorer)
  | config (config : Config)

def Call.isConfig : Call → Bool
  | .config _ => true
  | _ => false

def call (search : Search) : Call → Search
  | .query query => search.withQuery query
  | .filter filter => search.addFilter filter
  | .postFilter filter => search.addPostFilter filter
  | .sort clause => search.addSort clause
  | .source source => search.withSource source
  | .aggregation name aggregation => search.withAggregation name aggregation
  | .limit limit => search.withLimit limit
  | .offset offset => search.withOffset offset
  | .rescorer rescorer => search.addRescorer rescorer
  | .config config => search.withConfig config

def after (search : Search) (calls : List Call) : Search := calls.foldl call search

theorem config_call {search : Search} {next : Call} (keeps : next.isConfig = false) :
    (search.call next).config = search.config := by
  cases next with
  | config => cases keeps
  | _ => rfl

theorem config_after {search : Search} {calls : List Call} (keep : ∀ next ∈ calls, next.isConfig = false) :
    (search.after calls).config = search.config := by
  induction calls generalizing search with
  | nil => rfl
  | cons next rest ih =>
    obtain ⟨keeps, keep⟩ := List.forall_mem_cons.mp keep
    exact (ih keep).trans (config_call keeps)

theorem compile_withConfig (config own : Config) (search : Search) :
    (search.withConfig own).compile config = search.compile config := by
  cases search
  rfl

end Search

-- ---------------------------------------------------------------------------
-- Starts of a walk
-- ---------------------------------------------------------------------------

theorem Demand.met_succ (d : Dialect) (limit depth : Nat) (demand : Demand) :
    demand.met ⟨d, limit + 1⟩ (depth + 1) = demand.met ⟨d, limit⟩ depth := by
  cases demand with
  | level extra => simp only [met, decide_eq_decide]; omega
  | _ => rfl

/-- With one more level around it and one more allowed, the same passes. -/
theorem Visits.check_succ_eq_ok_iff {d : Dialect} {limit depth : Nat} {visits : Visits} :
    check ⟨d, limit + 1⟩ (depth + 1) visits = .ok () ↔ check ⟨d, limit⟩ depth visits = .ok () := by
  simp only [check_eq_ok_iff, Demand.met_succ]

theorem Search.visits_aggregations {d : Dialect} {aggregations : Aggregations} (some : aggregations ≠ [])
    (config : Config) : ({ Search.empty with aggregations, config } : Search).visits d =
      Visits.under (.key "aggregations") (Visits.entered (aggregationVisits d aggregations)) := by
  obtain ⟨first, rest, rfl⟩ := List.exists_cons_of_ne_nil some
  exact (List.append_nil _).trans (List.append_nil _)

theorem Search.form_aggregations {d : Dialect} {aggregations : Aggregations} (some : aggregations ≠ [])
    (config : Config) : ({ Search.empty with aggregations, config } : Search).form d =
      .single "aggregations" (.object (aggregationForms d aggregations)) := by
  obtain ⟨first, rest, rfl⟩ := List.exists_cons_of_ne_nil some
  rfl

theorem Search.compile_aggregations {aggregations : Aggregations} (some : aggregations ≠ []) (config : Config)
    (limit : Nat) (json : Json) : ({ Search.empty with aggregations, config } : Search).compile ⟨limit + 1⟩ =
      .ok (.single "aggregations" json) ↔ aggregations.compile ⟨limit⟩ = .ok json := by
  have same (other : Json) : Json.single "aggregations" other = .single "aggregations" json ↔ other = json := by
    simp [Json.single]
  rw [Search.compile_eq, Visits.bind_ok_eq_ok_iff, ← Visits.check_eq_ok_iff, Search.visits_aggregations some,
    Search.form_aggregations some, same, Aggregations.compile_eq, Visits.bind_ok_eq_ok_iff,
    ← Visits.check_eq_ok_iff, Visits.check_entered_eq_ok_iff, Visits.check_under_eq_ok_iff, Config.compiler,
    Config.compiler, Visits.check_succ_eq_ok_iff]
  exact and_congr_left' (and_iff_right (Nat.succ_pos limit))

-- ---------------------------------------------------------------------------
-- Indexes
-- ---------------------------------------------------------------------------

namespace Index

theorem lookup_register (index : Index) (document : Document) :
    (index.register document).lookup document.docType =
      (.ok ⟨index.nextStamp, document⟩, index.register document) := by
  have found : Entries.get? document.docType (index.register document).registrations =
      some ⟨index.nextStamp, document⟩ := by
    rw [register, Entries.get?_put, if_pos rfl]
  rw [lookup, found]

theorem putMapping_register (index : Index) (document : Document) :
    (index.register document).putMapping document.docType =
      (document.compile index.settings.config, index.register document) := by
  rw [putMapping, lookup_register]
  rfl

theorem body_query_after (index : Index) {calls : List Search.Call} (keep : ∀ next ∈ calls, next.isConfig = false) :
    (index.query.after calls).body = index.searchBody (index.query.after calls) := by
  rw [Search.body, Search.config_after keep, searchBody]
  rfl

end Index

/-- Expressions, searches, documents and indexes give one body for one content
and the same settings, and aggregations give theirs to the search that asks for
nothing else. -/
theorem ways_to_body_agree :
    (∀ (config : Config) (search : Search),
      (Expr.node (.search search)).compile (config.compiler .query) = search.compile config) ∧
    (∀ search : Search, search.body = (Expr.node (.search search)).compile (search.config.compiler .query)) ∧
    (∀ (index : Index) (search : Search),
      index.searchBody search = (search.withConfig index.settings.config).body) ∧
    (∀ (index : Index) (calls : List Search.Call), (∀ next ∈ calls, next.isConfig = false) →
      (index.query.after calls).body = index.searchBody (index.query.after calls)) ∧
    (∀ (config : Config) (document : Document),
      (Expr.node (.document document)).compile (config.compiler .mapping) = document.compile config) ∧
    (∀ (index : Index) (document : Document),
      ((index.register document).putMapping document.docType).1 = document.compile index.settings.config) ∧
    ∀ (aggregations : Aggregations) (config : Config) (limit : Nat) (json : Json), aggregations ≠ [] →
      (aggregations.compile ⟨limit⟩ = .ok json ↔
        ({ Search.empty with aggregations, config } : Search).compile ⟨limit + 1⟩ =
          .ok (.single "aggregations" json)) := by
  -- As an expression a search or a document enters the level of its node, as it does on its own.
  refine ⟨fun config search => rfl, fun search => rfl, ?_, ?_, fun config document => rfl, ?_, ?_⟩
  · intro index search
    exact (Search.compile_withConfig _ _ search).symm
  · intro index calls keep
    exact index.body_query_after keep
  · intro index document
    rw [index.putMapping_register document]
  · intro aggregations config limit json some
    exact (Search.compile_aggregations some config limit json).symm

/-- A search that an index starts and calls refine, and a container of one bucket. -/
theorem ways_to_body_agree_tags :
    let tags : Aggregation := .byField "terms" (.string "tag")
    let index := Index.new ((IndexSettings.named "shop").withConfig ⟨2⟩)
    let search := index.query.after [.aggregation "tags" tags, .filter .null, .limit 5]
    let json : Json := .single "tags" (.single "terms" (.single "field" (.string "tag")))
    (∃ body, search.body = .ok body ∧ index.searchBody search = .ok body) ∧
      Aggregations.compile ⟨1⟩ [("tags", tags)] = .ok json ∧
      ({ Search.empty with aggregations := [("tags", tags)] } : Search).compile ⟨2⟩ =
        .ok (.single "aggregations" json) := by
  intro tags index search json
  obtain ⟨-, -, -, started, -, -, alone⟩ := ways_to_body_agree
  have same : search.body = index.searchBody search := started index _ (by decide)
  have compiles : ∃ body, search.body = .ok body := ⟨_, rfl⟩
  obtain ⟨body, compiles⟩ := compiles
  have bucket : Aggregations.compile ⟨1⟩ [("tags", tags)] = .ok json := rfl
  exact ⟨⟨body, compiles, same ▸ compiles⟩, bucket, (alone _ _ 1 json (List.cons_ne_nil _ _)).mp bucket⟩

end SearchWire
