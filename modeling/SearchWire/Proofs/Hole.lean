import SearchWire.Compiler.Body
import SearchWire.Proofs.Place
import SearchWire.Proofs.Visits

/-!
# Holes

An expression with one number left out, as the frames around the number.
Every frame says where the part inside it stands in the body of the whole,
which steps of that place a fault in the part is reported under, and whether
these are all of them.
-/

namespace SearchWire

/-- A list with one item left out. -/
structure Gap (α : Type) where
  before : List α
  after : List α

/-- Named values with one value left out. -/
structure Slot (α : Type) where
  before : Entries α
  key : String
  after : Entries α

def Gap.fill {α : Type} (gap : Gap α) (item : α) : List α := gap.before ++ item :: gap.after

def Slot.fill {α : Type} (slot : Slot α) (value : α) : Entries α :=
  slot.before ++ (slot.key, value) :: slot.after

def Gap.alone {α : Type} (gap : Gap α) : Bool := gap.before.isEmpty && gap.after.isEmpty

@[simp] theorem Gap.isEmpty_fill {α : Type} (gap : Gap α) (item : α) : (gap.fill item).isEmpty = false := by
  obtain ⟨before, after⟩ := gap
  cases before <;> rfl

@[simp] theorem Slot.isEmpty_fill {α : Type} (slot : Slot α) (value : α) : (slot.fill value).isEmpty = false := by
  obtain ⟨before, key, after⟩ := slot
  cases before <;> rfl

theorem Gap.several {α : Type} (gap : Gap α) (alone : gap.alone = false) (item : α) :
    1 < (gap.fill item).length := by
  rw [Gap.fill, List.length_append, List.length_cons]
  rcases Bool.and_eq_false_iff.mp alone with some | some
  · have := List.length_pos_iff.mpr (List.isEmpty_eq_false_iff.mp some)
    omega
  · have := List.length_pos_iff.mpr (List.isEmpty_eq_false_iff.mp some)
    omega

-- ---------------------------------------------------------------------------
-- Parts
-- ---------------------------------------------------------------------------

inductive PartKind where
  | expr
  | aggregation
  | source
  | rescorer
  | search

namespace PartKind

abbrev Part : PartKind → Type
  | .expr => Expr
  | .aggregation => Aggregation
  | .source => SourceFilter
  | .rescorer => Rescorer
  | .search => Search

def form : (kind : PartKind) → kind.Part → Json
  | .expr, part => Expr.form .query part
  | .aggregation, part => Aggregation.form .query part
  | .source, part => SourceFilter.form .query part
  | .rescorer, part => Rescorer.form .query part
  | .search, part => Search.form .query part

def visits : (kind : PartKind) → kind.Part → Visits
  | .expr, part => Expr.visits .query part
  | .aggregation, part => Aggregation.visits .query part
  | .source, part => SourceFilter.visits .query part
  | .rescorer, part => Rescorer.visits .query part
  | .search, part => Search.visits .query part

/-- What is asked of a part where it is used: whether an expression names a
field, whether a source selects nothing. -/
def mark : (kind : PartKind) → kind.Part → Bool
  | .expr, part => (Expr.form .query part).isText
  | .source, part => SourceFilter.isEmpty part
  | _, _ => false

end PartKind

-- ---------------------------------------------------------------------------
-- Frames
-- ---------------------------------------------------------------------------

/-- One container with one of its parts left out. What the container holds
in that part's stead does not count. -/
inductive Frame : PartKind → PartKind → Type where
  | item (gap : Gap Expr) : Frame .expr .expr
  | entry (slot : Slot Expr) : Frame .expr .expr
  | boostTarget (boost : Boost) : Frame .expr .expr
  | boostWeight (boost : Boost) : Frame .expr .expr
  | queryField (query : FieldQuery) : Frame .expr .expr
  | queryOperand (query : FieldQuery) : Frame .expr .expr
  | queryParam (query : FieldQuery) (slot : Slot Expr) : Frame .expr .expr
  | namedParam (query : NamedQuery) (slot : Slot Expr) : Frame .expr .expr
  | rangeField (range : Range) : Frame .expr .expr
  | rangeBound (range : Range) (slot : Slot Expr) : Frame .expr .expr
  | rangeParam (range : Range) (slot : Slot Expr) : Frame .expr .expr
  | termsField (terms : Terms) : Frame .expr .expr
  | termsValue (terms : Terms) (gap : Gap Expr) : Frame .expr .expr
  | termsParam (terms : Terms) (slot : Slot Expr) : Frame .expr .expr
  | multiMatchOperand (query : MultiMatch) : Frame .expr .expr
  | multiMatchField (query : MultiMatch) (gap : Gap Expr) : Frame .expr .expr
  | multiMatchParam (query : MultiMatch) (slot : Slot Expr) : Frame .expr .expr
  | wrappedQuery (query : WrappedQuery) : Frame .expr .expr
  | wrappedParam (query : WrappedQuery) (slot : Slot Expr) : Frame .expr .expr
  | booleanOperand (filter : BooleanFilter) (gap : Gap Expr) : Frame .expr .expr
  | booleanParam (filter : BooleanFilter) (slot : Slot Expr) : Frame .expr .expr
  | negationOperand (filter : Negation) : Frame .expr .expr
  | negationParam (filter : Negation) (slot : Slot Expr) : Frame .expr .expr
  | sortTarget (clause : SortClause) : Frame .expr .expr
  | sortParam (clause : SortClause) (slot : Slot Expr) : Frame .expr .expr
  | aggregation : Frame .aggregation .expr
  | source : Frame .source .expr
  | rescore : Frame .rescorer .expr
  | search : Frame .search .expr
  | metricParam (name : String) (slot : Slot Expr) : Frame .expr .aggregation
  | bucketParam (name : String) (slot : Slot Expr) (subs : Aggregations) : Frame .expr .aggregation
  | bucketSub (name : String) (params : Entries Expr) (slot : Slot Aggregation) : Frame .aggregation .aggregation
  | condition (subs : Aggregations) : Frame .expr .aggregation
  | conditionSub (condition : Expr) (slot : Slot Aggregation) : Frame .aggregation .aggregation
  | sourceField (gap : Gap Expr) : Frame .expr .source
  | included (gap : Gap Expr) (excluded : List Expr) : Frame .expr .source
  | excluded (included : List Expr) (gap : Gap Expr) : Frame .expr .source
  | rescoreQuery (rescorer : Rescorer) : Frame .expr .rescorer
  | searchQuery (search : Search) : Frame .expr .search
  | searchFilter (search : Search) (gap : Gap Expr) : Frame .expr .search
  | searchPostFilter (search : Search) (gap : Gap Expr) : Frame .expr .search
  | searchSort (search : Search) (gap : Gap Expr) : Frame .expr .search
  | searchSource (search : Search) : Frame .source .search
  | searchAggregation (search : Search) (slot : Slot Aggregation) : Frame .aggregation .search
  | searchRescorer (search : Search) (gap : Gap Rescorer) : Frame .rescorer .search

namespace Frame

def fill {inner outer : PartKind} : Frame inner outer → inner.Part → outer.Part
  | .item gap, part => .list (gap.fill part)
  | .entry slot, part => .map (slot.fill part)
  | .boostTarget boost, part => .node (.boost { boost with target := part })
  | .boostWeight boost, part => .node (.boost { boost with weight := part })
  | .queryField query, part => .node (.fieldQuery { query with field := part })
  | .queryOperand query, part => .node (.fieldQuery { query with operand := part })
  | .queryParam query slot, part => .node (.fieldQuery { query with params := slot.fill part })
  | .namedParam query slot, part => .node (.named { query with params := slot.fill part })
  | .rangeField bounds, part => .node (.range { bounds with field := part })
  | .rangeBound bounds slot, part => .node (.range { bounds with params := slot.fill part })
  | .rangeParam bounds slot, part => .node (.range { bounds with queryParams := slot.fill part })
  | .termsField listed, part => .node (.terms { listed with field := part })
  | .termsValue listed gap, part => .node (.terms { listed with values := gap.fill part })
  | .termsParam listed slot, part => .node (.terms { listed with params := slot.fill part })
  | .multiMatchOperand query, part => .node (.multiMatch { query with operand := part })
  | .multiMatchField query gap, part => .node (.multiMatch { query with fields := gap.fill part })
  | .multiMatchParam query slot, part => .node (.multiMatch { query with params := slot.fill part })
  | .wrappedQuery wrapped, part => .node (.wrapped { wrapped with query := part })
  | .wrappedParam wrapped slot, part => .node (.wrapped { wrapped with params := slot.fill part })
  | .booleanOperand filter gap, part => .node (.boolean { filter with operands := gap.fill part })
  | .booleanParam filter slot, part => .node (.boolean { filter with params := slot.fill part })
  | .negationOperand filter, part => .node (.negation { filter with operand := part })
  | .negationParam filter slot, part => .node (.negation { filter with params := slot.fill part })
  | .sortTarget clause, part => .node (.sort { clause with target := part })
  | .sortParam clause slot, part => .node (.sort { clause with params := slot.fill part })
  | .aggregation, part => .node (.aggregation part)
  | .source, part => .node (.source part)
  | .rescore, part => .node (.rescore part)
  | .search, part => .node (.search part)
  | .metricParam name slot, part => .metric name (slot.fill part)
  | .bucketParam name slot subs, part => .bucket name (slot.fill part) subs
  | .bucketSub name params slot, part => .bucket name params (slot.fill part)
  | .condition subs, part => .filter part subs
  | .conditionSub test slot, part => .filter test (slot.fill part)
  | .sourceField gap, part => .fields (gap.fill part)
  | .included gap others, part => .patterns (gap.fill part) others
  | .excluded others gap, part => .patterns others (gap.fill part)
  | .rescoreQuery rescorer, part => { rescorer with query := part }
  | .searchQuery whole, part => { whole with query := some part }
  | .searchFilter whole gap, part => { whole with filters := gap.fill part }
  | .searchPostFilter whole gap, part => { whole with postFilters := gap.fill part }
  | .searchSort whole gap, part => { whole with sorts := gap.fill part }
  | .searchSource whole, part => { whole with source := some part }
  | .searchAggregation whole slot, part => { whole with aggregations := slot.fill part }
  | .searchRescorer whole gap, part => { whole with rescorers := gap.fill part }

theorem mark_fill {inner outer : PartKind} (frame : Frame inner outer) {first second : inner.Part}
    (h : inner.mark first = inner.mark second) : outer.mark (frame.fill first) = outer.mark (frame.fill second) := by
  cases frame with
  | wrappedQuery wrapped =>
    obtain ⟨_, params⟩ := wrapped
    rcases params with _ | ⟨_, _⟩ <;> rfl
  | wrappedParam wrapped slot =>
    obtain ⟨before, key, after⟩ := slot
    rcases before with _ | ⟨_, _⟩ <;> rfl
  | sortTarget clause =>
    obtain ⟨_, order, params⟩ := clause
    rcases params with _ | ⟨_, _⟩
    · cases order with
      | none => exact h
      | some order => rfl
    · rfl
  | sortParam clause slot =>
    obtain ⟨before, key, after⟩ := slot
    rcases before with _ | ⟨_, _⟩ <;> rfl
  | aggregation => cases first <;> cases second <;> rfl
  | source => cases first <;> cases second <;> rfl
  | rescore => cases first; cases second; rfl
  | search => cases first; cases second; rfl
  | sourceField gap => simp [PartKind.mark, fill, SourceFilter.isEmpty]
  | included gap others => simp [PartKind.mark, fill, SourceFilter.isEmpty]
  | excluded others gap => simp [PartKind.mark, fill, SourceFilter.isEmpty]
  | _ => rfl

/-- Where the part stands in the body of the whole, when it stands there at
all: what names a field or becomes a piece of a text does not. -/
def stands {inner outer : PartKind} : Frame inner outer → Path
  | .item gap => [.index gap.before.length]
  | .entry slot => [.key slot.key]
  | .boostTarget _ => []
  | .boostWeight _ => []
  | .queryField _ => []
  | .queryOperand query =>
    [.key query.kind.text, .key (query.field.form .query).nameText] ++
      if query.params.isEmpty then [] else [.key query.kind.operandKey]
  | .queryParam query slot =>
    [.key query.kind.text, .key (query.field.form .query).nameText, .key slot.key]
  | .namedParam query slot => [.key query.name, .key slot.key]
  | .rangeField _ => []
  | .rangeBound bounds slot => [.key "range", .key (bounds.field.form .query).nameText, .key slot.key]
  | .rangeParam _ slot => [.key "range", .key slot.key]
  | .termsField _ => []
  | .termsValue listed gap =>
    [.key "terms", .key (listed.field.form .query).nameText, .index gap.before.length]
  | .termsParam _ slot => [.key "terms", .key slot.key]
  | .multiMatchOperand _ => [.key "multi_match", .key "query"]
  | .multiMatchField _ gap => [.key "multi_match", .key "fields", .index gap.before.length]
  | .multiMatchParam _ slot => [.key "multi_match", .key slot.key]
  | .wrappedQuery wrapped =>
    if wrapped.params.isEmpty then [.key "query"] else [.key "fquery", .key "query"]
  | .wrappedParam _ slot => [.key "fquery", .key slot.key]
  | .booleanOperand filter gap =>
    .key filter.operator.text ::
      (if filter.params.isEmpty then [] else [.key "filters"]) ++ [.index gap.before.length]
  | .booleanParam filter slot => [.key filter.operator.text, .key slot.key]
  | .negationOperand filter => .key "not" :: if filter.params.isEmpty then [] else [.key "filter"]
  | .negationParam _ slot => [.key "not", .key slot.key]
  | .sortTarget _ => []
  | .sortParam clause slot => [.key (clause.target.form .query).nameText, .key slot.key]
  | .aggregation => []
  | .source => []
  | .rescore => []
  | .search => []
  | .metricParam name slot => [.key name, .key slot.key]
  | .bucketParam name slot _ => [.key name, .key slot.key]
  | .bucketSub _ _ slot => [.key "aggregations", .key slot.key]
  | .condition _ => [.key Aggregation.filterName]
  | .conditionSub _ slot => [.key "aggregations", .key slot.key]
  | .sourceField gap => [.index gap.before.length]
  | .included gap _ => [.key "include", .index gap.before.length]
  | .excluded _ gap => [.key "exclude", .index gap.before.length]
  | .rescoreQuery _ => [.key "query", .key "rescore_query"]
  | .searchQuery whole =>
    .key "query" :: if whole.filters.isEmpty then [] else [.key "filtered", .key "query"]
  | .searchFilter _ gap =>
    [.key "query", .key "filtered", .key "filter"] ++
      if gap.alone then [] else [.key "and", .index gap.before.length]
  | .searchPostFilter _ gap =>
    .key "post_filter" :: if gap.alone then [] else [.key "and", .index gap.before.length]
  | .searchSort _ gap => [.key "sort", .index gap.before.length]
  | .searchSource _ => [.key "_source"]
  | .searchAggregation _ slot => [.key "aggregations", .key slot.key]
  | .searchRescorer _ gap => [.key "rescore", .index gap.before.length]

/-- The steps that a fault in the part is reported under. -/
def reports {inner outer : PartKind} : Frame inner outer → Path
  | .queryOperand query => [.key query.kind.text, .key (query.field.form .query).nameText]
  | .multiMatchOperand _ => []
  | .multiMatchField _ gap => [.index gap.before.length]
  | .multiMatchParam _ slot => [.key slot.key]
  | .wrappedQuery _ => []
  | .wrappedParam _ slot => [.key slot.key]
  | .booleanOperand filter gap => [.key filter.operator.text, .index gap.before.length]
  | .booleanParam _ slot => [.key slot.key]
  | .negationOperand _ => [.key "not"]
  | .negationParam _ slot => [.key slot.key]
  | .sortParam _ slot => [.key slot.key]
  | .metricParam _ slot => [.key slot.key]
  | .bucketParam _ slot _ => [.key slot.key]
  | .rescoreQuery _ => [.key "rescore_query"]
  | frame => frame.stands

/-- Whether every step of the place is reported. The operands of field
queries and of combined and negated filters are, unless parameters stand
beside them; parameters of multi-matches, wrapped queries, combined and
negated filters, sorts, metrics and buckets never are, nor is what a
multi-match, a wrapped query or a rescorer is about. -/
def told {inner outer : PartKind} : Frame inner outer → Bool
  | .queryOperand query => query.params.isEmpty
  | .multiMatchOperand _ => false
  | .multiMatchField _ _ => false
  | .multiMatchParam _ _ => false
  | .wrappedQuery _ => false
  | .wrappedParam _ _ => false
  | .booleanOperand filter _ => filter.params.isEmpty
  | .booleanParam _ _ => false
  | .negationOperand filter => filter.params.isEmpty
  | .negationParam _ _ => false
  | .sortParam _ _ => false
  | .metricParam _ _ => false
  | .bucketParam _ _ _ => false
  | .rescoreQuery _ => false
  | _ => true

end Frame

-- ---------------------------------------------------------------------------
-- Holes
-- ---------------------------------------------------------------------------

/-- A part with one number left out: a float or a weight of a rescorer. -/
inductive Hole : PartKind → Type where
  | number : Hole .expr
  | queryWeight (rescorer : Rescorer) : Hole .rescorer
  | rescoreQueryWeight (rescorer : Rescorer) : Hole .rescorer
  | inside {inner outer : PartKind} (frame : Frame inner outer) (hole : Hole inner) : Hole outer

namespace Hole

def fill {kind : PartKind} : Hole kind → Double → kind.Part
  | .number, value => .float value
  | .queryWeight rescorer, value => { rescorer with queryWeight := some value }
  | .rescoreQueryWeight rescorer, value => { rescorer with rescoreQueryWeight := some value }
  | .inside frame hole, value => frame.fill (hole.fill value)

theorem mark_fill {kind : PartKind} (hole : Hole kind) (first second : Double) :
    kind.mark (hole.fill first) = kind.mark (hole.fill second) := by
  induction hole with
  | number => rfl
  | queryWeight => rfl
  | rescoreQueryWeight => rfl
  | inside frame hole ih => exact frame.mark_fill ih

def stands {kind : PartKind} : Hole kind → Path
  | .number => []
  | .queryWeight _ => [.key "query", .key "query_weight"]
  | .rescoreQueryWeight _ => [.key "query", .key "rescore_query_weight"]
  | .inside frame hole => frame.stands ++ hole.stands

def reports {kind : PartKind} : Hole kind → Path
  | .number => []
  | .queryWeight _ => []
  | .rescoreQueryWeight _ => []
  | .inside frame hole => frame.reports ++ hole.reports

def told {kind : PartKind} : Hole kind → Bool
  | .number => true
  | .queryWeight _ => false
  | .rescoreQueryWeight _ => false
  | .inside frame hole => frame.told && hole.told

/-- Whatever finite number is put there, it is found at the place in the
body. -/
def EndsAt (hole : Hole .expr) (c : Compiler) (place : Path) : Prop :=
  ∀ (number : Double) (body : Json), number.isFinite → Expr.compile c (hole.fill number) = .ok body →
    body.at? place = some (.float number)

end Hole

end SearchWire
