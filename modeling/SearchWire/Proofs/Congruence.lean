import SearchWire.Compiler.Body
import SearchWire.Expr.Equality
import SearchWire.Proofs.Alike

/-!
# Alike parts make alike bodies

For every kind of node: where the parts of two nodes compile alike, so do the
nodes. Parameters are merged by their keys, so their order does not matter,
and what depends on whether there are any depends on their number.
-/

namespace SearchWire

open Json (Same)
open Entries (Alike Aligned)

variable {c : Compiler}

-- ---------------------------------------------------------------------------
-- Twins
-- ---------------------------------------------------------------------------

section
variable (c : Compiler)

/-- The two compile alike at every level. -/
def Expr.Twins (a b : Expr) : Prop := ∀ depth, Result.Alike Same (a.compileAt c depth) (b.compileAt c depth)

def Aggregation.Twins (a b : Aggregation) : Prop :=
  ∀ depth, Result.Alike Same (a.compileAt c depth) (b.compileAt c depth)

def SourceFilter.Twins (a b : SourceFilter) : Prop :=
  a.isEmpty = b.isEmpty ∧ ∀ depth, Result.Alike Same (a.compileAt c depth) (b.compileAt c depth)

def Rescorer.Twins (a b : Rescorer) : Prop :=
  ∀ depth, Result.Alike Same (a.compileAt c depth) (b.compileAt c depth)

def Field.Twins (a b : Field) : Prop :=
  a.name = b.name ∧ ∀ depth, Result.Alike (Alike Same) (a.fragmentAt c depth) (b.fragmentAt c depth)

def MetaField.Twins (a b : MetaField) : Prop :=
  ∀ depth, Result.Alike (fun options options' => Aligned Same options options' ∧ Alike Same options options')
    (a.optionsAt c depth) (b.optionsAt c depth)

end

-- ---------------------------------------------------------------------------
-- Containers
-- ---------------------------------------------------------------------------

theorem Json.mapM_ofDouble_alike {x y : Option Double} (same : optionEq Binary.numEq x y) :
    Result.Alike (Option.Rel Same) (x.mapM ofDouble) (y.mapM ofDouble) := by
  cases x with
  | none =>
    cases y with
    | none => exact .ok .none
    | some _ => cases same
  | some x =>
    cases y with
    | none => cases same
    | some y => exact (ofDouble_alike same).bind fun _ _ same => .ok (.some same)

theorem isEmpty_eq_of_forall₂ {α β : Type} {r : α → β → Prop} {first : List α} {second : List β}
    (related : List.Forall₂ r first second) : first.isEmpty = second.isEmpty := by
  cases related <;> rfl

namespace Entries

variable {α : Type}

def compileEach (compile : α → Result Json) : Entries α → Result (Entries Json)
  | [] => .ok []
  | (key, value) :: rest => do
    let json ← Result.atKey key (compile value)
    return (key, json) :: (← compileEach compile rest)

variable {compile : α → Result Json} {entries first second : Entries α}

theorem compileEach_eq_ok_iff : (∃ compiled, compileEach compile entries = .ok compiled) ↔
    ∀ entry ∈ entries, ∃ json, compile entry.2 = .ok json := by
  induction entries with
  | nil => simp [compileEach]
  | cons entry rest ih =>
    obtain ⟨key, value⟩ := entry
    rw [List.forall_mem_cons, ← ih, compileEach]
    cases compile value <;> cases compileEach compile rest <;> simp [Result.atKey_error]

theorem aligned_of_compileEach {compiled : Entries Json} (h : compileEach compile entries = .ok compiled) :
    Aligned (fun value json => compile value = .ok json) entries compiled := by
  induction entries generalizing compiled with
  | nil =>
    cases h
    exact .nil
  | cons entry rest ih =>
    obtain ⟨key, value⟩ := entry
    rw [compileEach] at h
    cases head : compile value with
    | error error =>
      rw [head] at h
      cases h
    | ok json =>
      rw [head] at h
      cases tail : compileEach compile rest with
      | error error =>
        rw [tail] at h
        cases h
      | ok others =>
        rw [tail] at h
        cases h
        exact .cons ⟨rfl, head⟩ (ih tail)

/-- Alike values under the same keys have alike bodies, in whatever order they
are compiled. -/
theorem compileEach_congr
    (alike : Alike (fun value other => Result.Alike Same (compile value) (compile other)) first second) :
    Result.Alike (Alike Same) (compileEach compile first) (compileEach compile second) := by
  have iff : (∃ compiled, compileEach compile first = .ok compiled) ↔
      ∃ compiled, compileEach compile second = .ok compiled := by
    rw [compileEach_eq_ok_iff, compileEach_eq_ok_iff]
    exact alike.forall_mem_iff fun _ _ related => related.compiles_iff
  cases left : compileEach compile first with
  | error error =>
    cases right : compileEach compile second with
    | error other => exact .error _ _
    | ok others =>
      obtain ⟨compiled, same⟩ := iff.mpr ⟨others, right⟩
      rw [left] at same
      cases same
  | ok compiled =>
    obtain ⟨others, right⟩ := iff.mp ⟨compiled, left⟩
    have aligned := aligned_of_compileEach left
    have aligned' := aligned_of_compileEach right
    rw [right]
    refine .ok ⟨?_, ?_, fun key => ?_⟩
    · rw [Distinct, ← aligned.keys_eq]
      exact alike.left
    · rw [Distinct, ← aligned'.keys_eq]
      exact alike.right
    · have values := alike.found key
      have jsons := aligned.found key
      have jsons' := aligned'.found key
      generalize get? key first = value, get? key second = value' at values jsons jsons'
      generalize get? key compiled = json, get? key others = json' at jsons jsons' ⊢
      cases values with
      | none =>
        cases jsons
        cases jsons'
        exact .none
      | some related =>
        cases jsons with
        | some compiles =>
          cases jsons' with
          | some compiles' =>
            rw [compiles, compiles'] at related
            cases related with
            | ok same => exact .some same

end Entries

theorem compileItems_congr {items items' : List Expr} (twins : List.Forall₂ (Expr.Twins c) items items')
    (position depth : Nat) :
    Result.Alike (List.Forall₂ Same) (compileItems c items position depth)
      (compileItems c items' position depth) := by
  induction twins generalizing position with
  | nil => exact .ok .nil
  | cons head _ ih =>
    refine .bind ((head depth).atIndex _ _) fun _ _ head => ?_
    exact .bind (ih (position + 1)) fun _ _ rest => .ok (.cons head rest)

theorem compileParams_eq_compileEach (depth : Nat) (params : Entries Expr) :
    compileParams c params depth = Entries.compileEach (·.compileAt c depth) params := by
  induction params with
  | nil => rfl
  | cons entry rest ih => rw [compileParams, Entries.compileEach, ih]

theorem compileParams_congr {params params' : Entries Expr} (twins : Alike (Expr.Twins c) params params')
    (depth : Nat) :
    Result.Alike (Alike Same) (compileParams c params depth) (compileParams c params' depth) := by
  rw [compileParams_eq_compileEach, compileParams_eq_compileEach]
  exact Entries.compileEach_congr (twins.imp fun _ _ twins => twins depth)

theorem compileAggregations_congr {subs subs' : Aggregations} (twins : Alike (Aggregation.Twins c) subs subs')
    (depth : Nat) :
    Result.Alike (Alike Same) (c.enterUnless subs.isEmpty depth >>= compileAggregations c subs)
      (c.enterUnless subs'.isEmpty depth >>= compileAggregations c subs') := by
  have each (subs : Aggregations) (depth : Nat) :
      compileAggregations c subs depth = Entries.compileEach (·.compileAt c depth) subs := by
    induction subs with
    | nil => rfl
    | cons entry rest ih => rw [compileAggregations, Entries.compileEach, ih]
  rw [twins.isEmpty_eq]
  refine .bind (.refl _) ?_
  rintro depth _ rfl
  rw [each, each]
  exact Entries.compileEach_congr (twins.imp fun _ _ twins => twins depth)

theorem compileFilters_congr {filters filters' : List Expr} (twins : List.Forall₂ (Expr.Twins c) filters filters')
    (depth : Nat) :
    Result.Alike (Option.Rel Same) (compileFilters c filters depth) (compileFilters c filters' depth) := by
  cases twins with
  | nil => exact .ok .none
  | cons first rest =>
    cases rest with
    | nil => exact .bind (first depth) fun _ _ same => .ok (.some same)
    | cons second rest =>
      refine .bind (.refl _) ?_
      rintro depth _ rfl
      refine .bind (((first depth).atIndex _ _).atKey _ _) fun _ _ first => ?_
      refine .bind ((compileItems_congr (.cons second rest) 1 depth).atKey _ _) fun _ _ others => ?_
      exact .ok (.some (.single (.array (.cons first others))))

theorem compileOptional_congr {query query' : Option Expr} (twins : Option.Rel (Expr.Twins c) query query')
    (depth : Nat) :
    Result.Alike (Option.Rel Same) (compileOptional c query depth) (compileOptional c query' depth) := by
  cases twins with
  | none => exact .ok .none
  | some twins => exact .bind (twins depth) fun _ _ same => .ok (.some same)

theorem compileSource_congr {source source' : Option SourceFilter}
    (twins : Option.Rel (SourceFilter.Twins c) source source') (depth : Nat) :
    Result.Alike (Option.Rel Same) (compileSource c source depth) (compileSource c source' depth) := by
  cases twins with
  | none => exact .ok .none
  | some twins =>
    simp only [compileSource, twins.1]
    split
    · exact .ok .none
    · refine .bind (.refl _) ?_
      rintro depth _ rfl
      exact .bind ((twins.2 depth).atKey _ _) fun _ _ same => .ok (.some same)

theorem compileRescorers_congr {rescorers rescorers' : List Rescorer}
    (twins : List.Forall₂ (Rescorer.Twins c) rescorers rescorers') (position depth : Nat) :
    Result.Alike (List.Forall₂ Same) (compileRescorers c rescorers position depth)
      (compileRescorers c rescorers' position depth) := by
  induction twins generalizing position with
  | nil => exact .ok .nil
  | cons head _ ih =>
    refine .bind (((head depth).atIndex _ _).atKey _ _) fun _ _ head => ?_
    exact .bind (ih (position + 1)) fun _ _ rest => .ok (.cons head rest)

theorem compileFields_congr {fields fields' : List Field} (twins : List.Forall₂ (Field.Twins c) fields fields')
    (depth : Nat) :
    Result.Alike (Aligned Same) (compileFields c fields depth) (compileFields c fields' depth) := by
  induction twins with
  | nil => exact .ok .nil
  | cons head _ ih =>
    refine .bind ((head.2 depth).atKey _ _) fun _ _ fragment => ?_
    exact .bind ih fun _ _ rest => .ok (.cons ⟨head.1, .object fragment⟩ rest)

theorem compileTemplates_congr {fields fields' : List Field} (twins : List.Forall₂ (Field.Twins c) fields fields')
    (position depth : Nat) :
    Result.Alike (List.Forall₂ Same) (compileTemplates c fields position depth)
      (compileTemplates c fields' position depth) := by
  induction twins generalizing position with
  | nil => exact .ok .nil
  | @cons field other _ _ head _ ih =>
    obtain ⟨name, twins⟩ := head
    refine .bind (((twins depth).atIndex _ _).atKey _ _) fun _ _ fragment => ?_
    refine .bind (ih (position + 1)) fun _ _ rest => ?_
    rw [name]
    have path := Aligned.single "path_match" (Same.string other.name)
    have members := path.append (.single "mapping" (.object fragment))
    have distinct : ["path_match", "mapping"].Nodup := by decide
    exact .ok (.cons (.single (.object (members.alike distinct))) rest)

theorem compileMetaFields_congr {fields fields' : List MetaField}
    (twins : List.Forall₂ (MetaField.Twins c) fields fields') (depth : Nat) :
    Result.Alike (Aligned Same) (compileMetaFields c fields depth) (compileMetaFields c fields' depth) := by
  induction twins with
  | nil => exact .ok .nil
  | cons head _ ih =>
    exact .bind (head depth) fun _ _ options => .bind ih fun _ _ rest => .ok (options.1.append rest)

-- ---------------------------------------------------------------------------
-- Nodes of search requests
-- ---------------------------------------------------------------------------

section
variable {field field' operand operand' : Expr} {operands operands' : List Expr} {params params' : Entries Expr}

theorem Boost.compileAt_congr (weight : Expr) (twinTarget : operand.Twins c operand') (depth : Nat) :
    Result.Alike Same (Boost.compileAt c ⟨operand, weight⟩ depth)
      (Boost.compileAt c ⟨operand', weight⟩ depth) := by
  refine .bind (twinTarget depth) fun _ _ same => ?_
  refine .bind same.fieldName ?_
  rintro name _ rfl
  refine .bind (.refl _) ?_
  rintro json _ rfl
  exact .ok (.string _)

theorem FieldQuery.compileAt_congr (kind : FieldQueryKind) (twinField : field.Twins c field')
    (twinOperand : operand.Twins c operand') (twinParams : Alike (Expr.Twins c) params params') (depth : Nat) :
    Result.Alike Same (FieldQuery.compileAt c ⟨kind, field, operand, params⟩ depth)
      (FieldQuery.compileAt c ⟨kind, field', operand', params'⟩ depth) := by
  refine .bind (twinField depth) fun _ _ same => ?_
  refine .bind same.fieldName ?_
  rintro name _ rfl
  refine .bind (((twinOperand depth).atKey _ _).atKey _ _) fun _ _ operand => ?_
  refine .bind (((compileParams_congr twinParams depth).atKey _ _).atKey _ _) fun _ _ params => ?_
  exact .ok (.single (.single (.beside _ operand params)))

theorem NamedQuery.compileAt_congr (name : String) (twinParams : Alike (Expr.Twins c) params params')
    (depth : Nat) :
    Result.Alike Same (NamedQuery.compileAt c ⟨name, params⟩ depth)
      (NamedQuery.compileAt c ⟨name, params'⟩ depth) :=
  .bind ((compileParams_congr twinParams depth).atKey _ _) fun _ _ params => .ok (.single (.object params))

theorem Range.compileAt_congr {queryParams queryParams' : Entries Expr} (twinField : field.Twins c field')
    (twinParams : Alike (Expr.Twins c) params params')
    (twinQueryParams : Alike (Expr.Twins c) queryParams queryParams') (depth : Nat) :
    Result.Alike Same (Range.compileAt c ⟨field, params, queryParams⟩ depth)
      (Range.compileAt c ⟨field', params', queryParams'⟩ depth) := by
  refine .bind (twinField depth) fun _ _ same => ?_
  refine .bind same.fieldName ?_
  rintro name _ rfl
  refine .bind ((compileParams_congr twinQueryParams depth).atKey _ _) fun _ _ beside => ?_
  refine .bind (((compileParams_congr twinParams depth).atKey _ _).atKey _ _) fun _ _ bounds => ?_
  exact .ok (.single (.object (beside.put _ (.object bounds))))

theorem Terms.compileAt_congr (twinField : field.Twins c field')
    (twinValues : List.Forall₂ (Expr.Twins c) operands operands')
    (twinParams : Alike (Expr.Twins c) params params') (depth : Nat) :
    Result.Alike Same (Terms.compileAt c ⟨field, operands, params⟩ depth)
      (Terms.compileAt c ⟨field', operands', params'⟩ depth) := by
  refine .bind (twinField depth) fun _ _ same => ?_
  refine .bind same.fieldName ?_
  rintro name _ rfl
  refine .bind (((compileItems_congr twinValues 0 depth).atKey _ _).atKey _ _) fun _ _ values => ?_
  refine .bind ((compileParams_congr twinParams depth).atKey _ _) fun _ _ params => ?_
  exact .ok (.single (.withParams (.single _ (.array values)) params))

theorem MultiMatch.compileAt_congr (twinOperand : operand.Twins c operand')
    (twinFields : List.Forall₂ (Expr.Twins c) operands operands')
    (twinParams : Alike (Expr.Twins c) params params') (depth : Nat) :
    Result.Alike Same (MultiMatch.compileAt c ⟨operand, operands, params⟩ depth)
      (MultiMatch.compileAt c ⟨operand', operands', params'⟩ depth) := by
  refine .bind (twinOperand depth) fun _ _ operand => ?_
  refine .bind (compileItems_congr twinFields 0 depth) fun _ _ fields => ?_
  refine .bind (compileParams_congr twinParams depth) fun _ _ params => ?_
  have members := (Aligned.single "query" operand).append (.single "fields" (.array fields))
  have distinct : ["query", "fields"].Nodup := by decide
  exact .ok (.single (.withParams (members.alike distinct) params))

theorem WrappedQuery.compileAt_congr (twinQuery : operand.Twins c operand')
    (twinParams : Alike (Expr.Twins c) params params') (depth : Nat) :
    Result.Alike Same (WrappedQuery.compileAt c ⟨operand, params⟩ depth)
      (WrappedQuery.compileAt c ⟨operand', params'⟩ depth) := by
  refine .bind (twinQuery depth) fun _ _ query => ?_
  refine .bind (compileParams_congr twinParams depth) fun _ _ params => ?_
  have body := Same.withParams (.single "query" query) params
  rw [params.isEmpty_eq]
  split
  · exact .ok body
  · exact .ok (.single body)

theorem BooleanFilter.compileAt_congr (operator : BoolOperator)
    (twinOperands : List.Forall₂ (Expr.Twins c) operands operands')
    (twinParams : Alike (Expr.Twins c) params params') (depth : Nat) :
    Result.Alike Same (BooleanFilter.compileAt c ⟨operator, operands, params⟩ depth)
      (BooleanFilter.compileAt c ⟨operator, operands', params'⟩ depth) := by
  refine .bind ((compileItems_congr twinOperands 0 depth).atKey _ _) fun _ _ operands => ?_
  refine .bind (compileParams_congr twinParams depth) fun _ _ params => ?_
  exact .ok (.single (.beside _ (.array operands) params))

theorem Negation.compileAt_congr (twinOperand : operand.Twins c operand')
    (twinParams : Alike (Expr.Twins c) params params') (depth : Nat) :
    Result.Alike Same (Negation.compileAt c ⟨operand, params⟩ depth)
      (Negation.compileAt c ⟨operand', params'⟩ depth) := by
  refine .bind ((twinOperand depth).atKey _ _) fun _ _ operand => ?_
  refine .bind (compileParams_congr twinParams depth) fun _ _ params => ?_
  exact .ok (.single (.beside _ operand params))

theorem SortClause.compileAt_congr (order : Option SortOrder) (twinTarget : operand.Twins c operand')
    (twinParams : Alike (Expr.Twins c) params params') (depth : Nat) :
    Result.Alike Same (SortClause.compileAt c ⟨operand, order, params⟩ depth)
      (SortClause.compileAt c ⟨operand', order, params'⟩ depth) := by
  refine .bind (twinTarget depth) fun _ _ target => ?_
  refine .bind (compileParams_congr twinParams depth) fun _ _ params => ?_
  rw [params.isEmpty_eq]
  split
  · cases order with
    | none => exact .ok target
    | some order =>
      refine .bind target.fieldName ?_
      rintro name _ rfl
      exact .ok (.single (.string _))
  · refine .bind target.fieldName ?_
    rintro name _ rfl
    cases order with
    | none => exact .ok (.single (.withParams .nil params))
    | some order => exact .ok (.single (.withParams (.single _ (.string _)) params))

theorem Aggregation.twins_metric (name : String) (twinParams : Alike (Expr.Twins c) params params') :
    (Aggregation.metric name params).Twins c (.metric name params') := fun depth =>
  .bind (compileParams_congr twinParams depth) fun _ _ params => .ok (.single (.object params))

theorem Aggregation.twins_bucket (name : String) {subs subs' : Aggregations}
    (twinParams : Alike (Expr.Twins c) params params') (twinSubs : Alike (Aggregation.Twins c) subs subs') :
    (Aggregation.bucket name params subs).Twins c (.bucket name params' subs') := by
  intro depth
  refine .bind (compileParams_congr twinParams depth) fun _ _ params => ?_
  refine .bind ((compileAggregations_congr twinSubs depth).atKey _ _) fun _ _ subs => ?_
  exact .ok (.withParams (.single _ (.object params)) (Json.alike_section? _ subs))

theorem Aggregation.twins_filter {subs subs' : Aggregations} (twinCondition : operand.Twins c operand')
    (twinSubs : Alike (Aggregation.Twins c) subs subs') :
    (Aggregation.filter operand subs).Twins c (.filter operand' subs') := by
  intro depth
  refine .bind ((compileAggregations_congr twinSubs depth).atKey _ _) fun _ _ subs => ?_
  refine .bind ((twinCondition depth).atKey _ _) fun _ _ condition => ?_
  exact .ok (.withParams (.single _ condition) (Json.alike_section? _ subs))

theorem SourceFilter.twins_fields (twinFields : List.Forall₂ (Expr.Twins c) operands operands') :
    (SourceFilter.fields operands).Twins c (.fields operands') := by
  refine ⟨isEmpty_eq_of_forall₂ twinFields, fun depth => ?_⟩
  exact .bind (compileItems_congr twinFields 0 depth) fun _ _ fields => .ok (.array fields)

theorem SourceFilter.twins_patterns {excluded excluded' : List Expr}
    (twinIncluded : List.Forall₂ (Expr.Twins c) operands operands')
    (twinExcluded : List.Forall₂ (Expr.Twins c) excluded excluded') :
    (SourceFilter.patterns operands excluded).Twins c (.patterns operands' excluded') := by
  have isEmpty := congrArg₂ and (isEmpty_eq_of_forall₂ twinIncluded) (isEmpty_eq_of_forall₂ twinExcluded)
  refine ⟨isEmpty, fun depth => ?_⟩
  refine .bind ((compileItems_congr twinIncluded 0 depth).atKey _ _) fun _ _ included => ?_
  refine .bind ((compileItems_congr twinExcluded 0 depth).atKey _ _) fun _ _ excluded => ?_
  have members := (Json.aligned_group "include" included).append (Json.aligned_group "exclude" excluded)
  have distinct : ["include", "exclude"].Nodup := by decide
  refine .ok (.object (members.alike (distinct.sublist ?_)))
  rw [Entries.keys_append]
  exact (Json.keys_group_sublist _ _).append (Json.keys_group_sublist _ _)

theorem Rescorer.twins_of_query (windowSize : Option Nat) (scoreMode : Option ScoreMode)
    {queryWeight queryWeight' rescoreQueryWeight rescoreQueryWeight' : Option Double}
    (twinQuery : operand.Twins c operand') (sameWeight : optionEq Binary.numEq queryWeight queryWeight')
    (sameRescoreWeight : optionEq Binary.numEq rescoreQueryWeight rescoreQueryWeight') :
    Rescorer.Twins c ⟨operand, windowSize, queryWeight, rescoreQueryWeight, scoreMode⟩
      ⟨operand', windowSize, queryWeight', rescoreQueryWeight', scoreMode⟩ := by
  intro depth
  refine .bind ((twinQuery depth).atKey _ _) fun _ _ query => ?_
  refine .bind (Json.mapM_ofDouble_alike sameWeight) fun _ _ weight => ?_
  refine .bind (Json.mapM_ofDouble_alike sameRescoreWeight) fun _ _ rescoreWeight => ?_
  have mode := Json.aligned_optional_map "score_mode" (fun mode => .string (ScoreMode.text mode))
    (fun _ => .string _) scoreMode
  have size := Json.aligned_optional_map "window_size" Json.ofNat (fun _ => .int _) windowSize
  have weights := (Json.aligned_optional "query_weight" weight).append
    (Json.aligned_optional "rescore_query_weight" rescoreWeight)
  have members := ((Aligned.single "rescore_query" query).append weights).append mode
  have distinct : ["rescore_query", "query_weight", "rescore_query_weight", "score_mode"].Nodup := by decide
  have inner := members.alike (distinct.sublist (by
    simp only [Entries.keys_append]
    exact ((List.Sublist.refl ["rescore_query"]).append ((Json.keys_optional_sublist _ _).append
      (Json.keys_optional_sublist _ _))).append (Json.keys_optional_sublist _ _)))
  have outer := (Aligned.single "query" (.object inner)).append size
  have distinct : ["query", "window_size"].Nodup := by decide
  refine .ok (.object (outer.alike (distinct.sublist ?_)))
  exact (List.Sublist.refl ["query"]).append (Json.keys_optional_sublist _ _)

theorem Search.compileAt_congr {query query' : Option Expr} {filters filters' postFilters postFilters' : List Expr}
    {source source' : Option SourceFilter} {aggregations aggregations' : Aggregations}
    {rescorers rescorers' : List Rescorer} (limit offset : Option Nat) (config config' : Config)
    (twinQuery : Option.Rel (Expr.Twins c) query query')
    (twinFilters : List.Forall₂ (Expr.Twins c) filters filters')
    (twinPostFilters : List.Forall₂ (Expr.Twins c) postFilters postFilters')
    (twinSorts : List.Forall₂ (Expr.Twins c) operands operands')
    (twinSource : Option.Rel (SourceFilter.Twins c) source source')
    (twinAggregations : Alike (Aggregation.Twins c) aggregations aggregations')
    (twinRescorers : List.Forall₂ (Rescorer.Twins c) rescorers rescorers') (depth : Nat) :
    Result.Alike Same
      (Search.compileAt c ⟨query, filters, postFilters, operands, source, aggregations, limit, offset,
        rescorers, config⟩ depth)
      (Search.compileAt c ⟨query', filters', postFilters', operands', source', aggregations', limit, offset,
        rescorers', config'⟩ depth) := by
  refine .bind (r := Option.Rel Same) (.atKey ?_ _ _) fun _ _ query => ?_
  · rw [isEmpty_eq_of_forall₂ twinFilters]
    split
    · exact compileOptional_congr twinQuery depth
    · refine .bind (.refl _) ?_
      rintro depth _ rfl
      refine .bind (((compileOptional_congr twinQuery depth).atKey _ _).atKey _ _) fun _ _ query => ?_
      refine .bind (((compileFilters_congr twinFilters depth).atKey _ _).atKey _ _) fun _ _ filter => ?_
      have members := (Json.aligned_optional "query" query).append (Json.aligned_optional "filter" filter)
      have distinct : ["query", "filter"].Nodup := by decide
      refine .ok (.some (.single (.object (members.alike (distinct.sublist ?_)))))
      rw [Entries.keys_append]
      exact (Json.keys_optional_sublist _ _).append (Json.keys_optional_sublist _ _)
  refine .bind ((compileItems_congr twinSorts 0 depth).atKey _ _) fun _ _ sorts => ?_
  refine .bind (compileSource_congr twinSource depth) fun _ _ source => ?_
  refine .bind ((compileAggregations_congr twinAggregations depth).atKey _ _) fun _ _ aggregations => ?_
  rw [isEmpty_eq_of_forall₂ twinRescorers]
  refine .bind (.refl _) ?_
  rintro inner _ rfl
  refine .bind (compileRescorers_congr twinRescorers 0 inner) fun _ _ rescorers => ?_
  refine .bind ((compileFilters_congr twinPostFilters depth).atKey _ _) fun _ _ postFilter => ?_
  have members :=
    (((((((Json.aligned_optional "query" query).append (Json.aligned_group "sort" sorts)).append
      (Json.aligned_optional "_source" source)).append
      (Json.aligned_section? "aggregations" aggregations)).append
      (Json.aligned_optional_map "size" Json.ofNat (fun _ => .int _) limit)).append
      (Json.aligned_optional_map "from" Json.ofNat (fun _ => .int _) offset)).append
      (Json.aligned_group "rescore" rescorers)).append (Json.aligned_optional "post_filter" postFilter)
  have distinct :
      ["query", "sort", "_source", "aggregations", "size", "from", "rescore", "post_filter"].Nodup := by
    decide
  refine .ok (.object (members.alike (distinct.sublist ?_)))
  simp only [Entries.keys_append]
  exact (((((((Json.keys_optional_sublist _ _).append (Json.keys_group_sublist _ _)).append
    (Json.keys_optional_sublist _ _)).append (Json.keys_section?_sublist _ _)).append
    (Json.keys_optional_sublist _ _)).append (Json.keys_optional_sublist _ _)).append
    (Json.keys_group_sublist _ _)).append (Json.keys_optional_sublist _ _)

end

-- ---------------------------------------------------------------------------
-- Nodes of mappings
-- ---------------------------------------------------------------------------

section
variable {options options' : Entries Expr}

theorem FieldType.propertiesAt_nested (document : Document) (depth : Nat) :
    (FieldType.nested document).propertiesAt c depth = (FieldType.object document).propertiesAt c depth := by
  cases document
  rfl

theorem FieldType.propertiesAt_eq_none : (type : FieldType) → (depth : Nat) → type.document? = none →
    type.propertiesAt c depth = .ok none
  | .list element, depth, plain => element.propertiesAt_eq_none depth plain
  | .object _, _, plain | .nested _, _, plain => nomatch plain
  | .string, _, _ | .text, _, _ | .keyword, _, _ | .integer, _, _ | .long, _, _ | .float, _, _
  | .double, _, _ | .boolean, _, _ | .date, _, _ | .binary, _, _ | .ip, _, _ | .geoPoint, _, _ => rfl

theorem Field.twins_of_parts (name : String) (subField subField' docType docType' : Option String)
    {type type' : FieldType} {multiFields multiFields' : MultiFields} (wireName : type.wireName = type'.wireName)
    (properties : ∀ depth, Result.Alike (Option.Rel Same) (type.propertiesAt c depth)
      (type'.propertiesAt c depth))
    (subFields : ∀ depth, Result.Alike (Alike Same) (multiFields.fragmentsAt c depth)
      (multiFields'.fragmentsAt c depth))
    (twinOptions : Alike (Expr.Twins c) options options') :
    Field.Twins c ⟨name, subField, docType, type, multiFields, options⟩
      ⟨name, subField', docType', type', multiFields', options'⟩ := by
  refine ⟨rfl, fun depth => ?_⟩
  refine .bind (.refl _) ?_
  rintro depth _ rfl
  refine .bind (properties depth) fun _ _ properties => ?_
  refine .bind (subFields depth) fun _ _ subFields => ?_
  refine .bind (compileParams_congr twinOptions depth) fun _ _ options => ?_
  rw [wireName]
  have members := ((Aligned.single "type" (.string type'.wireName)).append
    (Json.aligned_optional "properties" properties)).append (Json.aligned_section? "fields" subFields)
  have distinct : ["type", "properties", "fields"].Nodup := by decide
  refine .ok ((members.alike (distinct.sublist ?_)).merge options.reverse.found)
  simp only [Entries.keys_append]
  exact ((List.Sublist.refl ["type"]).append (Json.keys_optional_sublist _ _)).append
    (Json.keys_section?_sublist _ _)

theorem MetaField.twins_of_options (name : String) (twinOptions : Alike (Expr.Twins c) options options') :
    MetaField.Twins c ⟨name, options⟩ ⟨name, options'⟩ := fun depth =>
  .bind ((compileParams_congr twinOptions depth).atKey _ _) fun _ _ options =>
    .ok ⟨Json.aligned_section? name options, Json.alike_section? name options⟩

theorem Document.compileAt_congr (docType : String) (dynamic dynamic' : Bool)
    {metaFields metaFields' : List MetaField} {fields fields' templates templates' : List Field}
    (twinOptions : Alike (Expr.Twins c) options options')
    (twinMetaFields : List.Forall₂ (MetaField.Twins c) metaFields metaFields')
    (twinFields : List.Forall₂ (Field.Twins c) fields fields')
    (twinTemplates : List.Forall₂ (Field.Twins c) templates templates') (depth : Nat) :
    Result.Alike Same (Document.compileAt c ⟨docType, dynamic, options, metaFields, fields, templates⟩ depth)
      (Document.compileAt c ⟨docType, dynamic', options', metaFields', fields', templates'⟩ depth) := by
  refine .bind (compileParams_congr twinOptions depth) fun _ _ options => ?_
  refine .bind (compileMetaFields_congr twinMetaFields depth) fun _ _ metaFields => ?_
  refine .bind ((compileFields_congr twinFields depth).atKey _ _) fun _ _ properties => ?_
  refine .bind (compileTemplates_congr twinTemplates 0 depth) fun _ _ templates => ?_
  have body := (options.merge metaFields.reverse.found).put "properties" (.object (.ofPairs properties))
  have group := Json.aligned_group "dynamic_templates" templates
  exact .ok (.single (.object (body.merge group.reverse.found)))

end

end SearchWire
