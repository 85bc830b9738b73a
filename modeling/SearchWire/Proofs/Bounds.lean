import SearchWire.Proofs.Precedence
import SearchWire.Query.Operand

/-!
# Bounds of ranges

A bound is an option of a range under one of six names. Calls set options and
take none away, so a range has bounds from the first call on that sets one. A
draft is built only with a bound; a range that is started with one option has a
bound exactly if the option goes by such a name. The body of a range shows its
bounds under the field, whatever stands beside it.
-/

namespace SearchWire

namespace Range

-- ---------------------------------------------------------------------------
-- Ranges call by call
-- ---------------------------------------------------------------------------

inductive Call where
  | gte (value : Expr)
  | gt (value : Expr)
  | lte (value : Expr)
  | lt (value : Expr)
  | param (key : String) (value : Expr)
  | queryParam (key : String) (value : Expr)
  | boost (boost : Double)

def call (range : Range) : Call → Range
  | .gte value => range.gte value
  | .gt value => range.gt value
  | .lte value => range.lte value
  | .lt value => range.lt value
  | .param key value => range.withParam key value
  | .queryParam key value => range.withQueryParam key value
  | .boost boost => range.withBoost boost

def after (range : Range) (calls : List Call) : Range := calls.foldl call range

/-- The option under the field that a call sets. -/
def Call.key? : Call → Option String
  | .gte _ => some "gte"
  | .gt _ => some "gt"
  | .lte _ => some "lte"
  | .lt _ => some "lt"
  | .param key _ => some key
  | .queryParam _ _ => none
  | .boost _ => some "boost"

def Call.SetsBound (next : Call) : Prop := ∃ name ∈ boundNames, next.key? = some name

namespace Draft

inductive Call where
  | gte (value : Expr)
  | gt (value : Expr)
  | lte (value : Expr)
  | lt (value : Expr)
  | param (key : String) (value : Expr)
  | queryParam (key : String) (value : Expr)

def call (draft : Draft) : Call → Draft
  | .gte value => draft.gte value
  | .gt value => draft.gt value
  | .lte value => draft.lte value
  | .lt value => draft.lt value
  | .param key value => draft.withParam key value
  | .queryParam key value => draft.withQueryParam key value

def after (draft : Draft) (calls : List Call) : Draft := calls.foldl call draft

def Call.onRange : Call → Range.Call
  | .gte value => .gte value
  | .gt value => .gt value
  | .lte value => .lte value
  | .lt value => .lt value
  | .param key value => .param key value
  | .queryParam key value => .queryParam key value

theorem range_after (draft : Draft) (calls : List Call) :
    (draft.after calls).range = draft.range.after (calls.map Call.onRange) := by
  induction calls generalizing draft with
  | nil => rfl
  | cons next rest ih =>
    have step : (draft.call next).range = draft.range.call next.onRange := by cases next <;> rfl
    exact (ih (draft.call next)).trans (by rw [step]; rfl)

end Draft

inductive Start where
  | drafted (field : Expr) (calls : List Draft.Call)
  | bounded (field : Expr) (bound : String) (value : Expr)
  | gte (field : Field) (value : Expr)
  | gt (field : Field) (value : Expr)
  | lte (field : Field) (value : Expr)
  | lt (field : Field) (value : Expr)

def Start.range : Start → Result Range
  | .drafted field calls => ((Draft.start field).after calls).build
  | .bounded field bound value => .ok (.bounded field bound value)
  | .gte field value => .ok (field.gte value)
  | .gt field value => .ok (field.gt value)
  | .lte field value => .ok (field.lte value)
  | .lt field value => .ok (field.lt value)

/-- Only the name of a single option is free. -/
def Start.SetsBound : Start → Prop
  | .bounded _ bound _ => bound ∈ boundNames
  | _ => True

-- ---------------------------------------------------------------------------
-- Bounds
-- ---------------------------------------------------------------------------

variable {range : Range}

theorem hasBounds_iff : range.hasBounds ↔ ∃ name ∈ boundNames, name ∈ Entries.keys range.params := by
  simp [hasBounds, Entries.contains, Entries.get?_isSome_iff]

theorem hasBounds_iff_closed : range.hasBounds ↔ ¬(range.isUnboundedLower ∧ range.isUnboundedUpper) := by
  have ends : range.hasBounds =
      (lowerNames.any (Entries.contains · range.params) || upperNames.any (Entries.contains · range.params)) := by
    simp only [hasBounds, boundNames, lowerNames, upperNames, List.any_cons, List.any_nil, Bool.or_false]
    ac_rfl
  rw [ends, isUnboundedLower, isUnboundedUpper, Bool.or_eq_true, not_and_or, Bool.not_eq_true,
    Bool.not_eq_true, Bool.not_eq_false', Bool.not_eq_false']

theorem mem_keys_call (range : Range) (next : Call) (key : String) :
    key ∈ Entries.keys (range.call next).params ↔ key ∈ Entries.keys range.params ∨ next.key? = some key := by
  cases next with
  | queryParam other value => simp [call, withQueryParam, Call.key?]
  | _ => simp [call, gte, gt, lte, lt, withBoost, withParam, Call.key?, Entries.mem_keys_put]

theorem mem_keys_after (range : Range) (calls : List Call) (key : String) :
    key ∈ Entries.keys (range.after calls).params ↔
      key ∈ Entries.keys range.params ∨ ∃ next ∈ calls, next.key? = some key := by
  induction calls generalizing range with
  | nil => simp [after]
  | cons next rest ih =>
    have run : range.after (next :: rest) = (range.call next).after rest := rfl
    rw [run, ih, mem_keys_call, or_assoc, List.exists_mem_cons_iff]

theorem hasBounds_after (range : Range) (calls : List Call) :
    (range.after calls).hasBounds ↔ range.hasBounds ∨ ∃ next ∈ calls, next.SetsBound := by
  simp only [hasBounds_iff, mem_keys_after, and_or_left, exists_or, Call.SetsBound]
  refine or_congr_right ⟨?_, ?_⟩
  · rintro ⟨name, bound, next, mem, sets⟩
    exact ⟨next, mem, name, bound, sets⟩
  · rintro ⟨next, mem, name, bound, sets⟩
    exact ⟨name, bound, next, mem, sets⟩

theorem Draft.build_eq_ok_iff {draft : Draft} : draft.build = .ok range ↔ draft.range = range ∧ range.hasBounds := by
  rw [build]
  split
  · next bounds =>
    rw [Except.ok.injEq]
    exact ⟨fun same => ⟨same, same ▸ bounds⟩, And.left⟩
  · next unbounded =>
    refine iff_of_false nofun ?_
    rintro ⟨rfl, bounds⟩
    exact unbounded bounds

theorem Draft.hasBounds_after_start (field : Expr) (calls : List Draft.Call) :
    ((Draft.start field).after calls).range.hasBounds ↔ ∃ next ∈ calls, next.onRange.SetsBound := by
  have fresh : ¬(Draft.start field).range.hasBounds := nofun
  rw [Draft.range_after, Range.hasBounds_after, or_iff_right fresh]
  simp

theorem Start.hasBounds_iff {start : Start} (made : start.range = .ok range) : range.hasBounds ↔ start.SetsBound := by
  cases start with
  | drafted field calls => exact iff_of_true (Draft.build_eq_ok_iff.mp made).2 trivial
  | bounded field bound value =>
    cases made
    simp [Range.hasBounds_iff, Range.bounded, Entries.keys, SetsBound]
  | gte | gt | lte | lt =>
    cases made
    exact iff_of_true rfl trivial

theorem Start.exists_range_iff {start : Start} : (∃ range, start.range = .ok range) ↔
    ∀ field calls, start = .drafted field calls → ∃ next ∈ calls, next.onRange.SetsBound := by
  cases start with
  | drafted field calls => simp [Start.range, Draft.build_eq_ok_iff, Draft.hasBounds_after_start]
  | bounded | gte | gt | lte | lt => exact iff_of_true ⟨_, rfl⟩ nofun

end Range

/-- A range can be started exactly if it is not from a draft on which no call set
a bound. Once started, a range has bounds exactly if it was started with one or a
call set one, for the only name that nothing checks is that of a single option. A
range without bounds is the one that is open at both ends. Whenever a range
compiles, the body shows bounds under the field exactly if it has any. -/
theorem ranges_have_bounds_exactly (start : Range.Start) (calls : List Range.Call) :
    ((∃ first, start.range = .ok first) ↔
      ∀ field drafted, start = .drafted field drafted → ∃ next ∈ drafted, next.onRange.SetsBound) ∧
    ∀ first, start.range = .ok first →
      let range := first.after calls
      (range.hasBounds ↔ start.SetsBound ∨ ∃ next ∈ calls, next.SetsBound) ∧
      (range.hasBounds ↔ ¬(range.isUnboundedLower ∧ range.isUnboundedUpper)) ∧
      ∀ (c : Compiler) (depth : Nat) (body : Json), (Expr.node (.range range)).compileAt c depth = .ok body →
        ∃ field members bounds, range.field.compileAt c (depth + 1) = .ok (.string field) ∧
          body = .single "range" (.object members) ∧ Entries.get? field members = some (.object bounds) ∧
          (range.hasBounds ↔ ∃ name ∈ Range.boundNames, name ∈ Entries.keys bounds) := by
  refine ⟨Range.Start.exists_range_iff, fun first made => ?_⟩
  intro range
  refine ⟨?_, Range.hasBounds_iff_closed, fun c depth body compiles => ?_⟩
  · rw [Range.hasBounds_after, Range.Start.hasBounds_iff made]
  · obtain ⟨field, bounds, members, named, given, rfl, -, found, -⟩ :=
      Range.joined (Node.queryAt_of_compileAt rfl compiles)
    refine ⟨field, members, bounds, named, rfl, found, ?_⟩
    rw [Range.hasBounds_iff, ← given.keys_eq]

/-- A draft with a bound, and beside the field an option that is named as the
field is. -/
theorem ranges_have_bounds_exactly_age :
    let drafted := Range.Start.drafted (.string "age") [.param "format" (.string "x"), .param "from" (.int 18)]
    let calls : List Range.Call := [.queryParam "age" .null, .lt (.int 65)]
    ∃ first, drafted.range = .ok first ∧
      (first.after calls).hasBounds ∧
      ¬((first.after calls).isUnboundedLower ∧ (first.after calls).isUnboundedUpper) ∧
      ∃ members bounds,
        (Expr.node (.range (first.after calls))).compile ⟨.query, 1⟩ = .ok (.single "range" (.object members)) ∧
          Entries.get? "age" members = some (.object bounds) ∧
          ∃ name ∈ Range.boundNames, name ∈ Entries.keys bounds := by
  intro drafted calls
  let first : Range := ⟨.string "age", [("format", .string "x"), ("from", .int 18)], []⟩
  have made : drafted.range = .ok first := rfl
  obtain ⟨bounded, closed, written⟩ := (ranges_have_bounds_exactly drafted calls).2 first made
  have bounds : (first.after calls).hasBounds := bounded.mpr (.inl trivial)
  obtain ⟨body, compiles⟩ : ∃ body, (Expr.node (.range (first.after calls))).compile ⟨.query, 1⟩ = .ok body :=
    ⟨_, rfl⟩
  obtain ⟨field, members, under, named, rfl, found, shown⟩ := written ⟨.query, 1⟩ 0 body compiles
  cases named
  exact ⟨first, made, bounds, closed.mp bounds, members, under, compiles, found, shown.mp bounds⟩

/-- The only option of a range is no bound. -/
theorem single_option_without_bounds :
    let range := Range.bounded (.string "age") "boost" (.int 2)
    range.hasBounds = false ∧ range.isUnboundedLower = true ∧ range.isUnboundedUpper = true ∧
      (Expr.node (.range range)).compile ⟨.query, 1⟩ =
        .ok (.single "range" (.single "age" (.single "boost" (.int 2)))) := ⟨rfl, rfl, rfl, rfl⟩

end SearchWire
