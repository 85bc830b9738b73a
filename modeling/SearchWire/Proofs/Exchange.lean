import SearchWire.Proofs.Checks
import SearchWire.Proofs.Sections

/-!
# Exchanged numbers

What an expression that compiles comes to when one of its numbers is
exchanged for another one: nothing before the number can fail, so a number
that is not finite is what fails, and it is reported along the frames around
it.
-/

namespace SearchWire

/-- A verdict on a part, as the containers along the path report it. -/
def Path.report : Path → Result Unit → Result Unit
  | [], outcome => outcome
  | step :: rest, outcome => Except.mapError (Error.within step) (report rest outcome)

theorem Path.report_ok (path : Path) : report path (.ok ()) = .ok () := by
  induction path with
  | nil => rfl
  | cons step rest ih => rw [report, ih]; rfl

theorem Path.report_malformed (path place : Path) (reason : String) :
    report path (.error (.malformed place reason)) = .error (.malformed (path ++ place) reason) := by
  induction path with
  | nil => rfl
  | cons step rest ih => rw [report, ih]; rfl

theorem Path.report_append (front back : Path) (outcome : Result Unit) :
    report (front ++ back) outcome = report front (report back outcome) := by
  induction front with
  | nil => rfl
  | cons step rest ih => rw [List.cons_append, report, ih, report]

-- ---------------------------------------------------------------------------
-- Visits with one part exchanged
-- ---------------------------------------------------------------------------

/-- Wherever the first visits pass, the second come to the outcome. -/
def Visits.Follows (c : Compiler) (first second : Visits) (outcome : Result Unit) : Prop :=
  ∀ depth, check c depth first = .ok () → check c depth second = outcome

namespace Visits.Follows

open Visit (here)

variable {c : Compiler} {first second first' second' : Visits} {outcome : Result Unit}

theorem refl (visits : Visits) : Follows c visits visits (.ok ()) := fun _ pass => pass

theorem before (visits : Visits) (h : Follows c first second outcome) :
    Follows c (visits ++ first) (visits ++ second) outcome := by
  intro depth pass
  obtain ⟨passed, pass⟩ := check_append_eq_ok_iff.mp pass
  rw [check_append, passed]
  exact h depth pass

theorem after (h : Follows c first second outcome) (later : Follows c first' second' (.ok ())) :
    Follows c (first ++ first') (second ++ second') outcome := by
  intro depth pass
  obtain ⟨pass, pass'⟩ := check_append_eq_ok_iff.mp pass
  rw [check_append, h depth pass, later depth pass']
  cases outcome <;> rfl

theorem under {step : Step} {path : Path} (h : Follows c first second (path.report outcome)) :
    Follows c (under step first) (under step second) (Path.report (step :: path) outcome) := by
  intro depth pass
  rw [check_under, h depth (check_under_eq_ok_iff.mp pass), Path.report]

theorem moved {step step' : Step} (h : Follows c first second (.ok ())) :
    Follows c (Visits.under step first) (Visits.under step' second) (.ok ()) := by
  intro depth pass
  exact check_under_eq_ok_iff.mpr (h depth (check_under_eq_ok_iff.mp pass))

theorem entered (h : Follows c first second outcome) :
    Follows c (entered first) (entered second) outcome := by
  intro depth pass
  obtain ⟨room, pass⟩ := check_entered_eq_ok_iff.mp pass
  simpa [Compiler.enter, room] using h (depth + 1) pass

theorem enteredUnless {empty empty' : Bool} (same : empty = empty') (h : Follows c first second outcome) :
    Follows c (enteredUnless empty first) (enteredUnless empty' second) outcome := by
  subst same
  cases empty with
  | true => exact h
  | false => exact h.entered

theorem names {target target' : Expr}
    (same : (target.form c.dialect).isText = (target'.form c.dialect).isText)
    (h : Follows c first second outcome) :
    Follows c (here (.names target) :: first) (here (.names target') :: second) outcome := by
  intro depth pass
  cases text : (target.form c.dialect).isText with
  | false => simp [Visit.check, here, Demand.met, text] at pass
  | true =>
    simp only [check_cons, Visit.check, here, Demand.met, text, if_true, Result.ok_bind] at pass
    simpa [Visit.check, here, Demand.met, ← same, text] using h depth pass

theorem node {limit : Nat} {inner inner' : Node} (supported : Dialect.query.supports inner')
    (h : Follows ⟨.query, limit⟩ (inner.queryVisits .query) (inner'.queryVisits .query) outcome) :
    Follows ⟨.query, limit⟩ ((Expr.node inner).visits .query) ((Expr.node inner').visits .query) outcome := by
  intro depth pass
  obtain ⟨room, -, pass⟩ := check_queryNode_eq_ok_iff.mp pass
  simpa [Expr.visits, Compiler.enter, room, supported] using h (depth + 1) pass

end Visits.Follows

-- ---------------------------------------------------------------------------
-- Gaps and slots
-- ---------------------------------------------------------------------------

theorem filtersVisits_of_several (d : Dialect) {filters : List Expr} (several : 1 < filters.length) :
    filtersVisits d filters = Visits.entered (Visits.under (.key "and") (itemVisits d filters 0)) := by
  match filters, several with
  | _ :: _ :: _, _ => rfl

namespace Visits.Follows

open Visit (here)

variable {c : Compiler} {outcome : Result Unit} {d : Dialect}

/-- Around one member of a list, the visits of the others stay as they are. -/
theorem member {α : Type} {visits : α → Visits} (before after : List α) {first second : α}
    (h : Follows c (visits first) (visits second) outcome) :
    Follows c ((before ++ first :: after).flatMap visits) ((before ++ second :: after).flatMap visits) outcome := by
  simp only [List.flatMap_append, List.flatMap_cons]
  exact .before _ (.after h (.refl _))

theorem gap (gap : Gap Expr) {first second : Expr} (h : Follows c (first.visits d) (second.visits d) outcome) :
    Follows c (itemVisits d (gap.fill first) 0) (itemVisits d (gap.fill second) 0)
      (Path.report [.index gap.before.length] outcome) := by
  simp only [itemVisits_eq_flatMap, Gap.fill, List.zipIdx_append, List.zipIdx_cons, Nat.zero_add]
  exact .member _ _ (.under h)

theorem rescorers (gap : Gap Rescorer) {first second : Rescorer}
    (h : Follows c (first.visits d) (second.visits d) outcome) :
    Follows c (rescorerVisits d (gap.fill first) 0) (rescorerVisits d (gap.fill second) 0)
      (Path.report [.key "rescore", .index gap.before.length] outcome) := by
  simp only [rescorerVisits_eq_flatMap, Gap.fill, List.zipIdx_append, List.zipIdx_cons, Nat.zero_add]
  exact .member _ _ (.under (.under h))

theorem slot (slot : Slot Expr) {first second : Expr} (h : Follows c (first.visits d) (second.visits d) outcome) :
    Follows c (paramVisits d (slot.fill first)) (paramVisits d (slot.fill second))
      (Path.report [.key slot.key] outcome) := by
  simp only [paramVisits_eq_flatMap, Slot.fill]
  exact .member _ _ (.under h)

theorem aggregations (slot : Slot Aggregation) {first second : Aggregation}
    (h : Follows c (first.visits d) (second.visits d) outcome) :
    Follows c (aggregationVisits d (slot.fill first)) (aggregationVisits d (slot.fill second))
      (Path.report [.key slot.key] outcome) := by
  simp only [aggregationVisits_eq_flatMap, Slot.fill]
  exact .member _ _ (.under h)

theorem filters (gap : Gap Expr) {first second : Expr}
    (h : Follows c (first.visits d) (second.visits d) outcome) :
    Follows c (filtersVisits d (gap.fill first)) (filtersVisits d (gap.fill second))
      (Path.report (if gap.alone then [] else [.key "and", .index gap.before.length]) outcome) := by
  cases alone : gap.alone with
  | true =>
    obtain ⟨before, after⟩ := gap
    obtain ⟨rfl, rfl⟩ : before = [] ∧ after = [] := by simpa [Gap.alone] using alone
    exact h
  | false =>
    rw [filtersVisits_of_several d (gap.several alone first), filtersVisits_of_several d (gap.several alone second)]
    exact .entered (.under (h.gap gap))

theorem source {first second : SourceFilter} (mark : first.isEmpty = second.isEmpty)
    (h : Follows c (first.visits d) (second.visits d) outcome) :
    Follows c (sourceVisits d (some first)) (sourceVisits d (some second))
      (Path.report [.key "_source"] outcome) := by
  simp only [sourceVisits, ← mark]
  cases empty : first.isEmpty with
  | true =>
    have none (source : SourceFilter) (empty : source.isEmpty) : source.visits d = [] := by
      cases source <;> simp_all [SourceFilter.isEmpty, SourceFilter.visits, itemVisits, Visits.under]
    rw [none first empty, none second (mark ▸ empty)] at h
    obtain rfl := h 0 rfl
    exact fun _ _ => (Path.report_ok _).symm
  | false => exact .entered (.under h)

theorem inSection {inner : PartKind} (frame : Frame inner .search) {first second : inner.Part}
    (h : Follows c ((frame.fill first).sectionVisits .query frame.part)
      ((frame.fill second).sectionVisits .query frame.part) outcome) :
    Follows c ((frame.fill first).visits .query) ((frame.fill second).visits .query) outcome := by
  obtain ⟨front, back, whole⟩ := frame.part.exchanged ((frame.fill first).sectionVisits .query)
  rw [Search.visits_eq_flatMap, Search.visits_eq_flatMap, whole _ fun _ _ => rfl,
    whole _ fun _ apart => frame.sectionVisits_fill second first apart]
  exact .before front (.after h (.refl back))

end Visits.Follows

-- ---------------------------------------------------------------------------
-- One frame
-- ---------------------------------------------------------------------------

namespace Frame

variable {inner outer : PartKind}

/-- What follows from exchanging the part for another one, and how the
container reports it. -/
theorem follows {limit : Nat} {outcome : Result Unit} (frame : Frame inner outer) {first second : inner.Part}
    (mark : inner.mark first = inner.mark second)
    (h : Visits.Follows ⟨.query, limit⟩ (inner.visits first) (inner.visits second) outcome) :
    Visits.Follows ⟨.query, limit⟩ (outer.visits (frame.fill first)) (outer.visits (frame.fill second))
      (frame.reports.report outcome) := by
  cases frame with
  | item gap => exact .entered (.gap gap h)
  | entry slot => exact .entered (.slot slot h)
  | boostTarget boost => exact .node rfl (.after h (.names mark (.refl _)))
  | boostWeight boost => exact .node rfl (.before _ (.names rfl h))
  | queryField query => exact .node rfl (.after h (.names mark (.moved (.moved (.refl _)))))
  | queryOperand query => exact .node rfl (.before _ (.names rfl (.under (.under (.after h (.refl _))))))
  | queryParam query slot =>
    exact .node rfl (.before _ (.names rfl (.under (.under (.before _ (.slot slot h))))))
  | namedParam query slot => exact .node rfl (.under (.slot slot h))
  | rangeField bounds =>
    exact .node rfl (.after h (.names mark (.moved (.before _ (.moved (.refl _))))))
  | rangeBound bounds slot =>
    exact .node rfl (.before _ (.names rfl (.under (.before _ (.under (.slot slot h))))))
  | rangeParam bounds slot =>
    exact .node rfl (.before _ (.names rfl (.under (.after (.slot slot h) (.refl _)))))
  | termsField listed =>
    exact .node rfl (.after h (.names mark (.moved (.after (.moved (.refl _)) (.refl _)))))
  | termsValue listed gap =>
    exact .node rfl (.before _ (.names rfl (.under (.after (.under (.gap gap h)) (.refl _)))))
  | termsParam listed slot =>
    exact .node rfl (.before _ (.names rfl (.under (.before _ (.slot slot h)))))
  | multiMatchOperand query => exact .node rfl (.after (.after h (.refl _)) (.refl _))
  | multiMatchField query gap => exact .node rfl (.after (.before _ (.gap gap h)) (.refl _))
  | multiMatchParam query slot => exact .node rfl (.before _ (.slot slot h))
  | wrappedQuery wrapped => exact .node rfl (.after h (.refl _))
  | wrappedParam wrapped slot => exact .node rfl (.before _ (.slot slot h))
  | booleanOperand filter gap => exact .node rfl (.after (.under (.gap gap h)) (.refl _))
  | booleanParam filter slot => exact .node rfl (.before _ (.slot slot h))
  | negationOperand filter => exact .node rfl (.after (.under h) (.refl _))
  | negationParam filter slot => exact .node rfl (.before _ (.slot slot h))
  | sortTarget clause =>
    refine .node rfl (.after (.after h (.refl _)) ?_)
    split
    · exact .refl _
    · exact .names mark (.refl _)
  | sortParam clause slot =>
    refine .node rfl (.after (.before _ (.slot slot h)) ?_)
    simp only [Slot.isEmpty_fill]
    exact .refl _
  | aggregation => exact .node rfl h
  | source => exact .node rfl h
  | rescore => exact .node rfl h
  | search => exact .node rfl h
  | metricParam name slot => exact .slot slot h
  | bucketParam name slot subs => exact .after (.slot slot h) (.refl _)
  | bucketSub name params slot =>
    exact .before _ (.under (.enteredUnless (by simp) (.aggregations slot h)))
  | condition subs => exact .before _ (.under h)
  | conditionSub test slot =>
    exact .after (.under (.enteredUnless (by simp) (.aggregations slot h))) (.refl _)
  | sourceField gap => exact .gap gap h
  | included gap others => exact .after (.under (.gap gap h)) (.refl _)
  | excluded others gap => exact .before _ (.under (.gap gap h))
  | rescoreQuery rescorer => exact .after (.under h) (.refl _)
  | searchQuery whole =>
    refine .inSection (.searchQuery whole) ?_
    obtain ⟨_, filters⟩ := whole
    cases filters with
    | nil => exact .under h
    | cons filter rest => exact .under (.entered (.under (.after (.under h) (.refl _))))
  | searchFilter whole gap =>
    refine .inSection (.searchFilter whole gap) ?_
    obtain ⟨before, after⟩ := gap
    cases before with
    | nil => exact .under (.entered (.under (.before _ (.under (.filters ⟨[], after⟩ h)))))
    | cons filter rest =>
      exact .under (.entered (.under (.before _ (.under (.filters ⟨filter :: rest, after⟩ h)))))
  | searchPostFilter whole gap => exact .inSection (.searchPostFilter whole gap) (.under (.filters gap h))
  | searchSort whole gap => exact .inSection (.searchSort whole gap) (.under (.gap gap h))
  | searchSource whole => exact .inSection (.searchSource whole) (.source mark h)
  | searchAggregation whole slot =>
    exact .inSection (.searchAggregation whole slot) (.under (.enteredUnless (by simp [fill]) (.aggregations slot h)))
  | searchRescorer whole gap =>
    exact .inSection (.searchRescorer whole gap) (.enteredUnless (by simp [fill]) (.rescorers gap h))

end Frame

-- ---------------------------------------------------------------------------
-- Holes
-- ---------------------------------------------------------------------------

def Double.verdict (number : Double) : Result Unit :=
  if number.isFinite then .ok () else .error (.malformedHere (number.text ++ " is not a finite number"))

theorem Visits.Follows.number {c : Compiler} {first second : Double} (finite : first.isFinite)
    (visits : Visits) :
    Follows c (.here (.finite first) :: visits) (.here (.finite second) :: visits) second.verdict := by
  intro depth pass
  rw [check_cons] at pass ⊢
  cases met : second.isFinite <;>
    simp_all [Visit.check, Visit.here, Demand.met, Visit.fault, Demand.fault, Double.verdict]

namespace Hole

variable {kind : PartKind}

theorem follows {limit : Nat} (hole : Hole kind) {first : Double} (finite : first.isFinite) (second : Double) :
    Visits.Follows ⟨.query, limit⟩ (kind.visits (hole.fill first)) (kind.visits (hole.fill second))
      (hole.reports.report second.verdict) := by
  induction hole with
  | number => exact .number finite _
  | queryWeight rescorer => exact .before _ (.number finite _)
  | rescoreQueryWeight rescorer =>
    obtain ⟨_, _, queryWeight⟩ := rescorer
    cases queryWeight with
    | none => exact .before _ (.number finite _)
    | some weight => exact .before _ (.before [.here (.finite weight)] (.number finite _))
  | inside frame hole ih =>
    rw [reports, Path.report_append]
    exact frame.follows (hole.mark_fill _ _) ih

end Hole

end SearchWire
