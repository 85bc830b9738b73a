import SearchWire.Proofs.Sections

/-!
# Numbers in bodies

Where the number in a hole can be found in the body: at most at the one place
that the frames around the hole name.
-/

namespace SearchWire

/-- Whatever finite number the body is made with stands at the place. -/
def Tracks (body : Double → Json) (place : Path) : Prop :=
  ∀ number, number.isFinite → (body number).at? place = some (.float number)

namespace Tracks

variable {body : Double → Json} {place : Path}

/-- Numbers are too many to be found where only two values can stand. -/
theorem false_of_two (a b : Option Json)
    (two : ∀ number, (body number).at? place = a ∨ (body number).at? place = b) : ¬Tracks body place := by
  intro tracks
  have value (code : Nat) (finite : (Binary.ofCode false code : Double).isFinite) :
      some (.float (Binary.ofCode false code)) = a ∨ some (.float (Binary.ofCode false code)) = b :=
    tracks _ finite ▸ two _
  have apart (m n : Nat) (ne : (Binary.ofCode false m : Double) ≠ Binary.ofCode false n) :
      some (Json.float (Binary.ofCode false m)) ≠ some (.float (Binary.ofCode false n)) := by
    simpa using ne
  have := apart 0 1 (by decide)
  have := apart 0 2 (by decide)
  have := apart 1 2 (by decide)
  have := value 0 (by decide)
  have := value 1 (by decide)
  have := value 2 (by decide)
  grind

theorem false_of_const (json : Option Json) (const : ∀ number, (body number).at? place = json) :
    ¬Tracks body place := false_of_two json json fun number => .inl (const number)

theorem eq_nil (tracks : Tracks Json.float place) : place = [] := by
  have := tracks .zero (by decide)
  cases place with
  | nil => rfl
  | cons step rest => simp [Json.at?] at this

theorem false_of_string {text : Double → String} : ¬Tracks (fun number => .string (text number)) place := by
  intro tracks
  have := tracks .zero (by decide)
  cases place <;> simp [Json.at?] at this

/-- A number is not found in an object for the name that it has given to a
member. -/
theorem false_of_named (members : String → Entries Json) {name : Double → String}
    (two : ∀ key, ∃ a b, ∀ name, Entries.get? key (members name) = a ∨ Entries.get? key (members name) = b) :
    ¬Tracks (fun number => .object (members (name number))) place := by
  intro tracks
  rcases place with _ | ⟨key | position, rest⟩
  · have := tracks .zero (by decide)
    simp [Json.at?] at this
  · obtain ⟨a, b, two⟩ := two key
    refine false_of_two (a.bind (Json.at? rest)) (b.bind (Json.at? rest)) (fun number => ?_) tracks
    exact (two (name number)).imp (congrArg (Option.bind · _)) (congrArg (Option.bind · _))
  · have := tracks .zero (by decide)
    simp [Json.at?] at this

theorem false_of_put {name : Double → String} (json : Json) (members : Entries Json) :
    ¬Tracks (fun number => .object (Entries.put (name number) json members)) place := by
  refine false_of_named (fun name => Entries.put name json members) fun key =>
    ⟨some json, Entries.get? key members, fun name => ?_⟩
  by_cases same : name = key <;> simp [Entries.get?_put, same]

theorem false_of_operand {name : Double → String} (json : Json) (params : Entries Json) :
    ¬Tracks (fun number => Json.withParams [(name number, json)] params) place := by
  refine false_of_named (fun name => Entries.merge [(name, json)] params) fun key =>
    ⟨(Entries.get? key params.reverse).or (some json), Entries.get? key params.reverse, fun name => ?_⟩
  by_cases same : name = key <;> simp [Entries.get?_merge, Entries.get?, same]

theorem false_of_key {json : Json} {name : Double → String} :
    ¬Tracks (fun number => .single (name number) json) place := by
  refine false_of_named (fun name => [(name, json)]) fun key => ⟨some json, none, fun name => ?_⟩
  by_cases same : name = key <;> simp [Entries.get?, same]

end Tracks

/-- A number in the outer body is one in the inner body, which stands where
the path leads. -/
def Inside (outer inner : Double → Json) (path : Path) : Prop :=
  ∀ place, Tracks outer place → ∃ rest, place = path ++ rest ∧ Tracks inner rest

/-- The members hold the value under the key, if they hold it at all, and
nothing else in them varies. -/
def Varies (members : Double → Entries Json) (key : String) (value : Double → Json) : Prop :=
  ∀ name, (∃ const, ∀ number, Entries.get? name (members number) = const) ∨
    key = name ∧ ∀ number, Entries.get? name (members number) = some (value number)

namespace Varies

variable {members : Double → Entries Json} {key : String} {value : Double → Json}

theorem single : Varies (fun number => [(key, value number)]) key value := by
  intro name
  by_cases same : key = name <;> simp [Entries.get?, same]

theorem after (first : Entries Json) (h : Varies members key value) :
    Varies (fun number => first ++ members number) key value := by
  intro name
  simp only [Entries.get?_append]
  cases Entries.get? name first with
  | some json => exact .inl ⟨some json, fun _ => rfl⟩
  | none => simpa using h name

theorem before (rest : Entries Json) (h : Varies members key value) :
    Varies (fun number => members number ++ rest) key value := by
  intro name
  simp only [Entries.get?_append]
  rcases h name with ⟨const, h⟩ | ⟨same, h⟩
  · exact .inl ⟨const.or (Entries.get? name rest), fun number => by rw [h]⟩
  · exact .inr ⟨same, fun number => by rw [h]; rfl⟩

theorem put (key : String) (rest : Entries Json) :
    Varies (fun number => Entries.put key (value number) rest) key value := by
  intro name
  by_cases same : key = name <;> simp [Entries.get?_put, same]

theorem beneath (other : String) (json : Json) (h : Varies members key value) :
    Varies (fun number => Entries.put other json (members number)) key value := by
  intro name
  by_cases same : other = name
  · exact .inl ⟨some json, fun number => by simp [Entries.get?_put, same]⟩
  · simpa [Entries.get?_put, same] using h name

theorem withParams (params : Entries Json) (h : Varies members key value) :
    Varies (fun number => Entries.merge (members number) params) key value := by
  intro name
  simp only [Entries.get?_merge]
  cases Entries.get? name params.reverse with
  | some json => exact .inl ⟨some json, fun _ => rfl⟩
  | none => simpa using h name

theorem besides (operands : Entries Json) (h : Varies (fun number => (members number).reverse) key value) :
    Varies (fun number => Entries.merge operands (members number)) key value := by
  intro name
  simp only [Entries.get?_merge]
  rcases h name with ⟨const, h⟩ | ⟨same, h⟩
  · exact .inl ⟨const.or (Entries.get? name operands), fun number => congrArg (Option.or · _) (h number)⟩
  · exact .inr ⟨same, fun number => congrArg (Option.or · _) (h number)⟩

end Varies

namespace Inside

variable {outer middle inner : Double → Json}

theorem refl : Inside outer outer [] := fun place tracks => ⟨place, rfl, tracks⟩

theorem trans {step : Step} {path : Path} (first : Inside outer middle [step])
    (second : Inside middle inner path) : Inside outer inner (step :: path) := by
  intro place tracks
  obtain ⟨_, rfl, within⟩ := first place tracks
  obtain ⟨rest, rfl, found⟩ := second _ within
  exact ⟨rest, rfl, found⟩

theorem never {path : Path} (h : ∀ {place}, ¬Tracks outer place) : Inside outer inner path :=
  fun _ tracks => (h tracks).elim

theorem absent {path path' : Path} (first : Inside outer middle path) (h : ∀ {place}, ¬Tracks middle place) :
    Inside outer inner path' := by
  intro place tracks
  obtain ⟨_, _, within⟩ := first place tracks
  exact (h within).elim

theorem array (before after : List Json) :
    Inside (fun number => .array (before ++ inner number :: after)) inner [.index before.length] := by
  intro place tracks
  rcases place with _ | ⟨name | position, rest⟩
  · have := tracks .zero (by decide)
    simp [Json.at?] at this
  · have := tracks .zero (by decide)
    simp [Json.at?] at this
  · by_cases same : position = before.length
    · subst same
      exact ⟨rest, rfl, fun number finite => by simpa [Json.at?] using tracks number finite⟩
    · refine (Tracks.false_of_const ((before ++ .null :: after)[position]?.bind (Json.at? rest)) ?_ tracks).elim
      intro number
      rw [Json.at?]
      congr 1
      rcases Nat.lt_or_gt_of_ne same with lt | gt
      · simp [List.getElem?_append_left lt]
      · obtain ⟨extra, rfl⟩ := Nat.exists_eq_add_of_lt gt
        simp [List.getElem?_append_right, Nat.add_assoc]

theorem object {members : Double → Entries Json} {key : String} (h : Varies members key inner) :
    Inside (fun number => .object (members number)) inner [.key key] := by
  intro place tracks
  rcases place with _ | ⟨name | position, rest⟩
  · have := tracks .zero (by decide)
    simp [Json.at?] at this
  · rcases h name with ⟨const, h⟩ | ⟨rfl, h⟩
    · exact (Tracks.false_of_const (const.bind (Json.at? rest)) (fun number => by rw [Json.at?, h]) tracks).elim
    · exact ⟨rest, rfl, fun number finite => by simpa [Json.at?, h] using tracks number finite⟩
  · have := tracks .zero (by decide)
    simp [Json.at?] at this

theorem single {key : String} : Inside (fun number => .single key (inner number)) inner [.key key] :=
  object .single

end Inside

-- ---------------------------------------------------------------------------
-- Forms of gaps and slots
-- ---------------------------------------------------------------------------

section
variable (d : Dialect)

theorem itemForms_fill (gap : Gap Expr) (item : Expr) :
    itemForms d (gap.fill item) = itemForms d gap.before ++ item.form d :: itemForms d gap.after := by
  simp only [itemForms_eq_map, Gap.fill, List.map_append, List.map_cons]

theorem rescorerForms_fill (gap : Gap Rescorer) (rescorer : Rescorer) :
    rescorerForms d (gap.fill rescorer) =
      rescorerForms d gap.before ++ rescorer.form d :: rescorerForms d gap.after := by
  simp only [rescorerForms_eq_map, Gap.fill, List.map_append, List.map_cons]

theorem paramForms_fill (slot : Slot Expr) (value : Expr) :
    paramForms d (slot.fill value) =
      paramForms d slot.before ++ (slot.key, value.form d) :: paramForms d slot.after := by
  simp only [paramForms_eq_map, Slot.fill, List.map_append, List.map_cons]

theorem aggregationForms_fill (slot : Slot Aggregation) (value : Aggregation) :
    aggregationForms d (slot.fill value) =
      aggregationForms d slot.before ++ (slot.key, value.form d) :: aggregationForms d slot.after := by
  simp only [aggregationForms_eq_map, Slot.fill, List.map_append, List.map_cons]

@[simp] theorem isEmpty_itemForms_fill (gap : Gap Expr) (item : Expr) :
    (itemForms d (gap.fill item)).isEmpty = false := by
  rw [itemForms_fill]
  exact Gap.isEmpty_fill ⟨_, _⟩ _

@[simp] theorem isEmpty_paramForms_fill (slot : Slot Expr) (value : Expr) :
    (paramForms d (slot.fill value)).isEmpty = false := by
  rw [paramForms_fill]
  exact Slot.isEmpty_fill ⟨_, _, _⟩ _

@[simp] theorem isEmpty_aggregationForms_fill (slot : Slot Aggregation) (value : Aggregation) :
    (aggregationForms d (slot.fill value)).isEmpty = false := by
  rw [aggregationForms_fill]
  exact Slot.isEmpty_fill ⟨_, _, _⟩ _

@[simp] theorem isEmpty_rescorerForms_fill (gap : Gap Rescorer) (rescorer : Rescorer) :
    (rescorerForms d (gap.fill rescorer)).isEmpty = false := by
  rw [rescorerForms_fill]
  exact Gap.isEmpty_fill ⟨_, _⟩ _

theorem filtersForm_of_several {filters : List Expr} (several : 1 < filters.length) :
    filtersForm d filters = some (.single "and" (.array (itemForms d filters))) := by
  match filters, several with
  | _ :: _ :: _, _ => rfl

end

namespace Varies

variable {value : Double → Expr}

theorem slot (slot : Slot Expr) :
    Varies (fun number => paramForms .query (slot.fill (value number))) slot.key
      fun number => (value number).form .query := by
  simp only [paramForms_fill]
  exact .after _ (.before _ .single)

theorem slotReverse (slot : Slot Expr) :
    Varies (fun number => (paramForms .query (slot.fill (value number))).reverse) slot.key
      fun number => (value number).form .query := by
  simp only [paramForms_fill, List.reverse_append, List.reverse_cons]
  exact .before _ (.after _ .single)

theorem aggregations {value : Double → Aggregation} (slot : Slot Aggregation) :
    Varies (fun number => aggregationForms .query (slot.fill (value number))) slot.key
      fun number => (value number).form .query := by
  simp only [aggregationForms_fill]
  exact .after _ (.before _ .single)

theorem inSection {inner : PartKind} {key : String} {shown : Double → Json} (frame : Frame inner .search)
    (part : Double → inner.Part)
    (h : Varies (fun number => (frame.fill (part number)).sectionForms .query frame.part) key shown) :
    Varies (fun number => Search.Section.all.flatMap ((frame.fill (part number)).sectionForms .query)) key shown := by
  obtain ⟨front, back, whole⟩ := frame.part.exchanged ((frame.fill (part .zero)).sectionForms .query)
  have each (number : Double) := whole _ fun _ apart => frame.sectionForms_fill (part number) (part .zero) apart
  simp only [each]
  exact .after front (.before back h)

end Varies

namespace Inside

variable {inner : Double → Json} {value : Double → Expr}

theorem beside (key : String) (params : Entries Expr) :
    Inside (fun number => Json.beside key (inner number) (paramForms .query params)) inner
      (if params.isEmpty then [] else [.key key]) := by
  cases params with
  | nil => exact refl
  | cons param rest => exact object (.withParams _ .single)

theorem besideSlot (key : String) (operand : Json) (slot : Slot Expr) :
    Inside (fun number => Json.beside key operand (paramForms .query (slot.fill (value number))))
      (fun number => (value number).form .query) [.key slot.key] := by
  simp only [Json.beside, isEmpty_paramForms_fill]
  exact object (.besides _ (.slotReverse slot))

theorem gap (gap : Gap Expr) :
    Inside (fun number => .array (itemForms .query (gap.fill (value number))))
      (fun number => (value number).form .query) [.index gap.before.length] := by
  simp only [itemForms_fill]
  have length : gap.before.length = (itemForms .query gap.before).length := by simp [itemForms_eq_map]
  rw [length]
  exact array _ _

theorem joined (gap : Gap Expr) (value : Double → Expr) : ∃ joined : Double → Json,
    (∀ number, filtersForm .query (gap.fill (value number)) = some (joined number)) ∧
      Inside joined (fun number => (value number).form .query)
        (if gap.alone then [] else [.key "and", .index gap.before.length]) := by
  cases alone : gap.alone with
  | true =>
    obtain ⟨before, after⟩ := gap
    obtain ⟨rfl, rfl⟩ : before = [] ∧ after = [] := by simpa [Gap.alone] using alone
    exact ⟨_, fun _ => rfl, refl⟩
  | false =>
    have several (number : Double) := gap.several alone (value number)
    exact ⟨_, fun number => filtersForm_of_several .query (several number), trans single (.gap gap)⟩

theorem rescorers {value : Double → Rescorer} (gap : Gap Rescorer) :
    Inside (fun number => .array (rescorerForms .query (gap.fill (value number))))
      (fun number => (value number).form .query) [.index gap.before.length] := by
  simp only [rescorerForms_fill]
  have length : gap.before.length = (rescorerForms .query gap.before).length := by simp [rescorerForms_eq_map]
  rw [length]
  exact array _ _

theorem inSection {inner : PartKind} {key : String} {shown : Double → Json} (frame : Frame inner .search)
    (part : Double → inner.Part)
    (h : Varies (fun number => (frame.fill (part number)).sectionForms .query frame.part) key shown) :
    Inside (fun number => (frame.fill (part number)).form .query) shown [.key key] := by
  simp only [Search.form_eq_flatMap]
  exact object (.inSection frame part h)

end Inside

-- ---------------------------------------------------------------------------
-- One frame
-- ---------------------------------------------------------------------------

namespace Frame

theorem inside {inner outer : PartKind} (frame : Frame inner outer) (part : Double → inner.Part)
    (mark : ∀ first second, inner.mark (part first) = inner.mark (part second)) :
    Inside (fun number => outer.form (frame.fill (part number))) (fun number => inner.form (part number))
      frame.stands := by
  cases frame with
  | item gap => exact .gap gap
  | entry slot => exact .object (.slot slot)
  | boostTarget boost => exact .never Tracks.false_of_string
  | boostWeight boost => exact .never Tracks.false_of_string
  | queryField query => exact .absent .single Tracks.false_of_key
  | queryOperand query => exact .trans .single (.trans .single (.beside _ _))
  | queryParam query slot => exact .trans .single (.trans .single (.besideSlot _ _ _))
  | namedParam query slot => exact .trans .single (.object (.slot slot))
  | rangeField bounds => exact .absent .single (Tracks.false_of_put _ _)
  | rangeBound bounds slot => exact .trans .single (.trans (.object (.put _ _)) (.object (.slot slot)))
  | rangeParam bounds slot => exact .trans .single (.object (.beneath _ _ (.slot slot)))
  | termsField listed => exact .absent .single (Tracks.false_of_operand _ _)
  | termsValue listed gap => exact .trans .single (.trans (.object (.withParams _ .single)) (.gap gap))
  | termsParam listed slot => exact .trans .single (.object (.besides _ (.slotReverse slot)))
  | multiMatchOperand query => exact .trans .single (.object (.withParams _ (.before _ .single)))
  | multiMatchField query gap =>
    exact .trans .single (.trans (.object (.withParams _ (.after [_] .single))) (.gap gap))
  | multiMatchParam query slot => exact .trans .single (.object (.besides _ (.slotReverse slot)))
  | wrappedQuery wrapped =>
    obtain ⟨_, params⟩ := wrapped
    cases params with
    | nil => exact .object .single
    | cons param rest => exact .trans .single (.object (.withParams _ .single))
  | wrappedParam wrapped slot =>
    simp only [PartKind.form, fill, Expr.form, Node.queryForm, WrappedQuery.form, isEmpty_paramForms_fill]
    exact .trans .single (.object (.besides _ (.slotReverse slot)))
  | booleanOperand filter gap =>
    obtain ⟨operator, operands, params⟩ := filter
    cases params with
    | nil => exact .trans .single (.gap gap)
    | cons param rest => exact .trans .single (.trans (.object (.withParams _ .single)) (.gap gap))
  | booleanParam filter slot => exact .trans .single (.besideSlot _ _ _)
  | negationOperand filter => exact .trans .single (.beside _ _)
  | negationParam filter slot => exact .trans .single (.besideSlot _ _ _)
  | sortTarget clause =>
    obtain ⟨target, order, params⟩ := clause
    cases params with
    | nil =>
      cases order with
      | none => exact .refl
      | some order => exact .never Tracks.false_of_key
    | cons param rest => exact .never Tracks.false_of_key
  | sortParam clause slot =>
    simp only [PartKind.form, fill, Expr.form, Node.queryForm, SortClause.form, isEmpty_paramForms_fill]
    exact .trans .single (.object (.besides _ (.slotReverse slot)))
  | aggregation => exact .refl
  | source => exact .refl
  | rescore => exact .refl
  | search => exact .refl
  | metricParam name slot => exact .trans .single (.object (.slot slot))
  | bucketParam name slot subs => exact .trans (.object (.withParams _ .single)) (.object (.slot slot))
  | bucketSub name params slot =>
    simp only [PartKind.form, fill, Aggregation.form, Json.section?, isEmpty_aggregationForms_fill]
    exact .trans (.object (.besides _ .single)) (.object (.aggregations slot))
  | condition subs => exact .object (.withParams _ .single)
  | conditionSub test slot =>
    simp only [PartKind.form, fill, Aggregation.form, Json.section?, isEmpty_aggregationForms_fill]
    exact .trans (.object (.besides _ .single)) (.object (.aggregations slot))
  | sourceField gap => exact .gap gap
  | included gap others =>
    simp only [PartKind.form, fill, SourceFilter.form, Json.group, isEmpty_itemForms_fill]
    exact .trans (.object (.before _ .single)) (.gap gap)
  | excluded others gap =>
    simp only [PartKind.form, fill, SourceFilter.form, Json.group, isEmpty_itemForms_fill]
    exact .trans (.object (.after _ .single)) (.gap gap)
  | rescoreQuery rescorer =>
    exact .trans (.object (.before _ .single)) (.object (.before _ (.before _ (.before _ .single))))
  | searchQuery whole =>
    obtain ⟨_, filters⟩ := whole
    cases filters with
    | nil => exact .inSection (.searchQuery _) part .single
    | cons filter rest =>
      have filtered : Inside (fun number => .object (Json.optional "query" (some ((part number).form .query)) ++
          Json.optional "filter" (filtersForm .query (filter :: rest)))) _ _ := .object (.before _ .single)
      exact .trans (.inSection (.searchQuery _) part .single) (.trans .single filtered)
  | searchFilter whole gap =>
    obtain ⟨joined, form, inside⟩ := Inside.joined gap part
    refine .trans (.inSection (.searchFilter whole gap) part ?_)
      (.trans .single (.trans (.object (.after (Json.optional "query" (optionalForm .query whole.query)) .single)) inside))
    simp only [fill, Search.sectionForms, Gap.isEmpty_fill, form]
    exact .single
  | searchPostFilter whole gap =>
    obtain ⟨joined, form, inside⟩ := Inside.joined gap part
    refine .trans (.inSection (.searchPostFilter whole gap) part ?_) inside
    simp only [fill, Search.sectionForms, form]
    exact .single
  | searchSort whole gap =>
    refine .trans (.inSection (.searchSort whole gap) part ?_) (.gap gap)
    simp only [fill, Search.sectionForms, Json.group, isEmpty_itemForms_fill]
    exact .single
  | searchSource whole =>
    have all {empty : Bool} (one : SourceFilter.isEmpty (part .zero) = empty) (number : Double) :
        SourceFilter.isEmpty (part number) = empty := (mark number .zero).trans one
    cases empty : SourceFilter.isEmpty (part .zero) with
    | true =>
      simp only [PartKind.form, fill, Search.form, sourceForm, all empty, if_true]
      exact .never (Tracks.false_of_const _ fun _ => rfl)
    | false =>
      refine .inSection (.searchSource whole) part ?_
      simp only [fill, Search.sectionForms, sourceForm, all empty]
      exact .single
  | searchAggregation whole slot =>
    refine .trans (.inSection (.searchAggregation whole slot) part ?_) (.object (.aggregations slot))
    simp only [fill, Search.sectionForms, Json.section?, isEmpty_aggregationForms_fill]
    exact .single
  | searchRescorer whole gap =>
    refine .trans (.inSection (.searchRescorer whole gap) part ?_) (.rescorers gap)
    simp only [fill, Search.sectionForms, Json.group, isEmpty_rescorerForms_fill]
    exact .single

end Frame

-- ---------------------------------------------------------------------------
-- Holes
-- ---------------------------------------------------------------------------

theorem Hole.eq_stands {kind : PartKind} (hole : Hole kind) {place : Path}
    (tracks : Tracks (fun number => kind.form (hole.fill number)) place) : place = hole.stands := by
  induction hole generalizing place with
  | number => exact tracks.eq_nil
  | queryWeight rescorer =>
    have within : Inside (fun number => (rescorer.withQueryWeight number).form .query) Json.float _ :=
      .trans (.object (.before _ .single)) (.object (.before _ (.before _ (.after [_] .single))))
    obtain ⟨rest, rfl, found⟩ := within place tracks
    rw [found.eq_nil]
    rfl
  | rescoreQueryWeight rescorer =>
    have within : Inside (fun number => (rescorer.withRescoreQueryWeight number).form .query) Json.float _ :=
      .trans (.object (.before _ .single)) (.object (.before _ (.after _ .single)))
    obtain ⟨rest, rfl, found⟩ := within place tracks
    rw [found.eq_nil]
    rfl
  | inside frame hole ih =>
    obtain ⟨rest, rfl, within⟩ := frame.inside hole.fill hole.mark_fill place tracks
    rw [ih within, stands]

end SearchWire
