import Mathlib.Data.List.Induction
import SearchWire.Proofs.Alike
import SearchWire.Proofs.Agreement

/-!
# Registries over whole runs

Documents are registered and asked for in any order, and asking may itself put a
schema-less document into the registry. What a run leaves under a name is the
document that was registered under it last, and only where there is none the
schema-less one that the first request has made.
-/

namespace SearchWire

namespace Index

-- ---------------------------------------------------------------------------
-- Calls
-- ---------------------------------------------------------------------------

inductive Call where
  | register (document : Document)
  | lookup (name : String)
  | putMapping (name : String)

def Call.registered? : Call → Option Document
  | .register document => some document
  | _ => none

def Call.asked? : Call → Option String
  | .register _ => none
  | .lookup name => some name
  | .putMapping name => some name

def call (index : Index) : Call → Index
  | .register document => index.register document
  | .lookup name => (index.lookup name).2
  | .putMapping name => (index.putMapping name).2

def after (index : Index) (calls : List Call) : Index := calls.foldl call index

/-- The document that was registered under a name last. -/
def latest? (name : String) (calls : List Call) : Option Document :=
  (calls.filterMap Call.registered?).reverse.find? (·.docType == name)

/-- What is known under a name, without asking for it. -/
def document? (index : Index) (name : String) : Option Document :=
  (Entries.get? name index.registrations).map (·.document)

-- ---------------------------------------------------------------------------
-- What one call does
-- ---------------------------------------------------------------------------

section
variable {index : Index} {name : String} {registration : Registration}

theorem lookup_of_get? (found : Entries.get? name index.registrations = some registration) :
    index.lookup name = (.ok registration, index) := by
  simp [lookup, found]

theorem lookup_of_dynamic (unknown : Entries.get? name index.registrations = none)
    (dynamic : index.settings.dynamicDocuments = true) :
    index.lookup name = (.ok ⟨index.nextStamp, .schemaless name⟩, index.register (.schemaless name)) := by
  simp [lookup, unknown, dynamic]

theorem lookup_of_strict (unknown : Entries.get? name index.registrations = none)
    (strict : index.settings.dynamicDocuments = false) :
    index.lookup name = (.error (.validation ("document type `" ++ name ++ "` is not registered on index `" ++
      index.settings.name ++ "`")), index) := by
  simp [lookup, unknown, strict]

theorem document?_eq_none_iff : index.document? name = none ↔ Entries.get? name index.registrations = none := by
  simp [document?]

theorem lookup_of_document? {document : Document} (known : index.document? name = some document) :
    ∃ stamp, index.lookup name = (.ok ⟨stamp, document⟩, index) := by
  obtain ⟨⟨stamp, _⟩, found, rfl⟩ := Option.map_eq_some_iff.mp known
  exact ⟨stamp, lookup_of_get? found⟩

theorem lookup_snd_cases (index : Index) (name : String) :
    (index.lookup name).2 = index ∨
      Entries.get? name index.registrations = none ∧ index.settings.dynamicDocuments = true ∧
        (index.lookup name).2 = index.register (.schemaless name) := by
  cases found : Entries.get? name index.registrations with
  | some registration => simp [lookup_of_get? found]
  | none =>
    cases dynamic : index.settings.dynamicDocuments with
    | true => simp [lookup_of_dynamic found dynamic]
    | false => simp [lookup_of_strict found dynamic]

theorem settings_call (index : Index) (next : Call) : (index.call next).settings = index.settings := by
  cases next with
  | register document => rfl
  | lookup name | putMapping name =>
    rcases index.lookup_snd_cases name with same | ⟨-, -, same⟩ <;> simp [call, putMapping, same, register]

theorem settings_after (index : Index) (calls : List Call) : (index.after calls).settings = index.settings := by
  induction calls generalizing index with
  | nil => rfl
  | cons next rest ih => exact (ih (index.call next)).trans (index.settings_call next)

theorem document?_register (index : Index) (document : Document) (name : String) :
    (index.register document).document? name =
      if document.docType = name then some document else index.document? name := by
  simp only [document?, register, Entries.get?_put]
  split <;> rfl

theorem document?_lookup (index : Index) (asked name : String) :
    (index.lookup asked).2.document? name = (index.document? name).or
      (if index.settings.dynamicDocuments = true ∧ asked = name then some (.schemaless name) else none) := by
  cases found : Entries.get? asked index.registrations with
  | some registration =>
    rw [lookup_of_get? found]
    by_cases same : asked = name
    · subst same
      simp [document?, found]
    · simp [same]
  | none =>
    cases dynamic : index.settings.dynamicDocuments with
    | false => simp [lookup_of_strict found dynamic]
    | true =>
      rw [lookup_of_dynamic found dynamic, document?_register]
      by_cases same : asked = name
      · subst same
        simp [document?, found, Document.schemaless]
      · simp [same, Document.schemaless]

end

-- ---------------------------------------------------------------------------
-- What every index has
-- ---------------------------------------------------------------------------

/-- Every document stands under the name of its type, and no registration has
the stamp that the next one gets. -/
structure Sound (index : Index) : Prop where
  distinct : Entries.Distinct index.registrations
  named : ∀ entry ∈ index.registrations, entry.2.document.docType = entry.1
  stamped : ∀ entry ∈ index.registrations, entry.2.stamp < index.nextStamp

theorem Sound.register {index : Index} (sound : index.Sound) (document : Document) :
    (index.register document).Sound := by
  refine ⟨Entries.distinct_put sound.distinct, ?_, ?_⟩
  · intro entry mem
    rcases Entries.mem_put mem with rfl | mem
    · rfl
    · exact sound.named entry mem
  · intro entry mem
    rcases Entries.mem_put mem with rfl | mem
    · exact Nat.lt_succ_self _
    · exact Nat.lt_succ_of_lt (sound.stamped entry mem)

theorem Sound.call {index : Index} (sound : index.Sound) (next : Call) : (index.call next).Sound := by
  cases next with
  | register document => exact sound.register document
  | lookup name | putMapping name =>
    rcases index.lookup_snd_cases name with same | ⟨-, -, same⟩
    · simpa [Index.call, putMapping, same] using sound
    · simpa [Index.call, putMapping, same] using sound.register (.schemaless name)

theorem Sound.after {index : Index} (sound : index.Sound) (calls : List Call) : (index.after calls).Sound := by
  induction calls generalizing index with
  | nil => exact sound
  | cons next rest ih => exact ih (sound.call next)

theorem sound_new (settings : IndexSettings) : (new settings).Sound := by
  constructor <;> simp [new, Entries.Distinct, Entries.keys]

-- ---------------------------------------------------------------------------
-- What a run leaves under a name
-- ---------------------------------------------------------------------------

theorem after_append (index : Index) (calls : List Call) (next : Call) :
    index.after (calls ++ [next]) = (index.after calls).call next := by
  simp [after]

theorem latest?_append (name : String) (calls : List Call) (next : Call) :
    latest? name (calls ++ [next]) =
      (next.registered?.filter (·.docType == name)).or (latest? name calls) := by
  cases next with
  | register document =>
    by_cases same : document.docType = name <;> simp [latest?, Call.registered?, Option.filter, same]
  | lookup | putMapping => simp [latest?, List.filterMap_cons, Call.registered?]

def Asked (name : String) (calls : List Call) : Prop := ∃ next ∈ calls, next.asked? = some name

instance (name : String) (calls : List Call) : Decidable (Asked name calls) :=
  inferInstanceAs (Decidable (∃ next ∈ calls, next.asked? = some name))

theorem asked_append_iff {name : String} {calls : List Call} {next : Call} :
    Asked name (calls ++ [next]) ↔ Asked name calls ∨ next.asked? = some name := by
  simp [Asked, or_and_right, exists_or]

theorem asked_iff {name : String} {calls : List Call} :
    Asked name calls ↔ .lookup name ∈ calls ∨ .putMapping name ∈ calls := by
  constructor
  · rintro ⟨next, mem, asks⟩
    cases next <;> cases asks
    · exact .inl mem
    · exact .inr mem
  · rintro (mem | mem)
    · exact ⟨_, mem, rfl⟩
    · exact ⟨_, mem, rfl⟩

theorem document?_after (settings : IndexSettings) (calls : List Call) (name : String) :
    ((new settings).after calls).document? name = (latest? name calls).or
      (if settings.dynamicDocuments = true ∧ Asked name calls then some (.schemaless name) else none) := by
  induction calls using List.reverseRecOn with
  | nil => simp [after, new, document?, latest?, Asked]
  | append_singleton calls next ih =>
    have settings_eq : ((new settings).after calls).settings = settings := (new settings).settings_after calls
    simp only [after_append, latest?_append, asked_append_iff]
    cases next with
    | register document =>
      rw [call, document?_register, ih]
      by_cases same : document.docType = name <;> simp [Call.registered?, Call.asked?, Option.filter, same]
    | lookup asked | putMapping asked =>
      simp only [call, putMapping, document?_lookup, ih, settings_eq, Call.registered?, Call.asked?,
        Option.some.injEq, Option.filter, Option.none_or, Option.or_assoc]
      cases latest? name calls with
      | some document => rfl
      | none =>
        by_cases dynamic : settings.dynamicDocuments = true <;> by_cases known : Asked name calls <;>
          simp [dynamic, known]

theorem latest?_isSome_iff {name : String} {calls : List Call} : (latest? name calls).isSome ↔
    ∃ document, .register document ∈ calls ∧ document.docType = name := by
  have registered (document : Document) : document ∈ calls.filterMap Call.registered? ↔ .register document ∈ calls := by
    constructor
    · intro mem
      obtain ⟨next, mem, same⟩ := List.mem_filterMap.mp mem
      cases next <;> cases same
      exact mem
    · intro mem
      exact List.mem_filterMap.mpr ⟨_, mem, rfl⟩
  simp [latest?, registered]

-- ---------------------------------------------------------------------------
-- Names
-- ---------------------------------------------------------------------------

theorem mem_docTypes_iff {index : Index} {name : String} :
    name ∈ index.docTypes ↔ (index.document? name).isSome := by
  rw [docTypes, (List.mergeSort_perm _ _).mem_iff, ← Entries.get?_isSome_iff, document?, Option.isSome_map]

theorem Sound.docTypes_pairwise {index : Index} (sound : index.Sound) : index.docTypes.Pairwise (· < ·) := by
  have ascending : index.docTypes.Pairwise (· ≤ ·) := by
    have sorted := @List.pairwise_mergeSort String (fun a b => decide (a ≤ b))
      (fun a b c => by simpa using String.le_trans) (fun a b => by simpa using String.le_total a b)
      (Entries.keys index.registrations)
    exact sorted.imp fun le => of_decide_eq_true le
  have distinct : index.docTypes.Nodup := (List.mergeSort_perm _ _).nodup_iff.mpr sound.distinct
  refine (ascending.and distinct).imp fun {a b} ⟨le, ne⟩ => ?_
  exact String.not_le.mp fun ge => ne (String.le_antisymm le ge)

-- ---------------------------------------------------------------------------
-- The same answer again
-- ---------------------------------------------------------------------------

/-- Asking for the name makes nothing new. -/
def Settled (index : Index) (name : String) : Prop :=
  Entries.get? name index.registrations ≠ none ∨ index.settings.dynamicDocuments = false

section
variable {index other : Index} {name : String}

theorem Settled.lookup_fst_eq (settled : index.Settled name) (settings : other.settings = index.settings)
    (same : Entries.get? name other.registrations = Entries.get? name index.registrations) :
    (other.lookup name).1 = (index.lookup name).1 := by
  cases found : Entries.get? name index.registrations with
  | some registration => rw [lookup_of_get? found, lookup_of_get? (same.trans found)]
  | none =>
    have strict := settled.resolve_left (not_not_intro found)
    rw [lookup_of_strict found strict, lookup_of_strict (same.trans found) (settings ▸ strict), settings]

theorem Settled.call (settled : index.Settled name) {next : Call}
    (elsewhere : ∀ document, next = .register document → document.docType ≠ name) :
    Entries.get? name (index.call next).registrations = Entries.get? name index.registrations := by
  cases next with
  | register document => simp [Index.call, register, Entries.get?_put, elsewhere document rfl]
  | lookup asked | putMapping asked =>
    rcases index.lookup_snd_cases asked with same | ⟨unknown, dynamic, same⟩
    · simp [Index.call, putMapping, same]
    · have differs : asked ≠ name := by
        rintro rfl
        simp [Settled, unknown, dynamic] at settled
      simp [Index.call, putMapping, same, register, Entries.get?_put, Document.schemaless, differs]

theorem Settled.lookup_after (settled : index.Settled name) {calls : List Call}
    (elsewhere : ∀ document, .register document ∈ calls → document.docType ≠ name) :
    ((index.after calls).lookup name).1 = (index.lookup name).1 := by
  induction calls generalizing index with
  | nil => rfl
  | cons next rest ih =>
    have same : Entries.get? name (index.call next).registrations = Entries.get? name index.registrations :=
      settled.call fun document first => elsewhere document (first ▸ List.mem_cons_self)
    have settings := index.settings_call next
    have still : (index.call next).Settled name := by rwa [Settled, same, settings]
    calc ((index.after (next :: rest)).lookup name).1
        = ((index.call next).lookup name).1 := ih still fun document mem => elsewhere document (List.mem_cons_of_mem _ mem)
      _ = (index.lookup name).1 := settled.lookup_fst_eq settings same

theorem lookup_settles (index : Index) (name : String) :
    (index.lookup name).2.Settled name ∧ ((index.lookup name).2.lookup name).1 = (index.lookup name).1 := by
  cases found : Entries.get? name index.registrations with
  | some registration => simp [lookup_of_get? found, Settled, found]
  | none =>
    cases dynamic : index.settings.dynamicDocuments with
    | false => simp [lookup_of_strict found dynamic, Settled, dynamic]
    | true =>
      have known : Entries.get? name (index.register (.schemaless name)).registrations =
          some ⟨index.nextStamp, .schemaless name⟩ := by
        simp [register, Entries.get?_put, Document.schemaless]
      simp [lookup_of_dynamic found dynamic, Settled, known, lookup_of_get? known]

end

end Index

/-- After any calls on a new index, documents stand under their own names and
are found there: the one registered last, or else one schema-less document that
stays the same until a registration replaces it. An index that makes none
refuses unknown names and is left as it was. The names are those registered and
those asked for. -/
theorem registry_over_runs (settings : IndexSettings) (calls : List Index.Call) :
    let index := (Index.new settings).after calls
    (∀ entry ∈ index.registrations, entry.2.document.docType = entry.1) ∧
    (∀ name document, Index.latest? name calls = some document →
      ∃ stamp, index.lookup name = (.ok ⟨stamp, document⟩, index) ∧
        index.putMapping name = (document.compile settings.config, index)) ∧
    (∀ name, Index.latest? name calls = none → settings.dynamicDocuments = true →
      ∃ stamp, (index.lookup name).1 = .ok ⟨stamp, .schemaless name⟩) ∧
    (∀ name ask later, ask = .lookup name ∨ ask = .putMapping name →
      (∀ document, .register document ∈ later → document.docType ≠ name) →
      ((index.after (ask :: later)).lookup name).1 = (index.lookup name).1) ∧
    (∀ document old, Entries.get? document.docType index.registrations = some old →
      ∃ stamp, ((index.register document).lookup document.docType).1 = .ok ⟨stamp, document⟩ ∧
        stamp ≠ old.stamp) ∧
    (∀ name, Index.latest? name calls = none → settings.dynamicDocuments = false →
      ∃ reason, index.lookup name = (.error (.validation reason), index) ∧
        index.putMapping name = (.error (.validation reason), index)) ∧
    index.docTypes.Pairwise (· < ·) ∧
    ∀ name, name ∈ index.docTypes ↔ (∃ document, .register document ∈ calls ∧ document.docType = name) ∨
      settings.dynamicDocuments = true ∧ (.lookup name ∈ calls ∨ .putMapping name ∈ calls) := by
  intro index
  have sound : index.Sound := (Index.sound_new settings).after calls
  have settings_eq : index.settings = settings := (Index.new settings).settings_after calls
  have known (name : String) : index.document? name = _ := Index.document?_after settings calls name
  refine ⟨sound.named, ?latest, ?schemaless, ?same, ?replaced, ?refused, sound.docTypes_pairwise, ?names⟩
  case latest =>
    intro name document latest
    obtain ⟨stamp, found⟩ := Index.lookup_of_document? ((known name).trans (by rw [latest, Option.some_or]))
    exact ⟨stamp, found, by simp [Index.putMapping, found, Except.bind, settings_eq]⟩
  case schemaless =>
    intro name never dynamic
    have known := known name
    rw [never, Option.none_or] at known
    by_cases asked : Index.Asked name calls
    · obtain ⟨stamp, found⟩ := Index.lookup_of_document? (known.trans (if_pos ⟨dynamic, asked⟩))
      exact ⟨stamp, by rw [found]⟩
    · have unknown := Index.document?_eq_none_iff.mp (known.trans (if_neg fun both => asked both.2))
      exact ⟨index.nextStamp, by rw [Index.lookup_of_dynamic unknown (settings_eq ▸ dynamic)]⟩
  case same =>
    rintro name ask later asks elsewhere
    have first : index.call ask = (index.lookup name).2 := by rcases asks with rfl | rfl <;> rfl
    obtain ⟨settled, same⟩ := index.lookup_settles name
    have whole : index.after (ask :: later) = (index.lookup name).2.after later := congrArg (·.after later) first
    rw [whole, settled.lookup_after elsewhere, same]
  case replaced =>
    intro document old found
    have lower := sound.stamped _ (Entries.mem_of_get? found)
    exact ⟨index.nextStamp, by rw [Index.lookup_register], Nat.ne_of_gt lower⟩
  case refused =>
    intro name never strict
    have unknown : Entries.get? name index.registrations = none :=
      Index.document?_eq_none_iff.mp (by simp [known, never, strict])
    have refused := Index.lookup_of_strict unknown (settings_eq ▸ strict)
    exact ⟨_, refused, by simp [Index.putMapping, refused, Except.bind]⟩
  case names =>
    intro name
    rw [Index.mem_docTypes_iff, known, Option.isSome_or, Bool.or_eq_true, Index.latest?_isSome_iff,
      ← Index.asked_iff]
    simp

/-- A name asked for before it is registered and one that never is, on an index
that makes schema-less documents and on one that does not. -/
theorem registry_over_runs_posts :
    let post : Document := ⟨"post", false, [], [], [.new "title"], []⟩
    let calls : List Index.Call := [.lookup "post", .putMapping "tag", .register post]
    let loose := (Index.new (.named "blog")).after calls
    let strict := (Index.new ((IndexSettings.named "blog").withDynamicDocuments false)).after calls
    (∃ stamp, loose.lookup "post" = (.ok ⟨stamp, post⟩, loose)) ∧
      (∃ stamp, (loose.lookup "tag").1 = .ok ⟨stamp, .schemaless "tag"⟩) ∧
      ((loose.after [.putMapping "tag", .register post]).lookup "tag").1 = (loose.lookup "tag").1 ∧
      (∃ stamp, ((loose.register post).lookup "post").1 = .ok ⟨stamp, post⟩ ∧ stamp ≠ 2) ∧
      (∃ reason, strict.lookup "tag" = (.error (.validation reason), strict)) ∧
      "tag" ∈ loose.docTypes ∧ "tag" ∉ strict.docTypes := by
  intro post calls loose strict
  obtain ⟨-, latest, schemaless, same, replaced, -, -, names⟩ := registry_over_runs (.named "blog") calls
  obtain ⟨-, -, -, -, -, refused, -, strictNames⟩ :=
    registry_over_runs ((IndexSettings.named "blog").withDynamicDocuments false) calls
  obtain ⟨stamp, found, -⟩ := latest "post" post rfl
  obtain ⟨reason, refused, -⟩ := refused "tag" rfl rfl
  have elsewhere (document : Document) (mem : Index.Call.register document ∈ [.register post]) :
      document.docType ≠ "tag" := by
    cases List.mem_singleton.mp mem
    decide
  have unknown : "tag" ∉ strict.docTypes := by
    rw [strictNames]
    rintro (⟨document, mem, named⟩ | ⟨dynamic, -⟩)
    · have mem : Index.Call.register document ∈ [.register post] := by simpa [calls] using mem
      exact elsewhere document mem named
    · cases dynamic
  exact ⟨⟨stamp, found⟩, schemaless "tag" rfl rfl, same "tag" _ _ (.inr rfl) elsewhere,
    replaced post ⟨2, post⟩ rfl, ⟨reason, refused⟩,
    (names "tag").mpr (.inr ⟨rfl, .inr (by simp [calls])⟩), unknown⟩

end SearchWire
