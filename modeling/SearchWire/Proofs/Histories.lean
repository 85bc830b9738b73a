import Mathlib.Data.List.Induction
import Mathlib.Data.Nat.Find
import SearchWire.Proofs.Precedence
import SearchWire.Query.Params

/-!
# Histories of parameters

A container of parameters is made by calls that write values under keys and take
keys away, and a merge writes all that another container holds. A write is live as
long as its key is not taken away. The first live write of a key decides its
place among the others, and the last one its value.
-/

namespace SearchWire

namespace Params

-- ---------------------------------------------------------------------------
-- Writes and removals
-- ---------------------------------------------------------------------------

inductive Event where
  | write (key : String) (value : Expr)
  | drop (key : String)

/-- The write at a position of a history, if the key is not taken away behind it. -/
def Live (history : List Event) (key : String) (position : Nat) (value : Expr) : Prop :=
  history[position]? = some (.write key value) ∧ ∀ later > position, history[later]? ≠ some (.drop key)

/-- The key was first written at a position since it was last taken away. -/
def Entered (history : List Event) (key : String) (position : Nat) : Prop :=
  (∃ value, Live history key position value) ∧ ∀ other value, Live history key other value → position ≤ other

/-- The value was written last since the key was last taken away. -/
def Held (history : List Event) (key : String) (value : Expr) : Prop :=
  ∃ position, Live history key position value ∧ ∀ other old, Live history key other old → other ≤ position

section
variable {history : List Event} {key : String} {position : Nat} {value : Expr}

theorem Live.lt (live : Live history key position value) : position < history.length :=
  (List.getElem?_eq_some_iff.mp live.1).1

theorem live_snoc {event : Event} : Live (history ++ [event]) key position value ↔
    Live history key position value ∧ event ≠ .drop key ∨ position = history.length ∧ event = .write key value := by
  have at_iff (place : Nat) (found : Event) : (history ++ [event])[place]? = some found ↔
      history[place]? = some found ∨ place = history.length ∧ event = found := by grind
  unfold Live
  simp only [ne_eq, at_iff, not_or]
  constructor
  · rintro ⟨write | write, kept⟩
    · have inside := (List.getElem?_eq_some_iff.mp write).1
      exact .inl ⟨⟨write, fun later behind => (kept later behind).1⟩, fun dropped => (kept _ inside).2 ⟨rfl, dropped⟩⟩
    · exact .inr write
  · rintro (⟨⟨write, kept⟩, other⟩ | ⟨rfl, written⟩)
    · exact ⟨.inl write, fun later behind => ⟨kept later behind, fun dropped => other dropped.2⟩⟩
    · exact ⟨.inr ⟨rfl, written⟩, fun later behind => ⟨by grind, fun dropped => Nat.ne_of_gt behind dropped.1⟩⟩

theorem exists_entered_iff :
    (∃ position, Entered history key position) ↔ ∃ position value, Live history key position value := by
  classical
  constructor
  · rintro ⟨position, live, -⟩
    exact ⟨position, live⟩
  · intro written
    exact ⟨Nat.find written, Nat.find_spec written, fun other value live => Nat.find_min' written ⟨value, live⟩⟩

section
variable {written dropped : String} {new : Expr}

theorem live_snoc_write : Live (history ++ [.write written new]) key position value ↔
    Live history key position value ∨ position = history.length ∧ written = key ∧ new = value := by
  simp [live_snoc]

theorem live_snoc_drop : Live (history ++ [.drop dropped]) key position value ↔
    Live history key position value ∧ dropped ≠ key := by
  simp [live_snoc]

theorem entered_snoc_write : Entered (history ++ [.write written new]) key position ↔
    Entered history key position ∨
      position = history.length ∧ written = key ∧ ∀ other old, ¬Live history key other old := by
  simp only [Entered, live_snoc_write]
  constructor
  · rintro ⟨⟨value, live | ⟨rfl, rfl, -⟩⟩, first⟩
    · exact .inl ⟨⟨value, live⟩, fun other old live => first other old (.inl live)⟩
    · exact .inr ⟨rfl, rfl, fun other old live => absurd (first other old (.inl live)) (Nat.not_le.mpr live.lt)⟩
  · rintro (⟨⟨value, live⟩, first⟩ | ⟨rfl, rfl, none⟩)
    · refine ⟨⟨value, .inl live⟩, ?_⟩
      rintro other old (live' | ⟨rfl, -⟩)
      · exact first other old live'
      · exact Nat.le_of_lt live.lt
    · refine ⟨⟨new, .inr ⟨rfl, rfl, rfl⟩⟩, ?_⟩
      rintro other old (live' | ⟨rfl, -⟩)
      · exact absurd live' (none other old)
      · exact Nat.le_refl _

theorem entered_snoc_drop : Entered (history ++ [.drop dropped]) key position ↔
    Entered history key position ∧ dropped ≠ key := by
  simp only [Entered, live_snoc_drop]
  grind

theorem held_snoc_write : Held (history ++ [.write written new]) key value ↔
    if written = key then new = value else Held history key value := by
  simp only [Held, live_snoc_write]
  split
  · next same =>
    constructor
    · rintro ⟨position, live | ⟨-, -, rfl⟩, last⟩
      · exact absurd (last _ new (.inr ⟨rfl, same, rfl⟩)) (Nat.not_le.mpr live.lt)
      · rfl
    · rintro rfl
      refine ⟨history.length, .inr ⟨rfl, same, rfl⟩, ?_⟩
      rintro other old (live | ⟨rfl, -⟩)
      · exact Nat.le_of_lt live.lt
      · exact Nat.le_refl _
  · next other => simp [other]

theorem held_snoc_drop : Held (history ++ [.drop dropped]) key value ↔ Held history key value ∧ dropped ≠ key := by
  simp only [Held, live_snoc_drop]
  grind

end

end

-- ---------------------------------------------------------------------------
-- Histories that are replayed
-- ---------------------------------------------------------------------------

def record (entries : Entries Expr) : Event → Entries Expr
  | .write key value => Entries.put key value entries
  | .drop key => Entries.erase key entries

/-- What a container holds whose history is given. -/
structure Follows (history : List Event) (entries : Entries Expr) : Prop where
  distinct : (Entries.keys entries).Nodup
  entered : ∀ key, key ∈ Entries.keys entries ↔ ∃ position, Entered history key position
  ordered : (Entries.keys entries).Pairwise fun key other =>
    ∀ place place', Entered history key place → Entered history other place' → place < place'
  held : ∀ key value, Entries.get? key entries = some value ↔ Held history key value

namespace Follows

variable {history : List Event} {entries : Entries Expr}

theorem write (follows : Follows history entries) (written : String) (new : Expr) :
    Follows (history ++ [.write written new]) (Entries.put written new entries) := by
  have old {key : String} (mem : key ∈ Entries.keys entries) {place : Nat}
      (entered : Entered (history ++ [.write written new]) key place) : Entered history key place := by
    refine (entered_snoc_write.mp entered).resolve_right fun ⟨_, _, unwritten⟩ => ?_
    obtain ⟨other, value, live⟩ := exists_entered_iff.mp ((follows.entered key).mp mem)
    exact unwritten other value live
  have before : (Entries.keys entries).Pairwise fun key other => ∀ place place',
      Entered (history ++ [.write written new]) key place →
        Entered (history ++ [.write written new]) other place' → place < place' :=
    follows.ordered.imp_of_mem fun mem mem' ordered place place' entered entered' =>
      ordered place place' (old mem entered) (old mem' entered')
  constructor
  case distinct => exact Entries.distinct_put follows.distinct
  case entered =>
    intro key
    rw [Entries.mem_keys_put, follows.entered, exists_entered_iff, exists_entered_iff]
    simp only [live_snoc_write]
    grind
  case ordered =>
    rw [Entries.keys_put]
    split
    · exact before
    · next fresh =>
      -- The new key stands last, and is entered last.
      refine List.pairwise_append.mpr ⟨before, List.pairwise_singleton .., fun key mem other single place place' => ?_⟩
      intro entered entered'
      obtain rfl := List.mem_singleton.mp single
      obtain ⟨⟨_, live⟩, -⟩ := old mem entered
      rcases entered_snoc_write.mp entered' with entered' | ⟨rfl, -⟩
      · exact absurd ((follows.entered _).mpr ⟨_, entered'⟩) fresh
      · exact live.lt
  case held =>
    intro key value
    rw [Entries.get?_put, held_snoc_write]
    split
    · exact Option.some_inj
    · exact follows.held key value

theorem drop (follows : Follows history entries) (dropped : String) :
    Follows (history ++ [.drop dropped]) (Entries.erase dropped entries) := by
  constructor
  case distinct => exact Entries.distinct_erase follows.distinct
  case entered =>
    intro key
    rw [Entries.keys_erase, follows.distinct.mem_erase_iff, follows.entered]
    simp only [entered_snoc_drop]
    grind
  case ordered =>
    rw [Entries.keys_erase]
    refine (follows.ordered.sublist List.erase_sublist).imp fun ordered place place' entered entered' => ?_
    exact ordered place place' (entered_snoc_drop.mp entered).1 (entered_snoc_drop.mp entered').1
  case held =>
    intro key value
    rw [Entries.get?_erase follows.distinct, held_snoc_drop, ← follows.held]
    split <;> simp_all

theorem nil : Follows [] [] where
  distinct := .nil
  entered key := by simp [Entered, Live, Entries.keys]
  ordered := .nil
  held key value := by simp [Held, Live]

end Follows

theorem follows_replayed (history : List Event) : Follows history (history.foldl record []) := by
  induction history using List.reverseRecOn with
  | nil => exact .nil
  | append_singleton history event ih =>
    rw [List.foldl_append, List.foldl_cons, List.foldl_nil]
    cases event with
    | write key value => exact ih.write key value
    | drop key => exact ih.drop key

-- ---------------------------------------------------------------------------
-- Runs
-- ---------------------------------------------------------------------------

/-- Calls that make a container, with those that make the containers it merges. -/
inductive Run where
  | new
  | collect (pairs : List (String × Expr))
  | insert (run : Run) (key : String) (value : Expr)
  | merge (run other : Run)
  | extend (run : Run) (pairs : List (String × Expr))
  | remove (run : Run) (key : String)

namespace Run

def params : Run → Params
  | new => .empty
  | collect pairs => .ofPairs pairs
  | insert run key value => (Params.insert key value run.params).2
  | merge run other => run.params.merge other.params
  | extend run pairs => run.params.extend pairs
  | remove run key => (Params.remove key run.params).2

def writes (pairs : List (String × Expr)) : List Event := pairs.map fun pair => .write pair.1 pair.2

/-- What the calls write and take away. A merge writes what the other container
holds by then, in its order. -/
def history : Run → List Event
  | new => []
  | collect pairs => writes pairs
  | insert run key value => run.history ++ [.write key value]
  | merge run other => run.history ++ writes other.params.entries
  | extend run pairs => run.history ++ writes pairs
  | remove run key => run.history ++ [.drop key]

theorem foldl_record_writes (entries : Entries Expr) (pairs : List (String × Expr)) :
    (writes pairs).foldl record entries = Entries.merge entries pairs := List.foldl_map

theorem foldl_record_history (run : Run) : run.history.foldl record [] = run.params.entries := by
  induction run with
  | new => rfl
  | collect pairs => exact foldl_record_writes [] pairs
  | insert run key value ih =>
    rw [history, List.foldl_append, ih, params, insert_eq]
    rfl
  | merge run other ih =>
    rw [history, List.foldl_append, ih, foldl_record_writes]
    rfl
  | extend run pairs ih => rw [history, List.foldl_append, ih, foldl_record_writes, params, entries_extend]
  | remove run key ih =>
    rw [history, List.foldl_append, ih, params, remove_eq]
    rfl

theorem follows (run : Run) : Follows run.history run.params.entries :=
  foldl_record_history run ▸ follows_replayed run.history

end Run

structure Consistent (entries : Entries Expr) : Prop where
  length : entries.length = (Entries.keys entries).length
  isEmpty : entries.isEmpty = true ↔ Entries.keys entries = []
  contains : ∀ key, Entries.contains key entries = true ↔ key ∈ Entries.keys entries
  members : ∀ key value, (key, value) ∈ entries ↔ Entries.get? key entries = some value

theorem Follows.consistent {history : List Event} {entries : Entries Expr} (follows : Follows history entries) :
    Consistent entries where
  length := by rw [Entries.keys, List.length_map]
  isEmpty := by rw [List.isEmpty_iff, Entries.keys, List.map_eq_nil_iff]
  contains key := Entries.get?_isSome_iff key entries
  members _ _ := Entries.mem_iff_get? follows.distinct

end Params

/-- Whatever calls have made a container of parameters, its keys are distinct and
stand in the order of their first writes since they were last taken away, and each
has the value that was written last. Putting a value and taking a parameter away
answer with the value that was held, and what is taken away leaves the others as
they were. A merge appends the new keys and prefers the values of the second
container, and so it is associative and idempotent. -/
theorem params_follow_history (run : Params.Run) :
    Params.Follows run.history run.params.entries ∧ Params.Consistent run.params.entries ∧
    (∀ key value old, (Params.insert key value run.params).1 = some old ↔ Params.Held run.history key old) ∧
    (∀ key old, (Params.remove key run.params).1 = some old ↔ Params.Held run.history key old) ∧
    (∀ key, Entries.keys (run.remove key).params.entries = (Entries.keys run.params.entries).filter (· ≠ key) ∧
      ∀ other, Entries.get? other (run.remove key).params.entries =
        if key = other then none else Entries.get? other run.params.entries) ∧
    ∀ other third : Params.Run,
      Entries.keys (run.merge other).params.entries =
        Entries.keys run.params.entries ++
          (Entries.keys other.params.entries).filter (· ∉ Entries.keys run.params.entries) ∧
      (∀ key, Entries.get? key (run.merge other).params.entries =
        (Entries.get? key other.params.entries).or (Entries.get? key run.params.entries)) ∧
      ((run.merge other).merge third).params = (run.merge (other.merge third)).params ∧
      (run.merge run).params = run.params := by
  have follows := run.follows
  refine ⟨follows, follows.consistent, fun key value old => ?_, fun key old => ?_, fun key => ⟨?_, fun other => ?_⟩,
    fun other third => ⟨?_, fun key => ?_, ?_, ?_⟩⟩
  · rw [Params.insert_eq]
    exact follows.held key old
  · rw [Params.remove_eq]
    exact follows.held key old
  · rw [Params.Run.params, Params.remove_eq, Container.erase, Entries.keys_erase, follows.distinct.erase_eq_filter]
    refine List.filter_congr fun other _ => ?_
    rw [Bool.eq_iff_iff]
    simp
  · rw [Params.Run.params, Params.remove_eq, Container.erase, Entries.get?_erase follows.distinct]
  · exact run.params.keys_merge other.params
  · exact run.params.get?_merge other.params key
  · exact run.params.merge_assoc other.params third.params
  · exact run.params.merge_self

example (a b : Expr) :
    let run := (((Params.Run.collect [("x", a), ("y", b), ("z", a), ("y", a)]).remove "x").insert "x" b).insert "z" b
    run.params.entries = [("y", a), ("z", b), ("x", b)] := rfl

end SearchWire
