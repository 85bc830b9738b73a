import SearchWire.Error

/-!
# Written places

How a place in a body is written down, and when the text of a path is read
as that place: the path must leave no key out, and no point before a key may
be missing from its text.
-/

namespace SearchWire

namespace Path

-- ---------------------------------------------------------------------------
-- Written places
-- ---------------------------------------------------------------------------

def point : Path → List Char
  | .key _ :: _ => ['.']
  | _ => []

/-- Keys joined by points and positions in brackets, whatever the keys. -/
def writtenChars : Path → List Char
  | [] => []
  | step :: rest => stepChars step ++ (point rest ++ writtenChars rest)

def written (path : Path) : String := String.ofList (writtenChars path)

/-- The text of the path keeps the point before its first step. -/
def setsOff : Path → Bool
  | .key name :: rest =>
    match name.toList with
    | [] => !(point rest).isEmpty
    | first :: _ => first ≠ '['
  | _ => true

/-- No key but the first opens with a bracket, and none but the first is
empty unless another key follows. -/
def plain : Path → Bool
  | [] => true
  | _ :: rest => setsOff rest && plain rest

theorem eq_of_setOff_eq {text other : List Char} (h : setOff text = '.' :: other) : text = other := by
  unfold setOff at h
  split at h
  · exact absurd h (by simp)
  · exact absurd (List.cons.inj h).1 (by decide)
  · exact (List.cons.inj h).2

theorem setOff_written_iff {name : String} {more : Path} :
    setOff (writtenChars (.key name :: more)) = '.' :: writtenChars (.key name :: more) ↔
      setsOff (.key name :: more) := by
  cases named : name.toList with
  | nil =>
    rcases more with _ | ⟨_ | _, _⟩ <;>
      simp [writtenChars, stepChars, setOff, setsOff, point, named]
  | cons first others =>
    by_cases bracket : first = '[' <;>
      simp [writtenChars, stepChars, setOff, setsOff, named, bracket]

theorem chars_eq_written_iff (path : Path) : chars path = writtenChars path ↔ plain path := by
  induction path with
  | nil => simp [chars, writtenChars, plain]
  | cons step rest ih =>
    rw [chars, writtenChars, List.append_cancel_left_eq, plain, Bool.and_eq_true, ← ih]
    rcases rest with _ | ⟨name | position, more⟩
    · simp [chars, setOff, point, writtenChars, setsOff]
    · rw [← setOff_written_iff, point, List.singleton_append]
      constructor
      · intro h
        have same := eq_of_setOff_eq h
        exact ⟨same ▸ h, same⟩
      · rintro ⟨h, same⟩
        rw [same, h]
    · simp [chars, stepChars, setOff, point, setsOff]

theorem length_chars_le (path : Path) : (chars path).length ≤ (writtenChars path).length := by
  induction path with
  | nil => exact Nat.le_refl 0
  | cons step rest ih =>
    have le : (setOff (chars rest)).length ≤ (point rest).length + (writtenChars rest).length := by
      rcases rest with _ | ⟨name | position, more⟩
      · exact Nat.le_refl 0
      · unfold setOff
        split <;> simp_all [point] <;> omega
      · simpa [chars, stepChars, setOff, point] using ih
    simp only [chars, writtenChars, List.length_append]
    omega

-- ---------------------------------------------------------------------------
-- Paths that leave out keys
-- ---------------------------------------------------------------------------

/-- The first path is the second without some of its keys, none of them an
empty one that no key follows. -/
inductive Abridges : Path → Path → Prop where
  | nil : Abridges [] []
  | keep (step : Step) {short full : Path} : Abridges short full → Abridges (step :: short) (step :: full)
  | drop {name : String} {short full : Path} :
    name ≠ "" ∨ point full ≠ [] → Abridges short full → Abridges short (.key name :: full)

namespace Abridges

theorem refl : (path : Path) → Abridges path path
  | [] => .nil
  | step :: rest => .keep step (refl rest)

theorem append {short full short' full' : Path} (front : Abridges short full) (back : Abridges short' full') :
    Abridges (short ++ short') (full ++ full') := by
  induction front with
  | nil => exact back
  | keep step _ ih => exact .keep step ih
  | @drop name _ full cause _ ih =>
    refine .drop (cause.imp_right fun pointed => ?_) ih
    rcases full with _ | ⟨_ | _, _⟩ <;> simp_all [point]

theorem point_le {short full : Path} (h : Abridges short full) : (point short).length ≤ (point full).length := by
  induction h with
  | nil => exact Nat.le_refl 0
  | keep step => cases step <;> exact Nat.le_refl _
  | @drop name short full _ _ ih =>
    have : (point full).length ≤ 1 := by rcases full with _ | ⟨_ | _, _⟩ <;> simp [point]
    exact Nat.le_trans ih this

theorem eq_or_lt {short full : Path} (h : Abridges short full) :
    short = full ∨ short.length < full.length ∧ (writtenChars short).length < (writtenChars full).length := by
  induction h with
  | nil => exact .inl rfl
  | keep step rest ih =>
    refine ih.imp (congrArg _) fun lt => ⟨Nat.succ_lt_succ lt.1, ?_⟩
    have := rest.point_le
    simp only [writtenChars, List.length_append]
    omega
  | @drop name short full cause rest ih =>
    have length : 0 < name.toList.length + (point full).length := by
      rcases cause with named | pointed
      · have : name.toList ≠ [] := by simpa using named
        have := List.length_pos_iff.mpr this
        omega
      · have := List.length_pos_iff.mpr pointed
        omega
    refine .inr ?_
    have le : short.length ≤ full.length ∧ (writtenChars short).length ≤ (writtenChars full).length := by
      rcases ih with rfl | lt
      · exact ⟨Nat.le_refl _, Nat.le_refl _⟩
      · exact ⟨Nat.le_of_lt lt.1, Nat.le_of_lt lt.2⟩
    simp only [writtenChars, stepChars, List.length_cons, List.length_append]
    omega

theorem append_eq_append_iff {short full short' full' : Path} (front : Abridges short full)
    (back : Abridges short' full') : short ++ short' = full ++ full' ↔ short = full ∧ short' = full' := by
  refine ⟨fun eq => ?_, fun ⟨first, second⟩ => first ▸ second ▸ rfl⟩
  have length := congrArg List.length eq
  simp only [List.length_append] at length
  rcases front.eq_or_lt with rfl | lt
  · exact ⟨rfl, List.append_cancel_left eq⟩
  · rcases back.eq_or_lt with rfl | lt'
    · exact ⟨List.append_cancel_right eq, rfl⟩
    · omega

end Abridges

/-- A path is read as a place exactly if it leaves no key out and every
point is kept. -/
theorem text_eq_written_iff {short full : Path} (h : Abridges short full) :
    text short = written full ↔ short = full ∧ plain full := by
  rw [text, written, String.ofList_inj, ← chars_eq_written_iff]
  constructor
  · intro eq
    rcases h.eq_or_lt with rfl | lt
    · exact ⟨rfl, eq⟩
    · have := length_chars_le short
      rw [eq] at this
      omega
  · rintro ⟨rfl, eq⟩
    exact eq

end Path

end SearchWire
