/-!
# Named values in insertion order

A list of pairs read as a map: a new key goes to the end, a key that is
already present keeps its place and takes the new value. JSON objects,
parameters, aggregations and typed sub-fields are all of this kind. Containers
are such lists that hold no key twice.
-/

namespace SearchWire

abbrev Entries (α : Type) := List (String × α)

namespace Entries

variable {α : Type} {key : String} {value : α} {entries later : Entries α}

def get? (key : String) : Entries α → Option α
  | [] => none
  | (k, v) :: rest => if k = key then some v else get? key rest

def contains (key : String) (entries : Entries α) : Bool := (get? key entries).isSome

def keys (entries : Entries α) : List String := entries.map (·.1)

def put (key : String) (value : α) : Entries α → Entries α
  | [] => [(key, value)]
  | (k, v) :: rest => if k = key then (key, value) :: rest else (k, v) :: put key value rest

/-- The first entry of the key is taken out; of distinct keys there is no other. -/
def erase (key : String) : Entries α → Entries α
  | [] => []
  | (k, v) :: rest => if k = key then rest else (k, v) :: erase key rest

/-- Put a value, and answer with the one that the key had. -/
def insert (key : String) (value : α) : Entries α → Option α × Entries α
  | [] => (none, [(key, value)])
  | (k, v) :: rest =>
    if k = key then (some v, (key, value) :: rest)
    else
      let (old, rest) := insert key value rest
      (old, (k, v) :: rest)

def remove (key : String) : Entries α → Option α × Entries α
  | [] => (none, [])
  | (k, v) :: rest =>
    if k = key then (some v, rest)
    else
      let (old, rest) := remove key rest
      (old, (k, v) :: rest)

/-- Put the later entries one by one, so that their values win on shared keys. -/
def merge (entries later : Entries α) : Entries α :=
  later.foldl (fun acc entry => put entry.1 entry.2 acc) entries

def ofPairs (pairs : List (String × α)) : Entries α := merge [] pairs

def Distinct (entries : Entries α) : Prop := (keys entries).Nodup

instance : Decidable (Distinct entries) := inferInstanceAs (Decidable (keys entries).Nodup)

@[simp] theorem get?_nil (key : String) : get? key ([] : Entries α) = none := rfl

theorem merge_cons (key : String) (value : α) (entries later : Entries α) :
    merge entries ((key, value) :: later) = merge (put key value entries) later := rfl

theorem insert_eq (key : String) (value : α) (entries : Entries α) :
    insert key value entries = (get? key entries, put key value entries) := by
  induction entries with
  | nil => rfl
  | cons entry rest ih =>
    obtain ⟨k, v⟩ := entry
    by_cases same : k = key <;> simp [insert, get?, put, same, ih]

theorem remove_eq (key : String) (entries : Entries α) :
    remove key entries = (get? key entries, erase key entries) := by
  induction entries with
  | nil => rfl
  | cons entry rest ih =>
    obtain ⟨k, v⟩ := entry
    by_cases same : k = key <;> simp [remove, get?, erase, same, ih]

theorem keys_put (key : String) (value : α) (entries : Entries α) :
    keys (put key value entries) =
      if key ∈ keys entries then keys entries else keys entries ++ [key] := by
  induction entries with
  | nil => simp [put, keys]
  | cons entry rest ih =>
    obtain ⟨k, v⟩ := entry
    by_cases hk : k = key
    · simp [put, keys, hk]
    · by_cases hm : key ∈ keys rest
      · rw [if_pos hm] at ih
        simp_all [put, keys]
      · rw [if_neg hm] at ih
        simp_all [put, keys, Ne.symm hk]

theorem keys_erase (key : String) (entries : Entries α) : keys (erase key entries) = (keys entries).erase key := by
  induction entries with
  | nil => rfl
  | cons entry rest ih =>
    obtain ⟨k, v⟩ := entry
    have cons (rest : Entries α) : keys ((k, v) :: rest) = k :: keys rest := rfl
    by_cases same : k = key
    · rw [erase, if_pos same, cons, same, List.erase_cons_head]
    · rw [erase, if_neg same, cons, cons, ih, List.erase_cons_tail (by simpa using same)]

theorem distinct_put (distinct : Distinct entries) : Distinct (put key value entries) := by
  unfold Distinct at *
  rw [keys_put]
  split
  · exact distinct
  · next fresh =>
    rw [List.nodup_append]
    refine ⟨distinct, by simp, ?_⟩
    intro other mem added single same
    simp only [List.mem_singleton] at single
    exact fresh (single ▸ same ▸ mem)

theorem distinct_erase (distinct : Distinct entries) : Distinct (erase key entries) := by
  rw [Distinct, keys_erase]
  exact distinct.erase key

theorem distinct_insert (distinct : Distinct entries) : Distinct (insert key value entries).2 := by
  rw [insert_eq]
  exact distinct_put distinct

theorem distinct_remove (distinct : Distinct entries) : Distinct (remove key entries).2 := by
  rw [remove_eq]
  exact distinct_erase distinct

theorem distinct_merge (distinct : Distinct entries) : Distinct (merge entries later) := by
  induction later generalizing entries with
  | nil => exact distinct
  | cons entry rest ih => exact ih (distinct_put distinct)

theorem distinct_ofPairs (pairs : List (String × α)) : Distinct (ofPairs pairs) :=
  distinct_merge List.nodup_nil

end Entries

-- ---------------------------------------------------------------------------
-- Containers
-- ---------------------------------------------------------------------------

/-- Entries that hold no key twice. -/
@[ext]
structure Container (α : Type) where
  entries : Entries α
  distinct : entries.Distinct

namespace Container

variable {α : Type}

def empty : Container α := ⟨[], List.nodup_nil⟩

def put (key : String) (value : α) (container : Container α) : Container α :=
  ⟨Entries.put key value container.entries, Entries.distinct_put container.distinct⟩

def erase (key : String) (container : Container α) : Container α :=
  ⟨Entries.erase key container.entries, Entries.distinct_erase container.distinct⟩

def merge (container later : Container α) : Container α :=
  ⟨Entries.merge container.entries later.entries, Entries.distinct_merge container.distinct⟩

def ofPairs (pairs : List (String × α)) : Container α := ⟨Entries.ofPairs pairs, Entries.distinct_ofPairs pairs⟩

end Container

end SearchWire
