import SearchWire.Entries

/-!
# Look-up in entries

What is found under a key, and which keys there are in which order, after each
operation on entries. Of distinct keys the two say all about the entries.
-/

namespace SearchWire

namespace Entries

variable {α β : Type} {key other : String} {value : α} {entries later : Entries α}

-- ---------------------------------------------------------------------------
-- Keys and members
-- ---------------------------------------------------------------------------

theorem get?_isSome_iff (key : String) (entries : Entries α) :
    (get? key entries).isSome ↔ key ∈ keys entries := by
  induction entries with
  | nil => simp [get?, keys]
  | cons entry rest ih =>
    obtain ⟨k, v⟩ := entry
    by_cases hk : k = key
    · simp [get?, keys, hk]
    · simp only [keys] at ih
      simp [get?, keys, hk, ih, Ne.symm hk]

theorem get?_eq_none_iff : get? key entries = none ↔ key ∉ keys entries := by
  rw [← get?_isSome_iff, Option.not_isSome_iff_eq_none]

theorem mem_keys_iff : key ∈ keys entries ↔ get? key entries ≠ none := by
  rw [← get?_isSome_iff, Option.isSome_iff_ne_none]

theorem mem_of_get? (found : get? key entries = some value) : (key, value) ∈ entries := by
  induction entries with
  | nil => cases found
  | cons entry rest ih =>
    obtain ⟨k, v⟩ := entry
    by_cases same : k = key
    · subst same
      obtain rfl : v = value := by simpa [get?] using found
      exact List.mem_cons_self
    · exact List.mem_cons_of_mem _ (ih (by simpa [get?, same] using found))

theorem get?_of_mem (distinct : Distinct entries) (mem : (key, value) ∈ entries) :
    get? key entries = some value := by
  induction entries with
  | nil => cases mem
  | cons entry rest ih =>
    obtain ⟨k, v⟩ := entry
    obtain ⟨fresh, distinct⟩ := List.nodup_cons.mp distinct
    rcases List.mem_cons.mp mem with same | mem
    · obtain ⟨rfl, rfl⟩ := Prod.mk.inj same
      simp [get?]
    · have other : k ≠ key := by
        rintro rfl
        exact fresh (List.mem_map.mpr ⟨_, mem, rfl⟩)
      simpa [get?, other] using ih distinct mem

theorem mem_iff_get? (distinct : Distinct entries) : (key, value) ∈ entries ↔ get? key entries = some value :=
  ⟨get?_of_mem distinct, mem_of_get?⟩

theorem forall_mem_iff_get? {p : α → Prop} (distinct : Distinct entries) :
    (∀ entry ∈ entries, p entry.2) ↔ ∀ key value, get? key entries = some value → p value := by
  constructor
  · intro all key value found
    exact all _ (mem_of_get? found)
  · rintro all ⟨key, value⟩ mem
    exact all key value (get?_of_mem distinct mem)

/-- A map is determined by its keys in their order and the values they have. -/
theorem eq_of_keys_eq {others : Entries α} (distinct : Distinct entries) (same : keys entries = keys others)
    (found : ∀ key, get? key entries = get? key others) : entries = others := by
  induction entries generalizing others with
  | nil => exact (List.map_eq_nil_iff.mp same.symm).symm
  | cons entry rest ih =>
    obtain ⟨k, v⟩ := entry
    obtain ⟨fresh, distinct⟩ := List.nodup_cons.mp distinct
    cases others with
    | nil => cases same
    | cons other rest' =>
      obtain ⟨k', v'⟩ := other
      obtain ⟨rfl, tail⟩ : k = k' ∧ keys rest = keys rest' := List.cons.inj same
      obtain rfl : v = v' := by simpa [get?] using found k
      refine congrArg _ (ih distinct tail fun key => ?_)
      by_cases first : k = key
      · subst first
        rw [get?_eq_none_iff.mpr fresh, get?_eq_none_iff.mpr (tail ▸ fresh)]
      · simpa [get?, first] using found key

-- ---------------------------------------------------------------------------
-- Operations on lists
-- ---------------------------------------------------------------------------

theorem keys_append (entries later : Entries α) : keys (entries ++ later) = keys entries ++ keys later :=
  List.map_append

theorem get?_append (key : String) (first second : Entries α) :
    get? key (first ++ second) = (get? key first).or (get? key second) := by
  induction first with
  | nil => rfl
  | cons entry rest ih =>
    obtain ⟨k, value⟩ := entry
    by_cases same : k = key <;> simp [get?, same, ih]

theorem keys_map (f : α → β) (entries : Entries α) :
    keys (entries.map fun entry => (entry.1, f entry.2)) = keys entries := by
  simp [keys]

theorem get?_map (f : α → β) (entries : Entries α) (key : String) :
    get? key (entries.map fun entry => (entry.1, f entry.2)) = (get? key entries).map f := by
  induction entries with
  | nil => rfl
  | cons entry rest ih =>
    by_cases same : entry.1 = key <;> simp [get?, same, ih]

theorem keys_reverse (entries : Entries α) : keys entries.reverse = (keys entries).reverse := List.map_reverse

theorem distinct_reverse (distinct : Distinct entries) : Distinct entries.reverse := by
  rw [Distinct, keys_reverse]
  exact (List.reverse_perm _).nodup_iff.mpr distinct

theorem get?_reverse (distinct : Distinct entries) (key : String) :
    get? key entries.reverse = get? key entries := by
  cases found : get? key entries with
  | none =>
    rw [get?_eq_none_iff] at found ⊢
    rwa [keys_reverse, List.mem_reverse]
  | some value =>
    exact get?_of_mem (distinct_reverse distinct) (List.mem_reverse.mpr (mem_of_get? found))

-- ---------------------------------------------------------------------------
-- Put
-- ---------------------------------------------------------------------------

theorem get?_put (key other : String) (value : α) (entries : Entries α) :
    get? other (put key value entries) = if key = other then some value else get? other entries := by
  induction entries with
  | nil => simp [put, get?]
  | cons entry rest ih =>
    obtain ⟨k, v⟩ := entry
    by_cases hk : k = key
    · subst hk
      by_cases ho : k = other <;> simp [put, get?, ho]
    · by_cases ho : k = other
      · subst ho
        simp [put, get?, hk, Ne.symm hk]
      · simp [put, get?, hk, ho, ih]

theorem mem_keys_put : other ∈ keys (put key value entries) ↔ other ∈ keys entries ∨ key = other := by
  rw [keys_put]
  by_cases present : key ∈ keys entries
  · rw [if_pos present]
    exact ⟨.inl, fun mem => mem.elim id fun same => same ▸ present⟩
  · rw [if_neg present, List.mem_append, List.mem_singleton, eq_comm]

theorem mem_put {entry : String × α} (mem : entry ∈ put key value entries) :
    entry = (key, value) ∨ entry ∈ entries := by
  induction entries with
  | nil => simpa [put] using mem
  | cons head rest ih =>
    obtain ⟨k, v⟩ := head
    rw [put] at mem
    split at mem <;> rcases List.mem_cons.mp mem with rfl | mem
    · exact .inl rfl
    · exact .inr (List.mem_cons_of_mem _ mem)
    · exact .inr List.mem_cons_self
    · exact (ih mem).imp_right (List.mem_cons_of_mem _)

theorem put_of_not_mem (fresh : key ∉ keys entries) : put key value entries = entries ++ [(key, value)] := by
  induction entries with
  | nil => rfl
  | cons entry rest ih =>
    obtain ⟨k, v⟩ := entry
    obtain ⟨other, fresh⟩ := not_or.mp (mt List.mem_cons.mpr fresh)
    rw [put, if_neg (Ne.symm other), ih fresh, List.cons_append]

theorem put_put (key : String) (first second : α) (entries : Entries α) :
    put key second (put key first entries) = put key second entries := by
  induction entries with
  | nil => simp [put]
  | cons entry rest ih =>
    obtain ⟨k, v⟩ := entry
    by_cases same : k = key <;> simp [put, same, ih]

theorem put_comm_of_mem {first second : α} (differ : key ≠ other) (mem : key ∈ keys entries) :
    put other second (put key first entries) = put key first (put other second entries) := by
  induction entries with
  | nil => cases mem
  | cons entry rest ih =>
    obtain ⟨k, v⟩ := entry
    by_cases here : k = key
    · subst here
      simp [put, differ]
    · have mem : key ∈ keys rest := (List.mem_cons.mp mem).resolve_left (Ne.symm here)
      by_cases there : k = other
      · subst there
        simp [put, here]
      · simp [put, here, there, ih mem]

theorem map_put (f : α → β) (key : String) (value : α) (entries : Entries α) :
    (put key value entries).map (fun entry => (entry.1, f entry.2)) =
      put key (f value) (entries.map fun entry => (entry.1, f entry.2)) := by
  induction entries with
  | nil => rfl
  | cons entry rest ih =>
    obtain ⟨k, v⟩ := entry
    by_cases same : k = key <;> simp [put, same, ih]

-- ---------------------------------------------------------------------------
-- Erase
-- ---------------------------------------------------------------------------

theorem get?_erase (distinct : Distinct entries) (key other : String) :
    get? other (erase key entries) = if key = other then none else get? other entries := by
  induction entries with
  | nil => simp [erase]
  | cons entry rest ih =>
    obtain ⟨k, v⟩ := entry
    obtain ⟨fresh, distinct⟩ := List.nodup_cons.mp distinct
    by_cases same : k = key
    · subst same
      rw [erase, if_pos rfl, get?]
      split
      · next asked => rw [← asked, get?_eq_none_iff.mpr fresh]
      · rfl
    · rw [erase, if_neg same, get?, get?, ih distinct]
      grind

-- ---------------------------------------------------------------------------
-- Merge
-- ---------------------------------------------------------------------------

theorem get?_merge (key : String) (entries later : Entries α) :
    get? key (merge entries later) = (get? key later.reverse).or (get? key entries) := by
  induction later generalizing entries with
  | nil => rfl
  | cons entry rest ih =>
    obtain ⟨k, value⟩ := entry
    rw [merge_cons, ih, get?_put, List.reverse_cons, get?_append, Option.or_assoc]
    by_cases same : k = key <;> simp [get?, same]

theorem get?_merge_of_distinct (distinct : Distinct later) (key : String) :
    get? key (merge entries later) = (get? key later).or (get? key entries) := by
  rw [get?_merge, get?_reverse distinct]

theorem mem_merge_iff (distinct : Distinct entries) :
    (key, value) ∈ merge entries later ↔
      get? key later.reverse = some value ∨ (key, value) ∈ entries ∧ key ∉ keys later := by
  rw [mem_iff_get? (distinct_merge distinct), get?_merge, Option.or_eq_some_iff, get?_eq_none_iff, keys_reverse,
    List.mem_reverse, mem_iff_get? distinct, and_comm (a := key ∉ keys later)]

/-- Keys that are there already keep their places, new ones go to the end. -/
theorem keys_merge (distinct : Distinct later) :
    keys (merge entries later) = keys entries ++ (keys later).filter (· ∉ keys entries) := by
  induction later generalizing entries with
  | nil => exact (List.append_nil _).symm
  | cons entry rest ih =>
    obtain ⟨key, value⟩ := entry
    obtain ⟨fresh, distinct⟩ := List.nodup_cons.mp distinct
    have cons : keys ((key, value) :: rest) = key :: keys rest := rfl
    rw [merge_cons, ih distinct, keys_put, cons, List.filter_cons]
    by_cases mem : key ∈ keys entries
    · simp [mem]
    · -- The first key now counts as there already, but it is not among the rest.
      have same : (keys rest).filter (· ∉ keys entries ++ [key]) = (keys rest).filter (· ∉ keys entries) := by
        refine List.filter_congr fun other inside => ?_
        have differs : other ≠ key := fun eq => fresh (eq ▸ inside)
        simp [differs]
      rw [if_neg mem, same, if_pos (by simpa using mem), List.append_assoc, List.singleton_append]

theorem merge_eq_append (distinct : Distinct (entries ++ later)) : merge entries later = entries ++ later := by
  induction later generalizing entries with
  | nil => exact (List.append_nil entries).symm
  | cons entry rest ih =>
    obtain ⟨key, value⟩ := entry
    have split : entries ++ (key, value) :: rest = (entries ++ [(key, value)]) ++ rest := by simp
    have fresh : key ∉ keys entries := by
      rw [Distinct, keys_append, List.nodup_append] at distinct
      exact fun mem => distinct.2.2 _ mem _ List.mem_cons_self rfl
    rw [merge_cons, put_of_not_mem fresh, split]
    exact ih (split ▸ distinct)

theorem merge_put_of_mem (mem : key ∈ keys entries) (again : key ∈ keys later) :
    merge (put key value entries) later = merge entries later := by
  induction later generalizing entries with
  | nil => cases again
  | cons entry rest ih =>
    obtain ⟨other, second⟩ := entry
    rw [merge_cons, merge_cons]
    by_cases same : key = other
    · rw [same, put_put]
    · -- Another key goes first, and the value is carried past it.
      have again : key ∈ keys rest := (List.mem_cons.mp again).resolve_left same
      rw [put_comm_of_mem same mem, ih (mem_keys_put.mpr (.inl mem)) again]

/-- The last entry matters to what is laid over it unless its key is put again. -/
theorem merge_append_single_inj {first second : α} (absent : key ∉ keys entries) :
    merge (entries ++ [(key, first)]) later = merge (entries ++ [(key, second)]) later ↔
      key ∈ keys later ∨ first = second := by
  constructor
  · intro same
    by_cases again : key ∈ keys later
    · exact .inl again
    · have unput : get? key later.reverse = none := by
        rwa [get?_eq_none_iff, keys_reverse, List.mem_reverse]
      have found := congrArg (get? key) same
      simp only [get?_merge, unput, get?_append, get?_eq_none_iff.mpr absent] at found
      exact .inr (by simpa [get?] using found)
  · rintro (again | rfl)
    · have replaced : put key first (entries ++ [(key, second)]) = entries ++ [(key, first)] := by
        rw [← put_of_not_mem absent, put_put, put_of_not_mem absent]
      rw [← replaced, merge_put_of_mem (by simp [keys]) again]
    · rfl

theorem map_merge (f : α → β) (entries later : Entries α) :
    (merge entries later).map (fun entry => (entry.1, f entry.2)) =
      merge (entries.map fun entry => (entry.1, f entry.2)) (later.map fun entry => (entry.1, f entry.2)) := by
  induction later generalizing entries with
  | nil => rfl
  | cons entry rest ih =>
    rw [merge_cons, ih, map_put, List.map_cons, merge_cons]

-- ---------------------------------------------------------------------------
-- Maps of pairs
-- ---------------------------------------------------------------------------

theorem ofPairs_eq_self {pairs : Entries α} (distinct : Distinct pairs) : ofPairs pairs = pairs :=
  merge_eq_append distinct

theorem ofPairs_eq_nil_iff {pairs : List (String × α)} : ofPairs pairs = [] ↔ pairs = [] := by
  constructor
  · intro empty
    cases pairs with
    | nil => rfl
    | cons entry rest =>
      have present : (get? entry.1 (ofPairs (entry :: rest))).isSome := by
        rw [ofPairs, get?_merge, get?_nil, Option.or_none, get?_isSome_iff, keys_reverse, List.mem_reverse]
        exact List.mem_cons_self
      rw [empty] at present
      cases present
  · rintro rfl
    rfl

theorem map_ofPairs (f : α → β) (pairs : List (String × α)) :
    (ofPairs pairs).map (fun entry => (entry.1, f entry.2)) =
      ofPairs (pairs.map fun entry => (entry.1, f entry.2)) := map_merge f [] pairs

end Entries

-- ---------------------------------------------------------------------------
-- Containers
-- ---------------------------------------------------------------------------

namespace Container

variable {α : Type} (container : Container α)

theorem keys_merge (later : Container α) :
    Entries.keys (container.merge later).entries = Entries.keys container.entries ++
      (Entries.keys later.entries).filter (· ∉ Entries.keys container.entries) := Entries.keys_merge later.distinct

theorem get?_merge (later : Container α) (key : String) :
    Entries.get? key (container.merge later).entries =
      (Entries.get? key later.entries).or (Entries.get? key container.entries) :=
  Entries.get?_merge_of_distinct later.distinct key

theorem merge_assoc (second third : Container α) :
    (container.merge second).merge third = container.merge (second.merge third) := by
  refine Container.ext (Entries.eq_of_keys_eq (merge _ third).distinct ?_ fun key => ?_)
  · rw [keys_merge, keys_merge, keys_merge, keys_merge, List.filter_append, List.filter_filter, List.append_assoc]
    congr 2
    refine List.filter_congr fun key _ => ?_
    by_cases mem : key ∈ Entries.keys container.entries <;> simp [mem]
  · rw [get?_merge, get?_merge, get?_merge, get?_merge, Option.or_assoc]

theorem merge_self : container.merge container = container := by
  refine Container.ext (Entries.eq_of_keys_eq (container.merge container).distinct ?_ fun key => ?_)
  · rw [keys_merge, List.filter_eq_nil_iff.mpr (by simp), List.append_nil]
  · rw [get?_merge, Option.or_self]

end Container

end SearchWire
