import Mathlib.Data.List.Forall2
import Mathlib.Data.List.Perm.Subperm
import SearchWire.Proofs.Checks
import SearchWire.Proofs.Place

/-!
# Alike up to the order of entries

Entries are alike when they give related values to the same keys, in any
order. Whatever is put together from alike entries is alike again, and objects
of alike members are equal as JSON. Two computations are alike when both give
related values or both fail.
-/

namespace SearchWire

-- ---------------------------------------------------------------------------
-- Entries
-- ---------------------------------------------------------------------------

namespace Entries

variable {α β : Type}

/-- The same keys in the same order, with related values. -/
def Aligned (r : α → β → Prop) : Entries α → Entries β → Prop :=
  List.Forall₂ fun first second => first.1 = second.1 ∧ r first.2 second.2

/-- No key twice and the same keys in any order, with related values. -/
structure Alike (r : α → β → Prop) (first : Entries α) (second : Entries β) : Prop where
  left : Distinct first
  right : Distinct second
  found : ∀ key, Option.Rel r (get? key first) (get? key second)

variable {r : α → β → Prop} {first : Entries α} {second : Entries β}

namespace Aligned

theorem keys_eq (aligned : Aligned r first second) : keys first = keys second := by
  induction aligned with
  | nil => rfl
  | cons entry _ ih => exact congrArg₂ _ entry.1 ih

theorem found (aligned : Aligned r first second) (key : String) :
    Option.Rel r (get? key first) (get? key second) := by
  induction aligned with
  | nil => exact .none
  | @cons entry other _ _ related _ ih =>
    obtain ⟨k, value⟩ := entry
    obtain ⟨_, otherValue⟩ := other
    obtain ⟨rfl, related⟩ := related
    by_cases same : k = key
    · simpa [get?, same] using related
    · simpa [get?, same] using ih

theorem reverse (aligned : Aligned r first second) : Aligned r first.reverse second.reverse :=
  List.rel_reverse aligned

theorem append {first' : Entries α} {second' : Entries β} (aligned : Aligned r first second)
    (aligned' : Aligned r first' second') : Aligned r (first ++ first') (second ++ second') :=
  List.rel_append aligned aligned'

theorem single {value : α} {other : β} (key : String) (related : r value other) :
    Aligned r [(key, value)] [(key, other)] :=
  .cons ⟨rfl, related⟩ .nil

theorem put {value : α} {other : β} (aligned : Aligned r first second) (key : String) (related : r value other) :
    Aligned r (put key value first) (put key other second) := by
  induction aligned with
  | nil => exact single key related
  | @cons entry entry' _ _ same rest ih =>
    obtain ⟨k, v⟩ := entry
    obtain ⟨_, v'⟩ := entry'
    obtain ⟨rfl, values⟩ := same
    by_cases here : k = key
    · rw [Entries.put, Entries.put, if_pos here, if_pos here]
      exact .cons ⟨rfl, related⟩ rest
    · rw [Entries.put, Entries.put, if_neg here, if_neg here]
      exact .cons ⟨rfl, values⟩ ih

theorem merge {later : Entries α} {later' : Entries β} (aligned : Aligned r first second)
    (aligned' : Aligned r later later') : Aligned r (merge first later) (merge second later') := by
  induction aligned' generalizing first second with
  | nil => exact aligned
  | @cons entry entry' _ _ same _ ih =>
    obtain ⟨key, value⟩ := entry
    obtain ⟨_, value'⟩ := entry'
    obtain ⟨rfl, related⟩ := same
    exact ih (aligned.put key related)

theorem alike (aligned : Aligned r first second) (distinct : Distinct first) : Alike r first second :=
  ⟨distinct, by rwa [Distinct, ← aligned.keys_eq], aligned.found⟩

end Aligned

namespace Alike

theorem nil : Alike r [] [] := ⟨List.nodup_nil, List.nodup_nil, fun _ => .none⟩

theorem single {value : α} {other : β} (key : String) (related : r value other) :
    Alike r [(key, value)] [(key, other)] :=
  (Aligned.single key related).alike (List.pairwise_singleton _ key)

theorem imp {s : α → β → Prop} (alike : Alike r first second)
    (weaker : ∀ value other, r value other → s value other) : Alike s first second := by
  refine ⟨alike.left, alike.right, fun key => ?_⟩
  have found := alike.found key
  generalize get? key first = value, get? key second = other at found ⊢
  cases found with
  | none => exact .none
  | some related => exact .some (weaker _ _ related)

theorem of_found (distinct : Distinct first) (length : first.length = second.length)
    (related : ∀ entry ∈ first, ∃ value, get? entry.1 second = some value ∧ r entry.2 value) :
    Alike r first second := by
  have subset : keys first ⊆ keys second := by
    intro key mem
    obtain ⟨entry, inside, rfl⟩ := List.mem_map.mp mem
    obtain ⟨value, found, -⟩ := related entry inside
    rw [← get?_isSome_iff, found]
    rfl
  have perm : (keys first).Perm (keys second) :=
    (List.subperm_of_subset distinct subset).perm_of_length_le (by simp [keys, length])
  refine ⟨distinct, perm.nodup_iff.mp distinct, fun key => ?_⟩
  cases found : get? key first with
  | none =>
    have absent : get? key second = none := by
      rw [get?_eq_none_iff] at found ⊢
      exact fun mem => found (perm.mem_iff.mpr mem)
    rw [absent]
    exact .none
  | some value =>
    obtain ⟨other, found, related⟩ := related _ (mem_of_get? found)
    rw [found]
    exact .some related

theorem length_eq (alike : Alike r first second) : first.length = second.length := by
  have perm : (keys first).Perm (keys second) := by
    refine (List.perm_ext_iff_of_nodup alike.left alike.right).mpr fun key => ?_
    rw [← get?_isSome_iff, ← get?_isSome_iff]
    have found := alike.found key
    generalize get? key first = value, get? key second = other at found ⊢
    cases found <;> simp
  simpa [keys] using perm.length_eq

theorem isEmpty_eq (alike : Alike r first second) : first.isEmpty = second.isEmpty := by
  rw [Bool.eq_iff_iff, List.isEmpty_iff_length_eq_zero, List.isEmpty_iff_length_eq_zero, alike.length_eq]

theorem forall_mem_iff {p : α → Prop} {q : β → Prop} (alike : Alike r first second)
    (iff : ∀ value other, r value other → (p value ↔ q other)) :
    (∀ entry ∈ first, p entry.2) ↔ ∀ entry ∈ second, q entry.2 := by
  rw [forall_mem_iff_get? alike.left, forall_mem_iff_get? alike.right]
  refine forall_congr' fun key => ?_
  have found := alike.found key
  generalize get? key first = value, get? key second = other at found ⊢
  cases found with
  | none => simp
  | some related => simpa using iff _ _ related

theorem reverse (alike : Alike r first second) : Alike r first.reverse second.reverse := by
  refine ⟨distinct_reverse alike.left, distinct_reverse alike.right, fun key => ?_⟩
  rw [get?_reverse alike.left, get?_reverse alike.right]
  exact alike.found key

theorem put {value : α} {other : β} (alike : Alike r first second) (key : String)
    (related : r value other) : Alike r (put key value first) (put key other second) := by
  refine ⟨distinct_put alike.left, distinct_put alike.right, fun name => ?_⟩
  rw [get?_put, get?_put]
  by_cases same : key = name
  · rw [if_pos same, if_pos same]
    exact .some related
  · rw [if_neg same, if_neg same]
    exact alike.found name

theorem map {γ δ : Type} {s : γ → δ → Prop} {f : α → γ} {g : β → δ} (alike : Alike r first second)
    (related : ∀ value other, r value other → s (f value) (g other)) :
    Alike s (first.map fun entry => (entry.1, f entry.2)) (second.map fun entry => (entry.1, g entry.2)) := by
  refine ⟨?_, ?_, fun key => ?_⟩
  · rw [Distinct, keys_map]
    exact alike.left
  · rw [Distinct, keys_map]
    exact alike.right
  · have found := alike.found key
    rw [get?_map, get?_map]
    generalize get? key first = value, get? key second = other at found ⊢
    cases found with
    | none => exact .none
    | some value => exact .some (related _ _ value)

theorem merge {later : Entries α} {later' : Entries β} (alike : Alike r first second)
    (found : ∀ key, Option.Rel r (get? key later.reverse) (get? key later'.reverse)) :
    Alike r (merge first later) (merge second later') := by
  refine ⟨distinct_merge alike.left, distinct_merge alike.right, fun key => ?_⟩
  rw [get?_merge, get?_merge]
  have last := found key
  generalize get? key later.reverse = value, get? key later'.reverse = other at last ⊢
  cases last with
  | none => exact alike.found key
  | some related => exact .some related

theorem ofPairs (aligned : Aligned r first second) : Alike r (ofPairs first) (ofPairs second) :=
  nil.merge aligned.reverse.found

end Alike

end Entries

-- ---------------------------------------------------------------------------
-- JSON
-- ---------------------------------------------------------------------------

namespace Json

/-- Equal as JSON: objects compare without the order of their members. -/
def Same (first second : Json) : Prop := first == second

namespace Same

variable {first second : Json} {items others : List Json} {members later members' later' : Entries Json}

theorem bool (value : Bool) : Same (.bool value) (.bool value) := by simp [Same, BEq.beq, beq]

theorem int (value : Int) : Same (.int value) (.int value) := by simp [Same, BEq.beq, beq]

theorem string (text : String) : Same (.string text) (.string text) := by simp [Same, BEq.beq, beq]

theorem float {x y : Double} (same : x.numEq y) : Same (.float x) (.float y) := same

theorem array (same : List.Forall₂ Same items others) : Same (.array items) (.array others) := by
  induction same with
  | nil => rfl
  | cons head _ ih => exact Bool.and_eq_true_iff.mpr ⟨head, ih⟩

theorem beqMembers_iff : beqMembers members members' = true ↔
    ∀ entry ∈ members, ∃ value, Entries.get? entry.1 members' = some value ∧ Same entry.2 value := by
  induction members with
  | nil => simp [beqMembers]
  | cons entry rest ih =>
    obtain ⟨key, value⟩ := entry
    rw [beqMembers, Bool.and_eq_true, ih, List.forall_mem_cons]
    refine and_congr_left' ?_
    cases found : Entries.get? key members' <;> simp [Same, BEq.beq]

theorem object (alike : Entries.Alike Same members members') : Same (.object members) (.object members') := by
  have found : beqMembers members members' = true := by
    rw [beqMembers_iff]
    intro entry mem
    have related := alike.found entry.1
    rw [Entries.get?_of_mem alike.left mem] at related
    generalize Entries.get? entry.1 members' = other at related ⊢
    cases related with
    | some same => exact ⟨_, rfl, same⟩
  exact Bool.and_eq_true_iff.mpr ⟨beq_iff_eq.mpr alike.length_eq, found⟩

theorem single {key : String} (same : Same first second) : Same (.single key first) (.single key second) :=
  object (.single key same)

theorem withParams (operands : Entries.Alike Same members members') (params : Entries.Alike Same later later') :
    Same (.withParams members later) (.withParams members' later') :=
  object (operands.merge params.reverse.found)

theorem beside (key : String) (operand : Same first second) (params : Entries.Alike Same later later') :
    Same (.beside key first later) (.beside key second later') := by
  simp only [Json.beside, params.isEmpty_eq]
  split
  · exact operand
  · exact withParams (.single key operand) params

end Same

theorem aligned_optional (key : String) {value other : Option Json} (same : Option.Rel Same value other) :
    Entries.Aligned Same (optional key value) (optional key other) := by
  cases same with
  | none => exact .nil
  | some same => exact .single key same

theorem aligned_optional_map {α : Type} (key : String) (json : α → Json)
    (refl : ∀ value, Same (json value) (json value)) (value : Option α) :
    Entries.Aligned Same (optional key (value.map json)) (optional key (value.map json)) := by
  cases value with
  | none => exact .nil
  | some value => exact .single key (refl value)

theorem aligned_group (key : String) {items others : List Json} (same : List.Forall₂ Same items others) :
    Entries.Aligned Same (group key items) (group key others) := by
  cases same with
  | nil => exact .nil
  | cons head rest => exact .single key (.array (.cons head rest))

theorem aligned_section? (key : String) {members others : Entries Json}
    (alike : Entries.Alike Same members others) :
    Entries.Aligned Same (section? key members) (section? key others) := by
  simp only [section?, alike.isEmpty_eq]
  split
  · exact .nil
  · exact .single key (.object alike)

theorem keys_optional_sublist (key : String) (value : Option Json) :
    (Entries.keys (optional key value)).Sublist [key] := by
  cases value with
  | none => exact List.nil_sublist _
  | some _ => exact .refl _

theorem keys_group_sublist (key : String) (items : List Json) :
    (Entries.keys (group key items)).Sublist [key] := by
  cases items with
  | nil => exact List.nil_sublist _
  | cons _ _ => exact .refl _

theorem keys_section?_sublist (key : String) (members : Entries Json) :
    (Entries.keys (section? key members)).Sublist [key] := by
  cases members with
  | nil => exact List.nil_sublist _
  | cons _ _ => exact .refl _

theorem alike_section? (key : String) {members others : Entries Json}
    (alike : Entries.Alike Same members others) :
    Entries.Alike Same (section? key members) (section? key others) :=
  (aligned_section? key alike).alike ((List.pairwise_singleton _ key).sublist (keys_section?_sublist key members))

end Json

-- ---------------------------------------------------------------------------
-- Results
-- ---------------------------------------------------------------------------

/-- Both computations give a value, and the values are related, or both fail. -/
inductive Result.Alike {α β : Type} (r : α → β → Prop) : Result α → Result β → Prop
  | ok {value : α} {other : β} (related : r value other) : Alike r (.ok value) (.ok other)
  | error (first second : Error) : Alike r (.error first) (.error second)

namespace Result.Alike

variable {α β γ δ : Type} {r : α → β → Prop} {s : γ → δ → Prop} {first : Result α} {second : Result β}

theorem bind {next : α → Result γ} {next' : β → Result δ} (alike : Alike r first second)
    (then_ : ∀ value other, r value other → Alike s (next value) (next' other)) :
    Alike s (first >>= next) (second >>= next') := by
  cases alike with
  | ok related => exact then_ _ _ related
  | error => exact .error _ _

theorem atKey (alike : Alike r first second) (key key' : String) :
    Alike r (Result.atKey key first) (Result.atKey key' second) := by
  cases alike with
  | ok related => exact .ok related
  | error => exact .error _ _

theorem atIndex (alike : Alike r first second) (position position' : Nat) :
    Alike r (Result.atIndex position first) (Result.atIndex position' second) := by
  cases alike with
  | ok related => exact .ok related
  | error => exact .error _ _

theorem compiles_iff (alike : Alike r first second) :
    (∃ value, first = .ok value) ↔ ∃ value, second = .ok value := by
  cases alike <;> simp

theorem refl (first : Result α) : Alike (· = ·) first first := by
  cases first with
  | ok value => exact .ok rfl
  | error => exact .error _ _

end Result.Alike

theorem Json.Same.fieldName {first second : Json} (same : Same first second) :
    Result.Alike (· = ·) first.fieldName second.fieldName := by
  cases first with
  | string text =>
    cases second with
    | string other => exact .ok (by simpa [Same, BEq.beq, beq] using same)
    | _ => cases same
  | _ =>
    cases second with
    | string _ => cases same
    | _ => exact .error _ _

theorem Double.isFinite_eq_of_numEq {x y : Double} (same : x.numEq y) : x.isFinite = y.isFinite := by
  have zeroFinite (z : Double) (zero : z.isZero) : z.isFinite := by
    have positive : 0 < Format.double.infinityCode := by decide
    have zero : z.code.toNat = 0 := of_decide_eq_true zero
    exact decide_eq_true (zero ▸ positive)
  simp only [Binary.numEq, Bool.and_eq_true, Bool.or_eq_true, beq_iff_eq] at same
  obtain ⟨-, rfl | ⟨zero, zero'⟩⟩ := same
  · rfl
  · rw [zeroFinite x zero, zeroFinite y zero']

theorem Json.ofDouble_alike {x y : Double} (same : x.numEq y) :
    Result.Alike Same (ofDouble x) (ofDouble y) := by
  simp only [ofDouble, Double.isFinite_eq_of_numEq same]
  split
  · exact .ok (.float same)
  · exact .error _ _

end SearchWire
