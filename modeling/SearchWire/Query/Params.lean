import SearchWire.Expr.Basic

/-!
# Parameters

The calls on a container of parameters that answer with the value they replace or
take away, and those that put several values. All other parameters keep their places.
-/

namespace SearchWire

namespace Params

def insert (key : String) (value : Expr) (params : Params) : Option Expr × Params :=
  let answer := Entries.insert key value params.entries
  (answer.1, ⟨answer.2, Entries.distinct_insert params.distinct⟩)

def remove (key : String) (params : Params) : Option Expr × Params :=
  let answer := Entries.remove key params.entries
  (answer.1, ⟨answer.2, Entries.distinct_remove params.distinct⟩)

def extend (params : Params) (pairs : List (String × Expr)) : Params :=
  pairs.foldl (fun acc pair => (insert pair.1 pair.2 acc).2) params

theorem insert_eq (key : String) (value : Expr) (params : Params) :
    insert key value params = (Entries.get? key params.entries, params.put key value) := by
  simp only [insert, Container.put, Entries.insert_eq]

theorem remove_eq (key : String) (params : Params) :
    remove key params = (Entries.get? key params.entries, params.erase key) := by
  simp only [remove, Container.erase, Entries.remove_eq]

theorem entries_extend (params : Params) (pairs : List (String × Expr)) :
    (params.extend pairs).entries = Entries.merge params.entries pairs := by
  induction pairs generalizing params with
  | nil => rfl
  | cons pair rest ih =>
    obtain ⟨key, value⟩ := pair
    rw [extend, List.foldl_cons, insert_eq]
    exact ih (params.put key value)

end Params

end SearchWire
