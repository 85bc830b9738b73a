import SearchWire.Proofs.Demands
import SearchWire.Proofs.Success

/-!
# Plain data

JSON that is written out as expressions compiles to itself in either dialect,
as long as its lists and objects nest no deeper than the limit, and fails for
want of room beyond it. Where parts of it are given as finished JSON they cost
no level, and the body is the same.
-/

namespace SearchWire

namespace Json

mutual
/-- All integers fit 64 bits and all floats are finite. -/
def InRange : Json → Prop
  | .int value => -Int.pow 2 63 ≤ value ∧ value < Int.pow 2 63
  | .float value => value.isFinite
  | .array items => itemsInRange items
  | .object members => membersInRange members
  | _ => True

def itemsInRange : List Json → Prop
  | [] => True
  | item :: rest => item.InRange ∧ itemsInRange rest

def membersInRange : List (String × Json) → Prop
  | [] => True
  | (_, value) :: rest => value.InRange ∧ membersInRange rest
end

mutual
def nesting : Json → Nat
  | .array items => itemsNesting items + 1
  | .object members => membersNesting members + 1
  | _ => 0

def itemsNesting : List Json → Nat
  | [] => 0
  | item :: rest => max item.nesting (itemsNesting rest)

def membersNesting : List (String × Json) → Nat
  | [] => 0
  | (_, value) :: rest => max value.nesting (membersNesting rest)
end

end Json

mutual
/-- JSON written out as an expression. -/
def Expr.ofJson : Json → Expr
  | .null => .null
  | .bool value => .bool value
  | .int value => .int value
  | .float value => .float value
  | .string text => .string text
  | .array items => .list (itemsOfJson items)
  | .object members => .map (paramsOfJson members)

def itemsOfJson : List Json → List Expr
  | [] => []
  | item :: rest => Expr.ofJson item :: itemsOfJson rest

def paramsOfJson : List (String × Json) → Entries Expr
  | [] => []
  | (key, value) :: rest => (key, Expr.ofJson value) :: paramsOfJson rest
end

mutual
/-- JSON written out as an expression, except for parts that are given as they
are. -/
inductive Mixture : Json → Expr → Prop
  | raw (json : Json) : Mixture json (.raw json)
  | null : Mixture .null .null
  | bool (value : Bool) : Mixture (.bool value) (.bool value)
  | int (value : Int) : Mixture (.int value) (.int value)
  | float (value : Double) : Mixture (.float value) (.float value)
  | string (text : String) : Mixture (.string text) (.string text)
  | list {items : List Json} {exprs : List Expr} (mixtures : ItemsMixture items exprs) :
    Mixture (.array items) (.list exprs)
  | map {members : List (String × Json)} {params : Entries Expr} (mixtures : MembersMixture members params) :
    Mixture (.object members) (.map params)

inductive ItemsMixture : List Json → List Expr → Prop
  | nil : ItemsMixture [] []
  | cons {item : Json} {expr : Expr} {items : List Json} {exprs : List Expr} (head : Mixture item expr)
    (rest : ItemsMixture items exprs) : ItemsMixture (item :: items) (expr :: exprs)

inductive MembersMixture : List (String × Json) → Entries Expr → Prop
  | nil : MembersMixture [] []
  | cons {key : String} {value : Json} {expr : Expr} {members : List (String × Json)} {params : Entries Expr}
    (head : Mixture value expr) (rest : MembersMixture members params) :
    MembersMixture ((key, value) :: members) ((key, expr) :: params)
end

mutual
theorem Mixture.ofJson : (json : Json) → Mixture json (Expr.ofJson json)
  | .null => .null
  | .bool value => .bool value
  | .int value => .int value
  | .float value => .float value
  | .string text => .string text
  | .array items => .list (ItemsMixture.ofJson items)
  | .object members => .map (MembersMixture.ofJson members)

theorem ItemsMixture.ofJson : (items : List Json) → ItemsMixture items (itemsOfJson items)
  | [] => .nil
  | item :: rest => .cons (Mixture.ofJson item) (ItemsMixture.ofJson rest)

theorem MembersMixture.ofJson : (members : List (String × Json)) → MembersMixture members (paramsOfJson members)
  | [] => .nil
  | (_, value) :: rest => .cons (Mixture.ofJson value) (MembersMixture.ofJson rest)
end

-- ---------------------------------------------------------------------------
-- Bodies
-- ---------------------------------------------------------------------------

variable {d : Dialect}

mutual
theorem Mixture.form_eq {json : Json} {expr : Expr} : Mixture json expr → expr.form d = json
  | .raw _ | .null | .bool _ | .int _ | .float _ | .string _ => rfl
  | .list mixtures => by rw [Expr.form, mixtures.itemForms_eq]
  | .map mixtures => by rw [Expr.form, mixtures.paramForms_eq]

theorem ItemsMixture.itemForms_eq {items : List Json} {exprs : List Expr} :
    ItemsMixture items exprs → itemForms d exprs = items
  | .nil => rfl
  | .cons head rest => by rw [itemForms, head.form_eq, rest.itemForms_eq]

theorem MembersMixture.paramForms_eq {members : List (String × Json)} {params : Entries Expr} :
    MembersMixture members params → paramForms d params = members
  | .nil => rfl
  | .cons head rest => by rw [paramForms, head.form_eq, rest.paramForms_eq]
end

-- ---------------------------------------------------------------------------
-- Demands
-- ---------------------------------------------------------------------------

inductive Demand.Plain : Demand → Prop
  | level (depth : Nat) : Plain (.level depth)
  | finite {number : Double} (isFinite : number.isFinite) : Plain (.finite number)

theorem Demand.Plain.deeper {demand : Demand} (plain : demand.Plain) : demand.deeper.Plain := by
  cases plain with
  | level depth => exact .level (depth + 1)
  | finite isFinite => exact .finite isFinite

open Visits

mutual
theorem Mixture.plain {json : Json} {expr : Expr} {demand : Demand} :
    Mixture json expr → json.InRange → (expr.visits d).Demands demand → demand.Plain
  | .raw _, _, made | .null, _, made | .bool _, _, made | .int _, _, made | .string _, _, made =>
    absurd made not_demands_nil
  | .float _, finite, made => by
    obtain rfl := demands_here_iff.mp made
    exact .finite finite
  | .list mixtures, inRange, made => by
    rcases demands_entered_iff.mp made with rfl | ⟨below, within, rfl⟩
    · exact .level 0
    · exact (mixtures.plain inRange within).deeper
  | .map mixtures, inRange, made => by
    rcases demands_entered_iff.mp made with rfl | ⟨below, within, rfl⟩
    · exact .level 0
    · exact (mixtures.plain inRange within).deeper

theorem ItemsMixture.plain {items : List Json} {exprs : List Expr} {position : Nat} {demand : Demand} :
    ItemsMixture items exprs → Json.itemsInRange items → (itemVisits d exprs position).Demands demand →
      demand.Plain
  | .nil, _, made => absurd made not_demands_nil
  | .cons head rest, inRange, made => by
    rcases demands_append_iff.mp made with made | made
    · exact head.plain inRange.1 (demands_under_iff.mp made)
    · exact rest.plain inRange.2 made

theorem MembersMixture.plain {members : List (String × Json)} {params : Entries Expr} {demand : Demand} :
    MembersMixture members params → Json.membersInRange members → (paramVisits d params).Demands demand →
      demand.Plain
  | .nil, _, made => absurd made not_demands_nil
  | .cons head rest, inRange, made => by
    rcases demands_append_iff.mp made with made | made
    · exact head.plain inRange.1 (demands_under_iff.mp made)
    · exact rest.plain inRange.2 made
end

-- ---------------------------------------------------------------------------
-- Levels
-- ---------------------------------------------------------------------------

namespace Visits

variable {first second visits : Visits}

theorem nesting_append : nesting (first ++ second) = max (nesting first) (nesting second) := by
  induction first with
  | nil => exact (Nat.zero_max _).symm
  | cons visit rest ih =>
    simp only [nesting, List.cons_append, List.map_cons, List.foldr_cons] at ih ⊢
    rw [ih, Nat.max_assoc]

theorem nesting_under {step : Step} : nesting (under step visits) = nesting visits := by
  have levels : Visit.levels ∘ Visit.under step = Visit.levels := by
    funext ⟨place, demand⟩
    cases demand <;> rfl
  simp only [nesting, under, List.map_map, levels]

theorem nesting_entered : nesting (entered visits) = nesting visits + 1 := by
  induction visits with
  | nil => rfl
  | cons visit rest ih =>
    obtain ⟨place, demand⟩ := visit
    simp only [nesting, entered, List.map_cons, List.foldr_cons] at ih ⊢
    cases demand <;> simp only [Visit.deeper, Visit.levels, Visit.here] at ih ⊢ <;> omega

end Visits

mutual
theorem nesting_ofJson : (json : Json) → (Expr.ofJson json).nesting d = json.nesting
  | .null | .bool _ | .int _ | .float _ | .string _ => rfl
  | .array items => by
    rw [Expr.nesting, Expr.ofJson, Expr.visits, nesting_entered, nesting_itemsOfJson 0 items, Json.nesting]
  | .object members => by
    rw [Expr.nesting, Expr.ofJson, Expr.visits, nesting_entered, nesting_paramsOfJson members, Json.nesting]

theorem nesting_itemsOfJson (position : Nat) : (items : List Json) →
    (itemVisits d (itemsOfJson items) position).nesting = Json.itemsNesting items
  | [] => rfl
  | item :: rest => by
    have head := nesting_ofJson item
    rw [itemsOfJson, itemVisits, nesting_append, nesting_under, nesting_itemsOfJson (position + 1) rest,
      Json.itemsNesting, ← head, Expr.nesting]

theorem nesting_paramsOfJson : (members : List (String × Json)) →
    (paramVisits d (paramsOfJson members)).nesting = Json.membersNesting members
  | [] => rfl
  | (key, value) :: rest => by
    have head := nesting_ofJson value
    rw [paramsOfJson, paramVisits, nesting_append, nesting_under, nesting_paramsOfJson rest,
      Json.membersNesting, ← head, Expr.nesting]
end

mutual
theorem Mixture.nesting_le {json : Json} {expr : Expr} : Mixture json expr → expr.nesting d ≤ json.nesting
  | .raw _ => Nat.zero_le _
  | .null | .bool _ | .int _ | .float _ | .string _ => Nat.le_refl 0
  | .list mixtures => by
    rw [Expr.nesting, Expr.visits, nesting_entered]
    exact Nat.succ_le_succ (mixtures.nesting_le 0)
  | .map mixtures => by
    rw [Expr.nesting, Expr.visits, nesting_entered]
    exact Nat.succ_le_succ mixtures.nesting_le

theorem ItemsMixture.nesting_le (position : Nat) {items : List Json} {exprs : List Expr} :
    ItemsMixture items exprs → (itemVisits d exprs position).nesting ≤ Json.itemsNesting items
  | .nil => Nat.le_refl 0
  | .cons head rest => by
    have first := head.nesting_le
    have others := rest.nesting_le (position + 1)
    rw [Expr.nesting] at first
    rw [itemVisits, nesting_append, nesting_under, Json.itemsNesting]
    omega

theorem MembersMixture.nesting_le {members : List (String × Json)} {params : Entries Expr} :
    MembersMixture members params → (paramVisits d params).nesting ≤ Json.membersNesting members
  | .nil => Nat.le_refl 0
  | .cons head rest => by
    have first := head.nesting_le
    have others := rest.nesting_le
    rw [Expr.nesting] at first
    rw [paramVisits, nesting_append, nesting_under, Json.membersNesting]
    omega
end

-- ---------------------------------------------------------------------------
-- Compilation
-- ---------------------------------------------------------------------------

theorem Mixture.compile_eq {json : Json} {expr : Expr} (mixture : Mixture json expr) (inRange : json.InRange)
    (limit : Nat) : expr.compile ⟨d, limit⟩ =
      if expr.nesting d ≤ limit then .ok json else .error (.depthExceeded limit) := by
  have room : (∃ body, expr.compile ⟨d, limit⟩ = .ok body) ↔ expr.nesting d ≤ limit := by
    rw [Expr.exists_compile_eq_ok_iff]
    refine ⟨And.left, fun fits => ⟨fits, fun number made => ?_, fun target made => ?_, fun inner made => ?_⟩⟩
    · cases mixture.plain inRange made with
      | finite isFinite => exact isFinite
    · cases mixture.plain inRange made
    · cases mixture.plain inRange made
  cases outcome : expr.compile ⟨d, limit⟩ with
  | ok body =>
    rw [if_pos (room.mp ⟨body, outcome⟩), ← (Expr.compile_eq_ok_iff.mp outcome).2, mixture.form_eq]
  | error error =>
    have deep : ¬expr.nesting d ≤ limit := fun fits => by
      obtain ⟨body, compiles⟩ := room.mpr fits
      rw [compiles] at outcome
      cases outcome
    rw [if_neg deep]
    obtain ⟨rfl, -⟩ | ⟨_, _, -, made, infinite⟩ | ⟨_, _, -, made, -⟩ | ⟨_, -, made, -⟩ :=
      Expr.compile_eq_error outcome
    · rfl
    · cases mixture.plain inRange made with
      | finite isFinite => simp [isFinite] at infinite
    · cases mixture.plain inRange made
    · cases mixture.plain inRange made

/-- Data that is in range compiles to itself if its nesting keeps to the limit,
however much of it is given as finished JSON, and fails for want of room
otherwise; finished as a whole it always compiles to itself. -/
theorem plain_data_survives {json : Json} (inRange : json.InRange) (d : Dialect) (limit : Nat) :
    (json.nesting ≤ limit →
      (Expr.ofJson json).compile ⟨d, limit⟩ = .ok json ∧
      ∀ expr, Mixture json expr → expr.compile ⟨d, limit⟩ = .ok json) ∧
    (limit < json.nesting → (Expr.ofJson json).compile ⟨d, limit⟩ = .error (.depthExceeded limit)) ∧
    (Expr.raw json).compile ⟨d, limit⟩ = .ok json := by
  have mixed (fits : json.nesting ≤ limit) {expr : Expr} (mixture : Mixture json expr) :
      expr.compile ⟨d, limit⟩ = .ok json := by
    rw [mixture.compile_eq inRange, if_pos (Nat.le_trans mixture.nesting_le fits)]
  refine ⟨fun fits => ⟨mixed fits (.ofJson json), fun expr => mixed fits⟩, fun deep => ?_, rfl⟩
  rw [(Mixture.ofJson json).compile_eq inRange, nesting_ofJson, if_neg (Nat.not_le_of_lt deep)]

/-- The least integer and a float that is an integer, three levels deep. -/
theorem plain_data_survives_nested :
    let json : Json := .object [("b", .array [.int (-Int.pow 2 63), .object [("c", .float .zero)]]), ("a", .null)]
    let mixture : Expr :=
      .map [("b", .list [.raw (.int (-Int.pow 2 63)), .map [("c", .float .zero)]]), ("a", .raw .null)]
    json.InRange ∧ json.nesting = 3 ∧ Mixture json mixture ∧
      (Expr.ofJson json).compile ⟨.mapping, 3⟩ = .ok json ∧ mixture.compile ⟨.mapping, 3⟩ = .ok json ∧
      (Expr.ofJson json).compile ⟨.query, 2⟩ = .error (.depthExceeded 2) ∧
      (Expr.raw json).compile ⟨.query, 0⟩ = .ok json := by
  intro json mixture
  have inRange : json.InRange := ⟨⟨⟨by decide, by decide⟩, ⟨rfl, trivial⟩, trivial⟩, trivial, trivial⟩
  have mixes : Mixture json mixture :=
    .map (.cons (.list (.cons (.raw _) (.cons (.map (.cons (.float _) .nil)) .nil))) (.cons (.raw _) .nil))
  obtain ⟨written, mixed⟩ := (plain_data_survives inRange .mapping 3).1 (by decide)
  obtain ⟨-, deep, -⟩ := plain_data_survives inRange .query 2
  exact ⟨inRange, rfl, mixes, written, mixed mixture mixes, deep (by decide),
    (plain_data_survives inRange .query 0).2.2⟩

end SearchWire
