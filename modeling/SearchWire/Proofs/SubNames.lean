import Mathlib.Data.List.Nodup
import SearchWire.Proofs.Assembly
import SearchWire.Proofs.Resolution

/-!
# Names of sub-fields

A sub-field of a declared field is named by the field, a point and a name of its
own. Look-up divides such a name at its first point, which is the point behind
the field only if the name of the field has none.
-/

namespace SearchWire

theorem Field.path_eq_name_iff {field : Field} : field.path = field.name ↔ field.subField = none := by
  cases selected : field.subField with
  | none => simp [path, selected]
  | some sub =>
    rw [← String.toList_inj]
    simp [path, selected]

namespace Document

variable {document : Document} {name : String}

-- ---------------------------------------------------------------------------
-- Points in names
-- ---------------------------------------------------------------------------

theorem exists_split_of_point (pointed : '.' ∈ name.toList) :
    ∃ head rest, name = head ++ "." ++ rest ∧ '.' ∉ head.toList := by
  obtain ⟨before, after, whole, pointless⟩ := List.eq_append_cons_of_mem pointed
  refine ⟨String.ofList before, String.ofList after, ?_, by simpa using pointless⟩
  rw [← String.toList_inj]
  simpa using whole

theorem dotted_sub_iff {declared : Field} (mem : declared ∈ document.fields) (sub : String) :
    document.Dotted (declared.name ++ "." ++ sub) ↔
      '.' ∉ declared.name.toList ∨ document.Dotted declared.name := by
  constructor
  · rintro ⟨head, rest, whole, pointless, known⟩
    by_cases pointed : '.' ∈ declared.name.toList
    · obtain ⟨first, later, within, unpointed⟩ := exists_split_of_point pointed
      have regrouped : declared.name ++ "." ++ sub = first ++ "." ++ (later ++ "." ++ sub) := by
        rw [within]
        simp only [String.append_assoc]
      -- Both divide the name at its first point, and there is but one.
      have here := splitName?_eq_some_iff.mpr ⟨whole, pointless⟩
      have there := splitName?_eq_some_iff.mpr ⟨regrouped, unpointed⟩
      obtain ⟨rfl, -⟩ := Prod.mk.inj (Option.some.inj (here.symm.trans there))
      exact .inr ⟨head, later, within, pointless, known⟩
    · exact .inl pointed
  · rintro (pointless | ⟨head, rest, within, pointless, known⟩)
    · exact ⟨declared.name, sub, rfl, pointless, declared, mem, rfl⟩
    · refine ⟨head, rest ++ "." ++ sub, ?_, pointless, known⟩
      rw [within]
      simp only [String.append_assoc]

-- ---------------------------------------------------------------------------
-- What is found
-- ---------------------------------------------------------------------------

theorem field_of_declares (declares : document.Declares name) :
    ∃ declared ∈ document.fields, declared.name = name ∧ document.field name = .ok declared := by
  obtain ⟨declared, found⟩ := Option.isSome_iff_exists.mp (declared?_isSome_iff.mpr declares)
  refine ⟨declared, List.mem_of_find?_eq_some found, by simpa using List.find?_some found, ?_⟩
  rw [field_eq (.inl declares), found]

theorem field_of_dotted (undeclared : ¬document.Declares name) (dotted : document.Dotted name) :
    ∃ (declared : Field) (rest : String),
      document.field name = .ok (declared.sub rest) ∧ name = declared.name ++ "." ++ rest := by
  obtain ⟨head, rest, whole, pointless, known⟩ := dotted
  obtain ⟨declared, found⟩ := Option.isSome_iff_exists.mp (declared?_isSome_iff.mpr known)
  have named : declared.name = head := by simpa using List.find?_some found
  refine ⟨declared, rest, ?_, named ▸ whole⟩
  have sub : document.declaredSub? name = some (declared.sub rest) := by
    simp [declaredSub?, splitName?_eq_some_iff.mpr ⟨whole, pointless⟩, found]
  simp [field, declared?_eq_none_iff.mpr undeclared, sub]

theorem field_beyond_declared (undeclared : ¬document.Declares name) (undotted : ¬document.Dotted name) :
    (document.Matches name ∨ document.dynamic = true → ∃ field, document.field name = .ok field ∧ field.path = name) ∧
      (¬(document.Matches name ∨ document.dynamic = true) →
        document.field name = .error (.unknownField document.docType name)) := by
  rw [field_eq (.inr undotted), declared?_eq_none_iff.mpr undeclared, ← template?_isSome_iff]
  cases document.template? name with
  | some template => exact ⟨fun _ => ⟨_, rfl, rfl⟩, fun unknown => absurd (.inl rfl) unknown⟩
  | none =>
    cases document.dynamic with
    | true => exact ⟨fun _ => ⟨_, rfl, rfl⟩, fun unknown => absurd (.inr rfl) unknown⟩
    | false => exact ⟨by simp, fun _ => rfl⟩

theorem Draft.build_fields_nodup {docType : String} {calls : List Draft.Call}
    (built : (Draft.ofCalls docType calls).build = .ok document) : (document.fields.map (·.name)).Nodup := by
  obtain ⟨-, fields, -, distinct⟩ := Draft.build_ofCalls_eq_ok built
  rw [fields, List.map_map]
  exact distinct

end Document

open Document.Draft (Call ofCalls)

/-- Of a schema that was built, a sub-field of a declared field is found exactly
if the name of the field has no point, or its part before the first point is
declared too, or else the whole name is declared, matched or accepted as any
other. What is found has that name for its path, unless it is a declared field
with a sub-field selected. -/
theorem sub_fields_found_exactly {docType : String} {calls : List Call} {document : Document}
    (built : (ofCalls docType calls).build = .ok document) {declared : Field} (mem : declared ∈ document.fields)
    (sub : String) :
    let name := declared.name ++ "." ++ sub
    let known := '.' ∉ declared.name.toList ∨ document.Dotted declared.name ∨ document.Declares name ∨
      document.Matches name ∨ document.dynamic = true
    (known → ∃ field, document.field name = .ok field ∧
      (field.path = name ↔ ∀ other ∈ document.fields, other.name = name → other.subField = none)) ∧
    (¬known → document.field name = .error (.unknownField docType name)) := by
  intro name known
  obtain ⟨rfl, -⟩ := Document.Draft.build_ofCalls_eq_ok built
  by_cases declares : document.Declares name
  · obtain ⟨found, inside, named, looked⟩ := Document.field_of_declares declares
    refine ⟨fun _ => ⟨found, looked, ?_⟩, fun unknown => absurd (.inr (.inr (.inl declares))) unknown⟩
    rw [← named, Field.path_eq_name_iff]
    constructor
    · -- No name is declared twice, so the field of that name is the one that was found.
      intro unselected other within same
      rwa [List.inj_on_of_nodup_map (Document.Draft.build_fields_nodup built) within inside same]
    · intro unselected
      exact unselected found inside rfl
  · have unshadowed : ∀ other ∈ document.fields, other.name = name → other.subField = none :=
      fun other within same => absurd ⟨other, within, same⟩ declares
    have divided := Document.dotted_sub_iff mem sub
    by_cases dotted : document.Dotted name
    · obtain ⟨origin, rest, looked, whole⟩ := Document.field_of_dotted declares dotted
      refine ⟨fun _ => ⟨_, looked, iff_of_true whole.symm unshadowed⟩, fun unknown => absurd ?_ unknown⟩
      exact or_assoc.mp (.inl (divided.mp dotted))
    · obtain ⟨found, lost⟩ := Document.field_beyond_declared declares dotted
      obtain ⟨pointed, unheaded⟩ := not_or.mp (mt divided.mpr dotted)
      constructor
      · rintro (pointless | headed | declared | beyond)
        · exact absurd pointless pointed
        · exact absurd headed unheaded
        · exact absurd declared declares
        · obtain ⟨field, looked, path⟩ := found beyond
          exact ⟨field, looked, iff_of_true path unshadowed⟩
      · exact fun unknown => lost fun beyond => unknown (.inr (.inr (.inr beyond)))

/-- A name without a point, a name that another begins, and a name with a point
of its own. -/
theorem sub_fields_found_exactly_account :
    let calls := [Call.field (.new "user"), .field (.new "user.name"), .field (.new "home.street")]
    ∃ account, (ofCalls "account" calls).build = .ok account ∧
      (∃ field, account.field "user.raw" = .ok field ∧ field.path = "user.raw") ∧
      (∃ field, account.field "user.name.raw" = .ok field ∧ field.path = "user.name.raw") ∧
      account.field "home.street.raw" = .error (.unknownField "account" "home.street.raw") := by
  intro calls
  let field (name : String) := (Field.new name).attachedTo "account"
  let account : Document := ⟨"account", false, [], [], [field "user", field "user.name", field "home.street"], []⟩
  have built : (ofCalls "account" calls).build = .ok account := rfl
  have user : field "user" ∈ account.fields := List.mem_cons_self
  have userName : field "user.name" ∈ account.fields := List.mem_cons_of_mem _ List.mem_cons_self
  have street : field "home.street" ∈ account.fields :=
    List.mem_cons_of_mem _ (List.mem_cons_of_mem _ List.mem_cons_self)
  have unselected (name : String) : ∀ other ∈ account.fields, other.name = name → other.subField = none := by
    simp [account, field, Field.attachedTo, Field.new, Field.typed]
  have headed : account.Dotted "user.name" := ⟨"user", "name", rfl, by decide, _, user, rfl⟩
  obtain ⟨first, found, path⟩ := (sub_fields_found_exactly built user "raw").1 (.inl (by decide))
  obtain ⟨second, found', path'⟩ := (sub_fields_found_exactly built userName "raw").1 (.inr (.inl headed))
  refine ⟨account, built, ⟨first, found, path.mpr (unselected _)⟩, ⟨second, found', path'.mpr (unselected _)⟩, ?_⟩
  refine (sub_fields_found_exactly built street "raw").2 ?_
  rw [← Document.declaredSub?_isSome_iff, ← Document.declared?_isSome_iff, ← Document.template?_isSome_iff]
  decide

/-- No sub-field of a field is found below a name with a point of its own, and a
selected sub-field stands in for the name that is asked for. -/
theorem pointed_fields_without_sub_fields :
    (∃ account, (ofCalls "account" [.field (.new "home.street")]).build = .ok account ∧
      account.Declares "home.street" ∧
      account.field "home.street.raw" = .error (.unknownField "account" "home.street.raw")) ∧
    ∃ account field, (ofCalls "account" [.field (.new "user"), .field ((Field.new "user.name").sub "raw")]).build =
        .ok account ∧ account.Declares "user" ∧ account.field "user.name" = .ok field ∧
      field.path = "user.name.raw" :=
  ⟨⟨_, rfl, ⟨_, List.mem_cons_self, rfl⟩, rfl⟩, _, _, rfl, ⟨_, List.mem_cons_self, rfl⟩, rfl, rfl⟩

end SearchWire
