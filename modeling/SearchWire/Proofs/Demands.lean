import Mathlib.Data.List.Enum
import SearchWire.Proofs.Visits

/-!
# Demands

Which demands are made somewhere among visits, whatever their places: those of
a container are the demands of its parts, one level deeper if the container is
a level of its own.
-/

namespace SearchWire

def Demand.deeper : Demand → Demand
  | .level depth => .level (depth + 1)
  | demand => demand

namespace Visits

/-- A demand is made somewhere among the visits. -/
def Demands (visits : Visits) (demand : Demand) : Prop := ∃ place, ⟨place, demand⟩ ∈ visits

variable {demand : Demand} {first second visits : Visits}

theorem not_demands_nil : ¬Demands [] demand := by
  rintro ⟨place, mem⟩
  cases mem

theorem demands_here_iff {only : Demand} : Demands [.here only] demand ↔ demand = only := by
  constructor
  · rintro ⟨place, mem⟩
    cases List.mem_singleton.mp mem
    rfl
  · rintro rfl
    exact ⟨[], List.mem_singleton_self _⟩

theorem demands_append_iff : Demands (first ++ second) demand ↔ Demands first demand ∨ Demands second demand := by
  simp only [Demands, List.mem_append, exists_or]

theorem demands_under_iff {step : Step} : Demands (under step visits) demand ↔ Demands visits demand := by
  constructor
  · rintro ⟨place, mem⟩
    obtain ⟨visit, found, same⟩ := List.mem_map.mp mem
    cases same
    exact ⟨visit.place, found⟩
  · rintro ⟨place, mem⟩
    exact ⟨step :: place, List.mem_map_of_mem mem⟩

theorem demands_entered_iff : Demands (entered visits) demand ↔
    demand = .level 0 ∨ ∃ inner, Demands visits inner ∧ demand = inner.deeper := by
  have deeper (visit : Visit) : visit.deeper = ⟨visit.place, visit.demand.deeper⟩ := by
    obtain ⟨place, demand⟩ := visit
    cases demand <;> rfl
  constructor
  · rintro ⟨place, mem⟩
    rcases List.mem_cons.mp mem with same | mem
    · cases same
      exact .inl rfl
    · obtain ⟨visit, found, same⟩ := List.mem_map.mp mem
      rw [deeper] at same
      cases same
      exact .inr ⟨visit.demand, ⟨visit.place, found⟩, rfl⟩
  · rintro (rfl | ⟨inner, ⟨place, mem⟩, rfl⟩)
    · exact ⟨[], List.mem_cons_self⟩
    · refine ⟨place, List.mem_cons_of_mem _ ?_⟩
      rw [← deeper ⟨place, inner⟩]
      exact List.mem_map_of_mem mem

theorem demands_flatMap_iff {α : Type} {list : List α} {visits : α → Visits} :
    Demands (list.flatMap visits) demand ↔ ∃ item ∈ list, Demands (visits item) demand := by
  simp only [Demands, List.mem_flatMap]
  exact exists_comm.trans (exists_congr fun _ => exists_and_left)

variable {d : Dialect}

theorem demands_itemVisits_iff {items : List Expr} {position : Nat} :
    Demands (itemVisits d items position) demand ↔ ∃ item ∈ items, (item.visits d).Demands demand := by
  rw [itemVisits_eq_flatMap, demands_flatMap_iff, List.exists_mem_zipIdx, List.exists_mem_iff_getElem]
  simp only [demands_under_iff]

theorem demands_paramVisits_iff {params : Entries Expr} : Demands (paramVisits d params) demand ↔
    ∃ entry ∈ params, (entry.2.visits d).Demands demand := by
  simp only [paramVisits_eq_flatMap, demands_flatMap_iff, demands_under_iff]

theorem demands_fieldVisits_iff {fields : List Field} : Demands (fieldVisits d fields) demand ↔
    ∃ field ∈ fields, (field.fragmentVisits d).Demands demand := by
  simp only [fieldVisits_eq_flatMap, demands_flatMap_iff, demands_under_iff]

theorem demands_templateVisits_iff {fields : List Field} {position : Nat} :
    Demands (templateVisits d fields position) demand ↔
      ∃ field ∈ fields, (field.fragmentVisits d).Demands demand := by
  rw [templateVisits_eq_flatMap, demands_flatMap_iff, List.exists_mem_zipIdx, List.exists_mem_iff_getElem]
  simp only [demands_under_iff]

theorem demands_optionsVisits_iff {field : MetaField} : Demands (field.optionsVisits d) demand ↔
    ∃ entry ∈ field.options, (entry.2.visits d).Demands demand := by
  cases field
  rw [MetaField.optionsVisits, demands_under_iff, demands_paramVisits_iff]

theorem demands_metaFieldVisits_iff {fields : List MetaField} : Demands (metaFieldVisits d fields) demand ↔
    ∃ field ∈ fields, ∃ entry ∈ field.options, (entry.2.visits d).Demands demand := by
  simp only [metaFieldVisits_eq_flatMap, demands_flatMap_iff, demands_optionsVisits_iff]

theorem demands_propertiesVisits_iff : (type : FieldType) → (Demands (type.propertiesVisits d) demand ↔
    ∃ document, type.document? = some document ∧ ∃ field ∈ document.fields, (field.fragmentVisits d).Demands demand)
  | .object ⟨_, _, _, _, _, _⟩ | .nested ⟨_, _, _, _, _, _⟩ => by
    simp [FieldType.propertiesVisits, FieldType.document?, demands_under_iff, demands_fieldVisits_iff]
  | .list element => demands_propertiesVisits_iff element
  | .string | .text | .keyword | .integer | .long | .float | .double | .boolean | .date | .binary | .ip
  | .geoPoint => by simp [FieldType.propertiesVisits, FieldType.document?, not_demands_nil]

theorem demands_subFieldVisits_iff {multiFields : MultiFields} : Demands (multiFields.fragmentVisits d) demand ↔
    ∃ fields, multiFields = .fields fields ∧ ∃ field ∈ fields, (field.fragmentVisits d).Demands demand := by
  cases multiFields <;>
    simp [MultiFields.fragmentVisits, not_demands_nil, demands_under_iff, demands_fieldVisits_iff]

theorem demands_fragmentVisits_iff {field : Field} : Demands (field.fragmentVisits d) demand ↔
    demand = .level 0 ∨ ∃ inner, ((Demands (field.type.propertiesVisits d) inner ∨
      Demands (field.multiFields.fragmentVisits d) inner) ∨ Demands (paramVisits d field.options) inner) ∧
      demand = inner.deeper := by
  cases field
  rw [Field.fragmentVisits, demands_entered_iff]
  simp only [demands_append_iff]

theorem demands_documentVisits_iff {document : Document} : Demands (document.visits d) demand ↔
    ((Demands (paramVisits d document.options) demand ∨ Demands (metaFieldVisits d document.metaFields) demand) ∨
      Demands (fieldVisits d document.fields) demand) ∨ Demands (templateVisits d document.templates 0) demand := by
  cases document
  simp only [Document.visits, demands_append_iff, demands_under_iff]

end Visits

end SearchWire
