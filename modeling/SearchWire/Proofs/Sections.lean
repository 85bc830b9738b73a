import Mathlib.Data.List.Basic
import SearchWire.Proofs.Hole

/-!
# Sections of a search

A search is visited section by section, and its body has the sections in the
same order. A part that is left out belongs to one of them: whatever is put in
its place, the sections in front of that one and behind it stay as they are.
-/

namespace SearchWire

namespace Search

inductive Section where
  | query
  | sort
  | source
  | aggregations
  | size
  | start
  | rescore
  | postFilter
deriving DecidableEq

namespace Section

def all : List Section := [.query, .sort, .source, .aggregations, .size, .start, .rescore, .postFilter]

theorem mem_all (part : Section) : part ∈ all := by cases part <;> decide

/-- Wherever a section stands, what stands around it depends on the others only. -/
theorem exchanged {α : Type} (part : Section) (listed : Section → List α) :
    ∃ front back, ∀ listed', (∀ other, other ≠ part → listed' other = listed other) →
      all.flatMap listed' = front ++ (listed' part ++ back) := by
  obtain ⟨before, after, split⟩ := List.append_of_mem part.mem_all
  have distinct : (before ++ part :: after).Nodup := split ▸ by decide
  obtain ⟨-, behind, apart⟩ := List.nodup_append.mp distinct
  refine ⟨before.flatMap listed, after.flatMap listed, fun listed' same => ?_⟩
  have front : before.flatMap listed' = before.flatMap listed :=
    List.flatMap_congr fun other mem => same other (apart other mem part List.mem_cons_self)
  have back : after.flatMap listed' = after.flatMap listed := by
    refine List.flatMap_congr fun other mem => same other ?_
    rintro rfl
    exact (List.nodup_cons.mp behind).1 mem
  rw [split, List.flatMap_append, List.flatMap_cons, front, back]

end Section

open Visits (under entered enteredUnless)

variable (d : Dialect)

def sectionVisits (search : Search) : Section → Visits
  | .query => under (.key "query") (
      if search.filters.isEmpty then optionalVisits d search.query
      else entered (under (.key "filtered")
        (under (.key "query") (optionalVisits d search.query) ++
          under (.key "filter") (filtersVisits d search.filters))))
  | .sort => under (.key "sort") (itemVisits d search.sorts 0)
  | .source => sourceVisits d search.source
  | .aggregations => under (.key "aggregations")
      (enteredUnless search.aggregations.isEmpty (aggregationVisits d search.aggregations))
  | .size => []
  | .start => []
  | .rescore => enteredUnless search.rescorers.isEmpty (rescorerVisits d search.rescorers 0)
  | .postFilter => under (.key "post_filter") (filtersVisits d search.postFilters)

def sectionForms (search : Search) : Section → Entries Json
  | .query => Json.optional "query" (
      if search.filters.isEmpty then optionalForm d search.query
      else some (.single "filtered" (.object
        (Json.optional "query" (optionalForm d search.query) ++
          Json.optional "filter" (filtersForm d search.filters)))))
  | .sort => Json.group "sort" (itemForms d search.sorts)
  | .source => Json.optional "_source" (sourceForm d search.source)
  | .aggregations => Json.section? "aggregations" (aggregationForms d search.aggregations)
  | .size => Json.optional "size" (search.limit.map Json.ofNat)
  | .start => Json.optional "from" (search.offset.map Json.ofNat)
  | .rescore => Json.group "rescore" (rescorerForms d search.rescorers)
  | .postFilter => Json.optional "post_filter" (filtersForm d search.postFilters)

theorem visits_eq_flatMap (search : Search) : search.visits d = Section.all.flatMap (search.sectionVisits d) := by
  cases search
  simp [visits, Section.all, sectionVisits]

theorem form_eq_flatMap (search : Search) : search.form d = .object (Section.all.flatMap (search.sectionForms d)) := by
  cases search
  simp [form, Section.all, sectionForms]

end Search

namespace Frame

variable {inner : PartKind} {d : Dialect} {other : Search.Section}

def part : Frame inner .search → Search.Section
  | .searchQuery _ => .query
  | .searchFilter _ _ => .query
  | .searchPostFilter _ _ => .postFilter
  | .searchSort _ _ => .sort
  | .searchSource _ => .source
  | .searchAggregation _ _ => .aggregations
  | .searchRescorer _ _ => .rescore

theorem sectionVisits_fill (frame : Frame inner .search) (first second : inner.Part) (apart : other ≠ frame.part) :
    Search.sectionVisits d (frame.fill first) other = Search.sectionVisits d (frame.fill second) other := by
  cases frame <;> cases other <;> first | rfl | exact absurd rfl apart

theorem sectionForms_fill (frame : Frame inner .search) (first second : inner.Part) (apart : other ≠ frame.part) :
    Search.sectionForms d (frame.fill first) other = Search.sectionForms d (frame.fill second) other := by
  cases frame <;> cases other <;> first | rfl | exact absurd rfl apart

end Frame

end SearchWire
