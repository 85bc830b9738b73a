import Mathlib.Data.List.Forall2
import SearchWire.Document.Regex
import SearchWire.Proofs.Assembly
import SearchWire.Proofs.Resolution

/-!
# What path patterns match

A pattern covers a name that is the pattern with a run of characters in the
place of each star. The table of a pattern marks the ends of a name that it
covers, and the expression of a pattern finds the names that it covers, so that
matching by the table and matching by an engine are the same.
-/

namespace SearchWire

namespace Glob

/-- The text is the pattern with a run without a line feed for each star. -/
inductive Covers : List Char → List Char → Prop
  | nil : Covers [] []
  | literal {c : Char} {pattern text : List Char} :
    c ≠ '*' → Covers pattern text → Covers (c :: pattern) (c :: text)
  | star {run pattern text : List Char} :
    '\n' ∉ run → Covers pattern text → Covers ('*' :: pattern) (run ++ text)

section
variable {p c : Char} {pattern text : List Char}

theorem covers_nil_iff : Covers [] text ↔ text = [] := by
  constructor
  · rintro ⟨⟩
    rfl
  · rintro rfl
    exact .nil

theorem covers_literal_iff (plain : p ≠ '*') :
    Covers (p :: pattern) text ↔ ∃ later, text = p :: later ∧ Covers pattern later := by
  constructor
  · rintro (_ | ⟨-, covers⟩ | _)
    · exact ⟨_, rfl, covers⟩
    · exact absurd rfl plain
  · rintro ⟨later, rfl, covers⟩
    exact .literal plain covers

theorem covers_star_iff : Covers ('*' :: pattern) text ↔
    ∃ run later, text = run ++ later ∧ '\n' ∉ run ∧ Covers pattern later := by
  constructor
  · rintro (_ | ⟨plain, -⟩ | ⟨within, covers⟩)
    · exact absurd rfl plain
    · exact ⟨_, _, rfl, within, covers⟩
  · rintro ⟨run, later, rfl, within, covers⟩
    exact .star within covers

theorem covers_star_cons_iff : Covers ('*' :: pattern) (c :: text) ↔
    Covers pattern (c :: text) ∨ c ≠ '\n' ∧ Covers ('*' :: pattern) text := by
  constructor
  · intro covers
    obtain ⟨run, later, same, within, behind⟩ := covers_star_iff.mp covers
    cases run with
    | nil => exact .inl (same ▸ behind)
    | cons head run =>
      obtain ⟨rfl, rfl⟩ := List.cons.inj same
      rw [List.mem_cons, not_or] at within
      exact .inr ⟨Ne.symm within.1, .star within.2 behind⟩
  · rintro (covers | ⟨visible, covers⟩)
    · exact @Covers.star [] _ _ List.not_mem_nil covers
    · obtain ⟨run, later, rfl, within, covers⟩ := covers_star_iff.mp covers
      exact @Covers.star (c :: run) _ _ (by simp [within, Ne.symm visible]) covers

end

-- ---------------------------------------------------------------------------
-- Tables
-- ---------------------------------------------------------------------------

/-- The table says of every end of the text whether the pattern covers it. -/
def Marks (pattern text : List Char) (marks : List Bool) : Prop :=
  List.Forall₂ (fun rest mark => mark = true ↔ Covers pattern rest) text.tails marks

section
variable {pattern text : List Char} {marks : List Bool}

theorem marks_nil_iff : Marks pattern [] marks ↔ ∃ mark, marks = [mark] ∧ (mark = true ↔ Covers pattern []) := by
  simp [Marks, List.forall₂_cons_left_iff, and_comm]

theorem marks_cons_iff {c : Char} : Marks pattern (c :: text) marks ↔
    ∃ mark rest, marks = mark :: rest ∧ (mark = true ↔ Covers pattern (c :: text)) ∧ Marks pattern text rest := by
  rw [Marks, List.tails, List.forall₂_cons_left_iff]
  constructor
  · rintro ⟨mark, rest, here, later, rfl⟩
    exact ⟨mark, rest, rfl, here, later⟩
  · rintro ⟨mark, rest, rfl, here, later⟩
    exact ⟨mark, rest, here, later, rfl⟩

theorem Marks.headD (covered : Marks pattern text marks) : marks.headD false = true ↔ Covers pattern text := by
  cases text with
  | nil =>
    obtain ⟨mark, rfl, here⟩ := marks_nil_iff.mp covered
    exact here
  | cons c text =>
    obtain ⟨mark, rest, rfl, here, -⟩ := marks_cons_iff.mp covered
    exact here

theorem marks_empty (text : List Char) : Marks [] text (text.foldr (fun _ ends => false :: ends) [true]) := by
  induction text with
  | nil => simp [marks_nil_iff, covers_nil_iff]
  | cons c text ih => exact marks_cons_iff.mpr ⟨_, _, rfl, by simp [covers_nil_iff], ih⟩

theorem Marks.character {p : Char} (plain : p ≠ '*') (covered : Marks pattern text marks) :
    Marks (p :: pattern) text (character p text marks) := by
  induction text generalizing marks with
  | nil => exact marks_nil_iff.mpr ⟨false, rfl, by simp [covers_literal_iff plain]⟩
  | cons c text ih =>
    obtain ⟨mark, rest, rfl, -, later⟩ := marks_cons_iff.mp covered
    refine marks_cons_iff.mpr ⟨_, _, rfl, ?_, ih later⟩
    rw [Bool.and_eq_true, later.headD, covers_literal_iff plain]
    simp [and_assoc]

theorem Marks.star (covered : Marks pattern text marks) : Marks ('*' :: pattern) text (star text marks) := by
  induction text generalizing marks with
  | nil =>
    obtain ⟨mark, rfl, here⟩ := marks_nil_iff.mp covered
    refine marks_nil_iff.mpr ⟨mark, rfl, ?_⟩
    simp [here, covers_star_iff]
  | cons c text ih =>
    obtain ⟨mark, rest, rfl, here, later⟩ := marks_cons_iff.mp covered
    refine marks_cons_iff.mpr ⟨_, _, rfl, ?_, ih later⟩
    rw [Bool.or_eq_true, Bool.and_eq_true, (ih later).headD, here, covers_star_cons_iff, bne_iff_ne]

theorem marks_table (text pattern : List Char) : Marks pattern text (table text pattern) := by
  induction pattern with
  | nil => exact marks_empty text
  | cons p pattern ih =>
    rw [table]
    split
    · next same => exact same ▸ ih.star
    · next plain => exact ih.character plain

end

theorem isMatch_iff {pattern name : String} : isMatch pattern name = true ↔ Covers pattern.toList name.toList :=
  (marks_table name.toList pattern.toList).headD

example : isMatch "user.*_id?" "user.last_id?" = true ∧ isMatch "user.*_id?" "userXlast_ids" = false ∧
    isMatch "*" "a\nb" = false := by decide

-- ---------------------------------------------------------------------------
-- Expressions
-- ---------------------------------------------------------------------------

def piece (c : Char) : Regex.Piece :=
  if c = '*' then .line else if c ∈ escapes then .escaped c else .literal c

def pieces (pattern : String) : List Regex.Piece := .start :: pattern.toList.map piece ++ [.finish]

theorem mem_special_iff {c : Char} : c ∈ Regex.special ↔ c = '*' ∨ c ∈ escapes := by
  have moved : Regex.special.Perm ('*' :: escapes) := @List.perm_middle _ '*' ['.', '?', '+'] _
  rw [moved.mem_iff, List.mem_cons]

theorem chars_piece (c : Char) : (piece c).chars = spell c := by
  unfold piece spell
  split
  · rfl
  · split <;> rfl

theorem spelled_piece (c : Char) : (piece c).Spelled := by
  unfold piece
  split
  · trivial
  · next plain =>
    split
    · next kept => exact mem_special_iff.mpr (.inr kept)
    · next free => exact mem_special_iff.not.mpr (not_or.mpr ⟨plain, free⟩)

theorem expression_eq (pattern : String) : expression pattern = Regex.text (pieces pattern) := by
  have spelled : (pattern.toList.map piece).flatMap Regex.Piece.chars = pattern.toList.flatMap spell := by
    simp only [List.flatMap_map, chars_piece]
  simp only [expression, Regex.text, pieces, List.flatMap_append, List.flatMap_cons, spelled]
  rfl

theorem spelled_pieces {pattern : String} {part : Regex.Piece} (mem : part ∈ pieces pattern) : part.Spelled := by
  simp only [pieces, List.mem_append, List.mem_cons, List.mem_map, List.not_mem_nil, or_false] at mem
  rcases mem with (rfl | ⟨c, -, rfl⟩) | rfl
  · trivial
  · exact spelled_piece c
  · trivial

/-- Up to the end of a text, the pieces of a pattern read what it covers. -/
theorem reads_pieces_iff {pattern before after : List Char} :
    Regex.Reads (pattern.map piece ++ [.finish]) before after ↔ Covers pattern after := by
  induction pattern generalizing before after with
  | nil => simp [Regex.Reads, covers_nil_iff]
  | cons c pattern ih =>
    rw [List.map_cons, List.cons_append, piece]
    split
    · next same => simp only [Regex.Reads, ih, same, covers_star_iff]
    · next plain =>
      rw [covers_literal_iff plain]
      split <;> simp only [Regex.Reads, ih]

theorem finds_pieces_iff {pattern name : String} :
    Regex.Finds (pieces pattern) name ↔ Covers pattern.toList name.toList := by
  simp [Regex.Finds, pieces, Regex.Reads, reads_pieces_iff]

-- ---------------------------------------------------------------------------
-- Programs
-- ---------------------------------------------------------------------------

section
variable {engine : Regex.Engine} {pattern : String} {compiled : engine.Program}

theorem program_eq_ok_iff :
    program engine pattern = .ok compiled ↔ engine.compile (Regex.text (pieces pattern)) = .ok compiled := by
  rw [program, expression_eq]
  cases engine.compile (Regex.text (pieces pattern)) <;> simp

theorem exists_program (documented : engine.Documented) (fits : engine.Fits (expression pattern)) :
    ∃ compiled, program engine pattern = .ok compiled := by
  simp only [program_eq_ok_iff]
  exact documented.compiles _ (fun _ => spelled_pieces) (expression_eq pattern ▸ fits)

theorem program_isMatch_iff (documented : engine.Documented) (compiles : program engine pattern = .ok compiled)
    (name : String) : engine.isMatch compiled name = true ↔ Covers pattern.toList name.toList := by
  rw [documented.isMatch_iff _ _ name (fun _ => spelled_pieces) (program_eq_ok_iff.mp compiles), finds_pieces_iff]

end

end Glob

-- ---------------------------------------------------------------------------
-- Schemas with programs
-- ---------------------------------------------------------------------------

namespace Document

def Programmed (engine : Regex.Engine) (templates : List Field) (programs : List engine.Program) : Prop :=
  List.Forall₂ (fun template program => Glob.program engine template.name = .ok program) templates programs

section
variable {engine : Regex.Engine}

theorem mapM_program_eq_ok {templates : List Field} {programs : List engine.Program}
    (compile : templates.mapM (fun template => Glob.program engine template.name) = .ok programs) :
    Programmed engine templates programs := by
  induction templates generalizing programs with
  | nil =>
    cases compile
    exact .nil
  | cons template rest ih =>
    rw [List.mapM_cons, Result.bind_eq_ok_iff] at compile
    obtain ⟨program, first, remaining⟩ := compile
    obtain ⟨later, behind, same⟩ := Result.bind_eq_ok_iff.mp remaining
    cases same
    exact .cons first (ih behind)

theorem exists_mapM_program (documented : engine.Documented) {templates : List Field}
    (fit : ∀ template ∈ templates, engine.Fits (Glob.expression template.name)) :
    ∃ programs, templates.mapM (fun template => Glob.program engine template.name) = .ok programs := by
  induction templates with
  | nil => exact ⟨[], rfl⟩
  | cons template rest ih =>
    obtain ⟨first, rest⟩ := List.forall_mem_cons.mp fit
    obtain ⟨program, compiles⟩ := Glob.exists_program documented first
    obtain ⟨programs, compile⟩ := ih rest
    refine ⟨program :: programs, ?_⟩
    rw [List.mapM_cons, compiles, compile]
    rfl

theorem Draft.buildWith_eq_ok {draft : Draft} {compiled : Compiled engine}
    (built : draft.buildWith engine = .ok compiled) :
    draft.build = .ok compiled.document ∧ Programmed engine compiled.document.templates compiled.programs := by
  obtain ⟨document, builds, built⟩ := Result.bind_eq_ok_iff.mp built
  obtain ⟨programs, compile, same⟩ := Result.bind_eq_ok_iff.mp built
  cases same
  rw [(Draft.build_eq_ok builds).2.2.1]
  exact ⟨builds, mapM_program_eq_ok compile⟩

theorem find?_zip_eq (documented : engine.Documented) {templates : List Field} {programs : List engine.Program}
    (aligned : Programmed engine templates programs) (name : String) :
    ((templates.zip programs).find? fun entry => engine.isMatch entry.2 name).map (·.1) =
      templates.find? (Glob.isMatch ·.name name) := by
  induction aligned with
  | nil => rfl
  | @cons template program templates programs compiles _ ih =>
    have same : engine.isMatch program name = Glob.isMatch template.name name := by
      rw [Bool.eq_iff_iff, Glob.program_isMatch_iff documented compiles, Glob.isMatch_iff]
    rw [List.zip_cons_cons, List.find?_cons, List.find?_cons, same]
    cases Glob.isMatch template.name name
    · exact ih
    · rfl

theorem Draft.build_error_iff {draft : Draft} {templates : List Field} {error : Error} :
    draft.build = .error error ↔ { draft with templates }.build = .error error := by
  unfold Draft.build
  split
  · rfl
  · split <;> simp_all

theorem Draft.buildWith_error_iff (documented : engine.Documented) {draft : Draft}
    (fit : ∀ template ∈ draft.templates, engine.Fits (Glob.expression template.name)) {error : Error} :
    draft.buildWith engine = .error error ↔ draft.build = .error error := by
  obtain ⟨programs, compile⟩ := exists_mapM_program documented fit
  rw [buildWith, compile]
  cases draft.build <;> simp

end

-- ---------------------------------------------------------------------------
-- Look-up
-- ---------------------------------------------------------------------------

section
variable {document : Document} {name : String}

theorem template?_eq_some {before after : List Field} {template : Field}
    (templates : document.templates = before ++ template :: after)
    (others : ∀ earlier ∈ before, ¬Glob.Covers earlier.name.toList name.toList)
    (covers : Glob.Covers template.name.toList name.toList) : document.template? name = some template := by
  rw [template?, List.find?_eq_some_iff_append]
  refine ⟨Glob.isMatch_iff.mpr covers, before, after, templates, fun earlier mem => ?_⟩
  rw [Bool.not_eq_true', ← Bool.not_eq_true, Glob.isMatch_iff]
  exact others earlier mem

theorem template?_eq_none
    (uncovered : ∀ template ∈ document.templates, ¬Glob.Covers template.name.toList name.toList) :
    document.template? name = none := by
  rw [template?, List.find?_eq_none]
  intro template mem
  rw [Glob.isMatch_iff]
  exact uncovered template mem

end

end Document

-- ---------------------------------------------------------------------------
-- An engine for sequences of pieces
-- ---------------------------------------------------------------------------

namespace Regex

theorem pieces?_chars {pieces : List Piece} (spelled : ∀ piece ∈ pieces, piece.Spelled) :
    pieces? (pieces.flatMap Piece.chars) = some pieces := by
  induction pieces with
  | nil => rfl
  | cons piece rest ih =>
    obtain ⟨first, rest⟩ := List.forall_mem_cons.mp spelled
    rw [List.flatMap_cons]
    cases piece with
    | start | finish | line => simp [Piece.chars, pieces?, ih rest]
    | escaped c =>
      have kept : c ∈ special := first
      simp [Piece.chars, pieces?, kept, ih rest]
    | literal c =>
      have plain : c ∉ special := first
      have others : c ≠ '^' ∧ c ≠ '$' ∧ c ≠ '.' ∧ c ≠ '\\' := by
        refine ⟨?_, ?_, ?_, ?_⟩ <;> rintro rfl <;> exact plain (by decide)
      obtain ⟨start, finish, point, backslash⟩ := others
      rw [Piece.chars, List.singleton_append, pieces?.eq_6, if_neg plain, ih rest]
      · rfl
      all_goals simp_all

theorem compile_sequences {pieces : List Piece} (spelled : ∀ piece ∈ pieces, piece.Spelled) :
    sequences.compile (text pieces) = .ok pieces := by
  simp [sequences, text, pieces?_chars spelled]

theorem sequences_documented : sequences.Documented := by
  constructor
  · intro pieces spelled _
    exact ⟨pieces, compile_sequences spelled⟩
  · intro pieces program name spelled compiles
    cases (compile_sequences spelled).symm.trans compiles
    exact decide_eq_true_iff

end Regex

-- ---------------------------------------------------------------------------
-- Meaning
-- ---------------------------------------------------------------------------

open Document.Draft (Call ofCalls)

/-- A pattern matches exactly the names that it covers, by its table and by its
program. No pattern makes the building of a schema fail, and its programs find
the templates that the tables find. A name that is not declared, nor below a
declared field, gets its type from the first template that covers it, in the
order of the calls; only where none does, it is free on dynamic schemas and
unknown on others. -/
theorem patterns_mean_what_they_cover (engine : Regex.Engine) (documented : engine.Documented) :
    (∀ pattern name, Glob.isMatch pattern name = true ↔ Glob.Covers pattern.toList name.toList) ∧
    (∀ pattern program, Glob.program engine pattern = .ok program →
      ∀ name, engine.isMatch program name = true ↔ Glob.Covers pattern.toList name.toList) ∧
    (∀ draft : Document.Draft, (∀ template ∈ draft.templates, engine.Fits (Glob.expression template.name)) →
      ∀ error, draft.buildWith engine = .error error ↔
        { draft with templates := [] }.buildWith engine = .error error) ∧
    (∀ (draft : Document.Draft) compiled, draft.buildWith engine = .ok compiled → draft.build = .ok compiled.document ∧
      ∀ name, compiled.template? name = compiled.document.template? name) ∧
    ∀ docType calls document, (ofCalls docType calls).build = .ok document →
      ∀ name, ¬document.Declares name → ¬document.Dotted name →
        (∀ before template after, calls.filterMap Call.template? = before ++ template :: after →
          (∀ earlier ∈ before, ¬Glob.Covers earlier.name.toList name.toList) →
          Glob.Covers template.name.toList name.toList →
          document.field name = .ok ((Field.typed name template.type).attachedTo docType)) ∧
        ((∀ template ∈ calls.filterMap Call.template?, ¬Glob.Covers template.name.toList name.toList) →
          document.field name = if document.dynamic then .ok ((Field.new name).attachedTo docType)
            else .error (.unknownField docType name)) := by
  refine ⟨fun pattern name => Glob.isMatch_iff,
    fun pattern program compiles => Glob.program_isMatch_iff documented compiles, ?_, ?_, ?_⟩
  · intro draft fit error
    have none : ∀ template ∈ ({ draft with templates := [] } : Document.Draft).templates,
        engine.Fits (Glob.expression template.name) := by simp
    rw [Document.Draft.buildWith_error_iff documented fit, Document.Draft.buildWith_error_iff documented none]
    exact Document.Draft.build_error_iff
  · intro draft compiled built
    obtain ⟨builds, aligned⟩ := Document.Draft.buildWith_eq_ok built
    exact ⟨builds, Document.find?_zip_eq documented aligned⟩
  · intro docType calls document built name undeclared undotted
    obtain ⟨rfl, -, templates, -⟩ := Document.Draft.build_ofCalls_eq_ok built
    rw [Document.field_eq (.inr undotted), Document.declared?_eq_none_iff.mpr undeclared]
    constructor
    · intro before template after order others covers
      rw [Document.template?_eq_some (templates.trans order) others covers]
    · intro uncovered
      rw [Document.template?_eq_none (templates ▸ uncovered)]

/-- A pattern with a question mark that stands for itself, in front of one with
a second star. -/
theorem patterns_mean_what_they_cover_events :
    let calls := [Call.field (.new "title"), .template (.typed "user.*_id?" .long), .template (.typed "user.**" .keyword)]
    ∃ compiled, (ofCalls "event" calls).buildWith Regex.sequences = .ok compiled ∧
      compiled.template? "user.last_id?" = compiled.document.template? "user.last_id?" ∧
      compiled.document.field "user.last_id?" = .ok ((Field.typed "user.last_id?" .long).attachedTo "event") ∧
      compiled.document.field "user.last_ids" = .ok ((Field.typed "user.last_ids" .keyword).attachedTo "event") ∧
      compiled.document.field "user" = .error (.unknownField "event" "user") := by
  intro calls
  obtain ⟨table, -, build, programs, look⟩ :=
    patterns_mean_what_they_cover Regex.sequences Regex.sequences_documented
  have built : ∃ compiled, (ofCalls "event" calls).buildWith Regex.sequences = .ok compiled := by
    cases built : (ofCalls "event" calls).buildWith Regex.sequences with
    | ok compiled => exact ⟨compiled, rfl⟩
    | error error => cases (build _ (fun _ _ => trivial) error).mp built
  obtain ⟨compiled, built⟩ := built
  obtain ⟨builds, same⟩ := programs _ compiled built
  have document : compiled.document = ⟨"event", false, [], [], [(Field.new "title").attachedTo "event"],
      [.typed "user.*_id?" .long, .typed "user.**" .keyword]⟩ := Except.ok.inj builds.symm
  have free (name : String) (undeclared : compiled.document.declared? name = none)
      (undotted : compiled.document.declaredSub? name = none) :=
    look "event" calls compiled.document builds name (Document.declared?_eq_none_iff.mp undeclared)
      (Document.declaredSub?_eq_none_iff.mp undotted)
  have covers {pattern name : String} (matched : Glob.isMatch pattern name = true) := (table pattern name).mp matched
  have uncovered {pattern name : String} (unmatched : Glob.isMatch pattern name = false) :
      ¬Glob.Covers pattern.toList name.toList := by simp [← table, unmatched]
  have none (template : Field) (mem : template ∈ calls.filterMap Call.template?) :
      ¬Glob.Covers template.name.toList "user".toList := by
    have mem : Field.typed "user.*_id?" .long = template ∨ Field.typed "user.**" .keyword = template := by
      simpa [calls, Call.template?] using mem
    rcases mem with rfl | rfl <;> exact uncovered (by decide)
  refine ⟨compiled, built, same _, ?_, ?_, ?_⟩
  · exact (free _ (by rw [document]; rfl) (by rw [document]; rfl)).1 [] _ _ rfl (by simp) (covers (by decide))
  · refine (free _ (by rw [document]; rfl) (by rw [document]; rfl)).1 [.typed "user.*_id?" .long] _ _ rfl ?_
      (covers (by decide))
    intro earlier mem
    cases List.mem_singleton.mp mem
    exact uncovered (by decide)
  · rw [(free "user" (by rw [document]; rfl) (by rw [document]; rfl)).2 none, document]
    rfl

end SearchWire
