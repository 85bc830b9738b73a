import SearchWire.Document.Schema

/-!
# Path patterns as regular expressions

A schema hands the patterns of its templates to a regular expression engine
when it is built: a star as any run within a line, every other character as
itself, with a backslash where it would mean something else, and all of it
between the anchors of both ends. The engine is not part of the library. What is
relied on is how it reads an expression that is a sequence of such pieces.
-/

namespace SearchWire

-- ---------------------------------------------------------------------------
-- Expressions
-- ---------------------------------------------------------------------------

namespace Regex

def special : List Char :=
  ['.', '?', '+', '*', '(', ')', '[', ']', '\x7b', '\x7d', '^', '$', '|', '\\']

inductive Piece where
  | start
  | finish
  /-- Any run of characters without a line feed. -/
  | line
  | literal (c : Char)
  | escaped (c : Char)

namespace Piece

def chars : Piece → List Char
  | .start => ['^']
  | .finish => ['$']
  | .line => ['.', '*']
  | .literal c => [c]
  | .escaped c => ['\\', c]

/-- Only special characters are escaped, and none of them stands unescaped. -/
def Spelled : Piece → Prop
  | .literal c => c ∉ special
  | .escaped c => c ∈ special
  | _ => True

end Piece

def text (pieces : List Piece) : String := String.ofList (pieces.flatMap Piece.chars)

/-- Whether pieces can be read, one behind the other, between what stands
before them in a text and the rest of it. -/
def Reads : List Piece → List Char → List Char → Prop
  | [], _, _ => True
  | .start :: rest, before, after => before = [] ∧ Reads rest before after
  | .finish :: rest, before, after => after = [] ∧ Reads rest before after
  | .line :: rest, before, after =>
    ∃ run later, after = run ++ later ∧ '\n' ∉ run ∧ Reads rest (before ++ run) later
  | .literal c :: rest, before, after => ∃ later, after = c :: later ∧ Reads rest (before ++ [c]) later
  | .escaped c :: rest, before, after => ∃ later, after = c :: later ∧ Reads rest (before ++ [c]) later

def Finds (pieces : List Piece) (subject : String) : Prop :=
  ∃ before after, subject.toList = before ++ after ∧ Reads pieces before after

structure Engine where
  Program : Type
  compile : String → Except String Program
  isMatch : Program → String → Bool
  Fits : String → Prop

/-- Sequences of pieces compile if they are not too large, and their programs
look for a place where the pieces can be read. -/
structure Engine.Documented (engine : Engine) : Prop where
  compiles : ∀ pieces : List Piece, (∀ piece ∈ pieces, piece.Spelled) → engine.Fits (text pieces) →
    ∃ program, engine.compile (text pieces) = .ok program
  isMatch_iff : ∀ (pieces : List Piece) (program : engine.Program) (name : String),
    (∀ piece ∈ pieces, piece.Spelled) → engine.compile (text pieces) = .ok program →
      (engine.isMatch program name = true ↔ Finds pieces name)

-- ---------------------------------------------------------------------------
-- An engine for sequences of pieces
-- ---------------------------------------------------------------------------

theorem exists_split_iff {text : List Char} {holds : List Char → List Char → Prop} :
    (∃ n ∈ List.range (text.length + 1), holds (text.take n) (text.drop n)) ↔
      ∃ before after, text = before ++ after ∧ holds before after := by
  constructor
  · rintro ⟨n, -, here⟩
    exact ⟨_, _, (List.take_append_drop n text).symm, here⟩
  · rintro ⟨before, after, rfl, here⟩
    refine ⟨before.length, List.mem_range.mpr ?_, by simpa using here⟩
    rw [List.length_append]
    omega

theorem consumes_iff {c d : Char} {text : List Char} {holds : List Char → Prop} :
    d = c ∧ holds text ↔ ∃ later, d :: text = c :: later ∧ holds later := by
  simp [and_assoc]

instance decidableReads : (pieces : List Piece) → (before after : List Char) → Decidable (Reads pieces before after)
  | [], _, _ => inferInstanceAs (Decidable True)
  | .start :: rest, before, after =>
    have := decidableReads rest before after
    inferInstanceAs (Decidable (before = [] ∧ Reads rest before after))
  | .finish :: rest, before, after =>
    have := decidableReads rest before after
    inferInstanceAs (Decidable (after = [] ∧ Reads rest before after))
  | .line :: rest, before, after =>
    have := decidableReads rest
    decidable_of_iff _ (@exists_split_iff after fun run later => '\n' ∉ run ∧ Reads rest (before ++ run) later)
  | .literal c :: rest, before, after | .escaped c :: rest, before, after =>
    match after with
    | [] => .isFalse fun ⟨_, same, _⟩ => List.cons_ne_nil _ _ same.symm
    | d :: later =>
      have := decidableReads rest (before ++ [c]) later
      decidable_of_iff (d = c ∧ Reads rest (before ++ [c]) later) consumes_iff

instance (pieces : List Piece) (subject : String) : Decidable (Finds pieces subject) :=
  decidable_of_iff _ (@exists_split_iff subject.toList (Reads pieces))

/-- The pieces of an expression that has no others. -/
def pieces? : List Char → Option (List Piece)
  | [] => some []
  | '^' :: rest => (.start :: ·) <$> pieces? rest
  | '$' :: rest => (.finish :: ·) <$> pieces? rest
  | '.' :: '*' :: rest => (.line :: ·) <$> pieces? rest
  | '\\' :: c :: rest => if c ∈ special then (.escaped c :: ·) <$> pieces? rest else none
  | c :: rest => if c ∈ special then none else (.literal c :: ·) <$> pieces? rest

/-- It reads sequences of pieces as they are documented, and nothing else. -/
def sequences : Engine where
  Program := List Piece
  compile text := match pieces? text.toList with
    | some pieces => .ok pieces
    | none => .error "not a sequence of pieces"
  isMatch pieces subject := Finds pieces subject
  Fits _ := True

end Regex

-- ---------------------------------------------------------------------------
-- Patterns
-- ---------------------------------------------------------------------------

namespace Glob

def escapes : List Char :=
  ['.', '?', '+', '(', ')', '[', ']', '\x7b', '\x7d', '^', '$', '|', '\\']

def spell (c : Char) : List Char :=
  if c = '*' then ['.', '*'] else if c ∈ escapes then ['\\', c] else [c]

def expression (pattern : String) : String := String.ofList ('^' :: pattern.toList.flatMap spell ++ ['$'])

def program (engine : Regex.Engine) (pattern : String) : Result engine.Program :=
  match engine.compile (expression pattern) with
  | .ok program => .ok program
  | .error reason => .error (.validation ("invalid path_match pattern `" ++ pattern ++ "`: " ++ reason))

end Glob

-- ---------------------------------------------------------------------------
-- Schemas
-- ---------------------------------------------------------------------------

namespace Document

/-- A schema with the programs of its templates, in the same order. -/
structure Compiled (engine : Regex.Engine) where
  document : Document
  programs : List engine.Program

def Draft.buildWith (engine : Regex.Engine) (draft : Draft) : Result (Compiled engine) := do
  let document ← draft.build
  let programs ← draft.templates.mapM fun template => Glob.program engine template.name
  return ⟨document, programs⟩

def Compiled.template? {engine : Regex.Engine} (compiled : Compiled engine) (name : String) : Option Field :=
  ((compiled.document.templates.zip compiled.programs).find? fun entry => engine.isMatch entry.2 name).map (·.1)

end Document

end SearchWire
