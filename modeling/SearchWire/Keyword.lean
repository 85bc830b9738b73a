import SearchWire.Json.Literal
import SearchWire.Json.Text

/-!
# Keywords

Closed sets of words that requests are written with, and how each is read
back from JSON: a word stands as a string, or as an object with the word as
its one key and no content.
-/

namespace SearchWire

def Json.Literal.word? : Json.Literal → Option String
  | .string codes => codes.text?
  | .object [(codes, .null)] => codes.text?
  | _ => none

inductive MatchOperator where
  | and
  | or
deriving DecidableEq

namespace MatchOperator

def text : MatchOperator → String
  | .and => "and"
  | .or => "or"

def default : MatchOperator := .or

def all : List MatchOperator := [.and, .or]

def ofText? (text : String) : Option MatchOperator := all.find? (·.text == text)

def ofLiteral? (literal : Json.Literal) : Option MatchOperator := literal.word?.bind ofText?

end MatchOperator

inductive BoolOperator where
  | and
  | or
deriving DecidableEq

namespace BoolOperator

def text : BoolOperator → String
  | .and => "and"
  | .or => "or"

def all : List BoolOperator := [.and, .or]

def ofText? (text : String) : Option BoolOperator := all.find? (·.text == text)

def ofLiteral? (literal : Json.Literal) : Option BoolOperator := literal.word?.bind ofText?

end BoolOperator

inductive SortOrder where
  | asc
  | desc
deriving DecidableEq

namespace SortOrder

def text : SortOrder → String
  | .asc => "asc"
  | .desc => "desc"

def all : List SortOrder := [.asc, .desc]

def ofText? (text : String) : Option SortOrder := all.find? (·.text == text)

def ofLiteral? (literal : Json.Literal) : Option SortOrder := literal.word?.bind ofText?

end SortOrder

inductive ScoreMode where
  | total
  | multiply
  | avg
  | max
  | min
deriving DecidableEq

namespace ScoreMode

def text : ScoreMode → String
  | .total => "total"
  | .multiply => "multiply"
  | .avg => "avg"
  | .max => "max"
  | .min => "min"

def all : List ScoreMode := [.total, .multiply, .avg, .max, .min]

def ofText? (text : String) : Option ScoreMode := all.find? (·.text == text)

def ofLiteral? (literal : Json.Literal) : Option ScoreMode := literal.word?.bind ofText?

end ScoreMode

/-- Queries of one field that share a form. -/
inductive FieldQueryKind where
  | term
  | matching
  | matchPhrase
  | matchPhrasePrefix
  | startsWith
  | wildcard
  | regexp
  | fuzzy
  | common
deriving DecidableEq

namespace FieldQueryKind

def text : FieldQueryKind → String
  | .term => "term"
  | .matching => "match"
  | .matchPhrase => "match_phrase"
  | .matchPhrasePrefix => "match_phrase_prefix"
  | .startsWith => "prefix"
  | .wildcard => "wildcard"
  | .regexp => "regexp"
  | .fuzzy => "fuzzy"
  | .common => "common"

def all : List FieldQueryKind :=
  [.term, .matching, .matchPhrase, .matchPhrasePrefix, .startsWith, .wildcard, .regexp, .fuzzy, .common]

def ofText? (text : String) : Option FieldQueryKind := all.find? (·.text == text)

/-- The key of the operand where parameters stand beside it: analysed text
is a query, an exact term a value. -/
def operandKey : FieldQueryKind → String
  | .matching => "query"
  | .matchPhrase => "query"
  | .matchPhrasePrefix => "query"
  | .common => "query"
  | .term => "value"
  | .startsWith => "value"
  | .wildcard => "value"
  | .regexp => "value"
  | .fuzzy => "value"

end FieldQueryKind

inductive MinimumShouldMatch where
  | count (clauses : Nat)
  | percentage (text : String)
deriving DecidableEq

namespace MinimumShouldMatch

def default : MinimumShouldMatch := .count 1

def json : MinimumShouldMatch → Json
  | .count clauses => .int clauses
  | .percentage text => .string text

def ofLiteral? (literal : Json.Literal) : Option MinimumShouldMatch :=
  match literal.value? Json.greatestNesting with
  | some (.int clauses) => if 0 ≤ clauses then some (.count clauses.toNat) else none
  | some (.string text) => some (.percentage text)
  | _ => none

end MinimumShouldMatch

end SearchWire
