import SearchWire.Number.Decimal

/-!
# Positions in reasons

The reason of a failure may close with the place that it is about, as in
`key expected at line 3 column 7`. Such a position is read apart from the
rest and written again with plain numerals. Lines are counted from one, so
line zero is no place at all and is left out.
-/

namespace SearchWire

structure Position where
  line : Nat
  column : Nat

namespace Position

def lineMark : List Char := " at line ".toList
def columnMark : List Char := " column ".toList

/-- What stands before and behind the last occurrence of a mark. -/
def splitLast? (mark : List Char) : List Char → Option (List Char × List Char)
  | [] => none
  | c :: rest =>
    match splitLast? mark rest with
    | some (before, behind) => some (c :: before, behind)
    | none => if mark.isPrefixOf (c :: rest) then some ([], (c :: rest).drop mark.length) else none

def numeral? (digits : List Char) : Option Nat :=
  let n := Decimal.ofDigits 0 digits
  if digits.isEmpty ∨ ¬ digits.all Decimal.isDigit ∨ Nat.pow 2 64 ≤ n then none else some n

def ofChars? (text : List Char) : Option Position := do
  let rest := text.dropWhile Decimal.isDigit
  guard (columnMark.isPrefixOf rest)
  return ⟨← numeral? (text.takeWhile Decimal.isDigit), ← numeral? (rest.drop columnMark.length)⟩

def chars (position : Position) : List Char :=
  if position.line = 0 then []
  else lineMark ++ Nat.toDigits 10 position.line ++ columnMark ++ Nat.toDigits 10 position.column

/-- A reason with its position, if it has one, in plain numerals. -/
def settle (reason : String) : String :=
  match splitLast? lineMark reason.toList with
  | none => reason
  | some (before, behind) =>
    match ofChars? behind with
    | none => reason
    | some position => String.ofList (before ++ position.chars)

end Position

end SearchWire
