/-!
# Decimal numerals

A numeral is kept as its digits and the power of ten that they count, so
that `2.50` and `25e-1` have the same value and nothing is rounded.
-/

namespace SearchWire

/-- The value `± digits · 10 ^ exponent`. -/
structure Decimal where
  negative : Bool
  digits : Nat
  exponent : Int
deriving DecidableEq

namespace Decimal

def digit? (c : Char) : Option Nat :=
  if '0' ≤ c ∧ c ≤ '9' then some (c.toNat - '0'.toNat) else none

def isDigit (c : Char) : Bool := (digit? c).isSome

def ofDigits (start : Nat) (digits : List Char) : Nat :=
  digits.foldl (fun n c => 10 * n + (digit? c).getD 0) start

def sign : List Char → Bool × List Char
  | '-' :: rest => (true, rest)
  | '+' :: rest => (false, rest)
  | rest => (false, rest)

/-- An exponent part to the end of the text; no text at all is the exponent zero. -/
def exponent? : List Char → Option Int
  | [] => some 0
  | c :: rest =>
    if c = 'e' ∨ c = 'E' then
      let (negative, digits) := sign rest
      if digits.isEmpty ∨ ¬ digits.all isDigit then none
      else
        let n : Int := ofDigits 0 digits
        some (if negative then -n else n)
    else none

/-- A sign, digits with at most one point among or beside them, and an exponent. -/
def ofChars? (text : List Char) : Option Decimal := do
  let (negative, text) := sign text
  let whole := text.takeWhile isDigit
  let text := text.dropWhile isDigit
  let (fraction, text) := match text with
    | '.' :: rest => (rest.takeWhile isDigit, rest.dropWhile isDigit)
    | _ => ([], text)
  if whole.isEmpty ∧ fraction.isEmpty then none
  let exponent ← exponent? text
  return ⟨negative, ofDigits 0 (whole ++ fraction), exponent - fraction.length⟩

def ofText? (text : String) : Option Decimal := ofChars? text.toList

def int? (text : String) : Option Int :=
  let (negative, digits) := sign text.toList
  if digits.isEmpty ∨ ¬ digits.all isDigit then none
  else
    let n : Int := ofDigits 0 digits
    some (if negative then -n else n)

end Decimal

end SearchWire
