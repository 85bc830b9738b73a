import SearchWire.Json.Basic

/-!
# Number literals

A literal without point or exponent that fits 64 bits is an integer, any
other the float nearest to it. One that is nearest to no finite float has no
value.
-/

namespace SearchWire.Json

structure Numeral where
  negative : Bool
  whole : List Char
  fraction : List Char
  exponent : Option Int

namespace Numeral

def isWhole : List Char → Bool
  | [] => false
  | ['0'] => true
  | '0' :: _ => false
  | digits => digits.all Decimal.isDigit

def ofChars? (text : List Char) : Option Numeral := do
  let (negative, text) := match text with
    | '-' :: rest => (true, rest)
    | rest => (false, rest)
  let whole := text.takeWhile Decimal.isDigit
  let text := text.dropWhile Decimal.isDigit
  guard (isWhole whole)
  let (fraction, text) ← match text with
    | '.' :: rest =>
      let fraction := rest.takeWhile Decimal.isDigit
      if fraction.isEmpty then none else some (fraction, rest.dropWhile Decimal.isDigit)
    | rest => some ([], rest)
  let exponent ← Decimal.exponent? text
  return ⟨negative, whole, fraction, if text.isEmpty then none else some exponent⟩

def isInteger (n : Numeral) : Bool := n.fraction.isEmpty && n.exponent.isNone

def decimal (n : Numeral) : Decimal :=
  ⟨n.negative, Decimal.ofDigits 0 (n.whole ++ n.fraction), n.exponent.getD 0 - n.fraction.length⟩

/-- The nearest float, unless the literal is beyond all finite ones. -/
def float? (n : Numeral) : Option Double :=
  let x : Double := Binary.ofDecimal n.decimal
  if x.isFinite then some x else none

/-- Zero has a sign only as a float. -/
def value? (n : Numeral) : Option Json :=
  let magnitude := Decimal.ofDigits 0 n.whole
  if n.isInteger ∧ ¬ n.negative ∧ magnitude < Nat.pow 2 64 then some (.int magnitude)
  else if n.isInteger ∧ n.negative ∧ magnitude ≠ 0 ∧ magnitude ≤ Nat.pow 2 63 then some (.int (-magnitude))
  else n.float?.map .float

end Numeral

end SearchWire.Json
