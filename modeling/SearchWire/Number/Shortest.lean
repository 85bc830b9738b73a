import SearchWire.Number.Binary

/-!
# Shortest float text

A finite number is written with the fewest digits that read back to it, of
several such decimals the nearest. Which exponents are written positionally
is a decision of the text form, one for each width, and kept apart from the
choice of digits.
-/

namespace SearchWire

namespace Binary

variable {f : Format}

def leadingExponent (n d : Nat) : Int :=
  if d ≤ n then (Nat.toDigits 10 (n / d)).length - 1
  else -((Nat.toDigits 10 ((d - 1) / n)).length : Int)

def readsBack (x : Binary f) (digits : Nat) (exponent : Int) : Bool :=
  (round false (digits * Nat.pow 10 exponent.toNat) (Nat.pow 10 (-exponent).toNat) : Binary f).code == x.code

/-- The decimal of `count` digits nearest to the magnitude of `x` that
reads back to it; of two equally near ones the even one. -/
def withDigits? (x : Binary f) (count : Nat) : Option Decimal :=
  let exponent := leadingExponent x.numerator x.denominator - count + 1
  let n := x.numerator * Nat.pow 10 (-exponent).toNat
  let d := x.denominator * Nat.pow 10 exponent.toNat
  let below := n / d
  let nearest := roundDiv n d
  let other := if nearest = below then below + 1 else below
  if x.readsBack nearest exponent then some ⟨x.negative, nearest, exponent⟩
  else if x.readsBack other exponent then some ⟨x.negative, other, exponent⟩
  else none

/-- The fewest digits that read back; an exact expansion is never needed
but stands behind the search. -/
def shortest (x : Binary f) : Decimal :=
  match (List.range (f.fractionBits + 1)).findSome? (fun i => x.withDigits? (i + 1)) with
  | some decimal => decimal
  | none => ⟨x.negative, x.numerator * Nat.pow 5 (-x.parts.2).toNat, min 0 x.parts.2⟩

end Binary

/-- Powers of ten of the first digit between which a number is written
positionally. -/
structure FloatForm where
  least : Int
  greatest : Int

namespace FloatForm

/-- From `0.00001` up to sixteen digits before the point; beyond that one
digit before the point and a signed exponent. -/
def wide : FloatForm := ⟨-5, 15⟩

/-- From `0.000001` up to thirteen digits before the point. -/
def narrow : FloatForm := ⟨-6, 12⟩

def ofFormat (f : Format) : FloatForm :=
  if f.fractionBits ≤ Format.single.fractionBits then narrow else wide

def positional (digits : List Char) (exponent : Int) : List Char :=
  if exponent < 0 then '0' :: '.' :: List.replicate (-exponent - 1).toNat '0' ++ digits
  else
    let places := exponent.toNat + 1
    let whole := digits.take places
    let fraction := digits.drop places
    whole ++ List.replicate (places - whole.length) '0' ++
      '.' :: (if fraction.isEmpty then ['0'] else fraction)

def scientific (digits : List Char) (exponent : Int) : List Char :=
  let point := if digits.tail.isEmpty then [] else '.' :: digits.tail
  digits.take 1 ++ point ++ 'e' :: (if exponent < 0 then '-' else '+') ::
    Nat.toDigits 10 exponent.natAbs

def trim (digits : List Char) : List Char :=
  match (digits.reverse.dropWhile (· == '0')).reverse with
  | [] => ['0']
  | trimmed => trimmed

def decimal (form : FloatForm) (d : Decimal) : List Char :=
  let digits := Nat.toDigits 10 d.digits
  let exponent : Int := digits.length + d.exponent - 1
  let body :=
    if form.least ≤ exponent ∧ exponent ≤ form.greatest then positional (trim digits) exponent
    else scientific (trim digits) exponent
  if d.negative then '-' :: body else body

end FloatForm

def Binary.text {f : Format} (x : Binary f) : String :=
  if x.isNaN then "NaN"
  else if !x.isFinite then (if x.negative then "-inf" else "inf")
  else if x.isZero then (if x.negative then "-0.0" else "0.0")
  else String.ofList ((FloatForm.ofFormat f).decimal x.shortest)

end SearchWire
