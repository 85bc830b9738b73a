import SearchWire.Number.Decimal

/-!
# Binary floating-point numbers

Numbers of the interchange formats, as a sign and a code for the magnitude,
with exact decoding and rounding to nearest. All arithmetic is on naturals:
a finite magnitude is the fraction `numerator / denominator`. Powers go by
their names, `Nat.pow` and `Int.pow`, so that no instance has a say in them.
-/

namespace SearchWire

structure Format where
  fractionBits : Nat
  exponentBits : Nat

namespace Format

def single : Format := ⟨23, 8⟩
def double : Format := ⟨52, 11⟩

def infinityCode (f : Format) : Nat := (Nat.pow 2 f.exponentBits - 1) * Nat.pow 2 f.fractionBits

/-- The power of two that the last place of the smallest magnitudes counts. -/
def minExponent (f : Format) : Int := 2 - Int.pow 2 (f.exponentBits - 1) - f.fractionBits

/-- Every finite magnitude other than zero lies between `10 ^ -reach` and `10 ^ reach`. -/
def decimalReach (f : Format) : Int := Int.pow 2 (f.exponentBits - 1)

end Format

/-- The code is the exponent field followed by the fraction field, so that
codes are ordered as the magnitudes they stand for. -/
structure Binary (f : Format) where
  negative : Bool
  code : BitVec (f.exponentBits + f.fractionBits)
deriving DecidableEq

abbrev Single := Binary .single
abbrev Double := Binary .double

namespace Binary

variable {f : Format}

def ofCode (negative : Bool) (code : Nat) : Binary f := ⟨negative, BitVec.ofNat _ code⟩

def zero : Binary f := ofCode false 0
def infinity (negative : Bool) : Binary f := ofCode negative f.infinityCode
def nan : Binary f := ofCode false (f.infinityCode + 1)

instance : Inhabited (Binary f) := ⟨zero⟩

def isFinite (x : Binary f) : Bool := x.code.toNat < f.infinityCode
def isNaN (x : Binary f) : Bool := f.infinityCode < x.code.toNat
def isZero (x : Binary f) : Bool := x.code.toNat = 0

/-- Significand and power of two of a finite magnitude; the lowest
exponent field has no leading one. -/
def parts (x : Binary f) : Nat × Int :=
  let field := x.code.toNat / Nat.pow 2 f.fractionBits
  let fraction := x.code.toNat % Nat.pow 2 f.fractionBits
  if field = 0 then (fraction, f.minExponent)
  else (Nat.pow 2 f.fractionBits + fraction, f.minExponent + field - 1)

def numerator (x : Binary f) : Nat := x.parts.1 * Nat.pow 2 x.parts.2.toNat
def denominator (x : Binary f) : Nat := Nat.pow 2 (-x.parts.2).toNat

/-- Numbers compare by value: zeros of both signs are equal and a number
that is not a number equals nothing. -/
def numEq (x y : Binary f) : Bool :=
  !x.isNaN && !y.isNaN && (x == y || (x.isZero && y.isZero))

def roundDiv (n d : Nat) : Nat :=
  let q := n / d
  let r := 2 * (n % d)
  if r < d then q else if d < r then q + 1 else q + q % 2

def lastPlace (f : Format) (n d : Nat) : Int :=
  let top : Int := Nat.log2 n - Nat.log2 d
  let top := if n * Nat.pow 2 (-top).toNat < d * Nat.pow 2 top.toNat then top - 1 else top
  max f.minExponent (top - f.fractionBits)

/-- The number nearest to `± n / d`, of two the one with the even code;
infinite from half a place above the largest finite number on. -/
def round (negative : Bool) (n d : Nat) : Binary f :=
  if n = 0 then ofCode negative 0
  else
    let place := lastPlace f n d
    let significand := roundDiv (n * Nat.pow 2 (-place).toNat) (d * Nat.pow 2 place.toNat)
    let code := (place - f.minExponent).toNat * Nat.pow 2 f.fractionBits + significand
    ofCode negative (min code f.infinityCode)

def convert {g : Format} (x : Binary f) : Binary g :=
  if x.isNaN then nan
  else if x.isFinite then round x.negative x.numerator x.denominator
  else infinity x.negative

def ofDecimal (d : Decimal) : Binary f :=
  let top : Int := (Nat.toDigits 10 d.digits).length + d.exponent
  if d.digits = 0 ∨ top < -f.decimalReach then ofCode d.negative 0
  else if f.decimalReach < top then infinity d.negative
  else round d.negative (d.digits * Nat.pow 10 d.exponent.toNat) (Nat.pow 10 (-d.exponent).toNat)

def ofText? (text : String) : Option (Binary f) :=
  let (negative, name) := Decimal.sign text.toList
  match String.ofList (name.map Char.toLower) with
  | "nan" => some nan
  | "inf" => some (infinity negative)
  | "infinity" => some (infinity negative)
  | _ => (Decimal.ofText? text).map ofDecimal

end Binary

end SearchWire
