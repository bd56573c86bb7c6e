/-!
# Binary floating point

Values of a binary format as exact data, and the rounding of a rational number into a format.

* `FloatFormat` : precision and exponent range; `single` and `double` are the two usual ones;
* `BinaryFloat` : a zero, a finite value `significand * 2 ^ exponent`, an infinity or no number;
* `FloatFormat.round f negative num den` : the value of `f` nearest to `num / den`, a tie going to
  the even significand.
-/

namespace XmlBinding

/-- A binary format: significands have at most `precision` bits, exponents lie between `least` and
`greatest`. -/
structure FloatFormat where
  precision : Nat
  least : Int
  greatest : Int
  deriving DecidableEq, Repr

namespace FloatFormat

def single : FloatFormat := ⟨24, -149, 104⟩

def double : FloatFormat := ⟨53, -1074, 971⟩

end FloatFormat

/-- A value of a binary format. The magnitude of a finite value is `significand * 2 ^ exponent`. -/
inductive BinaryFloat where
  | finite (negative : Bool) (significand : Nat) (exponent : Int)
  | infinite (negative : Bool)
  | notANumber
  deriving DecidableEq, Repr

/-- The quotient rounded to the nearest integer, a tie to the even one. -/
def roundHalfEven (num den : Nat) : Nat :=
  let q := num / den
  let twice := 2 * (num % den)
  if den < twice ∨ (twice = den ∧ q % 2 = 1) then q + 1 else q

/-- Floor of the binary logarithm of the positive quotient `num / den`. -/
def floorLog2 (num den : Nat) : Int :=
  let guess : Int := (num.log2 : Int) - (den.log2 : Int)
  let fits :=
    if 0 ≤ guess then den * Nat.pow 2 guess.toNat ≤ num
    else den ≤ num * Nat.pow 2 (-guess).toNat
  if fits then guess else guess - 1

namespace FloatFormat

/-- The value of the format nearest to `num / den`, with the given sign. -/
def round (f : FloatFormat) (negative : Bool) (num den : Nat) : BinaryFloat :=
  if num = 0 then .finite negative 0 f.least
  else
    let exponent := max f.least (floorLog2 num den - (f.precision - 1))
    let significand :=
      if 0 ≤ exponent then roundHalfEven num (den * Nat.pow 2 exponent.toNat)
      else roundHalfEven (num * Nat.pow 2 (-exponent).toNat) den
    let full := Nat.pow 2 f.precision
    let (significand, exponent) :=
      if significand = full then (full / 2, exponent + 1) else (significand, exponent)
    if f.greatest < exponent then .infinite negative else .finite negative significand exponent

end FloatFormat

end XmlBinding
