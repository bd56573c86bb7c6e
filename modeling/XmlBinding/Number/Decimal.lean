import XmlBinding.Number.Shortest

/-!
# Decimal texts of binary floating point

* `FloatFormat.read f text` : the nearest value of `f` to a decimal literal: an optional sign,
  digits with an optional point, an optional exponent; or a name of an infinity or of no number;
* `FloatFormat.render f v` : the shortest decimal of a value in positional notation, without a point
  when it is an integer.
-/

namespace XmlBinding

/-- Why a text is no decimal literal. -/
inductive FloatFault where
  | empty
  | invalid
  deriving DecidableEq, Repr

def FloatFault.message : FloatFault → String
  | .empty => "cannot parse float from empty string"
  | .invalid => "invalid float literal"

namespace Decimal

def digitsValue (digits : List Char) : Nat :=
  digits.foldl (fun n c => 10 * n + (c.toNat - '0'.toNat)) 0

/-- An exponent part: nothing, or `e` with an optional sign and at least one digit. -/
def exponent? : List Char → Option Int
  | [] => some 0
  | c :: rest =>
    if c = 'e' ∨ c = 'E' then
      let (negative, digits) :=
        match rest with
        | '-' :: digits => (true, digits)
        | '+' :: digits => (false, digits)
        | digits => (false, digits)
      if digits.isEmpty || !digits.all Char.isDigit then none
      else
        let n : Int := digitsValue digits
        some (if negative then -n else n)
    else none

/-- The digits and the exponent of an unsigned literal: `n * 10 ^ e`. -/
def parts? (cs : List Char) : Option (List Char × Int) :=
  let whole := cs.takeWhile Char.isDigit
  let (fraction, rest) :=
    match cs.dropWhile Char.isDigit with
    | '.' :: tail => (tail.takeWhile Char.isDigit, tail.dropWhile Char.isDigit)
    | tail => ([], tail)
  if whole.isEmpty && fraction.isEmpty then none
  else (exponent? rest).map fun e => (whole ++ fraction, e - fraction.length)

end Decimal

namespace FloatFormat

/-- Number of decimal places, on either side of the point, beyond which a positive number is larger
than every value of a format or rounds to zero. -/
def placesBound : Int := 400

/-- The value nearest to `digits * 10 ^ e`. -/
def ofDecimal (f : FloatFormat) (negative : Bool) (digits : List Char) (e : Int) : BinaryFloat :=
  let digits := digits.dropWhile (· = '0')
  let n := Decimal.digitsValue digits
  let places := e + digits.length
  if n = 0 ∨ places < -placesBound then f.round negative 0 1
  else if placesBound < places then .infinite negative
  else if 0 ≤ e then f.round negative (n * Nat.pow 10 e.toNat) 1
  else f.round negative n (Nat.pow 10 (-e).toNat)

/-- A value named in words, whatever the case of its letters. -/
def named? (negative : Bool) (cs : List Char) : Option BinaryFloat :=
  match String.ofList (cs.map Char.toLower) with
  | "inf" | "infinity" => some (.infinite negative)
  | "nan" => some .notANumber
  | _ => none

/-- The value that a literal denotes. -/
def read (f : FloatFormat) (text : String) : Except FloatFault BinaryFloat :=
  let unsigned (negative : Bool) (cs : List Char) : Except FloatFault BinaryFloat :=
    match Decimal.parts? cs with
    | some (digits, e) => .ok (f.ofDecimal negative digits e)
    | none => ((named? negative cs).map Except.ok).getD (.error .invalid)
  match text.toList with
  | [] => .error .empty
  | '-' :: cs => unsigned true cs
  | '+' :: cs => unsigned false cs
  | cs => unsigned false cs

/-- `n * 10 ^ e` in positional notation. -/
def positional (n : Nat) (e : Int) : String :=
  let digits := (toString n).toList
  let point := (digits.length : Int) + e
  if 0 ≤ e then String.ofList (digits ++ List.replicate e.toNat '0')
  else if 0 < point then
    String.ofList (digits.take point.toNat ++ '.' :: digits.drop point.toNat)
  else String.ofList ('0' :: '.' :: (List.replicate (-point).toNat '0' ++ digits))

/-- Text of a value: the fewest digits that read back. -/
def render (f : FloatFormat) : BinaryFloat → String
  | .notANumber => "NaN"
  | .infinite negative => if negative then "-inf" else "inf"
  | .finite negative m q =>
    let magnitude :=
      if m = 0 then "0"
      else
        let (n, e) := Shortest.digits f m q
        positional n e
    if negative then "-" ++ magnitude else magnitude

end FloatFormat

end XmlBinding
