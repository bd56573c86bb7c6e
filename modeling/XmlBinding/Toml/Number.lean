import XmlBinding.Number.Decimal
import XmlBinding.Text.Split

/-!
# TOML numbers

Form and value of numbers. The form of an integer with underscores is looser than its value: its
digits need not be digits of its base, and then it has no value.

* `dropUnderscores?` : a number without its underscores;
* `integer?` : the value of a text with the form of an integer;
* `isFloat`, `isFinite` : form and range of floats.
-/

namespace XmlBinding.Toml

def digitValue (c : Char) : Nat :=
  if c.isDigit then c.toNat - '0'.toNat
  else if 'a' ≤ c ∧ c ≤ 'f' then c.toNat - 'a'.toNat + 10
  else if 'A' ≤ c ∧ c ≤ 'F' then c.toNat - 'A'.toNat + 10
  else 16

/-- A digit of a base up to sixteen. -/
def isDigitOf (base : Nat) (c : Char) : Bool := digitValue c < base

def valueIn (base : Nat) (digits : List Char) : Nat :=
  digits.foldl (fun n c => base * n + digitValue c) 0

/-- Value of a text of nothing but digits of a base. -/
def naturalIn? (base : Nat) (cs : List Char) : Option Nat :=
  if !cs.isEmpty && cs.all (isDigitOf base) then some (valueIn base cs) else none

/-- A sign, if there is one, and the rest. -/
def signed : List Char → Bool × List Char
  | '-' :: rest => (true, rest)
  | '+' :: rest => (false, rest)
  | rest => (false, rest)

/-- A number without its underscores, if each stands between two digits. One may also follow a sign
at the start. -/
def dropUnderscores? (isDigit : Char → Bool) (cs : List Char) : Option (List Char) :=
  let pieces := Text.cut '_' cs
  let opens (piece : List Char) : Bool := piece.head?.any isDigit
  let closes (piece : List Char) : Bool := piece.getLast?.any isDigit || piece.length = 1
  if pieces.tail.all opens && pieces.dropLast.all closes then some pieces.flatten else none

/-! ## Integers -/

/-- Base of a mark after a zero. -/
def baseOf? : Char → Option Nat
  | 'x' => some 16
  | 'o' => some 8
  | 'b' => some 2
  | _ => none

/-- Value of a text with the form of an integer with a base mark. Digits may be missing. -/
def based? (base : Nat) (cs : List Char) : Option (Option Int) :=
  match dropUnderscores? (isDigitOf 16) cs with
  | some digits =>
    if digits.all (isDigitOf base) then some ((naturalIn? base digits).map Int.ofNat) else none
  | none => none

/-- Value of a decimal integer without underscores. -/
def decimalValue? (cs : List Char) : Option Int :=
  let (negative, digits) := signed cs
  (naturalIn? 10 digits).map fun n => if negative then -n else n

/-- Whether the text starts with a zero that is not all of it. -/
def hasNeedlessZero : List Char → Bool
  | '0' :: _ :: _ => true
  | _ => false

/-- What makes a number a float, or no number. -/
def isFloatMark (c : Char) : Bool := c == '.' || c == 'e' || c == 'E' || c == ' '

/-- Value of a text with the form of a decimal integer: after the first underscore only the
characters beside underscores count. -/
def decimal? (cs : List Char) : Option (Option Int) :=
  let unsigned := (signed cs).2
  let rest := unsigned.dropWhile Char.isDigit
  if unsigned.isEmpty || hasNeedlessZero unsigned || rest.any isFloatMark ||
      !(rest.head?.all (· == '_')) then none
  else (dropUnderscores? (isDigitOf 16) cs).map decimalValue?

/-- Value of a text with the form of an integer. Only decimal digits may follow a sign. -/
def integer? (cs : List Char) : Option (Option Int) :=
  match cs with
  | '0' :: mark :: rest =>
    match baseOf? mark with
    | some base => based? base rest
    | none => decimal? cs
  | _ => decimal? cs

/-- Smallest and largest integer that a reader can hold. -/
def integerRange : Int × Int := (-Nat.pow 2 127, Nat.pow 2 128 - 1)

/-! ## Floats -/

/-- A word for an infinite value or for none. -/
def isFloatWord (cs : List Char) : Bool :=
  let word := (signed cs).2
  word = "inf".toList || word = "nan".toList

/-- Whether the text is nothing or an exponent. -/
def isExponent : List Char → Bool
  | [] => true
  | c :: rest => (c == 'e' || c == 'E') && (naturalIn? 10 (signed rest).2).isSome

/-- Whether the text is a fraction, an exponent or both. -/
def isFloatTail : List Char → Bool
  | [] => false
  | '.' :: rest =>
    !(rest.takeWhile Char.isDigit).isEmpty && isExponent (rest.dropWhile Char.isDigit)
  | rest => isExponent rest

/-- Whether the text is a float: a whole part with a fraction, an exponent or both, or a word. -/
def isFloat (cs : List Char) : Bool :=
  isFloatWord cs ||
    match dropUnderscores? Char.isDigit cs with
    | none => false
    | some text =>
      let unsigned := (signed text).2
      let whole := unsigned.takeWhile Char.isDigit
      let led := (signed cs).2.head? = some '0' && hasNeedlessZero whole
      !whole.isEmpty && !led && isFloatTail (unsigned.dropWhile Char.isDigit)

/-- Whether a float that is no word is small enough to have a finite value. -/
def isFinite (text : String) : Bool :=
  match FloatFormat.double.read text with
  | .ok (.infinite _) => (signed text.toList).2 = "inf".toList
  | .ok _ => true
  | .error _ => false

end XmlBinding.Toml
