/-!
# Integer literals of a fixed width

An optional sign and decimal digits, with a value in the two's-complement range of the width.

* `IntegerWidth.read w text` : the value, or the first fault met from left to right: a character
  that is no digit, or a value that has left the range.
-/

namespace XmlBinding

/-- Widths of the integer types, in bits. -/
inductive IntegerWidth where
  | w16
  | w32
  | w64
  deriving DecidableEq, Repr

/-- Why a text is no integer literal of a width. -/
inductive IntegerFault where
  | empty
  | invalidDigit
  | tooLarge
  | tooSmall
  deriving DecidableEq, Repr

namespace IntegerFault

def message : IntegerFault → String
  | empty => "cannot parse integer from empty string"
  | invalidDigit => "invalid digit found in string"
  | tooLarge => "number too large to fit in target type"
  | tooSmall => "number too small to fit in target type"

end IntegerFault

namespace IntegerWidth

/-- Number of bits. -/
def bits : IntegerWidth → Nat
  | w16 => 16
  | w32 => 32
  | w64 => 64

/-- Distance of the smallest value from zero. -/
def bound (w : IntegerWidth) : Nat := Nat.pow 2 (w.bits - 1)

/-- Value of the digits, which continue the digits of `value`, as long as it stays within `limit`.
-/
def readDigits (limit : Nat) (beyond : IntegerFault) : Nat → List Char → Except IntegerFault Nat
  | value, [] => .ok value
  | value, c :: rest =>
    if c.isDigit then
      let next := 10 * value + (c.toNat - '0'.toNat)
      if limit < next then .error beyond else readDigits limit beyond next rest
    else .error .invalidDigit

def read (w : IntegerWidth) (text : String) : Except IntegerFault Int :=
  match text.toList with
  | [] => .error .empty
  | ['+'] | ['-'] => .error .invalidDigit
  | '-' :: digits => (readDigits w.bound .tooSmall 0 digits).map fun n => -(n : Int)
  | '+' :: digits => (readDigits (w.bound - 1) .tooLarge 0 digits).map Int.ofNat
  | digits => (readDigits (w.bound - 1) .tooLarge 0 digits).map Int.ofNat

end IntegerWidth

end XmlBinding
