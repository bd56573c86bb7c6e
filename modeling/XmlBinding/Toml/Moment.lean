import XmlBinding.Toml.Number
import XmlBinding.Toml.Value

/-!
# TOML dates and times

* `moment? text` : a date, a time or both, if the whole text is one;
* `startsMoment text` : whether the text can be nothing else.
-/

namespace XmlBinding.Toml

/-- A number of exactly `width` digits, and the rest. -/
def fixed? (width : Nat) (cs : List Char) : Option (Nat × List Char) :=
  let digits := cs.take width
  if digits.length = width ∧ digits.all Char.isDigit then
    some (valueIn 10 digits, cs.drop width)
  else none

def daysIn (year month : Nat) : Nat :=
  if month = 2 then
    if (year % 4 = 0 ∧ year % 100 ≠ 0) ∨ year % 400 = 0 then 29 else 28
  else if month = 4 ∨ month = 6 ∨ month = 9 ∨ month = 11 then 30
  else 31

def day? (cs : List Char) : Option (Day × List Char) :=
  match fixed? 4 cs with
  | some (year, '-' :: cs) =>
    match fixed? 2 cs with
    | some (month, '-' :: cs) =>
      match fixed? 2 cs with
      | some (day, cs) =>
        if 1 ≤ month ∧ month ≤ 12 ∧ 1 ≤ day ∧ day ≤ daysIn year month then
          some (⟨year, month, day⟩, cs)
        else none
      | none => none
    | _ => none
  | _ => none

/-- Nanoseconds of a fraction; digits after the ninth are dropped. -/
def nanoseconds (digits : List Char) : Nat :=
  valueIn 10 ((digits ++ List.replicate 9 '0').take 9)

/-- A time of day, and the rest. Seconds may be left out. -/
def clock? (cs : List Char) : Option (Clock × List Char) :=
  match fixed? 2 cs with
  | some (hour, ':' :: cs) =>
    match fixed? 2 cs with
    | some (minute, cs) =>
      if 24 ≤ hour ∨ 60 ≤ minute then none
      else
        match cs with
        | ':' :: cs =>
          match fixed? 2 cs with
          | some (second, cs) =>
            if 60 < second then none
            else
              match cs with
              | '.' :: cs =>
                let digits := cs.takeWhile Char.isDigit
                if digits.isEmpty then none
                else
                  some (⟨hour, minute, second, nanoseconds digits⟩, cs.dropWhile Char.isDigit)
              | cs => some (⟨hour, minute, second, 0⟩, cs)
          | none => none
        | cs => some (⟨hour, minute, 0, 0⟩, cs)
    | none => none
  | _ => none

/-- An offset that ends the run; none when nothing is left. -/
def offset? : List Char → Option (Option Offset)
  | [] => some none
  | ['Z'] | ['z'] => some (some .universal)
  | mark :: cs =>
    if mark = '+' ∨ mark = '-' then
      match fixed? 2 cs with
      | some (hour, ':' :: cs) =>
        match fixed? 2 cs with
        | some (minute, []) =>
          if 24 ≤ hour ∨ 60 ≤ minute then none
          else
            let n : Int := 60 * hour + minute
            some (some (.minutes (if mark = '-' then -n else n)))
        | _ => none
      | _ => none
    else none

/-- A date, a time or both. -/
def moment? (cs : List Char) : Option Moment :=
  match day? cs with
  | some (day, []) => some ⟨some day, none, none⟩
  | some (day, mark :: rest) =>
    if mark = 'T' ∨ mark = 't' ∨ mark = ' ' then
      match clock? rest with
      | some (clock, rest) => (offset? rest).map fun offset => ⟨some day, some clock, offset⟩
      | none => none
    else none
  | none =>
    match clock? cs with
    | some (clock, []) => some ⟨none, some clock, none⟩
    | _ => none

/-- Whether the run starts like a date or a time. -/
def startsMoment (cs : List Char) : Bool :=
  let rest := cs.dropWhile Char.isDigit
  match rest with
  | ':' :: _ => !(cs.takeWhile Char.isDigit).isEmpty
  | '-' :: _ => !(cs.takeWhile Char.isDigit).isEmpty
  | _ => false

end XmlBinding.Toml
