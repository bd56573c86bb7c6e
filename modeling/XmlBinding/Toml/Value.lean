import XmlBinding.Text.Split

/-!
# TOML values

* `Toml.Value` : what a document holds; a table lists each key once;
* `Toml.Moment` : a date, a time or both; `Moment.text` is its normal form;
* `Toml.Fault` : why a text is no document, or a document not of the expected shape;
* `Toml.Reader` : what turns texts into tables.
-/

namespace XmlBinding.Toml

/-- A day of the calendar. -/
structure Day where
  year : Nat
  month : Nat
  day : Nat
  deriving DecidableEq, Repr

/-- A time of day. -/
structure Clock where
  hour : Nat
  minute : Nat
  second : Nat
  nanosecond : Nat
  deriving DecidableEq, Repr

/-- Distance from universal time. -/
inductive Offset where
  | universal
  | minutes (n : Int)
  deriving DecidableEq, Repr

/-- A date, a time, or a date with a time and perhaps an offset. -/
structure Moment where
  day : Option Day
  clock : Option Clock
  offset : Option Offset
  deriving DecidableEq, Repr

/-- A number with leading zeros up to a width. -/
def padded (width n : Nat) : String :=
  let digits := (toString n).toList
  String.ofList (List.replicate (width - digits.length) '0' ++ digits)

/-- Fraction of a second, without trailing zeros. -/
def fractionText (nanosecond : Nat) : String :=
  if nanosecond = 0 then ""
  else
    let digits := ((padded 9 nanosecond).toList.reverse.dropWhile (· = '0')).reverse
    "." ++ String.ofList digits

def Day.text (d : Day) : String :=
  padded 4 d.year ++ "-" ++ padded 2 d.month ++ "-" ++ padded 2 d.day

def Clock.text (c : Clock) : String :=
  padded 2 c.hour ++ ":" ++ padded 2 c.minute ++ ":" ++ padded 2 c.second ++
    fractionText c.nanosecond

def Offset.text : Offset → String
  | .universal => "Z"
  | .minutes n =>
    (if n < 0 then "-" else "+") ++ padded 2 (n.natAbs / 60) ++ ":" ++ padded 2 (n.natAbs % 60)

/-- Normal form of a moment. -/
def Moment.text (m : Moment) : String :=
  let day := (m.day.map Day.text).getD ""
  let clock := (m.clock.map Clock.text).getD ""
  let mark := if m.day.isSome && m.clock.isSome then "T" else ""
  day ++ mark ++ clock ++ (m.offset.map Offset.text).getD ""

/-- A value of a document. An integer may have no value; a float is kept as written, without
underscores. -/
inductive Value where
  | string (s : String)
  | integer (n : Option Int)
  | float (text : String)
  | boolean (b : Bool)
  | moment (m : Moment)
  | array (items : List Value)
  | table (entries : List (String × Value))
  deriving Inhabited

/-- The entries of a table, in the order of their first keys. -/
abbrev Table := List (String × Value)

/-- Names for the kinds of values. -/
inductive Kind where
  | string
  | integer
  | float
  | boolean
  | moment
  | array
  | table
  deriving DecidableEq, Repr

def Value.kind : Value → Kind
  | .string _ => .string
  | .integer _ => .integer
  | .float _ => .float
  | .boolean _ => .boolean
  | .moment _ => .moment
  | .array _ => .array
  | .table _ => .table

def Kind.word : Kind → String
  | .string => "string"
  | .integer => "integer"
  | .float => "float"
  | .boolean => "boolean"
  | .moment => "datetime"
  | .array => "array"
  | .table => "table"

/-- Why a text is no document, or why a document has another shape than expected. -/
inductive Fault where
  | unexpectedEnd
  | unexpected (c : Char)
  | badEscape
  | badNumber (text : String)
  | badMoment (text : String)
  | tooDeep
  | outOfRange (key : String)
  | duplicateKey (key : String)
  | notExtensible (key : String)
  | wrongKind (expected found : Kind)
  | missingField (key : String)
  | unknownField (key : String)
  | tooManyItems
  | unknownChoice (text : String)
  deriving DecidableEq, Repr

def Fault.message : Fault → String
  | .unexpectedEnd => "unexpected end of input"
  | .unexpected c => s!"unexpected character '{c}'"
  | .badEscape => "invalid escape sequence"
  | .badNumber text => s!"invalid number '{text}'"
  | .badMoment text => s!"invalid date or time '{text}'"
  | .tooDeep => "nested too deeply"
  | .outOfRange key => s!"number out of range in '{key}'"
  | .duplicateKey key => s!"duplicate key '{key}'"
  | .notExtensible key => s!"cannot extend the value of '{key}'"
  | .wrongKind expected found => s!"expected {expected.word}, found {found.word}"
  | .missingField key => s!"missing field '{key}'"
  | .unknownField key => s!"unknown field '{key}'"
  | .tooManyItems => "more items than fields"
  | .unknownChoice text => s!"unknown choice '{text}'"

/-- What turns a text into the table of a document. -/
abbrev Reader := String → Except Fault Table

end XmlBinding.Toml
