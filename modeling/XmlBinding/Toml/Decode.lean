import XmlBinding.Toml.Scalar

/-!
# Reading values out of tables

* `Table.optional`, `Table.required` : an entry of a table, decoded;
* `Value.asString`, `asText`, `asBool`, `asTable`, `asArray`, `asChoice` : a value of a kind;
* `Value.asRecord keys`, `asOpenRecord keys` : the fields of a record, without or with other keys;
* `Value.readMoments` : dates and times written as tables become dates and times.
-/

namespace XmlBinding.Toml

namespace Table

/-- An entry that may be absent. -/
def optional (t : Table) (key : String) (decode : Value → Except Fault α) :
    Except Fault (Option α) :=
  match t.lookup key with
  | none => .ok none
  | some v => (decode v).map some

/-- An entry with a value for its absence. -/
def orElse (t : Table) (key : String) (decode : Value → Except Fault α) (absent : α) :
    Except Fault α :=
  (t.optional key decode).map (·.getD absent)

/-- An entry that must be there. -/
def required (t : Table) (key : String) (decode : Value → Except Fault α) : Except Fault α := do
  match ← t.optional key decode with
  | some a => .ok a
  | none => .error (.missingField key)

/-- Refuses a table with a key outside `keys`. -/
def allow (keys : List String) (t : Table) : Except Fault Unit :=
  match t.find? fun (key, _) => !keys.contains key with
  | some (key, _) => .error (.unknownField key)
  | none => .ok ()

/-- Passes over the entries with a key outside `keys`, but for numbers that no reader can hold. -/
def passOver (keys : List String) (t : Table) : Except Fault Unit :=
  match t.find? fun (key, v) => !keys.contains key && !v.isHeld with
  | some (key, _) => .error (.outOfRange key)
  | none => .ok ()

end Table

/-- Key that marks a table as a date or time. -/
def momentKey : String := "$__toml_private_datetime"

namespace Value

/-- Refuses a value of another kind. -/
def wrong (expected : Kind) (v : Value) : Except Fault α := .error (.wrongKind expected v.kind)

def asString : Value → Except Fault String
  | .string s => .ok s
  | v => v.wrong .string

/-- A string, or the text of a date or time. -/
def asText : Value → Except Fault String
  | .string s => .ok s
  | .moment m => .ok m.text
  | v => v.wrong .string

def asBool : Value → Except Fault Bool
  | .boolean b => .ok b
  | v => v.wrong .boolean

/-- The entries of a table. A date or time is a table with its text as the only entry. -/
def asTable : Value → Except Fault Table
  | .table entries => .ok entries
  | .moment m => .ok [(momentKey, .string m.text)]
  | v => v.wrong .table

def asArray : Value → Except Fault (List Value)
  | .array items => .ok items
  | v => v.wrong .array

/-- The fields of a record, in a table without other keys or in an array in their order. -/
def asRecord (keys : List String) : Value → Except Fault Table
  | .table entries => do
    Table.allow keys entries
    return entries
  | .array items =>
    if keys.length < items.length then .error .tooManyItems else .ok (keys.zip items)
  | v => v.wrong .table

/-- The fields of a record, in a table with perhaps other keys or in an array in their order, with
perhaps more items. -/
def asOpenRecord (keys : List String) : Value → Except Fault Table
  | .array items => .ok (keys.zip items)
  | v => do
    let entries ← v.asTable
    Table.passOver keys entries
    return entries

/-- Whether the value is a table or an array without content. -/
def isVoid : Value → Bool
  | .table [] => true
  | .array [] => true
  | _ => false

/-- One of some named choices: the name, or a table with the name as its only key and nothing under
it. -/
def asChoice (choices : List (String × α)) (v : Value) : Except Fault α :=
  let choose (s : String) : Except Fault α :=
    match choices.lookup s with
    | some a => .ok a
    | none => .error (.unknownChoice s)
  match v with
  | .string s => choose s
  | .table [(s, content)] => if content.isVoid then choose s else content.wrong .table
  | v => v.wrong .string

end Value

/-! ## Dates and times written as tables -/

/-- The value under the mark of a date or time, if that is the first key in order. -/
def markedMoment? (t : Table) : Option Value :=
  if t.all fun (key, _) => momentKey ≤ key then t.lookup momentKey else none

/-- A date or time from its text. -/
def momentOf (v : Value) : Except Fault Value := do
  let text ← v.asString
  match moment? text.toList with
  | some m => return .moment m
  | none => throw (.badMoment text)

mutual

/-- The value with the dates and times that its tables stand for. -/
def Value.readMoments : Value → Except Fault Value
  | .array items => (readMomentsOfItems items).map .array
  | .table entries =>
    match markedMoment? entries with
    | some v => momentOf v
    | none => (readMomentsOfEntries entries).map .table
  | v => .ok v

/-- The items with the dates and times that tables in them stand for. -/
def readMomentsOfItems : List Value → Except Fault (List Value)
  | [] => .ok []
  | v :: rest => do return (← v.readMoments) :: (← readMomentsOfItems rest)

/-- The entries with the dates and times that tables in them stand for. -/
def readMomentsOfEntries : List (String × Value) → Except Fault Table
  | [] => .ok []
  | (key, v) :: rest => do return (key, ← v.readMoments) :: (← readMomentsOfEntries rest)

end

end XmlBinding.Toml
