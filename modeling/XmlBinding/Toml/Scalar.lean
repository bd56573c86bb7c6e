import XmlBinding.Toml.Moment

/-!
# Unquoted TOML values

Booleans, numbers, dates and times: a run of characters without quotes is read whole.

* `Toml.scalar text` : the value of the run, or a fault;
* `Value.isHeld` : whether the numbers in a value are small enough to be read.
-/

namespace XmlBinding.Toml

/-- Value of a run without quotes. -/
def scalar (cs : List Char) : Except Fault Value :=
  let text := String.ofList cs
  if text = "true" then .ok (.boolean true)
  else if text = "false" then .ok (.boolean false)
  else if startsMoment cs then
    match moment? cs with
    | some m => .ok (.moment m)
    | none => .error (.badMoment text)
  else
    match integer? cs with
    | some n => .ok (.integer n)
    | none =>
      if isFloat cs then .ok (.float (String.ofList (cs.filter (· != '_'))))
      else .error (.badNumber text)

/-! ## Ranges -/

mutual

/-- Whether every number in the value has a value that a reader can hold. -/
def Value.isHeld : Value → Bool
  | .integer n => n.any fun n => integerRange.1 ≤ n && n ≤ integerRange.2
  | .float text => isFinite text
  | .array items => allItemsHeld items
  | .table entries => allEntriesHeld entries
  | .string _ | .boolean _ | .moment _ => true

/-- Whether a reader can hold every number in the items. -/
def allItemsHeld : List Value → Bool
  | [] => true
  | v :: rest => v.isHeld && allItemsHeld rest

/-- Whether a reader can hold every number in the entries. -/
def allEntriesHeld : List (String × Value) → Bool
  | [] => true
  | (_, v) :: rest => v.isHeld && allEntriesHeld rest

end

end XmlBinding.Toml
