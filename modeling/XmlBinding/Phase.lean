/-!
# Phases of a handler

A handler takes one class at a time through its phases: it begins, receives properties, ends.

* `Phase.canMoveTo p q` : the permitted steps;
* `Phase.hasOpenClass p` : a class has begun and not ended;
* `Phase.advance p q` : the step itself, refused when it is not permitted.
-/

namespace XmlBinding

/-- Phases of a handler. -/
inductive Phase where
  /-- No class has begun. -/
  | idle
  /-- A class has begun. -/
  | begun
  /-- The class has received properties. -/
  | properties
  /-- The class has been rendered. -/
  | ended
  deriving DecidableEq, Repr

/-- What a step needed and did not find. -/
inductive Requirement where
  /-- A phase from which the step leads on. -/
  | leadingTo (target : Phase)
  /-- The frame of a builder class. -/
  | openFrame
  /-- A model class. -/
  | openClass
  deriving DecidableEq, Repr

/-- A step out of order. -/
structure StateFault where
  expected : Requirement
  actual : Phase
  deriving DecidableEq, Repr

namespace Phase

def name : Phase → String
  | idle => "Idle"
  | begun => "Begun"
  | properties => "Properties"
  | ended => "Ended"

/-- Whether a handler may go from one phase to another. -/
def canMoveTo : Phase → Phase → Bool
  | idle, begun => true
  | begun, properties => true
  | properties, properties => true
  | begun, ended => true
  | properties, ended => true
  | ended, begun => true
  | _, _ => false

/-- Whether a class has begun and not ended. -/
def hasOpenClass : Phase → Bool
  | begun | properties => true
  | idle | ended => false

def advance (p target : Phase) : Except StateFault Phase :=
  if p.canMoveTo target then .ok target else .error ⟨.leadingTo target, p⟩

end Phase

def Requirement.message : Requirement → String
  | leadingTo target => s!"a phase leading to {target.name}"
  | openFrame => "an open class frame"
  | openClass => "an open class"

def StateFault.message (f : StateFault) : String :=
  s!"invalid emission phase: expected {f.expected.message}, got {f.actual.name}"

end XmlBinding
