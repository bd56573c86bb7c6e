import XmlBinding.Emission

/-!
# Writers

A property writer handles the properties it accepts; a method writer writes a whole method. Both are
kept in order of descending priority, equal priorities in the order of registration.

* `rankInsert` : the order;
* `PropertyRegistry.dispatch?` : the first writer that accepts a property;
* `Emit.writeProperty`, `writeProperties` : properties that take part in a direction, each by its
  writer;
* `Emit.expression` : the expression that reads a single value.
-/

namespace XmlBinding

/-- Puts `a` behind all that rank at least as high. -/
def rankInsert (priority : α → Int) (a : α) : List α → List α
  | [] => [a]
  | b :: rest => if priority b < priority a then a :: b :: rest else b :: rankInsert priority a rest

/-- Writes the code for one property, with the variable that holds the bean or the value. -/
structure PropertyWriter (J : Type) where
  name : String
  priority : Int
  accepts : Session → AccessStyle → Property → Bool
  emit : String → Property → Emit J Unit

/-- Writes one method of every class. -/
structure MethodWriter (J : Type) where
  /-- Key of the method in the catalog. -/
  key : String
  priority : Int
  emit : Emit J Unit

/-- Property writers in the order in which they are asked. -/
structure PropertyRegistry (J : Type) where
  writers : List (PropertyWriter J)

/-- Method writers in the order in which they write. -/
structure MethodRegistry (J : Type) where
  writers : List (MethodWriter J)

namespace PropertyRegistry

variable {J : Type}

def empty : PropertyRegistry J := ⟨[]⟩

def register (r : PropertyRegistry J) (w : PropertyWriter J) : PropertyRegistry J :=
  ⟨rankInsert PropertyWriter.priority w r.writers⟩

/-- The registry of a list of writers, registered in order. -/
def ofList (ws : List (PropertyWriter J)) : PropertyRegistry J := ws.foldl register empty

/-- The first writer that accepts a property. -/
def dispatch? (r : PropertyRegistry J) (s : Session) (style : AccessStyle) (p : Property) :
    Option (PropertyWriter J) :=
  r.writers.find? fun w => w.accepts s style p

def names (r : PropertyRegistry J) : List String := r.writers.map (·.name)

end PropertyRegistry

namespace MethodRegistry

variable {J : Type}

def empty : MethodRegistry J := ⟨[]⟩

def register (r : MethodRegistry J) (w : MethodWriter J) : MethodRegistry J :=
  ⟨rankInsert MethodWriter.priority w r.writers⟩

/-- The registry of a list of writers, registered in order. -/
def ofList (ws : List (MethodWriter J)) : MethodRegistry J := ws.foldl register empty

def keys (r : MethodRegistry J) : List String := r.writers.map (·.key)

end MethodRegistry

namespace Emit

variable {J : Type}

/-- Writes a property by the first writer that accepts it. A property that is lazy in the direction,
hidden, or accepted by no writer is passed over. -/
def writeProperty (r : PropertyRegistry J) (var : String) (p : Property) (d : Direction) :
    Emit J Unit := do
  if p.isLazy d || p.isHidden .marshalling then return
  match r.dispatch? (← read).session (← style) p with
  | some w => w.emit var p
  | none => pure ()

def writeProperties (r : PropertyRegistry J) (var : String) (ps : List Property) (d : Direction) :
    Emit J Unit :=
  ps.forM fun p => writeProperty r var p d

/-- Expression that reads a value of a type from `var` in a value style. -/
def expression (r : PropertyRegistry J) (style : AccessStyle) (var : String) (t : JavaType) :
    Emit J String := do
  let proxy := (← read).session.synthetic t
  return (← withStyle style (capture (writeProperty r var proxy .serverRead))).2

end Emit

end XmlBinding
