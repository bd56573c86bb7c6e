import XmlBinding.Entity
import XmlBinding.Node

/-!
# Resolved properties

A property with its markers resolved: what kind of value it has, where the value stands in the XML,
and in which directions it takes part.

* `Category` : scalar or unknown, entity, array, collection or map;
* `Property` : the resolved property;
* `Property.isLazy`, `Property.isHidden` : the directions and uses that leave it out.
-/

namespace XmlBinding

/-- Flavours of a collection. -/
inductive CollectionKind where
  | list
  | set
  deriving DecidableEq, Repr

namespace CollectionKind

def marker : CollectionKind → String
  | list => "list"
  | set => "set"

/-- Implementation that stands in when the marker names none. -/
def standardClass : CollectionKind → String
  | list => "java.util.ArrayList"
  | set => "java.util.HashSet"

end CollectionKind

/-- What kind of value a property has. -/
inductive Category where
  | basic
  | entity
  | array (element : JavaType)
  | collection (kind : CollectionKind) (element implementation : JavaType)
  | map (key entry implementation : JavaType)
  deriving DecidableEq, Repr

/-- Element of an array or a collection. -/
def Category.element? : Category → Option JavaType
  | array element => some element
  | collection _ element _ => some element
  | _ => none

/-- Where a hidden property is looked for. -/
inductive Visibility where
  /-- Among the properties handed to the handlers. -/
  | handlers
  /-- Among the attributes and elements of a class. -/
  | marshalling
  deriving DecidableEq, Repr

/-- A property with its markers resolved. -/
structure Property where
  name : String
  type : JavaType
  getter : String
  setter : Option String
  category : Category
  node : NodeBinding
  transience : Option Transience
  lazy : Option LazyMarker
  /-- Event of a bindable property, empty when it has no name. -/
  bindable : Option String
  default : Option String
  /-- Whether the property stands for an element, a key or an entry. -/
  synthetic : Bool
  deriving DecidableEq, Repr

namespace Property

/-- Whether the property is left out in a direction. -/
def isLazy (p : Property) (d : Direction) : Bool := (p.lazy.map (·.get d)).getD false

/-- Whether the property is hidden. What stands for a value is never hidden from marshalling by a
mark of that extent. -/
def isHidden (p : Property) (v : Visibility) : Bool :=
  match p.transience, v with
  | some .everywhere, _ => true
  | some .marshalling, .marshalling => !p.synthetic
  | _, _ => false

/-- Whether the bean has no setter for the property. -/
def isReadOnly (p : Property) : Bool := p.setter.isNone

/-- Whether the value is an entity. -/
def isEntity (p : Property) : Bool := p.category = .entity

def scalar? (p : Property) : Option ScalarKind :=
  if p.category = .basic then ScalarKind.of? p.type else none

end Property

end XmlBinding
