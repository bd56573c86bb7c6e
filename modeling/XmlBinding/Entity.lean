import XmlBinding.Descriptor
import XmlBinding.Failure

/-!
# Entities

An entity is a descriptor with the types of its properties read and their accessors named.

* `Entity.ofDescriptor` : keeps the first property of each name, drops the property `class` that
  every bean has, and refuses names and types that are none.
-/

namespace XmlBinding

/-- A bean property: type, accessors, and what its descriptor says besides. -/
structure BeanProperty where
  name : String
  type : JavaType
  getter : String
  setter : Option String
  descriptor : PropertyDescriptor
  deriving DecidableEq, Repr

/-- A bean class known to a session. -/
structure Entity where
  descriptor : EntityDescriptor
  properties : List BeanProperty
  deriving DecidableEq, Repr

namespace BeanProperty

/-- Name of the property that every bean has. -/
def className : String := "class"

/-- The property of a descriptor, for an entity in `package`. -/
def ofDescriptor (package : String) (d : PropertyDescriptor) : Except TypeFault BeanProperty :=
  (JavaType.parse package d.type).map fun type => {
    name := d.name
    type
    getter := accessorName (if type = .primitive .boolean then "is" else "get") d.name
    setter := if d.setter then some (accessorName "set" d.name) else none
    descriptor := d }

end BeanProperty

namespace Entity

/-- The descriptors that count: the first of each name, without the property `class`. -/
def counted (seen : List String) : List PropertyDescriptor → List PropertyDescriptor
  | [] => []
  | d :: rest =>
    if d.name = BeanProperty.className ∨ d.name ∈ seen then counted seen rest
    else d :: counted (d.name :: seen) rest

def property (name : String) (d : PropertyDescriptor) : Except Failure BeanProperty :=
  if d.name.isEmpty then .error (.schema (.unnamedProperty name))
  else
    (BeanProperty.ofDescriptor (packageOf name) d).mapError fun fault => .schema (.type fault)

/-- Whether a name denotes itself in the default package. -/
def isWellNamed (name : String) : Bool :=
  match JavaType.parse "" name with
  | .ok t => t = .reference name
  | .error _ => false

/-- The entity of a descriptor. Its name must denote itself. -/
def ofDescriptor (d : EntityDescriptor) : Except Failure Entity :=
  if isWellNamed d.name then
    ((counted [] d.properties).mapM (property d.name)).map fun properties => ⟨d, properties⟩
  else .error (.schema (.entityName d.name))

def name (e : Entity) : String := e.descriptor.name

def simpleName (e : Entity) : String := XmlBinding.simpleName e.name

def package (e : Entity) : String := packageOf e.name

/-- Type of the entity's instances. -/
def type (e : Entity) : JavaType := .reference e.name

end Entity

end XmlBinding
