import XmlBinding.Catalog
import XmlBinding.Config
import XmlBinding.Property

/-!
# Sessions

A session holds the configuration, the catalog and the registered entities. It resolves properties
and names the classes that are generated.

* `Session.register` : adds an entity, unless it is transient;
* `Session.describe` : the properties of an entity, resolved in order;
* `Session.synthetic` : the property that stands for a single value of a type;
* `Session.packageFor`, `className`, `rootNode` : package, name and root element of a generated
  class.
-/

namespace XmlBinding

/-- What every generated class is made from. -/
structure Session where
  config : Config
  catalog : Catalog
  entities : SortedMap String Entity
  deriving Repr

namespace Session

/-! ## Entities -/

/-- The session with one more entity, which replaces one of the same name. Transient entities are
passed over. -/
def register (s : Session) (e : Entity) : Session :=
  if e.descriptor.transient then s else { s with entities := s.entities.insert e.name e }

/-- The registered entity of a type. -/
def entity? (s : Session) : JavaType → Option Entity
  | .reference q => s.entities.find? q
  | _ => none

def isEntity (s : Session) (t : JavaType) : Bool := (s.entity? t).isSome

/-! ## Properties -/

/-- Reads a type that a marker names. -/
def markerType (e : Entity) (text : String) : Except Failure JavaType :=
  (JavaType.parse e.package text).mapError fun fault => .schema (.type fault)

/-- Category of a collection with a marker. -/
def collectionCategory (e : Entity) (p : BeanProperty) (kind : CollectionKind)
    (marker : CollectionMarker) : Except Failure Category :=
  match marker.element with
  | none => .error (.missingElementType e.name p.name kind.marker)
  | some element => do
    return .collection kind (← markerType e element)
      (← markerType e (marker.implementation.getD kind.standardClass))

/-- Category of a map with a marker. -/
def mapCategory (e : Entity) (p : BeanProperty) (marker : MapMarker) : Except Failure Category :=
  match marker.key, marker.entry with
  | some key, some entry => do
    return .map (← markerType e key) (← markerType e entry)
      (← markerType e (marker.implementation.getD "java.util.HashMap"))
  | _, _ => .error (.missingElementType e.name p.name "map")

/-- What kind of value a property has. Markers count only on maps and collections. -/
def classify (s : Session) (e : Entity) (p : BeanProperty) : Except Failure Category :=
  match p.type.component? with
  | some component => .ok (.array component)
  | none =>
    if p.type.isMap then
      match p.descriptor.map with
      | some marker => mapCategory e p marker
      | none => .ok .basic
    else if p.type.isCollection then
      match p.descriptor.list, p.descriptor.set with
      | some marker, _ => collectionCategory e p .list marker
      | none, some marker => collectionCategory e p .set marker
      | none, none => .ok .basic
    else if s.isEntity p.type then .ok .entity
    else .ok .basic

/-- Refuses a default that is no literal of the property's type. The word `new` and the defaults of
strings and of types that are no scalars are free. -/
def checkDefault (e : Entity) (p : BeanProperty) (value : String) : Except Failure Unit :=
  if value = "new" then .ok ()
  else
    match ScalarKind.of? p.type with
    | none | some .string => .ok ()
    | some kind =>
      match kind.read value with
      | .ok _ => .ok ()
      | .error fault => .error (.invalidDefault e.name p.name value fault)

/-- The resolved property of an entity. -/
def describeProperty (s : Session) (e : Entity) (p : BeanProperty) : Except Failure Property := do
  let category ← s.classify e p
  match p.descriptor.default with
  | some value => checkDefault e p value
  | none => pure ()
  return {
    name := p.name
    type := p.type
    getter := p.getter
    setter := p.setter
    category
    node := .resolve p.name p.descriptor.node
    transience := p.descriptor.transience
    lazy := p.descriptor.lazy
    bindable := p.descriptor.bindable <|> e.descriptor.bindable
    default := p.descriptor.default
    synthetic := false }

/-- The resolved properties of an entity, in order. Those hidden everywhere are dropped before their
markers are read. -/
def describe (s : Session) (e : Entity) : Except Failure (List Property) :=
  (e.properties.filter fun p => p.descriptor.transience ≠ some .everywhere).mapM
    (s.describeProperty e)

/-- Stands for a single value of a type. -/
def synthetic (s : Session) (t : JavaType) : Property where
  name := "type"
  type := t
  getter := "getType"
  setter := some "setType"
  category :=
    match t.component? with
    | some component => .array component
    | none => if s.isEntity t then .entity else .basic
  node := .resolve "type" none
  transience := some .marshalling
  lazy := none
  bindable := none
  default := none
  synthetic := true

/-! ## Generated classes -/

/-- The declaration that places the class of an entity: a slot of the entity's marker that is not
empty, or that of the configuration. -/
def declarationFor (s : Session) (e : Entity) (t : Target) : String :=
  match e.descriptor.packages with
  | none => s.config.packages.get t
  | some slots => if (slots.get t).isEmpty then s.config.packages.get t else slots.get t

/-- Package of the class generated for an entity. -/
def packageFor (s : Session) (e : Entity) (t : Target) : Except Failure String :=
  let declaration := s.declarationFor e t
  (Package.resolve e.package declaration).mapError fun fault =>
    .invalidPackage e.name declaration fault

def modelName (s : Session) (e : Entity) : String := s.config.modelName e.simpleName

/-- Simple name of the class generated for an entity. -/
def className (s : Session) (e : Entity) : Target → String
  | .clientModel => s.modelName e
  | .clientBuilder => s.modelName e ++ s.config.builderSuffix
  | .serverBuilder => e.simpleName ++ s.config.builderSuffix

end Session

/-- Root element of an entity. It cannot be an attribute. -/
def Entity.rootNode (e : Entity) : Except Failure String :=
  match e.descriptor.node with
  | none => .ok e.simpleName
  | some marker =>
    if marker.toList.head? = some NodeBinding.attributeSigil then
      .error (.attributeClassNode e.name)
    else .ok marker

end XmlBinding
