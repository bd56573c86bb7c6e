import XmlBinding.GeneratedClass
import XmlBinding.Session
import XmlBinding.Style

/-!
# Client models

ActionScript classes with a field and accessors for each property. The imports follow from the
entity alone, so the header comes first and each property is added as it arrives.

* `ClientModel.opening` : the class up to its first property;
* `ClientModel.propertySource` : the text of one property;
* `ClientModel.finish` : the finished class.
-/

namespace XmlBinding

/-- A model class that is being written. -/
structure ClientModel where
  package : String
  className : String
  source : String
  deriving DecidableEq, Repr

namespace ClientModel

def typeName (s : Session) (t : JavaType) : String :=
  match s.entity? t with
  | some entity => s.modelName entity
  | none => t.clientName

/-- Imports that the type of a property needs in a model in `package`. -/
def propertyImports (s : Session) (package : String) (p : BeanProperty) :
    Except Failure (List String) := do
  let dictionary := if p.type.isMap then ["flash.utils.Dictionary"] else []
  match s.entity? p.type with
  | none => return dictionary
  | some other =>
    let home ← s.packageFor other .clientModel
    if home.isEmpty || home == package then return dictionary
    else return dictionary ++ [qualify home (s.modelName other)]

/-- Imports of the model of an entity, in order. Transient properties need none. -/
def imports (s : Session) (e : Entity) (package : String) : Except Failure (List String) := do
  let visible := e.properties.filter fun p => p.descriptor.transience.isNone
  let named ← visible.mapM (propertyImports s package)
  let standard := ["flash.events.Event", "flash.events.EventDispatcher"]
  return (standard ++ named.flatten).foldl (fun sorted i => insertSorted i sorted) []

/-- The class of an entity up to its first property. -/
def opening (s : Session) (e : Entity) : Except Failure ClientModel := do
  let package ← s.packageFor e .clientModel
  let className := s.className e .clientModel
  let imports ← imports s e package
  let doc := match s.catalog.classDoc? "as3_model" [className, e.name] with
    | some doc => docComment s.config doc AccessStyle.as3.classLevel
    | none => ""
  let header := AccessStyle.as3.packageHeader s.config package imports
  return {
    package
    className
    source := header ++ doc ++
      AccessStyle.as3.classHeader s.config className (some "EventDispatcher") [] }

/-! ## Properties -/

/-- What a field is set to at first. -/
def initializer (type : String) : Option String → String
  | none => ""
  | some "new" => " = new " ++ type ++ "()"
  | some value => if type = "String" then " = \"" ++ value ++ "\"" else " = " ++ value

def fieldSource (c : Config) (p : Property) (type : String) : String :=
  c.indent 2 ++ "private var " ++ (if c.usingUnderscore then "_" else "") ++ p.name ++ ":" ++
    type ++ initializer type p.default ++ ";\n"

/-- The field as accessors name it. -/
def fieldRef (c : Config) (p : Property) : String :=
  (if c.usingUnderscore then "_" else "this.") ++ p.name

/-- Mark of a bindable property. -/
def bindableSource (c : Config) : Option String → String
  | none => ""
  | some event =>
    c.indent 2 ++
      (if event.isEmpty then "[Bindable()]\n" else "[Bindable(event=\"" ++ event ++ "\")]\n")

/-- The accessor that reads the field. -/
def getterSource (c : Config) (p : Property) (type : String) : String :=
  c.indent 2 ++ "public function get " ++ p.name ++ "():" ++ type ++ c.openBrace 2 ++
    c.indent 3 ++ "return " ++ fieldRef c p ++ ";\n" ++ c.indent 2 ++ "\x7d\n"

/-- The statement that tells of a change, for an event with a name. -/
def eventSource (c : Config) : Option String → String
  | none => ""
  | some event =>
    if event.isEmpty then "" else c.indent 3 ++ "dispatchEvent(new Event(\"" ++ event ++ "\"));\n"

/-- The accessor that sets the field. -/
def setterSource (c : Config) (p : Property) (type : String) : String :=
  if p.isReadOnly then ""
  else
    "\n" ++ c.indent 2 ++ "public function set " ++ p.name ++ "(value:" ++ type ++ "):void" ++
      c.openBrace 2 ++ c.indent 3 ++ fieldRef c p ++ " = value;\n" ++ eventSource c p.bindable ++
      c.indent 2 ++ "\x7d\n"

/-- Field and accessors of a property. -/
def propertySource (c : Config) (p : Property) (type : String) : String :=
  "\n" ++ fieldSource c p type ++ "\n" ++ bindableSource c p.bindable ++ getterSource c p type ++
    setterSource c p type

def add (s : Session) (p : Property) (m : ClientModel) : ClientModel :=
  { m with source := m.source ++ propertySource s.config p (typeName s p.type) }

def finish (s : Session) (m : ClientModel) : GeneratedClass where
  target := .clientModel
  package := m.package
  className := m.className
  source := m.source ++ AccessStyle.as3.classFooter s.config

end ClientModel

end XmlBinding
