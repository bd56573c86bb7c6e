import XmlBinding.Target
import XmlBinding.Toml.Decode
import XmlBinding.Toml.Document

/-!
# Entity descriptors

What a descriptor file says of an entity: its name, its properties and the markers on both. A file
describes one entity, or several under the key `entity`.

* `EntityDescriptor`, `PropertyDescriptor` : the descriptors as written;
* `EntityDescriptor.ofValue` : reads one out of a table, without unknown keys;
* `Descriptor.parse text` : the descriptors of a file.
-/

namespace XmlBinding

/-- How far a property is hidden. -/
inductive Transience where
  /-- From every class. -/
  | everywhere
  /-- From all use of the property in a class. -/
  | marshalling
  deriving DecidableEq, Repr

/-- Directions that leave the property out. -/
structure LazyMarker where
  serverRead : Bool
  serverWrite : Bool
  clientRead : Bool
  clientWrite : Bool
  deriving DecidableEq, Repr

/-- Whether a direction leaves the property out. -/
def LazyMarker.get (m : LazyMarker) : Direction → Bool
  | .serverRead => m.serverRead
  | .serverWrite => m.serverWrite
  | .clientRead => m.clientRead
  | .clientWrite => m.clientWrite

/-- Element and implementation of a list or a set. -/
structure CollectionMarker where
  element : Option String
  implementation : Option String
  deriving DecidableEq, Repr

/-- Key, entry and implementation of a map. -/
structure MapMarker where
  key : Option String
  entry : Option String
  implementation : Option String
  deriving DecidableEq, Repr

/-- A property as written. The event of a bindable property may be empty. -/
structure PropertyDescriptor where
  name : String
  type : String
  setter : Bool
  node : Option String
  lazy : Option LazyMarker
  list : Option CollectionMarker
  set : Option CollectionMarker
  map : Option MapMarker
  transience : Option Transience
  bindable : Option String
  default : Option String
  deriving DecidableEq, Repr

/-- An entity as written. -/
structure EntityDescriptor where
  name : String
  node : Option String
  transient : Bool
  bindable : Option String
  packages : Option PackageSlots
  properties : List PropertyDescriptor
  deriving DecidableEq, Repr

open Toml (Table Value)

def bindableEvent (v : Value) : Except Toml.Fault String := do
  let t ← v.asRecord ["event"]
  t.orElse "event" Value.asText ""

/-- Reads a marker of laziness. An axis left out is lazy. -/
def LazyMarker.ofValue (v : Value) : Except Toml.Fault LazyMarker := do
  let t ← v.asRecord (Direction.all.map Direction.key)
  let axis (d : Direction) := t.orElse d.key Value.asBool true
  return ⟨← axis .serverRead, ← axis .serverWrite, ← axis .clientRead, ← axis .clientWrite⟩

/-- Reads a marker of a list or a set. -/
def CollectionMarker.ofValue (v : Value) : Except Toml.Fault CollectionMarker := do
  let t ← v.asRecord ["element", "implementation"]
  return ⟨← t.optional "element" Value.asText, ← t.optional "implementation" Value.asText⟩

def MapMarker.ofValue (v : Value) : Except Toml.Fault MapMarker := do
  let t ← v.asRecord ["key", "entry", "implementation"]
  return ⟨← t.optional "key" Value.asText, ← t.optional "entry" Value.asText,
    ← t.optional "implementation" Value.asText⟩

/-- Reads a package marker. A slot left out is empty. -/
def packageMarker (v : Value) : Except Toml.Fault PackageSlots := do
  let t ← v.asRecord (Target.all.map Target.key)
  let slot (target : Target) := t.orElse target.key Value.asText ""
  return ⟨← slot .clientModel, ← slot .clientBuilder, ← slot .serverBuilder⟩

def Transience.choices : List (String × Transience) :=
  [("public", everywhere), ("internal", marshalling)]

def PropertyDescriptor.ofValue (v : Value) : Except Toml.Fault PropertyDescriptor := do
  let t ← v.asRecord ["name", "type", "setter", "node", "lazy", "list", "set", "map", "transient",
    "bindable", "default"]
  return {
    name := ← t.required "name" Value.asText
    type := ← t.required "type" Value.asText
    setter := ← t.orElse "setter" Value.asBool true
    node := ← t.optional "node" Value.asText
    lazy := ← t.optional "lazy" LazyMarker.ofValue
    list := ← t.optional "list" CollectionMarker.ofValue
    set := ← t.optional "set" CollectionMarker.ofValue
    map := ← t.optional "map" MapMarker.ofValue
    transience := ← t.optional "transient" (Value.asChoice Transience.choices)
    bindable := ← t.optional "bindable" bindableEvent
    default := ← t.optional "default" Value.asText }

def EntityDescriptor.ofValue (v : Value) : Except Toml.Fault EntityDescriptor := do
  let t ← v.asRecord ["name", "node", "transient", "bindable", "package", "property"]
  let properties (v : Value) := do (← v.asArray).mapM PropertyDescriptor.ofValue
  return {
    name := ← t.required "name" Value.asText
    node := ← t.optional "node" Value.asText
    transient := ← t.orElse "transient" Value.asBool false
    bindable := ← t.optional "bindable" bindableEvent
    packages := ← t.optional "package" packageMarker
    properties := ← t.orElse "property" properties [] }

namespace Descriptor

def ofTable (t : Table) : Except Toml.Fault (List EntityDescriptor) :=
  match t.lookup "entity" with
  | none => (EntityDescriptor.ofValue (.table t)).map ([·])
  | some entities => do
    t.allow ["entity"]
    (← entities.asArray).mapM EntityDescriptor.ofValue

/-- The entities that the text of a file describes. -/
def parse (text : String) (toml : Toml.Reader := Toml.parse) :
    Except Toml.Fault (List EntityDescriptor) := do
  ofTable (← Toml.readMomentsOfEntries (← toml text))

end Descriptor

end XmlBinding
