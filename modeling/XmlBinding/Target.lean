/-!
# Kinds of generated classes and directions of marshalling

* `Target` : the three classes that are generated for an entity;
* `Direction` : the four passes between a bean and its XML;
* `PackageSlots` : one package declaration for each target.
-/

namespace XmlBinding

/-- Kinds of generated classes. -/
inductive Target where
  /-- Model class of the client. -/
  | clientModel
  /-- Client class that reads and writes the model as XML. -/
  | clientBuilder
  /-- Server class that reads and writes the bean as XML. -/
  | serverBuilder
  deriving DecidableEq, Repr

namespace Target

def all : List Target := [clientModel, clientBuilder, serverBuilder]

/-- Whether the class belongs to the client. -/
def isClient : Target → Bool
  | serverBuilder => false
  | _ => true

/-- Extension of the source file, with its dot. -/
def extension (t : Target) : String := if t.isClient then ".as" else ".java"

/-- Key of the target in configuration and descriptor files. -/
def key : Target → String
  | clientModel => "client_entities"
  | clientBuilder => "client_builders"
  | serverBuilder => "server_builders"

end Target

/-- Passes between a bean and its XML. -/
inductive Direction where
  | serverRead
  | serverWrite
  | clientRead
  | clientWrite
  deriving DecidableEq, Repr

namespace Direction

/-- All directions, in order. -/
def all : List Direction := [serverRead, serverWrite, clientRead, clientWrite]

def key : Direction → String
  | serverRead => "server_read"
  | serverWrite => "server_write"
  | clientRead => "client_read"
  | clientWrite => "client_write"

end Direction

/-- A package declaration for each target. -/
structure PackageSlots where
  clientModel : String
  clientBuilder : String
  serverBuilder : String
  deriving DecidableEq, Repr

namespace PackageSlots

def uniform (declaration : String) : PackageSlots := ⟨declaration, declaration, declaration⟩

def get (p : PackageSlots) : Target → String
  | .clientModel => p.clientModel
  | .clientBuilder => p.clientBuilder
  | .serverBuilder => p.serverBuilder

/-- The slots with another declaration for one target. -/
def set (p : PackageSlots) (declaration : String) : Target → PackageSlots
  | .clientModel => { p with clientModel := declaration }
  | .clientBuilder => { p with clientBuilder := declaration }
  | .serverBuilder => { p with serverBuilder := declaration }

end PackageSlots

end XmlBinding
