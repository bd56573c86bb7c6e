import XmlBinding.Client.Reader

/-!
# Writing properties on the client

Lines of an XML literal, each a call in braces that answers the node of a property.

* `Client.elements` : the writers of these lines.
-/

namespace XmlBinding.Client

variable {X : Type}

/-! ## Method keys -/

/-- Writes a model into a node. -/
def getXml : String := "as3.get_xml"

/-- Writes a value into a node. -/
def getBasicXml : String := "as3.get_basic_xml"

/-- Writes an array of models into a node. -/
def getEntityXmlList : String := "as3.get_entity_xml_list"

/-- Writes an array of values into a node. -/
def getBasicXmlList : String := "as3.get_basic_xml_list"

/-- Writes a map of values into a node. -/
def getBasicMapXml : String := "as3.get_basic_map_xml"

/-- Writes a map of models into a node. -/
def getEntityMapXml : String := "as3.get_entity_map_xml"

/-! ## Writers -/

def literalLevel : Nat := 4

/-- A call with the value of a property and the name of its node, in braces. -/
def writeLiteralCall (call var : String) (p : Property) : Emit (Job X) Unit :=
  Emit.line literalLevel
    ("\x7b" ++ call ++ "(" ++ var ++ "." ++ p.name ++ ", \"" ++ p.node.name ++ "\")\x7d")

def writeEntityMap (var : String) (p : Property) : Emit (Job X) Unit :=
  match p.category with
  | .map _ entry _ => do
    let builder ← Emit.builderRef entry
    let method ← Emit.methodName getEntityMapXml []
    writeLiteralCall (builder ++ "." ++ method) var p
  | _ => pure ()

/-- Writes a map of values by a helper. -/
def writeBasicMap (var : String) (p : Property) : Emit (Job X) Unit := do
  let name ← Emit.methodName getBasicMapXml []
  discard (Emit.request ⟨getBasicMapXml, ""⟩ (.inl .writeMap))
  writeLiteralCall name var p

/-- Writes an array or a collection, of entities by their builder. -/
def writeArray (var : String) (p : Property) : Emit (Job X) Unit :=
  match p.category.element? with
  | some element => do
    let call ←
      if ← Emit.isEntity element then do
        let builder ← Emit.builderRef element
        pure (builder ++ "." ++ (← Emit.methodName getEntityXmlList []))
      else Emit.methodName getBasicXmlList []
    writeLiteralCall call var p
  | none => pure ()

/-- Writes an entity by its own builder. -/
def writeEntity (var : String) (p : Property) : Emit (Job X) Unit := do
  let builder ← Emit.builderRef p.type
  let method ← Emit.methodName getXml []
  writeLiteralCall (builder ++ "." ++ method) var p

/-- Writes any other value as text. -/
def writeBasic (var : String) (p : Property) : Emit (Job X) Unit := do
  writeLiteralCall (← Emit.methodName getBasicXml []) var p

def acceptsAny (_ : Session) (_ : AccessStyle) (_ : Property) : Bool := true

/-- Writers of the lines of the literal. -/
def elements : PropertyRegistry (Job X) := .ofList [
  ⟨"entity_map", 3, acceptsEntityMap, writeEntityMap⟩,
  ⟨"basic_map", 2, acceptsBasicMap, writeBasicMap⟩,
  ⟨"array", 1, acceptsSequence, writeArray⟩,
  ⟨"entity", 1, acceptsEntity, writeEntity⟩,
  ⟨"basic", -1, acceptsAny, writeBasic⟩]

end XmlBinding.Client
