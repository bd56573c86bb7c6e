import XmlBinding.Writer

/-!
# Reading properties on the client

ActionScript statements that take the value of a property from an E4X node `nod`. What a helper
method has to do is asked for by a `ClientHelper`.

* `ClientHelper` : the helper methods of a client builder;
* `Client.readers` : the writers of the reading statements;
* `Client.valueExpression` : the expression that reads one element or entry.
-/

namespace XmlBinding

/-- Helper methods of a client builder. -/
inductive ClientHelper where
  | readString
  | readArray (element : JavaType)
  | readMap (entry : JavaType)
  | writeMap
  deriving DecidableEq, Repr

namespace Client

/-- Helper jobs of a client builder, with those of a caller's own. -/
abbrev Job (X : Type) := ClientHelper ⊕ X

variable {X : Type}

/-! ## Method keys -/

def getInstance : String := "as3.get_instance"

def getString : String := "as3.get_string"

def getBasicArray : String := "as3.get_basic_array"

def getBasicMap : String := "as3.get_basic_map"

def getEntityArray : String := "as3.get_entity_array"

def getEntityMap : String := "as3.get_entity_map"

/-! ## Acceptance -/

/-- Basic properties with a scalar type of a name. -/
def acceptsScalar (name : String) (_ : Session) (_ : AccessStyle) (p : Property) : Bool :=
  p.scalar?.map ScalarKind.clientName = some name

def acceptsEntity (_ : Session) (_ : AccessStyle) (p : Property) : Bool := p.isEntity

/-- Element of an array or a collection, on the bean. -/
def sequenceElement? (style : AccessStyle) (p : Property) : Option JavaType :=
  if style.isPrimary then p.category.element? else none

/-- Arrays and collections, on the bean. -/
def acceptsSequence (_ : Session) (style : AccessStyle) (p : Property) : Bool :=
  (sequenceElement? style p).isSome

/-- Arrays and collections of values, on the bean. -/
def acceptsBasicArray (s : Session) (style : AccessStyle) (p : Property) : Bool :=
  (sequenceElement? style p).any fun element => !s.isEntity element

/-- Arrays and collections of entities, on the bean. -/
def acceptsEntityArray (s : Session) (style : AccessStyle) (p : Property) : Bool :=
  (sequenceElement? style p).any s.isEntity

/-- Entry of a map, on the bean. -/
def mapValue? (style : AccessStyle) (p : Property) : Option JavaType :=
  match p.category with
  | .map _ entry _ => if style.isPrimary then some entry else none
  | _ => none

/-- Maps of values, on the bean. -/
def acceptsBasicMap (s : Session) (style : AccessStyle) (p : Property) : Bool :=
  (mapValue? style p).any fun entry => !s.isEntity entry

/-- Maps of entities, on the bean. -/
def acceptsEntityMap (s : Session) (style : AccessStyle) (p : Property) : Bool :=
  (mapValue? style p).any s.isEntity

/-! ## Writers -/

/-- Reads a scalar whose conversion stands around its node. -/
def readScalar (lead tail var : String) (p : Property) : Emit (Job X) Unit :=
  Emit.access var p lead tail none

/-- End of a call on a child element: its first match on the bean, the node itself in a helper. -/
def nodeTail : Emit (Job X) String := do return if (← Emit.style).isPrimary then "[0])" else ")"

def readString (var : String) (p : Property) : Emit (Job X) Unit := do
  let name ← Emit.methodName getString []
  discard (Emit.request ⟨getString, ""⟩ (.inl .readString))
  let tail ← if p.node.isAttribute then pure ")" else nodeTail
  Emit.access var p (name ++ "(") tail none

/-- Reads an entity by its own builder. -/
def readEntity (var : String) (p : Property) : Emit (Job X) Unit := do
  let builder ← Emit.builderRef p.type
  let method ← Emit.methodName getInstance []
  Emit.access var p (builder ++ "." ++ method ++ "(") (← nodeTail) (some .element)

/-- Reads an array or a collection of values by a helper for their client type. -/
def readBasicArray (var : String) (p : Property) : Emit (Job X) Unit :=
  match p.category.element? with
  | some element => do
    let typeName := capitalize element.clientName
    let name ← Emit.methodName getBasicArray [typeName]
    discard (Emit.request ⟨getBasicArray, typeName⟩ (.inl (.readArray element)))
    Emit.access var p (name ++ "(") "[0])" (some .element)
  | none => pure ()

/-- Reads an array or a collection of entities by their builder. -/
def readEntityArray (var : String) (p : Property) : Emit (Job X) Unit :=
  match p.category.element? with
  | some element => do
    let builder ← Emit.builderRef element
    let method ← Emit.methodName getEntityArray []
    Emit.access var p (builder ++ "." ++ method ++ "(") "[0])" (some .element)
  | none => pure ()

/-- Reads a map of values by a helper for their client type. -/
def readBasicMap (var : String) (p : Property) : Emit (Job X) Unit :=
  match p.category with
  | .map _ entry _ => do
    let typeName := capitalize entry.clientName
    let name ← Emit.methodName getBasicMap [typeName]
    discard (Emit.request ⟨getBasicMap, typeName⟩ (.inl (.readMap entry)))
    Emit.access var p (name ++ "(") "[0])" (some .element)
  | _ => pure ()

/-- Reads a map of entities by their builder. -/
def readEntityMap (var : String) (p : Property) : Emit (Job X) Unit :=
  match p.category with
  | .map _ entry _ => do
    let builder ← Emit.builderRef entry
    let method ← Emit.methodName getEntityMap []
    Emit.access var p (builder ++ "." ++ method ++ "(") "[0])" (some .element)
  | _ => pure ()

/-- Writers of the reading statements. -/
def readers : PropertyRegistry (Job X) := .ofList [
  ⟨"int", 0, acceptsScalar "int", readScalar "int(" ")"⟩,
  ⟨"number", 0, acceptsScalar "Number", readScalar "Number(" ")"⟩,
  ⟨"boolean", 0, acceptsScalar "Boolean", readScalar "(" " == \"true\")"⟩,
  ⟨"string", 1, acceptsScalar "String", readString⟩,
  ⟨"entity", 1, acceptsEntity, readEntity⟩,
  ⟨"basic_array", 1, acceptsBasicArray, readBasicArray⟩,
  ⟨"entity_array", 2, acceptsEntityArray, readEntityArray⟩,
  ⟨"basic_map", 2, acceptsBasicMap, readBasicMap⟩,
  ⟨"entity_map", 3, acceptsEntityMap, readEntityMap⟩]

/-- Expression that reads one element or entry from the node `n`. -/
def valueExpression (t : JavaType) : Emit (Job X) String :=
  Emit.expression readers .as3Text "n" t

end Client

end XmlBinding
