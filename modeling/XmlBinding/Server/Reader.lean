import XmlBinding.Writer

/-!
# Reading properties on the server

Java statements that take the value of a property from a dom4j element `el`. What a helper method
has to do is asked for by a `ServerHelper`.

* `ServerHelper` : the helper methods of a server builder;
* `Server.readers` : the writers of the reading statements;
* `Server.valueExpression` : the expression that reads one element, key or entry.
-/

namespace XmlBinding

/-- Helper methods of a server builder. -/
inductive ServerHelper where
  | readArray (element : JavaType)
  | readCollection (element : JavaType)
  | readMap (key entry : JavaType)
  | writeArray (element : JavaType)
  | writeCollection
  | writeMap
  deriving DecidableEq, Repr

namespace Server

/-- Helper jobs of a server builder, with those of a caller's own. -/
abbrev Job (X : Type) := ServerHelper ⊕ X

variable {X : Type}

/-! ## Method keys -/

def getInstance : String := "dom4j.get_instance"

def getEntityCollection : String := "dom4j.get_entity_collection"

def getArray : String := "dom4j.get_array"

def getCollection : String := "dom4j.get_collection"

def getMap : String := "dom4j.get_map"

/-! ## Writers -/

/-- Reads a scalar from the text of its node. -/
def readScalar (var : String) (p : Property) : Emit (Job X) Unit :=
  match ScalarKind.of? p.type with
  | some kind => Emit.access var p kind.javaParse.1 kind.javaParse.2 none
  | none => pure ()

def readEntity (var : String) (p : Property) : Emit (Job X) Unit := do
  let builder ← Emit.builderRef p.type
  let method ← Emit.methodName getInstance []
  Emit.access var p (builder ++ "." ++ method ++ "(") ")" (some .element)

/-- Reads an array by a helper for its element type. -/
def readArray (var : String) (p : Property) : Emit (Job X) Unit :=
  match p.category with
  | .array element => do
    let name ← Emit.methodName getArray [capitalize element.simpleName]
    discard (Emit.request ⟨getArray, element.simpleName⟩ (.inl (.readArray element)))
    Emit.access var p (name ++ "(") ")" (some .element)
  | _ => pure ()

/-- The call that fills a collection: a method of the entity's builder, or a helper. -/
def collectionCall (element : JavaType) : Emit (Job X) String := do
  if ← Emit.isEntity element then
    let builder ← Emit.builderRef element
    return builder ++ "." ++ (← Emit.methodName getEntityCollection [])
  else
    let name ← Emit.methodName getCollection [capitalize element.wrapperName]
    discard (Emit.request ⟨getCollection, element.wrapperName⟩ (.inl (.readCollection element)))
    return name

/-- Reads a collection into a new one of its implementation. -/
def readCollection (var : String) (p : Property) : Emit (Job X) Unit :=
  match p.category with
  | .collection _ element implementation => do
    let implementation ← Emit.javaRef implementation
    Emit.importType element
    let call ← collectionCall element
    let lead := call ++ "(\n" ++ (← Emit.indent 4) ++ "new " ++ implementation ++ "<" ++
      element.wrapperName ++ ">(), "
    Emit.access var p lead ")" (some .element)
  | _ => pure ()

/-- Key and entry type of a map in the name of its helper. -/
def mapTypes (key entry : JavaType) : String :=
  capitalize key.wrapperName ++ capitalize entry.wrapperName

/-- Reads a map into a new one of its implementation. The keys stand in attributes, so they cannot
be entities. -/
def readMap (var : String) (p : Property) : Emit (Job X) Unit :=
  match p.category with
  | .map key entry implementation => do
    if ← Emit.isEntity key then
      throw (.complexAttribute (← Emit.frame).entity.name p.name)
    let implementation ← Emit.javaRef implementation
    Emit.importType key
    Emit.importType entry
    let types := mapTypes key entry
    let name ← Emit.methodName getMap [types]
    discard (Emit.request ⟨getMap, types⟩ (.inl (.readMap key entry)))
    let lead := name ++ "(\n" ++ (← Emit.indent 4) ++ "new " ++ implementation ++ "<" ++
      key.wrapperName ++ ", " ++ entry.wrapperName ++ ">(), "
    Emit.access var p lead ")" (some .element)
  | _ => pure ()

/-! ## Acceptance -/

/-- Basic properties of a scalar type. -/
def acceptsScalar (_ : Session) (_ : AccessStyle) (p : Property) : Bool := p.scalar?.isSome

/-- Entities, on the bean. -/
def acceptsEntity (_ : Session) (style : AccessStyle) (p : Property) : Bool :=
  style.isPrimary && p.isEntity

/-- Arrays whose elements are no arrays, on the bean. -/
def acceptsArray (_ : Session) (style : AccessStyle) (p : Property) : Bool :=
  style.isPrimary &&
    match p.category with
    | .array element => !element.isArray
    | _ => false

/-- Collections, on the bean. -/
def acceptsCollection (_ : Session) (style : AccessStyle) (p : Property) : Bool :=
  style.isPrimary &&
    match p.category with
    | .collection .. => true
    | _ => false

/-- Maps, on the bean. -/
def acceptsMap (_ : Session) (style : AccessStyle) (p : Property) : Bool :=
  style.isPrimary &&
    match p.category with
    | .map .. => true
    | _ => false

/-- Writers of the reading statements. -/
def readers : PropertyRegistry (Job X) := .ofList [
  ⟨"scalar", 0, acceptsScalar, readScalar⟩,
  ⟨"entity", 5, acceptsEntity, readEntity⟩,
  ⟨"array", 5, acceptsArray, readArray⟩,
  ⟨"collection", 5, acceptsCollection, readCollection⟩,
  ⟨"map", 5, acceptsMap, readMap⟩]

/-- Expression that reads one element, key or entry from `var`. -/
def valueExpression (style : AccessStyle) (var : String) (t : JavaType) : Emit (Job X) String := do
  if ← Emit.isEntity t then
    let builder ← Emit.builderRef t
    let method ← Emit.methodName getInstance []
    return builder ++ "." ++ method ++ "(" ++ var ++ ")"
  else Emit.expression readers style var t

end Server

end XmlBinding
