import XmlBinding.Server.Reader

/-!
# Writing properties on the server

Java statements that add the value of a property to a dom4j element `el`.

* `Server.elements` : the writers of these statements.
-/

namespace XmlBinding.Server

variable {X : Type}

/-! ## Method keys -/

def getElement : String := "dom4j.get_element"

def getEntityArrayElement : String := "dom4j.get_entity_array_element"

def getEntityCollectionElement : String := "dom4j.get_entity_collection_element"

def getEntityMapElement : String := "dom4j.get_entity_map_element"

def getArrayElement : String := "dom4j.get_array_element"

def getCollectionElement : String := "dom4j.get_collection_element"

def getMapElement : String := "dom4j.get_map_element"

/-! ## Writers -/

/-- Adds the element that a call answers, under the name of the property's node. -/
def writeNested (call : String) (p : Property) : Emit (Job X) Unit := do
  Emit.line 2 ("nested = " ++ call ++ ";")
  Emit.openBlock 2 "if(nested != null)"
  Emit.line 3 ("nested.setName(\"" ++ p.node.name ++ "\");")
  Emit.line 3 "el.add(nested);"
  Emit.closeBrace 2

/-- Adds the text of a value. -/
def writeSimple (var : String) (p : Property) : Emit (Job X) Unit := do
  Emit.line 2 ("str = String.valueOf(" ++ var ++ "." ++ p.getter ++ "());")
  Emit.line 2 ("el.addElement(\"" ++ p.node.name ++ "\").setText((str == null) ? \"\" : str);")

/-- Call of a method on the value of a property. -/
def onValue (call var : String) (p : Property) : String :=
  call ++ "(" ++ var ++ "." ++ p.getter ++ "())"

/-- Adds an entity by its own builder. -/
def writeEntity (var : String) (p : Property) : Emit (Job X) Unit := do
  let builder ← Emit.builderRef p.type
  let method ← Emit.methodName getElement []
  writeNested (onValue (builder ++ "." ++ method) var p) p

/-- Adds an array by the builder of its elements or by a helper. -/
def writeArray (var : String) (p : Property) : Emit (Job X) Unit :=
  match p.category with
  | .array element => do
    let call ←
      if ← Emit.isEntity element then do
        let builder ← Emit.builderRef element
        pure (builder ++ "." ++ (← Emit.methodName getEntityArrayElement []))
      else do
        let name ← Emit.methodName getArrayElement [capitalize element.simpleName]
        discard (Emit.request ⟨getArrayElement, element.simpleName⟩ (.inl (.writeArray element)))
        pure name
    writeNested (onValue call var p) p
  | _ => pure ()

/-- Adds a collection by the builder of its elements or by a helper. -/
def writeCollection (var : String) (p : Property) : Emit (Job X) Unit :=
  match p.category with
  | .collection _ element _ => do
    let call ←
      if ← Emit.isEntity element then do
        let builder ← Emit.builderRef element
        pure (builder ++ "." ++ (← Emit.methodName getEntityCollectionElement []))
      else do
        let name ← Emit.methodName getCollectionElement []
        discard (Emit.request ⟨getCollectionElement, ""⟩ (.inl .writeCollection))
        pure name
    writeNested (onValue call var p) p
  | _ => pure ()

/-- Adds a map by the builder of its entries or by a helper. -/
def writeMap (var : String) (p : Property) : Emit (Job X) Unit :=
  match p.category with
  | .map _ entry _ => do
    let call ←
      if ← Emit.isEntity entry then do
        let builder ← Emit.builderRef entry
        pure (builder ++ ".\n" ++ (← Emit.indent 4) ++ (← Emit.methodName getEntityMapElement []))
      else do
        let name ← Emit.methodName getMapElement []
        discard (Emit.request ⟨getMapElement, ""⟩ (.inl .writeMap))
        pure name
    writeNested (onValue call var p) p
  | _ => pure ()

/-- Whatever stands on the bean. -/
def acceptsPrimary (_ : Session) (style : AccessStyle) (_ : Property) : Bool := style.isPrimary

/-- Writers of the statements that add properties. -/
def elements : PropertyRegistry (Job X) := .ofList [
  ⟨"array", 3, acceptsArray, writeArray⟩,
  ⟨"collection", 3, acceptsCollection, writeCollection⟩,
  ⟨"entity", 1, acceptsEntity, writeEntity⟩,
  ⟨"map", 1, acceptsMap, writeMap⟩,
  ⟨"simple", 0, acceptsPrimary, writeSimple⟩]

end XmlBinding.Server
