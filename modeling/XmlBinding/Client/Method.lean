import XmlBinding.Client.Element

/-!
# Methods of a client builder

* `Client.methods` : the methods of every builder;
* `Client.emitHelper` : the methods that helpers ask for.
-/

namespace XmlBinding.Client

variable {X : Type}

/-- Simple name of the entity's model. -/
def modelName : Emit (Job X) String := do
  Emit.classRef .clientModel (← Emit.frame).entity.type

/-! ## Reading -/

def emitGetInstance : Emit (Job X) Unit := do
  let frame ← Emit.frame
  let model ← modelName
  let name ← Emit.beginMethod getInstance [] [model]
  Emit.openBlock 2 ("public static function " ++ name ++ "(nod:XML):" ++ model)
  Emit.line 3 "if(nod == null) return null;"
  Emit.line 3 ("var o:" ++ model ++ " = new " ++ model ++ "();")
  Emit.writeProperties readers "o" frame.attributes .clientRead
  Emit.writeProperties readers "o" frame.elements .clientRead
  Emit.line 3 "return o;"
  Emit.closeBrace 2

/-- A method that runs over the children of a node into a new collection. -/
def emitChildrenLoop (name type target statement : String) : Emit (Job X) Unit := do
  Emit.openBlock 2 ("public static function " ++ name ++ "(nod:XML):" ++ type)
  Emit.line 3 "if(nod == null) return null;"
  Emit.line 3 ("var " ++ target ++ ":" ++ type ++ " = new " ++ type ++ "();")
  Emit.openBlock 3 "for each(var n:XML in nod.children())"
  Emit.line 4 statement
  Emit.closeBrace 3
  Emit.line 3 ("return " ++ target ++ ";")
  Emit.closeBrace 2

/-- The statement that enters a value into the map under the key of its node. -/
def enterValue (value : String) : String :=
  "map[String(n.@" ++ mapKeyAttribute ++ ")] = " ++ value ++ ";"

def emitGetEntityArray : Emit (Job X) Unit := do
  let model ← modelName
  let single ← Emit.methodName getInstance []
  let name ← Emit.beginMethod getEntityArray [] [model]
  emitChildrenLoop name "Array" "items" ("items.push(" ++ single ++ "(n));")

def emitGetEntityMap : Emit (Job X) Unit := do
  let model ← modelName
  let single ← Emit.methodName getInstance []
  let name ← Emit.beginMethod getEntityMap [] [model]
  emitChildrenLoop name "Dictionary" "map" (enterValue (single ++ "(n)"))

/-- The helper that reads the text of a node. -/
def emitGetString : Emit (Job X) Unit := do
  let name ← Emit.beginMethod getString [] []
  Emit.openBlock 2 ("public static function " ++ name ++ "(nod:XML):String")
  Emit.line 3 "if(nod == null) return null;"
  Emit.line 3 "return nod.toString();"
  Emit.closeBrace 2

/-- The helper that reads an array of values. -/
def emitGetBasicArray (element : JavaType) : Emit (Job X) Unit := do
  let typeName := capitalize element.clientName
  let value ← valueExpression element
  let name ← Emit.beginMethod getBasicArray [typeName] [typeName]
  emitChildrenLoop name "Array" "items" ("items.push(" ++ value ++ ");")

/-- The helper that reads a map of values. -/
def emitGetBasicMap (entry : JavaType) : Emit (Job X) Unit := do
  let typeName := capitalize entry.clientName
  let value ← valueExpression entry
  let name ← Emit.beginMethod getBasicMap [typeName] [typeName]
  emitChildrenLoop name "Dictionary" "map" (enterValue value)

/-! ## Writing -/

/-- Attributes of the literal, without those that are lazy. -/
def literalAttributes (attributes : List Property) : String :=
  String.join <| (attributes.filter fun p => !p.isLazy .clientWrite).map fun p =>
    " " ++ p.node.name ++ "=\x7bo." ++ p.name ++ "\x7d"

/-- The method that writes a model. The literal is closed at once when no element stands in it. -/
def emitGetXml : Emit (Job X) Unit := do
  let frame ← Emit.frame
  let model ← modelName
  let name ← Emit.beginMethod getXml [] [model]
  Emit.openBlock 2
    ("public static function " ++ name ++ "(o:" ++ model ++ ", name:String=null):XML")
  Emit.line 3 "if(o == null) return new XML(\"\");"
  let start := "var el:XML = <" ++ frame.node ++ literalAttributes frame.attributes
  let ((), body) ← Emit.capture (Emit.writeProperties elements "o" frame.elements .clientWrite)
  if body.isEmpty then
    Emit.line 3 (start ++ "/>;")
  else
    Emit.line 3 (start ++ ">")
    Emit.write body
    Emit.line 3 ("</" ++ frame.node ++ ">;")
  Emit.line 3 "if(name != null) el.setName(name);"
  Emit.line 3 "return el;"
  Emit.closeBrace 2

def emitGetBasicXml : Emit (Job X) Unit := do
  let name ← Emit.beginMethod getBasicXml [] []
  Emit.openBlock 2 ("public static function " ++ name ++ "(value:*, name:String):XML")
  Emit.line 3 "if(value == null) return new XML(\"\");"
  Emit.line 3 "return <\x7bname\x7d>\x7bvalue\x7d</\x7bname\x7d>;"
  Emit.closeBrace 2

/-- A method that runs over a collection into a new node. -/
def emitListXml (name parameter type header : String) (statements : List String) :
    Emit (Job X) Unit := do
  Emit.openBlock 2
    ("public static function " ++ name ++ "(" ++ parameter ++ ":" ++ type ++ ", name:String):XML")
  Emit.line 3 ("if(" ++ parameter ++ " == null) return new XML(\"\");")
  Emit.line 3 "var nod:XML = <\x7bname\x7d />;"
  Emit.openBlock 3 header
  statements.forM fun s => Emit.line 4 s
  Emit.closeBrace 3
  Emit.line 3 "return nod;"
  Emit.closeBrace 2

/-- The method that writes an array of models. -/
def emitGetEntityXmlList : Emit (Job X) Unit := do
  let model ← modelName
  let single ← Emit.methodName getXml []
  let name ← Emit.beginMethod getEntityXmlList [] [model]
  emitListXml name "items" "Array" ("for each(var i:" ++ model ++ " in items)")
    ["nod.appendChild(" ++ single ++ "(i));"]

/-- The method that writes an array of values. -/
def emitGetBasicXmlList : Emit (Job X) Unit := do
  let name ← Emit.beginMethod getBasicXmlList [] []
  emitListXml name "items" "Array" "for each(var i:* in items)"
    ["nod.appendChild(<" ++ entryElement ++ ">\x7bi\x7d</" ++ entryElement ++ ">);"]

def emitGetEntityMapXml : Emit (Job X) Unit := do
  let model ← modelName
  let single ← Emit.methodName getXml []
  let name ← Emit.beginMethod getEntityMapXml [] [model]
  emitListXml name "map" "Dictionary" "for(var key:* in map)"
    ["var el:XML = " ++ single ++ "(map[key]);", "el.@" ++ mapKeyAttribute ++ " = key;",
     "nod.appendChild(el);"]

/-- The helper that writes a map of values. -/
def emitGetBasicMapXml : Emit (Job X) Unit := do
  let name ← Emit.beginMethod getBasicMapXml [] []
  emitListXml name "map" "Dictionary" "for(var key:* in map)"
    ["nod.appendChild(<" ++ entryElement ++ " " ++ mapKeyAttribute ++
      "=\x7bkey\x7d>\x7bmap[key]\x7d</" ++ entryElement ++ ">);"]

/-! ## All methods -/

def methods : MethodRegistry (Job X) := .ofList [
  ⟨getInstance, 0, emitGetInstance⟩,
  ⟨getXml, 0, emitGetXml⟩,
  ⟨getBasicXml, 0, emitGetBasicXml⟩,
  ⟨getEntityArray, 0, emitGetEntityArray⟩,
  ⟨getEntityXmlList, 0, emitGetEntityXmlList⟩,
  ⟨getBasicXmlList, 0, emitGetBasicXmlList⟩,
  ⟨getEntityMap, 0, emitGetEntityMap⟩,
  ⟨getEntityMapXml, 0, emitGetEntityMapXml⟩]

def emitHelper : ClientHelper → Emit (Job X) Unit
  | .readString => emitGetString
  | .readArray element => emitGetBasicArray element
  | .readMap entry => emitGetBasicMap entry
  | .writeMap => emitGetBasicMapXml

end XmlBinding.Client
