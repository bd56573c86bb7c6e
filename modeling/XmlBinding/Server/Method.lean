import XmlBinding.Server.Element

/-!
# Methods of a server builder

* `Server.methods` : the methods of every builder;
* `Server.emitHelper` : the methods that helpers ask for.
-/

namespace XmlBinding.Server

variable {X : Type}

/-- Class that creates elements. -/
def documentHelper : String := "org.dom4j.DocumentHelper"

/-- Simple name of the entity's bean. -/
def beanName : Emit (Job X) String := do Emit.javaRef (← Emit.frame).entity.type

/-! ## Reading -/

def emitGetInstance : Emit (Job X) Unit := do
  let frame ← Emit.frame
  let bean ← beanName
  let name ← Emit.beginMethod getInstance [] [bean]
  Emit.openBlock 1 ("public static " ++ bean ++ " " ++ name ++ "(Element el)")
  Emit.line 2 "if(el == null) return null;"
  Emit.line 2 ("final " ++ bean ++ " o = new " ++ bean ++ "();")
  Emit.writeProperties readers "o" frame.attributes .serverRead
  Emit.writeProperties readers "o" frame.elements .serverRead
  Emit.line 2 "return o;"
  Emit.closeBrace 1

/-- A method that fills a given collection or map with what stands under an element. -/
def emitFill (bound parameter name : String) (statements : List String) : Emit (Job X) Unit := do
  Emit.openBlock 1 ("public static <T extends " ++ bound ++ ">\n" ++ (← Emit.indent 3) ++ "T " ++
    name ++ "(T " ++ parameter ++ ", Element els)")
  Emit.line 2 "if(els == null) return null;"
  Emit.openBlock 2 "for(Object obj : els.elements())"
  statements.forM fun s => Emit.line 3 s
  Emit.closeBrace 2
  Emit.line 2 ("return " ++ parameter ++ ";")
  Emit.closeBrace 1

def emitGetEntityCollection : Emit (Job X) Unit := do
  let bean ← beanName
  let single ← Emit.methodName getInstance []
  let name ← Emit.beginMethod getEntityCollection [] [bean]
  Emit.importClass "java.util.Collection"
  emitFill ("Collection<" ++ bean ++ ">") "coll" name
    ["coll.add(" ++ single ++ "((Element)obj));"]

def emitGetArray (element : JavaType) : Emit (Job X) Unit := do
  let item ← Emit.javaRef element
  let value ← valueExpression .dom4jText "e" element
  let name ← Emit.beginMethod getArray [capitalize element.simpleName] [item]
  Emit.importClass "java.util.List"
  Emit.openBlock 1 ("public static " ++ item ++ "[] " ++ name ++ "(Element el)")
  Emit.line 2 "if(el == null) return null;"
  Emit.line 2 "final List els = el.elements();"
  Emit.line 2 "final int size = els.size();"
  Emit.line 2 ("final " ++ item ++ "[] items = new " ++ item ++ "[size];")
  Emit.openBlock 2 "for(int i=0; i<size; i++)"
  Emit.line 3 "final Element e = (Element)els.get(i);"
  Emit.line 3 ("items[i] = " ++ value ++ ";")
  Emit.closeBrace 2
  Emit.line 2 "return items;"
  Emit.closeBrace 1

def emitGetCollection (element : JavaType) : Emit (Job X) Unit := do
  Emit.importType element
  let wrapper := element.wrapperName
  let value ← valueExpression .dom4jText "el" element
  let name ← Emit.beginMethod getCollection [capitalize wrapper] [wrapper]
  Emit.importClass "java.util.Collection"
  emitFill ("Collection<" ++ wrapper ++ ">") "coll" name
    ["final Element el = (Element)obj;", "coll.add(" ++ value ++ ");"]

def emitGetMap (key entry : JavaType) : Emit (Job X) Unit := do
  Emit.importType key
  Emit.importType entry
  let types := mapTypes key entry
  let keyValue ← valueExpression .dom4jKey "el" key
  let entryValue ← valueExpression .dom4jText "el" entry
  let entryValue ←
    if ← Emit.isEntity entry then pure ("\n" ++ (← Emit.indent 5) ++ entryValue)
    else pure entryValue
  let name ← Emit.beginMethod getMap [types] [types, key.wrapperName, entry.wrapperName]
  Emit.importClass "java.util.Map"
  emitFill ("Map<" ++ key.wrapperName ++ ", " ++ entry.wrapperName ++ ">") "map" name
    ["final Element el = (Element)obj;", "map.put(" ++ keyValue ++ ", " ++ entryValue ++ ");"]

/-! ## Writing -/

def emitGetElement : Emit (Job X) Unit := do
  let frame ← Emit.frame
  let bean ← beanName
  let name ← Emit.beginMethod getElement [] [bean]
  Emit.importClass documentHelper
  Emit.openBlock 1 ("public static Element " ++ name ++ "(" ++ bean ++ " o)")
  Emit.line 2 "if(o == null) return null;"
  Emit.line 2 ("final Element el = DocumentHelper.createElement(\"" ++ frame.node ++ "\");")
  Emit.line 2 "String str = null;"
  Emit.line 2 "Element nested = null;"
  (frame.attributes.filter fun p => !p.isLazy .serverWrite).forM fun p => do
    Emit.line 2 ("str = String.valueOf(o." ++ p.getter ++ "());")
    Emit.line 2 ("el.addAttribute(\"" ++ p.node.name ++ "\", ((str == null) ? \"\" : str));")
  Emit.writeProperties elements "o" frame.elements .serverWrite
  Emit.line 2 "return el;"
  Emit.closeBrace 1

/-- A method that writes what a loop runs over into an element. The parameter is a type and a name.
-/
def emitElementLoop (key : String) (nameArgs : List String) (doc type parameter header : String)
    (statements : List String) : Emit (Job X) Unit := do
  let name ← Emit.beginMethod key nameArgs [doc]
  Emit.importClass documentHelper
  let node := (← Emit.frame).node
  Emit.openBlock 1 ("public static Element " ++ name ++ "(" ++ type ++ " " ++ parameter ++ ")")
  Emit.line 2 ("if(" ++ parameter ++ " == null) return null;")
  Emit.line 2 ("final Element el = DocumentHelper.createElement(\"" ++ node ++ "\");")
  Emit.openBlock 2 header
  statements.forM fun s => Emit.line 3 s
  Emit.closeBrace 2
  Emit.line 2 "return el;"
  Emit.closeBrace 1

def emitGetEntityArrayElement : Emit (Job X) Unit := do
  let bean ← beanName
  let element ← Emit.methodName getElement []
  emitElementLoop getEntityArrayElement [] bean (bean ++ "[]") "arr"
    ("for(" ++ bean ++ " obj : arr)") ["el.add(" ++ element ++ "(obj));"]

def emitGetEntityCollectionElement : Emit (Job X) Unit := do
  let bean ← beanName
  let element ← Emit.methodName getElement []
  Emit.importClass "java.util.Collection"
  emitElementLoop getEntityCollectionElement [] bean ("Collection<" ++ bean ++ ">") "coll"
    ("for(" ++ bean ++ " obj : coll)") ["el.add(" ++ element ++ "(obj));"]

def emitGetEntityMapElement : Emit (Job X) Unit := do
  let bean ← beanName
  let element ← Emit.methodName getElement []
  Emit.importClass "java.util.Map"
  emitElementLoop getEntityMapElement [] bean ("Map<?, " ++ bean ++ ">") "map"
    "for(Object key : map.keySet())"
    ["final Element ell = " ++ element ++ "(map.get(key));",
     "ell.addAttribute(\"" ++ mapKeyAttribute ++ "\", String.valueOf(key));",
     "el.add(ell);"]

/-- The statement that adds an entry with the text of a variable. -/
def addEntry (indent : String) : String :=
  "el.addElement(\"" ++ entryElement ++ "\").\n" ++ indent ++ "setText(String.valueOf(obj));"

def emitGetArrayElement (element : JavaType) : Emit (Job X) Unit := do
  let item ← Emit.javaRef element
  let statement := addEntry (← Emit.indent 5)
  emitElementLoop getArrayElement [capitalize element.simpleName] item (item ++ "[]") "arr"
    ("for(" ++ item ++ " obj : arr)") [statement]

def emitGetCollectionElement : Emit (Job X) Unit := do
  Emit.importClass "java.util.Collection"
  let statement := addEntry (← Emit.indent 5)
  emitElementLoop getCollectionElement [] "" "Collection<?>" "coll" "for(Object obj : coll)"
    [statement]

def emitGetMapElement : Emit (Job X) Unit := do
  Emit.importClass "java.util.Map"
  let indent ← Emit.indent 5
  emitElementLoop getMapElement [] "" "Map<?, ?>" "map" "for(Object key : map.keySet())"
    ["el.addElement(\"" ++ entryElement ++ "\").\n" ++ indent ++ "addAttribute(\"" ++
      mapKeyAttribute ++ "\", String.valueOf(key)).\n" ++ indent ++
      "setText(String.valueOf(map.get(key)));"]

/-! ## All methods -/

def methods : MethodRegistry (Job X) := .ofList [
  ⟨getInstance, 0, emitGetInstance⟩,
  ⟨getElement, 0, emitGetElement⟩,
  ⟨getEntityCollection, 0, emitGetEntityCollection⟩,
  ⟨getEntityArrayElement, 0, emitGetEntityArrayElement⟩,
  ⟨getEntityCollectionElement, 0, emitGetEntityCollectionElement⟩,
  ⟨getEntityMapElement, 0, emitGetEntityMapElement⟩]

def emitHelper : ServerHelper → Emit (Job X) Unit
  | .readArray element => emitGetArray element
  | .readCollection element => emitGetCollection element
  | .readMap key entry => emitGetMap key entry
  | .writeArray element => emitGetArrayElement element
  | .writeCollection => emitGetCollectionElement
  | .writeMap => emitGetMapElement

end XmlBinding.Server
