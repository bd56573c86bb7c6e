import XmlBinding.Proofs.Code
import XmlBinding.Proofs.Server.Served

/-!
# The code of a server builder

* `Server.readingCode`, `writingCode`, `valueCode` : what the writers of properties write;
* `Server.standingCode`, `helperCode` : the methods of every builder and those of helpers;
  `textIn_standingCode`, `textIn_helperCode` : their texts;
* `Server.code scope jobs` : the body of a builder with the helpers for some jobs;
* `Server.reference`, `parameters`, `definition` : what the method of a helper is named by.
-/

namespace XmlBinding.Server

open Code

variable {X : Type} {scope : Scope} {style : AccessStyle} {p : Property} {t : JavaType}

/-! ## Properties -/

/-- What stands before the element in the call that fills a collection or a map. -/
def fillLeadCode (scope : Scope) (call : Piece) (implementation : JavaType) (types : String) :
    Code :=
  [call, .text ("\n" ++ scope.session.config.indent 4 ++ "new " ++ implementation.simpleName ++
    "<" ++ types ++ ">(), ")]

theorem textIn_fillLeadCode {call : Piece} {name : String}
    (h : call.textIn scope style = name ++ "(") (implementation : JavaType) (types : String) :
    (fillLeadCode scope call implementation types).textIn scope style =
      fillLead scope name implementation types := by
  simp [fillLeadCode, fillLead, h, append_literal (rfl : "(" ++ "\n" = "(\n"),
    String.append_assoc]

def readingCode (scope : Scope) (style : AccessStyle) (var : String) (p : Property) : Code :=
  let readBy (lead : Code) : Code :=
    style.accessCode scope.session.config var p lead ")" (some .element)
  match p.category with
  | .basic => [.text (scalarText scope style var p)]
  | .entity => readBy [.callOf p.type "." ⟨getInstance, []⟩]
  | .array t => if t.isArray then [] else readBy [.call ⟨getArray, [capitalize t.simpleName]⟩]
  | .collection _ t implementation =>
    readBy (fillLeadCode scope (scope.callCode t "." getEntityCollection
      ⟨getCollection, [capitalize t.wrapperName]⟩) implementation t.wrapperName)
  | .map key entry implementation =>
    readBy (fillLeadCode scope (.call ⟨getMap, [mapTypes key entry]⟩) implementation
      (key.wrapperName ++ ", " ++ entry.wrapperName))

theorem textIn_readingCode (scope : Scope) (style outer : AccessStyle) (var : String)
    (p : Property) :
    (readingCode scope style var p).textIn scope outer =
      (readAddition scope style var p : Addition (Job X)).text := by
  unfold readingCode readAddition
  cases p.category with
  | basic => simp
  | entity =>
    simp [AccessStyle.textIn_accessCode, Scope.methodName]
  | array t =>
    cases ht : t.isArray <;>
      simp [ht, AccessStyle.textIn_accessCode, Scope.methodName, arrayReader]
  | collection kind t implementation =>
    have hcall := textIn_fillLeadCode (scope.textIn_callCode outer t "." getEntityCollection
      getCollection [capitalize t.wrapperName]) implementation t.wrapperName
    simp [AccessStyle.textIn_accessCode, hcall, Scope.text_callAddition, collectionReader]
  | map key entry implementation =>
    have hname : (Piece.call ⟨getMap, [mapTypes key entry]⟩).textIn scope outer =
        scope.methodName ⟨getMap, [mapTypes key entry]⟩ ++ "(" := rfl
    have hcall := textIn_fillLeadCode hname implementation
      (key.wrapperName ++ ", " ++ entry.wrapperName)
    simp [AccessStyle.textIn_accessCode, hcall, mapReader, Scope.methodName]

/-- The statements that add a nested element. -/
def nestedCode (scope : Scope) (call : Piece) (var : String) (p : Property) : Code :=
  let c := scope.session.config
  c.lineCode 2 [.text "nested = ", call, .text (var ++ "." ++ p.getter ++ "());")] ++
    [.text (c.blockText 2 "if(nested != null)" ++
      (c.lineText 3 ("nested.setName(\"" ++ p.node.name ++ "\");") ++
        (c.lineText 3 "el.add(nested);" ++ c.lineText 2 "\x7d")))]

theorem textIn_nestedCode {call : Piece} {name : String}
    (h : call.textIn scope style = name ++ "(") (var : String) (p : Property) :
    (nestedCode scope call var p).textIn scope style =
      nestedText scope (onValue name var p) p := by
  simp [nestedCode, nestedText, onValue, h, String.append_assoc]

def writingCode (scope : Scope) (var : String) (p : Property) : Code :=
  let writeBy (call : Piece) : Code := nestedCode scope call var p
  match p.category with
  | .basic => [.text (simpleText scope var p)]
  | .entity => writeBy (.callOf p.type "." ⟨getElement, []⟩)
  | .array t =>
    if t.isArray then [.text (simpleText scope var p)]
    else
      writeBy (scope.callCode t "." getEntityArrayElement
        ⟨getArrayElement, [capitalize t.simpleName]⟩)
  | .collection _ t _ =>
    writeBy (scope.callCode t "." getEntityCollectionElement ⟨getCollectionElement, []⟩)
  | .map _ t _ =>
    writeBy (scope.callCode t (".\n" ++ scope.session.config.indent 4) getEntityMapElement
      ⟨getMapElement, []⟩)

theorem textIn_writingCode (scope : Scope) (style : AccessStyle) (var : String) (p : Property) :
    (writingCode scope var p).textIn scope style =
      (writeAddition scope var p : Addition (Job X)).text := by
  have hcall (t : JavaType) (gap standing key : String) (args : List String) :=
    textIn_nestedCode (scope.textIn_callCode style t gap standing key args) var p
  unfold writingCode writeAddition
  cases p.category with
  | basic => simp
  | entity =>
    have hname : (Piece.callOf p.type "." ⟨getElement, []⟩).textIn scope style =
        scope.builderName p.type ++ "." ++ scope.methodName ⟨getElement, []⟩ ++ "(" := rfl
    have hentity := textIn_nestedCode hname var p
    simp [hentity, Scope.methodName]
  | array t =>
    cases ht : t.isArray <;>
      simp [ht, hcall, Scope.text_callAddition, arrayWriter]
  | collection kind t implementation => simp [hcall, Scope.text_callAddition, collectionWriter]
  | map key t implementation => simp [hcall, Scope.text_callAddition, mapWriter]

/-- The expression that reads one element, key or entry. -/
def valueCode (scope : Scope) (inner : AccessStyle) (var : String) (t : JavaType) : Code :=
  if scope.session.isEntity t then [.callOf t "." ⟨getInstance, []⟩, .text (var ++ ")")]
  else [.text (scalarText scope inner var (scope.session.synthetic t))]

theorem textIn_valueCode (scope : Scope) (style inner : AccessStyle) (var : String)
    (t : JavaType) :
    (valueCode scope inner var t).textIn scope style = valueText scope inner var t := by
  unfold valueCode valueText
  cases scope.session.isEntity t <;> simp [Piece.textIn, Scope.methodName, String.append_assoc]

/-! ## Methods of every builder -/

/-- A method that fills a given collection or map. -/
def fillCode (c : Config) (docs : List String) (bound parameter : String) (m : MethodRef)
    (statements : List Code) : Code :=
  c.methodCode 1 docs ("public static <T extends " ++ bound ++ ">\n" ++ c.indent 3 ++ "T ") m
    [⟨"T", parameter, ""⟩, ⟨"Element", "els", ""⟩] ""
    (.text (c.lineText 2 "if(els == null) return null;" ++
        c.blockText 2 "for(Object obj : els.elements())") ::
      (c.linesCode 3 statements ++
        [.text (c.lineText 2 "\x7d" ++ c.lineText 2 ("return " ++ parameter ++ ";") ++
          c.lineText 1 "\x7d")]))

theorem textIn_fillCode (scope : Scope) (docs : List String) (bound parameter : String)
    (m : MethodRef) (statements : List Code) :
    (fillCode scope.session.config docs bound parameter m statements).textIn scope .dom4j =
      lead scope m.key docs ++
        fillText scope.session.config bound parameter (scope.methodName m)
          (statements.map (textIn scope .dom4j)) := by
  simp [fillCode, fillText, lead, Parameter.listText, Parameter.text, AccessStyle.isJava,
    append_literal (rfl : "(" ++ "T " = "(T "), String.append_assoc]

/-- A method that writes what a loop runs over. -/
def loopCode (c : Config) (docs : List String) (node : String) (m : MethodRef)
    (type parameter header : String) (statements : List Code) : Code :=
  c.methodCode 1 docs "public static Element " m [⟨type, parameter, ""⟩] ""
    (.text (c.lineText 2 ("if(" ++ parameter ++ " == null) return null;") ++
        c.lineText 2 ("final Element el = DocumentHelper.createElement(\"" ++ node ++ "\");") ++
        c.blockText 2 header) ::
      (c.linesCode 3 statements ++
        [.text (c.lineText 2 "\x7d" ++ c.lineText 2 "return el;" ++ c.lineText 1 "\x7d")]))

theorem textIn_loopCode (scope : Scope) (docs : List String) (node : String) (m : MethodRef)
    (type parameter header : String) (statements : List Code) :
    (loopCode scope.session.config docs node m type parameter header statements).textIn scope
        .dom4j =
      lead scope m.key docs ++
        loopText scope.session.config node (scope.methodName m) type parameter header
          (statements.map (textIn scope .dom4j)) := by
  simp [loopCode, loopText, lead, Parameter.listText, Parameter.text, AccessStyle.isJava,
    String.append_assoc]

/-- The method that reads a bean. -/
def instanceCode (scope : Scope) : Code :=
  let c := scope.session.config
  let reads := Code.ofProperties .serverRead (readingCode scope .dom4j "o")
  c.methodCode 1 [bean scope] ("public static " ++ bean scope ++ " ") ⟨getInstance, []⟩
    [⟨"Element", "el", ""⟩] ""
    (.text (c.lineText 2 "if(el == null) return null;" ++
        c.lineText 2 ("final " ++ bean scope ++ " o = new " ++ bean scope ++ "();")) ::
      (reads scope.frame.attributes ++ (reads scope.frame.elements ++
        [.text (c.lineText 2 "return o;" ++ c.lineText 1 "\x7d")])))

/-- The method that writes a bean. -/
def elementCode (scope : Scope) : Code :=
  let c := scope.session.config
  c.methodCode 1 [bean scope] "public static Element " ⟨getElement, []⟩ [⟨bean scope, "o", ""⟩] ""
    (.text (c.lineText 2 "if(o == null) return null;" ++
        c.lineText 2
          ("final Element el = DocumentHelper.createElement(\"" ++ scope.frame.node ++ "\");") ++
        c.lineText 2 "String str = null;" ++ c.lineText 2 "Element nested = null;" ++
        String.join ((scope.frame.attributes.filter fun p => !p.isLazy .serverWrite).map
          (attributeText c))) ::
      (Code.ofProperties .serverWrite (writingCode scope "o") scope.frame.elements ++
        [.text (c.lineText 2 "return el;" ++ c.lineText 1 "\x7d")]))

def beanFillCode (scope : Scope) : Code :=
  fillCode scope.session.config [bean scope] ("Collection<" ++ bean scope ++ ">") "coll"
    ⟨getEntityCollection, []⟩
    [[.text "coll.add(", .call ⟨getInstance, []⟩, .text "(Element)obj));"]]

def beanLoopCode (scope : Scope) (key type parameter header : String) (statements : List Code) :
    Code :=
  loopCode scope.session.config [bean scope] scope.frame.node ⟨key, []⟩ type parameter header
    statements

def beanArrayCode (scope : Scope) : Code :=
  beanLoopCode scope getEntityArrayElement (bean scope ++ "[]") "arr"
    ("for(" ++ bean scope ++ " obj : arr)")
    [[.text "el.add(", .call ⟨getElement, []⟩, .text "obj));"]]

def beanCollectionCode (scope : Scope) : Code :=
  beanLoopCode scope getEntityCollectionElement ("Collection<" ++ bean scope ++ ">") "coll"
    ("for(" ++ bean scope ++ " obj : coll)")
    [[.text "el.add(", .call ⟨getElement, []⟩, .text "obj));"]]

def beanMapCode (scope : Scope) : Code :=
  beanLoopCode scope getEntityMapElement ("Map<?, " ++ bean scope ++ ">") "map"
    "for(Object key : map.keySet())"
    [[.text "final Element ell = ", .call ⟨getElement, []⟩, .text "map.get(key));"],
      [.text ("ell.addAttribute(\"" ++ mapKeyAttribute ++ "\", String.valueOf(key));")],
      [.text "el.add(ell);"]]

def standingCode (scope : Scope) : Code :=
  instanceCode scope ++ (elementCode scope ++ (beanFillCode scope ++ (beanArrayCode scope ++
    (beanCollectionCode scope ++ beanMapCode scope))))

theorem textIn_beanLoopCode (scope : Scope) (key type parameter header : String)
    (statements : List Code) (uses : List String) :
    (beanLoopCode scope key type parameter header statements).textIn scope .dom4j =
      (beanLoopAddition scope key type parameter header
        (statements.map (textIn scope .dom4j)) uses : Addition (Job X)).text :=
  textIn_loopCode scope [bean scope] scope.frame.node ⟨key, []⟩ type parameter header statements

theorem textIn_standingCode (scope : Scope) :
    (standingCode scope).textIn scope .dom4j =
      (standingAddition scope : Addition (Job X)).text := by
  have hreads (ps : List Property) :=
    Code.textIn_ofProperties (textIn_readingCode (X := X) scope .dom4j .dom4j "o") .serverRead ps
  have hwrites (ps : List Property) :=
    Code.textIn_ofProperties (textIn_writingCode (X := X) scope .dom4j "o") .serverWrite ps
  have hinstance : (instanceCode scope).textIn scope .dom4j =
      (instanceAddition scope : Addition (Job X)).text := by
    simp [instanceCode, instanceAddition, instanceHead, readsAddition, hreads, lead,
      Parameter.listText, Parameter.text, AccessStyle.isJava, Scope.methodName,
      String.append_assoc]
  have helement : (elementCode scope).textIn scope .dom4j =
      (elementAddition scope : Addition (Job X)).text := by
    simp [elementCode, elementAddition, elementHead, writesAddition, hwrites, lead,
      Parameter.listText, Parameter.text, AccessStyle.isJava, Scope.methodName,
      String.append_assoc]
  have hfill : (beanFillCode scope).textIn scope .dom4j =
      (beanFillAddition scope : Addition (Job X)).text := by
    simp [beanFillCode, beanFillAddition, textIn_fillCode, lead, Scope.methodName,
      String.append_assoc]
  have harray : (beanArrayCode scope).textIn scope .dom4j =
      (beanArrayAddition scope : Addition (Job X)).text := by
    unfold beanArrayCode beanArrayAddition
    rw [textIn_beanLoopCode (X := X) scope _ _ _ _ _ []]
    simp [Scope.methodName, String.append_assoc]
  have hcollection : (beanCollectionCode scope).textIn scope .dom4j =
      (beanCollectionAddition scope : Addition (Job X)).text := by
    unfold beanCollectionCode beanCollectionAddition
    rw [textIn_beanLoopCode (X := X) scope _ _ _ _ _ (scope.usesOf "java.util.Collection")]
    simp [Scope.methodName, String.append_assoc]
  have hmap : (beanMapCode scope).textIn scope .dom4j =
      (beanMapAddition scope : Addition (Job X)).text := by
    unfold beanMapCode beanMapAddition
    rw [textIn_beanLoopCode (X := X) scope _ _ _ _ _ (scope.usesOf "java.util.Map")]
    simp [Scope.methodName, String.append_assoc]
  unfold standingCode standingAddition
  simp [hinstance, helement, hfill, harray, hcollection, hmap]

/-! ## Helpers -/

def reference : ServerHelper → MethodRef
  | .readArray t => ⟨getArray, [capitalize t.simpleName]⟩
  | .readCollection t => ⟨getCollection, [capitalize t.wrapperName]⟩
  | .readMap key entry => ⟨getMap, [mapTypes key entry]⟩
  | .writeArray t => ⟨getArrayElement, [capitalize t.simpleName]⟩
  | .writeCollection => ⟨getCollectionElement, []⟩
  | .writeMap => ⟨getMapElement, []⟩

def parameters : ServerHelper → List Parameter
  | .readArray _ => [⟨"Element", "el", ""⟩]
  | .readCollection _ => [⟨"T", "coll", ""⟩, ⟨"Element", "els", ""⟩]
  | .readMap _ _ => [⟨"T", "map", ""⟩, ⟨"Element", "els", ""⟩]
  | .writeArray t => [⟨t.simpleName ++ "[]", "arr", ""⟩]
  | .writeCollection => [⟨"Collection<?>", "coll", ""⟩]
  | .writeMap => [⟨"Map<?, ?>", "map", ""⟩]

def definition (job : ServerHelper) : MethodRef × List Parameter := (reference job, parameters job)

def arrayCode (scope : Scope) (t : JavaType) : Code :=
  let c := scope.session.config
  let item := t.simpleName
  c.methodCode 1 [item] ("public static " ++ item ++ "[] ") ⟨getArray, [capitalize item]⟩
    [⟨"Element", "el", ""⟩] ""
    (.text (c.lineText 2 "if(el == null) return null;" ++
        c.lineText 2 "final List els = el.elements();" ++
        c.lineText 2 "final int size = els.size();" ++
        c.lineText 2 ("final " ++ item ++ "[] items = new " ++ item ++ "[size];") ++
        c.blockText 2 "for(int i=0; i<size; i++)" ++
        c.lineText 3 "final Element e = (Element)els.get(i);") ::
      (c.lineCode 3 (.text "items[i] = " :: (valueCode scope .dom4jText "e" t ++ [.text ";"])) ++
        [.text (c.lineText 2 "\x7d" ++ c.lineText 2 "return items;" ++ c.lineText 1 "\x7d")]))

def collectionCode (scope : Scope) (t : JavaType) : Code :=
  fillCode scope.session.config [t.wrapperName] ("Collection<" ++ t.wrapperName ++ ">") "coll"
    ⟨getCollection, [capitalize t.wrapperName]⟩
    [[.text "final Element el = (Element)obj;"],
      .text "coll.add(" :: (valueCode scope .dom4jText "el" t ++ [.text ");"])]

/-- The expression that reads an entry of a map. -/
def entryCode (scope : Scope) (entry : JavaType) : Code :=
  let value := valueCode scope .dom4jText "el" entry
  if scope.session.isEntity entry then
    .text ("\n" ++ scope.session.config.indent 5) :: value
  else value

def mapCode (scope : Scope) (key entry : JavaType) : Code :=
  fillCode scope.session.config [mapTypes key entry, key.wrapperName, entry.wrapperName]
    ("Map<" ++ key.wrapperName ++ ", " ++ entry.wrapperName ++ ">") "map"
    ⟨getMap, [mapTypes key entry]⟩
    [[.text "final Element el = (Element)obj;"],
      .text "map.put(" :: (valueCode scope .dom4jKey "el" key ++
        .text ", " :: (entryCode scope entry ++ [.text ");"]))]

/-- A helper that writes values in a loop. -/
def entryLoopCode (scope : Scope) (m : MethodRef) (doc type parameter header statement : String) :
    Code :=
  loopCode scope.session.config [doc] scope.frame.node m type parameter header [[.text statement]]

def helperCode (scope : Scope) : ServerHelper → Code
  | .readArray t => arrayCode scope t
  | .readCollection t => collectionCode scope t
  | .readMap key entry => mapCode scope key entry
  | .writeArray t =>
    entryLoopCode scope ⟨getArrayElement, [capitalize t.simpleName]⟩ t.simpleName
      (t.simpleName ++ "[]") "arr" ("for(" ++ t.simpleName ++ " obj : arr)")
      (addEntry (scope.session.config.indent 5))
  | .writeCollection =>
    entryLoopCode scope ⟨getCollectionElement, []⟩ "" "Collection<?>" "coll"
      "for(Object obj : coll)" (addEntry (scope.session.config.indent 5))
  | .writeMap =>
    entryLoopCode scope ⟨getMapElement, []⟩ "" "Map<?, ?>" "map" "for(Object key : map.keySet())"
      (addMapEntry (scope.session.config.indent 5))

theorem textIn_entryLoopCode (scope : Scope) (m : MethodRef)
    (doc type parameter header statement : String) (uses : List String) :
    (entryLoopCode scope m doc type parameter header statement).textIn scope .dom4j =
      (entryLoopAddition scope m.key m.args doc type parameter header [statement] uses :
        Addition (Job X)).text := by
  unfold entryLoopCode entryLoopAddition
  rw [textIn_loopCode, List.map_singleton, textIn_cons, textIn_nil, String.append_empty]
  rfl

theorem textIn_helperCode (scope : Scope) (job : ServerHelper) :
    (helperCode scope job).textIn scope .dom4j =
      (helperAddition scope job : Addition (Job X)).text := by
  cases job with
  | readArray t =>
    simp [helperCode, helperAddition, arrayCode, arrayAddition, arrayReader, textIn_valueCode,
      lead, Parameter.listText, Parameter.text, AccessStyle.isJava, Scope.methodName,
      String.append_assoc]
  | readCollection t =>
    simp [helperCode, helperAddition, collectionCode, collectionAddition, textIn_fillCode,
      textIn_valueCode, lead, Scope.methodName, String.append_assoc]
  | readMap key entry =>
    have hentry : (entryCode scope entry).textIn scope .dom4j = entryText scope entry := by
      unfold entryCode entryText
      cases scope.session.isEntity entry <;> simp [textIn_valueCode]
    simp [helperCode, helperAddition, mapCode, mapAddition, mapReader, textIn_fillCode,
      textIn_valueCode, hentry, lead, Scope.methodName, String.append_assoc]
  | writeArray t => exact textIn_entryLoopCode scope _ _ _ _ _ _ _
  | writeCollection => exact textIn_entryLoopCode scope _ _ _ _ _ _ _
  | writeMap => exact textIn_entryLoopCode scope _ _ _ _ _ _ _

/-! ## Bodies -/

/-- The body of a builder that has the helpers for some jobs. -/
def code (scope : Scope) (jobs : List ServerHelper) : Code :=
  standingCode scope ++ jobs.flatMap (helperCode scope)

end XmlBinding.Server
