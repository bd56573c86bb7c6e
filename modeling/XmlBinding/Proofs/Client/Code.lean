import XmlBinding.Proofs.Client.Served
import XmlBinding.Proofs.Code

/-!
# The code of a client builder

* `Client.readingCode`, `writingCode`, `valueCode` : what the writers of properties write;
* `Client.standingCode`, `helperCode` : the methods of every builder and those of helpers;
  `textIn_standingCode`, `textIn_helperCode` : their texts;
* `Client.code scope jobs` : the body of a builder with the helpers for some jobs.
-/

namespace XmlBinding.Client

open Code

variable {X : Type} {scope : Scope} {style : AccessStyle} {p : Property} {t : JavaType}

/-! ## Properties -/

/-- The code that reads an array or a collection of a type. -/
def sequenceCode (scope : Scope) (style : AccessStyle) (var : String) (p : Property)
    (t : JavaType) : Code :=
  if style.isPrimary then
    style.accessCode scope.session.config var p
      [scope.callCode t "." getEntityArray ⟨getBasicArray, [capitalize t.clientName]⟩] "[0])"
      (some .element)
  else []

def readingCode (scope : Scope) (style : AccessStyle) (var : String) (p : Property) : Code :=
  match p.category with
  | .basic =>
    match ScalarKind.of? p.type with
    | none => []
    | some .string =>
      style.accessCode scope.session.config var p [.call ⟨getString, []⟩]
        (if p.node.isAttribute then ")" else nodeEnd style) none
    | some kind =>
      [.text (scope.accessText style var p (conversion kind).1 (conversion kind).2 none)]
  | .entity =>
    style.accessCode scope.session.config var p [.callOf p.type "." ⟨getInstance, []⟩]
      (nodeEnd style) (some .element)
  | .array t => sequenceCode scope style var p t
  | .collection _ t _ => sequenceCode scope style var p t
  | .map _ t _ =>
    if style.isPrimary then
      style.accessCode scope.session.config var p
        [scope.callCode t "." getEntityMap ⟨getBasicMap, [capitalize t.clientName]⟩] "[0])"
        (some .element)
    else []

theorem textIn_sequenceCode (scope : Scope) (style outer : AccessStyle) (var : String)
    (p : Property) (t : JavaType) :
    (sequenceCode scope style var p t).textIn scope outer =
      (sequenceAddition scope style var p t : Addition (Job X)).text := by
  unfold sequenceCode sequenceAddition
  cases style.isPrimary <;>
    simp [AccessStyle.textIn_accessCode, Scope.textIn_callCode, Scope.text_callAddition,
      sequenceReader]

theorem textIn_readingCode (scope : Scope) (style outer : AccessStyle) (var : String)
    (p : Property) :
    (readingCode scope style var p).textIn scope outer =
      (readAddition scope style var p : Addition (Job X)).text := by
  unfold readingCode readAddition
  cases p.category with
  | basic =>
    cases ScalarKind.of? p.type with
    | none => rfl
    | some kind =>
      cases kind <;>
        simp [scalarAddition, stringText, AccessStyle.textIn_accessCode, Scope.methodName]
  | entity => simp [AccessStyle.textIn_accessCode, Scope.methodName]
  | array t => exact textIn_sequenceCode scope style outer var p t
  | collection kind t implementation => exact textIn_sequenceCode scope style outer var p t
  | map key t implementation =>
    cases style.isPrimary <;>
      simp [AccessStyle.textIn_accessCode, Scope.textIn_callCode, Scope.text_callAddition,
        mapReader]

/-- The expression that reads one element or entry from the node `n`. -/
def valueCode (scope : Scope) (t : JavaType) : Code :=
  readingCode scope .as3Text "n" (scope.session.synthetic t)

def literalCode (scope : Scope) (call : Piece) (var : String) (p : Property) : Code :=
  scope.session.config.lineCode literalLevel
    [.text "\x7b", call, .text (var ++ "." ++ p.name ++ ", \"" ++ p.node.name ++ "\")\x7d")]

theorem textIn_literalCode {call : Piece} {name : String}
    (h : call.textIn scope style = name ++ "(") (var : String) (p : Property) :
    (literalCode scope call var p).textIn scope style = literalText scope name var p := by
  simp [literalCode, literalText, h, String.append_assoc]

/-- The line of the literal for a property. -/
def writingCode (scope : Scope) (var : String) (p : Property) : Code :=
  match p.category with
  | .basic => literalCode scope (.call ⟨getBasicXml, []⟩) var p
  | .entity => literalCode scope (.callOf p.type "." ⟨getXml, []⟩) var p
  | .array t =>
    literalCode scope (scope.callCode t "." getEntityXmlList ⟨getBasicXmlList, []⟩) var p
  | .collection _ t _ =>
    literalCode scope (scope.callCode t "." getEntityXmlList ⟨getBasicXmlList, []⟩) var p
  | .map _ t _ =>
    literalCode scope (scope.callCode t "." getEntityMapXml ⟨getBasicMapXml, []⟩) var p

theorem textIn_writingCode (scope : Scope) (style : AccessStyle) (var : String) (p : Property) :
    (writingCode scope var p).textIn scope style =
      (writeAddition scope var p : Addition (Job X)).text := by
  have hcall (t : JavaType) (standing key : String) :=
    textIn_literalCode (scope.textIn_callCode style t "." standing key []) var p
  unfold writingCode writeAddition
  cases p.category with
  | basic => exact textIn_literalCode rfl var p
  | entity =>
    rw [Addition.text_append, Addition.text_ofUses, String.empty_append, Addition.text_ofText]
    exact textIn_literalCode rfl var p
  | array t =>
    rw [Addition.text_append, Addition.text_ofUses, String.empty_append, Addition.text_ofText]
    exact hcall t _ _
  | collection kind t implementation =>
    rw [Addition.text_append, Addition.text_ofUses, String.empty_append, Addition.text_ofText]
    exact hcall t _ _
  | map key t implementation =>
    rw [Addition.text_append, Scope.text_callAddition, String.empty_append, Addition.text_ofText]
    exact hcall t _ _

/-! ## Methods of every builder -/

/-- A method that runs over the children of a node. -/
def childrenCode (c : Config) (docs : List String) (m : MethodRef) (type target : String)
    (statement : Code) : Code :=
  c.methodCode 2 docs "public static function " m [⟨"XML", "nod", ""⟩] (":" ++ type)
    (.text (c.lineText 3 "if(nod == null) return null;" ++
        c.lineText 3 ("var " ++ target ++ ":" ++ type ++ " = new " ++ type ++ "();") ++
        c.blockText 3 "for each(var n:XML in nod.children())") ::
      (c.lineCode 4 statement ++
        [.text (c.lineText 3 "\x7d" ++ c.lineText 3 ("return " ++ target ++ ";") ++
          c.lineText 2 "\x7d")]))

/-- The parameter of a method that reads a node, in front of its type. -/
theorem append_nodeParameter (type : String) :
    "(" ++ ("nod:XML" ++ (")" ++ (":" ++ type))) = "(nod:XML):" ++ type := by
  rw [← String.append_assoc, ← String.append_assoc, ← String.append_assoc]
  rfl

theorem textIn_childrenCode (scope : Scope) (docs : List String) (m : MethodRef)
    (type target : String) (statement : Code) :
    (childrenCode scope.session.config docs m type target statement).textIn scope .as3 =
      lead scope m.key docs ++
        childrenText scope.session.config (scope.methodName m) type target
          (statement.textIn scope .as3) := by
  simp [childrenCode, childrenText, lead, Parameter.listText, Parameter.text, AccessStyle.isJava,
    append_nodeParameter, String.append_assoc]

/-- A method that writes what a loop runs over. -/
def listCode (c : Config) (docs : List String) (m : MethodRef) (parameter type header : String)
    (statements : List Code) : Code :=
  c.methodCode 2 docs "public static function " m
    [⟨type, parameter, ""⟩, ⟨"String", "name", ""⟩] ":XML"
    (.text (c.lineText 3 ("if(" ++ parameter ++ " == null) return new XML(\"\");") ++
        c.lineText 3 "var nod:XML = <\x7bname\x7d />;" ++ c.blockText 3 header) ::
      (c.linesCode 4 statements ++
        [.text (c.lineText 3 "\x7d" ++ c.lineText 3 "return nod;" ++ c.lineText 2 "\x7d")]))

theorem textIn_listCode (scope : Scope) (docs : List String) (m : MethodRef)
    (parameter type header : String) (statements : List Code) :
    (listCode scope.session.config docs m parameter type header statements).textIn scope .as3 =
      lead scope m.key docs ++
        listText scope.session.config (scope.methodName m) parameter type header
          (statements.map (textIn scope .as3)) := by
  simp [listCode, listText, lead, Parameter.listText, Parameter.text, AccessStyle.isJava,
    String.append_assoc]

/-- The method that reads a model. -/
def instanceCode (scope : Scope) : Code :=
  let c := scope.session.config
  let reads := Code.ofProperties .clientRead (readingCode scope .as3 "o")
  c.methodCode 2 [model scope] "public static function " ⟨getInstance, []⟩
    [⟨"XML", "nod", ""⟩] (":" ++ model scope)
    (.text (c.lineText 3 "if(nod == null) return null;" ++
        c.lineText 3 ("var o:" ++ model scope ++ " = new " ++ model scope ++ "();")) ::
      (reads scope.frame.attributes ++ (reads scope.frame.elements ++
        [.text (c.lineText 3 "return o;" ++ c.lineText 2 "\x7d")])))

def literalsCode (scope : Scope) : Code :=
  let c := scope.session.config
  let start := "var el:XML = <" ++ scope.frame.node ++ literalAttributes scope.frame.attributes
  if (scope.frame.elements.filter (·.takesPart .clientWrite)).isEmpty then
    [.text (c.lineText 3 (start ++ "/>;"))]
  else
    .text (c.lineText 3 (start ++ ">")) ::
      (Code.ofProperties .clientWrite (writingCode scope "o") scope.frame.elements ++
        [.text (c.lineText 3 ("</" ++ scope.frame.node ++ ">;"))])

/-- The method that writes a model. -/
def xmlCode (scope : Scope) : Code :=
  let c := scope.session.config
  c.methodCode 2 [model scope] "public static function " ⟨getXml, []⟩
    [⟨model scope, "o", ""⟩, ⟨"String", "name", "=null"⟩] ":XML"
    (.text (c.lineText 3 "if(o == null) return new XML(\"\");") ::
      (literalsCode scope ++ [.text (xmlTail c)]))

/-- The method that writes a value. -/
def basicXmlCode (scope : Scope) : Code :=
  let c := scope.session.config
  c.methodCode 2 [] "public static function " ⟨getBasicXml, []⟩
    [⟨"*", "value", ""⟩, ⟨"String", "name", ""⟩] ":XML"
    [.text (c.lineText 3 "if(value == null) return new XML(\"\");" ++
      c.lineText 3 "return <\x7bname\x7d>\x7bvalue\x7d</\x7bname\x7d>;" ++ c.lineText 2 "\x7d")]

/-- The method that reads an array of models. -/
def beanArrayCode (scope : Scope) : Code :=
  childrenCode scope.session.config [model scope] ⟨getEntityArray, []⟩ "Array" "items"
    [.text "items.push(", .call ⟨getInstance, []⟩, .text "n));"]

/-- The statement that enters a value into the map under the key of its node. -/
def enterCode (value : Code) : Code :=
  .text ("map[String(n.@" ++ mapKeyAttribute ++ ")] = ") :: (value ++ [.text ";"])

theorem textIn_enterCode (scope : Scope) (style : AccessStyle) (value : Code) :
    (enterCode value).textIn scope style = enterValue (value.textIn scope style) := by
  have henter (text : String) : enterValue text =
      "map[String(n.@" ++ mapKeyAttribute ++ ")] = " ++ text ++ ";" := rfl
  simp [enterCode, henter, String.append_assoc]

/-- The method that reads a map of models. -/
def beanMapCode (scope : Scope) : Code :=
  childrenCode scope.session.config [model scope] ⟨getEntityMap, []⟩ "Dictionary" "map"
    (enterCode [.call ⟨getInstance, []⟩, .text "n)"])

/-- The method that writes an array of models. -/
def beanXmlListCode (scope : Scope) : Code :=
  listCode scope.session.config [model scope] ⟨getEntityXmlList, []⟩ "items" "Array"
    ("for each(var i:" ++ model scope ++ " in items)")
    [[.text "nod.appendChild(", .call ⟨getXml, []⟩, .text "i));"]]

/-- The method that writes an array of values. -/
def basicXmlListCode (scope : Scope) : Code :=
  listCode scope.session.config [] ⟨getBasicXmlList, []⟩ "items" "Array"
    "for each(var i:* in items)"
    [[.text ("nod.appendChild(<" ++ entryElement ++ ">\x7bi\x7d</" ++ entryElement ++ ">);")]]

/-- The method that writes a map of models. -/
def beanMapXmlCode (scope : Scope) : Code :=
  listCode scope.session.config [model scope] ⟨getEntityMapXml, []⟩ "map" "Dictionary"
    "for(var key:* in map)"
    [[.text "var el:XML = ", .call ⟨getXml, []⟩, .text "map[key]);"],
      [.text ("el.@" ++ mapKeyAttribute ++ " = key;")], [.text "nod.appendChild(el);"]]

def standingCode (scope : Scope) : Code :=
  instanceCode scope ++ (xmlCode scope ++ (basicXmlCode scope ++ (beanArrayCode scope ++
    (beanXmlListCode scope ++ (basicXmlListCode scope ++ (beanMapCode scope ++
      beanMapXmlCode scope))))))

/-- The literal has no lines where no element takes part. -/
theorem isEmpty_text_writesAddition (scope : Scope) (ps : List Property) :
    (writesAddition scope ps : Addition (Job X)).text.isEmpty =
      (ps.filter (·.takesPart .clientWrite)).isEmpty := by
  unfold writesAddition Addition.ofProperties
  cases ps.filter (·.takesPart .clientWrite) with
  | nil => rfl
  | cons p rest =>
    have hne := text_writeAddition_ne_empty (X := X) scope "o" p
    rw [List.map_cons, Addition.concat_cons, Addition.text_append, List.isEmpty_cons,
      Bool.eq_false_iff, Ne, String.isEmpty_iff, String.append_eq_empty_iff]
    exact fun h => hne h.1

theorem textIn_literalsCode (scope : Scope) :
    (literalsCode scope).textIn scope .as3 =
      literalOf scope (writesAddition scope scope.frame.elements : Addition (Job X)).text := by
  have hwrites :=
    Code.textIn_ofProperties (textIn_writingCode (X := X) scope .as3 "o") .clientWrite
      scope.frame.elements
  unfold literalsCode literalOf
  rw [isEmpty_text_writesAddition]
  cases (scope.frame.elements.filter (·.takesPart .clientWrite)).isEmpty <;>
    simp [hwrites, writesAddition, String.append_assoc]

theorem textIn_standingCode (scope : Scope) :
    (standingCode scope).textIn scope .as3 = (standingAddition scope : Addition (Job X)).text := by
  have hreads (ps : List Property) :=
    Code.textIn_ofProperties (textIn_readingCode (X := X) scope .as3 .as3 "o") .clientRead ps
  have hinstance : (instanceCode scope).textIn scope .as3 =
      (instanceAddition scope : Addition (Job X)).text := by
    simp [instanceCode, instanceAddition, instanceHead, readsAddition, hreads, lead,
      Parameter.listText, Parameter.text, AccessStyle.isJava, Scope.methodName,
      append_nodeParameter, String.append_assoc]
  have hxml : (xmlCode scope).textIn scope .as3 =
      (xmlAddition scope : Addition (Job X)).text := by
    simp [xmlCode, xmlAddition, xmlHead, textIn_literalsCode (X := X), lead,
      Parameter.listText, Parameter.text, AccessStyle.isJava, Scope.methodName,
      append_literal (rfl : "(" ++ "o:" = "(o:"), String.append_assoc]
  have hbasicXml : (basicXmlCode scope).textIn scope .as3 =
      (basicXmlAddition scope : Addition (Job X)).text := by
    simp [basicXmlCode, basicXmlAddition, lead, Parameter.listText, Parameter.text,
      AccessStyle.isJava, Scope.methodName, String.append_assoc]
  have harray : (beanArrayCode scope).textIn scope .as3 =
      (beanArrayAddition scope : Addition (Job X)).text := by
    simp [beanArrayCode, beanArrayAddition, beanChildrenAddition, textIn_childrenCode, lead,
      Scope.methodName, String.append_assoc]
  have hmap : (beanMapCode scope).textIn scope .as3 =
      (beanMapAddition scope : Addition (Job X)).text := by
    simp [beanMapCode, beanMapAddition, beanChildrenAddition, textIn_childrenCode, lead,
      textIn_enterCode, Scope.methodName, String.append_assoc]
  have hxmlList : (beanXmlListCode scope).textIn scope .as3 =
      (beanXmlListAddition scope : Addition (Job X)).text := by
    simp [beanXmlListCode, beanXmlListAddition, beanListAddition, textIn_listCode, lead,
      Scope.methodName, String.append_assoc]
  have hbasicList : (basicXmlListCode scope).textIn scope .as3 =
      (basicXmlListAddition scope : Addition (Job X)).text := by
    simp [basicXmlListCode, basicXmlListAddition, textIn_listCode, lead, Scope.methodName,
      String.append_assoc]
  have hmapXml : (beanMapXmlCode scope).textIn scope .as3 =
      (beanMapXmlAddition scope : Addition (Job X)).text := by
    simp [beanMapXmlCode, beanMapXmlAddition, beanListAddition, textIn_listCode, lead,
      Scope.methodName, String.append_assoc]
  unfold standingCode standingAddition
  simp [hinstance, hxml, hbasicXml, harray, hmap, hxmlList, hbasicList, hmapXml]

/-! ## Helpers -/

/-- A helper that reads values from the children of a node. -/
def valuesCode (scope : Scope) (key type target : String) (statement : Code → Code)
    (t : JavaType) : Code :=
  childrenCode scope.session.config [capitalize t.clientName] ⟨key, [capitalize t.clientName]⟩
    type target (statement (valueCode scope t))

def helperCode (scope : Scope) : ClientHelper → Code
  | .readString =>
    let c := scope.session.config
    c.methodCode 2 [] "public static function " ⟨getString, []⟩ [⟨"XML", "nod", ""⟩] ":String"
      [.text (c.lineText 3 "if(nod == null) return null;" ++
        c.lineText 3 "return nod.toString();" ++ c.lineText 2 "\x7d")]
  | .readArray t =>
    valuesCode scope getBasicArray "Array" "items"
      (fun value => .text "items.push(" :: (value ++ [.text ");"])) t
  | .readMap t => valuesCode scope getBasicMap "Dictionary" "map" enterCode t
  | .writeMap =>
    listCode scope.session.config [] ⟨getBasicMapXml, []⟩ "map" "Dictionary"
      "for(var key:* in map)"
      [[.text ("nod.appendChild(<" ++ entryElement ++ " " ++ mapKeyAttribute ++
        "=\x7bkey\x7d>\x7bmap[key]\x7d</" ++ entryElement ++ ">);")]]

theorem textIn_helperCode (scope : Scope) (job : ClientHelper) :
    (helperCode scope job).textIn scope .as3 =
      (helperAddition scope job : Addition (Job X)).text := by
  have hvalue (t : JavaType) : (valueCode scope t).textIn scope .as3 =
      (valueAddition scope t : Addition (Job X)).text :=
    textIn_readingCode scope .as3Text .as3 "n" (scope.session.synthetic t)
  cases job with
  | readString =>
    simp [helperCode, helperAddition, lead, Parameter.listText, Parameter.text,
      AccessStyle.isJava, Scope.methodName, String.append_assoc]
  | readArray t =>
    simp [helperCode, helperAddition, valuesCode, valuesAddition, textIn_childrenCode,
      hvalue, lead, Scope.methodName, String.append_assoc]
  | readMap t =>
    simp [helperCode, helperAddition, valuesCode, valuesAddition, textIn_childrenCode,
      hvalue, textIn_enterCode, lead, Scope.methodName]
  | writeMap =>
    simp [helperCode, helperAddition, textIn_listCode, lead, Scope.methodName,
      String.append_assoc]

/-! ## Bodies -/

/-- The body of a builder that has the helpers for some jobs. -/
def code (scope : Scope) (jobs : List ClientHelper) : Code :=
  standingCode scope ++ jobs.flatMap (helperCode scope)

end XmlBinding.Client
