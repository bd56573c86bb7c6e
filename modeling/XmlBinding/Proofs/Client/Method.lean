import XmlBinding.Proofs.Client.Element

/-!
# What the methods of a client builder add

* `Client.childrenText`, `listText` : the methods that read the children of a node, and those that
  write what a loop runs over;
* `Client.instanceAddition`, `xmlAddition` : the methods that read and write a model;
* `Client.beanArrayAddition`, … : the other methods of every builder;
* `Client.helperAddition`, `makes_emitHelper` : the methods that helpers ask for.
-/

namespace XmlBinding.Client

open Emit

variable {X : Type} {scope : Scope}

/-! ## Texts -/

/-- A method that runs over the children of a node. -/
def childrenText (c : Config) (name type target statement : String) : String :=
  c.blockText 2 ("public static function " ++ name ++ "(nod:XML):" ++ type) ++
    c.lineText 3 "if(nod == null) return null;" ++
    c.lineText 3 ("var " ++ target ++ ":" ++ type ++ " = new " ++ type ++ "();") ++
    c.blockText 3 "for each(var n:XML in nod.children())" ++ c.lineText 4 statement ++
    c.lineText 3 "\x7d" ++ c.lineText 3 ("return " ++ target ++ ";") ++ c.lineText 2 "\x7d"

/-- A method that writes what a loop runs over. -/
def listText (c : Config) (name parameter type header : String) (statements : List String) :
    String :=
  c.blockText 2
      ("public static function " ++ name ++ "(" ++ parameter ++ ":" ++ type ++
        ", name:String):XML") ++
    c.lineText 3 ("if(" ++ parameter ++ " == null) return new XML(\"\");") ++
    c.lineText 3 "var nod:XML = <\x7bname\x7d />;" ++ c.blockText 3 header ++
    c.linesText 4 statements ++ c.lineText 3 "\x7d" ++ c.lineText 3 "return nod;" ++
    c.lineText 2 "\x7d"

theorem makes_emitChildrenLoop (name type target statement : String) (style : AccessStyle) :
    Makes scope style (emitChildrenLoop name type target statement : Emit (Job X) Unit) ()
      (.ofText (childrenText scope.session.config name type target statement)) := by
  unfold emitChildrenLoop
  refine Makes.of_eq ((makes_openBlock 2 _).bind ((makes_line 3 _).bind ((makes_line 3 _).bind
    ((makes_openBlock 3 _).bind ((makes_line 4 _).bind ((makes_closeBrace 3).bind
      ((makes_line 3 _).bind (makes_closeBrace 2)))))))) ?_
  simp only [Addition.ofText_append, childrenText, String.append_assoc]

theorem makes_emitListXml (name parameter type header : String) (statements : List String)
    (style : AccessStyle) :
    Makes scope style (emitListXml name parameter type header statements : Emit (Job X) Unit) ()
      (.ofText (listText scope.session.config name parameter type header statements)) := by
  unfold emitListXml
  refine Makes.of_eq ((makes_openBlock 2 _).bind ((makes_line 3 _).bind ((makes_line 3 _).bind
    ((makes_openBlock 3 _).bind ((makes_lines 4 statements).bind ((makes_closeBrace 3).bind
      ((makes_line 3 _).bind (makes_closeBrace 2)))))))) ?_
  simp only [Addition.ofText_append, listText, String.append_assoc]

def model (scope : Scope) : String := scope.session.refName .clientModel scope.frame.entity.type

def usesOfModel (scope : Scope) : List String :=
  scope.usesOfRef .clientModel scope.frame.entity.type

theorem makes_modelName (style : AccessStyle) :
    Makes scope style (modelName : Emit (Job X) String) (model scope)
      (.ofUses (usesOfModel scope)) :=
  makes_frame.bind_right (makes_classRef _ _)

def lead (scope : Scope) (key : String) (args : List String) : String :=
  scope.session.methodLead key args AccessStyle.as3.methodLevel

/-! ## Reading a model -/

/-- The method that reads a model, up to its properties. -/
def instanceHead (scope : Scope) : String :=
  let c := scope.session.config
  lead scope getInstance [model scope] ++
    c.blockText 2 ("public static function " ++ scope.nameOf getInstance [] ++ "(nod:XML):" ++
      model scope) ++
    c.lineText 3 "if(nod == null) return null;" ++
    c.lineText 3 ("var o:" ++ model scope ++ " = new " ++ model scope ++ "();")

def readsAddition (scope : Scope) (ps : List Property) : Addition (Job X) :=
  .ofProperties .clientRead (readAddition scope .as3 "o") ps

/-- What the method that reads a model adds. -/
def instanceAddition (scope : Scope) : Addition (Job X) :=
  .ofUses (usesOfModel scope) ++ (.ofText (instanceHead scope) ++
    (readsAddition scope scope.frame.attributes ++ (readsAddition scope scope.frame.elements ++
      .ofText (scope.session.config.lineText 3 "return o;" ++
        scope.session.config.lineText 2 "\x7d"))))

/-! ## Writing a model -/

/-- The method that writes a model, up to its literal. -/
def xmlHead (scope : Scope) : String :=
  let c := scope.session.config
  lead scope getXml [model scope] ++
    c.blockText 2 ("public static function " ++ scope.nameOf getXml [] ++ "(o:" ++ model scope ++
      ", name:String=null):XML") ++
    c.lineText 3 "if(o == null) return new XML(\"\");"

/-- The literal around its lines. -/
def literalOf (scope : Scope) (lines : String) : String :=
  let c := scope.session.config
  let start := "var el:XML = <" ++ scope.frame.node ++ literalAttributes scope.frame.attributes
  if lines.isEmpty then c.lineText 3 (start ++ "/>;")
  else c.lineText 3 (start ++ ">") ++ lines ++ c.lineText 3 ("</" ++ scope.frame.node ++ ">;")

/-- The method that writes a model, behind its literal. -/
def xmlTail (c : Config) : String :=
  c.lineText 3 "if(name != null) el.setName(name);" ++ c.lineText 3 "return el;" ++
    c.lineText 2 "\x7d"

def writesAddition (scope : Scope) (ps : List Property) : Addition (Job X) :=
  .ofProperties .clientWrite (writeAddition scope "o") ps

/-- What the method that writes a model adds. -/
def xmlAddition (scope : Scope) : Addition (Job X) :=
  let lines : Addition (Job X) := writesAddition scope scope.frame.elements
  .ofUses (usesOfModel scope) ++ (.ofText (xmlHead scope) ++ ({ lines with text := "" } ++
    .ofText (literalOf scope lines.text ++ xmlTail scope.session.config)))

theorem makes_xmlTail (style : AccessStyle) :
    Makes scope style (do
        Emit.line 3 "if(name != null) el.setName(name);"
        Emit.line 3 "return el;"
        Emit.closeBrace 2 : Emit (Job X) Unit) ()
      (.ofText (xmlTail scope.session.config)) := by
  refine Makes.of_eq ((makes_line 3 _).bind ((makes_line 3 _).bind (makes_closeBrace 2))) ?_
  simp only [Addition.ofText_append, xmlTail, String.append_assoc]

/-- The literal around its lines, and what follows it. -/
theorem makes_literal (lines : String) (style : AccessStyle) :
    Makes scope style (do
        let start :=
          "var el:XML = <" ++ scope.frame.node ++ literalAttributes scope.frame.attributes
        if lines.isEmpty then
          Emit.line 3 (start ++ "/>;")
        else
          Emit.line 3 (start ++ ">")
          Emit.write lines
          Emit.line 3 ("</" ++ scope.frame.node ++ ">;")
        Emit.line 3 "if(name != null) el.setName(name);"
        Emit.line 3 "return el;"
        Emit.closeBrace 2 : Emit (Job X) Unit) ()
      (.ofText (literalOf scope lines ++ xmlTail scope.session.config)) := by
  unfold literalOf
  cases lines.isEmpty with
  | true => exact Makes.of_eq ((makes_line 3 _).bind (makes_xmlTail style)) rfl
  | false =>
    refine Makes.of_eq ((makes_line 3 _).bind ((Emit.makes_write lines).bind ((makes_line 3 _).bind
      (makes_xmlTail style)))) ?_
    simp [String.append_assoc]

section Named
variable (hc : scope.session.catalog.NamesMethods)
include hc

theorem makes_emitGetInstance :
    Makes scope .as3 (emitGetInstance : Emit (Job X) Unit) () (instanceAddition scope) := by
  unfold emitGetInstance
  refine Makes.of_eq (makes_frame.bind_right ((makes_modelName _).bind
    ((makes_beginMethod hc (by decide) [] [model scope]).bind ((makes_openBlock 2 _).bind
      ((makes_line 3 _).bind ((makes_line 3 _).bind
        ((makes_writeProperties fun p _ ht => makes_read hc ht "o").bind
          ((makes_writeProperties fun p _ ht => makes_read hc ht "o").bind
            ((makes_line 3 _).bind (makes_closeBrace 2)))))))))) ?_
  ext1 <;> simp [instanceAddition, instanceHead, readsAddition, lead, String.append_assoc]

theorem makes_emitGetXml :
    Makes scope .as3 (emitGetXml : Emit (Job X) Unit) () (xmlAddition scope) := by
  have hwrites : Makes scope .as3
      (writeProperties elements "o" scope.frame.elements .clientWrite : Emit (Job X) Unit) ()
      (writesAddition scope scope.frame.elements) :=
    makes_writeProperties fun p _ ht => makes_write hc rfl ht "o"
  unfold emitGetXml
  refine Makes.of_eq (makes_frame.bind_right ((makes_modelName _).bind
    ((makes_beginMethod hc (by decide) [] [model scope]).bind ((makes_openBlock 2 _).bind
      ((makes_line 3 _).bind (hwrites.capture.bind (makes_literal _ _))))))) ?_
  ext1 <;> simp [xmlAddition, xmlHead, lead, String.append_assoc]

end Named

/-! ## Other methods of every builder -/

/-- What the method that writes a value adds. -/
def basicXmlAddition (scope : Scope) : Addition (Job X) :=
  let c := scope.session.config
  .ofText (lead scope getBasicXml [] ++
    c.blockText 2 ("public static function " ++ scope.nameOf getBasicXml [] ++
      "(value:*, name:String):XML") ++
    c.lineText 3 "if(value == null) return new XML(\"\");" ++
    c.lineText 3 "return <\x7bname\x7d>\x7bvalue\x7d</\x7bname\x7d>;" ++ c.lineText 2 "\x7d")

/-- What a method adds that reads the children of a node as models. -/
def beanChildrenAddition (scope : Scope) (key type target statement : String) :
    Addition (Job X) where
  text :=
    lead scope key [model scope] ++
      childrenText scope.session.config (scope.nameOf key []) type target statement
  uses := usesOfModel scope
  asks := []

/-- What a method adds that writes models in a loop. -/
def beanListAddition (scope : Scope) (key parameter type header : String)
    (statements : List String) : Addition (Job X) where
  text :=
    lead scope key [model scope] ++
      listText scope.session.config (scope.nameOf key []) parameter type header statements
  uses := usesOfModel scope
  asks := []

/-- What the method that reads an array of models adds. -/
def beanArrayAddition (scope : Scope) : Addition (Job X) :=
  beanChildrenAddition scope getEntityArray "Array" "items"
    ("items.push(" ++ scope.nameOf getInstance [] ++ "(n));")

/-- What the method that reads a map of models adds. -/
def beanMapAddition (scope : Scope) : Addition (Job X) :=
  beanChildrenAddition scope getEntityMap "Dictionary" "map"
    (enterValue (scope.nameOf getInstance [] ++ "(n)"))

/-- What the method that writes an array of models adds. -/
def beanXmlListAddition (scope : Scope) : Addition (Job X) :=
  beanListAddition scope getEntityXmlList "items" "Array"
    ("for each(var i:" ++ model scope ++ " in items)")
    ["nod.appendChild(" ++ scope.nameOf getXml [] ++ "(i));"]

/-- What the method that writes an array of values adds. -/
def basicXmlListAddition (scope : Scope) : Addition (Job X) :=
  .ofText (lead scope getBasicXmlList [] ++
    listText scope.session.config (scope.nameOf getBasicXmlList []) "items" "Array"
      "for each(var i:* in items)"
      ["nod.appendChild(<" ++ entryElement ++ ">\x7bi\x7d</" ++ entryElement ++ ">);"])

/-- What the method that writes a map of models adds. -/
def beanMapXmlAddition (scope : Scope) : Addition (Job X) :=
  beanListAddition scope getEntityMapXml "map" "Dictionary" "for(var key:* in map)"
    ["var el:XML = " ++ scope.nameOf getXml [] ++ "(map[key]);",
     "el.@" ++ mapKeyAttribute ++ " = key;", "nod.appendChild(el);"]

/-! ## Helpers -/

/-- What a helper adds that reads values from the children of a node. The expression for one value
may ask for another helper. -/
def valuesAddition (scope : Scope) (key type target : String) (statement : String → String)
    (t : JavaType) : Addition (Job X) :=
  let value : Addition (Job X) := valueAddition scope t
  let typeName := capitalize t.clientName
  { value with
    text :=
      lead scope key [typeName] ++
        childrenText scope.session.config (scope.nameOf key [typeName]) type target
          (statement value.text) }

def helperAddition (scope : Scope) : ClientHelper → Addition (Job X)
  | .readString =>
    let c := scope.session.config
    .ofText (lead scope getString [] ++
      c.blockText 2 ("public static function " ++ scope.nameOf getString [] ++
        "(nod:XML):String") ++
      c.lineText 3 "if(nod == null) return null;" ++ c.lineText 3 "return nod.toString();" ++
      c.lineText 2 "\x7d")
  | .readArray t =>
    valuesAddition scope getBasicArray "Array" "items" (fun v => "items.push(" ++ v ++ ");") t
  | .readMap t => valuesAddition scope getBasicMap "Dictionary" "map" enterValue t
  | .writeMap =>
    .ofText (lead scope getBasicMapXml [] ++
      listText scope.session.config (scope.nameOf getBasicMapXml []) "map" "Dictionary"
        "for(var key:* in map)"
        ["nod.appendChild(<" ++ entryElement ++ " " ++ mapKeyAttribute ++
          "=\x7bkey\x7d>\x7bmap[key]\x7d</" ++ entryElement ++ ">);"])

section Named
variable (hc : scope.session.catalog.NamesMethods)
include hc

theorem makes_emitGetBasicXml :
    Makes scope .as3 (emitGetBasicXml : Emit (Job X) Unit) () (basicXmlAddition scope) := by
  unfold emitGetBasicXml
  refine Makes.of_eq ((makes_beginMethod hc (by decide) [] []).bind ((makes_openBlock 2 _).bind
    ((makes_line 3 _).bind ((makes_line 3 _).bind (makes_closeBrace 2))))) ?_
  simp only [Addition.ofText_append, basicXmlAddition, lead, String.append_assoc]

theorem makes_emitGetEntityArray :
    Makes scope .as3 (emitGetEntityArray : Emit (Job X) Unit) () (beanArrayAddition scope) := by
  unfold emitGetEntityArray
  refine Makes.of_eq ((makes_modelName _).bind ((makes_methodName hc (by decide) []).bind_right
    ((makes_beginMethod hc (by decide) [] [model scope]).bind
      (makes_emitChildrenLoop _ _ _ _ _)))) ?_
  ext1 <;> simp [beanArrayAddition, beanChildrenAddition, lead]

theorem makes_emitGetEntityMap :
    Makes scope .as3 (emitGetEntityMap : Emit (Job X) Unit) () (beanMapAddition scope) := by
  unfold emitGetEntityMap
  refine Makes.of_eq ((makes_modelName _).bind ((makes_methodName hc (by decide) []).bind_right
    ((makes_beginMethod hc (by decide) [] [model scope]).bind
      (makes_emitChildrenLoop _ _ _ _ _)))) ?_
  ext1 <;> simp [beanMapAddition, beanChildrenAddition, lead]

theorem makes_emitGetEntityXmlList :
    Makes scope .as3 (emitGetEntityXmlList : Emit (Job X) Unit) ()
      (beanXmlListAddition scope) := by
  unfold emitGetEntityXmlList
  refine Makes.of_eq ((makes_modelName _).bind ((makes_methodName hc (by decide) []).bind_right
    ((makes_beginMethod hc (by decide) [] [model scope]).bind (makes_emitListXml _ _ _ _ _ _)))) ?_
  ext1 <;> simp [beanXmlListAddition, beanListAddition, lead]

theorem makes_emitGetBasicXmlList :
    Makes scope .as3 (emitGetBasicXmlList : Emit (Job X) Unit) ()
      (basicXmlListAddition scope) := by
  unfold emitGetBasicXmlList
  refine Makes.of_eq ((makes_beginMethod hc (by decide) [] []).bind
    (makes_emitListXml _ _ _ _ _ _)) ?_
  rfl

theorem makes_emitGetEntityMapXml :
    Makes scope .as3 (emitGetEntityMapXml : Emit (Job X) Unit) () (beanMapXmlAddition scope) := by
  unfold emitGetEntityMapXml
  refine Makes.of_eq ((makes_modelName _).bind ((makes_methodName hc (by decide) []).bind_right
    ((makes_beginMethod hc (by decide) [] [model scope]).bind (makes_emitListXml _ _ _ _ _ _)))) ?_
  ext1 <;> simp [beanMapXmlAddition, beanListAddition, lead]

theorem makes_emitHelper (job : ClientHelper) :
    Makes scope .as3 (emitHelper job : Emit (Job X) Unit) () (helperAddition scope job) := by
  cases job with
  | readString =>
    show Makes scope .as3 emitGetString _ _
    unfold emitGetString
    refine Makes.of_eq ((makes_beginMethod hc (by decide) [] []).bind ((makes_openBlock 2 _).bind
      ((makes_line 3 _).bind ((makes_line 3 _).bind (makes_closeBrace 2))))) ?_
    simp only [Addition.ofText_append, helperAddition, lead, String.append_assoc]
  | readArray t =>
    show Makes scope .as3 (emitGetBasicArray t) _ _
    unfold emitGetBasicArray
    refine Makes.of_eq ((makes_valueExpression hc t).bind
      ((makes_beginMethod hc (by decide) [capitalize t.clientName] [capitalize t.clientName]).bind
        (makes_emitChildrenLoop _ _ _ _ _))) ?_
    ext1 <;> simp [helperAddition, valuesAddition, lead]
  | readMap t =>
    show Makes scope .as3 (emitGetBasicMap t) _ _
    unfold emitGetBasicMap
    refine Makes.of_eq ((makes_valueExpression hc t).bind
      ((makes_beginMethod hc (by decide) [capitalize t.clientName] [capitalize t.clientName]).bind
        (makes_emitChildrenLoop _ _ _ _ _))) ?_
    ext1 <;> simp [helperAddition, valuesAddition, lead]
  | writeMap =>
    show Makes scope .as3 emitGetBasicMapXml _ _
    unfold emitGetBasicMapXml
    refine Makes.of_eq ((makes_beginMethod hc (by decide) [] []).bind
      (makes_emitListXml _ _ _ _ _ _)) ?_
    rfl

end Named

end XmlBinding.Client
