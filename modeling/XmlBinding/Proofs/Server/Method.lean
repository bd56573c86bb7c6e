import XmlBinding.Proofs.Server.Element

/-!
# What the methods of a server builder add

* `Server.fillText`, `loopText` : the methods that fill a collection or a map, and those that write
  what a loop runs over;
* `Server.instanceAddition`, `elementAddition` : the methods that read and write a bean;
* `Server.jobAddition`, `makes_emitHelper` : the methods that helpers ask for;
* `Server.standingAddition` : the methods of every builder, `makes_methods`; `stops_methods` : a map
  whose keys are entities stops them.
-/

namespace XmlBinding.Server

open Emit

variable {X : Type} {scope : Scope}

/-! ## Texts -/

/-- A method that fills a given collection or map. -/
def fillText (c : Config) (bound parameter name : String) (statements : List String) : String :=
  c.blockText 1 ("public static <T extends " ++ bound ++ ">\n" ++ c.indent 3 ++ "T " ++ name ++
      "(T " ++ parameter ++ ", Element els)") ++
    c.lineText 2 "if(els == null) return null;" ++
    c.blockText 2 "for(Object obj : els.elements())" ++
    c.linesText 3 statements ++ c.lineText 2 "\x7d" ++
    c.lineText 2 ("return " ++ parameter ++ ";") ++ c.lineText 1 "\x7d"

/-- A method that writes what a loop runs over. -/
def loopText (c : Config) (node name type parameter header : String) (statements : List String) :
    String :=
  c.blockText 1 ("public static Element " ++ name ++ "(" ++ type ++ " " ++ parameter ++ ")") ++
    c.lineText 2 ("if(" ++ parameter ++ " == null) return null;") ++
    c.lineText 2 ("final Element el = DocumentHelper.createElement(\"" ++ node ++ "\");") ++
    c.blockText 2 header ++ c.linesText 3 statements ++ c.lineText 2 "\x7d" ++
    c.lineText 2 "return el;" ++ c.lineText 1 "\x7d"

theorem makes_emitFill (bound parameter name : String) (statements : List String)
    (style : AccessStyle) :
    Makes scope style (emitFill bound parameter name statements : Emit (Job X) Unit) ()
      (.ofText (fillText scope.session.config bound parameter name statements)) := by
  unfold emitFill
  refine Makes.of_eq ((makes_indent 3).bind_right ((makes_openBlock 1 _).bind ((makes_line 2 _).bind
    ((makes_openBlock 2 _).bind ((makes_lines 3 statements).bind ((makes_closeBrace 2).bind
      ((makes_line 2 _).bind (makes_closeBrace 1)))))))) ?_
  simp only [Addition.ofText_append, fillText, String.append_assoc]

/-- The block of a method that writes what a loop runs over. -/
theorem makes_loopBlock (node name type parameter header : String) (statements : List String)
    (style : AccessStyle) :
    Makes scope style (do
        Emit.openBlock 1
          ("public static Element " ++ name ++ "(" ++ type ++ " " ++ parameter ++ ")")
        Emit.line 2 ("if(" ++ parameter ++ " == null) return null;")
        Emit.line 2 ("final Element el = DocumentHelper.createElement(\"" ++ node ++ "\");")
        Emit.openBlock 2 header
        statements.forM fun s => Emit.line 3 s
        Emit.closeBrace 2
        Emit.line 2 "return el;"
        Emit.closeBrace 1 : Emit (Job X) Unit) ()
      (.ofText (loopText scope.session.config node name type parameter header statements)) := by
  refine Makes.of_eq ((makes_openBlock 1 _).bind ((makes_line 2 _).bind ((makes_line 2 _).bind
    ((makes_openBlock 2 _).bind ((makes_lines 3 statements).bind ((makes_closeBrace 2).bind
      ((makes_line 2 _).bind (makes_closeBrace 1)))))))) ?_
  simp only [Addition.ofText_append, loopText, String.append_assoc]

section Named
variable (hc : scope.session.catalog.NamesMethods)
include hc

theorem makes_emitElementLoop {key : String} (hk : Catalog.IsMethodKey key)
    (nameArgs : List String) (doc type parameter header : String) (statements : List String)
    (style : AccessStyle) :
    Makes scope style
      (emitElementLoop key nameArgs doc type parameter header statements : Emit (Job X) Unit) ()
      ⟨scope.session.methodLead key [doc] style.methodLevel ++
          loopText scope.session.config scope.frame.node (scope.nameOf key nameArgs) type parameter
            header statements,
        scope.usesOf documentHelper, []⟩ := by
  unfold emitElementLoop
  refine Makes.of_eq ((makes_beginMethod hc hk nameArgs [doc]).bind ((makes_importClass _).bind
    (makes_frame.bind_right (makes_loopBlock _ _ _ _ _ _ style)))) ?_
  ext1 <;> simp

end Named

/-! ## Reading a bean -/

def bean (scope : Scope) : String := scope.frame.entity.type.simpleName

def usesOfBean (scope : Scope) : List String := scope.usesOfType scope.frame.entity.type

theorem makes_beanName (style : AccessStyle) :
    Makes scope style (beanName : Emit (Job X) String) (bean scope) (.ofUses (usesOfBean scope)) :=
  makes_frame.bind_right (makes_javaRef _)

def lead (scope : Scope) (key : String) (args : List String) : String :=
  scope.session.methodLead key args AccessStyle.dom4j.methodLevel

/-- The method that reads a bean, up to its properties. -/
def instanceHead (scope : Scope) : String :=
  let c := scope.session.config
  lead scope getInstance [bean scope] ++
    c.blockText 1 ("public static " ++ bean scope ++ " " ++ scope.nameOf getInstance [] ++
      "(Element el)") ++
    c.lineText 2 "if(el == null) return null;" ++
    c.lineText 2 ("final " ++ bean scope ++ " o = new " ++ bean scope ++ "();")

def readsAddition (scope : Scope) (ps : List Property) : Addition (Job X) :=
  .ofProperties .serverRead (readAddition scope .dom4j "o") ps

/-- What the method that reads a bean adds. -/
def instanceAddition (scope : Scope) : Addition (Job X) :=
  .ofUses (usesOfBean scope) ++ (.ofText (instanceHead scope) ++
    (readsAddition scope scope.frame.attributes ++ (readsAddition scope scope.frame.elements ++
      .ofText (scope.session.config.lineText 2 "return o;" ++
        scope.session.config.lineText 1 "\x7d"))))

/-- Properties that cannot be read, because the keys of a map are entities. -/
def Unreadable (s : Session) (p : Property) : Prop :=
  p.takesPart .serverRead = true ∧ HasEntityKey s p

/-- Ways in which the methods of a server builder fail. -/
def Refuses (scope : Scope) (failure : Failure) : Prop :=
  scope.session.Blames failure ∨
    ∃ property, failure = .complexAttribute scope.frame.entity.name property

section Named
variable (hc : scope.session.catalog.NamesMethods)
include hc

theorem makes_reads {ps : List Property} (h : ∀ p ∈ ps, ¬Unreadable scope.session p) :
    Makes scope .dom4j
      (writeProperties readers "o" ps .serverRead : Emit (Job X) Unit) ()
      (readsAddition scope ps) :=
  makes_writeProperties fun p hp ht => makes_read hc rfl ht (fun hk => h p hp ⟨ht, hk⟩) "o"

theorem stops_reads {ps : List Property} {p : Property} (hp : p ∈ ps)
    (h : Unreadable scope.session p) :
    Stops scope .dom4j (writeProperties readers "o" ps .serverRead : Emit (Job X) Unit)
      (Refuses scope) := by
  have hstop {q : Property} (hq : Unreadable scope.session q) :
      Stops scope .dom4j (writeProperty (readers : PropertyRegistry (Job X)) "o" q .serverRead)
        (Refuses scope) :=
    ⟨_, _, .inr ⟨q.name, rfl⟩, does_read_entityKey rfl hq.1 hq.2 "o"⟩
  refine stops_forM (fun _ => .inl) (fun q _ => ?_) hp (hstop h)
  by_cases ht : q.takesPart .serverRead = true
  · by_cases hk : HasEntityKey scope.session q
    · exact .inr (hstop ⟨ht, hk⟩)
    · exact .inl ⟨_, makes_read hc rfl ht hk "o"⟩
  · exact .inl ⟨_, makes_writeProperty_absent ht⟩

theorem makes_emitGetInstance
    (h : ∀ p ∈ scope.frame.attributes ++ scope.frame.elements, ¬Unreadable scope.session p) :
    Makes scope .dom4j (emitGetInstance : Emit (Job X) Unit) () (instanceAddition scope) := by
  unfold emitGetInstance
  refine Makes.of_eq (makes_frame.bind_right ((makes_beanName _).bind
    ((makes_beginMethod hc (by decide) [] [bean scope]).bind ((makes_openBlock 1 _).bind
      ((makes_line 2 _).bind ((makes_line 2 _).bind
        ((makes_reads hc fun p hp => h p (List.mem_append_left _ hp)).bind
          ((makes_reads hc fun p hp => h p (List.mem_append_right _ hp)).bind
            ((makes_line 2 _).bind (makes_closeBrace 1)))))))))) ?_
  ext1 <;> simp [instanceAddition, instanceHead, lead, String.append_assoc]

theorem stops_emitGetInstance {p : Property}
    (hp : p ∈ scope.frame.attributes ++ scope.frame.elements) (h : Unreadable scope.session p) :
    Stops scope .dom4j (emitGetInstance : Emit (Job X) Unit) (Refuses scope) := by
  have hway : ∀ failure, scope.session.Blames failure → Refuses scope failure := fun _ => .inl
  unfold emitGetInstance
  refine makes_frame.stops hway ((makes_beanName _).stops hway
    ((makes_beginMethod hc (by decide) [] _).stops hway ((makes_openBlock 1 _).stops hway
      ((makes_line 2 _).stops hway ((makes_line 2 _).stops hway ?_)))))
  by_cases ha : ∃ q ∈ scope.frame.attributes, Unreadable scope.session q
  · obtain ⟨q, hq, hu⟩ := ha
    exact (stops_reads hc hq hu).bind
  · have ha' : ∀ q ∈ scope.frame.attributes, ¬Unreadable scope.session q :=
      fun q hq hu => ha ⟨q, hq, hu⟩
    refine (makes_reads hc ha').stops hway (Stops.bind ?_)
    rcases List.mem_append.1 hp with hp | hp
    · exact absurd h (ha' p hp)
    · exact stops_reads hc hp h

end Named

/-! ## Writing a bean -/

/-- The statements that add an attribute. -/
def attributeText (c : Config) (p : Property) : String :=
  c.lineText 2 ("str = String.valueOf(o." ++ p.getter ++ "());") ++
    c.lineText 2 ("el.addAttribute(\"" ++ p.node.name ++ "\", ((str == null) ? \"\" : str));")

theorem makes_attributes (ps : List Property) (style : AccessStyle) :
    Makes scope style (ps.forM fun p => do
        Emit.line 2 ("str = String.valueOf(o." ++ p.getter ++ "());")
        Emit.line 2
          ("el.addAttribute(\"" ++ p.node.name ++ "\", ((str == null) ? \"\" : str));") :
        Emit (Job X) Unit) ()
      (.ofText (String.join (ps.map (attributeText scope.session.config)))) :=
  makes_texts fun _ _ => Makes.of_eq ((makes_line 2 _).bind (makes_line 2 _))
    (Addition.ofText_append _ _)

/-- The method that writes a bean, up to its elements. -/
def elementHead (scope : Scope) : String :=
  let c := scope.session.config
  lead scope getElement [bean scope] ++
    c.blockText 1 ("public static Element " ++ scope.nameOf getElement [] ++ "(" ++ bean scope ++
      " o)") ++
    c.lineText 2 "if(o == null) return null;" ++
    c.lineText 2
      ("final Element el = DocumentHelper.createElement(\"" ++ scope.frame.node ++ "\");") ++
    c.lineText 2 "String str = null;" ++ c.lineText 2 "Element nested = null;" ++
    String.join ((scope.frame.attributes.filter fun p => !p.isLazy .serverWrite).map
      (attributeText c))

def writesAddition (scope : Scope) (ps : List Property) : Addition (Job X) :=
  .ofProperties .serverWrite (writeAddition scope "o") ps

/-- What the method that writes a bean adds. -/
def elementAddition (scope : Scope) : Addition (Job X) :=
  .ofUses (usesOfBean scope ++ scope.usesOf documentHelper) ++ (.ofText (elementHead scope) ++
    (writesAddition scope scope.frame.elements ++
      .ofText (scope.session.config.lineText 2 "return el;" ++
        scope.session.config.lineText 1 "\x7d")))

/-! ## Collections of beans -/

def beanFillAddition (scope : Scope) : Addition (Job X) where
  text :=
    lead scope getEntityCollection [bean scope] ++
      fillText scope.session.config ("Collection<" ++ bean scope ++ ">") "coll"
        (scope.nameOf getEntityCollection [])
        ["coll.add(" ++ scope.nameOf getInstance [] ++ "((Element)obj));"]
  uses := usesOfBean scope ++ scope.usesOf "java.util.Collection"
  asks := []

/-- What a method adds that writes beans in a loop; `uses` are its imports of its own. -/
def beanLoopAddition (scope : Scope) (key type parameter header : String)
    (statements uses : List String) : Addition (Job X) where
  text :=
    lead scope key [bean scope] ++
      loopText scope.session.config scope.frame.node (scope.nameOf key []) type parameter header
        statements
  uses := usesOfBean scope ++ uses ++ scope.usesOf documentHelper
  asks := []

def beanArrayAddition (scope : Scope) : Addition (Job X) :=
  beanLoopAddition scope getEntityArrayElement (bean scope ++ "[]") "arr"
    ("for(" ++ bean scope ++ " obj : arr)")
    ["el.add(" ++ scope.nameOf getElement [] ++ "(obj));"] []

def beanCollectionAddition (scope : Scope) : Addition (Job X) :=
  beanLoopAddition scope getEntityCollectionElement ("Collection<" ++ bean scope ++ ">") "coll"
    ("for(" ++ bean scope ++ " obj : coll)")
    ["el.add(" ++ scope.nameOf getElement [] ++ "(obj));"] (scope.usesOf "java.util.Collection")

def beanMapAddition (scope : Scope) : Addition (Job X) :=
  beanLoopAddition scope getEntityMapElement ("Map<?, " ++ bean scope ++ ">") "map"
    "for(Object key : map.keySet())"
    ["final Element ell = " ++ scope.nameOf getElement [] ++ "(map.get(key));",
     "ell.addAttribute(\"" ++ mapKeyAttribute ++ "\", String.valueOf(key));",
     "el.add(ell);"] (scope.usesOf "java.util.Map")

section Named
variable (hc : scope.session.catalog.NamesMethods)
include hc

theorem makes_emitGetElement :
    Makes scope .dom4j (emitGetElement : Emit (Job X) Unit) () (elementAddition scope) := by
  unfold emitGetElement
  refine Makes.of_eq (makes_frame.bind_right ((makes_beanName _).bind
    ((makes_beginMethod hc (by decide) [] [bean scope]).bind ((makes_importClass _).bind
      ((makes_openBlock 1 _).bind ((makes_line 2 _).bind ((makes_line 2 _).bind
        ((makes_line 2 _).bind ((makes_line 2 _).bind
          ((makes_attributes _ _).bind
            ((makes_writeProperties fun p _ ht => makes_write hc rfl ht "o").bind
              ((makes_line 2 _).bind (makes_closeBrace 1))))))))))))) ?_
  ext1 <;> simp [elementAddition, elementHead, lead, writesAddition,
    String.append_assoc]

theorem makes_emitGetEntityCollection :
    Makes scope .dom4j (emitGetEntityCollection : Emit (Job X) Unit) ()
      (beanFillAddition scope) := by
  unfold emitGetEntityCollection
  refine Makes.of_eq ((makes_beanName _).bind ((makes_methodName hc (by decide) []).bind_right
    ((makes_beginMethod hc (by decide) [] [bean scope]).bind ((makes_importClass _).bind
      (makes_emitFill _ _ _ _ _))))) ?_
  ext1 <;> simp [beanFillAddition, lead]

theorem makes_emitGetEntityArrayElement :
    Makes scope .dom4j (emitGetEntityArrayElement : Emit (Job X) Unit) ()
      (beanArrayAddition scope) := by
  unfold emitGetEntityArrayElement
  refine Makes.of_eq ((makes_beanName _).bind ((makes_methodName hc (by decide) []).bind_right
    (makes_emitElementLoop hc (by decide) _ _ _ _ _ _ _))) ?_
  ext1 <;> simp [beanArrayAddition, beanLoopAddition, lead]

theorem makes_emitGetEntityCollectionElement :
    Makes scope .dom4j (emitGetEntityCollectionElement : Emit (Job X) Unit) ()
      (beanCollectionAddition scope) := by
  unfold emitGetEntityCollectionElement
  refine Makes.of_eq ((makes_beanName _).bind ((makes_methodName hc (by decide) []).bind_right
    ((makes_importClass _).bind (makes_emitElementLoop hc (by decide) _ _ _ _ _ _ _)))) ?_
  ext1 <;> simp [beanCollectionAddition, beanLoopAddition, lead]

theorem makes_emitGetEntityMapElement :
    Makes scope .dom4j (emitGetEntityMapElement : Emit (Job X) Unit) ()
      (beanMapAddition scope) := by
  unfold emitGetEntityMapElement
  refine Makes.of_eq ((makes_beanName _).bind ((makes_methodName hc (by decide) []).bind_right
    ((makes_importClass _).bind (makes_emitElementLoop hc (by decide) _ _ _ _ _ _ _)))) ?_
  ext1 <;> simp [beanMapAddition, beanLoopAddition, lead]

end Named

/-! ## Helpers -/

/-- What the helper adds that reads an array. -/
def arrayAddition (scope : Scope) (t : JavaType) : Addition (Job X) where
  text :=
    let c := scope.session.config
    let item := t.simpleName
    lead scope getArray [item] ++
      c.blockText 1 ("public static " ++ item ++ "[] " ++ arrayReader scope t ++ "(Element el)") ++
      c.lineText 2 "if(el == null) return null;" ++
      c.lineText 2 "final List els = el.elements();" ++
      c.lineText 2 "final int size = els.size();" ++
      c.lineText 2 ("final " ++ item ++ "[] items = new " ++ item ++ "[size];") ++
      c.blockText 2 "for(int i=0; i<size; i++)" ++
      c.lineText 3 "final Element e = (Element)els.get(i);" ++
      c.lineText 3 ("items[i] = " ++ valueText scope .dom4jText "e" t ++ ";") ++
      c.lineText 2 "\x7d" ++ c.lineText 2 "return items;" ++ c.lineText 1 "\x7d"
  uses := scope.usesOfType t ++ scope.usesOfBuilder t ++ scope.usesOf "java.util.List"
  asks := []

/-- What the helper adds that fills a collection. -/
def collectionAddition (scope : Scope) (t : JavaType) : Addition (Job X) where
  text :=
    lead scope getCollection [t.wrapperName] ++
      fillText scope.session.config ("Collection<" ++ t.wrapperName ++ ">") "coll"
        (scope.nameOf getCollection [capitalize t.wrapperName])
        ["final Element el = (Element)obj;",
         "coll.add(" ++ valueText scope .dom4jText "el" t ++ ");"]
  uses := scope.usesOfType t ++ scope.usesOfBuilder t ++ scope.usesOf "java.util.Collection"
  asks := []

/-- The expression that reads an entry of a map; a bean stands on a line of its own. -/
def entryText (scope : Scope) (entry : JavaType) : String :=
  let value := valueText scope .dom4jText "el" entry
  if scope.session.isEntity entry then "\n" ++ scope.session.config.indent 5 ++ value else value

/-- What the helper adds that fills a map. -/
def mapAddition (scope : Scope) (key entry : JavaType) : Addition (Job X) where
  text :=
    lead scope getMap [mapTypes key entry, key.wrapperName, entry.wrapperName] ++
      fillText scope.session.config
        ("Map<" ++ key.wrapperName ++ ", " ++ entry.wrapperName ++ ">") "map"
        (mapReader scope key entry)
        ["final Element el = (Element)obj;",
         "map.put(" ++ valueText scope .dom4jKey "el" key ++ ", " ++ entryText scope entry ++ ");"]
  uses :=
    scope.usesOfType key ++ scope.usesOfType entry ++ scope.usesOfBuilder key ++
      scope.usesOfBuilder entry ++ scope.usesOf "java.util.Map"
  asks := []

/-- What a helper adds that writes values in a loop. -/
def entryLoopAddition (scope : Scope) (key : String) (nameArgs : List String)
    (doc type parameter header : String) (statements uses : List String) : Addition (Job X) where
  text :=
    lead scope key [doc] ++
      loopText scope.session.config scope.frame.node (scope.nameOf key nameArgs) type parameter
        header statements
  uses := uses ++ scope.usesOf documentHelper
  asks := []

def addMapEntry (indent : String) : String :=
  "el.addElement(\"" ++ entryElement ++ "\").\n" ++ indent ++ "addAttribute(\"" ++
    mapKeyAttribute ++ "\", String.valueOf(key)).\n" ++ indent ++
    "setText(String.valueOf(map.get(key)));"

def helperAddition (scope : Scope) : ServerHelper → Addition (Job X)
  | .readArray t => arrayAddition scope t
  | .readCollection t => collectionAddition scope t
  | .readMap key entry => mapAddition scope key entry
  | .writeArray t =>
    entryLoopAddition scope getArrayElement [capitalize t.simpleName] t.simpleName
      (t.simpleName ++ "[]") "arr" ("for(" ++ t.simpleName ++ " obj : arr)")
      [addEntry (scope.session.config.indent 5)] (scope.usesOfType t)
  | .writeCollection =>
    entryLoopAddition scope getCollectionElement [] "" "Collection<?>" "coll"
      "for(Object obj : coll)" [addEntry (scope.session.config.indent 5)]
      (scope.usesOf "java.util.Collection")
  | .writeMap =>
    entryLoopAddition scope getMapElement [] "" "Map<?, ?>" "map" "for(Object key : map.keySet())"
      [addMapEntry (scope.session.config.indent 5)] (scope.usesOf "java.util.Map")

section Named
variable (hc : scope.session.catalog.NamesMethods)
include hc

theorem makes_emitGetArray (t : JavaType) :
    Makes scope .dom4j (emitGetArray t : Emit (Job X) Unit) () (arrayAddition scope t) := by
  unfold emitGetArray
  refine Makes.of_eq ((makes_javaRef t).bind ((makes_valueExpression hc rfl "e" t).bind
    ((makes_beginMethod hc (by decide) [capitalize t.simpleName] [t.simpleName]).bind
      ((makes_importClass _).bind ((makes_openBlock 1 _).bind ((makes_line 2 _).bind
        ((makes_line 2 _).bind ((makes_line 2 _).bind ((makes_line 2 _).bind
          ((makes_openBlock 2 _).bind ((makes_line 3 _).bind ((makes_line 3 _).bind
            ((makes_closeBrace 2).bind ((makes_line 2 _).bind
              (makes_closeBrace 1))))))))))))))) ?_
  ext1 <;> simp [arrayAddition, arrayReader, lead, String.append_assoc]

theorem makes_emitGetCollection (t : JavaType) :
    Makes scope .dom4j (emitGetCollection t : Emit (Job X) Unit) ()
      (collectionAddition scope t) := by
  unfold emitGetCollection
  refine Makes.of_eq ((makes_importType t).bind ((makes_valueExpression hc rfl "el" t).bind
    ((makes_beginMethod hc (by decide) [capitalize t.wrapperName] [t.wrapperName]).bind
      ((makes_importClass _).bind (makes_emitFill _ _ _ _ _))))) ?_
  ext1 <;> simp [collectionAddition, lead]

/-- The method of the helper that fills a map, with the expression for an entry. -/
theorem makes_mapMethod (key entry : JavaType) :
    Makes scope .dom4j (do
        let name ← Emit.beginMethod getMap [mapTypes key entry]
          [mapTypes key entry, key.wrapperName, entry.wrapperName]
        Emit.importClass "java.util.Map"
        emitFill ("Map<" ++ key.wrapperName ++ ", " ++ entry.wrapperName ++ ">") "map" name
          ["final Element el = (Element)obj;",
            "map.put(" ++ valueText scope .dom4jKey "el" key ++ ", " ++ entryText scope entry ++
              ");"] : Emit (Job X) Unit) ()
      ⟨(mapAddition scope key entry : Addition (Job X)).text, scope.usesOf "java.util.Map",
        []⟩ := by
  refine Makes.of_eq ((makes_beginMethod hc (by decide) [mapTypes key entry]
    [mapTypes key entry, key.wrapperName, entry.wrapperName]).bind ((makes_importClass _).bind
      (makes_emitFill _ _ _ _ _))) ?_
  ext1 <;> simp [mapAddition, mapReader, lead]

theorem makes_emitGetMap (key entry : JavaType) :
    Makes scope .dom4j (emitGetMap key entry : Emit (Job X) Unit) ()
      (mapAddition scope key entry) := by
  unfold emitGetMap
  have hx : (mapAddition scope key entry : Addition (Job X)) =
      .ofUses (scope.usesOfType key) ++ (.ofUses (scope.usesOfType entry) ++
        (.ofUses (scope.usesOfBuilder key) ++ (.ofUses (scope.usesOfBuilder entry) ++
          ⟨(mapAddition scope key entry : Addition (Job X)).text,
            scope.usesOf "java.util.Map", []⟩))) := by
    ext1 <;> simp [mapAddition]
  have hmethod := makes_mapMethod (X := X) hc key entry
  rw [hx]
  refine (makes_importType key).bind ((makes_importType entry).bind
    ((makes_valueExpression hc rfl "el" key).bind ((makes_valueExpression hc rfl "el" entry).bind
      ((makes_isEntity entry).bind_right ?_))))
  unfold entryText at hmethod
  cases he : scope.session.isEntity entry with
  | true =>
    rw [he] at hmethod
    exact (makes_indent 5).bind_right ((makes_pure _).bind_right hmethod)
  | false =>
    rw [he] at hmethod
    exact (makes_pure _).bind_right hmethod

theorem makes_emitHelper (job : ServerHelper) :
    Makes scope .dom4j (emitHelper job : Emit (Job X) Unit) () (helperAddition scope job) := by
  cases job with
  | readArray t => exact makes_emitGetArray hc t
  | readCollection t => exact makes_emitGetCollection hc t
  | readMap key entry => exact makes_emitGetMap hc key entry
  | writeArray t =>
    show Makes scope .dom4j (emitGetArrayElement t) _ _
    unfold emitGetArrayElement
    refine Makes.of_eq ((makes_javaRef t).bind ((makes_indent 5).bind_right
      (makes_emitElementLoop hc (by decide) _ _ _ _ _ _ _))) ?_
    ext1 <;> simp [helperAddition, entryLoopAddition, lead]
  | writeCollection =>
    show Makes scope .dom4j emitGetCollectionElement _ _
    unfold emitGetCollectionElement
    refine Makes.of_eq ((makes_importClass _).bind ((makes_indent 5).bind_right
      (makes_emitElementLoop hc (by decide) _ _ _ _ _ _ _))) ?_
    ext1 <;> simp [helperAddition, entryLoopAddition, lead]
  | writeMap =>
    show Makes scope .dom4j emitGetMapElement _ _
    unfold emitGetMapElement
    refine Makes.of_eq ((makes_importClass _).bind ((makes_indent 5).bind_right
      (makes_emitElementLoop hc (by decide) _ _ _ _ _ _ _))) ?_
    ext1
    · simp only [Addition.text_append, Addition.text_ofUses, String.empty_append]
      rfl
    · simp [helperAddition, entryLoopAddition]
    · simp [helperAddition, entryLoopAddition]

end Named

end XmlBinding.Server
