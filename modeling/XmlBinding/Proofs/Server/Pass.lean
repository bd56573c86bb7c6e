import XmlBinding.Proofs.Pass
import XmlBinding.Proofs.Server.Reads
import XmlBinding.Proofs.Server.Writes

/-!
# The passes of a server builder

* `Server.instanceMethod`, `elementMethod` : the methods that read and write a bean, around the code
  for its properties;
* `Server.setterCall?`, `elementText` : the code for one property, by its category;
* `Server.HasPasses scope ps source` : between their ends, the methods of a source hold the code of
  the handled properties and nothing else; `hasPasses_of_builds`.
-/

namespace XmlBinding.Server

variable {X : Type} {scope : Scope} {p : Property}

/-! ## The methods -/

/-- The method that reads a bean, around its statements. -/
def instanceMethod (scope : Scope) (statements : String) : String :=
  instanceHead scope ++ statements ++
    (scope.session.config.lineText 2 "return o;" ++ scope.session.config.lineText 1 "\x7d")

/-- The method that writes a bean, up to its statements. -/
def elementOpening (scope : Scope) : String :=
  let c := scope.session.config
  lead scope getElement [bean scope] ++
    c.blockText 1 ("public static Element " ++ scope.nameOf getElement [] ++ "(" ++ bean scope ++
      " o)") ++
    c.lineText 2 "if(o == null) return null;" ++
    c.lineText 2
      ("final Element el = DocumentHelper.createElement(\"" ++ scope.frame.node ++ "\");") ++
    c.lineText 2 "String str = null;" ++ c.lineText 2 "Element nested = null;"

/-- The method that writes a bean, around its statements. -/
def elementMethod (scope : Scope) (statements : String) : String :=
  elementOpening scope ++ statements ++
    (scope.session.config.lineText 2 "return el;" ++ scope.session.config.lineText 1 "\x7d")

/-! ## Code for one property -/

/-- The call of the setter of a property with what its node holds: the text of an attribute or an
element, converted, or an element that a method reads. None where the bean has no setter, or no
conversion or method answers a value. -/
def setterCall? (scope : Scope) (p : Property) : Option String :=
  p.setter.bind fun setter =>
    let readBy (lead : String) : Option String := some (setText scope p setter "element" lead ")")
    match p.category with
    | .basic => p.scalar?.map fun kind =>
      setText scope p setter (if p.node.isAttribute then "attributeValue" else "elementTextTrim")
        kind.javaParse.1 kind.javaParse.2
    | .entity => readBy (scope.builderName p.type ++ "." ++ scope.nameOf getInstance [] ++ "(")
    | .array t => if t.isArray then none else readBy (arrayReader scope t ++ "(")
    | .collection _ t implementation =>
      readBy (fillLead scope (collectionReader scope t) implementation t.wrapperName)
    | .map key t implementation =>
      readBy (fillLead scope (mapReader scope key t) implementation
        (key.wrapperName ++ ", " ++ t.wrapperName))

/-- The statements that write a property as an element: those for a text, or those for the element
that a method answers. -/
def elementText (scope : Scope) (p : Property) : String :=
  match p.category with
  | .basic => simpleText scope "o" p
  | .entity => nestedCall scope p (scope.builderName p.type ++ "." ++ scope.nameOf getElement [])
  | .array t =>
    if t.isArray then simpleText scope "o" p else nestedCall scope p (arrayWriter scope t)
  | .collection _ t _ => nestedCall scope p (collectionWriter scope t)
  | .map _ t _ => nestedCall scope p (mapWriter scope t)

/-- The methods of a source that read and write a bean. Between its ends, the one holds the setter
call of each property that it handles and nothing else, the other the statements for attributes and
then those for elements. -/
def HasPasses (scope : Scope) (ps : List Property) (source : String) : Prop :=
  ∃ setters, Codes (setterCall? scope) (Property.handled .serverRead ps) setters ∧
    Occurs (instanceMethod scope (String.join setters) ++
      elementMethod scope
        (String.join ((Property.handledAt .serverWrite (·.node.isAttribute) ps).map
            (attributeText scope.session.config)) ++
          String.join ((Property.handledAt .serverWrite (!·.node.isAttribute) ps).map
            (elementText scope)))) source

theorem isHandled_serverRead_iff (hh : p.isHidden .marshalling = p.transience.isSome) :
    p.isHandled .serverRead = true ↔
      p.takesPart .serverRead = true ∧ p.isReadOnly = false ∧ HasReader p := by
  rw [Property.takesPart_iff, hh, Property.isReadOnly]
  unfold Property.isHandled HasReader Property.scalar?
  cases hc : p.category <;> cases p.transience <;> cases p.setter <;> simp

/-- A property that the readers take has a call of its setter, which is what they add. -/
theorem setterCall?_eq_readText (hs : p.isReadOnly = false) (hr : HasReader p)
    (hn : p.node.isAttribute = true → p.category = .basic) :
    setterCall? scope p = some (readAddition scope .dom4j "o" p : Addition (Job X)).text := by
  obtain ⟨setter, hs⟩ := Option.isSome_iff_exists.1 (Option.isNone_eq_false_iff.1 hs)
  have hread (hc : p.category ≠ .basic) (lead : String) :
      some (setText scope p setter "element" lead ")") =
        some (scope.accessText .dom4j "o" p lead ")" (some .element)) := by
    rw [accessText_eq hs, dom4jAccessor_element (Bool.eq_false_iff.2 fun ha => hc (hn ha))]
  unfold HasReader at hr
  unfold setterCall? readAddition
  rw [hs, Option.bind_some]
  cases hc : p.category with
  | basic =>
    rw [hc] at hr
    obtain ⟨kind, hk⟩ := Option.isSome_iff_exists.1 hr
    dsimp only [scalarText]
    rw [hk, Option.map_some, Addition.text_ofText]
    dsimp only
    rw [accessText_eq hs]
    rfl
  | array t =>
    rw [hc] at hr
    dsimp only at hr ⊢
    rw [hr, if_neg Bool.false_ne_true, if_neg Bool.false_ne_true,
      Addition.text_append_of_empty rfl]
    exact hread (by simp [hc]) _
  | entity =>
    dsimp only
    rw [Addition.text_append_of_empty rfl]
    exact hread (by simp [hc]) _
  | collection kind t implementation =>
    dsimp only
    rw [Addition.text_append_of_empty rfl, Addition.text_append_of_empty rfl,
      Addition.text_append_of_empty (scope.text_callAddition t _ _)]
    exact hread (by simp [hc]) _
  | map key t implementation =>
    dsimp only
    rw [Addition.text_append_of_empty rfl, Addition.text_append_of_empty rfl,
      Addition.text_append_of_empty rfl, Addition.text_append_of_empty rfl]
    exact hread (by simp [hc]) _

/-- The statements for an element are what its writer adds. -/
theorem text_writeAddition (scope : Scope) (p : Property) :
    (writeAddition scope "o" p : Addition (Job X)).text = elementText scope p := by
  unfold writeAddition elementText
  cases p.category with
  | basic => rfl
  | entity => exact Addition.text_append_of_empty rfl _
  | array t =>
    dsimp only
    cases t.isArray with
    | true => rfl
    | false => exact Addition.text_append_of_empty (scope.text_callAddition t _ _) _
  | collection kind t implementation =>
    exact Addition.text_append_of_empty (scope.text_callAddition t _ _) _
  | map key t implementation =>
    exact Addition.text_append_of_empty (scope.text_callAddition t _ _) _

/-! ## Classes -/

theorem text_instanceAddition (scope : Scope) :
    (instanceAddition scope : Addition (Job X)).text = instanceMethod scope
      ((readsAddition scope scope.frame.attributes : Addition (Job X)).text ++
        (readsAddition scope scope.frame.elements : Addition (Job X)).text) := by
  simp [instanceAddition, instanceMethod, String.append_assoc]

theorem text_elementAddition (scope : Scope) :
    (elementAddition scope : Addition (Job X)).text = elementMethod scope
      (String.join ((scope.frame.attributes.filter fun p => !p.isLazy .serverWrite).map
          (attributeText scope.session.config)) ++
        (writesAddition scope scope.frame.elements : Addition (Job X)).text) := by
  simp [elementAddition, elementMethod, elementHead, elementOpening, String.append_assoc]

section Described
variable {s : Session} {e : Entity} {ps : List Property} (hps : s.describe e = .ok ps)
include hps

/-- What reading the described properties in one place adds. -/
theorem text_readsAddition (scope : Scope) (place : Property → Bool) :
    (readsAddition scope (ps.filter fun p => !p.isHidden .marshalling && place p) :
        Addition (Job Empty)).text =
      String.join ((Property.handledAt .serverRead place ps).map (readCode scope)) := by
  have hh : ∀ p ∈ ps, p.isHidden .marshalling = p.transience.isSome :=
    fun p hp => Session.isHidden_of_mem_describe hps hp
  refine text_ofProperties_handled place hh (fun p hp _ hne => ?_) fun p hd _ => ?_
  · exact (isHandled_serverRead_iff (hh p hp)).2 (readCode_ne_empty_iff.1 hne)
  · unfold readCode
    rw [if_pos hd]

/-- What writing the described properties that are bound to elements adds. -/
theorem text_writesAddition (scope : Scope) :
    (writesAddition scope (ps.filter Builder.isFrameElement) : Addition (Job Empty)).text =
      String.join ((Property.handledAt .serverWrite (!·.node.isAttribute) ps).map
        (elementText scope)) := by
  have hh : ∀ p ∈ ps, p.isHidden .marshalling = p.transience.isSome :=
    fun p hp => Session.isHidden_of_mem_describe hps hp
  refine text_ofProperties_handled (fun p => !p.node.isAttribute) hh (fun p hp hd _ => ?_)
    fun p _ _ => text_writeAddition scope p
  exact (Property.isHandled_iff_takesPart (.inl rfl) (hh p hp)).2 hd

/-- The texts of the described properties that are bound to attributes. -/
theorem join_attributeText (c : Config) :
    String.join (((ps.filter Builder.isFrameAttribute).filter fun p => !p.isLazy .serverWrite).map
        (attributeText c)) =
      String.join ((Property.handledAt .serverWrite (·.node.isAttribute) ps).map
        (attributeText c)) := by
  have hh : ∀ p ∈ ps, p.isHidden .marshalling = p.transience.isSome :=
    fun p hp => Session.isHidden_of_mem_describe hps hp
  refine join_handled (fun p => p.node.isAttribute) hh (fun p hp hd _ => ?_)
    (fun p _ => rfl) fun p _ _ => rfl
  exact (Property.isHandled_iff_takesPart (.inl rfl) (hh p hp)).2 hd

end Described

section Built
variable {s : Session} {e : Entity} {ps : List Property} {f : ClassFrame} {c : GeneratedClass}
  (h : Builder.Builds Handler.serverDialect s e ps f c)
include h

theorem codes_setterCall? : Codes (setterCall? (scopeOf s f)) (Property.handled .serverRead ps)
    ((Property.handled .serverRead ps).map (readCode (scopeOf s f))) := by
  refine codes_map fun p hp => ?_
  obtain ⟨hp, hd⟩ := Property.mem_handled_iff.1 hp
  have hh := Session.isHidden_of_mem_describe h.described hp
  obtain ⟨hpart, hs, hr⟩ := (isHandled_serverRead_iff hh).1 hd
  unfold readCode
  rw [if_pos hpart]
  exact setterCall?_eq_readText hs hr (h.frame_eq.1 p hp (Property.takesPart_iff.1 hpart).2)

/-- The passes of a class handle the described properties. -/
theorem hasPasses_of_builds (hc : s.catalog.NamesMethods) :
    HasPasses (scopeOf s f) ps c.source := by
  have hps := h.described
  have hattributes : (scopeOf s f).frame.attributes = ps.filter Builder.isFrameAttribute :=
    h.attributes_eq
  have helements : (scopeOf s f).frame.elements = ps.filter Builder.isFrameElement :=
    h.elements_eq
  have hmethods : Occurs ((instanceAddition (scopeOf s f) : Addition (Job Empty)).text ++
      (elementAddition (scopeOf s f) : Addition (Job Empty)).text) c.source := by
    refine Occurs.trans ?_ (assembles_of_builds hc h).occurs_methods
    unfold standingAddition
    rw [Addition.text_append, Addition.text_append, ← String.append_assoc]
    exact (Occurs.refl _).append_right _
  have hreads (place : Property → Bool) := text_readsAddition hps (scopeOf s f) place
  refine ⟨_, codes_setterCall? h, ?_⟩
  rw [Property.handled, List.map_append, String.join_append, ← hreads, ← hreads,
    ← text_writesAddition hps, ← join_attributeText hps]
  rw [text_instanceAddition, text_elementAddition, hattributes, helements] at hmethods
  exact hmethods

end Built

end XmlBinding.Server
