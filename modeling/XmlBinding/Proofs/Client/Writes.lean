import XmlBinding.Proofs.Client.Served

/-!
# Nodes that a client builder writes

* `Client.writeCode`, `writeNode` : the part of the literal for a property, and the node it writes;
* `Client.Writes` : a source has the code that writes a node;
* `Client.writes_of_builds` : the source of a class has.
-/

namespace XmlBinding.Client

variable {X : Type} {scope : Scope} {p : Property} {t : JavaType}

/-! ## The code of a node -/

def attributeText (p : Property) : String := " " ++ p.node.name ++ "=\x7bo." ++ p.name ++ "\x7d"

/-- The part of the literal that writes a property; none where it takes no part. -/
def writeCode (scope : Scope) (p : Property) : String :=
  if p.takesPart .clientWrite then
    if p.node.isAttribute then attributeText p
    else (writeAddition scope "o" p : Addition (Job Empty)).text
  else ""

/-- All that takes part is written. -/
theorem writeCode_ne_empty_iff : writeCode scope p ≠ "" ↔ p.takesPart .clientWrite = true := by
  have hattribute : attributeText p ≠ "" := by simp [attributeText]
  unfold writeCode
  split
  · next hd =>
    refine iff_of_true ?_ hd
    split
    · exact hattribute
    · exact text_writeAddition_ne_empty scope "o" p
  · next hd => exact iff_of_false (fun h => h rfl) hd

def writeNode (s : Session) (p : Property) : XmlNode :=
  p.nodeIn <| match p.category with
    | .basic => if p.node.isAttribute then .attribute else .text
    | .entity => .bean
    | .array t | .collection _ t _ => .list (s.entryWritten t)
    | .map _ t _ => .map .attribute (s.entryWritten t)

/-- A source has the code that writes a property as a node. Beans are written by methods of their
own builder, and other values by methods of the source itself. -/
inductive Writes (scope : Scope) (source : String) (p : Property) : XmlNode → Prop
  | attribute (h : Occurs (attributeText p) source) : Writes scope source p (p.nodeIn .attribute)
  | text (h : Occurs (literalText scope (scope.nameOf getBasicXml []) "o" p) source)
      (hm : Occurs (basicXmlAddition scope : Addition (Job Empty)).text source) :
      Writes scope source p (p.nodeIn .text)
  | bean {t : JavaType} (ht : scope.session.isEntity t = true)
      (h : Occurs (literalText scope
        (scope.builderName t ++ "." ++ scope.nameOf getXml []) "o" p) source) :
      Writes scope source p (p.nodeIn .bean)
  | beans {t : JavaType} (ht : scope.session.isEntity t = true)
      (h : Occurs (literalText scope
        (scope.builderName t ++ "." ++ scope.nameOf getEntityXmlList []) "o" p) source) :
      Writes scope source p (p.nodeIn (.list .bean))
  | texts (h : Occurs (literalText scope (scope.nameOf getBasicXmlList []) "o" p) source)
      (hm : Occurs (basicXmlListAddition scope : Addition (Job Empty)).text source) :
      Writes scope source p (p.nodeIn (.list .text))
  | beanMap {t : JavaType} (ht : scope.session.isEntity t = true)
      (h : Occurs (literalText scope
        (scope.builderName t ++ "." ++ scope.nameOf getEntityMapXml []) "o" p) source) :
      Writes scope source p (p.nodeIn (.map .attribute .bean))
  | textMap (h : Occurs (literalText scope (scope.nameOf getBasicMapXml []) "o" p) source)
      (hm : Occurs (helperAddition scope .writeMap : Addition (Job Empty)).text source) :
      Writes scope source p (p.nodeIn (.map .attribute .text))

theorem occurs_literalAttributes (scope : Scope) (lines : String) :
    Occurs (literalAttributes scope.frame.attributes) (literalOf scope lines) := by
  unfold literalOf Config.lineText
  dsimp only
  have hstart (before after : String) : Occurs (literalAttributes scope.frame.attributes)
      (before ++ (("var el:XML = <" ++ scope.frame.node ++
        literalAttributes scope.frame.attributes) ++ after) ++ "\n") :=
    ((((Occurs.refl _).append_left _).append_right after).append_left before).append_right _
  split
  · exact hstart _ _
  · exact ((hstart _ _).append_right _).append_right _

theorem occurs_literalLines (scope : Scope) (lines : String) :
    Occurs lines (literalOf scope lines) := by
  unfold literalOf
  dsimp only
  split
  · next h =>
    rw [String.isEmpty_iff.1 h]
    exact Occurs.empty _
  · exact ((Occurs.refl _).append_left _).append_right _

section Built
variable {s : Session} (hc : s.catalog.NamesMethods) {e : Entity} {ps : List Property}
  {f : ClassFrame} {c : GeneratedClass}
  (h : Builder.Builds Handler.clientDialect s e ps f c)
include hc h

theorem occurs_literal : Occurs (literalOf (scopeOf s f)
    (writesAddition (scopeOf s f) f.elements : Addition (Job Empty)).text) c.source := by
  refine Occurs.trans ?_ (occurs_standing hc h).2.1
  unfold xmlAddition
  simp only [Addition.text_append, Addition.text_ofText]
  refine Occurs.append_left (Occurs.append_left (Occurs.append_left ?_ _) _) _
  exact (Occurs.refl _).append_right _

theorem occurs_attribute {p : Property} (hp : p ∈ f.attributes)
    (hd : p.takesPart .clientWrite = true) : Occurs (attributeText p) c.source := by
  refine Occurs.trans ?_ ((occurs_literalAttributes _ _).trans (occurs_literal hc h))
  have hlazy := (Property.takesPart_iff.1 hd).1
  unfold literalAttributes
  refine Occurs.join (List.mem_map.2 ⟨p, ?_, rfl⟩)
  exact List.mem_filter.2 ⟨hp, by rw [hlazy]; rfl⟩

theorem occurs_writeText {p : Property} (hp : p ∈ f.elements)
    (hd : p.takesPart .clientWrite = true) :
    Occurs (writeAddition (scopeOf s f) "o" p : Addition (Job Empty)).text c.source := by
  refine Occurs.trans ?_ ((occurs_literalLines _ _).trans (occurs_literal hc h))
  exact Addition.occurs_ofProperties (x := fun p =>
    (writeAddition (scopeOf s f) "o" p : Addition (Job Empty))) hp hd

theorem occurs_writeMap {p : Property} (hp : p ∈ f.elements) (hd : p.takesPart .clientWrite = true)
    (hj : .writeMap ∈ writeRequests s p) :
    Occurs (helperAddition (scopeOf s f) .writeMap : Addition (Job Empty)).text c.source := by
  have hocc := occurs_served hc h (ClassFrame.mem_requests_of_write hp hd hj)
  rw [eq_writeMap (identity_served s f .writeMap)] at hocc
  exact hocc

/-- The line for an array or a collection writes its node. -/
theorem writes_sequence {p : Property}
    (hocc : Occurs (literalText (scopeOf s f) (sequenceWriter (scopeOf s f) t) "o" p) c.source) :
    Writes (scopeOf s f) c.source p (p.nodeIn (.list (s.entryWritten t))) := by
  unfold sequenceWriter at hocc
  unfold Session.entryWritten
  cases he : s.isEntity t with
  | true =>
    rw [show (scopeOf s f).session.isEntity t = true from he] at hocc
    exact .beans he hocc
  | false =>
    rw [show (scopeOf s f).session.isEntity t = false from he] at hocc
    exact .texts hocc (occurs_standing hc h).2.2.2.2.2.1

/-- An element is written as its node. -/
theorem writes_element {p : Property} (hp : p ∈ f.elements)
    (hd : p.takesPart .clientWrite = true) :
    Writes (scopeOf s f) c.source p (writeNode s p) := by
  obtain ⟨hmem, -, ha⟩ := h.mem_elements.1 hp
  have hocc := occurs_writeText hc h hp hd
  unfold writeAddition at hocc
  unfold writeNode
  cases hcategory : p.category with
  | basic =>
    rw [hcategory] at hocc
    simp only [ha, Bool.false_eq_true, if_false]
    exact .text hocc (occurs_standing hc h).2.2.1
  | entity =>
    rw [hcategory] at hocc
    dsimp only at hocc
    rw [Addition.text_append, Addition.text_ofUses, String.empty_append] at hocc
    exact .bean (Session.isEntity_of_mem_describe h.described hmem hcategory) hocc
  | array t =>
    rw [hcategory] at hocc
    dsimp only at hocc
    rw [Addition.text_append, Addition.text_ofUses, String.empty_append] at hocc
    exact writes_sequence hc h hocc
  | collection kind t implementation =>
    rw [hcategory] at hocc
    dsimp only at hocc
    rw [Addition.text_append, Addition.text_ofUses, String.empty_append] at hocc
    exact writes_sequence hc h hocc
  | map key t implementation =>
    rw [hcategory] at hocc
    dsimp only at hocc ⊢
    rw [Addition.text_append, Scope.text_callAddition, String.empty_append, Addition.text_ofText,
      mapWriter, Scope.callOf] at hocc
    unfold Session.entryWritten
    cases he : s.isEntity t with
    | true =>
      rw [show (scopeOf s f).session.isEntity t = true from he] at hocc
      exact .beanMap he hocc
    | false =>
      rw [show (scopeOf s f).session.isEntity t = false from he] at hocc
      have hj : ClientHelper.writeMap ∈ writeRequests s p := by
        rw [writeRequests, hcategory]
        simp [he]
      exact .textMap hocc (occurs_writeMap hc h hp hd hj)

/-- Where there is code that writes a property, the source has it, for the property's node. -/
theorem writes_of_builds {p : Property} (hp : p ∈ ps) (hcode : writeCode (scopeOf s f) p ≠ "") :
    Occurs (writeCode (scopeOf s f) p) c.source ∧
      Writes (scopeOf s f) c.source p (writeNode s p) := by
  have hd := writeCode_ne_empty_iff.1 hcode
  unfold writeCode
  rw [if_pos hd]
  rcases h.mem_frame hp hd with hp | hp
  · obtain ⟨-, -, ha⟩ := h.mem_attributes.1 hp
    have hocc := occurs_attribute hc h hp hd
    rw [if_pos ha, writeNode, h.basic_of_mem_attributes hp]
    dsimp only
    rw [if_pos ha]
    exact ⟨hocc, .attribute hocc⟩
  · obtain ⟨-, -, ha⟩ := h.mem_elements.1 hp
    rw [if_neg (Bool.eq_false_iff.1 ha)]
    exact ⟨occurs_writeText hc h hp hd, writes_element hc h hp hd⟩

end Built

end XmlBinding.Client
