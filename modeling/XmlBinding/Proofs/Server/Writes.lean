import XmlBinding.Proofs.Server.Served

/-!
# Nodes that a server builder writes

* `Server.writeCode`, `writeNode` : the statements that write a property, and the node they write;
* `Server.Writes` : a source has the code that writes a node;
* `Server.writes_of_builds` : the source of a class has.
-/

namespace XmlBinding.Server

variable {X : Type} {scope : Scope} {p : Property} {t : JavaType}

/-! ## The code of a node -/

/-- The statements that write a property; none where it takes no part. -/
def writeCode (scope : Scope) (p : Property) : String :=
  if p.takesPart .serverWrite then
    if p.node.isAttribute then attributeText scope.session.config p
    else (writeAddition scope "o" p : Addition (Job Empty)).text
  else ""

theorem writeText_ne_empty (scope : Scope) (p : Property) :
    (writeAddition scope "o" p : Addition (Job Empty)).text ≠ "" := by
  unfold writeAddition
  cases p.category with
  | array t =>
    cases ht : t.isArray <;>
      simp [ht, Scope.text_callAddition, simpleText, nestedText, Config.lineText]
  | basic | entity | collection kind t implementation | map key t implementation =>
    simp [Scope.text_callAddition, simpleText, nestedText, Config.lineText]

/-- All that takes part is written. -/
theorem writeCode_ne_empty_iff : writeCode scope p ≠ "" ↔ p.takesPart .serverWrite = true := by
  have hattribute : attributeText scope.session.config p ≠ "" := by
    simp [attributeText, Config.lineText]
  unfold writeCode
  split
  · next hd =>
    refine iff_of_true ?_ hd
    split
    · exact hattribute
    · exact writeText_ne_empty scope p
  · next hd => exact iff_of_false (fun h => h rfl) hd

/-- The node that is written for a property. What no other writer takes is a text. -/
def writeNode (s : Session) (p : Property) : XmlNode :=
  p.nodeIn <| match p.category with
    | .basic => if p.node.isAttribute then .attribute else .text
    | .entity => .bean
    | .array t => if t.isArray then .text else .list (s.entryWritten t)
    | .collection _ t _ => .list (s.entryWritten t)
    | .map _ t _ => .map .attribute (s.entryWritten t)

/-- The statements that add the element which a method answers for a property. -/
def nestedCall (scope : Scope) (p : Property) (call : String) : String :=
  nestedText scope (onValue call "o" p) p

/-- A source has the code that writes a property as a node. Beans are written by methods of their
own builder, and other entries by a method of the source itself that runs over them. -/
inductive Writes (scope : Scope) (source : String) (p : Property) : XmlNode → Prop
  | attribute (h : Occurs (attributeText scope.session.config p) source) :
      Writes scope source p (p.nodeIn .attribute)
  | text (h : Occurs (simpleText scope "o" p) source) : Writes scope source p (p.nodeIn .text)
  | bean {t : JavaType} (ht : scope.session.isEntity t = true)
      (h : Occurs (nestedCall scope p
        (scope.builderName t ++ "." ++ scope.nameOf getElement [])) source) :
      Writes scope source p (p.nodeIn .bean)
  | beans {t : JavaType} (ht : scope.session.isEntity t = true) {key : String}
      (hk : key ∈ [getEntityArrayElement, getEntityCollectionElement])
      (h : Occurs (nestedCall scope p (scope.builderName t ++ "." ++ scope.nameOf key [])) source) :
      Writes scope source p (p.nodeIn (.list .bean))
  | texts {name type parameter header : String} (h : Occurs (nestedCall scope p name) source)
      (hm : Occurs (loopText scope.session.config scope.frame.node name type parameter header
        [addEntry (scope.session.config.indent 5)]) source) :
      Writes scope source p (p.nodeIn (.list .text))
  | beanMap {t : JavaType} (ht : scope.session.isEntity t = true)
      (h : Occurs (nestedCall scope p
        (scope.builderName t ++ (".\n" ++ scope.session.config.indent 4) ++
          scope.nameOf getEntityMapElement [])) source) :
      Writes scope source p (p.nodeIn (.map .attribute .bean))
  | textMap {name type parameter header : String} (h : Occurs (nestedCall scope p name) source)
      (hm : Occurs (loopText scope.session.config scope.frame.node name type parameter header
        [addMapEntry (scope.session.config.indent 5)]) source) :
      Writes scope source p (p.nodeIn (.map .attribute .text))

/-- The method of a helper that writes entries ends in its loop. -/
theorem occurs_entryLoop (scope : Scope) (key : String) (nameArgs : List String)
    (doc type parameter header : String) (statements uses : List String) :
    Occurs (loopText scope.session.config scope.frame.node (scope.nameOf key nameArgs) type
        parameter header statements)
      (entryLoopAddition scope key nameArgs doc type parameter header statements uses :
        Addition (Job X)).text :=
  (Occurs.refl _).append_left _

section Built
variable {s : Session} (hc : s.catalog.NamesMethods) {e : Entity} {ps : List Property}
  {f : ClassFrame} {c : GeneratedClass}
  (h : Builder.Builds Handler.serverDialect s e ps f c)
include hc h

theorem occurs_attribute {p : Property} (hp : p ∈ f.attributes)
    (hd : p.takesPart .serverWrite = true) :
    Occurs (attributeText s.config p) c.source := by
  refine Occurs.trans ?_ (occurs_standing hc h).2.1
  have hlazy := (Property.takesPart_iff.1 hd).1
  have hhead : Occurs (attributeText s.config p) (elementHead (scopeOf s f)) := by
    unfold elementHead
    refine Occurs.append_left (Occurs.join (List.mem_map.2 ⟨p, ?_, rfl⟩)) _
    exact List.mem_filter.2 ⟨hp, by rw [hlazy]; rfl⟩
  unfold elementAddition
  rw [Addition.text_append, Addition.text_append]
  exact (hhead.append_right _).append_left _

theorem occurs_writeText {p : Property} (hp : p ∈ f.elements)
    (hd : p.takesPart .serverWrite = true) :
    Occurs (writeAddition (scopeOf s f) "o" p : Addition (Job Empty)).text c.source := by
  refine Occurs.trans ?_ (occurs_standing hc h).2.1
  unfold elementAddition writesAddition
  rw [Addition.text_append, Addition.text_append, Addition.text_append]
  have hp' := Addition.occurs_ofProperties (x := fun p =>
    (writeAddition (scopeOf s f) "o" p : Addition (Job Empty))) hp hd
  exact ((hp'.append_right _).append_left _).append_left _

theorem occurs_served_write {p : Property} (hp : p ∈ f.elements)
    (hd : p.takesPart .serverWrite = true) {job : ServerHelper} (hj : job ∈ writeRequests s p) :
    Occurs (helperAddition (scopeOf s f) (served s f job) : Addition (Job Empty)).text c.source :=
  occurs_served hc h (ClassFrame.mem_requests_of_write hp hd hj)

theorem occurs_writeArray {p : Property} (hp : p ∈ f.elements)
    (hd : p.takesPart .serverWrite = true) (hj : .writeArray t ∈ writeRequests s p) :
    ∃ type parameter header, Occurs (loopText s.config f.node
      ((scopeOf s f).nameOf getArrayElement [capitalize t.simpleName]) type parameter header
        [addEntry (s.config.indent 5)]) c.source := by
  have hocc := occurs_served_write hc h hp hd hj
  obtain ⟨t', ht', hname⟩ := eq_writeArray (identity_served s f (.writeArray t))
  rw [ht', helperAddition, hname] at hocc
  have hloop := (occurs_entryLoop _ _ _ _ _ _ _ _ _).trans hocc
  exact ⟨_, _, _, hloop⟩

theorem occurs_writeCollection {p : Property} (hp : p ∈ f.elements)
    (hd : p.takesPart .serverWrite = true) (hj : .writeCollection ∈ writeRequests s p) :
    ∃ type parameter header, Occurs (loopText s.config f.node
      ((scopeOf s f).nameOf getCollectionElement []) type parameter header
        [addEntry (s.config.indent 5)]) c.source := by
  have hocc := occurs_served_write hc h hp hd hj
  rw [eq_writeCollection (identity_served s f .writeCollection), helperAddition] at hocc
  have hloop := (occurs_entryLoop _ _ _ _ _ _ _ _ _).trans hocc
  exact ⟨_, _, _, hloop⟩

theorem occurs_writeMap {p : Property} (hp : p ∈ f.elements)
    (hd : p.takesPart .serverWrite = true) (hj : .writeMap ∈ writeRequests s p) :
    ∃ type parameter header, Occurs (loopText s.config f.node
      ((scopeOf s f).nameOf getMapElement []) type parameter header
        [addMapEntry (s.config.indent 5)]) c.source := by
  have hocc := occurs_served_write hc h hp hd hj
  rw [eq_writeMap (identity_served s f .writeMap), helperAddition] at hocc
  have hloop := (occurs_entryLoop _ _ _ _ _ _ _ _ _).trans hocc
  exact ⟨_, _, _, hloop⟩

/-- An element is written as its node. -/
theorem writes_element {p : Property} (hp : p ∈ f.elements)
    (hd : p.takesPart .serverWrite = true) :
    Writes (scopeOf s f) c.source p (writeNode s p) := by
  obtain ⟨hmem, -, ha⟩ := h.mem_elements.1 hp
  have hocc := occurs_writeText hc h hp hd
  unfold writeAddition at hocc
  unfold writeNode
  cases hcategory : p.category with
  | basic =>
    rw [hcategory] at hocc
    simp only [ha, Bool.false_eq_true, if_false]
    exact .text hocc
  | entity =>
    rw [hcategory, Addition.text_append, Addition.text_ofUses, String.empty_append] at hocc
    exact .bean (Session.isEntity_of_mem_describe h.described hmem hcategory) hocc
  | array t =>
    rw [hcategory] at hocc
    dsimp only at hocc ⊢
    cases ht : t.isArray with
    | true =>
      rw [ht] at hocc
      exact .text hocc
    | false =>
      rw [ht] at hocc
      simp only [Bool.false_eq_true, if_false, Addition.text_append, Scope.text_callAddition,
        String.empty_append, Addition.text_ofText, arrayWriter, Scope.callOf] at hocc ⊢
      unfold Session.entryWritten
      cases he : s.isEntity t with
      | true =>
        rw [show (scopeOf s f).session.isEntity t = true from he] at hocc
        exact .beans he List.mem_cons_self hocc
      | false =>
        rw [show (scopeOf s f).session.isEntity t = false from he] at hocc
        have hj : ServerHelper.writeArray t ∈ writeRequests s p := by
          rw [writeRequests, hcategory]
          simp [ht, he]
        obtain ⟨type, parameter, header, hm⟩ := occurs_writeArray hc h hp hd hj
        exact .texts hocc hm
  | collection kind t implementation =>
    rw [hcategory] at hocc
    simp only [Addition.text_append, Scope.text_callAddition, String.empty_append,
      Addition.text_ofText, collectionWriter, Scope.callOf] at hocc
    dsimp only
    unfold Session.entryWritten
    cases he : s.isEntity t with
    | true =>
      rw [show (scopeOf s f).session.isEntity t = true from he] at hocc
      exact .beans he (List.mem_cons_of_mem _ List.mem_cons_self) hocc
    | false =>
      rw [show (scopeOf s f).session.isEntity t = false from he] at hocc
      have hj : ServerHelper.writeCollection ∈ writeRequests s p := by
        rw [writeRequests, hcategory]
        simp [he]
      obtain ⟨type, parameter, header, hm⟩ := occurs_writeCollection hc h hp hd hj
      exact .texts hocc hm
  | map key t implementation =>
    rw [hcategory] at hocc
    simp only [Addition.text_append, Scope.text_callAddition, String.empty_append,
      Addition.text_ofText, mapWriter, Scope.callOf] at hocc
    dsimp only
    unfold Session.entryWritten
    cases he : s.isEntity t with
    | true =>
      rw [show (scopeOf s f).session.isEntity t = true from he] at hocc
      exact .beanMap he hocc
    | false =>
      rw [show (scopeOf s f).session.isEntity t = false from he] at hocc
      have hj : ServerHelper.writeMap ∈ writeRequests s p := by
        rw [writeRequests, hcategory]
        simp [he]
      obtain ⟨type, parameter, header, hm⟩ := occurs_writeMap hc h hp hd hj
      exact .textMap hocc hm

/-- Where there is code that writes a property, the source has it, for the property's node. -/
theorem writes_of_builds {p : Property} (hp : p ∈ ps) (hcode : writeCode (scopeOf s f) p ≠ "") :
    Occurs (writeCode (scopeOf s f) p) c.source ∧
      Writes (scopeOf s f) c.source p (writeNode s p) := by
  have hd := writeCode_ne_empty_iff.1 hcode
  unfold writeCode
  rw [if_pos hd]
  rcases h.mem_frame hp hd with hp | hp
  · obtain ⟨-, -, ha⟩ := h.mem_attributes.1 hp
    have hocc := occurs_attribute hc h hp hd
    rw [if_pos ha, writeNode, h.basic_of_mem_attributes hp]
    dsimp only
    rw [if_pos ha]
    exact ⟨hocc, .attribute hocc⟩
  · obtain ⟨-, -, ha⟩ := h.mem_elements.1 hp
    rw [if_neg (Bool.eq_false_iff.1 ha)]
    exact ⟨occurs_writeText hc h hp hd, writes_element hc h hp hd⟩

end Built

end XmlBinding.Server
