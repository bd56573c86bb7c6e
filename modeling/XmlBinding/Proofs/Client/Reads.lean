import XmlBinding.Proofs.Client.Served

/-!
# Nodes that a client builder reads

* `Client.readCode`, `readNode` : the statement that reads a property, and the node it reads;
* `Client.ReadsEntry` : the expression for an entry has a form;
* `Client.Reads` : a source has the code that reads a node;
* `Client.reads_of_builds` : the source of a class has.
-/

namespace XmlBinding.Client

variable {X : Type} {scope : Scope} {p : Property} {t : JavaType}

/-! ## Scalars -/

/-- What precedes the node of a scalar. -/
def scalarLead (scope : Scope) : ScalarKind → String
  | .string => scope.nameOf getString [] ++ "("
  | kind => (conversion kind).1

/-- What follows the node of a scalar, where `close` ends a call. -/
def scalarTail (close : String) : ScalarKind → String
  | .string => close
  | kind => (conversion kind).2

theorem text_scalarAddition (scope : Scope) (style : AccessStyle) (var : String) (p : Property)
    (kind : ScalarKind) :
    (scalarAddition scope style var p kind : Addition (Job X)).text =
      scope.accessText style var p (scalarLead scope kind)
        (scalarTail (if p.node.isAttribute then ")" else nodeEnd style) kind) none := by
  cases kind with
  | string => exact String.empty_append
  | _ => rfl

/-! ## Entries -/

def entryReadBy (s : Session) : ClientHelper → EntryForm
  | .readArray t | .readMap t => s.entryRead t
  | .readString | .writeMap => .unread

/-- The expression that reads an entry from the node `n` has a form: a call of the builder, a
conversion of the node, or nothing. -/
inductive ReadsEntry (scope : Scope) (t : JavaType) : EntryForm → Prop
  | bean (h : (valueAddition scope t : Addition (Job Empty)).text =
      scope.builderName t ++ "." ++ scope.nameOf getInstance [] ++ "(" ++ "n" ++ ")") :
      ReadsEntry scope t .bean
  | text (kind : ScalarKind) (h : (valueAddition scope t : Addition (Job Empty)).text =
      scalarLead scope kind ++ "n" ++ scalarTail ")" kind) : ReadsEntry scope t .text
  | unread (h : (valueAddition scope t : Addition (Job Empty)).text = "") :
      ReadsEntry scope t .unread

/-- The expression for a value of a type that is no entity. -/
theorem text_valueAddition (h : scope.session.isEntity t = false) :
    (valueAddition scope t : Addition (Job X)).text =
      match ScalarKind.of? t with
      | some kind => scalarLead scope kind ++ "n" ++ scalarTail ")" kind
      | none => "" := by
  unfold valueAddition readAddition
  cases t with
  | array c => rfl
  | primitive q =>
    have hcategory : (scope.session.synthetic (.primitive q)).category = .basic := rfl
    rw [hcategory]
    cases q <;> rfl
  | reference q =>
    have hcategory : (scope.session.synthetic (.reference q)).category = .basic := by
      unfold Session.synthetic
      dsimp only [JavaType.component?]
      rw [h]
      rfl
    rw [hcategory]
    dsimp only
    cases hk : ScalarKind.of? (.reference q) with
    | none =>
      have htype : ScalarKind.of? (scope.session.synthetic (.reference q)).type = none := hk
      rw [htype]
      rfl
    | some kind =>
      have htype : ScalarKind.of? (scope.session.synthetic (.reference q)).type = some kind := hk
      rw [htype]
      exact text_scalarAddition scope .as3Text "n" _ kind

theorem readsEntry_entryRead (scope : Scope) (t : JavaType) :
    ReadsEntry scope t (scope.session.entryRead t) := by
  unfold Session.entryRead
  cases he : scope.session.isEntity t with
  | true =>
    cases t with
    | primitive q => cases he
    | array c => cases he
    | reference q =>
      refine .bean ?_
      have hcategory : (scope.session.synthetic (.reference q)).category = .entity := by
        unfold Session.synthetic
        dsimp only [JavaType.component?]
        rw [he]
        rfl
      unfold valueAddition readAddition
      rw [hcategory]
      dsimp only
      rw [Addition.text_append, Addition.text_ofUses, String.empty_append]
      rfl
  | false =>
    have hvalue := text_valueAddition (X := Empty) he
    cases hk : ScalarKind.of? t with
    | some kind =>
      rw [hk] at hvalue
      exact .text kind hvalue
    | none =>
      rw [hk] at hvalue
      exact .unread hvalue

/-! ## The code of a node -/

/-- The statement that reads a property; none where it takes no part or is read only. -/
def readCode (scope : Scope) (p : Property) : String :=
  if p.takesPart .clientRead then
    (readAddition scope .as3 "o" p : Addition (Job Empty)).text
  else ""

/-- The node that is read for a property, where there is code for it. -/
def readNode (s : Session) (f : ClassFrame) (p : Property) : XmlNode :=
  p.nodeIn <| match p.category with
    | .basic => if p.node.isAttribute then .attribute else .text
    | .entity => .bean
    | .array t | .collection _ t _ =>
      .list (if s.isEntity t then .bean else entryReadBy s (served s f (.readArray t)))
    | .map _ t _ =>
      .map .attribute (if s.isEntity t then .bean else entryReadBy s (served s f (.readMap t)))

/-- The statement that sets a property to what follows a step from the node. -/
def takeText (scope : Scope) (p : Property) (step lead tail : String) : String :=
  scope.session.config.indent 3 ++ "o" ++ "." ++ p.name ++ " = " ++ lead ++ "nod." ++ step ++
    tail ++ ";\n"

/-- A source has the code that reads a property from a node. Beans are read by methods of their own
builder, and other entries by a method of the source itself that runs over them. Every entry of a
map is entered under its attribute for keys. -/
inductive Reads (scope : Scope) (source : String) (p : Property) : XmlNode → Prop
  | attribute (kind : ScalarKind)
      (h : Occurs (takeText scope p ("@" ++ p.node.name) (scalarLead scope kind)
        (scalarTail ")" kind)) source) : Reads scope source p (p.nodeIn .attribute)
  | text (kind : ScalarKind)
      (h : Occurs (takeText scope p p.node.name (scalarLead scope kind) (scalarTail "[0])" kind))
        source) : Reads scope source p (p.nodeIn .text)
  | bean {t : JavaType} (ht : scope.session.isEntity t = true)
      (h : Occurs (takeText scope p p.node.name
        (scope.builderName t ++ "." ++ scope.nameOf getInstance [] ++ "(") "[0])") source) :
      Reads scope source p (p.nodeIn .bean)
  | beans {t : JavaType} (ht : scope.session.isEntity t = true)
      (h : Occurs (takeText scope p p.node.name
        (scope.builderName t ++ "." ++ scope.nameOf getEntityArray [] ++ "(") "[0])") source) :
      Reads scope source p (p.nodeIn (.list .bean))
  | values {t : JavaType} {entry : EntryForm}
      (h : Occurs (takeText scope p p.node.name
        (scope.nameOf getBasicArray [capitalize t.clientName] ++ "(") "[0])") source)
      (hm : Occurs (helperAddition scope (.readArray t) : Addition (Job Empty)).text source)
      (he : ReadsEntry scope t entry) : Reads scope source p (p.nodeIn (.list entry))
  | beanMap {t : JavaType} (ht : scope.session.isEntity t = true)
      (h : Occurs (takeText scope p p.node.name
        (scope.builderName t ++ "." ++ scope.nameOf getEntityMap [] ++ "(") "[0])") source) :
      Reads scope source p (p.nodeIn (.map .attribute .bean))
  | valueMap {t : JavaType} {entry : EntryForm}
      (h : Occurs (takeText scope p p.node.name
        (scope.nameOf getBasicMap [capitalize t.clientName] ++ "(") "[0])") source)
      (hm : Occurs (helperAddition scope (.readMap t) : Addition (Job Empty)).text source)
      (he : ReadsEntry scope t entry) : Reads scope source p (p.nodeIn (.map .attribute entry))

theorem e4xPath_attribute {node : NodeBinding} (h : node.isAttribute = true) :
    node.e4xPath = "@" ++ node.name := by
  unfold NodeBinding.e4xPath
  rw [if_pos h]
  exact String.ext (by simp [NodeBinding.attributeSigil])

theorem e4xPath_element {node : NodeBinding} (h : node.isAttribute = false) :
    node.e4xPath = node.name := by
  unfold NodeBinding.e4xPath
  rw [h]
  rfl

/-- The access to a model for a property that is not read only. -/
theorem accessText_eq (h : p.isReadOnly = false) (lead tail : String)
    (placement : Option Placement) :
    scope.accessText .as3 "o" p lead tail placement =
      takeText scope p p.node.e4xPath lead tail := by
  unfold Scope.accessText AccessStyle.access?
  rw [h]
  rfl

theorem accessText_readOnly (h : p.isReadOnly = true) (lead tail : String)
    (placement : Option Placement) : scope.accessText .as3 "o" p lead tail placement = "" := by
  unfold Scope.accessText AccessStyle.access?
  rw [h]
  rfl

/-- Whether the readers take a property: basic ones have a scalar type. -/
def HasReader (p : Property) : Prop :=
  p.category = .basic → (ScalarKind.of? p.type).isSome = true

theorem text_sequenceAddition (t : JavaType) :
    (sequenceAddition scope .as3 "o" p t : Addition (Job X)).text =
      scope.accessText .as3 "o" p (sequenceReader scope t ++ "(") "[0])" (some .element) := by
  have hprimary : AccessStyle.as3.isPrimary = true := rfl
  unfold sequenceAddition
  rw [if_pos hprimary, Addition.text_append, Scope.text_callAddition, String.empty_append,
    Addition.text_ofText]

theorem readText_ne_empty_iff (hs : p.isReadOnly = false) :
    (readAddition scope .as3 "o" p : Addition (Job Empty)).text ≠ "" ↔ HasReader p := by
  unfold readAddition HasReader
  cases p.category with
  | basic =>
    cases ScalarKind.of? p.type <;> simp [text_scalarAddition, accessText_eq hs, takeText]
  | entity | array t | collection kind t implementation | map key t implementation =>
    simp [text_sequenceAddition, accessText_eq hs, takeText, AccessStyle.isPrimary]

theorem readText_readOnly (hs : p.isReadOnly = true) :
    (readAddition scope .as3 "o" p : Addition (Job X)).text = "" := by
  unfold readAddition
  cases p.category with
  | basic =>
    cases ScalarKind.of? p.type <;> simp [text_scalarAddition, accessText_readOnly hs]
  | entity | array t | collection kind t implementation | map key t implementation =>
    simp [text_sequenceAddition, accessText_readOnly hs, Scope.text_callAddition,
      AccessStyle.isPrimary]

/-- What takes part is read where the model has a setter and the readers take it. -/
theorem readCode_ne_empty_iff : readCode scope p ≠ "" ↔
    p.takesPart .clientRead = true ∧ p.isReadOnly = false ∧ HasReader p := by
  unfold readCode
  by_cases hd : p.takesPart .clientRead = true
  · rw [if_pos hd]
    cases hs : p.isReadOnly with
    | false =>
      rw [readText_ne_empty_iff hs]
      exact ⟨fun h => ⟨hd, rfl, h⟩, fun h => h.2.2⟩
    | true =>
      exact iff_of_false (fun h => h (readText_readOnly hs)) fun h => Bool.noConfusion h.2.1
  · rw [if_neg hd]
    exact iff_of_false (fun h => h rfl) fun h => hd h.1

section Built
variable {s : Session} (hc : s.catalog.NamesMethods) {e : Entity} {ps : List Property}
  {f : ClassFrame} {c : GeneratedClass}
  (h : Builder.Builds Handler.clientDialect s e ps f c)
include hc h

theorem occurs_readText {p : Property} (hp : p ∈ f.attributes ++ f.elements)
    (hd : p.takesPart .clientRead = true) :
    Occurs (readAddition (scopeOf s f) .as3 "o" p : Addition (Job Empty)).text c.source := by
  refine Occurs.trans ?_ (occurs_standing hc h).1
  unfold instanceAddition readsAddition
  simp only [Addition.text_append]
  let x (p : Property) : Addition (Job Empty) := readAddition (scopeOf s f) .as3 "o" p
  rcases List.mem_append.1 hp with hp | hp
  · have hocc : Occurs (x p).text _ := Addition.occurs_ofProperties hp hd
    exact ((hocc.append_right _).append_left _).append_left _
  · have hocc : Occurs (x p).text _ := Addition.occurs_ofProperties hp hd
    exact (((hocc.append_right _).append_left _).append_left _).append_left _

theorem occurs_served_read {p : Property} (hp : p ∈ f.attributes ++ f.elements)
    (hd : p.takesPart .clientRead = true) {job : ClientHelper} (hj : job ∈ readRequests s p) :
    Occurs (helperAddition (scopeOf s f) (served s f job) : Addition (Job Empty)).text c.source :=
  occurs_served hc h (ClassFrame.mem_requests_of_read hp hd hj)

/-- A basic property is read from its attribute or from its element. -/
theorem reads_basic {p : Property} (hp : p ∈ f.attributes ++ f.elements)
    (hd : p.takesPart .clientRead = true) (hs : p.isReadOnly = false)
    (hcategory : p.category = .basic) {kind : ScalarKind} (hk : ScalarKind.of? p.type = some kind) :
    Reads (scopeOf s f) c.source p (readNode s f p) := by
  have hocc := occurs_readText hc h hp hd
  unfold readAddition at hocc
  rw [hcategory] at hocc
  dsimp only at hocc
  rw [hk, Option.map_some, Option.getD_some, text_scalarAddition, accessText_eq hs] at hocc
  unfold readNode
  rw [hcategory]
  dsimp only
  cases ha : p.node.isAttribute with
  | true =>
    rw [ha, e4xPath_attribute ha] at hocc
    exact .attribute kind hocc
  | false =>
    rw [ha, e4xPath_element ha] at hocc
    exact .text kind hocc

/-- An array or a collection is read as its node. -/
theorem reads_sequence {p : Property} (hp : p ∈ f.elements) (hd : p.takesPart .clientRead = true)
    (hs : p.isReadOnly = false) {t : JavaType} (ht : p.category.element? = some t) :
    Reads (scopeOf s f) c.source p (p.nodeIn
      (.list (if s.isEntity t then .bean else entryReadBy s (served s f (.readArray t))))) := by
  have hall : p ∈ f.attributes ++ f.elements := List.mem_append_right _ hp
  obtain ⟨-, -, ha⟩ := h.mem_elements.1 hp
  have hocc : Occurs (sequenceAddition (scopeOf s f) .as3 "o" p t : Addition (Job Empty)).text
      c.source := by
    have hocc := occurs_readText hc h hall hd
    unfold readAddition at hocc
    cases hcategory : p.category <;> rw [hcategory] at hocc ht <;> cases ht <;> exact hocc
  have hj : s.isEntity t = false → ClientHelper.readArray t ∈ readRequests s p := by
    intro he
    unfold readRequests
    cases hcategory : p.category <;> rw [hcategory] at ht <;> cases ht <;> simp [he]
  rw [text_sequenceAddition, accessText_eq hs, e4xPath_element ha, sequenceReader,
    Scope.callOf] at hocc
  cases he : s.isEntity t with
  | true =>
    rw [show (scopeOf s f).session.isEntity t = true from he] at hocc
    exact .beans he hocc
  | false =>
    rw [show (scopeOf s f).session.isEntity t = false from he] at hocc
    have hm := occurs_served_read hc h hall hd (hj he)
    obtain ⟨t', ht', hname⟩ := eq_readArray (identity_served s f (.readArray t))
    rw [ht'] at hm ⊢
    simp only [Bool.false_eq_true, if_false] at hocc ⊢
    rw [← hname] at hocc
    exact .values hocc hm (readsEntry_entryRead _ t')

/-- An element that is not basic is read as its node. -/
theorem reads_element {p : Property} (hp : p ∈ f.elements) (hd : p.takesPart .clientRead = true)
    (hs : p.isReadOnly = false) (hbasic : p.category ≠ .basic) :
    Reads (scopeOf s f) c.source p (readNode s f p) := by
  obtain ⟨hmem, -, ha⟩ := h.mem_elements.1 hp
  have hall : p ∈ f.attributes ++ f.elements := List.mem_append_right _ hp
  have hocc := occurs_readText hc h hall hd
  unfold readAddition at hocc
  unfold readNode
  cases hcategory : p.category with
  | basic => exact absurd hcategory hbasic
  | entity =>
    rw [hcategory] at hocc
    dsimp only at hocc
    rw [Addition.text_append, Addition.text_ofUses, String.empty_append, Addition.text_ofText,
      accessText_eq hs, e4xPath_element ha] at hocc
    exact .bean (Session.isEntity_of_mem_describe h.described hmem hcategory) hocc
  | array t => exact reads_sequence hc h hp hd hs (by rw [hcategory]; rfl)
  | collection kind t implementation => exact reads_sequence hc h hp hd hs (by rw [hcategory]; rfl)
  | map key t implementation =>
    rw [hcategory] at hocc
    dsimp only at hocc ⊢
    have hprimary : AccessStyle.as3.isPrimary = true := rfl
    unfold mapReader Scope.callOf at hocc
    rw [if_pos hprimary, Addition.text_append, Scope.text_callAddition, String.empty_append,
      Addition.text_ofText, accessText_eq hs, e4xPath_element ha] at hocc
    cases he : s.isEntity t with
    | true =>
      rw [show (scopeOf s f).session.isEntity t = true from he] at hocc
      exact .beanMap he hocc
    | false =>
      rw [show (scopeOf s f).session.isEntity t = false from he] at hocc
      have hj : ClientHelper.readMap t ∈ readRequests s p := by
        rw [readRequests, hcategory]
        simp [he]
      have hm := occurs_served_read hc h hall hd hj
      obtain ⟨t', ht', hname⟩ := eq_readMap (identity_served s f (.readMap t))
      rw [ht'] at hm ⊢
      simp only [Bool.false_eq_true, if_false] at hocc ⊢
      rw [← hname] at hocc
      exact .valueMap hocc hm (readsEntry_entryRead _ t')

/-- Where there is code that reads a property, the source has it, for the property's node. -/
theorem reads_of_builds {p : Property} (hp : p ∈ ps) (hcode : readCode (scopeOf s f) p ≠ "") :
    Occurs (readCode (scopeOf s f) p) c.source ∧
      Reads (scopeOf s f) c.source p (readNode s f p) := by
  obtain ⟨hd, hs, hreader⟩ := readCode_ne_empty_iff.1 hcode
  have hall : p ∈ f.attributes ++ f.elements := List.mem_append.2 (h.mem_frame hp hd)
  rw [readCode, if_pos hd]
  refine ⟨occurs_readText hc h hall hd, ?_⟩
  by_cases hbasic : p.category = .basic
  · obtain ⟨kind, hk⟩ := Option.isSome_iff_exists.1 (hreader hbasic)
    exact reads_basic hc h hall hd hs hbasic hk
  · rcases h.mem_frame hp hd with ha | he
    · exact absurd (h.basic_of_mem_attributes ha) hbasic
    · exact reads_element hc h he hd hs hbasic

end Built

end XmlBinding.Client
