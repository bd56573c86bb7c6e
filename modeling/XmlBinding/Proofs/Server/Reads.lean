import XmlBinding.Proofs.Server.Served

/-!
# Nodes that a server builder reads

* `Server.readCode`, `readNode` : the statement that reads a property, and the node it reads;
* `Server.ReadsEntry`, `ReadsKey` : the expression for an entry or a key has a form;
* `Server.Reads` : a source has the code that reads a node;
* `Server.reads_of_builds` : the source of a class has.
-/

namespace XmlBinding.Server

variable {X : Type} {scope : Scope} {p : Property} {t : JavaType}

/-! ## Entries and keys -/

def entryReadBy (s : Session) : ServerHelper → EntryForm
  | .readArray t | .readCollection t | .readMap _ t => s.entryRead t
  | .writeArray _ | .writeCollection | .writeMap => .unread

def keyReadBy : ServerHelper → KeyForm
  | .readMap key _ => Session.keyRead key
  | _ => .unread

/-- The expression that reads an entry from a variable has a form: a call of the builder, a
conversion of the element's text, or nothing. -/
inductive ReadsEntry (scope : Scope) (var : String) (t : JavaType) : EntryForm → Prop
  | bean (h : valueText scope .dom4jText var t =
      scope.builderName t ++ "." ++ scope.nameOf getInstance [] ++ "(" ++ var ++ ")") :
      ReadsEntry scope var t .bean
  | text (kind : ScalarKind) (h : valueText scope .dom4jText var t =
      kind.javaParse.1 ++ var ++ ".getTextTrim()" ++ kind.javaParse.2) :
      ReadsEntry scope var t .text
  | unread (h : valueText scope .dom4jText var t = "") : ReadsEntry scope var t .unread

/-- The expression that reads a key has a form: a conversion of the attribute for keys, or
nothing. -/
inductive ReadsKey (scope : Scope) (var : String) (t : JavaType) : KeyForm → Prop
  | attribute (kind : ScalarKind) (h : valueText scope .dom4jKey var t =
      kind.javaParse.1 ++ var ++ ".attributeValue(\"" ++ mapKeyAttribute ++ "\")" ++
        kind.javaParse.2) : ReadsKey scope var t .attribute
  | unread (h : valueText scope .dom4jKey var t = "") : ReadsKey scope var t .unread

/-- The expression for a value of a type that is no entity. -/
theorem valueText_of_not_isEntity (h : scope.session.isEntity t = false) (inner : AccessStyle)
    (var : String) :
    valueText scope inner var t =
      match ScalarKind.of? t with
      | some kind => scope.accessText inner var (scope.session.synthetic t) kind.javaParse.1
          kind.javaParse.2 none
      | none => "" := by
  unfold valueText scalarText
  rw [h, Session.scalar?_synthetic h]
  rfl

theorem readsEntry_entryRead (scope : Scope) (var : String) (t : JavaType) :
    ReadsEntry scope var t (scope.session.entryRead t) := by
  unfold Session.entryRead
  cases he : scope.session.isEntity t with
  | true =>
    refine .bean ?_
    unfold valueText
    rw [he]
    rfl
  | false =>
    have hvalue := valueText_of_not_isEntity he .dom4jText var
    cases hk : ScalarKind.of? t with
    | some kind =>
      rw [hk] at hvalue
      exact .text kind hvalue
    | none =>
      rw [hk] at hvalue
      exact .unread hvalue

theorem readsKey_keyRead (h : scope.session.isEntity t = false) (var : String) :
    ReadsKey scope var t (Session.keyRead t) := by
  have hvalue := valueText_of_not_isEntity h .dom4jKey var
  unfold Session.keyRead
  cases hk : ScalarKind.of? t with
  | some kind =>
    rw [hk] at hvalue
    exact .attribute kind hvalue
  | none =>
    rw [hk] at hvalue
    exact .unread hvalue

/-! ## The code of a node -/

/-- The statement that reads a property; none where it takes no part or no writer has one. -/
def readCode (scope : Scope) (p : Property) : String :=
  if p.takesPart .serverRead then
    (readAddition scope .dom4j "o" p : Addition (Job Empty)).text
  else ""

/-- The node that is read for a property, where there is code for it. -/
def readNode (s : Session) (f : ClassFrame) (p : Property) : XmlNode :=
  p.nodeIn <| match p.category with
    | .basic => if p.node.isAttribute then .attribute else .text
    | .entity => .bean
    | .array t => .list (entryReadBy s (served s f (.readArray t)))
    | .collection _ t _ =>
      .list (if s.isEntity t then .bean else entryReadBy s (served s f (.readCollection t)))
    | .map key t _ =>
      .map (keyReadBy (served s f (.readMap key t))) (entryReadBy s (served s f (.readMap key t)))

/-- The statement that sets a property to what an accessor of the element answers for its node. -/
def setText (scope : Scope) (p : Property) (setter accessor lead tail : String) : String :=
  scope.session.config.indent 2 ++ "o" ++ "." ++ setter ++ "(" ++ lead ++ "el." ++ accessor ++
    "(\"" ++ p.node.name ++ "\")" ++ tail ++ ");\n"

/-- A source has the code that reads a property from a node. Beans are read by methods of their own
builder, and other entries by a method of the source itself that runs over them. -/
inductive Reads (scope : Scope) (source : String) (p : Property) : XmlNode → Prop
  | attribute {setter : String} (kind : ScalarKind)
      (h : Occurs (setText scope p setter "attributeValue" kind.javaParse.1 kind.javaParse.2)
        source) : Reads scope source p (p.nodeIn .attribute)
  | text {setter : String} (kind : ScalarKind)
      (h : Occurs (setText scope p setter "elementTextTrim" kind.javaParse.1 kind.javaParse.2)
        source) : Reads scope source p (p.nodeIn .text)
  | bean {setter : String} {t : JavaType} (ht : scope.session.isEntity t = true)
      (h : Occurs (setText scope p setter "element"
        (scope.builderName t ++ "." ++ scope.nameOf getInstance [] ++ "(") ")") source) :
      Reads scope source p (p.nodeIn .bean)
  | array {setter : String} {t : JavaType} {entry : EntryForm}
      (h : Occurs (setText scope p setter "element" (arrayReader scope t ++ "(") ")") source)
      (hm : Occurs (arrayAddition scope t : Addition (Job Empty)).text source)
      (he : ReadsEntry scope "e" t entry) : Reads scope source p (p.nodeIn (.list entry))
  | beans {setter : String} {t implementation : JavaType} {types : String}
      (ht : scope.session.isEntity t = true)
      (h : Occurs (setText scope p setter "element" (fillLead scope
        (scope.builderName t ++ "." ++ scope.nameOf getEntityCollection []) implementation types)
          ")") source) : Reads scope source p (p.nodeIn (.list .bean))
  | collection {setter : String} {t implementation : JavaType} {types : String} {entry : EntryForm}
      (h : Occurs (setText scope p setter "element" (fillLead scope
        (scope.nameOf getCollection [capitalize t.wrapperName]) implementation types) ")") source)
      (hm : Occurs (collectionAddition scope t : Addition (Job Empty)).text source)
      (he : ReadsEntry scope "el" t entry) : Reads scope source p (p.nodeIn (.list entry))
  | map {setter : String} {keyType t implementation : JavaType} {types : String} {key : KeyForm}
      {entry : EntryForm}
      (h : Occurs (setText scope p setter "element" (fillLead scope (mapReader scope keyType t)
        implementation types) ")") source)
      (hm : Occurs (mapAddition scope keyType t : Addition (Job Empty)).text source)
      (hk : ReadsKey scope "el" keyType key) (he : ReadsEntry scope "el" t entry) :
      Reads scope source p (p.nodeIn (.map key entry))

/-- The access to a bean where it has a setter. -/
theorem accessText_eq {setter : String} (h : p.setter = some setter) (lead tail : String)
    (placement : Option Placement) :
    scope.accessText .dom4j "o" p lead tail placement =
      setText scope p setter (AccessStyle.dom4jAccessor p.node placement) lead tail := by
  unfold Scope.accessText AccessStyle.access?
  rw [h]
  rfl

theorem accessText_readOnly (h : p.isReadOnly = true) (lead tail : String)
    (placement : Option Placement) : scope.accessText .dom4j "o" p lead tail placement = "" := by
  unfold Scope.accessText AccessStyle.access?
  rw [Option.isNone_iff_eq_none.1 h]
  rfl

/-- Whether the readers take a property: basic ones have a scalar type, and no array is one of
arrays. -/
def HasReader (p : Property) : Prop :=
  match p.category with
  | .basic => p.scalar?.isSome = true
  | .array t => t.isArray = false
  | .entity | .collection .. | .map .. => True

theorem readText_ne_empty_iff (hs : p.isReadOnly = false) :
    (readAddition scope .dom4j "o" p : Addition (Job Empty)).text ≠ "" ↔ HasReader p := by
  obtain ⟨setter, hs⟩ := Option.isSome_iff_exists.1 (Option.isNone_eq_false_iff.1 hs)
  unfold readAddition HasReader scalarText
  simp only [accessText_eq hs]
  cases p.category with
  | basic => cases p.scalar? <;> simp [setText]
  | array t => cases ht : t.isArray <;> simp [ht, setText]
  | entity | collection kind t implementation | map key t implementation => simp [setText]

theorem readText_readOnly (hs : p.isReadOnly = true) :
    (readAddition scope .dom4j "o" p : Addition (Job X)).text = "" := by
  unfold readAddition scalarText
  cases p.category with
  | basic => cases p.scalar? <;> simp [accessText_readOnly hs]
  | array t => cases ht : t.isArray <;> simp [ht, accessText_readOnly hs]
  | entity | collection kind t implementation | map key t implementation =>
    simp [accessText_readOnly hs, Scope.text_callAddition]

/-- What takes part is read where the bean has a setter and the readers take it. -/
theorem readCode_ne_empty_iff : readCode scope p ≠ "" ↔
    p.takesPart .serverRead = true ∧ p.isReadOnly = false ∧ HasReader p := by
  unfold readCode
  by_cases hd : p.takesPart .serverRead = true
  · rw [if_pos hd]
    cases hs : p.isReadOnly with
    | false =>
      rw [readText_ne_empty_iff hs]
      exact ⟨fun h => ⟨hd, rfl, h⟩, fun h => h.2.2⟩
    | true =>
      exact iff_of_false (fun h => h (readText_readOnly hs)) fun h => Bool.noConfusion h.2.1
  · rw [if_neg hd]
    exact iff_of_false (fun h => h rfl) fun h => hd h.1

theorem dom4jAccessor_element {node : NodeBinding} (h : node.isAttribute = false) :
    AccessStyle.dom4jAccessor node (some .element) = "element" := by
  unfold AccessStyle.dom4jAccessor
  rw [h]
  rfl

section Built
variable {s : Session} (hc : s.catalog.NamesMethods) {e : Entity} {ps : List Property}
  {f : ClassFrame} {c : GeneratedClass}
  (h : Builder.Builds Handler.serverDialect s e ps f c)
include hc h

theorem occurs_readText {p : Property} (hp : p ∈ f.attributes ++ f.elements)
    (hd : p.takesPart .serverRead = true) :
    Occurs (readAddition (scopeOf s f) .dom4j "o" p : Addition (Job Empty)).text c.source := by
  refine Occurs.trans ?_ (occurs_standing hc h).1
  unfold instanceAddition readsAddition
  simp only [Addition.text_append]
  let x (p : Property) : Addition (Job Empty) := readAddition (scopeOf s f) .dom4j "o" p
  rcases List.mem_append.1 hp with hp | hp
  · have hocc : Occurs (x p).text _ := Addition.occurs_ofProperties hp hd
    exact ((hocc.append_right _).append_left _).append_left _
  · have hocc : Occurs (x p).text _ := Addition.occurs_ofProperties hp hd
    exact (((hocc.append_right _).append_left _).append_left _).append_left _

theorem occurs_served_read {p : Property} (hp : p ∈ f.attributes ++ f.elements)
    (hd : p.takesPart .serverRead = true) {job : ServerHelper} (hj : job ∈ readRequests s p) :
    Occurs (helperAddition (scopeOf s f) (served s f job) : Addition (Job Empty)).text c.source :=
  occurs_served hc h (ClassFrame.mem_requests_of_read hp hd hj)

/-- The keys of a map that a helper reads are no entities. -/
theorem not_isEntity_of_mem_requests {key t : JavaType}
    (hj : ServerHelper.readMap key t ∈ requests s f) : s.isEntity key = false := by
  obtain ⟨q, hq, ⟨hd, hj⟩ | ⟨-, hj⟩⟩ := ClassFrame.exists_of_mem_requests hj
  · unfold readRequests at hj
    cases hcategory : q.category with
    | basic => simp [hcategory] at hj
    | entity => simp [hcategory] at hj
    | array u => cases hu : u.isArray <;> simp [hcategory, hu] at hj
    | collection kind u implementation =>
      cases hu : s.isEntity u <;> simp [hcategory, hu] at hj
    | map key' u implementation =>
      simp only [hcategory, List.mem_singleton, ServerHelper.readMap.injEq] at hj
      obtain ⟨rfl, rfl⟩ := hj
      refine Bool.eq_false_iff.2 fun hkey => readable_of_builds hc h hq ⟨hd, ?_⟩
      exact ⟨key, t, implementation, hcategory, hkey⟩
  · unfold writeRequests at hj
    cases hcategory : q.category with
    | basic => simp [hcategory] at hj
    | entity => simp [hcategory] at hj
    | array u => cases hu : u.isArray <;> cases he : s.isEntity u <;> simp [hcategory, hu, he] at hj
    | collection kind u implementation =>
      cases hu : s.isEntity u <;> simp [hcategory, hu] at hj
    | map key' u implementation => cases hu : s.isEntity u <;> simp [hcategory, hu] at hj

/-- A basic property is read from its attribute or from the text of its element. -/
theorem reads_basic {p : Property} (hp : p ∈ f.attributes ++ f.elements)
    (hd : p.takesPart .serverRead = true) {setter : String} (hs : p.setter = some setter)
    (hcategory : p.category = .basic) {kind : ScalarKind} (hk : p.scalar? = some kind) :
    Reads (scopeOf s f) c.source p (readNode s f p) := by
  have hocc := occurs_readText hc h hp hd
  unfold readAddition at hocc
  rw [hcategory] at hocc
  dsimp only at hocc
  rw [Addition.text_ofText, scalarText, hk] at hocc
  dsimp only at hocc
  rw [accessText_eq hs] at hocc
  unfold readNode AccessStyle.dom4jAccessor at *
  rw [hcategory]
  cases ha : p.node.isAttribute with
  | true =>
    rw [ha] at hocc
    exact .attribute kind hocc
  | false =>
    rw [ha] at hocc
    exact .text kind hocc

/-- An element that is not basic is read as its node. -/
theorem reads_element {p : Property} (hp : p ∈ f.elements)
    (hd : p.takesPart .serverRead = true) {setter : String} (hs : p.setter = some setter)
    (hreader : HasReader p) (hbasic : p.category ≠ .basic) :
    Reads (scopeOf s f) c.source p (readNode s f p) := by
  obtain ⟨hmem, -, ha⟩ := h.mem_elements.1 hp
  have hocc := occurs_readText hc h (List.mem_append_right _ hp) hd
  have hserved {job : ServerHelper} (hj : job ∈ readRequests s p) :=
    occurs_served_read hc h (List.mem_append_right _ hp) hd hj
  unfold readAddition at hocc
  unfold HasReader at hreader
  simp only [accessText_eq hs, dom4jAccessor_element ha] at hocc
  unfold readNode
  cases hcategory : p.category with
  | basic => exact absurd hcategory hbasic
  | entity =>
    rw [hcategory, Addition.text_append, Addition.text_ofUses, String.empty_append] at hocc
    exact .bean (Session.isEntity_of_mem_describe h.described hmem hcategory) hocc
  | array t =>
    rw [hcategory] at hocc hreader
    have ht : t.isArray = false := hreader
    have hj : ServerHelper.readArray t ∈ readRequests s p := by
      rw [readRequests, hcategory]
      simp [ht]
    have hm := hserved hj
    obtain ⟨t', ht', hname⟩ := eq_readArray (identity_served s f (.readArray t))
    dsimp only at hocc ⊢
    rw [ht'] at hm ⊢
    simp only [ht, Bool.false_eq_true, if_false, Addition.text_append, Addition.text_ofAsk,
      String.empty_append, Addition.text_ofText, arrayReader, ← hname] at hocc
    exact .array hocc hm (readsEntry_entryRead _ "e" t')
  | collection kind t implementation =>
    rw [hcategory] at hocc
    simp only [Addition.text_append, Addition.text_ofUses, Scope.text_callAddition,
      String.empty_append, Addition.text_ofText, collectionReader, Scope.callOf] at hocc
    dsimp only
    cases he : s.isEntity t with
    | true =>
      rw [show (scopeOf s f).session.isEntity t = true from he] at hocc
      exact .beans he hocc
    | false =>
      rw [show (scopeOf s f).session.isEntity t = false from he] at hocc
      have hj : ServerHelper.readCollection t ∈ readRequests s p := by
        rw [readRequests, hcategory]
        simp [he]
      have hm := hserved hj
      obtain ⟨t', ht', hname⟩ := eq_readCollection (identity_served s f (.readCollection t))
      rw [ht'] at hm ⊢
      simp only [Bool.false_eq_true, if_false] at hocc ⊢
      rw [← hname] at hocc
      exact .collection hocc hm (readsEntry_entryRead _ "el" t')
  | map key t implementation =>
    rw [hcategory] at hocc
    simp only [Addition.text_append, Addition.text_ofUses, Addition.text_ofAsk, String.empty_append,
      Addition.text_ofText, mapReader] at hocc
    have hj : ServerHelper.readMap key t ∈ readRequests s p := by
      rw [readRequests, hcategory]
      exact List.mem_singleton.2 rfl
    have hm := hserved hj
    obtain ⟨key', t', ht', hname⟩ := eq_readMap (identity_served s f (.readMap key t))
    have hkey : s.isEntity key' = false := by
      refine not_isEntity_of_mem_requests hc h (t := t') ?_
      rw [← ht']
      exact servedBy_mem (ClassFrame.mem_requests_of_read (List.mem_append_right _ hp) hd hj)
    dsimp only
    rw [ht'] at hm ⊢
    rw [← hname] at hocc
    exact .map hocc hm (readsKey_keyRead hkey "el") (readsEntry_entryRead _ "el" t')

/-- Where there is code that reads a property, the source has it, for the property's node. -/
theorem reads_of_builds {p : Property} (hp : p ∈ ps) (hcode : readCode (scopeOf s f) p ≠ "") :
    Occurs (readCode (scopeOf s f) p) c.source ∧
      Reads (scopeOf s f) c.source p (readNode s f p) := by
  obtain ⟨hd, hs, hreader⟩ := readCode_ne_empty_iff.1 hcode
  obtain ⟨setter, hs⟩ := Option.isSome_iff_exists.1 (Option.isNone_eq_false_iff.1 hs)
  have hall : p ∈ f.attributes ++ f.elements := List.mem_append.2 (h.mem_frame hp hd)
  rw [readCode, if_pos hd]
  refine ⟨occurs_readText hc h hall hd, ?_⟩
  by_cases hbasic : p.category = .basic
  · unfold HasReader at hreader
    rw [hbasic] at hreader
    obtain ⟨kind, hk⟩ := Option.isSome_iff_exists.1 hreader
    exact reads_basic hc h hall hd hs hbasic hk
  · rcases h.mem_frame hp hd with ha | he
    · exact absurd (h.basic_of_mem_attributes ha) hbasic
    · exact reads_element hc h he hd hs hreader hbasic

end Built

end XmlBinding.Server
