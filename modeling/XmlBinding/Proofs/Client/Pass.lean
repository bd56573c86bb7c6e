import XmlBinding.Proofs.Client.Reads
import XmlBinding.Proofs.Client.Writes
import XmlBinding.Proofs.Pass

/-!
# The passes of a client builder

* `Client.instanceMethod`, `xmlMethod` : the methods that read and write a model, around the code
  for its properties;
* `Client.assignment?`, `attributeText`, `lineText` : the code for one property, by its category;
* `Client.HasPasses scope ps source` : between their ends, the methods of a source hold the code of
  the handled properties and nothing else; `hasPasses_of_builds`.
-/

namespace XmlBinding.Client

variable {X : Type} {scope : Scope} {p : Property}

/-! ## The methods -/

/-- The method that reads a model, around its statements. -/
def instanceMethod (scope : Scope) (statements : String) : String :=
  instanceHead scope ++ statements ++
    (scope.session.config.lineText 3 "return o;" ++ scope.session.config.lineText 2 "\x7d")

/-- The literal that writes a model, around its attributes and lines. It is closed at once when it
has no lines. -/
def literal (scope : Scope) (attributes lines : String) : String :=
  let c := scope.session.config
  let start := "var el:XML = <" ++ scope.frame.node ++ attributes
  if lines.isEmpty then c.lineText 3 (start ++ "/>;")
  else c.lineText 3 (start ++ ">") ++ lines ++ c.lineText 3 ("</" ++ scope.frame.node ++ ">;")

/-- The method that writes a model, around the attributes and the lines of its literal. -/
def xmlMethod (scope : Scope) (attributes lines : String) : String :=
  xmlHead scope ++ literal scope attributes lines ++ xmlTail scope.session.config

/-! ## Code for one property -/

/-- The assignment to a property of what its node holds: a scalar by a conversion, anything else by
a method that reads the first element of its name. None where the property is read only or no
conversion answers a value. -/
def assignment? (scope : Scope) (p : Property) : Option String :=
  let take (lead tail : String) : String := takeText scope p p.node.e4xPath lead tail
  if p.isReadOnly then none
  else
    match p.category with
    | .basic => (ScalarKind.of? p.type).map fun kind =>
      take (scalarLead scope kind) (scalarTail (if p.node.isAttribute then ")" else "[0])") kind)
    | .entity =>
      some (take (scope.builderName p.type ++ "." ++ scope.nameOf getInstance [] ++ "(") "[0])")
    | .array t | .collection _ t _ => some (take (sequenceReader scope t ++ "(") "[0])")
    | .map _ t _ => some (take (mapReader scope t ++ "(") "[0])")

/-- The line of the literal that writes a property as an element: a call of the method that answers
the element. -/
def lineText (scope : Scope) (p : Property) : String :=
  let call := match p.category with
    | .basic => scope.nameOf getBasicXml []
    | .entity => scope.builderName p.type ++ "." ++ scope.nameOf getXml []
    | .array t | .collection _ t _ => sequenceWriter scope t
    | .map _ t _ => mapWriter scope t
  literalText scope call "o" p

/-- The methods of a source that read and write a model. Between its ends, the one holds the
assignment to each property that it handles and nothing else, the other a literal with an attribute
or a line for each. -/
def HasPasses (scope : Scope) (ps : List Property) (source : String) : Prop :=
  ∃ assignments, Codes (assignment? scope) (Property.handled .clientRead ps) assignments ∧
    Occurs (instanceMethod scope (String.join assignments) ++
      xmlMethod scope
        (String.join
          ((Property.handledAt .clientWrite (·.node.isAttribute) ps).map attributeText))
        (String.join ((Property.handledAt .clientWrite (!·.node.isAttribute) ps).map
          (lineText scope)))) source

theorem isHandled_clientRead_iff (hh : p.isHidden .marshalling = p.transience.isSome) :
    p.isHandled .clientRead = true ↔
      p.takesPart .clientRead = true ∧ p.isReadOnly = false ∧ HasReader p := by
  rw [Property.takesPart_iff, hh, Property.isReadOnly]
  unfold Property.isHandled HasReader
  cases p.category <;> cases p.transience <;> cases p.setter <;> simp

/-- A property that the readers take has an assignment, which is what they add. -/
theorem assignment?_eq_readText (hs : p.isReadOnly = false) (hr : HasReader p) :
    assignment? scope p = some (readAddition scope .as3 "o" p : Addition (Job X)).text := by
  have hprimary : AccessStyle.as3.isPrimary = true := rfl
  unfold HasReader at hr
  unfold assignment? readAddition
  rw [hs, if_neg Bool.false_ne_true]
  cases hc : p.category with
  | basic =>
    obtain ⟨kind, hk⟩ := Option.isSome_iff_exists.1 (hr hc)
    dsimp only
    rw [hk, Option.map_some, Option.map_some, Option.getD_some, text_scalarAddition,
      accessText_eq hs]
    rfl
  | entity =>
    dsimp only
    rw [Addition.text_append_of_empty rfl, Addition.text_ofText, accessText_eq hs]
    rfl
  | array t =>
    dsimp only
    rw [text_sequenceAddition, accessText_eq hs]
  | collection kind t implementation =>
    dsimp only
    rw [text_sequenceAddition, accessText_eq hs]
  | map key t implementation =>
    dsimp only
    rw [if_pos hprimary, Addition.text_append_of_empty (scope.text_callAddition t _ _),
      Addition.text_ofText, accessText_eq hs]

/-- The line for an element is what its writer adds. -/
theorem text_writeAddition (scope : Scope) (p : Property) :
    (writeAddition scope "o" p : Addition (Job X)).text = lineText scope p := by
  unfold writeAddition lineText
  cases p.category with
  | basic => rfl
  | entity => exact Addition.text_append_of_empty rfl _
  | array t => exact Addition.text_append_of_empty rfl _
  | collection kind t implementation => exact Addition.text_append_of_empty rfl _
  | map key t implementation =>
    exact Addition.text_append_of_empty (scope.text_callAddition t _ _) _

/-! ## Classes -/

theorem text_instanceAddition (scope : Scope) :
    (instanceAddition scope : Addition (Job X)).text = instanceMethod scope
      ((readsAddition scope scope.frame.attributes : Addition (Job X)).text ++
        (readsAddition scope scope.frame.elements : Addition (Job X)).text) := by
  simp [instanceAddition, instanceMethod, String.append_assoc]

theorem text_xmlAddition (scope : Scope) :
    (xmlAddition scope : Addition (Job X)).text = xmlMethod scope
      (literalAttributes scope.frame.attributes)
      (writesAddition scope scope.frame.elements : Addition (Job X)).text := by
  simp [xmlAddition, xmlMethod, literalOf, literal, String.append_assoc]

section Described
variable {s : Session} {e : Entity} {ps : List Property} (hps : s.describe e = .ok ps)
include hps

/-- What reading the described properties in one place adds. -/
theorem text_readsAddition (scope : Scope) (place : Property → Bool) :
    (readsAddition scope (ps.filter fun p => !p.isHidden .marshalling && place p) :
        Addition (Job Empty)).text =
      String.join ((Property.handledAt .clientRead place ps).map (readCode scope)) := by
  have hh : ∀ p ∈ ps, p.isHidden .marshalling = p.transience.isSome :=
    fun p hp => Session.isHidden_of_mem_describe hps hp
  refine text_ofProperties_handled place hh (fun p hp _ hne => ?_) fun p hd _ => ?_
  · exact (isHandled_clientRead_iff (hh p hp)).2 (readCode_ne_empty_iff.1 hne)
  · unfold readCode
    rw [if_pos hd]

/-- What writing the described properties that are bound to elements adds. -/
theorem text_writesAddition (scope : Scope) :
    (writesAddition scope (ps.filter Builder.isFrameElement) : Addition (Job Empty)).text =
      String.join ((Property.handledAt .clientWrite (!·.node.isAttribute) ps).map
        (lineText scope)) := by
  have hh : ∀ p ∈ ps, p.isHidden .marshalling = p.transience.isSome :=
    fun p hp => Session.isHidden_of_mem_describe hps hp
  refine text_ofProperties_handled (fun p => !p.node.isAttribute) hh (fun p hp hd _ => ?_)
    fun p _ _ => text_writeAddition scope p
  exact (Property.isHandled_iff_takesPart (.inr rfl) (hh p hp)).2 hd

/-- The attributes of the literal for the described properties. -/
theorem literalAttributes_eq :
    literalAttributes (ps.filter Builder.isFrameAttribute) =
      String.join
        ((Property.handledAt .clientWrite (·.node.isAttribute) ps).map attributeText) := by
  have hh : ∀ p ∈ ps, p.isHidden .marshalling = p.transience.isSome :=
    fun p hp => Session.isHidden_of_mem_describe hps hp
  refine join_handled (fun p => p.node.isAttribute) hh (fun p hp hd _ => ?_)
    (fun p _ => rfl) fun p _ _ => rfl
  exact (Property.isHandled_iff_takesPart (.inr rfl) (hh p hp)).2 hd

end Described

section Built
variable {s : Session} {e : Entity} {ps : List Property} {f : ClassFrame} {c : GeneratedClass}
  (h : Builder.Builds Handler.clientDialect s e ps f c)
include h

theorem codes_assignment? : Codes (assignment? (scopeOf s f)) (Property.handled .clientRead ps)
    ((Property.handled .clientRead ps).map (readCode (scopeOf s f))) := by
  refine codes_map fun p hp => ?_
  obtain ⟨hp, hd⟩ := Property.mem_handled_iff.1 hp
  obtain ⟨hpart, hs, hr⟩ :=
    (isHandled_clientRead_iff (Session.isHidden_of_mem_describe h.described hp)).1 hd
  unfold readCode
  rw [if_pos hpart]
  exact assignment?_eq_readText hs hr

/-- The passes of a class handle the described properties. -/
theorem hasPasses_of_builds (hc : s.catalog.NamesMethods) :
    HasPasses (scopeOf s f) ps c.source := by
  have hps := h.described
  have hattributes : (scopeOf s f).frame.attributes = ps.filter Builder.isFrameAttribute :=
    h.attributes_eq
  have helements : (scopeOf s f).frame.elements = ps.filter Builder.isFrameElement :=
    h.elements_eq
  have hmethods : Occurs ((instanceAddition (scopeOf s f) : Addition (Job Empty)).text ++
      (xmlAddition (scopeOf s f) : Addition (Job Empty)).text) c.source := by
    refine Occurs.trans ?_ (assembles_of_builds hc h).occurs_methods
    unfold standingAddition
    rw [Addition.text_append, Addition.text_append, ← String.append_assoc]
    exact (Occurs.refl _).append_right _
  have hreads (place : Property → Bool) := text_readsAddition hps (scopeOf s f) place
  refine ⟨_, codes_assignment? h, ?_⟩
  rw [Property.handled, List.map_append, String.join_append, ← hreads, ← hreads,
    ← text_writesAddition hps, ← literalAttributes_eq hps]
  rw [text_instanceAddition, text_xmlAddition, hattributes, helements] at hmethods
  exact hmethods

end Built

end XmlBinding.Client
