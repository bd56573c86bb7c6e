import XmlBinding.Handler
import XmlBinding.Proofs.Emission.Makes
import XmlBinding.Proofs.Failure
import XmlBinding.Proofs.SortedMap

/-!
# Entities and the frames of their classes

* `Session.Generable s e` : the conditions under which an entity has its three classes;
* `failsByEntity_describe`, `failsByEntity_packageFor`, … : the steps before any code is written
  fail only by entities;
* `mem_describe` : where described properties come from;
* `Builder.framed ps f`, `addProperties_eq_ok_iff` : the frame with all properties of a list.
-/

namespace XmlBinding

/-- An entity has its three classes. -/
structure Session.Generable (s : Session) (e : Entity) : Prop where
  described : ∃ ps, s.describe e = .ok ps
  placed : ∀ t, ∃ package, s.packageFor e t = .ok package
  /-- The root element is no attribute. -/
  rooted : ∀ marker, e.descriptor.node = some marker →
    marker.toList.head? ≠ some NodeBinding.attributeSigil
  /-- Attributes are basic. -/
  attributes : ∀ ps, s.describe e = .ok ps → ∀ p ∈ ps, p.transience = none →
    p.node.isAttribute = true → p.category = .basic
  /-- Maps that the server reads have no entities as keys. -/
  keys : ∀ ps, s.describe e = .ok ps → ∀ p ∈ ps, p.transience = none →
    ∀ key entry implementation, p.category = .map key entry implementation →
      s.isEntity key = true → p.isLazy .serverRead = true

namespace Session

variable {s : Session} {e : Entity}

/-! ## Properties -/

theorem failsByEntity_markerType (text : String) : FailsByEntity (markerType e text) :=
  failsByEntity_mapError fun _ => trivial

theorem failsByEntity_collectionCategory (p : BeanProperty) (kind : CollectionKind)
    (marker : CollectionMarker) : FailsByEntity (collectionCategory e p kind marker) := by
  unfold collectionCategory
  cases marker.element with
  | none => exact failsByEntity_error trivial
  | some element =>
    refine (failsByEntity_markerType element).bind fun t => ?_
    exact (failsByEntity_markerType _).bind fun u => failsByEntity_ok _

theorem failsByEntity_mapCategory (p : BeanProperty) (marker : MapMarker) :
    FailsByEntity (mapCategory e p marker) := by
  unfold mapCategory
  split
  · refine (failsByEntity_markerType _).bind fun key => ?_
    refine (failsByEntity_markerType _).bind fun entry => ?_
    exact (failsByEntity_markerType _).bind fun u => failsByEntity_ok _
  · exact failsByEntity_error trivial

theorem failsByEntity_classify (s : Session) (e : Entity) (p : BeanProperty) :
    FailsByEntity (s.classify e p) := by
  unfold classify
  split
  · exact failsByEntity_ok _
  · split
    · split
      · exact failsByEntity_mapCategory p _
      · exact failsByEntity_ok _
    · split
      · split
        · exact failsByEntity_collectionCategory p .list _
        · exact failsByEntity_collectionCategory p .set _
        · exact failsByEntity_ok _
      · split
        · exact failsByEntity_ok _
        · exact failsByEntity_ok _

theorem failsByEntity_checkDefault (p : BeanProperty) (value : String) :
    FailsByEntity (checkDefault e p value) := by
  unfold checkDefault
  split
  · exact failsByEntity_ok ()
  · split
    · exact failsByEntity_ok ()
    · exact failsByEntity_ok ()
    · split
      · exact failsByEntity_ok ()
      · exact failsByEntity_error trivial

theorem failsByEntity_describeProperty (s : Session) (e : Entity) (p : BeanProperty) :
    FailsByEntity (s.describeProperty e p) := by
  unfold describeProperty
  refine (failsByEntity_classify s e p).bind fun category => ?_
  dsimp only
  cases p.descriptor.default with
  | none => exact failsByEntity_ok _
  | some value => exact (failsByEntity_checkDefault p value).bind fun _ => failsByEntity_ok _

theorem failsByEntity_describe (s : Session) (e : Entity) : FailsByEntity (s.describe e) :=
  failsByEntity_mapM fun p _ => failsByEntity_describeProperty s e p

/-- What a described property has of the bean property it comes from. -/
theorem of_describeProperty {p : BeanProperty} {q : Property} (h : s.describeProperty e p = .ok q) :
    s.classify e p = .ok q.category ∧ q.synthetic = false ∧ q.type = p.type ∧
      q.transience = p.descriptor.transience := by
  unfold describeProperty at h
  obtain ⟨category, hcategory, h⟩ := bind_eq_ok.1 h
  dsimp only at h
  split at h
  · obtain ⟨_, -, h⟩ := bind_eq_ok.1 h
    cases h
    exact ⟨hcategory, rfl, rfl, rfl⟩
  · cases h
    exact ⟨hcategory, rfl, rfl, rfl⟩

/-- What a property is resolved to, but for its category. -/
theorem eq_of_describeProperty {p : BeanProperty} {q : Property}
    (h : s.describeProperty e p = .ok q) :
    q = ⟨p.name, p.type, p.getter, p.setter, q.category, .resolve p.name p.descriptor.node,
      p.descriptor.transience, p.descriptor.lazy, p.descriptor.bindable <|> e.descriptor.bindable,
      p.descriptor.default, false⟩ := by
  unfold describeProperty at h
  obtain ⟨category, -, h⟩ := bind_eq_ok.1 h
  dsimp only at h
  split at h
  · obtain ⟨_, -, h⟩ := bind_eq_ok.1 h
    cases h
    rfl
  · cases h
    rfl

/-- Every described property comes from a bean property of the entity. -/
theorem mem_describe {ps : List Property} (h : s.describe e = .ok ps) {q : Property} (hq : q ∈ ps) :
    ∃ p ∈ e.properties, s.describeProperty e p = .ok q := by
  obtain ⟨p, hp, hpq⟩ := mem_of_mapM_eq_ok h hq
  exact ⟨p, (List.mem_filter.1 hp).1, hpq⟩

theorem mapCategory_ne_entity (p : BeanProperty) (marker : MapMarker) :
    mapCategory e p marker ≠ .ok .entity := by
  intro h
  unfold mapCategory at h
  split at h
  · obtain ⟨_, -, h⟩ := bind_eq_ok.1 h
    obtain ⟨_, -, h⟩ := bind_eq_ok.1 h
    obtain ⟨_, -, h⟩ := bind_eq_ok.1 h
    cases h
  · cases h

theorem collectionCategory_ne_entity (p : BeanProperty) (kind : CollectionKind)
    (marker : CollectionMarker) : collectionCategory e p kind marker ≠ .ok .entity := by
  intro h
  unfold collectionCategory at h
  split at h
  · cases h
  · obtain ⟨_, -, h⟩ := bind_eq_ok.1 h
    obtain ⟨_, -, h⟩ := bind_eq_ok.1 h
    cases h

/-- Only a property whose type is an entity has that category. -/
theorem isEntity_of_mem_describe {ps : List Property} (h : s.describe e = .ok ps) {q : Property}
    (hq : q ∈ ps) (hcategory : q.category = .entity) : s.isEntity q.type = true := by
  obtain ⟨p, -, hpq⟩ := mem_describe h hq
  obtain ⟨hclassify, -, htype, -⟩ := of_describeProperty hpq
  rw [hcategory] at hclassify
  rw [htype]
  unfold classify at hclassify
  split at hclassify
  · cases hclassify
  · split at hclassify
    · split at hclassify
      · exact absurd hclassify (mapCategory_ne_entity p _)
      · cases hclassify
    · split at hclassify
      · split at hclassify
        · exact absurd hclassify (collectionCategory_ne_entity p _ _)
        · exact absurd hclassify (collectionCategory_ne_entity p _ _)
        · cases hclassify
      · split at hclassify
        · assumption
        · cases hclassify

/-- A described property is hidden from marshalling where it has a mark of transience. -/
theorem isHidden_of_mem_describe {ps : List Property} (h : s.describe e = .ok ps) {q : Property}
    (hq : q ∈ ps) : q.isHidden .marshalling = q.transience.isSome := by
  obtain ⟨p, -, hpq⟩ := mem_describe h hq
  unfold Property.isHidden
  rw [(of_describeProperty hpq).2.1]
  cases q.transience with
  | none => rfl
  | some extent => cases extent <;> rfl

/-! ## Registered entities -/

theorem mem_values_register {e e' : Entity} (h : e' ∈ (s.register e).entities.values) :
    e' = e ∨ e' ∈ s.entities.values := by
  unfold register at h
  split at h
  · exact .inr h
  · obtain ⟨⟨key, a⟩, hm, rfl⟩ := List.mem_map.1 h
    rcases SortedMap.mem_insert hm with heq | hm
    · cases heq
      exact .inl rfl
    · exact .inr (List.mem_map.2 ⟨_, hm, rfl⟩)

/-! ## Packages and root elements -/

theorem packageFor_standard (hs : s.config = .standard) (he : e.descriptor.packages = none)
    (t : Target) : s.packageFor e t = .ok e.package := by
  unfold packageFor declarationFor
  rw [hs, he]
  cases t <;> rfl

theorem failsByEntity_packageFor (s : Session) (e : Entity) (t : Target) :
    FailsByEntity (s.packageFor e t) :=
  failsByEntity_mapError fun _ => trivial

theorem Blames.isEntityFault {failure : Failure} (h : s.Blames failure) :
    failure.IsEntityFault := by
  obtain ⟨e, -, t, he⟩ := h
  exact failsByEntity_packageFor s e t failure he

theorem failsByEntity_rootNode (e : Entity) : FailsByEntity e.rootNode := by
  unfold Entity.rootNode
  split
  · exact failsByEntity_ok _
  · split
    · exact failsByEntity_error trivial
    · exact failsByEntity_ok _

theorem rootNode_eq_ok_iff :
    (∃ node, e.rootNode = .ok node) ↔ ∀ marker, e.descriptor.node = some marker →
      marker.toList.head? ≠ some NodeBinding.attributeSigil := by
  unfold Entity.rootNode
  cases e.descriptor.node with
  | none => exact ⟨fun _ _ h => (nomatch h), fun _ => ⟨_, rfl⟩⟩
  | some marker =>
    dsimp only
    split
    · next h => exact ⟨fun ⟨_, hn⟩ => (nomatch hn), fun hm => absurd h (hm marker rfl)⟩
    · next h => exact ⟨fun _ m hm => Option.some.inj hm ▸ h, fun _ => ⟨marker, rfl⟩⟩

/-- An entity that has its packages, no root element of its own, no attributes and no maps meets the
conditions. -/
theorem generable_of_placed {ps : List Property}
    (hplaced : ∀ t, ∃ package, s.packageFor e t = .ok package) (hnode : e.descriptor.node = none)
    (hps : s.describe e = .ok ps)
    (hp : ∀ p ∈ ps, p.node.isAttribute = false ∧
      ∀ key entry implementation, p.category ≠ .map key entry implementation) :
    s.Generable e := by
  refine ⟨⟨ps, hps⟩, hplaced, ?_, ?_, ?_⟩
  · intro marker hmarker
    rw [hnode] at hmarker
    cases hmarker
  · intro ps' hps' p hmem _ ha
    cases hps.symm.trans hps'
    rw [(hp p hmem).1] at ha
    cases ha
  · intro ps' hps' p hmem _ key entry implementation hcategory
    cases hps.symm.trans hps'
    exact absurd hcategory ((hp p hmem).2 key entry implementation)

/-- An entity without markers of its own, attributes and maps meets the conditions. -/
theorem generable_of_standard {ps : List Property} (hs : s.config = .standard)
    (he : e.descriptor.packages = none) (hnode : e.descriptor.node = none)
    (hps : s.describe e = .ok ps)
    (hp : ∀ p ∈ ps, p.node.isAttribute = false ∧
      ∀ key entry implementation, p.category ≠ .map key entry implementation) :
    s.Generable e :=
  generable_of_placed (fun t => ⟨_, packageFor_standard hs he t⟩) hnode hps hp

/-- An entity that is alone in its session. -/
theorem generable_of_mem_values (hvalues : s.entities.values = [e]) (h : s.Generable e) :
    ∀ e' ∈ s.entities.values, s.Generable e' := by
  intro e' he'
  rw [hvalues, List.mem_singleton] at he'
  rwa [he']

end Session

/-! ## Frames -/

namespace Builder

variable {s : Session} {e : Entity} {t : Target} {f f' : ClassFrame} {p : Property}

theorem failsByEntity_openFrame (s : Session) (e : Entity) (t : Target) :
    FailsByEntity (openFrame s e t) := by
  refine (Session.failsByEntity_packageFor s e t).bind fun package => ?_
  exact (Session.failsByEntity_rootNode e).bind fun node => failsByEntity_ok _

theorem openFrame_eq_ok_iff :
    openFrame s e t = .ok f ↔ ∃ package node, s.packageFor e t = .ok package ∧
      e.rootNode = .ok node ∧ ClassFrame.opening e package (s.className e t) node = f := by
  unfold openFrame
  rw [bind_eq_ok]
  constructor
  · rintro ⟨package, hp, h⟩
    obtain ⟨node, hn, h⟩ := bind_eq_ok.1 h
    exact ⟨package, node, hp, hn, Except.ok.inj h⟩
  · rintro ⟨package, node, hp, hn, rfl⟩
    exact ⟨package, hp, bind_eq_ok.2 ⟨node, hn, rfl⟩⟩

theorem failsByEntity_addProperty (p : Property) (f : ClassFrame) :
    FailsByEntity (addProperty p f) := by
  unfold addProperty
  split
  · exact failsByEntity_ok _
  · split
    · split
      · exact failsByEntity_error trivial
      · exact failsByEntity_ok _
    · exact failsByEntity_ok _

/-- Whether a property can stand in a frame. -/
def Fits (p : Property) : Prop :=
  p.isHidden .marshalling = false → p.node.isAttribute = true → p.category = .basic

/-- Whether a property stands among the attributes of its frame. -/
def isFrameAttribute (p : Property) : Bool := !p.isHidden .marshalling && p.node.isAttribute

/-- Whether a property stands among the elements of its frame. -/
def isFrameElement (p : Property) : Bool := !p.isHidden .marshalling && !p.node.isAttribute

/-- The frame with those of some properties that are not hidden. -/
def framed (ps : List Property) (f : ClassFrame) : ClassFrame :=
  { f with
    attributes := f.attributes ++ ps.filter isFrameAttribute
    elements := f.elements ++ ps.filter isFrameElement }

theorem addProperty_eq_ok_iff : addProperty p f = .ok f' ↔ Fits p ∧ framed [p] f = f' := by
  unfold addProperty Fits framed isFrameAttribute isFrameElement
  cases hh : p.isHidden .marshalling with
  | true => simp [hh]
  | false =>
    cases ha : p.node.isAttribute with
    | false => simp [hh, ha]
    | true => by_cases hb : p.category = .basic <;> simp [hh, ha, hb]

theorem framed_cons (p : Property) (ps : List Property) (f : ClassFrame) :
    framed (p :: ps) f = framed ps (framed [p] f) := by
  simp [framed, List.filter_cons]
  cases isFrameAttribute p <;> cases isFrameElement p <;> simp

/-- The frame with all properties of a list. -/
theorem addProperties_eq_ok_iff {ps : List Property} :
    ps.foldlM (fun f p => addProperty p f) f = .ok f' ↔ (∀ p ∈ ps, Fits p) ∧ framed ps f = f' := by
  induction ps generalizing f with
  | nil =>
    have hnil : framed [] f = f := by simp [framed]
    rw [hnil]
    exact ⟨fun h => ⟨fun p hp => (nomatch hp), Except.ok.inj h⟩, fun h => congrArg _ h.2⟩
  | cons p ps ih =>
    rw [List.foldlM_cons, bind_eq_ok, List.forall_mem_cons, framed_cons, and_assoc]
    constructor
    · rintro ⟨g, hg, h⟩
      obtain ⟨hp, rfl⟩ := addProperty_eq_ok_iff.1 hg
      exact ⟨hp, ih.1 h⟩
    · rintro ⟨hp, h⟩
      exact ⟨framed [p] f, addProperty_eq_ok_iff.2 ⟨hp, rfl⟩, ih.2 h⟩

theorem mem_framed {ps : List Property} (hp : p ∈ ps) (hh : p.isHidden .marshalling = false) :
    p ∈ (framed ps f).attributes ++ (framed ps f).elements := by
  unfold framed
  simp only [List.mem_append, List.mem_filter, isFrameAttribute, isFrameElement, hh]
  cases ha : p.node.isAttribute with
  | true => exact .inl (.inr ⟨hp, rfl⟩)
  | false => exact .inr (.inr ⟨hp, rfl⟩)

/-- The properties of a frame that had none. -/
theorem of_mem_framed_opening {package className node : String} {ps : List Property}
    (hp : p ∈ (framed ps (.opening e package className node)).attributes ++
      (framed ps (.opening e package className node)).elements) :
    p ∈ ps ∧ p.isHidden .marshalling = false := by
  simp only [framed, ClassFrame.opening, List.nil_append, List.mem_append, List.mem_filter,
    isFrameAttribute, isFrameElement, Bool.and_eq_true, Bool.not_eq_true'] at hp
  rcases hp with ⟨hp, hh, -⟩ | ⟨hp, hh, -⟩
  · exact ⟨hp, hh⟩
  · exact ⟨hp, hh⟩

end Builder

end XmlBinding
