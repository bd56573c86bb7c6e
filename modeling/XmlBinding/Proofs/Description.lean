import XmlBinding.Proofs.Generator.Registered
import XmlBinding.Proofs.Plain
import XmlBinding.Proofs.Session

/-!
# Entities without brackets

* `EntityDescriptor.IsPlain`, `Entity.IsPlain` : descriptors and entities whose texts have no
  brackets; `Entity.isPlain_ofDescriptor` : an entity has none where its descriptor has none;
* `Property.IsPlain`, `Session.isPlain_of_describe` : nor have its resolved properties;
* `Session.HasPlainNames`, `isPlain_className`, `isPlain_home`, `isPlain_refName` : nor have the
  names of its classes.
-/

namespace XmlBinding

/-! ## Descriptors -/

/-- A property whose texts, its types apart, have no brackets. -/
structure PropertyDescriptor.IsPlain (d : PropertyDescriptor) : Prop where
  name : XmlBinding.IsPlain d.name
  node : XmlBinding.IsPlain (d.node.getD "")
  bindable : XmlBinding.IsPlain (d.bindable.getD "")
  default : XmlBinding.IsPlain (d.default.getD "")

/-- An entity whose texts, types of properties apart, have no brackets. -/
structure EntityDescriptor.IsPlain (d : EntityDescriptor) : Prop where
  name : XmlBinding.IsPlain d.name
  node : XmlBinding.IsPlain (d.node.getD "")
  bindable : XmlBinding.IsPlain (d.bindable.getD "")
  packages : ∀ slots, d.packages = some slots → ∀ t, XmlBinding.IsPlain (slots.get t)
  properties : ∀ p ∈ d.properties, p.IsPlain

/-! ## Entities -/

/-- A bean property without brackets. -/
structure BeanProperty.IsPlain (p : BeanProperty) : Prop where
  name : XmlBinding.IsPlain p.name
  type : p.type.IsPlain
  getter : XmlBinding.IsPlain p.getter
  setter : XmlBinding.IsPlain (p.setter.getD "")
  descriptor : p.descriptor.IsPlain

/-- An entity without brackets. -/
structure Entity.IsPlain (e : Entity) : Prop where
  descriptor : e.descriptor.IsPlain
  properties : ∀ p ∈ e.properties, p.IsPlain

theorem BeanProperty.isPlain_ofDescriptor {package : String} {d : PropertyDescriptor}
    {p : BeanProperty} (hp : XmlBinding.IsPlain package) (hd : d.IsPlain)
    (h : ofDescriptor package d = .ok p) : p.IsPlain := by
  unfold ofDescriptor at h
  cases htype : JavaType.parse package d.type with
  | error fault =>
    rw [htype] at h
    cases h
  | ok type =>
    rw [htype] at h
    cases h
    have haccessor {lead : String} (hlead : XmlBinding.IsPlain lead) :
        XmlBinding.IsPlain (accessorName lead d.name) := hlead.append hd.name.capitalize
    refine ⟨hd.name, JavaType.isPlain_parse hp htype, haccessor ?_, ?_, hd⟩
    · split
      · decide
      · decide
    · show XmlBinding.IsPlain (Option.getD (if d.setter then _ else _) "")
      cases d.setter with
      | true => exact haccessor (by decide)
      | false => exact isPlain_empty

namespace Entity

variable {d : EntityDescriptor} {e : Entity}

theorem counted_subset (seen : List String) (ds : List PropertyDescriptor) :
    counted seen ds ⊆ ds := by
  fun_induction counted seen ds with
  | case1 => exact fun _ => id
  | case2 seen d ds _ ih => exact List.Subset.trans ih (List.subset_cons_self d ds)
  | case3 seen d ds _ ih => exact List.cons_subset_cons d ih

/-- An entity that is read has brackets only where its descriptor has some. -/
theorem isPlain_ofDescriptor (hd : d.IsPlain) (h : ofDescriptor d = .ok e) : e.IsPlain := by
  have hdescriptor := descriptor_of_ofDescriptor h
  refine ⟨hdescriptor ▸ hd, fun p hp => ?_⟩
  unfold ofDescriptor at h
  split at h
  · obtain ⟨ps, hps, rfl⟩ := map_eq_ok.1 h
    obtain ⟨dp, hdp, hproperty⟩ := mem_of_mapM_eq_ok hps hp
    unfold property at hproperty
    split at hproperty
    · cases hproperty
    · cases hbean : BeanProperty.ofDescriptor (packageOf d.name) dp with
      | error fault =>
        rw [hbean] at hproperty
        cases hproperty
      | ok bean =>
        rw [hbean] at hproperty
        cases hproperty
        exact BeanProperty.isPlain_ofDescriptor hd.name.packageOf
          (hd.properties dp (counted_subset _ _ hdp)) hbean
  · cases h

theorem IsPlain.simpleName (he : e.IsPlain) : XmlBinding.IsPlain e.simpleName :=
  he.descriptor.name.simpleName

theorem IsPlain.package (he : e.IsPlain) : XmlBinding.IsPlain e.package :=
  he.descriptor.name.packageOf

theorem IsPlain.rootNode (he : e.IsPlain) {node : String} (h : e.rootNode = .ok node) :
    XmlBinding.IsPlain node := by
  have hnode := he.descriptor.node
  unfold Entity.rootNode at h
  split at h
  · cases h
    exact he.simpleName
  · next marker hmarker =>
    split at h
    · cases h
    · cases h
      rwa [hmarker] at hnode

end Entity

/-! ## Resolved properties -/

/-- A value whose types have no brackets. -/
def Category.IsPlain : Category → Prop
  | basic => True
  | entity => True
  | array element => element.IsPlain
  | collection _ element implementation => element.IsPlain ∧ implementation.IsPlain
  | map key entry implementation => key.IsPlain ∧ entry.IsPlain ∧ implementation.IsPlain

/-- A resolved property without brackets. -/
structure Property.IsPlain (p : Property) : Prop where
  name : XmlBinding.IsPlain p.name
  type : p.type.IsPlain
  getter : XmlBinding.IsPlain p.getter
  setter : XmlBinding.IsPlain (p.setter.getD "")
  category : p.category.IsPlain
  node : p.node.IsPlain
  bindable : XmlBinding.IsPlain (p.bindable.getD "")
  default : XmlBinding.IsPlain (p.default.getD "")

namespace Session

variable {s : Session} {e : Entity} {p : BeanProperty}

theorem isPlain_markerType (he : e.IsPlain) {text : String} {t : JavaType}
    (h : markerType e text = .ok t) : t.IsPlain := by
  unfold markerType at h
  cases hparse : JavaType.parse e.package text with
  | error fault =>
    rw [hparse] at h
    cases h
  | ok type =>
    rw [hparse] at h
    cases h
    exact JavaType.isPlain_parse he.package hparse

theorem isPlain_collectionCategory (he : e.IsPlain) {kind : CollectionKind}
    {marker : CollectionMarker} {category : Category}
    (h : collectionCategory e p kind marker = .ok category) : category.IsPlain := by
  unfold collectionCategory at h
  split at h
  · cases h
  · obtain ⟨element, helement, h⟩ := bind_eq_ok.1 h
    obtain ⟨implementation, himplementation, h⟩ := bind_eq_ok.1 h
    cases h
    exact ⟨isPlain_markerType he helement, isPlain_markerType he himplementation⟩

theorem isPlain_mapCategory (he : e.IsPlain) {marker : MapMarker} {category : Category}
    (h : mapCategory e p marker = .ok category) : category.IsPlain := by
  unfold mapCategory at h
  split at h
  · obtain ⟨key, hkey, h⟩ := bind_eq_ok.1 h
    obtain ⟨entry, hentry, h⟩ := bind_eq_ok.1 h
    obtain ⟨implementation, himplementation, h⟩ := bind_eq_ok.1 h
    cases h
    exact ⟨isPlain_markerType he hkey, isPlain_markerType he hentry,
      isPlain_markerType he himplementation⟩
  · cases h

theorem isPlain_classify (he : e.IsPlain) (hp : p.type.IsPlain) {category : Category}
    (h : s.classify e p = .ok category) : category.IsPlain := by
  unfold classify at h
  split at h
  · next component hcomponent =>
    cases h
    exact hp.component? hcomponent
  · split at h
    · split at h
      · exact isPlain_mapCategory he h
      · cases h
        exact trivial
    · split at h
      · split at h
        · exact isPlain_collectionCategory he h
        · exact isPlain_collectionCategory he h
        · cases h
          exact trivial
      · split at h
        · cases h
          exact trivial
        · cases h
          exact trivial

theorem isPlain_describeProperty (he : e.IsPlain) (hp : p.IsPlain) {q : Property}
    (h : s.describeProperty e p = .ok q) : q.IsPlain := by
  have hcategory := isPlain_classify he hp.type (of_describeProperty h).1
  have hbindable : XmlBinding.IsPlain
      ((p.descriptor.bindable <|> e.descriptor.bindable).getD "") := by
    have hown := hp.descriptor.bindable
    cases hb : p.descriptor.bindable with
    | none => exact he.descriptor.bindable
    | some event => rwa [hb] at hown
  rw [eq_of_describeProperty h]
  exact ⟨hp.name, hp.type, hp.getter, hp.setter, hcategory,
    NodeBinding.isPlain_resolve hp.name hp.descriptor.node, hbindable, hp.descriptor.default⟩

/-- The properties of an entity without brackets have none. -/
theorem isPlain_of_describe (he : e.IsPlain) {ps : List Property} (h : s.describe e = .ok ps) :
    ∀ p ∈ ps, p.IsPlain := by
  intro q hq
  obtain ⟨p, hp, hdescribe⟩ := mem_describe h hq
  exact isPlain_describeProperty he (he.properties p hp) hdescribe

theorem isPlain_synthetic (s : Session) {t : JavaType} (ht : t.IsPlain) :
    (s.synthetic t).IsPlain := by
  have hname : XmlBinding.IsPlain "type" := by decide
  refine ⟨hname, ht, (by decide : XmlBinding.IsPlain "getType"),
    (by decide : XmlBinding.IsPlain "setType"), ?_, hname, isPlain_empty, isPlain_empty⟩
  unfold synthetic
  dsimp only
  split
  · next component hcomponent => exact ht.component? hcomponent
  · split
    · exact trivial
    · exact trivial

/-! ## Names of classes -/

/-- A session whose configuration and entities have no brackets. -/
structure HasPlainNames (s : Session) : Prop where
  config : s.config.IsPlain
  entities : ∀ e ∈ s.entities.values, e.IsPlain

theorem HasPlainNames.entity? (hs : s.HasPlainNames) {t : JavaType} (h : s.entity? t = some e) :
    e.IsPlain :=
  hs.entities e (mem_values_of_entity? h)

theorem isPlain_modelName (hc : s.config.IsPlain) (he : e.IsPlain) :
    XmlBinding.IsPlain (s.modelName e) :=
  (hc.classLead.append he.simpleName).append hc.classSuffix

theorem isPlain_className (hc : s.config.IsPlain) (he : e.IsPlain) (t : Target) :
    XmlBinding.IsPlain (s.className e t) := by
  cases t with
  | clientModel => exact isPlain_modelName hc he
  | clientBuilder => exact (isPlain_modelName hc he).append hc.builderSuffix
  | serverBuilder => exact he.simpleName.append hc.builderSuffix

theorem isPlain_declarationFor (hc : s.config.IsPlain) (he : e.IsPlain) (t : Target) :
    XmlBinding.IsPlain (s.declarationFor e t) := by
  unfold declarationFor
  split
  · exact hc.packages t
  · next slots hslots =>
    split
    · exact hc.packages t
    · exact he.descriptor.packages slots hslots t

theorem isPlain_packageFor (hc : s.config.IsPlain) (he : e.IsPlain) {t : Target} {package : String}
    (h : s.packageFor e t = .ok package) : XmlBinding.IsPlain package := by
  unfold packageFor at h
  dsimp only at h
  cases hresolve : Package.resolve e.package (s.declarationFor e t) with
  | error fault =>
    rw [hresolve] at h
    cases h
  | ok home =>
    rw [hresolve] at h
    cases h
    exact he.package.package (isPlain_declarationFor hc he t) hresolve

theorem isPlain_home (hc : s.config.IsPlain) (he : e.IsPlain) (t : Target) :
    XmlBinding.IsPlain (s.home e t) := by
  unfold home
  cases h : s.packageFor e t with
  | error failure => exact isPlain_empty
  | ok package => exact isPlain_packageFor hc he h

theorem isPlain_refName (hs : s.HasPlainNames) (target : Target) {t : JavaType} (ht : t.IsPlain) :
    XmlBinding.IsPlain (s.refName target t) := by
  unfold refName
  cases h : s.entity? t with
  | none => exact ht.simpleName
  | some e => exact isPlain_className hs.config (hs.entity? h) target

end Session

end XmlBinding
