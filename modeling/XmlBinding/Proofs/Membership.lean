import XmlBinding.Proofs.Client.Members
import XmlBinding.Proofs.Linking

/-!
# Models that client builders use

* `Generator.Reachable.uses_models` : in a run that succeeds, the builder of an entity uses the
  model that the run makes of the entity.
-/

namespace XmlBinding.Generator

variable {config : Config} {user : Option Catalog.Bundle} {g : Generator}

/-- An entity of a generator is found under its own type. -/
theorem WellKept.entity?_type (h : WellKept config user g) {e : Entity}
    (he : e ∈ g.session.entities.values) : g.session.entity? e.type = some e := by
  obtain ⟨⟨key, e'⟩, hentry, heq⟩ := List.mem_map.1 he
  obtain rfl : e' = e := heq
  obtain rfl : key = e'.name := (h.named _ hentry).1
  exact SortedMap.find?_of_mem _ hentry

/-- Where what goes around the names of models has no dots, a run that succeeds makes a model and a
builder of each entity, and the builder uses that model: by its name, from its package, and with no
other properties than it can read and set. -/
theorem Reachable.uses_models (h : Reachable config user g) (ht : g.targets = Target.all)
    (hlead : '.' ∉ (config.classLead.getD "").toList)
    (hsuffix : '.' ∉ (config.classSuffix.getD "").toList) {count : Nat}
    (hok : g.produce.outcome = .ok count) {e : Entity} (he : e ∈ g.session.entities.values) :
    (∃ b, ((e, .clientBuilder), b) ∈ g.outputs.zip g.produce.classes) ∧
    (∃ m, ((e, .clientModel), m) ∈ g.outputs.zip g.produce.classes) ∧
    ∀ b m, ((e, .clientBuilder), b) ∈ g.outputs.zip g.produce.classes →
      ((e, .clientModel), m) ∈ g.outputs.zip g.produce.classes →
        ∃ ps f, Builder.Builds Handler.clientDialect g.session e ps f b ∧
          Client.UsesModel g.session f ps b m := by
  have hclean := h.wellKept.clean
  refine ⟨exists_mem_zip_of_mem_outputs hclean hok (mem_outputs ht he _),
    exists_mem_zip_of_mem_outputs hclean hok (mem_outputs ht he _), fun b m hb hm => ?_⟩
  obtain ⟨ps, hps, hbuilder⟩ := isClassOf_of_mem_zip hclean hb
  obtain ⟨ps', hps', hmodel⟩ := isClassOf_of_mem_zip hclean hm
  cases hps.symm.trans hps'
  obtain ⟨f, hbuilds⟩ := (Draft.ofTarget_clientBuilder_iff hps).1 hbuilder
  have hdot : '.' ∉ (g.session.className e .clientModel).toList := by
    rw [← h.wellKept.configured] at hlead hsuffix
    exact Config.not_mem_modelName hlead hsuffix (not_mem_simpleName e.name)
  exact ⟨ps, f, hbuilds,
    Client.usesModel_of_builds h.namesMethods (h.wellKept.entity?_type he) hdot hbuilds hmodel⟩

/-! ## A parcel -/

/-- A configuration in which the names of models have something before them. -/
def prefixed : Config := { Config.standard with classLead := some "Ui" }

def parcelProperty (name : String) (setter : Option String) (place : Placement) : Property :=
  ⟨name, .primitive .int, accessorName "get" name, setter, .basic, ⟨place, name⟩, none, none, none,
    none, false⟩

/-- A parcel has a weight in an element, a code in an attribute, and a total without a setter. Its
model stands in a package of its own. -/
def parcelProperties : List Property :=
  [parcelProperty "weight" (some "setWeight") .element, parcelProperty "total" none .element,
    parcelProperty "code" (some "setCode") .attribute]

def parcel : Entity :=
  ⟨⟨"shop.Parcel", none, false, none, some ((PackageSlots.uniform ".").set "./model" .clientModel),
    []⟩, parcelProperties.map fun p => ⟨p.name, p.type, p.getter, p.setter,
      ⟨p.name, "int", p.setter.isSome, if p.node.isAttribute then some ("@" ++ p.name) else none,
        none, none, none, none, none, none, none⟩⟩⟩

def ofParcels : Generator := (new prefixed none).withAllHandlers.add parcel

theorem reachable_ofParcels : Reachable prefixed none ofParcels :=
  (reachable_withAllHandlers _ _).register (.entity parcel)

theorem describe_parcel : ofParcels.session.describe parcel = .ok parcelProperties := rfl

theorem packageFor_parcel (t : Target) : ofParcels.session.packageFor parcel t =
    .ok (if t = .clientModel then "shop.model" else "shop") := by
  cases t <;> decide

theorem generable_of_mem_ofParcels :
    ∀ e ∈ ofParcels.session.entities.values, ofParcels.session.Generable e := by
  have hbasic : ∀ p ∈ parcelProperties, p.category = .basic := by decide
  refine Session.generable_of_mem_values (e := parcel) rfl ?_
  refine ⟨⟨_, describe_parcel⟩, fun t => ⟨_, packageFor_parcel t⟩, fun _ h => (nomatch h),
    fun ps hps p hp _ _ => ?_, fun ps hps p hp _ _ _ _ hm => ?_⟩
  · cases describe_parcel.symm.trans hps
    exact hbasic p hp
  · cases describe_parcel.symm.trans hps
    cases (hbasic p hp).symm.trans hm

/-- The builder of parcels imports their model from the other package. It sets weight and code, for
the total has no setter, and reads all three. -/
theorem uses_model_of_parcel :
    ∃ f b m, ((parcel, .clientBuilder), b) ∈ ofParcels.outputs.zip ofParcels.produce.classes ∧
      ((parcel, .clientModel), m) ∈ ofParcels.outputs.zip ofParcels.produce.classes ∧
      Client.UsesModel ofParcels.session f parcelProperties b m ∧
      m.className = "UiParcel" ∧ m.package = "shop.model" ∧ b.package = "shop" ∧
      (Property.handled .clientRead parcelProperties).map (·.name) = ["code", "weight"] ∧
      (Property.handled .clientWrite parcelProperties).map (·.name) =
        ["code", "weight", "total"] := by
  obtain ⟨count, hcount⟩ := reachable_ofParcels.exists_outcome rfl generable_of_mem_ofParcels
  obtain ⟨⟨b, hb⟩, ⟨m, hm⟩, huses⟩ := reachable_ofParcels.uses_models rfl (by decide) (by decide)
    hcount (List.mem_singleton.2 rfl)
  obtain ⟨ps, f, hbuilds, huses⟩ := huses b m hb hm
  cases describe_parcel.symm.trans hbuilds.described
  have hmodel := (isClassOf_of_mem_zip reachable_ofParcels.wellKept.clean hm).places
  have hbuilder := (isClassOf_of_mem_zip reachable_ofParcels.wellKept.clean hb).places
  refine ⟨f, b, m, hb, hm, huses, ?_, ?_, ?_, by decide, by decide⟩
  · rw [hmodel.className]
    decide
  · exact Except.ok.inj (hmodel.package.symm.trans (packageFor_parcel .clientModel))
  · exact Except.ok.inj (hbuilder.package.symm.trans (packageFor_parcel .clientBuilder))

end XmlBinding.Generator
