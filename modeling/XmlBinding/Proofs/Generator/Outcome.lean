import XmlBinding.Proofs.Catalog.Names
import XmlBinding.Proofs.Client.Class
import XmlBinding.Proofs.Generator.Lockstep
import XmlBinding.Proofs.Generator.Registration
import XmlBinding.Proofs.Server.Class
import XmlBinding.Proofs.Session

/-!
# When generation succeeds

Generation succeeds where every registered entity has its three classes; otherwise it fails by an
entity.

* `Draft.ofTarget s ps e t` : the class of an entity for one target;
* `Draft.ofEntity_snd_eq_none`, `ofEntities_snd_eq_none` : no failure among classes;
* `Draft.generable_of_ofEntity`, `ofEntity_of_generable` : an entity has a class for each target
  exactly under the conditions;
* `Generator.generate_run` : the outcome of a generation, whatever receives the classes;
* `Generator.generates_iff` : the conditions for success, and the failures.
-/

namespace XmlBinding

/-! ## Failures of drafts -/

namespace ClientModel

variable {s : Session} {e : Entity}

theorem failsByEntity_propertyImports (s : Session) (package : String) (p : BeanProperty) :
    FailsByEntity (propertyImports s package p) := by
  unfold propertyImports
  dsimp only
  split
  · exact failsByEntity_ok _
  · refine (s.failsByEntity_packageFor _ _).bind fun home => ?_
    split
    · exact failsByEntity_ok _
    · exact failsByEntity_ok _

theorem failsByEntity_opening (s : Session) (e : Entity) : FailsByEntity (opening s e) := by
  unfold opening imports
  refine (s.failsByEntity_packageFor e _).bind fun package => ?_
  refine FailsByEntity.bind ?_ fun imports => failsByEntity_ok _
  refine FailsByEntity.bind ?_ fun named => failsByEntity_ok _
  exact failsByEntity_mapM fun p _ => failsByEntity_propertyImports s package p

/-- Where every registered entity has a package, every entity with one has a model. -/
theorem exists_opening
    (hp : ∀ e ∈ s.entities.values, ∀ t, ∃ package, s.packageFor e t = .ok package)
    {package : String} (h : s.packageFor e .clientModel = .ok package) :
    ∃ m, opening s e = .ok m := by
  have hproperty (p : BeanProperty) : ∃ is, propertyImports s package p = .ok is ∧ True := by
    unfold propertyImports
    dsimp only
    cases ho : s.entity? p.type with
    | none => exact ⟨_, rfl, trivial⟩
    | some other =>
      obtain ⟨home, hh⟩ := hp other (Session.mem_values_of_entity? ho) .clientModel
      dsimp only
      rw [hh]
      show ∃ is, (if (home.isEmpty || home == package) = true then Except.ok _ else Except.ok _ :
        Except Failure (List String)) = .ok is ∧ True
      split
      · exact ⟨_, rfl, trivial⟩
      · exact ⟨_, rfl, trivial⟩
  unfold opening imports
  rw [h]
  obtain ⟨named, hnamed, -⟩ := exists_mapM_iff.2 fun p
    (_ : p ∈ e.properties.filter fun p => p.descriptor.transience.isNone) => hproperty p
  refine ⟨_, bind_eq_ok.2 ⟨package, rfl, bind_eq_ok.2 ⟨_, bind_eq_ok.2 ⟨named, hnamed, rfl⟩, rfl⟩⟩⟩

theorem exists_packageFor_of_opening {m : ClientModel} (h : opening s e = .ok m) :
    ∃ package, s.packageFor e .clientModel = .ok package := by
  obtain ⟨package, hp, -⟩ := bind_eq_ok.1 h
  exact ⟨package, hp⟩

end ClientModel

namespace Draft

variable {s : Session} {e : Entity} {t : Target} {ts : List Target} {ps : List Property}

theorem failsByEntity_start (s : Session) (e : Entity) (t : Target) :
    FailsByEntity (start s e t) := by
  cases t with
  | clientModel => exact (ClientModel.failsByEntity_opening s e).map model
  | clientBuilder => exact (Builder.failsByEntity_openFrame s e _).map clientBuilder
  | serverBuilder => exact (Builder.failsByEntity_openFrame s e _).map serverBuilder

theorem failsByEntity_receive (s : Session) (p : Property) (d : Draft) :
    FailsByEntity (d.receive s p) := by
  cases d with
  | model m => exact failsByEntity_ok _
  | clientBuilder f => exact (Builder.failsByEntity_addProperty p f).map clientBuilder
  | serverBuilder f => exact (Builder.failsByEntity_addProperty p f).map serverBuilder

/-- The properties of a frame that the server cannot read are there or not. -/
theorem failsByEntity_finish (hc : s.catalog.NamesMethods) (d : Draft) :
    FailsByEntity (d.finish s) := by
  cases d with
  | model m => exact failsByEntity_ok _
  | clientBuilder f =>
    show FailsByEntity (Handler.clientDialect.render s f)
    rcases Client.render_assembles hc f with ⟨c, hr, -⟩ | ⟨failure, hb, hr⟩
    · rw [hr]
      exact failsByEntity_ok c
    · rw [hr]
      exact failsByEntity_error hb.isEntityFault
  | serverBuilder f =>
    show FailsByEntity (Handler.serverDialect.render s f)
    by_cases hu : ∃ p ∈ f.attributes ++ f.elements, Server.Unreadable s p
    · obtain ⟨p, hp, hu⟩ := hu
      obtain ⟨failure, hw, hr⟩ := Server.render_refuses hc hp hu
      rw [hr]
      rcases hw with hb | ⟨property, rfl⟩
      · exact failsByEntity_error hb.isEntityFault
      · exact failsByEntity_error trivial
    · have hread : ∀ p ∈ f.attributes ++ f.elements, ¬Server.Unreadable s p :=
        fun p hp h => hu ⟨p, hp, h⟩
      rcases Server.render_assembles hc hread with ⟨c, hr, -⟩ | ⟨failure, hb, hr⟩
      · rw [hr]
        exact failsByEntity_ok c
      · rw [hr]
        exact failsByEntity_error hb.isEntityFault

theorem failsByEntity_filled (s : Session) (ts : List Target) (e : Entity) :
    FailsByEntity (filled s ts e) := by
  refine (s.failsByEntity_describe e).bind fun ps => ?_
  refine (failsByEntity_mapM fun t _ => failsByEntity_start s e t).bind fun ds => ?_
  exact failsByEntity_foldlM (fun ds p => failsByEntity_mapM fun d _ => failsByEntity_receive s p d)
    ps ds

theorem isEntityFault_of_finishAll (hc : s.catalog.NamesMethods) {ds : List Draft}
    {failure : Failure} (h : (finishAll s ds).2 = some failure) : failure.IsEntityFault := by
  induction ds with
  | nil => cases h
  | cons d ds ih =>
    unfold finishAll at h
    cases hd : d.finish s with
    | error failure' =>
      rw [hd] at h
      cases h
      exact failsByEntity_finish hc d failure hd
    | ok c =>
      rw [hd] at h
      exact ih h

theorem isEntityFault_of_ofEntity (hc : s.catalog.NamesMethods) {failure : Failure}
    (h : (ofEntity s ts e).2 = some failure) : failure.IsEntityFault := by
  unfold ofEntity at h
  cases hf : filled s ts e with
  | error failure' =>
    rw [hf] at h
    cases h
    exact failsByEntity_filled s ts e failure hf
  | ok ds =>
    rw [hf] at h
    exact isEntityFault_of_finishAll hc h

theorem isEntityFault_of_ofEntities (hc : s.catalog.NamesMethods) {es : List Entity}
    {failure : Failure} (h : (ofEntities s ts es).2 = some failure) : failure.IsEntityFault := by
  induction es with
  | nil => cases h
  | cons e es ih =>
    unfold ofEntities at h
    cases hm : ofEntity s ts e with
    | mk cs outcome =>
      rw [hm] at h
      cases outcome with
      | some failure' =>
        cases h
        exact isEntityFault_of_ofEntity hc (congrArg Prod.snd hm)
      | none => exact ih h

/-! ## One target at a time -/

/-- A class with all properties of a list. -/
def receives (s : Session) (ps : List Property) (d : Draft) : Except Failure Draft :=
  ps.foldlM (fun d p => d.receive s p) d

/-- The class of an entity for one target. -/
def ofTarget (s : Session) (ps : List Property) (e : Entity) (t : Target) :
    Except Failure GeneratedClass := do
  let d ← start s e t
  let d ← receives s ps d
  d.finish s

theorem receiveAll_iff {q : Draft → Prop} {ds : List Draft} :
    (∃ ds', receiveAll s ps ds = .ok ds' ∧ ∀ d ∈ ds', q d) ↔
      ∀ d ∈ ds, ∃ d', receives s ps d = .ok d' ∧ q d' := by
  induction ps generalizing ds with
  | nil =>
    constructor
    · rintro ⟨ds', h, hq⟩ d hd
      cases h
      exact ⟨d, rfl, hq d hd⟩
    · intro h
      refine ⟨ds, rfl, fun d hd => ?_⟩
      obtain ⟨d', hd', hq⟩ := h d hd
      cases hd'
      exact hq
  | cons p ps ih =>
    have hcons (d : Draft) : (∃ d', receives s (p :: ps) d = .ok d' ∧ q d') ↔
        ∃ d₁, d.receive s p = .ok d₁ ∧ ∃ d', receives s ps d₁ = .ok d' ∧ q d' := by
      unfold receives
      rw [List.foldlM_cons]
      constructor
      · rintro ⟨d', h, hq⟩
        obtain ⟨d₁, h₁, h⟩ := bind_eq_ok.1 h
        exact ⟨d₁, h₁, d', h, hq⟩
      · rintro ⟨d₁, h₁, d', h, hq⟩
        exact ⟨d', bind_eq_ok.2 ⟨d₁, h₁, h⟩, hq⟩
    simp only [hcons]
    rw [← exists_mapM_iff]
    unfold receiveAll
    rw [List.foldlM_cons]
    constructor
    · rintro ⟨ds', h, hq⟩
      obtain ⟨ds₁, h₁, h⟩ := bind_eq_ok.1 h
      exact ⟨ds₁, h₁, ih.1 ⟨ds', h, hq⟩⟩
    · rintro ⟨ds₁, h₁, h⟩
      obtain ⟨ds', h, hq⟩ := ih.2 h
      exact ⟨ds', bind_eq_ok.2 ⟨ds₁, h₁, h⟩, hq⟩

theorem finishAll_snd_eq_none {ds : List Draft} :
    (finishAll s ds).2 = none ↔ ∀ d ∈ ds, ∃ c, d.finish s = .ok c := by
  induction ds with
  | nil =>
    refine iff_of_true rfl fun d hd => ?_
    cases hd
  | cons d ds ih =>
    unfold finishAll
    rw [List.forall_mem_cons]
    cases d.finish s with
    | error failure =>
      constructor
      · intro h
        cases h
      · rintro ⟨⟨c, hc⟩, -⟩
        cases hc
    | ok c => exact ⟨fun h => ⟨⟨c, rfl⟩, ih.1 h⟩, fun h => ih.2 h.2⟩

/-- All classes of an entity are made where that for each target is. -/
theorem ofEntity_snd_eq_none :
    (ofEntity s ts e).2 = none ↔
      ∃ ps, s.describe e = .ok ps ∧ ∀ t ∈ ts, ∃ c, ofTarget s ps e t = .ok c := by
  have htarget (ps : List Property) (t : Target) : (∃ c, ofTarget s ps e t = .ok c) ↔
      ∃ d, start s e t = .ok d ∧ ∃ d', receives s ps d = .ok d' ∧ ∃ c, d'.finish s = .ok c := by
    unfold ofTarget
    constructor
    · rintro ⟨c, h⟩
      obtain ⟨d, hd, h⟩ := bind_eq_ok.1 h
      obtain ⟨d', hd', h⟩ := bind_eq_ok.1 h
      exact ⟨d, hd, d', hd', c, h⟩
    · rintro ⟨d, hd, d', hd', c, h⟩
      exact ⟨c, bind_eq_ok.2 ⟨d, hd, bind_eq_ok.2 ⟨d', hd', h⟩⟩⟩
  have hfilled : (ofEntity s ts e).2 = none ↔
      ∃ ds, filled s ts e = .ok ds ∧ ∀ d ∈ ds, ∃ c, d.finish s = .ok c := by
    unfold ofEntity
    cases filled s ts e with
    | error failure => exact ⟨fun h => (nomatch h), fun ⟨_, h, _⟩ => (nomatch h)⟩
    | ok ds =>
      refine finishAll_snd_eq_none.trans ⟨fun h => ⟨ds, rfl, h⟩, ?_⟩
      rintro ⟨ds', h, hall⟩
      cases h
      exact hall
  simp only [hfilled, htarget]
  constructor
  · rintro ⟨ds', h, hall⟩
    obtain ⟨ps, hps, h⟩ := bind_eq_ok.1 h
    obtain ⟨ds, hds, h⟩ := bind_eq_ok.1 h
    exact ⟨ps, hps, exists_mapM_iff.1 ⟨ds, hds, receiveAll_iff.1 ⟨ds', h, hall⟩⟩⟩
  · rintro ⟨ps, hps, h⟩
    obtain ⟨ds, hds, h⟩ := exists_mapM_iff.2 h
    obtain ⟨ds', h, hall⟩ := receiveAll_iff.2 h
    exact ⟨ds', bind_eq_ok.2 ⟨ps, hps, bind_eq_ok.2 ⟨ds, hds, h⟩⟩, hall⟩

theorem ofEntities_snd_eq_none {es : List Entity} :
    (ofEntities s ts es).2 = none ↔ ∀ e ∈ es, (ofEntity s ts e).2 = none := by
  induction es with
  | nil =>
    refine iff_of_true rfl fun e he => ?_
    cases he
  | cons e es ih =>
    unfold ofEntities
    rw [List.forall_mem_cons, ← ih]
    cases hm : ofEntity s ts e with
    | mk cs failure =>
      cases failure with
      | some failure =>
        constructor
        · intro h
          cases h
        · rintro ⟨h, -⟩
          cases h
      | none => exact ⟨fun h => ⟨rfl, h⟩, fun h => h.2⟩

/-! ## The three targets -/

theorem receives_model (m : ClientModel) :
    receives s ps (model m) = .ok (model (ps.foldl (fun m p => addVisible s p m) m)) := by
  induction ps generalizing m with
  | nil => rfl
  | cons p ps ih => exact ih (addVisible s p m)

/-- Frames take properties one by one. -/
theorem receives_frame {wrap : ClassFrame → Draft}
    (hw : ∀ p f, (wrap f).receive s p = (Builder.addProperty p f).map wrap) (f : ClassFrame) :
    receives s ps (wrap f) = (ps.foldlM (fun f p => Builder.addProperty p f) f).map wrap := by
  induction ps generalizing f with
  | nil => rfl
  | cons p ps ih =>
    unfold receives
    rw [List.foldlM_cons, List.foldlM_cons, hw]
    cases Builder.addProperty p f with
    | error failure => rfl
    | ok g => exact ih g

theorem ofTarget_model_iff : (∃ c, ofTarget s ps e .clientModel = .ok c) ↔
    ∃ m, ClientModel.opening s e = .ok m := by
  unfold ofTarget
  constructor
  · rintro ⟨c, h⟩
    obtain ⟨d, hd, -⟩ := bind_eq_ok.1 h
    obtain ⟨m, hm, -⟩ := map_eq_ok.1 hd
    exact ⟨m, hm⟩
  · rintro ⟨m, hm⟩
    have hstart : start s e .clientModel = .ok (model m) := map_eq_ok.2 ⟨m, hm, rfl⟩
    exact ⟨_, bind_eq_ok.2 ⟨_, hstart, bind_eq_ok.2 ⟨_, receives_model m, rfl⟩⟩⟩

theorem ofTarget_builder_iff (wrap : ClassFrame → Draft)
    (hstart : start s e t = (Builder.openFrame s e t).map wrap)
    (hw : ∀ p f, (wrap f).receive s p = (Builder.addProperty p f).map wrap) :
    (∃ c, ofTarget s ps e t = .ok c) ↔
      ∃ f, Builder.openFrame s e t = .ok f ∧ (∀ p ∈ ps, Builder.Fits p) ∧
        ∃ c, (wrap (Builder.framed ps f)).finish s = .ok c := by
  unfold ofTarget
  rw [hstart]
  constructor
  · rintro ⟨c, h⟩
    obtain ⟨d, hd, h⟩ := bind_eq_ok.1 h
    obtain ⟨f, hf, rfl⟩ := map_eq_ok.1 hd
    obtain ⟨d', hd', h⟩ := bind_eq_ok.1 h
    rw [receives_frame hw] at hd'
    obtain ⟨f', hf', rfl⟩ := map_eq_ok.1 hd'
    obtain ⟨hfits, rfl⟩ := Builder.addProperties_eq_ok_iff.1 hf'
    exact ⟨f, hf, hfits, c, h⟩
  · rintro ⟨f, hf, hfits, c, h⟩
    refine ⟨c, bind_eq_ok.2 ⟨wrap f, map_eq_ok.2 ⟨f, hf, rfl⟩, bind_eq_ok.2 ⟨_, ?_, h⟩⟩⟩
    rw [receives_frame hw]
    exact map_eq_ok.2 ⟨_, Builder.addProperties_eq_ok_iff.2 ⟨hfits, rfl⟩, rfl⟩

/-- An entity that has all its classes is described, has its packages and a root element, and no
property of it is refused. -/
theorem generable_of_ofEntity (hc : s.catalog.NamesMethods)
    (h : (ofEntity s Target.all e).2 = none) : s.Generable e := by
  obtain ⟨ps, hps, hall⟩ := ofEntity_snd_eq_none.1 h
  obtain ⟨m, hm⟩ := ofTarget_model_iff.1 (hall .clientModel (by decide))
  obtain ⟨f, hf, -, -⟩ := (ofTarget_builder_iff clientBuilder rfl fun _ _ => rfl).1
    (hall .clientBuilder (by decide))
  obtain ⟨g, hg, hfits, c, hrender⟩ :=
    (ofTarget_builder_iff serverBuilder rfl fun _ _ => rfl).1
      (hall .serverBuilder (by decide))
  obtain ⟨package, -, hpackage, -, -⟩ := Builder.openFrame_eq_ok_iff.1 hf
  obtain ⟨package', node, hpackage', hnode, -⟩ := Builder.openFrame_eq_ok_iff.1 hg
  have hhidden {p : Property} (hp : p ∈ ps) (ht : p.transience = none) :
      p.isHidden .marshalling = false := by
    rw [Session.isHidden_of_mem_describe hps hp, ht]
    rfl
  refine ⟨⟨ps, hps⟩, fun t => ?_, Session.rootNode_eq_ok_iff.1 ⟨node, hnode⟩, ?_, ?_⟩
  · cases t with
    | clientModel => exact ClientModel.exists_packageFor_of_opening hm
    | clientBuilder => exact ⟨package, hpackage⟩
    | serverBuilder => exact ⟨package', hpackage'⟩
  · intro ps' hps' p hp ht ha
    cases hps'.symm.trans hps
    exact hfits p hp (hhidden hp ht) ha
  · intro ps' hps' p hp ht key entry implementation hcategory hkey
    cases hps'.symm.trans hps
    by_contra hlazy
    have hpart : p.takesPart .serverRead = true :=
      Property.takesPart_iff.2 ⟨Bool.eq_false_iff.2 hlazy, hhidden hp ht⟩
    have hu : Server.Unreadable s p := ⟨hpart, key, entry, implementation, hcategory, hkey⟩
    obtain ⟨failure, -, hr⟩ :=
      Server.render_refuses hc (Builder.mem_framed (f := g) hp (hhidden hp ht)) hu
    have hboth : Except.error failure = Except.ok c := hr.symm.trans hrender
    cases hboth

/-- A server builder can read all properties of an entity that meets the conditions. -/
theorem readable_of_generable (h : s.Generable e) (hps : s.describe e = .ok ps)
    {package className node : String} {p : Property}
    (hp : p ∈ (Builder.framed ps (.opening e package className node)).attributes ++
      (Builder.framed ps (.opening e package className node)).elements) :
    ¬Server.Unreadable s p := by
  rintro ⟨hpart, key, entry, implementation, hcategory, hkey⟩
  obtain ⟨hp, hh⟩ := Builder.of_mem_framed_opening hp
  rw [Session.isHidden_of_mem_describe hps hp, Option.isSome_eq_false_iff,
    Option.isNone_iff_eq_none] at hh
  have hlazy := h.keys ps hps p hp hh key entry implementation hcategory hkey
  cases hlazy.symm.trans (Property.takesPart_iff.1 hpart).1

/-- Where every registered entity has a package, the conditions suffice. -/
theorem ofEntity_of_generable (hc : s.catalog.NamesMethods)
    (hplaced : ∀ e ∈ s.entities.values, ∀ t, ∃ package, s.packageFor e t = .ok package)
    (h : s.Generable e) : (ofEntity s Target.all e).2 = none := by
  obtain ⟨ps, hps⟩ := h.described
  obtain ⟨node, hnode⟩ := Session.rootNode_eq_ok_iff.2 h.rooted
  have hframe (t : Target) : ∃ package, Builder.openFrame s e t =
      .ok (.opening e package (s.className e t) node) := by
    obtain ⟨package, hp⟩ := h.placed t
    exact ⟨package, Builder.openFrame_eq_ok_iff.2 ⟨package, node, hp, hnode, rfl⟩⟩
  have hblame (failure : Failure) : ¬s.Blames failure := by
    rintro ⟨e', he', t, hf⟩
    obtain ⟨package, hp⟩ := hplaced e' he' t
    cases hf.symm.trans hp
  have hfits : ∀ p ∈ ps, Builder.Fits p := by
    intro p hp hh ha
    rw [Session.isHidden_of_mem_describe hps hp, Option.isSome_eq_false_iff,
      Option.isNone_iff_eq_none] at hh
    exact h.attributes ps hps p hp hh ha
  refine ofEntity_snd_eq_none.2 ⟨ps, hps, fun t _ => ?_⟩
  cases t with
  | clientModel =>
    obtain ⟨package, hp⟩ := h.placed .clientModel
    exact ofTarget_model_iff.2 (ClientModel.exists_opening hplaced hp)
  | clientBuilder =>
    obtain ⟨package, hf⟩ := hframe .clientBuilder
    refine (ofTarget_builder_iff clientBuilder rfl fun _ _ => rfl).2
      ⟨_, hf, hfits, ?_⟩
    rcases Client.render_assembles hc (Builder.framed ps _) with ⟨c, hr, -⟩ | ⟨failure, hb, -⟩
    · exact ⟨c, hr⟩
    · exact absurd hb (hblame failure)
  | serverBuilder =>
    obtain ⟨package, hf⟩ := hframe .serverBuilder
    refine (ofTarget_builder_iff serverBuilder rfl fun _ _ => rfl).2
      ⟨_, hf, hfits, ?_⟩
    rcases Server.render_assembles hc fun p hp => readable_of_generable h hps hp with
      ⟨c, hr, -⟩ | ⟨failure, hb, -⟩
    · exact ⟨c, hr⟩
    · exact absurd hb (hblame failure)

end Draft

/-! ## Generation -/

namespace Generator

variable {g : Generator}

/-- What receives the classes has no say in the outcome but for the paths it notes. -/
theorem generate_run {σ : Type} (g : Generator)
    (receive : GeneratedClass → StateM σ (Except IoFault Unit)) (w : σ) :
    ∃ written failed, ((g.generate receive).run w).1.1 =
      g.produce.outcome.map (⟨·, written, failed⟩) :=
  ⟨((deliver receive g.produce.classes).run w).1.1,
    ((deliver receive g.produce.classes).run w).1.2, rfl⟩

/-- A generator with a clean handler for each target makes all classes where every entity meets the
conditions. -/
theorem made_snd_eq_none_iff (hc : g.session.catalog.NamesMethods) (ht : g.targets = Target.all) :
    g.made.2 = none ↔ ∀ e ∈ g.session.entities.values, g.session.Generable e := by
  unfold made
  rw [ht, Draft.ofEntities_snd_eq_none]
  constructor
  · exact fun h e he => Draft.generable_of_ofEntity hc (h e he)
  · exact fun h e he => Draft.ofEntity_of_generable hc (fun e' he' => (h e' he').placed) (h e he)

/-- The failure of a production is due to an entity. -/
theorem isEntityFault_of_produce (hg : g.Clean) (hc : g.session.catalog.NamesMethods)
    {failure : Failure} (h : g.produce.outcome = .error failure) : failure.IsEntityFault := by
  rw [(produce_spec hg).2.1] at h
  cases hm : g.made.2 with
  | none =>
    rw [hm] at h
    cases h
  | some failure' =>
    rw [hm] at h
    cases h
    exact Draft.isEntityFault_of_ofEntities hc hm

theorem clean_foldl_add_withAllHandlers (config : Config) (user : Option Catalog.Bundle)
    (es : List Entity) :
    let g := es.foldl add (new config user).withAllHandlers
    g.Clean ∧ g.targets = Target.all ∧ g.session.catalog = Catalog.load config.locale user := by
  have hhandlers : (es.foldl add (new config user).withAllHandlers).handlers =
      Target.all.map Handler.fresh := by
    rw [foldl_add_handlers]
    exact foldl_addHandler_handlers Target.all _
  refine ⟨?_, ?_, ?_⟩
  · intro h hh
    rw [hhandlers] at hh
    obtain ⟨t, -, rfl⟩ := List.mem_map.1 hh
    exact Handler.clean_fresh t
  · unfold targets
    rw [hhandlers]
    rfl
  · rw [foldl_add_catalog, withAllHandlers, foldl_addHandler_session, session_new]

/-- A generator with the three handlers, after any registrations and whatever receives the classes,
succeeds exactly where every registered entity meets the conditions, and fails only by an entity. -/
theorem generates_iff {σ : Type} (config : Config) (user : Option Catalog.Bundle)
    (rs : List Registration) (receive : GeneratedClass → StateM σ (Except IoFault Unit)) (w : σ) :
    let g := rs.foldl register (new config user).withAllHandlers
    let outcome := ((g.generate receive).run w).1.1
    ((∃ report, outcome = .ok report) ↔
      ∀ e ∈ g.session.entities.values, g.session.Generable e) ∧
    ∀ failure, outcome = .error failure → failure.IsEntityFault := by
  intro g outcome
  obtain ⟨es, hes⟩ := exists_foldl_register rs (new config user).withAllHandlers
  obtain ⟨hclean, htargets, hcatalog⟩ := clean_foldl_add_withAllHandlers config user es
  rw [← hes] at hclean htargets hcatalog
  have hnames : g.session.catalog.NamesMethods := by
    rw [hcatalog]
    exact Catalog.namesMethods_load config.locale user
  obtain ⟨written, failed, hrun⟩ := g.generate_run receive w
  have houtcome : outcome = g.produce.outcome.map (⟨·, written, failed⟩) := hrun
  rw [houtcome]
  constructor
  · rw [← made_snd_eq_none_iff hnames htargets, (produce_spec hclean).2.1]
    cases g.made.2 with
    | none => exact ⟨fun _ => rfl, fun _ => ⟨_, rfl⟩⟩
    | some failure => exact ⟨fun ⟨_, h⟩ => (nomatch h), fun h => (nomatch h)⟩
  · intro failure h
    cases ho : g.produce.outcome with
    | error failure' =>
      rw [ho] at h
      cases h
      exact isEntityFault_of_produce hclean hnames ho
    | ok count =>
      rw [ho] at h
      cases h

end Generator

end XmlBinding
