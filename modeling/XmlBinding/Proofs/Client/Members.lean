import XmlBinding.Proofs.Client.Pass
import XmlBinding.Proofs.Client.Reference
import XmlBinding.Proofs.Draft
import XmlBinding.Proofs.Generator.Files

/-!
# Members of a model that its builder uses

A model is written as its properties arrive, a builder when all have: what the one leaves out must
be missing from the other.

* `ClientModel.membersSource` : the members of a model, property by property;
  `Draft.ofTarget_model_eq_ok_iff` : the class around them;
* `ClientModel.HasGetter`, `HasSetter` : the accessors of a property in a source;
* `Client.UsesModel s f ps b m` : the builder `b` calls the model `m` by its name and uses the
  members that it has, `usesModel_of_builds`.
-/

namespace XmlBinding

/-! ## Members -/

namespace ClientModel

variable {s : Session} {p : Property} {ps : List Property}

/-- Field and accessors of a property, with its type in the models of a session. -/
def memberSource (s : Session) (p : Property) : String :=
  propertySource s.config p (typeName s p.type)

/-- The members for properties in order, those left out that are hidden. -/
def membersSource (s : Session) (ps : List Property) : String :=
  String.join ((Draft.shown ps).map (memberSource s))

/-- The head of the accessor that reads a property. -/
def getterHead (s : Session) (p : Property) : String :=
  "public function get " ++ p.name ++ "():" ++ typeName s p.type

/-- The head of the accessor that sets a property. -/
def setterHead (s : Session) (p : Property) : String :=
  "public function set " ++ p.name ++ "(value:" ++ typeName s p.type ++ "):void"

/-- A source has the accessor that reads a property. -/
def HasGetter (s : Session) (source : String) (p : Property) : Prop :=
  Occurs (getterHead s p) source

/-- A source has the accessor that sets a property. -/
def HasSetter (s : Session) (source : String) (p : Property) : Prop :=
  Occurs (setterHead s p) source

theorem occurs_memberSource (hp : p ∈ ps) (hh : p.isHidden .marshalling = false) :
    Occurs (memberSource s p) (membersSource s ps) := by
  refine Occurs.join (List.mem_map_of_mem (List.mem_filter.2 ⟨hp, ?_⟩))
  rw [hh]
  rfl

/-- Every property that a model shows can be read. -/
theorem hasGetter_membersSource (hp : p ∈ ps) (hh : p.isHidden .marshalling = false) :
    HasGetter s (membersSource s ps) p := by
  refine Occurs.trans ?_ (occurs_memberSource hp hh)
  refine (Occurs.append_left ?_ _).append_right _
  unfold getterSource
  iterate 7 refine Occurs.append_right ?_ _
  have hhead : s.config.indent 2 ++ "public function get " ++ p.name ++ "():" ++
      typeName s p.type = s.config.indent 2 ++ getterHead s p := by
    unfold getterHead
    simp only [String.append_assoc]
  rw [hhead]
  exact (Occurs.refl _).append_left _

/-- A property that a model shows can be set where the bean has a setter. -/
theorem hasSetter_membersSource (hp : p ∈ ps) (hh : p.isHidden .marshalling = false)
    (hs : p.isReadOnly = false) : HasSetter s (membersSource s ps) p := by
  refine Occurs.trans ?_ (occurs_memberSource hp hh)
  refine Occurs.append_left ?_ _
  unfold setterSource
  rw [hs, if_neg Bool.false_ne_true]
  iterate 7 refine Occurs.append_right ?_ _
  have hhead : "\n" ++ s.config.indent 2 ++ "public function set " ++ p.name ++ "(value:" ++
      typeName s p.type ++ "):void" = "\n" ++ s.config.indent 2 ++ setterHead s p := by
    unfold setterHead
    simp only [String.append_assoc]
  rw [hhead]
  exact (Occurs.refl _).append_left _

end ClientModel

namespace Draft

variable {s : Session} {e : Entity} {ps : List Property} {c : GeneratedClass}

theorem foldl_addVisible_eq (s : Session) (ps : List Property) (m : ClientModel) :
    ps.foldl (fun m p => addVisible s p m) m =
      { m with source := m.source ++ ClientModel.membersSource s ps } := by
  induction ps generalizing m with
  | nil =>
    show m = { m with source := m.source ++ "" }
    rw [String.append_empty]
  | cons p ps ih =>
    rw [List.foldl_cons, ih]
    unfold addVisible ClientModel.membersSource shown
    rw [List.filter_cons]
    cases p.isHidden .marshalling with
    | true => rfl
    | false =>
      show _ = { m with source := m.source ++ String.join (_ :: _) }
      rw [String.join_cons, ← String.append_assoc]
      rfl

/-- The model of an entity is its beginning with the members for its properties. -/
theorem ofTarget_model_eq_ok_iff :
    ofTarget s ps e .clientModel = .ok c ↔ ∃ m, ClientModel.opening s e = .ok m ∧
      ClientModel.finish s { m with source := m.source ++ ClientModel.membersSource s ps } = c := by
  unfold ofTarget
  constructor
  · intro h
    obtain ⟨d, hd, h⟩ := bind_eq_ok.1 h
    obtain ⟨m, hm, rfl⟩ := map_eq_ok.1 hd
    rw [receives_model, foldl_addVisible_eq] at h
    exact ⟨m, hm, Except.ok.inj h⟩
  · rintro ⟨m, hm, rfl⟩
    have hstart : start s e .clientModel = .ok (model m) := map_eq_ok.2 ⟨m, hm, rfl⟩
    refine bind_eq_ok.2 ⟨_, hstart, bind_eq_ok.2 ⟨_, receives_model m, ?_⟩⟩
    rw [foldl_addVisible_eq]
    rfl

end Draft

/-! ## Their use -/

namespace Client

variable {s : Session} {e : Entity} {f : ClassFrame} {ps : List Property} {b m : GeneratedClass}

/-- A builder uses a model. The name by which its code calls the model of its entity is that of the
class, which is imported exactly where it stands in another package that has a name. The properties
that its one pass assigns to and the other reads are those of `passes` : the model can set the ones
and read the others. -/
structure UsesModel (s : Session) (f : ClassFrame) (ps : List Property) (b m : GeneratedClass) :
    Prop where
  name : model (scopeOf s f) = m.className
  mentions : ⟨m.className, qualify m.package m.className, true⟩ ∈ mentioned s f
  imports : ∃ imports,
    Refers .as3 s.config ⟨b.package, b.className, imports, ""⟩ (mentioned s f) (passing s f)
      b.source ∧
    (qualify m.package m.className ∈ imports ↔ m.package ≠ "" ∧ m.package ≠ b.package)
  passes : HasPasses (scopeOf s f) ps b.source
  members : ∃ head, m.source = head ++ ClientModel.membersSource s ps ++
    AccessStyle.as3.classFooter s.config
  sets : ∀ p ∈ Property.handled .clientRead ps,
    ClientModel.HasSetter s (ClientModel.membersSource s ps) p
  gets : ∀ p ∈ Property.handled .clientWrite ps,
    ClientModel.HasGetter s (ClientModel.membersSource s ps) p

/-- A property that a pass handles is shown by the model. -/
theorem isHidden_of_isHandled (hps : s.describe e = .ok ps) {p : Property} (hp : p ∈ ps)
    {d : Direction} (hd : p.isHandled d = true) : p.isHidden .marshalling = false :=
  (Property.takesPart_iff.1
    (Property.takesPart_of_isHandled (Session.isHidden_of_mem_describe hps hp) hd)).2

/-- The model that a builder refers to is that of its entity, of the same properties. -/
theorem usesModel_of_builds (hc : s.catalog.NamesMethods) (he : s.entity? e.type = some e)
    (hdot : '.' ∉ (s.className e .clientModel).toList)
    (hb : Builder.Builds Handler.clientDialect s e ps f b)
    (hm : Draft.ofTarget s ps e .clientModel = .ok m) : UsesModel s f ps b m := by
  have hplaces := Draft.places_of_model hm
  obtain ⟨hentity, -, -⟩ := hb.placed
  obtain ⟨-, hpackage, hclass⟩ := Draft.of_render hb.rendered
  have hhome : s.home e .clientModel = m.package := by
    unfold Session.home
    rw [hplaces.package]
    rfl
  have hreferences : s.references .clientModel f.entity.type =
      [⟨m.className, qualify m.package m.className, true⟩] := by
    unfold Session.references
    rw [hentity, he]
    dsimp only
    rw [hhome, ← hplaces.className]
  have hmentions : ⟨m.className, qualify m.package m.className, true⟩ ∈ mentioned s f := by
    have hstanding : (standing (scopeOf s f)).drop 5 =
        s.references .clientModel f.entity.type := rfl
    refine List.mem_append_left _ (List.mem_of_mem_drop (i := 5) ?_)
    rw [hstanding, hreferences]
    exact List.mem_singleton.2 rfl
  have hpackageOf : packageOf (qualify m.package m.className) = m.package := by
    rw [hplaces.className]
    exact packageOf_qualify hdot _
  obtain ⟨opening, -, hsource⟩ := Draft.ofTarget_model_eq_ok_iff.1 hm
  obtain ⟨imports, hrefers⟩ := refers_of_builds hc hb
  rw [← hpackage, ← hclass] at hrefers
  refine ⟨?_, hmentions, ⟨imports, hrefers, ?_⟩, hasPasses_of_builds hb hc,
    ⟨opening.source, hsource ▸ rfl⟩, fun p hp => ?_, fun p hp => ?_⟩
  · show s.refName .clientModel f.entity.type = m.className
    unfold Session.refName
    rw [hentity, he]
    exact hplaces.className.symm
  · rw [hrefers.imports]
    constructor
    · rintro ⟨r, -, hr, hq⟩
      rw [Reference.Imported, hq, hpackageOf] at hr
      exact hr.2
    · intro h
      refine ⟨_, List.mem_append_left _ hmentions, ⟨rfl, ?_⟩, rfl⟩
      rw [hpackageOf]
      exact h
  · obtain ⟨hp, hd⟩ := Property.mem_handled_iff.1 hp
    have hhidden := isHidden_of_isHandled hb.described hp hd
    refine ClientModel.hasSetter_membersSource hp hhidden ?_
    exact ((isHandled_clientRead_iff (Session.isHidden_of_mem_describe hb.described hp)).1 hd).2.1
  · obtain ⟨hp, hd⟩ := Property.mem_handled_iff.1 hp
    exact ClientModel.hasGetter_membersSource hp (isHidden_of_isHandled hb.described hp hd)

end Client

end XmlBinding
