import XmlBinding.Proofs.Client.Bracket
import XmlBinding.Proofs.Client.Members
import XmlBinding.Proofs.Server.Bracket

/-!
# Classes have balanced brackets

Code opens and closes its brackets in different places: in front of an argument and behind it, at
the head of a block and at its end. What a user supplies stands in between.

* `ClientModel.isBalanced_membersSource`, `isPlain_imports` : the parts of a model;
* `Draft.isBalanced_of_ofTarget` : the class of an entity;
* `Generator.Reachable.isBalanced_of_mem_produce` : the classes of a generator.
-/

namespace XmlBinding

/-! ## Models -/

namespace ClientModel

section Member
variable {c : Config} (hc : c.IsPlain) {p : Property} (hp : p.IsPlain) {type : String}
  (htype : IsPlain type)

include htype in
theorem isBalanced_initializer {default : Option String} (hdefault : IsPlain (default.getD "")) :
    IsBalanced (initializer type default) := by
  unfold initializer
  split
  · exact .empty
  · exact htype.isBalanced.around fun k => by cases k <;> rfl
  · next value _ =>
    have hvalue : IsPlain value := hdefault
    split
    · exact hvalue.isBalanced.around fun k => by cases k <;> rfl
    · exact ((by decide : IsPlain " = ").append hvalue).isBalanced

include hp in
theorem isPlain_fieldRef : IsPlain (fieldRef c p) := by
  refine IsPlain.append ?_ hp.name
  split
  · decide
  · decide

include hc hp htype in
theorem isBalanced_fieldSource : IsBalanced (fieldSource c p type) := by
  have hunderscore : IsPlain (if c.usingUnderscore then "_" else "") := by split <;> decide
  refine isBalanced_iff.2 fun k => ?_
  unfold fieldSource
  simp only [excess_append, Config.excess_indent hc, hunderscore.excess k, hp.name.excess k,
    htype.excess k, (isBalanced_initializer htype hp.default).excess k, one_mul, mul_one]
  repeat rw [excess_ofList k]
  cases k <;> rfl

include hc in
theorem isBalanced_bindableSource {event : Option String} (hevent : IsPlain (event.getD "")) :
    IsBalanced (bindableSource c event) := by
  unfold bindableSource
  split
  · exact .empty
  · next event =>
    have hevent : IsPlain event := hevent
    refine (Config.isPlain_indent hc 2).isBalanced.append ?_
    split
    · exact isBalanced_iff.2 fun k => by cases k <;> rfl
    · exact hevent.isBalanced.around fun k => by cases k <;> rfl

include hc hp htype in
theorem isBalanced_getterSource : IsBalanced (getterSource c p type) := by
  refine isBalanced_iff.2 fun k => ?_
  unfold getterSource
  simp only [excess_append, Config.excess_indent hc, Config.excess_openBrace hc,
    (isPlain_fieldRef hp).excess k, hp.name.excess k, htype.excess k, one_mul, mul_one]
  repeat rw [excess_ofList k]
  cases k <;> rfl

include hc in
theorem isBalanced_eventSource {event : Option String} (hevent : IsPlain (event.getD "")) :
    IsBalanced (eventSource c event) := by
  unfold eventSource
  split
  · exact .empty
  · next event =>
    have hevent : IsPlain event := hevent
    split
    · exact .empty
    · refine isBalanced_iff.2 fun k => ?_
      simp only [excess_append, Config.excess_indent hc, hevent.excess k, one_mul, mul_one]
      repeat rw [excess_ofList k]
      cases k <;> rfl

include hc hp htype in
theorem isBalanced_setterSource : IsBalanced (setterSource c p type) := by
  unfold setterSource
  split
  · exact .empty
  · refine isBalanced_iff.2 fun k => ?_
    simp only [excess_append, Config.excess_indent hc, Config.excess_openBrace hc,
      (isPlain_fieldRef hp).excess k, hp.name.excess k, htype.excess k,
      (isBalanced_eventSource hc hp.bindable).excess k, mul_one]
    repeat rw [excess_ofList k]
    cases k <;> rfl

include hc hp htype in
theorem isBalanced_propertySource : IsBalanced (propertySource c p type) := by
  have hbreak : IsBalanced "\n" := (by decide : IsPlain "\n").isBalanced
  exact ((((hbreak.append (isBalanced_fieldSource hc hp htype)).append hbreak).append
    (isBalanced_bindableSource hc hp.bindable)).append
      (isBalanced_getterSource hc hp htype)).append (isBalanced_setterSource hc hp htype)

end Member

variable {s : Session} {e : Entity} {package : String} {is : List String}

theorem isPlain_typeName (hs : s.HasPlainNames) {t : JavaType} (ht : t.IsPlain) :
    IsPlain (typeName s t) := by
  unfold typeName
  split
  · next other hother => exact Session.isPlain_modelName hs.config (hs.entity? hother)
  · exact ht.clientName

/-- The members for properties without brackets. -/
theorem isBalanced_membersSource (hs : s.HasPlainNames) {ps : List Property}
    (hps : ∀ p ∈ ps, p.IsPlain) : IsBalanced (membersSource s ps) := by
  refine .join fun l hl => ?_
  obtain ⟨p, hp, rfl⟩ := List.mem_map.1 hl
  have hp := hps p (List.mem_of_mem_filter hp)
  exact isBalanced_propertySource hs.config hp (isPlain_typeName hs hp.type)

/-! ### Imports -/

theorem isPlain_propertyImports (hs : s.HasPlainNames) {p : BeanProperty}
    (h : propertyImports s package p = .ok is) : ∀ q ∈ is, IsPlain q := by
  have hdictionary : ∀ q ∈ (if p.type.isMap then ["flash.utils.Dictionary"] else []),
      IsPlain q := by
    split
    · exact List.forall_mem_singleton.2 (by decide)
    · exact List.forall_mem_nil _
  unfold propertyImports at h
  dsimp only at h
  cases hother : s.entity? p.type with
  | none =>
    rw [hother] at h
    cases h
    exact hdictionary
  | some other =>
    have hplain := hs.entity? hother
    rw [hother] at h
    obtain ⟨home, hhome, h⟩ := bind_eq_ok.1 h
    split at h
    · cases h
      exact hdictionary
    · cases h
      exact List.forall_mem_append.2 ⟨hdictionary, List.forall_mem_singleton.2
        ((Session.isPlain_packageFor hs.config hplain hhome).qualify
          (Session.isPlain_modelName hs.config hplain))⟩

theorem isPlain_imports (hs : s.HasPlainNames) (h : imports s e package = .ok is) :
    ∀ q ∈ is, IsPlain q := by
  obtain ⟨named, hnamed, h⟩ := bind_eq_ok.1 h
  cases h
  intro q hq
  rcases SortedMap.mem_foldl_insertSorted.1 hq with hq | hq
  · cases hq
  · rcases List.mem_append.1 hq with hq | hq
    · rcases List.mem_pair.1 hq with rfl | rfl
      · exact .ofList (by decide)
      · exact .ofList (by decide)
    · obtain ⟨own, hown, hq⟩ := List.mem_flatten.1 hq
      obtain ⟨p, -, hp⟩ := mem_of_mapM_eq_ok hnamed hown
      exact isPlain_propertyImports hs hp q hq

/-- A model of an entity without brackets is balanced. -/
theorem isBalanced_source (hs : s.IsBalanced) (he : e.IsPlain) {ps : List Property}
    (hps : s.describe e = .ok ps) {c : GeneratedClass}
    (h : Draft.ofTarget s ps e .clientModel = .ok c) : IsBalanced c.source := by
  obtain ⟨m, hm, rfl⟩ := Draft.ofTarget_model_eq_ok_iff.1 h
  obtain ⟨package, hpackage, hm⟩ := bind_eq_ok.1 hm
  obtain ⟨imports, himports, hm⟩ := bind_eq_ok.1 hm
  cases hm
  have hname := Session.isPlain_className hs.config he .clientModel
  have hargs : ∀ a ∈ [s.className e .clientModel, e.name], IsPlain a :=
    List.forall_mem_cons.2 ⟨hname, List.forall_mem_singleton.2 he.descriptor.name⟩
  have hdoc := hs.classDoc hargs "as3_model" AccessStyle.as3.classLevel
  have hmembers := isBalanced_membersSource hs.toHasPlainNames (Session.isPlain_of_describe he hps)
  exact isBalanced_iff.2 fun k => AccessStyle.as3.excess_class hs.config
    (Session.isPlain_packageFor hs.config he hpackage) hname
    (isPlain_imports hs.toHasPlainNames himports) (by decide) (List.forall_mem_nil _)
    (hdoc.excess k) (hmembers.excess k)

end ClientModel

/-! ## Classes of all targets -/

/-- The class of an entity without brackets is balanced, for every target. -/
theorem Draft.isBalanced_of_ofTarget {s : Session} (hc : s.catalog.NamesMethods)
    (hs : s.IsBalanced) {e : Entity} (he : e.IsPlain) {ps : List Property}
    (hps : s.describe e = .ok ps) {t : Target} {c : GeneratedClass}
    (h : ofTarget s ps e t = .ok c) : IsBalanced c.source := by
  cases t with
  | clientModel => exact ClientModel.isBalanced_source hs he hps h
  | clientBuilder =>
    obtain ⟨f, hf⟩ := (ofTarget_clientBuilder_iff hps).1 h
    exact Client.isBalanced_source hc hs he hf
  | serverBuilder =>
    obtain ⟨f, hf⟩ := (ofTarget_serverBuilder_iff hps).1 h
    exact Server.isBalanced_source hc hs he hf

namespace Generator

variable {config : Config} {user : Option Catalog.Bundle} {g : Generator}

/-- Where nothing that is supplied has brackets, every class of a generator has balanced ones,
whatever the style of its braces, and also if the run fails behind it. An entity is supplied as it
is, or as a descriptor, in which types may be written in any way. Templates of the user may have
brackets of their own, as placeholders do, if these are balanced. -/
theorem Reachable.isBalanced_of_mem_produce (h : Reachable config user g) (hconfig : config.IsPlain)
    (huser : ∀ b, user = some b → b.IsBalanced)
    (hentities : ∀ e ∈ g.session.entities.values,
      e.IsPlain ∨ ∃ d : EntityDescriptor, d.IsPlain ∧ Entity.ofDescriptor d = .ok e) :
    ∀ c ∈ g.produce.classes, IsBalanced c.source := by
  have hplain : ∀ e ∈ g.session.entities.values, e.IsPlain := fun e he =>
    (hentities e he).elim id fun ⟨_, hd, hread⟩ => Entity.isPlain_ofDescriptor hd hread
  have hsession : g.session.IsBalanced := by
    refine ⟨⟨h.wellKept.configured ▸ hconfig, hplain⟩, ?_⟩
    rw [h.wellKept.worded]
    exact Catalog.isBalanced_load config.locale huser
  intro c hc
  obtain ⟨e, he, ps, hps, t, -, hclass⟩ := exists_entity_of_mem_produce h.wellKept.clean hc
  exact Draft.isBalanced_of_ofTarget h.namesMethods hsession (hplain e he) hps hclass

/-! ## Albums -/

/-- Braces on lines of their own, and tabs. -/
def spread : Config := { Config.standard with braceOnNewLine := true, indentation := "\t" }

/-- Templates with placeholders. -/
def wording : Catalog.Bundle :=
  ⟨[("as3_model", "Model of \x7b1\x7d.")], [(Client.getXml, ⟨some "write", none⟩)]⟩

def albumProperty (name type : String) (default : Option String) : PropertyDescriptor :=
  ⟨name, type, true, none, none, none, none, none, none, none, default⟩

/-- A descriptor of albums, with an array, a default value and an event. -/
def albumDescriptor : EntityDescriptor :=
  ⟨"shop.Album", none, false, some "changed", none,
    [albumProperty "tracks" "String[]" none, albumProperty "label" "String" (some "none")]⟩

def album : Entity :=
  let property (name type : String) (default : Option String) (t : JavaType) : BeanProperty :=
    ⟨name, t, accessorName "get" name, some (accessorName "set" name),
      albumProperty name type default⟩
  ⟨albumDescriptor, [property "tracks" "String[]" none (.array (.reference "java.lang.String")),
    property "label" "String" (some "none") (.reference "java.lang.String")]⟩

theorem ofDescriptor_album : Entity.ofDescriptor albumDescriptor = .ok album := by decide +kernel

/-- A generator with albums alone, as they are described. -/
def ofAlbums : Generator :=
  (new spread (some wording)).withAllHandlers.register (.descriptors [albumDescriptor])

theorem ofAlbums_eq : ofAlbums = (new spread (some wording)).withAllHandlers.add album := by
  show ((new spread (some wording)).withAllHandlers.addDescriptors [albumDescriptor]).2 = _
  unfold addDescriptors
  rw [ofDescriptor_album]
  rfl

theorem reachable_ofAlbums : Reachable spread (some wording) ofAlbums :=
  (reachable_withAllHandlers _ _).register (.descriptors [albumDescriptor])

theorem values_ofAlbums : ofAlbums.session.entities.values = [album] := by
  rw [ofAlbums_eq]
  rfl

def albumProperties : List Property :=
  let property (name : String) (t : JavaType) (category : Category) (default : Option String) :
      Property :=
    ⟨name, t, accessorName "get" name, some (accessorName "set" name), category,
      ⟨.element, name⟩, none, none, some "changed", default, false⟩
  [property "tracks" (.array (.reference "java.lang.String"))
      (.array (.reference "java.lang.String")) none,
    property "label" (.reference "java.lang.String") .basic (some "none")]

theorem generable_of_mem_ofAlbums :
    ∀ e ∈ ofAlbums.session.entities.values, ofAlbums.session.Generable e := by
  have hdescribe : ofAlbums.session.describe album = .ok albumProperties := by
    rw [ofAlbums_eq]
    rfl
  have hplaced (t : Target) : ofAlbums.session.packageFor album t = .ok "shop" := by
    rw [ofAlbums_eq]
    cases t <;> decide +kernel
  refine Session.generable_of_mem_values values_ofAlbums ?_
  refine Session.generable_of_placed (fun t => ⟨_, hplaced t⟩) rfl hdescribe fun p hp => ?_
  rcases List.mem_pair.1 hp with rfl | rfl
  · exact ⟨rfl, fun _ _ _ h => nomatch h⟩
  · exact ⟨rfl, fun _ _ _ h => nomatch h⟩

/-- Albums have a class for each target, and every class is balanced. -/
theorem isBalanced_of_album :
    (∀ t, ∃ c, ((album, t), c) ∈ ofAlbums.outputs.zip ofAlbums.produce.classes) ∧
      ∀ c ∈ ofAlbums.produce.classes, IsBalanced c.source := by
  have hmem : album ∈ ofAlbums.session.entities.values := by
    rw [values_ofAlbums]
    exact List.mem_singleton.2 rfl
  have htargets : ofAlbums.targets = Target.all := by
    rw [ofAlbums_eq]
    rfl
  have hconfig : spread.IsPlain :=
    ⟨by decide, by decide, by decide, by decide, fun t => by cases t <;> decide⟩
  have huser : ∀ b, some wording = some b → b.IsBalanced := by
    rintro b ⟨⟩
    refine ⟨List.forall_mem_singleton.2 (isBalanced_iff.2 fun k => by cases k <;> rfl),
      List.forall_mem_singleton.2 ⟨(by decide : IsPlain "write").isBalanced, .empty⟩⟩
  have hproperty : ∀ p ∈ albumDescriptor.properties, p.IsPlain :=
    List.forall_mem_cons.2 ⟨⟨by decide, by decide, by decide, by decide⟩,
      List.forall_mem_singleton.2 ⟨by decide, by decide, by decide, by decide⟩⟩
  have halbum : albumDescriptor.IsPlain :=
    ⟨by decide, by decide, by decide, fun _ h => (nomatch h), hproperty⟩
  refine ⟨reachable_ofAlbums.exists_mem_zip htargets generable_of_mem_ofAlbums hmem,
    reachable_ofAlbums.isBalanced_of_mem_produce hconfig huser fun e he => ?_⟩
  rw [values_ofAlbums, List.mem_singleton] at he
  exact .inr ⟨albumDescriptor, halbum, he ▸ ofDescriptor_album⟩

end Generator

end XmlBinding
