import XmlBinding.Proofs.Client.Call
import XmlBinding.Proofs.Emission.Closure
import XmlBinding.Proofs.Generator.Files
import XmlBinding.Proofs.Pass
import XmlBinding.Proofs.Server.Call

/-!
# Calls reach methods

* `IsBody s e t code c` : the code that stands as the body of a builder;
  `Draft.IsClassOf.exists_body`;
* `IsBody.resolves` : a class defines the methods that it calls;
* `IsBody.defines_standing` : every builder has the methods that others call;
* `Generator.Reachable.calls_resolve` : where a run succeeds, each call of a builder reaches a
  method of the same class or of the builder it is made on.
-/

namespace XmlBinding

/-! ## Bodies of builders -/

/-- A class is a builder of an entity with a code as its body. The code is that of the builder's
frame, with the helpers for what is asked for. -/
inductive IsBody (s : Session) (e : Entity) : Target → Code → GeneratedClass → Prop
  | server {ps : List Property} {f : ClassFrame} {c : GeneratedClass} {jobs : List ServerHelper}
      (built : Builder.Builds Handler.serverDialect s e ps f c)
      (closed : IsClosure Server.identity (Server.requests s f) (fun _ => []) jobs)
      (stands : (Server.code (Server.scopeOf s f) jobs).Stands (Server.scopeOf s f) .dom4j c) :
      IsBody s e .serverBuilder (Server.code (Server.scopeOf s f) jobs) c
  | client {ps : List Property} {f : ClassFrame} {c : GeneratedClass} {jobs : List ClientHelper}
      (built : Builder.Builds Handler.clientDialect s e ps f c)
      (closed : IsClosure Client.identity (Client.requests s f) (Client.helperRequests s) jobs)
      (stands : (Client.code (Client.scopeOf s f) jobs).Stands (Client.scopeOf s f) .as3 c) :
      IsBody s e .clientBuilder (Client.code (Client.scopeOf s f) jobs) c

section Built
variable {s : Session} {e : Entity} {ps : List Property} {f : ClassFrame} {c : GeneratedClass}

/-- A property of a frame that counts as an entity is of a registered type. -/
theorem Builder.Builds.isEntity {J : Type} {d : Dialect J} (h : Builds d s e ps f c) {p : Property}
    (hp : p ∈ f.attributes ++ f.elements) (hcategory : p.category = .entity) :
    s.isEntity p.type = true :=
  Session.isEntity_of_mem_describe h.described (h.mem_of_mem_frame hp) hcategory

theorem Server.hasMethods_of_builds (h : Builder.Builds Handler.serverDialect s e ps f c)
    (jobs : List ServerHelper) :
    Code.HasMethods s ((requests s f).map reference ++ standingMethods) standingMethods
      (standingDefinitions (scopeOf s f) ++ jobs.map definition) (code (scopeOf s f) jobs) :=
  have hentity : ∀ p ∈ (scopeOf s f).frame.attributes ++ (scopeOf s f).frame.elements,
      p.category = .entity → (scopeOf s f).session.isEntity p.type = true := fun _ => h.isEntity
  hasMethods_code hentity jobs

theorem Client.hasMethods_of_builds (h : Builder.Builds Handler.clientDialect s e ps f c)
    (jobs : List ClientHelper) :
    Code.HasMethods s
      ((requests s f ++ jobs.flatMap (helperRequests s)).map reference ++ standingMethods)
      standingMethods (standingDefinitions (scopeOf s f) ++ jobs.map definition)
      (code (scopeOf s f) jobs) :=
  have hentity : ∀ p ∈ (scopeOf s f).frame.attributes ++ (scopeOf s f).frame.elements,
      p.category = .entity → (scopeOf s f).session.isEntity p.type = true := fun _ => h.isEntity
  hasMethods_code hentity jobs

theorem Server.exists_body (hc : s.catalog.NamesMethods)
    (h : Builder.Builds Handler.serverDialect s e ps f c) :
    ∃ code, IsBody s e .serverBuilder code c := by
  obtain ⟨head, jobs, hsource, hclosed⟩ := (assembles_of_builds hc h).exists_jobs
    (fun _ => []) (asks_standingAddition _) fun j => asks_jobAddition _ (.inl j)
  refine ⟨_, .server h hclosed ⟨head, ?_⟩⟩
  rw [hsource, code, Code.textIn_append, textIn_standingCode (X := Empty), Code.textIn_flatMap]
  simp only [textIn_helperCode (X := Empty)]
  rfl

theorem Client.exists_body (hc : s.catalog.NamesMethods)
    (h : Builder.Builds Handler.clientDialect s e ps f c) :
    ∃ code, IsBody s e .clientBuilder code c := by
  obtain ⟨head, jobs, hsource, hclosed⟩ := (assembles_of_builds hc h).exists_jobs
    (Client.helperRequests s) (asks_standingAddition _) fun j => asks_helperAddition _ j
  refine ⟨_, .client h hclosed ⟨head, ?_⟩⟩
  rw [hsource, code, Code.textIn_append, textIn_standingCode (X := Empty), Code.textIn_flatMap]
  simp only [textIn_helperCode (X := Empty)]
  rfl

/-- The class of an entity for a builder has a body. -/
theorem Draft.IsClassOf.exists_body {t : Target} (hc : s.catalog.NamesMethods)
    (h : Draft.IsClassOf s e t c) (ht : t ≠ .clientModel) : ∃ code, IsBody s e t code c := by
  obtain ⟨ps, hps, hclass⟩ := h
  cases t with
  | clientModel => exact absurd rfl ht
  | clientBuilder =>
    obtain ⟨f, hf⟩ := (Draft.ofTarget_clientBuilder_iff hps).1 hclass
    exact Client.exists_body hc hf
  | serverBuilder =>
    obtain ⟨f, hf⟩ := (Draft.ofTarget_serverBuilder_iff hps).1 hclass
    exact Server.exists_body hc hf

end Built

/-! ## Methods of a body -/

/-- Where a body has the methods of a closure and calls only what is asked for, each call has its
definition. -/
theorem IsClosure.defines {H : Type} {identity : H → HelperId} {asked jobs : List H}
    {asks : H → List H} (h : IsClosure identity asked asks jobs)
    {definition : H → MethodRef × List Parameter}
    (hid : ∀ i j, identity i = identity j → definition i = definition j)
    {standing : List (MethodRef × List Parameter)} {m : MethodRef}
    (hm : m ∈ (asked ++ jobs.flatMap asks).map (fun j => (definition j).1) ++
      standing.map Prod.fst) :
    ∃ parameters, (m, parameters) ∈ standing ++ jobs.map definition := by
  have hserved {j : H} (hj : ∃ k ∈ jobs, identity k = identity j) :
      ∃ parameters, ((definition j).1, parameters) ∈ standing ++ jobs.map definition := by
    obtain ⟨k, hk, hsame⟩ := hj
    refine ⟨(definition j).2, List.mem_append_right _ (List.mem_map.2 ⟨k, hk, ?_⟩)⟩
    exact hid k j hsame
  rcases List.mem_append.1 hm with hm | hm
  · obtain ⟨j, hj, rfl⟩ := List.mem_map.1 hm
    rcases List.mem_append.1 hj with hj | hj
    · exact hserved (h.asked j hj)
    · obtain ⟨i, hi, hj⟩ := List.mem_flatMap.1 hj
      exact hserved (h.asks i hi j hj)
  · obtain ⟨⟨m, parameters⟩, hmem, rfl⟩ := List.mem_map.1 hm
    exact ⟨parameters, List.mem_append_left _ hmem⟩

def standingMethodsOf : Target → List MethodRef
  | .clientModel => []
  | .clientBuilder => Client.standingMethods
  | .serverBuilder => Server.standingMethods

namespace IsBody

variable {s : Session} {e : Entity} {t : Target} {code : Code} {c : GeneratedClass}

/-- A class defines the methods that it calls as its own. On builders of entities it calls methods
of every builder. -/
theorem resolves (h : IsBody s e t code c) :
    (∀ m ∈ code.calls, ∃ parameters, (m, parameters) ∈ code.definitions) ∧
      ∀ x ∈ code.callsOfBuilders, s.isEntity x.1 = true ∧ x.2 ∈ standingMethodsOf t := by
  cases h with
  | @server ps f c jobs built closed =>
    have hm := Server.hasMethods_of_builds built jobs
    refine ⟨fun m hcall => ?_, hm.callsOfBuilders⟩
    rw [hm.definitions]
    refine closed.defines (fun i j => Server.definition_eq_of_identity_eq) ?_
    have hnone : jobs.flatMap (fun _ => ([] : List ServerHelper)) = [] := by simp
    rw [hnone, List.append_nil]
    exact hm.calls m hcall
  | @client ps f c jobs built closed =>
    have hm := Client.hasMethods_of_builds built jobs
    refine ⟨fun m hcall => ?_, hm.callsOfBuilders⟩
    rw [hm.definitions]
    exact closed.defines (fun i j => Client.definition_eq_of_identity_eq) (hm.calls m hcall)

/-- Every builder has the methods that others call. -/
theorem defines_standing (h : IsBody s e t code c) {m : MethodRef} (hm : m ∈ standingMethodsOf t) :
    ∃ parameters, (m, parameters) ∈ code.definitions := by
  cases h with
  | @server ps f c jobs built closed =>
    rw [(Server.hasMethods_of_builds built jobs).definitions]
    rw [standingMethodsOf, ← Server.map_standingDefinitions (Server.scopeOf s f)] at hm
    obtain ⟨⟨m, parameters⟩, hmem, rfl⟩ := List.mem_map.1 hm
    exact ⟨parameters, List.mem_append_left _ hmem⟩
  | @client ps f c jobs built closed =>
    rw [(Client.hasMethods_of_builds built jobs).definitions]
    rw [standingMethodsOf, ← Client.map_standingDefinitions (Client.scopeOf s f)] at hm
    obtain ⟨⟨m, parameters⟩, hmem, rfl⟩ := List.mem_map.1 hm
    exact ⟨parameters, List.mem_append_left _ hmem⟩

end IsBody

/-! ## Runs -/

namespace Generator

variable {config : Config} {user : Option Catalog.Bundle} {g : Generator}

/-- A run that succeeds has a class in the place of each output. -/
theorem exists_mem_zip_of_mem_outputs (hg : g.Clean) {count : Nat}
    (h : g.produce.outcome = .ok count) {o : Entity × Target} (ho : o ∈ g.outputs) :
    ∃ c, (o, c) ∈ g.outputs.zip g.produce.classes := by
  have hlength := (forall₂_outputs hg h).length_eq
  obtain ⟨i, hi, rfl⟩ := List.mem_iff_getElem.1 ho
  have hi' : i < g.produce.classes.length := hlength ▸ hi
  refine ⟨g.produce.classes[i], List.mem_iff_getElem.2 ⟨i, ?_, List.getElem_zip⟩⟩
  rw [List.length_zip]
  exact Nat.lt_min.2 ⟨hi, hi'⟩

/-- Entities and targets of the outputs go together in every way. -/
theorem mem_outputs_of_mem {e e' : Entity} {t : Target} (ho : (e, t) ∈ g.outputs)
    (he : e' ∈ g.session.entities.values) : (e', t) ∈ g.outputs := by
  unfold outputs Draft.outputs at ho ⊢
  obtain ⟨a, -, ha⟩ := List.mem_flatMap.1 ho
  obtain ⟨t', ht', heq⟩ := List.mem_map.1 ha
  cases heq
  exact List.mem_flatMap.2 ⟨e', he, List.mem_map.2 ⟨t, ht', rfl⟩⟩

/-- No call of a builder dangles in a run that succeeds, whatever the catalog calls the methods.
Each call of a method of the class itself has its definition there. Each call on the builder of a
type has its definition in the class that the same run makes of the type's entity for the same
target, under the name of the builder in the call. -/
theorem Reachable.calls_resolve (h : Reachable config user g) {count : Nat}
    (hok : g.produce.outcome = .ok count) {e : Entity} {t : Target} {c : GeneratedClass}
    (hc : ((e, t), c) ∈ g.outputs.zip g.produce.classes) (ht : t ≠ .clientModel) :
    ∃ code, IsBody g.session e t code c ∧
      (∀ m ∈ code.calls, ∃ parameters, (m, parameters) ∈ code.definitions) ∧
      ∀ type m, (type, m) ∈ code.callsOfBuilders →
        ∃ e' c' code' parameters, g.session.entity? type = some e' ∧
          ((e', t), c') ∈ g.outputs.zip g.produce.classes ∧
          c'.className = g.session.refName t type ∧ IsBody g.session e' t code' c' ∧
          (m, parameters) ∈ code'.definitions := by
  have hclean := h.wellKept.clean
  obtain ⟨code, hbody⟩ := (isClassOf_of_mem_zip hclean hc).exists_body h.namesMethods ht
  obtain ⟨hown, hothers⟩ := hbody.resolves
  refine ⟨code, hbody, hown, fun type m hcall => ?_⟩
  obtain ⟨hentity, hm⟩ := hothers _ hcall
  obtain ⟨e', he'⟩ := Option.isSome_iff_exists.1 hentity
  have houtput := mem_outputs_of_mem (List.of_mem_zip hc).1 (Session.mem_values_of_entity? he')
  obtain ⟨c', hc'⟩ := exists_mem_zip_of_mem_outputs hclean hok houtput
  have hclass := isClassOf_of_mem_zip hclean hc'
  obtain ⟨code', hbody'⟩ := hclass.exists_body h.namesMethods ht
  obtain ⟨parameters, hdefined⟩ := hbody'.defines_standing hm
  refine ⟨e', c', code', parameters, he', hc', ?_, hbody', hdefined⟩
  rw [hclass.places.className, Session.refName, he']

/-! ## A person with a partner -/

/-- A person has another one as a partner. -/
def partner : Property :=
  ⟨"partner", .reference "shop.Person", accessorName "get" "partner",
    some (accessorName "set" "partner"), .entity, ⟨.element, "partner"⟩, none, none, none, none,
    false⟩

/-- A person with a partner. -/
def person : Entity :=
  ⟨⟨"shop.Person", none, false, none, none, []⟩,
    [⟨partner.name, partner.type, partner.getter, partner.setter,
      ⟨partner.name, "shop.Person", true, none, none, none, none, none, none, none, none⟩⟩]⟩

def ofPersons : Generator := (new .standard none).withAllHandlers.add person

theorem reachable_ofPersons : Reachable .standard none ofPersons :=
  (reachable_withAllHandlers _ _).register (.entity person)

theorem describe_person : ofPersons.session.describe person = .ok [partner] := rfl

theorem generable_of_mem_ofPersons :
    ∀ e ∈ ofPersons.session.entities.values, ofPersons.session.Generable e := by
  refine Session.generable_of_mem_values (e := person) rfl ?_
  refine Session.generable_of_standard rfl rfl rfl describe_person fun p hp => ?_
  rw [List.mem_singleton.1 hp]
  exact ⟨rfl, fun _ _ _ h => nomatch h⟩

/-- The server builder of a person calls itself to read the partner, as the builder of persons. -/
theorem mem_callsOfBuilders_person {code : Code} {c : GeneratedClass}
    (h : IsBody ofPersons.session person .serverBuilder code c) :
    (.reference "shop.Person", ⟨Server.getInstance, []⟩) ∈ code.callsOfBuilders := by
  cases h with
  | @server ps f c jobs built closed =>
    cases describe_person.symm.trans built.described
    have helements : f.elements = [partner] := built.elements_eq
    have hread : .callOf (.reference "shop.Person") "." ⟨Server.getInstance, []⟩ ∈
        Code.ofProperties .serverRead
          (Server.readingCode (Server.scopeOf ofPersons.session f) .dom4j "o") f.elements := by
      rw [helements]
      exact List.mem_cons_of_mem _ List.mem_cons_self
    have hinstance : .callOf (.reference "shop.Person") "." ⟨Server.getInstance, []⟩ ∈
        Server.instanceCode (Server.scopeOf ofPersons.session f) := by
      simp only [Server.instanceCode, Config.methodCode, List.mem_cons, List.mem_append]
      exact .inr (.inr (.inr (.inr (.inl hread))))
    exact List.mem_filterMap.2
      ⟨_, List.mem_append_left _ (List.mem_append_left _ hinstance), rfl⟩

/-- The calls of the server builder of a person reach methods, that on the builder of its partner
among them. -/
theorem calls_resolve_at_person :
    ∃ c code, ((person, .serverBuilder), c) ∈ ofPersons.outputs.zip ofPersons.produce.classes ∧
      IsBody ofPersons.session person .serverBuilder code c ∧
      (.reference "shop.Person", ⟨Server.getInstance, []⟩) ∈ code.callsOfBuilders ∧
      ∃ e' c' code' parameters,
        ofPersons.session.entity? (.reference "shop.Person") = some e' ∧
        ((e', .serverBuilder), c') ∈ ofPersons.outputs.zip ofPersons.produce.classes ∧
        IsBody ofPersons.session e' .serverBuilder code' c' ∧
        (⟨Server.getInstance, []⟩, parameters) ∈ code'.definitions := by
  obtain ⟨count, hcount⟩ := reachable_ofPersons.exists_outcome rfl generable_of_mem_ofPersons
  obtain ⟨c, hc⟩ := reachable_ofPersons.exists_mem_zip rfl generable_of_mem_ofPersons
    (List.mem_singleton.2 rfl) .serverBuilder
  obtain ⟨code, hbody, -, hothers⟩ := reachable_ofPersons.calls_resolve hcount hc (by decide)
  have hcall := mem_callsOfBuilders_person hbody
  obtain ⟨e', c', code', parameters, he', hc', -, hbody', hdefined⟩ := hothers _ _ hcall
  exact ⟨c, code, hc, hbody, hcall, e', c', code', parameters, he', hc', hbody', hdefined⟩

end Generator

end XmlBinding
