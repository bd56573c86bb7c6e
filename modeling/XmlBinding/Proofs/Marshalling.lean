import XmlBinding.Proofs.Client.Pass
import XmlBinding.Proofs.Generator.Outputs
import XmlBinding.Proofs.Server.Pass

/-!
# Marshalling of the properties of an entity

* `Generator.Reachable.passes_of_mem_zip` : each pass of a builder handles the properties that it
  should, in the order in which the entity has them.
-/

namespace XmlBinding.Generator

variable {config : Config} {user : Option Catalog.Bundle} {g : Generator}

/-- The properties of an entity are resolved one by one. Both passes of either builder hold the code
of those they handle and nothing else: one text for each, first of those bound to attributes and
then of the others, in the order of the entity. -/
theorem Reachable.passes_of_mem_zip (h : Reachable config user g) {e : Entity} {t : Target}
    {c : GeneratedClass} (hc : ((e, t), c) ∈ g.outputs.zip g.produce.classes) :
    ∃ ps, List.Forall₂ (fun b p => g.session.describeProperty e b = .ok p)
        (e.properties.filter fun b => b.descriptor.transience ≠ some .everywhere) ps ∧
      (t = .serverBuilder → ∃ f, Builder.Builds Handler.serverDialect g.session e ps f c ∧
        Server.HasPasses (Server.scopeOf g.session f) ps c.source) ∧
      (t = .clientBuilder → ∃ f, Builder.Builds Handler.clientDialect g.session e ps f c ∧
        Client.HasPasses (Client.scopeOf g.session f) ps c.source) := by
  obtain ⟨ps, hps, hclass⟩ := isClassOf_of_mem_zip h.wellKept.clean hc
  refine ⟨ps, forall₂_of_mapM_eq_ok hps, fun ht => ?_, fun ht => ?_⟩
  · subst ht
    obtain ⟨f, hf⟩ := (Draft.ofTarget_serverBuilder_iff hps).1 hclass
    exact ⟨f, hf, Server.hasPasses_of_builds hf h.namesMethods⟩
  · subst ht
    obtain ⟨f, hf⟩ := (Draft.ofTarget_clientBuilder_iff hps).1 hclass
    exact ⟨f, hf, Client.hasPasses_of_builds hf h.namesMethods⟩

/-- A code in an attribute, a stock that the client does not read, and a total without a setter. -/
theorem passes_of_item :
    let property (name getter : String) (setter node : Option String) (lazy : Option LazyMarker) :
        BeanProperty :=
      ⟨name, .primitive .int, getter, setter,
        ⟨name, "int", setter.isSome, node, lazy, none, none, none, none, none, none⟩⟩
    let resolved (name getter : String) (setter : Option String) (node : NodeBinding)
        (lazy : Option LazyMarker) : Property :=
      ⟨name, .primitive .int, getter, setter, .basic, node, none, lazy, none, none, false⟩
    let unread : LazyMarker := ⟨false, false, true, false⟩
    let item : Entity := ⟨⟨"shop.Item", none, false, none, none, []⟩,
      [property "stock" "getStock" (some "setStock") none (some unread),
       property "total" "getTotal" none none none,
       property "code" "getCode" (some "setCode") (some "@code") none]⟩
    let stock := resolved "stock" "getStock" (some "setStock") ⟨.element, "stock"⟩ (some unread)
    let total := resolved "total" "getTotal" none ⟨.element, "total"⟩ none
    let code := resolved "code" "getCode" (some "setCode") ⟨.attribute, "code"⟩ none
    let ps := [stock, total, code]
    let g := (new .standard none).withAllHandlers.add item
    Reachable .standard none g ∧
    (∃ f c, ((item, .serverBuilder), c) ∈ g.outputs.zip g.produce.classes ∧
      Server.HasPasses (Server.scopeOf g.session f) ps c.source) ∧
    (∃ f c, ((item, .clientBuilder), c) ∈ g.outputs.zip g.produce.classes ∧
      Client.HasPasses (Client.scopeOf g.session f) ps c.source) ∧
    Property.handled .serverRead ps = [code, stock] ∧
    Property.handled .serverWrite ps = [code, stock, total] ∧
    Property.handled .clientRead ps = [code] ∧
    Property.handled .clientWrite ps = [code, stock, total] := by
  intro property resolved unread item stock total code ps g
  have hg : Reachable .standard none g :=
    (((Reachable.new.addHandler .clientModel).addHandler .clientBuilder).addHandler
      .serverBuilder).register (.entity item)
  have hps : g.session.describe item = .ok ps := rfl
  have hvalues : g.session.entities.values = [item] := rfl
  have hbasic : ∀ p ∈ ps, p.category = .basic := by decide
  have hitem : g.session.Generable item := by
    refine ⟨⟨ps, hps⟩, fun t => ⟨_, Session.packageFor_standard rfl rfl t⟩,
      fun _ h => (nomatch h), fun ps' hps' p hp _ _ => ?_, fun ps' hps' p hp _ _ _ _ hm => ?_⟩
    · cases hps.symm.trans hps'
      exact hbasic p hp
    · cases hps.symm.trans hps'
      cases (hbasic p hp).symm.trans hm
  have hclass (t : Target) : ∃ c, ((item, t), c) ∈ g.outputs.zip g.produce.classes := by
    refine hg.exists_mem_zip rfl (fun e he => ?_) ?_ t
    · rw [hvalues, List.mem_singleton] at he
      rw [he]
      exact hitem
    · exact List.mem_singleton.2 rfl
  obtain ⟨server, hserver⟩ := hclass .serverBuilder
  obtain ⟨client, hclient⟩ := hclass .clientBuilder
  refine ⟨hg, ?_, ?_, by decide, by decide, by decide, by decide⟩
  · obtain ⟨ps', hps', hpasses, -⟩ := hg.passes_of_mem_zip hserver
    obtain ⟨f, hf, hpasses⟩ := hpasses rfl
    cases hps.symm.trans hf.described
    exact ⟨f, server, hserver, hpasses⟩
  · obtain ⟨ps', hps', -, hpasses⟩ := hg.passes_of_mem_zip hclient
    obtain ⟨f, hf, hpasses⟩ := hpasses rfl
    cases hps.symm.trans hf.described
    exact ⟨f, client, hclient, hpasses⟩

end XmlBinding.Generator
