import XmlBinding.Proofs.Client.Mention
import XmlBinding.Proofs.Membership
import XmlBinding.Proofs.Resolution
import XmlBinding.Proofs.Server.Mention

/-!
# What builders import

* `Generator.Reachable.covers_of_mem_zip` : the imports of a builder are complete for what its body
  mentions, in ascending order, and none is of a class that is seen without.
-/

namespace XmlBinding

namespace Generator

variable {config : Config} {user : Option Catalog.Bundle} {g : Generator}

/-- Where what goes around the names of entities has no dots, the imports of a builder stand in its
header in ascending order, each once, and none is of a class of its own package or of no package.
Its body mentions no classes but those of its references, in the methods of every builder, in the
code for its properties and in its helpers, and names no other methods than these have. Each of the
classes is imported, unless it is one known of `java.lang`, one of the builder's own package or one
of no package. -/
theorem Reachable.covers_of_mem_zip (h : Reachable config user g)
    (hlead : '.' ∉ (config.classLead.getD "").toList)
    (hsuffix : '.' ∉ (config.classSuffix.getD "").toList)
    (hbuilder : '.' ∉ config.builderSuffix.toList) {e : Entity} {t : Target} {c : GeneratedClass}
    (hc : ((e, t), c) ∈ g.outputs.zip g.produce.classes) :
    (t = .serverBuilder → ∃ ps f imports body,
      Builder.Builds Handler.serverDialect g.session e ps f c ∧
      c = Handler.serverDialect.assemble g.session f imports body ∧
      Covers (Server.vocabulary g.session f) imports body c.source) ∧
    (t = .clientBuilder → ∃ ps f imports body,
      Builder.Builds Handler.clientDialect g.session e ps f c ∧
      c = Handler.clientDialect.assemble g.session f imports body ∧
      Covers (Client.vocabulary g.session f) imports body c.source) := by
  obtain ⟨ps, hps, hclass⟩ := isClassOf_of_mem_zip h.wellKept.clean hc
  have hdot := Session.not_mem_className hlead hsuffix hbuilder h.wellKept.configured
    (not_mem_simpleName e.name)
  constructor
  · intro ht
    subst ht
    obtain ⟨f, hf⟩ := (Draft.ofTarget_serverBuilder_iff hps).1 hclass
    have hname : '.' ∉ f.className.toList := hf.placed.2.2 ▸ hdot .serverBuilder
    obtain ⟨imports, body, hcovers⟩ := Server.covers_of_builds h.namesMethods hname hf
    exact ⟨ps, f, imports, body, hf, hcovers⟩
  · intro ht
    subst ht
    obtain ⟨f, hf⟩ := (Draft.ofTarget_clientBuilder_iff hps).1 hclass
    have hname : '.' ∉ f.className.toList := hf.placed.2.2 ▸ hdot .clientBuilder
    -- A client builder mentions its own model, so that the entity has to be a registered one.
    have he : g.session.isEntity e.type = true := by
      obtain ⟨e', he', ho⟩ := List.mem_flatMap.1 (List.of_mem_zip hc).1
      obtain ⟨t', -, heq⟩ := List.mem_map.1 ho
      cases heq
      unfold Session.isEntity
      rw [h.wellKept.entity?_type he']
      rfl
    obtain ⟨imports, body, hcovers⟩ := Client.covers_of_builds h.namesMethods he hname hf
    exact ⟨ps, f, imports, body, hf, hcovers⟩

/-- Where a builder of the shop mentions that of an item, it imports it. -/
theorem mem_imports_item {v : Vocabulary} {imports : List String} {body source : String}
    (h : Covers v imports body source) (hpackage : v.scope.frame.package = "shop")
    (hitem : itemBuilder "a" ∈ v.classes) :
    "a.ItemBuilder" ∈ imports := by
  have himported := h.imported _ hitem
  rw [hpackage] at himported
  refine himported.resolve_right ?_
  unfold SeenFrom
  decide

/-- The builders of a cart import those of the item in it, but not the cart, which stands in their
own package. -/
theorem cart_imports_item :
    (∃ c f imports body, ((cart, .serverBuilder), c) ∈ ofShop.outputs.zip ofShop.produce.classes ∧
      c = Handler.serverDialect.assemble ofShop.session f imports body ∧
      "a.ItemBuilder" ∈ imports ∧ "shop.Cart" ∉ imports) ∧
    ∃ c f imports body, ((cart, .clientBuilder), c) ∈ ofShop.outputs.zip ofShop.produce.classes ∧
      c = Handler.clientDialect.assemble ofShop.session f imports body ∧
      "a.ItemBuilder" ∈ imports ∧ "shop.Cart" ∉ imports := by
  have hcart : cart ∈ ofShop.session.entities.values := by decide
  have hown : packageOf "shop.Cart" = "shop" := by decide
  constructor
  · obtain ⟨c, hc⟩ := exists_mem_zip_ofShop hcart .serverBuilder
    obtain ⟨ps, f, imports, body, hf, hclass, hcovers⟩ :=
      (reachable_ofShop.covers_of_mem_zip (by decide) (by decide) (by decide) hc).1 rfl
    obtain ⟨hpackage, -, hmentioned⟩ := mentioned_server_cart hf
    refine ⟨c, f, imports, body, hc, hclass, mem_imports_item hcovers hpackage ?_, fun hmem => ?_⟩
    · show itemBuilder "a" ∈ Server.mentioned ofShop.session f
      rw [hmentioned]
      simp only [List.mem_cons, true_or, or_true]
    · exact (hcovers.foreign _ hmem).2 (hown.trans hpackage.symm)
  · obtain ⟨c, hc⟩ := exists_mem_zip_ofShop hcart .clientBuilder
    obtain ⟨ps, f, imports, body, hf, hclass, hcovers⟩ :=
      (reachable_ofShop.covers_of_mem_zip (by decide) (by decide) (by decide) hc).2 rfl
    obtain ⟨hpackage, -, hmentioned⟩ := mentioned_client_cart hf
    refine ⟨c, f, imports, body, hc, hclass, mem_imports_item hcovers hpackage ?_, fun hmem => ?_⟩
    · show itemBuilder "a" ∈ Client.mentioned ofShop.session f
      rw [hmentioned]
      simp only [List.mem_cons, true_or, or_true]
    · exact (hcovers.foreign _ hmem).2 (hown.trans hpackage.symm)

end Generator

end XmlBinding
