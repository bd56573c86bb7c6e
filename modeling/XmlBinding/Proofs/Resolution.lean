import XmlBinding.Proofs.Client.Reference
import XmlBinding.Proofs.Generator.Outputs
import XmlBinding.Proofs.Pass
import XmlBinding.Proofs.Server.Reference

/-!
# What the names in a builder stand for

* `Generator.Reachable.refers_of_mem_zip` : each name by which the code of a builder calls a class
  stands for that class exactly where it is clear among all that the builder refers to.
-/

namespace XmlBinding.Generator

variable {config : Config} {user : Option Catalog.Bundle} {g : Generator}

/-- The class of a builder imports what its references need. A name in its code stands for the class
it is meant for exactly where no other class of the name is imported and the class itself is
imported, in the package of the builder, or seen without an import. This is so for all visible
classes where distinct ones have distinct simple names. -/
theorem Reachable.refers_of_mem_zip (h : Reachable config user g) {e : Entity} {t : Target}
    {c : GeneratedClass} (hc : ((e, t), c) ∈ g.outputs.zip g.produce.classes) :
    (t = .serverBuilder → ∃ ps f imports,
      Builder.Builds Handler.serverDialect g.session e ps f c ∧
      Refers .dom4j g.session.config ⟨f.package, f.className, imports, "java.lang"⟩
        (Server.mentioned g.session f) (Server.passing g.session f) c.source) ∧
    (t = .clientBuilder → ∃ ps f imports,
      Builder.Builds Handler.clientDialect g.session e ps f c ∧
      Refers .as3 g.session.config ⟨f.package, f.className, imports, ""⟩
        (Client.mentioned g.session f) (Client.passing g.session f) c.source) := by
  obtain ⟨ps, hps, hclass⟩ := isClassOf_of_mem_zip h.wellKept.clean hc
  constructor
  · intro ht
    subst ht
    obtain ⟨f, hf⟩ := (Draft.ofTarget_serverBuilder_iff hps).1 hclass
    obtain ⟨imports, hrefers⟩ := Server.refers_of_builds h.namesMethods hf
    exact ⟨ps, f, imports, hf, hrefers⟩
  · intro ht
    subst ht
    obtain ⟨f, hf⟩ := (Draft.ofTarget_clientBuilder_iff hps).1 hclass
    obtain ⟨imports, hrefers⟩ := Client.refers_of_builds h.namesMethods hf
    exact ⟨ps, f, imports, hf, hrefers⟩

/-! ## Carts and orders -/

def item (package : String) : Entity := ⟨⟨package ++ ".Item", none, false, none, none, []⟩, []⟩

def itemProperty (name package : String) : Property :=
  ⟨name, .reference (package ++ ".Item"), accessorName "get" name, some (accessorName "set" name),
    .entity, ⟨.element, name⟩, none, none, none, none, false⟩

def ofItems (name : String) (items : List Property) : Entity :=
  ⟨⟨name, none, false, none, none, []⟩, items.map fun p =>
    ⟨p.name, p.type, p.getter, p.setter,
      ⟨p.name, p.type.qualifiedName, true, none, none, none, none, none, none, none, none⟩⟩⟩

/-- A cart holds an item. -/
def cart : Entity := ofItems "shop.Cart" [itemProperty "item" "a"]

/-- An order holds items of two packages. -/
def order : Entity := ofItems "shop.Order" [itemProperty "first" "a", itemProperty "second" "b"]

/-- A generator with a cart, an order and the items in them. -/
def ofShop : Generator :=
  ((((new .standard none).withAllHandlers.add (item "a")).add (item "b")).add cart).add order

theorem reachable_ofShop : Reachable .standard none ofShop :=
  ((((reachable_withAllHandlers _ _).register (.entity (item "a"))).register
    (.entity (item "b"))).register (.entity cart)).register (.entity order)

theorem describe_item (package : String) : ofShop.session.describe (item package) = .ok [] := rfl

theorem describe_cart : ofShop.session.describe cart = .ok [itemProperty "item" "a"] := rfl

theorem describe_order : ofShop.session.describe order =
    .ok [itemProperty "first" "a", itemProperty "second" "b"] := rfl

theorem values_ofShop : ofShop.session.entities.values = [item "a", item "b", cart, order] := rfl

theorem home_ofShop {e : Entity} (he : e.descriptor.packages = none) (t : Target) :
    ofShop.session.home e t = e.package := by
  unfold Session.home
  rw [Session.packageFor_standard rfl he]
  rfl

def itemBuilder (package : String) : Reference :=
  ⟨"ItemBuilder", qualify package "ItemBuilder", true⟩

/-- The builder of an item is called by the same name in every package. -/
theorem references_item (target : Target) (ht : target ≠ .clientModel) {package : String}
    (hp : package = "a" ∨ package = "b") :
    ofShop.session.references target (.reference (package ++ ".Item")) =
      [itemBuilder package] := by
  have hfind : ofShop.session.entity? (.reference (package ++ ".Item")) = some (item package) := by
    rcases hp with rfl | rfl <;> rfl
  have hpackage : (item package).package = package := by
    rcases hp with rfl | rfl <;> decide
  have hname : ofShop.session.className (item package) target = "ItemBuilder" := by
    rcases hp with rfl | rfl <;> cases target <;> first | rfl | exact absurd rfl ht
  unfold Session.references
  rw [hfind]
  dsimp only
  rw [home_ofShop rfl, hpackage, hname]
  rfl

theorem exists_mem_zip_ofShop {e : Entity} (he : e ∈ ofShop.session.entities.values) (t : Target) :
    ∃ c, ((e, t), c) ∈ ofShop.outputs.zip ofShop.produce.classes := by
  have hall : ∀ e ∈ ofShop.session.entities.values, ofShop.session.Generable e := by
    have hplain (ps : List Property)
        (hps : ∀ p ∈ ps, ∃ name package, p = itemProperty name package) :
        ∀ p ∈ ps, p.node.isAttribute = false ∧
          ∀ key entry implementation, p.category ≠ .map key entry implementation := by
      intro p hp
      obtain ⟨name, package, rfl⟩ := hps p hp
      exact ⟨rfl, fun _ _ _ h => nomatch h⟩
    intro e he
    rw [values_ofShop] at he
    simp only [List.mem_cons, List.not_mem_nil, or_false] at he
    rcases he with rfl | rfl | rfl | rfl
    · exact Session.generable_of_standard rfl rfl rfl (describe_item "a") (hplain _ (by simp))
    · exact Session.generable_of_standard rfl rfl rfl (describe_item "b") (hplain _ (by simp))
    · exact Session.generable_of_standard rfl rfl rfl describe_cart (hplain _ (by simp))
    · exact Session.generable_of_standard rfl rfl rfl describe_order (hplain _ (by simp))
  exact reachable_ofShop.exists_mem_zip rfl hall he t

def shopClasses : List String :=
  ["shop.Cart", "shop.CartBuilder", "shop.Order", "shop.OrderBuilder"]

/-- What the server builder of a cart refers to. -/
theorem mentioned_server_cart {ps : List Property} {f : ClassFrame} {c : GeneratedClass}
    (hf : Builder.Builds Handler.serverDialect ofShop.session cart ps f c) :
    f.package = "shop" ∧ Server.passing ofShop.session f = [] ∧
    Server.mentioned ofShop.session f =
      [⟨"CartBuilder", "shop.CartBuilder", false⟩, Server.lang "String", Server.lang "Object",
        .library "org.dom4j.Element", .library Server.documentHelper,
        .library "java.util.Collection", .library "java.util.Map", .library "shop.Cart",
        itemBuilder "a", itemBuilder "a"] := by
  cases describe_cart.symm.trans hf.described
  obtain ⟨hentity, hpackage, hclass⟩ := hf.placed
  obtain ⟨-, package, className, node, rfl⟩ := hf.frame_eq
  cases (Session.packageFor_standard rfl rfl _).symm.trans hpackage
  cases hclass
  have hitem : ofShop.session.references .serverBuilder (.reference "a.Item") = [itemBuilder "a"] :=
    references_item .serverBuilder (by decide) (.inl rfl)
  refine ⟨rfl, rfl, ?_⟩
  unfold Server.mentioned ClassFrame.mentioned
  show _ ++ ((ofShop.session.references .serverBuilder (.reference "a.Item") ++ []) ++
    ((ofShop.session.references .serverBuilder (.reference "a.Item") ++ []) ++ [])) = _
  rw [hitem]
  rfl

/-- What the client builder of a cart refers to. -/
theorem mentioned_client_cart {ps : List Property} {f : ClassFrame} {c : GeneratedClass}
    (hf : Builder.Builds Handler.clientDialect ofShop.session cart ps f c) :
    f.package = "shop" ∧ Client.passing ofShop.session f = [] ∧
    Client.mentioned ofShop.session f =
      [⟨"CartBuilder", "shop.CartBuilder", false⟩, Client.top "XML", Client.top "String",
        Client.top "Array", .library "flash.utils.Dictionary", .library "shop.Cart",
        itemBuilder "a", itemBuilder "a"] := by
  cases describe_cart.symm.trans hf.described
  obtain ⟨hentity, hpackage, hclass⟩ := hf.placed
  obtain ⟨-, package, className, node, rfl⟩ := hf.frame_eq
  cases (Session.packageFor_standard rfl rfl _).symm.trans hpackage
  cases hclass
  have hitem : ofShop.session.references .clientBuilder (.reference "a.Item") = [itemBuilder "a"] :=
    references_item .clientBuilder (by decide) (.inl rfl)
  have hmodel : ofShop.session.references .clientModel (.reference "shop.Cart") =
      [.library "shop.Cart"] := by
    have hfind : ofShop.session.entity? (.reference "shop.Cart") = some cart := rfl
    unfold Session.references
    rw [hfind]
    dsimp only
    rw [home_ofShop rfl]
    rfl
  refine ⟨rfl, rfl, ?_⟩
  unfold Client.mentioned ClassFrame.mentioned Client.standing
  show _ :: _ :: _ :: _ :: _ :: ofShop.session.references .clientModel (.reference "shop.Cart") ++
    ((ofShop.session.references .clientBuilder (.reference "a.Item") ++ []) ++
      ((ofShop.session.references .clientBuilder (.reference "a.Item") ++ []) ++ [])) = _
  rw [hitem, hmodel]
  rfl

/-- All names in the builders of a cart stand for their classes. -/
theorem names_in_cart_resolve :
    (∃ f imports c, ((cart, .serverBuilder), c) ∈ ofShop.outputs.zip ofShop.produce.classes ∧
      ∀ r ∈ Server.mentioned ofShop.session f,
        (Header.mk f.package f.className imports "java.lang").Resolves (· ∈ shopClasses) r.name
          r.qualified) ∧
    ∃ f imports c, ((cart, .clientBuilder), c) ∈ ofShop.outputs.zip ofShop.produce.classes ∧
      ∀ r ∈ Client.mentioned ofShop.session f,
        (Header.mk f.package f.className imports "").Resolves (· ∈ shopClasses) r.name
          r.qualified := by
  have hcart : cart ∈ ofShop.session.entities.values := by decide
  constructor
  · obtain ⟨c, hc⟩ := exists_mem_zip_ofShop hcart .serverBuilder
    obtain ⟨ps, f, imports, hf, hrefers⟩ := (reachable_ofShop.refers_of_mem_zip hc).1 rfl
    obtain ⟨hpackage, hpassing, hmentioned⟩ := mentioned_server_cart hf
    refine ⟨f, imports, c, hc, fun r hr => ?_⟩
    refine hrefers.uncaptured ?_ (· ∈ shopClasses) ?_ r hr ⟨?_, ?_⟩
    · rw [hmentioned, hpassing]
      unfold Reference.Apart
      decide
    · dsimp only
      rw [hmentioned, hpackage]
      decide
    · revert r
      rw [hmentioned]
      decide
    · revert r
      unfold Reference.Imported
      dsimp only
      rw [hmentioned, hpackage]
      decide
  · obtain ⟨c, hc⟩ := exists_mem_zip_ofShop hcart .clientBuilder
    obtain ⟨ps, f, imports, hf, hrefers⟩ := (reachable_ofShop.refers_of_mem_zip hc).2 rfl
    obtain ⟨hpackage, hpassing, hmentioned⟩ := mentioned_client_cart hf
    refine ⟨f, imports, c, hc, fun r hr => ?_⟩
    refine hrefers.uncaptured ?_ (· ∈ shopClasses) ?_ r hr ⟨?_, ?_⟩
    · rw [hmentioned, hpassing]
      unfold Reference.Apart
      decide
    · dsimp only
      rw [hmentioned, hpackage]
      decide
    · revert r
      rw [hmentioned]
      decide
    · revert r
      unfold Reference.Imported
      dsimp only
      rw [hmentioned, hpackage]
      decide

theorem mem_mentioned_of_item {f : ClassFrame} {name package : String}
    (hf : itemProperty name package ∈ f.elements) (hp : package = "a" ∨ package = "b") :
    itemBuilder package ∈ Server.mentioned ofShop.session f := by
  refine List.mem_append_right _ (List.mem_append_right _ (List.mem_append_left _
    (List.mem_flatMap.2 ⟨_, List.mem_filter.2 ⟨hf, rfl⟩, ?_⟩)))
  show itemBuilder package ∈
    ofShop.session.references .serverBuilder (.reference (package ++ ".Item"))
  rw [references_item .serverBuilder (by decide) hp]
  exact List.mem_singleton.2 rfl

/-- Distinct classes can have one name in a builder, which then stands for none: the builder of an
order calls the builders of both items by their simple name. -/
theorem items_of_order_captured :
    ∃ f imports c, ((order, .serverBuilder), c) ∈ ofShop.outputs.zip ofShop.produce.classes ∧
      Refers .dom4j ofShop.session.config ⟨f.package, f.className, imports, "java.lang"⟩
        (Server.mentioned ofShop.session f) (Server.passing ofShop.session f) c.source ∧
      ∃ r ∈ Server.mentioned ofShop.session f, ∃ r' ∈ Server.mentioned ofShop.session f,
        r.qualified ≠ r'.qualified ∧ simpleName r.qualified = simpleName r'.qualified ∧
        r.name = r'.name ∧ ∀ known q,
          ¬(Header.mk f.package f.className imports "java.lang").Resolves known r.name q := by
  have horder : order ∈ ofShop.session.entities.values := by decide
  obtain ⟨c, hc⟩ := exists_mem_zip_ofShop horder .serverBuilder
  obtain ⟨ps, hps, hclass⟩ := isClassOf_of_mem_zip reachable_ofShop.wellKept.clean hc
  obtain ⟨f, hf⟩ := (Draft.ofTarget_serverBuilder_iff hps).1 hclass
  obtain ⟨imports, hrefers⟩ := Server.refers_of_builds reachable_ofShop.namesMethods hf
  cases describe_order.symm.trans hps
  have helements : f.elements = [itemProperty "first" "a", itemProperty "second" "b"] :=
    hf.elements_eq
  have hpackage : f.package = "shop" :=
    Except.ok.inj (hf.placed.2.1.symm.trans (Session.packageFor_standard rfl rfl _))
  have hfirst : itemBuilder "a" ∈ Server.mentioned ofShop.session f :=
    mem_mentioned_of_item (helements ▸ List.mem_cons_self) (.inl rfl)
  have hsecond : itemBuilder "b" ∈ Server.mentioned ofShop.session f :=
    mem_mentioned_of_item (helements ▸ List.mem_cons_of_mem _ List.mem_cons_self) (.inr rfl)
  have himported {package : String} (hp : package = "a" ∨ package = "b")
      (hm : itemBuilder package ∈ Server.mentioned ofShop.session f) :
      (itemBuilder package).qualified ∈ imports := by
    refine (hrefers.imports _).2 ⟨_, List.mem_append_left _ hm, ?_, rfl⟩
    show Reference.Imported _ f.package
    rw [hpackage]
    rcases hp with rfl | rfl
    · unfold Reference.Imported
      decide
    · unfold Reference.Imported
      decide
  refine ⟨f, imports, c, hc, hrefers, _, hfirst, _, hsecond, by decide, by decide, rfl,
    fun known q => ?_⟩
  exact Header.not_resolves (himported (.inl rfl) hfirst) (himported (.inr rfl) hsecond)
    (by decide) (by decide) (by decide)

end XmlBinding.Generator
