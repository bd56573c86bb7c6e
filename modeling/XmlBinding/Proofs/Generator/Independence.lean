import XmlBinding.Proofs.Draft

/-!
# Entities are generated independently

The classes of an entity show of another one its name and its packages, and no more.

* `Session.register_alikeOn` : an entity may be replaced by one of its name and package mark;
* `Handler.start_congr`, `receive_congr`, `finish_congr` : what a handler does with an entity
  depends on what both sides see of the session;
* `Production.ofEntity_of_replaced` : so all handlers do the same with every other entity.
-/

namespace XmlBinding

namespace Session

variable {s s' : Session} {e f f' : Entity}

theorem register_of_not_transient (h : f.descriptor.transient = false) :
    s.register f = { s with entities := s.entities.insert f.name f } := by
  unfold register
  rw [h]
  rfl

/-- What is found after an entity that is not transient is registered. -/
theorem find?_register (h : f.descriptor.transient = false) (name : String) :
    (s.register f).entities.find? name =
      if name = f.name then some f else s.entities.find? name := by
  rw [register_of_not_transient h, SortedMap.find?_insert]
  simp only [Std.LawfulEqOrd.compare_eq_iff_eq]

theorem register_alikeOn (hf : s.entities.find? f.name = some f) (hname : f'.name = f.name)
    (hpackages : f'.descriptor.packages = f.descriptor.packages)
    (ht : f'.descriptor.transient = false) (side : Side) : (s.register f').AlikeOn side s := by
  have hconfig : (s.register f').config = s.config := by rw [register_of_not_transient ht]
  have hcatalog : (s.register f').catalog = s.catalog := by rw [register_of_not_transient ht]
  refine ⟨?_, ?_, fun _ => ?_, hcatalog, fun t => ?_⟩
  · rw [hconfig]
  · rw [hconfig]
  · rw [hconfig]
  · cases t with
    | primitive p => exact .none
    | array c => exact .none
    | reference q =>
      show Option.Rel _ ((s.register f').entities.find? q) (s.entities.find? q)
      rw [find?_register ht]
      by_cases hq : q = f'.name
      · rw [if_pos hq, hq, hname, hf]
        exact .some (Entity.alikeOn_of_marks hconfig hname hpackages side)
      · rw [if_neg hq]
        cases s.entities.find? q with
        | none => exact .none
        | some e => exact .some (Entity.alikeOn_of_marks hconfig rfl rfl side)

theorem describe_congr (h : s.isEntity = s'.isEntity) (e : Entity) :
    s.describe e = s'.describe e := by
  unfold describe
  rw [funext (describeProperty_congr h (e := e) rfl rfl)]

end Session

/-! ## Handlers -/

section Alike
variable {s s' : Session} (hs : ∀ side, s.AlikeOn side s')

theorem Builder.openFrame_congr {e : Entity} {t : Target}
    (he : ∀ side, Entity.AlikeOn side s s' e e) : openFrame s e t = openFrame s' e t := by
  unfold openFrame
  rw [(he _).packageFor t rfl, (he _).className t rfl]

include hs

namespace Handler

theorem start_congr {e : Entity} (he : ∀ side, Entity.AlikeOn side s s' e e) (h : Handler) :
    h.start s e = h.start s' e := by
  cases h with
  | model stage =>
    have hopening : ClientModel.opening s e = ClientModel.opening s' e :=
      ClientModel.opening_congr (hs _) (he _) (List.forall₂_same.2 fun _ _ => rfl)
    show running model (Model.start s e) stage = running model (Model.start s' e) stage
    unfold Model.start
    rw [hopening]
  | clientBuilder stage =>
    show running clientBuilder (Builder.start s e .clientBuilder) stage =
      running clientBuilder (Builder.start s' e .clientBuilder) stage
    unfold Builder.start
    rw [Builder.openFrame_congr he]
  | serverBuilder stage =>
    show running serverBuilder (Builder.start s e .serverBuilder) stage =
      running serverBuilder (Builder.start s' e .serverBuilder) stage
    unfold Builder.start
    rw [Builder.openFrame_congr he]

theorem receive_congr (p : Property) (h : Handler) : h.receive s p = h.receive s' p := by
  cases h with
  | model stage =>
    have hadd (m : ClientModel) : m.add s p = m.add s' p :=
      ClientModel.add_congr (hs _) (.refl _ p) m
    have hreceive : Model.receive s p = Model.receive s' p := by
      unfold Model.receive
      simp only [hadd]
    exact congrArg (running model · stage) hreceive
  | clientBuilder stage => rfl
  | serverBuilder stage => rfl

theorem finish_congr (h : Handler) : h.finish s = h.finish s' := by
  cases h with
  | model stage =>
    have hfinish : ClientModel.finish s = ClientModel.finish s' :=
      funext (ClientModel.finish_congr (hs _))
    show running model (Model.finish s) stage = running model (Model.finish s') stage
    unfold Model.finish
    rw [hfinish]
  | clientBuilder stage =>
    have hrender : clientDialect.render s = clientDialect.render s' := by
      funext f
      exact Client.regards_dialect.render_congr (hs _) (.refl _ f)
    show running clientBuilder (Builder.finish clientDialect s) stage =
      running clientBuilder (Builder.finish clientDialect s') stage
    unfold Builder.finish
    rw [hrender]
  | serverBuilder stage =>
    have hrender : serverDialect.render s = serverDialect.render s' := by
      funext f
      exact Server.regards_dialect.render_congr (hs _) (.refl _ f)
    show running serverBuilder (Builder.finish serverDialect s) stage =
      running serverBuilder (Builder.finish serverDialect s') stage
    unfold Builder.finish
    rw [hrender]

end Handler

/-- In sessions that are alike on both sides, an entity goes through all handlers alike. -/
theorem Production.ofEntity_congr {e : Entity} (he : ∀ side, Entity.AlikeOn side s s' e e) :
    Production.ofEntity s e = Production.ofEntity s' e := by
  have hisEntity : s.isEntity = s'.isEntity := funext (hs .client).isEntity
  unfold ofEntity
  simp only [Session.describe_congr hisEntity e, Handler.start_congr hs he,
    Handler.receive_congr hs, Handler.finish_congr hs]

end Alike

/-- An entity that replaces a registered one, with its name and package mark, is found in its place
and changes nothing else that is found. Whatever else it says of itself, every entity goes through
handlers in any state as before: the same classes, or the same failure. -/
theorem Production.ofEntity_of_replaced {s : Session} {f : Entity} (f' : Entity)
    (hf : s.entities.find? f.name = some f) (hname : f'.name = f.name)
    (hpackages : f'.descriptor.packages = f.descriptor.packages)
    (ht : f'.descriptor.transient = false) :
    (s.register f').entities.find? f.name = some f' ∧
    ∀ e : Entity,
      (e.name ≠ f.name → (s.register f').entities.find? e.name = s.entities.find? e.name) ∧
      Production.ofEntity (s.register f') e = Production.ofEntity s e := by
  have hs (side : Side) : (s.register f').AlikeOn side s :=
    Session.register_alikeOn hf hname hpackages ht side
  have hconfig : (s.register f').config = s.config := by rw [Session.register_of_not_transient ht]
  refine ⟨?_, fun e => ⟨fun hne => ?_, ?_⟩⟩
  · rw [Session.find?_register ht, if_pos hname.symm]
  · rw [Session.find?_register ht, if_neg (hname ▸ hne)]
  · exact Production.ofEntity_congr hs fun side => Entity.alikeOn_of_marks hconfig rfl rfl side

/-- An item that gets a property, a root element and a bindable mark, and an order of items. -/
theorem Production.ofEntity_of_replaced_item :
    let packages : Option PackageSlots := some (.uniform "/items")
    let item : Entity := ⟨⟨"shop.Item", none, false, none, packages, []⟩, []⟩
    let price : PropertyDescriptor :=
      ⟨"price", "int", true, none, none, none, none, none, none, none, some "1"⟩
    let item' : Entity := ⟨⟨"shop.Item", some "goods", false, some "changed", packages, [price]⟩,
      [⟨"price", .primitive .int, "getPrice", some "setPrice", price⟩]⟩
    let items : PropertyDescriptor :=
      ⟨"items", "java.util.List", true, none, none, some ⟨some "shop.Item", none⟩, none, none, none,
        none, none⟩
    let order : Entity := ⟨⟨"shop.Order", none, false, none, none, [items]⟩,
      [⟨"items", .reference "java.util.List", "getItems", some "setItems", items⟩]⟩
    let s := ((Session.mk .standard (Catalog.load "en" none) .empty).register item).register order
    item' ≠ item ∧ (s.register item').entities.find? "shop.Item" = some item' ∧
    (s.register item').entities.find? "shop.Order" = some order ∧
    Production.ofEntity (s.register item') order = Production.ofEntity s order := by
  intro packages item price item' items order s
  have hitem : s.entities.find? item.name = some item := by decide
  obtain ⟨hfound, hrest⟩ := Production.ofEntity_of_replaced item' hitem rfl rfl rfl
  obtain ⟨hother, hsame⟩ := hrest order
  refine ⟨by decide, hfound, ?_, hsame⟩
  rw [show "shop.Order" = order.name from rfl, hother (by decide)]
  decide

end XmlBinding
