import Mathlib.Data.List.Nodup
import XmlBinding.Proofs.Generator.Reachable

/-!
# Registered entities

A generator holds, for each name, the last entity of that name that is not transient. The order in
which entities of different names came does not matter.

* `Entity.accepted ds`, `Entity.count ds` : the entities of descriptors up to the first that is
  none, and what registering them answers;
* `Entity.lastOf name es` : the last entity of a name that is not transient;
* `foldl_register_eq` : registrations add their entities in order;
* `find?_foldl_add` : what a generator holds after that;
* `Generator.holds_last_registered` : so the last entities of all names decide what is generated.
-/

namespace XmlBinding

namespace Entity

/-- The entities of descriptors, up to the first that is none. -/
def accepted (ds : List EntityDescriptor) : List Entity :=
  ((ds.map ofDescriptor).takeWhile Except.isOk).filterMap Except.toOption

/-- How many of the descriptors are registered, or why the first that is no entity is none. -/
def count (ds : List EntityDescriptor) : Except Failure Nat :=
  match (ds.map ofDescriptor).find? fun r => !r.isOk with
  | some r => r.map fun _ => 0
  | none => .ok ((accepted ds).countP fun e => !e.descriptor.transient)

/-- The last entity of a name that is not transient. -/
def lastOf (name : String) (es : List Entity) : Option Entity :=
  es.reverse.find? fun e => e.name = name ∧ e.descriptor.transient = false

variable {d : EntityDescriptor} {e : Entity} {es es' : List Entity}

theorem accepted_cons_of_error {failure : Failure} (h : ofDescriptor d = .error failure)
    (ds : List EntityDescriptor) :
    accepted (d :: ds) = [] ∧ count (d :: ds) = .error failure := by
  unfold count accepted
  rw [List.map_cons, h]
  exact ⟨rfl, rfl⟩

theorem accepted_cons_of_ok (h : ofDescriptor d = .ok e) (ds : List EntityDescriptor) :
    accepted (d :: ds) = e :: accepted ds := by
  unfold accepted
  rw [List.map_cons, h]
  rfl

theorem count_cons_of_ok (h : ofDescriptor d = .ok e) (ds : List EntityDescriptor) :
    count (d :: ds) = (count ds).map (· + if e.descriptor.transient then 0 else 1) := by
  unfold count
  rw [accepted_cons_of_ok h, List.map_cons, h, List.find?_cons, List.countP_cons]
  cases hf : (ds.map ofDescriptor).find? fun r => !r.isOk with
  | none => cases e.descriptor.transient <;> rfl
  | some r =>
    have hr := List.find?_some hf
    cases r with
    | error failure => rfl
    | ok e' => cases hr

theorem descriptor_of_ofDescriptor (h : ofDescriptor d = .ok e) : e.descriptor = d := by
  unfold ofDescriptor at h
  split at h
  · cases hm : (counted [] d.properties).mapM (property d.name) with
    | error failure =>
      rw [hm] at h
      cases h
    | ok ps =>
      rw [hm] at h
      cases h
      rfl
  · cases h

/-! ## The last of a name -/

theorem lastOf_cons (name : String) (e : Entity) (es : List Entity) :
    lastOf name (e :: es) = (lastOf name es).or
      (if e.name = name ∧ e.descriptor.transient = false then some e else none) := by
  unfold lastOf
  rw [List.reverse_cons, List.find?_append]
  by_cases h : e.name = name ∧ e.descriptor.transient = false <;> simp [h]

theorem lastOf_eq_some_iff (hd : (es.map name).Nodup) {n : String} :
    lastOf n es = some e ↔ e ∈ es ∧ e.name = n ∧ e.descriptor.transient = false := by
  constructor
  · intro h
    have htest := List.find?_some h
    exact ⟨List.mem_reverse.1 (List.mem_of_find?_eq_some h), of_decide_eq_true htest⟩
  · rintro ⟨he, hn, ht⟩
    have hsome : (lastOf n es).isSome = true :=
      List.find?_isSome.2 ⟨e, List.mem_reverse.2 he, decide_eq_true ⟨hn, ht⟩⟩
    obtain ⟨e', he'⟩ := Option.isSome_iff_exists.1 hsome
    have htest := List.find?_some he'
    have hn' : e'.name = n := (of_decide_eq_true htest).1
    have hmem : e' ∈ es := List.mem_reverse.1 (List.mem_of_find?_eq_some he')
    have hsame : e' = e := List.inj_on_of_nodup_map hd hmem he (hn'.trans hn.symm)
    rw [he', hsame]

/-- Where no two entities have one name, their order does not matter. -/
theorem lastOf_of_perm (hp : es.Perm es') (hd : (es.map name).Nodup) (n : String) :
    lastOf n es = lastOf n es' := by
  have hd' : (es'.map name).Nodup := (hp.map name).nodup_iff.1 hd
  apply Option.ext
  intro e
  show lastOf n es = some e ↔ lastOf n es' = some e
  rw [lastOf_eq_some_iff hd, lastOf_eq_some_iff hd', hp.mem_iff]

end Entity

def Registration.entities : Registration → List Entity
  | .entity e => [e]
  | .descriptors ds => Entity.accepted ds

namespace Generator

/-! ## Registrations in order -/

theorem addDescriptors_eq (g : Generator) (ds : List EntityDescriptor) :
    g.addDescriptors ds = (Entity.count ds, (Entity.accepted ds).foldl add g) := by
  induction ds generalizing g with
  | nil => rfl
  | cons d ds ih =>
    unfold addDescriptors
    cases h : Entity.ofDescriptor d with
    | error failure =>
      obtain ⟨haccepted, hcount⟩ := Entity.accepted_cons_of_error h ds
      rw [haccepted, hcount]
      rfl
    | ok e =>
      rw [Entity.accepted_cons_of_ok h, Entity.count_cons_of_ok h,
        Entity.descriptor_of_ofDescriptor h]
      dsimp only
      rw [ih]
      rfl

theorem register_eq (g : Generator) (r : Registration) : g.register r = r.entities.foldl add g := by
  cases r with
  | entity e => rfl
  | descriptors ds => exact congrArg Prod.snd (g.addDescriptors_eq ds)

theorem foldl_register_eq (rs : List Registration) (g : Generator) :
    rs.foldl register g = (rs.flatMap Registration.entities).foldl add g := by
  induction rs generalizing g with
  | nil => rfl
  | cons r rs ih => rw [List.foldl_cons, ih, List.flatMap_cons, List.foldl_append, register_eq]

/-! ## What is held -/

theorem find?_add (g : Generator) (e : Entity) (name : String) :
    (g.add e).session.entities.find? name =
      (if e.name = name ∧ e.descriptor.transient = false then some e else none).or
        (g.session.entities.find? name) := by
  have hcompare : compare name e.name = .eq ↔ e.name = name :=
    Std.LawfulEqOrd.compare_eq_iff_eq.trans eq_comm
  unfold add Session.register
  cases e.descriptor.transient with
  | true => simp
  | false =>
    show (g.session.entities.insert e.name e).find? name = _
    rw [SortedMap.find?_insert]
    by_cases h : e.name = name <;> simp [hcompare, h]

theorem find?_foldl_add (es : List Entity) (g : Generator) (name : String) :
    (es.foldl add g).session.entities.find? name =
      (Entity.lastOf name es).or (g.session.entities.find? name) := by
  induction es generalizing g with
  | nil => rfl
  | cons e es ih => rw [List.foldl_cons, ih, find?_add, Entity.lastOf_cons, Option.or_assoc]

/-- The last entities of all names decide what becomes of a generator. -/
theorem foldl_add_congr {es es' : List Entity}
    (h : ∀ name, Entity.lastOf name es = Entity.lastOf name es') (g : Generator) :
    es.foldl add g = es'.foldl add g := by
  have hentities : (es.foldl add g).session.entities = (es'.foldl add g).session.entities := by
    apply SortedMap.ext_find?
    intro name
    rw [find?_foldl_add, find?_foldl_add, h]
  have hsession : (es.foldl add g).session = (es'.foldl add g).session := by
    refine Session.eq_of_fields ?_ ?_ hentities
    · rw [foldl_add_config, foldl_add_config]
    · rw [foldl_add_catalog, foldl_add_catalog]
  have hhandlers : (es.foldl add g).handlers = (es'.foldl add g).handlers := by
    rw [foldl_add_handlers, foldl_add_handlers]
  calc es.foldl add g
    _ = ⟨(es.foldl add g).session, (es.foldl add g).handlers⟩ := rfl
    _ = ⟨(es'.foldl add g).session, (es'.foldl add g).handlers⟩ := by rw [hsession, hhandlers]

/-- After any registrations a generator holds for each name the last entity that is not transient;
descriptors are registered in order, up to the first that is no entity. So registrations with the
same last entities, in particular those of the same entities of different names in any order, lead
to the same classes and to the same outcome for every receiver. -/
theorem holds_last_registered (g : Generator) (rs : List Registration) :
    (∀ ds, g.addDescriptors ds = (Entity.count ds, (Entity.accepted ds).foldl add g)) ∧
    (∀ name, (rs.foldl register g).session.entities.find? name =
      (Entity.lastOf name (rs.flatMap Registration.entities)).or
        (g.session.entities.find? name)) ∧
    ∀ rs' : List Registration,
      ((∀ name, Entity.lastOf name (rs.flatMap Registration.entities) =
          Entity.lastOf name (rs'.flatMap Registration.entities)) ∨
        (rs.flatMap Registration.entities).Perm (rs'.flatMap Registration.entities) ∧
          ((rs.flatMap Registration.entities).map Entity.name).Nodup) →
      rs.foldl register g = rs'.foldl register g ∧
      (rs.foldl register g).produce.classes = (rs'.foldl register g).produce.classes ∧
      ∀ {m : Type → Type} [Monad m] (receive : GeneratedClass → m (Except IoFault Unit)),
        Prod.fst <$> (rs.foldl register g).generate receive =
          Prod.fst <$> (rs'.foldl register g).generate receive := by
  refine ⟨g.addDescriptors_eq, fun name => ?_, fun rs' h => ?_⟩
  · rw [foldl_register_eq]
    exact find?_foldl_add _ g name
  · have hlast : ∀ name, Entity.lastOf name (rs.flatMap Registration.entities) =
        Entity.lastOf name (rs'.flatMap Registration.entities) := by
      rcases h with h | ⟨hp, hd⟩
      · exact h
      · exact Entity.lastOf_of_perm hp hd
    have hsame : rs.foldl register g = rs'.foldl register g := by
      rw [foldl_register_eq, foldl_register_eq]
      exact foldl_add_congr hlast g
    rw [hsame]
    exact ⟨rfl, rfl, fun receive => rfl⟩

/-- An item that another replaces and a transient one does not, and an order from descriptors of
which the second is no entity. -/
theorem holds_last_item :
    let item (node : Option String) (transient : Bool) : Entity :=
      ⟨⟨"shop.Item", node, transient, none, none, []⟩, []⟩
    let descriptor (name : String) : EntityDescriptor := ⟨name, none, false, none, none, []⟩
    let order : Entity := ⟨descriptor "shop.Order", []⟩
    let g := (new .standard none).withAllHandlers
    let rs : List Registration := [.entity (item (some "old") false),
      .descriptors [descriptor "shop.Order", descriptor "int", descriptor "shop.Cart"],
      .entity (item none false), .entity (item (some "late") true)]
    let rs' : List Registration := [.entity (item none false), .entity order]
    (rs.foldl register g).session.entities.find? "shop.Item" = some (item none false) ∧
    rs.foldl register g = rs'.foldl register g ∧
    rs'.foldl register g = rs'.reverse.foldl register g := by
  intro item descriptor order g rs rs'
  have hentities : rs.flatMap Registration.entities =
      [item (some "old") false, order, item none false, item (some "late") true] := by
    decide +kernel
  have hlast (name : String) : Entity.lastOf name (rs.flatMap Registration.entities) =
      Entity.lastOf name (rs'.flatMap Registration.entities) := by
    have hitem (node : Option String) (t : Bool) : (item node t).name = "shop.Item" := rfl
    have horder : order.name = "shop.Order" := rfl
    have htransient (node : Option String) (t : Bool) :
        (item node t).descriptor.transient = t := rfl
    have hnil : Entity.lastOf name [] = none := rfl
    have hentities' : rs'.flatMap Registration.entities = [item none false, order] := rfl
    rw [hentities, hentities']
    simp only [Entity.lastOf_cons, hnil, hitem, horder, htransient]
    by_cases hi : "shop.Item" = name
    · have ho : "shop.Order" ≠ name := hi ▸ by decide
      simp [hi, ho]
    · simp [hi]
  obtain ⟨-, hfind, hsame⟩ := holds_last_registered g rs
  obtain ⟨-, -, hsame'⟩ := holds_last_registered g rs'
  refine ⟨?_, (hsame rs' (.inl hlast)).1, (hsame' rs'.reverse (.inr ⟨?_, by decide⟩)).1⟩
  · rw [hfind, hentities]
    decide
  · exact List.Perm.swap _ _ _

end Generator

end XmlBinding
