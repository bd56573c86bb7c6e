import XmlBinding.Proofs.Generator.Outcome
import XmlBinding.Proofs.SortedMap

/-!
# Generators after any calls

No run leaves a trace: whatever a generator has been through, it generates what one generates that
is built afresh from its entities and targets.

* `Generator.Reachable config user g` : calls lead from a new generator to `g`;
* `Generator.WellKept` : what every call keeps, `Reachable.wellKept`;
* `Generator.rebuilt` : a generator built from entities and targets;
* `WellKept.rebuilt_eq` : the generator built from those of `g` is `g` with fresh handlers;
* `produce_eq_of_targets` : with these, the production is the same;
* `Reachable.generate_eq_rebuilt` : so is all that a receiver sees.
-/

namespace XmlBinding

theorem Session.eq_of_fields {s t : Session} (hconfig : s.config = t.config)
    (hcatalog : s.catalog = t.catalog) (hentities : s.entities = t.entities) : s = t := by
  cases s
  cases t
  cases hconfig
  cases hcatalog
  cases hentities
  rfl

namespace Generator

/-- Calls lead from a new generator to this one, whatever came of them. -/
inductive Reachable (config : Config) (user : Option Catalog.Bundle) : Generator → Prop
  | new : Reachable config user (new config user)
  | register {g : Generator} (h : Reachable config user g) (r : Registration) :
      Reachable config user (g.register r)
  | addHandler {g : Generator} (h : Reachable config user g) (t : Target) :
      Reachable config user (g.addHandler t)
  | generate {g : Generator} (h : Reachable config user g) {σ : Type}
      (receive : GeneratedClass → StateM σ (Except IoFault Unit)) (w : σ) :
      Reachable config user ((g.generate receive).run w).1.2

/-- A new generator with all handlers. -/
theorem reachable_withAllHandlers (config : Config) (user : Option Catalog.Bundle) :
    Reachable config user (Generator.new config user).withAllHandlers :=
  ((Reachable.new.addHandler .clientModel).addHandler .clientBuilder).addHandler .serverBuilder

/-! ## What every call keeps -/

/-- The session is that of the configuration, entities stand under their names, and the handlers are
clean. -/
structure WellKept (config : Config) (user : Option Catalog.Bundle) (g : Generator) : Prop where
  configured : g.session.config = config
  worded : g.session.catalog = Catalog.load config.locale user
  named : ∀ entry ∈ g.session.entities.entries,
    entry.1 = entry.2.name ∧ entry.2.descriptor.transient = false
  clean : g.Clean

variable {config : Config} {user : Option Catalog.Bundle} {g : Generator}

theorem wellKept_new (config : Config) (user : Option Catalog.Bundle) :
    WellKept config user (new config user) := by
  refine ⟨?_, ?_, ?_, ?_⟩
  · rw [session_new]
  · rw [session_new]
  · rw [session_new]
    exact fun _ h => (nomatch h)
  · unfold Clean
    rw [handlers_new]
    exact fun _ h => (nomatch h)

theorem WellKept.add (hg : WellKept config user g) (e : Entity) :
    WellKept config user (g.add e) := by
  refine ⟨add_config.trans hg.configured, add_catalog.trans hg.worded, ?_, hg.clean⟩
  unfold Generator.add Session.register
  cases ht : e.descriptor.transient with
  | true => exact hg.named
  | false =>
    intro entry h
    rcases SortedMap.mem_insert h with rfl | h
    · exact ⟨rfl, ht⟩
    · exact hg.named entry h

theorem WellKept.register (hg : WellKept config user g) (r : Registration) :
    WellKept config user (g.register r) := by
  obtain ⟨es, hes⟩ := exists_register g r
  rw [hes]
  clear hes
  induction es generalizing g with
  | nil => exact hg
  | cons e es ih => exact ih (hg.add e)

theorem WellKept.addHandler (hg : WellKept config user g) (t : Target) :
    WellKept config user (g.addHandler t) := by
  refine ⟨hg.configured, hg.worded, hg.named, fun h hh => ?_⟩
  rcases List.mem_append.1 hh with hh | hh
  · exact hg.clean h hh
  · rw [List.mem_singleton.1 hh]
    exact Handler.clean_fresh t

/-- A production leaves clean handlers of the same targets, also after a failure. -/
theorem WellKept.produced (hg : WellKept config user g) :
    WellKept config user { g with handlers := g.produce.handlers } :=
  ⟨hg.configured, hg.worded, hg.named, (produce_spec hg.clean).2.2.2⟩

theorem Reachable.wellKept (h : Reachable config user g) : WellKept config user g := by
  induction h with
  | new => exact wellKept_new config user
  | register _ r ih => exact ih.register r
  | addHandler _ t ih => exact ih.addHandler t
  | generate _ receive w ih => exact ih.produced

theorem Reachable.namesMethods (h : Reachable config user g) :
    g.session.catalog.NamesMethods := by
  rw [h.wellKept.worded]
  exact Catalog.namesMethods_load config.locale user

/-! ## Generators built afresh -/

/-- A generator built from entities and targets. -/
def rebuilt (config : Config) (user : Option Catalog.Bundle) (es : List Entity)
    (ts : List Target) : Generator :=
  ts.foldl Generator.addHandler (es.foldl Generator.add (Generator.new config user))

/-- Entities that are not transient are inserted under their names. -/
theorem foldl_add_entities {entries : List (String × Entity)}
    (h : ∀ entry ∈ entries, entry.1 = entry.2.name ∧ entry.2.descriptor.transient = false)
    (g : Generator) :
    ((entries.map Prod.snd).foldl Generator.add g).session.entities =
      entries.foldl (fun m entry => m.insert entry.1 entry.2) g.session.entities := by
  induction entries generalizing g with
  | nil => rfl
  | cons entry entries ih =>
    obtain ⟨hname, htransient⟩ := h entry List.mem_cons_self
    have hadd : (g.add entry.2).session.entities =
        g.session.entities.insert entry.1 entry.2 := by
      unfold Generator.add Session.register
      rw [htransient, hname]
      rfl
    rw [List.map_cons, List.foldl_cons, List.foldl_cons,
      ih (fun d hd => h d (List.mem_cons_of_mem _ hd)), hadd]

/-- The generator built from the entities and targets of another is that with fresh handlers. -/
theorem WellKept.rebuilt_eq (hg : WellKept config user g) :
    rebuilt config user g.session.entities.values g.targets =
      ⟨g.session, g.targets.map Handler.fresh⟩ := by
  have hsession :
      (rebuilt config user g.session.entities.values g.targets).session = g.session := by
    unfold rebuilt
    rw [foldl_addHandler_session]
    refine Session.eq_of_fields ?_ ?_ ?_
    · rw [foldl_add_config, session_new, hg.configured]
    · rw [foldl_add_catalog, session_new, hg.worded]
    · rw [SortedMap.values, foldl_add_entities hg.named, session_new,
        SortedMap.foldl_insert_entries]
  have hhandlers : (rebuilt config user g.session.entities.values g.targets).handlers =
      g.targets.map Handler.fresh := by
    unfold rebuilt
    rw [foldl_addHandler_handlers, foldl_add_handlers, handlers_new, List.nil_append]
  calc rebuilt config user g.session.entities.values g.targets
    _ = ⟨(rebuilt config user g.session.entities.values g.targets).session,
          (rebuilt config user g.session.entities.values g.targets).handlers⟩ := rfl
    _ = ⟨g.session, g.targets.map Handler.fresh⟩ := by rw [hsession, hhandlers]

/-! ## Productions -/

/-- What clean generators produce depends on their sessions and targets alone. -/
theorem produce_eq_of_targets {f : Generator} (hf : f.Clean) (hg : g.Clean)
    (hs : f.session = g.session) (ht : f.targets = g.targets) :
    f.produce.classes = g.produce.classes ∧ f.produce.outcome = g.produce.outcome := by
  have hmade : f.made = g.made := by
    unfold made
    rw [hs, ht]
  obtain ⟨hfc, hfo, -⟩ := produce_spec hf
  obtain ⟨hgc, hgo, -⟩ := produce_spec hg
  constructor
  · rw [hfc, hgc, hmade]
  · rw [hfo, hgo, hmade, hs]

/-- Equal productions look the same to every receiver. -/
theorem generate_congr {f : Generator} {m : Type → Type} [Monad m] [LawfulMonad m]
    (receive : GeneratedClass → m (Except IoFault Unit))
    (h : f.produce.classes = g.produce.classes ∧ f.produce.outcome = g.produce.outcome) :
    Prod.fst <$> f.generate receive = Prod.fst <$> g.generate receive := by
  have hfst (k : Generator) : Prod.fst <$> k.generate receive =
      deliver receive k.produce.classes >>= fun r =>
        pure (k.produce.outcome.map (⟨·, r.1, r.2⟩)) := by
    unfold Generator.generate
    rw [map_bind]
    simp only [map_pure]
  rw [hfst, hfst, h.1, h.2]

theorem targets_map_fresh (s : Session) (ts : List Target) :
    (⟨s, ts.map Handler.fresh⟩ : Generator).targets = ts :=
  Handler.map_target_fresh ts

theorem clean_map_fresh (s : Session) (ts : List Target) :
    (⟨s, ts.map Handler.fresh⟩ : Generator).Clean :=
  fun _ hh => Handler.clean_of_mem_fresh hh

/-- A generator after any calls generates as one built afresh from its entities and targets: every
receiver gets the same classes and sees the same outcome, no handler is found in a wrong phase, and
one more run makes the same classes again. -/
theorem Reachable.generate_eq_rebuilt (h : Reachable config user g)
    {m : Type → Type} [Monad m] [LawfulMonad m]
    (receive : GeneratedClass → m (Except IoFault Unit)) {σ : Type}
    (receive' : GeneratedClass → StateM σ (Except IoFault Unit)) (w : σ) :
    let fresh := rebuilt config user g.session.entities.values g.targets
    let first := ((g.generate receive').run w).1
    fresh = ⟨g.session, g.targets.map Handler.fresh⟩ ∧
    g.produce.classes = fresh.produce.classes ∧
    Prod.fst <$> g.generate receive = Prod.fst <$> fresh.generate receive ∧
    (∀ fault, first.1 ≠ .error (.invalidState fault)) ∧
    first.2.produce.classes = g.produce.classes ∧
    Prod.fst <$> first.2.generate receive = Prod.fst <$> g.generate receive := by
  intro fresh first
  have hg := h.wellKept
  have hfresh : fresh = ⟨g.session, g.targets.map Handler.fresh⟩ := hg.rebuilt_eq
  have hsame : g.produce.classes = fresh.produce.classes ∧
      g.produce.outcome = fresh.produce.outcome := by
    rw [hfresh]
    exact produce_eq_of_targets hg.clean (clean_map_fresh _ _) rfl (targets_map_fresh _ _).symm
  have hagain : first.2.produce.classes = g.produce.classes ∧
      first.2.produce.outcome = g.produce.outcome :=
    produce_eq_of_targets hg.produced.clean hg.clean rfl (produce_spec hg.clean).2.2.1
  have hnames : g.session.catalog.NamesMethods := by
    rw [hg.worded]
    exact Catalog.namesMethods_load config.locale user
  refine ⟨hfresh, hsame.1, generate_congr receive hsame, fun fault hfault => ?_, hagain.1,
    generate_congr receive hagain⟩
  obtain ⟨written, failed, hrun⟩ := g.generate_run receive' w
  have houtcome : first.1 = g.produce.outcome.map (⟨·, written, failed⟩) := hrun
  rw [houtcome] at hfault
  cases ho : g.produce.outcome with
  | ok count =>
    rw [ho] at hfault
    cases hfault
  | error failure =>
    rw [ho] at hfault
    cases hfault
    exact isEntityFault_of_produce hg.clean hnames ho

/-- A run that fails, an entity that replaces the one at fault, and a run that succeeds. -/
theorem generate_eq_rebuilt_after_failure :
    let entity (node : Option String) : Entity := ⟨⟨"shop.Item", node, false, none, none, []⟩, []⟩
    let keep (c : GeneratedClass) : StateM (List String) (Except IoFault Unit) := do
      modify (· ++ [c.source])
      return .ok ()
    let broken := (Generator.new .standard none).withAllHandlers.add (entity (some "@id"))
    let failed := ((broken.generate keep).run []).1.2
    let g := failed.add (entity none)
    Reachable .standard none g ∧
    Prod.fst <$> g.generate keep =
      Prod.fst <$> (rebuilt .standard none g.session.entities.values g.targets).generate keep := by
  intro entity keep broken failed g
  have hbroken : Reachable .standard none broken :=
    (((Reachable.new.addHandler .clientModel).addHandler .clientBuilder).addHandler
      .serverBuilder).register (.entity (entity (some "@id")))
  have hg : Reachable .standard none g :=
    (hbroken.generate keep []).register (.entity (entity none))
  exact ⟨hg, (Reachable.generate_eq_rebuilt hg keep keep []).2.2.1⟩

end Generator

end XmlBinding
