import XmlBinding.Proofs.Generator.Delivery

/-!
# What a failed generation leaves behind

A generation fails by the first entity that has not all its classes. Until then every class is
handed over, and afterwards every handler is idle.

* `exists_of_mapM_eq_error`, `exists_of_foldlM_eq_error` : where a list of steps fails;
* `Draft.Breaks s ts e cs failure` : the step by which an entity fails, and the classes it has by
  then; `breaks_of_ofEntity` : each failure is by one of these steps;
* `Draft.exists_of_ofEntities_failure` : the first entity that fails;
* `Generator.Reachable.aborts` : what a receiver was handed by then, and the handlers afterwards.
-/

namespace XmlBinding

/-! ## Where a list of steps fails -/

section Lists
variable {α β : Type} {failure : Failure}

theorem bind_eq_error {r : Except Failure α} {f : α → Except Failure β} :
    r >>= f = .error failure ↔ r = .error failure ∨ ∃ a, r = .ok a ∧ f a = .error failure := by
  cases r with
  | error failure' =>
    constructor
    · intro h
      cases h
      exact .inl rfl
    · rintro (h | ⟨a, h, -⟩)
      · cases h
        rfl
      · cases h
  | ok a =>
    constructor
    · exact fun h => .inr ⟨a, rfl, h⟩
    · rintro (h | ⟨a', h, hf⟩)
      · cases h
      · cases h
        exact hf

/-- The first element that has no result stops those in a row with it. -/
theorem exists_of_mapM_eq_error {f : α → Except Failure β} {xs : List α}
    (h : xs.mapM f = .error failure) :
    ∃ before x after ys, xs = before ++ x :: after ∧
      List.Forall₂ (fun x y => f x = .ok y) before ys ∧ f x = .error failure := by
  induction xs with
  | nil => cases h
  | cons x xs ih =>
    rw [List.mapM_cons] at h
    rcases bind_eq_error.1 h with hx | ⟨y, hy, h⟩
    · exact ⟨[], x, xs, [], rfl, .nil, hx⟩
    · rcases bind_eq_error.1 h with hrest | ⟨ys, -, h⟩
      · obtain ⟨before, z, after, ys, rfl, hbefore, hz⟩ := ih hrest
        exact ⟨x :: before, z, after, y :: ys, rfl, .cons hy hbefore, hz⟩
      · cases h

/-- The first step that has no result stops those in a row with it. -/
theorem exists_of_foldlM_eq_error {f : β → α → Except Failure β} {xs : List α} {b : β}
    (h : xs.foldlM f b = .error failure) :
    ∃ before x after b', xs = before ++ x :: after ∧ before.foldlM f b = .ok b' ∧
      f b' x = .error failure := by
  induction xs generalizing b with
  | nil => cases h
  | cons x xs ih =>
    rw [List.foldlM_cons] at h
    rcases bind_eq_error.1 h with hx | ⟨b₁, hb₁, h⟩
    · exact ⟨[], x, xs, b, rfl, rfl, hx⟩
    · obtain ⟨before, z, after, b', rfl, hbefore, hz⟩ := ih h
      refine ⟨x :: before, z, after, b', rfl, ?_, hz⟩
      rw [List.foldlM_cons]
      exact bind_eq_ok.2 ⟨b₁, hb₁, hbefore⟩

end Lists

/-! ## The step that fails -/

namespace Draft

variable {s : Session} {e : Entity} {t : Target} {ts : List Target} {cs : List GeneratedClass}
  {failure : Failure}

/-- The step by which an entity fails, when all steps before it succeed, and the classes that are
finished by then. -/
inductive Breaks (s : Session) (ts : List Target) (e : Entity) :
    List GeneratedClass → Failure → Prop
  /-- A property cannot be resolved. -/
  | describe {failure : Failure} (h : s.describe e = .error failure) : Breaks s ts e [] failure
  /-- A class is not begun, behind those of earlier targets. -/
  | start {failure : Failure} {ps : List Property} {before after : List Target} {t : Target}
      {ds : List Draft} (described : s.describe e = .ok ps) (targets : ts = before ++ t :: after)
      (begun : List.Forall₂ (fun t d => start s e t = .ok d) before ds)
      (h : start s e t = .error failure) : Breaks s ts e [] failure
  /-- A class does not take a property, behind those of earlier targets. All took the properties
  before it. -/
  | receive {failure : Failure} {qs rest : List Property} {p : Property}
      {ds before after ds' : List Draft} {d : Draft}
      (described : s.describe e = .ok (qs ++ p :: rest))
      (begun : List.Forall₂ (fun t d => start s e t = .ok d) ts ds)
      (filled : List.Forall₂ (fun d d' => receives s qs d = .ok d') ds (before ++ d :: after))
      (received : List.Forall₂ (fun d d' => d.receive s p = .ok d') before ds')
      (h : d.receive s p = .error failure) : Breaks s ts e [] failure
  /-- A class is not finished, behind those of earlier targets. -/
  | finish {failure : Failure} {ps : List Property} {ds before after : List Draft} {d : Draft}
      {cs : List GeneratedClass} (described : s.describe e = .ok ps)
      (begun : List.Forall₂ (fun t d => start s e t = .ok d) ts ds)
      (filled : List.Forall₂ (fun d d' => receives s ps d = .ok d') ds (before ++ d :: after))
      (finished : List.Forall₂ (fun d c => d.finish s = .ok c) before cs)
      (h : d.finish s = .error failure) : Breaks s ts e cs failure

theorem exists_of_finishAll_failure {ds : List Draft} (h : finishAll s ds = (cs, some failure)) :
    ∃ before d after, ds = before ++ d :: after ∧
      List.Forall₂ (fun d c => d.finish s = .ok c) before cs ∧ d.finish s = .error failure := by
  induction ds generalizing cs with
  | nil => cases h
  | cons d ds ih =>
    unfold finishAll at h
    cases hd : d.finish s with
    | error failure' =>
      rw [hd] at h
      cases h
      exact ⟨[], d, ds, rfl, .nil, hd⟩
    | ok c =>
      rw [hd] at h
      cases hrest : finishAll s ds with
      | mk cs' outcome =>
        rw [hrest] at h
        cases h
        obtain ⟨before, d', after, rfl, hbefore, hd'⟩ := ih hrest
        exact ⟨d :: before, d', after, rfl, .cons hd hbefore, hd'⟩

/-- An entity fails by one of its steps, with the classes that were finished before. -/
theorem breaks_of_ofEntity (h : ofEntity s ts e = (cs, some failure)) :
    Breaks s ts e cs failure := by
  cases hfilled : filled s ts e with
  | ok ds' =>
    obtain ⟨ps, hps, hrest⟩ := bind_eq_ok.1 hfilled
    obtain ⟨ds, hds, hall⟩ := bind_eq_ok.1 hrest
    rw [ofEntity, hfilled] at h
    obtain ⟨before, d, after, rfl, hfinished, hd⟩ := exists_of_finishAll_failure h
    exact .finish hps (forall₂_of_mapM_eq_ok hds) (forall₂_receiveAll hall) hfinished hd
  | error failure' =>
    rw [ofEntity, hfilled] at h
    cases h
    rcases bind_eq_error.1 hfilled with hps | ⟨ps, hps, hrest⟩
    · exact .describe hps
    · rcases bind_eq_error.1 hrest with hstart | ⟨ds, hds, hall⟩
      · obtain ⟨before, t, after, ds, hts, hbegun, ht⟩ := exists_of_mapM_eq_error hstart
        exact .start hps hts hbegun ht
      · obtain ⟨qs, p, rest, ds₁, rfl, hqs, hp⟩ := exists_of_foldlM_eq_error hall
        obtain ⟨before, d, after, ds', rfl, hreceived, hd⟩ := exists_of_mapM_eq_error hp
        exact .receive hps (forall₂_of_mapM_eq_ok hds) (forall₂_receiveAll hqs) hreceived hd

/-- The entities before the first that fails have all their classes. -/
theorem exists_of_ofEntities_failure {es : List Entity}
    (h : ofEntities s ts es = (cs, some failure)) :
    ∃ before e after done last, es = before ++ e :: after ∧ cs = done.flatten ++ last ∧
      List.Forall₂ (fun e cs => ofEntity s ts e = (cs, none)) before done ∧
      ofEntity s ts e = (last, some failure) := by
  induction es generalizing cs with
  | nil => cases h
  | cons e es ih =>
    unfold ofEntities at h
    cases he : ofEntity s ts e with
    | mk own outcome =>
      rw [he] at h
      cases outcome with
      | some failure' =>
        cases h
        exact ⟨[], e, es, [], cs, rfl, rfl, .nil, he⟩
      | none =>
        cases hrest : ofEntities s ts es with
        | mk cs' outcome =>
          rw [hrest] at h
          cases h
          obtain ⟨before, e', after, done, last, rfl, rfl, hbefore, he'⟩ := ih hrest
          refine ⟨e :: before, e', after, own :: done, last, rfl, ?_, .cons he hbefore, he'⟩
          rw [List.flatten_cons, List.append_assoc]

/-- The failure of entities is not that of one that has all its classes. -/
theorem ofEntities_cons_of_made (h : (ofEntity s ts e).2 = none) (es : List Entity) :
    (ofEntities s ts (e :: es)).2 = (ofEntities s ts es).2 := by
  unfold ofEntities
  cases he : ofEntity s ts e with
  | mk own outcome =>
    rw [he] at h
    cases h
    cases es <;> rfl

theorem ofEntities_cons_of_failure (h : ofEntity s ts e = (cs, some failure)) (es : List Entity) :
    ofEntities s ts (e :: es) = (cs, some failure) := by
  unfold ofEntities
  rw [h]

/-- An entity without a failure has a class for each target, one with a failure for the first. -/
theorem forall₂_isClassOf {outcome : Option Failure} (h : ofEntity s ts e = (cs, outcome)) :
    List.Forall₂ (IsClassOf s e) (ts.take cs.length) cs ∧
      (outcome = none → List.Forall₂ (IsClassOf s e) ts cs) := by
  obtain ⟨done, rest, rfl, hdone, hrest⟩ := h ▸ follows_ofEntity s ts e
  dsimp only at hdone hrest
  constructor
  · rw [← hdone.length_eq, List.take_left]
    exact hdone
  · intro hn
    rw [hrest hn, List.append_nil]
    exact hdone

end Draft

/-! ## Generators that fail -/

namespace Generator

variable {config : Config} {user : Option Catalog.Bundle} {g : Generator} {failure : Failure}

theorem handlers_of_failure (hg : g.Clean) (h : g.produce.outcome = .error failure) :
    g.produce.handlers = g.targets.map Handler.fresh := by
  have htargets := (Production.ofEntities_run g.session g.session.entities.values
    ⟨g.handlers, []⟩ hg).targets
  unfold produce at h ⊢
  dsimp only at h ⊢
  cases hrun : (g.session.entities.values.forM (Production.ofEntity g.session)).run.run
      ⟨g.handlers, []⟩ with
  | mk r P =>
    rw [hrun] at h htargets
    cases r with
    | ok _ => cases h
    | error failure' =>
      show P.handlers.map Handler.reset = _
      unfold targets
      rw [← htargets, List.map_map]
      rfl

theorem idle_of_mem_map_fresh {ts : List Target} {h : Handler} (hh : h ∈ ts.map Handler.fresh) :
    h.phase = .idle ∧ h.holdsClass = false := by
  obtain ⟨t, -, rfl⟩ := List.mem_map.1 hh
  cases t <;> exact ⟨rfl, rfl⟩

/-- A generation that fails is stopped by the first entity, in the order of names, that fails at one
of its steps. The receiver has been handed all classes of the entities before it and those of the
entity that were finished before, and nothing else; all handlers are idle and hold no class. -/
theorem Reachable.aborts (h : Reachable config user g) {σ : Type}
    (receive : GeneratedClass → StateM σ (Except IoFault Unit)) (w : σ)
    (hrun : ((g.generate receive).run w).1.1 = .error failure) :
    g.generate receive = g.generateInTurn receive ∧
    (g.session.entities.values.Pairwise fun a b => compare a.name b.name = .lt) ∧
    (∃ before e after done last, g.session.entities.values = before ++ e :: after ∧
      List.Forall₂ (fun e cs => List.Forall₂ (Draft.IsClassOf g.session e) g.targets cs)
        before done ∧
      Draft.Breaks g.session g.targets e last failure ∧
      List.Forall₂ (Draft.IsClassOf g.session e) (g.targets.take last.length) last ∧
      (g.calls receive w).map Delivery.handed = done.flatten ++ last) ∧
    let after := ((g.generate receive).run w).1.2
    after.session = g.session ∧ after.targets = g.targets ∧
      ∀ handler ∈ after.handlers, handler.phase = .idle ∧ handler.holdsClass = false := by
  have hclean := h.wellKept.clean
  obtain ⟨hclasses, houtcome, -⟩ := produce_spec hclean
  rw [g.run_generate_fst receive w] at hrun
  have hfailed : g.produce.outcome = .error failure := by
    cases ho : g.produce.outcome with
    | ok count =>
      rw [ho] at hrun
      cases hrun
    | error failure' =>
      rw [ho] at hrun
      cases hrun
      rfl
  have hhandlers := handlers_of_failure hclean hfailed
  refine ⟨g.generate_eq_generateInTurn receive, h.ascending, ?_, ?_⟩
  · have hmade : g.made = (g.produce.classes, some failure) := by
      rw [hfailed] at houtcome
      refine Prod.ext hclasses.symm ?_
      cases hm : g.made.2 with
      | none =>
        rw [hm] at houtcome
        cases houtcome
      | some failure' =>
        rw [hm] at houtcome
        cases houtcome
        rfl
    obtain ⟨before, e, after, done, last, hentities, hsplit, hbefore, he⟩ :=
      Draft.exists_of_ofEntities_failure hmade
    refine ⟨before, e, after, done, last, hentities, hbefore.imp fun e cs hcs => ?_,
      Draft.breaks_of_ofEntity he, (Draft.forall₂_isClassOf he).1, ?_⟩
    · exact (Draft.forall₂_isClassOf hcs).2 rfl
    · rw [g.map_handed_calls receive w, hsplit]
  · intro after
    have hafter : after = { g with handlers := g.produce.handlers } :=
      congrArg Prod.snd (g.run_generate_fst receive w)
    rw [hafter]
    refine ⟨rfl, ?_, fun handler hh => ?_⟩
    · unfold targets
      rw [hhandlers]
      exact targets_map_fresh g.session g.targets
    · exact idle_of_mem_map_fresh (hhandlers ▸ hh)

/-! ## A misplaced marker -/

/-- An entity that is to be an attribute, which an entity cannot be. -/
def misplaced : Entity := ⟨⟨"shop.Item", some "@id", false, none, none, []⟩, []⟩

/-- A generator with that entity, behind one that has its classes. -/
def ofMisplaced : Generator :=
  ((new .standard none).withAllHandlers.add (bare "shop.Box")).add misplaced

theorem reachable_ofMisplaced : Reachable .standard none ofMisplaced :=
  ((reachable_withAllHandlers _ _).register (.entity (bare "shop.Box"))).register
    (.entity misplaced)

theorem outcome_ofMisplaced :
    ofMisplaced.produce.outcome = .error (.attributeClassNode "shop.Item") := by
  have hvalues : ofMisplaced.session.entities.values = [bare "shop.Box", misplaced] := rfl
  have hplaced : ∀ e ∈ ofMisplaced.session.entities.values, ∀ t,
      ∃ package, ofMisplaced.session.packageFor e t = .ok package := by
    intro e he t
    rw [hvalues] at he
    rcases List.mem_pair.1 he with rfl | rfl
    · exact ⟨_, Session.packageFor_standard rfl rfl t⟩
    · exact ⟨_, Session.packageFor_standard rfl rfl t⟩
  have hbox : (Draft.ofEntity ofMisplaced.session Target.all (bare "shop.Box")).2 = none :=
    Draft.ofEntity_of_generable reachable_ofMisplaced.namesMethods hplaced
      (Session.generable_of_standard rfl rfl rfl rfl fun p hp => (nomatch hp))
  have hitem : Draft.ofEntity ofMisplaced.session Target.all misplaced =
      ([], some (.attributeClassNode "shop.Item")) := rfl
  have hmade : ofMisplaced.made.2 = some (.attributeClassNode "shop.Item") := by
    have htargets : ofMisplaced.targets = Target.all := rfl
    unfold made
    rw [hvalues, htargets, Draft.ofEntities_cons_of_made hbox,
      Draft.ofEntities_cons_of_failure hitem]
  rw [(produce_spec reachable_ofMisplaced.wellKept.clean).2.1, hmade]
  rfl

/-- The generation is stopped by the misplaced marker, and may go on after it is taken away. -/
theorem aborts_at_misplaced :
    Reachable .standard none ofMisplaced ∧
    ((ofMisplaced.generate Sink.memory).run .empty).1.1 =
      .error (.attributeClassNode "shop.Item") ∧
    ∀ handler ∈ ((ofMisplaced.generate Sink.memory).run .empty).1.2.handlers,
      handler.phase = .idle ∧ handler.holdsClass = false := by
  have hrun : ((ofMisplaced.generate Sink.memory).run .empty).1.1 =
      .error (.attributeClassNode "shop.Item") := by
    rw [run_generate_fst, outcome_ofMisplaced]
    rfl
  exact ⟨reachable_ofMisplaced, hrun,
    (reachable_ofMisplaced.aborts Sink.memory .empty hrun).2.2.2.2.2⟩

end Generator

end XmlBinding
