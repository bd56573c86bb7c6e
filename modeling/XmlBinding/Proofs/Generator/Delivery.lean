import XmlBinding.Proofs.Generator.Files

/-!
# Receivers have no say

Classes are made first and handed over afterwards. A generation that hands over each class as soon
as a handler has ended comes to the same, so what a receiver answers reaches its own notes alone.

* `Generator.generateInTurn` : the generation that hands over each class at once;
* `Generator.generate_eq_generateInTurn` : it is the generation;
* `Sink.noting receive` : a receiver that notes its calls, `Delivery` : one of them;
* `Generator.calls` : the calls of a receiver, `map_handed_calls` : the classes it is handed;
* `Generator.Reachable.isolates_receivers` : two receivers are handed the same classes and see the
  same outcome, and a report tells what was received and what was refused.
-/

namespace XmlBinding

/-! ## Deliveries -/

section Monadic
variable {m : Type → Type} [Monad m] [LawfulMonad m]
  (receive : GeneratedClass → m (Except IoFault Unit))

theorem deliver_append (cs ds : List GeneratedClass) :
    deliver receive (cs ++ ds) = do
      let (written, failed) ← deliver receive cs
      let (written', failed') ← deliver receive ds
      return (written ++ written', failed ++ failed') := by
  induction cs with
  | nil => simp [deliver]
  | cons c cs ih =>
    rw [List.cons_append, deliver, deliver, ih]
    simp only [bind_assoc]
    refine bind_congr fun answer => bind_congr fun first => ?_
    cases answer <;> simp

end Monadic

/-! ## Handing over in turn -/

namespace Production

/-- What a run notes that hands over its classes as they are made. -/
structure Noted where
  handlers : List Handler
  written : List Path
  failed : List (Path × IoFault)
  failure : Option Failure

/-- Notes of a run that makes no more classes. -/
def Noted.nothing (handlers : List Handler) (failure : Option Failure) : Noted :=
  ⟨handlers, [], [], failure⟩

/-- Notes with those of an earlier class and of the handler that made it. -/
def Noted.after (n : Noted) (h : Handler) (path : Path) : Except IoFault Unit → Noted
  | .ok () => { n with handlers := h :: n.handlers, written := path :: n.written }
  | .error fault => { n with handlers := h :: n.handlers, failed := (path, fault) :: n.failed }

section Monadic
variable {m : Type → Type} [Monad m] (receive : GeneratedClass → m (Except IoFault Unit))
  (s : Session)

/-- Handlers end an entity in order. Each class is handed over before the next handler ends. -/
def finishInTurn : List Handler → m Noted
  | [] => return .nothing [] none
  | h :: rest =>
    match h.finish s with
    | (.error failure, h) => return .nothing (h :: rest) (some failure)
    | (.ok c, h) => do
      let answer ← receive c
      return (← finishInTurn rest).after h c.relativePath answer

/-- An entity and its properties through every handler, before any of them ends it. -/
def fillEntity (e : Entity) : Produce Unit := do
  let properties ← liftM (s.describe e)
  step fun h => silent (h.start s e)
  properties.forM fun p => step fun h => silent (h.receive s p)

/-- One entity through every handler. -/
def ofEntityInTurn (e : Entity) (handlers : List Handler) : m Noted :=
  match (fillEntity s e).run.run ⟨handlers, []⟩ with
  | (.error failure, p) => return .nothing p.handlers (some failure)
  | (.ok (), p) => finishInTurn receive s p.handlers

/-- Entities through every handler, up to the first failure. -/
def ofEntitiesInTurn : List Entity → List Handler → m Noted
  | [], handlers => return .nothing handlers none
  | e :: rest, handlers => do
    let n ← ofEntityInTurn receive s e handlers
    match n.failure with
    | some _ => return n
    | none =>
      let more ← ofEntitiesInTurn rest n.handlers
      return ⟨more.handlers, n.written ++ more.written, n.failed ++ more.failed, more.failure⟩

end Monadic

end Production

/-- Generates the classes of all entities and hands over each as soon as its handler has ended. What
the receiver refuses is noted, and generation goes on. -/
def Generator.generateInTurn {m : Type → Type} [Monad m] (g : Generator)
    (receive : GeneratedClass → m (Except IoFault Unit)) :
    m (Except Failure Report × Generator) := do
  let entities := g.session.entities.values
  let n ← Production.ofEntitiesInTurn receive g.session entities g.handlers
  match n.failure with
  | none => return (.ok ⟨entities.length, n.written, n.failed⟩, { g with handlers := n.handlers })
  | some failure =>
    return (.error failure, { g with handlers := n.handlers.map Handler.reset })

namespace Production

open Handler

/-! ### Runs that append classes -/

/-- Classes made before a run stay in front of those it makes, and do not matter to it. -/
def Appends (act : Produce Unit) : Prop :=
  ∀ handlers classes, act.run.run ⟨handlers, classes⟩ =
    ((act.run.run ⟨handlers, []⟩).1, ⟨(act.run.run ⟨handlers, []⟩).2.handlers,
      classes ++ (act.run.run ⟨handlers, []⟩).2.classes⟩)

theorem appends_step (call : Handler → After (List GeneratedClass)) : Appends (step call) := by
  intro handlers classes
  rw [step_run, step_run, List.nil_append]

theorem Appends.bind {act next : Produce Unit} (h : Appends act) (h' : Appends next) :
    Appends (act >>= fun _ => next) := by
  intro handlers classes
  rw [bind_run, bind_run, h handlers classes]
  cases act.run.run ⟨handlers, []⟩ with
  | mk r Q =>
    cases r with
    | error failure => rfl
    | ok _ =>
      obtain ⟨hs, cs⟩ := Q
      dsimp only
      rw [h' hs (classes ++ cs), h' hs cs, List.append_assoc]

theorem appends_forM {α : Type} {act : α → Produce Unit} (h : ∀ a, Appends (act a))
    (l : List α) : Appends (l.forM act) := by
  induction l with
  | nil =>
    intro handlers classes
    exact congrArg (fun cs => (_, Progress.mk handlers cs)) (List.append_nil classes).symm
  | cons a l ih => exact (h a).bind ih

/-- What is read from the session before a run does not matter to it. -/
theorem Appends.of_lift {α : Type} {r : Except Failure α} {next : α → Produce Unit}
    (h : ∀ a, Appends (next a)) : Appends (liftM r >>= next) := by
  intro handlers classes
  rw [bind_run, bind_run]
  cases r with
  | error failure => exact congrArg (fun cs => (_, Progress.mk _ cs)) (List.append_nil _).symm
  | ok a => exact h a handlers classes

theorem appends_ofEntity (s : Session) (e : Entity) : Appends (ofEntity s e) :=
  Appends.of_lift fun ps => (appends_step _).bind
    ((appends_forM (fun _ => appends_step _) ps).bind (appends_step _))

/-! ### Runs that make no classes -/

theorem classes_round_silent (call : Handler → After Unit) (hs : List Handler) :
    (round (fun h => silent (call h)) hs).classes = [] := by
  induction hs with
  | nil => rfl
  | cons h hs ih =>
    rw [round, silent]
    cases (call h).1 with
    | error failure => rfl
    | ok _ => exact ih

/-- A run makes no classes. -/
def Quiet (act : Produce Unit) : Prop :=
  ∀ P, (act.run.run P).2.classes = P.classes

theorem quiet_step (call : Handler → After Unit) : Quiet (step fun h => silent (call h)) := by
  intro P
  rw [step_run, classes_round_silent, List.append_nil]

theorem Quiet.bind {act next : Produce Unit} (h : Quiet act) (h' : Quiet next) :
    Quiet (act >>= fun _ => next) := by
  intro P
  rw [bind_run]
  have hP := h P
  cases hact : act.run.run P with
  | mk r Q =>
    rw [hact] at hP
    cases r with
    | error failure => exact hP
    | ok _ => exact (h' Q).trans hP

theorem quiet_forM {α : Type} {act : α → Produce Unit} (h : ∀ a, Quiet (act a)) (l : List α) :
    Quiet (l.forM act) := by
  induction l with
  | nil => exact fun _ => rfl
  | cons a l ih => exact (h a).bind ih

theorem quiet_fillEntity (s : Session) (e : Entity) : Quiet (fillEntity s e) := by
  intro P
  unfold fillEntity
  rw [bind_run]
  cases s.describe e with
  | error failure => rfl
  | ok ps => exact (quiet_step _).bind (quiet_forM (fun _ => quiet_step _) ps) P

theorem ofEntity_eq (s : Session) (e : Entity) :
    ofEntity s e = fillEntity s e >>= fun _ => step fun h => single (h.finish s) := by
  unfold ofEntity fillEntity
  simp only [bind_assoc]

/-! ### The same run -/

/-- The failure that a result stands for. -/
def failureOf : Except Failure Unit → Option Failure
  | .ok () => none
  | .error failure => some failure

theorem failureOf_resultOf (failure : Option Failure) : failureOf (resultOf failure) = failure := by
  cases failure <;> rfl

section Monadic
variable {m : Type → Type} [Monad m] [LawfulMonad m]
  (receive : GeneratedClass → m (Except IoFault Unit)) (s : Session)

/-- Hands over the classes of a run that has ended. -/
def handOver (out : Except Failure Unit × Progress) : m Noted := do
  let (written, failed) ← deliver receive out.2.classes
  return ⟨out.2.handlers, written, failed, failureOf out.1⟩

theorem handOver_nothing (r : Except Failure Unit) (hs : List Handler) :
    handOver receive (r, ⟨hs, []⟩) = pure (.nothing hs (failureOf r)) := by
  simp [handOver, deliver, Noted.nothing]

theorem finishInTurn_eq (hs : List Handler) :
    finishInTurn receive s hs =
      handOver receive ((step fun h => single (h.finish s)).run.run ⟨hs, []⟩) := by
  rw [step_run, List.nil_append]
  induction hs with
  | nil => exact (handOver_nothing receive (.ok ()) []).symm
  | cons h hs ih =>
    unfold finishInTurn round single
    cases h.finish s with
    | mk r h' =>
      cases r with
      | error failure => exact (handOver_nothing receive (.error failure) (h' :: hs)).symm
      | ok c =>
        have hrest := ih
        unfold single at hrest
        simp only [hrest, handOver, failureOf_resultOf, Except.map, List.singleton_append, deliver,
          bind_assoc, pure_bind]
        refine bind_congr fun answer => bind_congr fun rest => ?_
        cases answer <;> simp [Noted.after]

theorem ofEntityInTurn_eq (e : Entity) (hs : List Handler) :
    ofEntityInTurn receive s e hs = handOver receive ((ofEntity s e).run.run ⟨hs, []⟩) := by
  have hquiet := quiet_fillEntity s e ⟨hs, []⟩
  unfold ofEntityInTurn
  rw [ofEntity_eq, bind_run]
  cases hfill : (fillEntity s e).run.run ⟨hs, []⟩ with
  | mk r P =>
    obtain ⟨hs', cs⟩ := P
    rw [hfill] at hquiet
    obtain rfl : cs = [] := hquiet
    cases r with
    | error failure => exact (handOver_nothing receive (.error failure) hs').symm
    | ok _ => exact finishInTurn_eq receive s hs'

theorem ofEntitiesInTurn_eq (es : List Entity) (hs : List Handler) :
    ofEntitiesInTurn receive s es hs =
      handOver receive ((es.forM (ofEntity s)).run.run ⟨hs, []⟩) := by
  induction es generalizing hs with
  | nil => exact (handOver_nothing receive (.ok ()) hs).symm
  | cons e es ih =>
    have hrun : (((e :: es).forM (ofEntity s)).run.run ⟨hs, []⟩ : Except Failure Unit × Progress) =
        (ofEntity s e >>= fun _ => es.forM (ofEntity s)).run.run ⟨hs, []⟩ := rfl
    unfold ofEntitiesInTurn
    rw [hrun, bind_run, ofEntityInTurn_eq]
    cases (ofEntity s e).run.run ⟨hs, []⟩ with
    | mk r P =>
      obtain ⟨hs', cs⟩ := P
      cases r with
      | error failure => simp [handOver, failureOf]
      | ok _ =>
        have happend := appends_forM (appends_ofEntity s) es hs' cs
        dsimp only
        rw [happend]
        simp [handOver, failureOf, ih, deliver_append]

end Monadic

end Production

/-- Handing over each class at once is generating first and handing over afterwards. -/
theorem Generator.generate_eq_generateInTurn {m : Type → Type} [Monad m] [LawfulMonad m]
    (g : Generator) (receive : GeneratedClass → m (Except IoFault Unit)) :
    g.generate receive = g.generateInTurn receive := by
  unfold generate generateInTurn produce
  dsimp only
  rw [Production.ofEntitiesInTurn_eq]
  cases (g.session.entities.values.forM (Production.ofEntity g.session)).run.run
      ⟨g.handlers, []⟩ with
  | mk r P =>
    cases r with
    | error failure => simp [Production.handOver, Production.failureOf, Except.map]
    | ok _ => simp [Production.handOver, Production.failureOf, Except.map]

/-! ## Calls of a receiver -/

/-- One call of a receiver. -/
structure Delivery where
  handed : GeneratedClass
  answer : Except IoFault Unit

namespace Delivery

def path (d : Delivery) : Path := d.handed.relativePath

def isReceived (d : Delivery) : Bool := d.answer.isOk

/-- The path of a class that is refused, with the reason. -/
def refusal? (d : Delivery) : Option (Path × IoFault) :=
  match d.answer with
  | .ok () => none
  | .error fault => some (d.path, fault)

/-- What is refused is what is not received. -/
theorem map_fst_refusals (ds : List Delivery) :
    (ds.filterMap refusal?).map Prod.fst = (ds.filter fun d => !d.isReceived).map path := by
  induction ds with
  | nil => rfl
  | cons d ds ih =>
    obtain ⟨c, answer⟩ := d
    cases answer with
    | ok _ => exact ih
    | error fault => exact congrArg (c.relativePath :: ·) ih

theorem length_received_add_refused (ds : List Delivery) :
    (ds.filter isReceived).length + (ds.filterMap refusal?).length = ds.length := by
  have hrefused := congrArg List.length (map_fst_refusals ds)
  rw [List.length_map, List.length_map] at hrefused
  rw [hrefused]
  exact (List.length_eq_length_filter_add isReceived).symm

end Delivery

namespace Sink

variable {σ : Type} (receive : GeneratedClass → StateM σ (Except IoFault Unit))

/-- The receiver with a note of each of its calls. -/
def noting (c : GeneratedClass) : StateM (σ × List Delivery) (Except IoFault Unit) := do
  let (w, calls) ← get
  let (answer, w) := (receive c).run w
  set (w, calls ++ [⟨c, answer⟩])
  return answer

/-- The calls of a receiver that is handed classes in order, from a state. -/
def callsOf : List GeneratedClass → σ → List Delivery
  | [], _ => []
  | c :: rest, w => ⟨c, ((receive c).run w).1⟩ :: callsOf rest ((receive c).run w).2

theorem map_handed_callsOf (cs : List GeneratedClass) (w : σ) :
    (callsOf receive cs w).map Delivery.handed = cs := by
  induction cs generalizing w with
  | nil => rfl
  | cons c cs ih => exact congrArg (c :: ·) (ih _)

/-- What a receiver answers to every class, it answers to those it is handed. -/
theorem answer_of_mem_callsOf {receive : GeneratedClass → StateM σ (Except IoFault Unit)}
    {answer : Except IoFault Unit} (h : ∀ c w, ((receive c).run w).1 = answer)
    {cs : List GeneratedClass} {w : σ} {d : Delivery} (hd : d ∈ callsOf receive cs w) :
    d.answer = answer := by
  induction cs generalizing w with
  | nil => exact absurd hd List.not_mem_nil
  | cons c cs ih =>
    rcases List.mem_cons.1 hd with rfl | hd
    · exact h c w
    · exact ih hd

/-- What is noted of a class, in front of the notes of later ones. -/
def noted (path : Path) (answer : Except IoFault Unit) (rest : List Path × List (Path × IoFault)) :
    List Path × List (Path × IoFault) :=
  match answer with
  | .ok () => (path :: rest.1, rest.2)
  | .error fault => (rest.1, (path, fault) :: rest.2)

theorem run_deliver_cons (c : GeneratedClass) (cs : List GeneratedClass) (w : σ) :
    (deliver receive (c :: cs)).run w =
      (noted c.relativePath ((receive c).run w).1
          ((deliver receive cs).run ((receive c).run w).2).1,
        ((deliver receive cs).run ((receive c).run w).2).2) := by
  cases h : (receive c).run w with
  | mk answer w' =>
    rw [deliver, StateT.run_bind, h]
    cases answer <;> rfl

/-- Notes of the calls change nothing. -/
theorem run_deliver_noting (cs : List GeneratedClass) (w : σ) (calls : List Delivery) :
    (deliver (noting receive) cs).run (w, calls) =
      (((deliver receive cs).run w).1,
        (((deliver receive cs).run w).2, calls ++ callsOf receive cs w)) := by
  induction cs generalizing w calls with
  | nil => rw [callsOf, List.append_nil]; rfl
  | cons c cs ih =>
    have hnoting : (noting receive c).run (w, calls) =
        (((receive c).run w).1, (((receive c).run w).2, calls ++ [⟨c, ((receive c).run w).1⟩])) :=
      rfl
    rw [run_deliver_cons, run_deliver_cons, hnoting, ih, callsOf, List.append_assoc]
    rfl

/-- The paths that are noted are those of the calls. -/
theorem run_deliver_fst (cs : List GeneratedClass) (w : σ) :
    ((deliver receive cs).run w).1 =
      (((callsOf receive cs w).filter Delivery.isReceived).map Delivery.path,
        (callsOf receive cs w).filterMap Delivery.refusal?) := by
  induction cs generalizing w with
  | nil => rfl
  | cons c cs ih =>
    rw [run_deliver_cons, ih, callsOf]
    cases ((receive c).run w).1 <;> rfl

end Sink

/-! ## What receivers see -/

namespace Generator

variable {config : Config} {user : Option Catalog.Bundle} {g : Generator} {σ τ : Type}

/-- The calls of a receiver during a generation, from a state. -/
def calls (g : Generator) (receive : GeneratedClass → StateM σ (Except IoFault Unit)) (w : σ) :
    List Delivery :=
  ((g.generate (Sink.noting receive)).run (w, [])).2.2

theorem run_generate_noting (g : Generator)
    (receive : GeneratedClass → StateM σ (Except IoFault Unit)) (w : σ) :
    (g.generate (Sink.noting receive)).run (w, []) =
      (((g.generate receive).run w).1,
        (((g.generate receive).run w).2, Sink.callsOf receive g.produce.classes w)) := by
  have hrun {ω : Type} (receive : GeneratedClass → StateM ω (Except IoFault Unit)) (w : ω) :
      (g.generate receive).run w =
        ((g.produce.outcome.map
            (⟨·, ((deliver receive g.produce.classes).run w).1.1,
              ((deliver receive g.produce.classes).run w).1.2⟩),
          { g with handlers := g.produce.handlers }),
          ((deliver receive g.produce.classes).run w).2) := rfl
  rw [hrun, hrun, Sink.run_deliver_noting, List.nil_append]

theorem calls_eq (g : Generator) (receive : GeneratedClass → StateM σ (Except IoFault Unit))
    (w : σ) : g.calls receive w = Sink.callsOf receive g.produce.classes w := by
  unfold calls
  rw [run_generate_noting]

/-- A receiver is handed the classes of the generator, whatever it answers. -/
theorem map_handed_calls (g : Generator)
    (receive : GeneratedClass → StateM σ (Except IoFault Unit)) (w : σ) :
    (g.calls receive w).map Delivery.handed = g.produce.classes := by
  rw [calls_eq]
  exact Sink.map_handed_callsOf receive _ w

/-- A report tells the calls that received a class from those that refused it. -/
theorem run_generate_fst (g : Generator)
    (receive : GeneratedClass → StateM σ (Except IoFault Unit)) (w : σ) :
    ((g.generate receive).run w).1 =
      (g.produce.outcome.map
        (⟨·, ((g.calls receive w).filter Delivery.isReceived).map Delivery.path,
          (g.calls receive w).filterMap Delivery.refusal?⟩),
        { g with handlers := g.produce.handlers }) := by
  have hrun : ((g.generate receive).run w).1 =
      (g.produce.outcome.map
          (⟨·, ((deliver receive g.produce.classes).run w).1.1,
            ((deliver receive g.produce.classes).run w).1.2⟩),
        { g with handlers := g.produce.handlers }) := rfl
  rw [hrun, Sink.run_deliver_fst, calls_eq]

/-- Entities stand in the order of their names. -/
theorem Reachable.ascending (h : Reachable config user g) :
    g.session.entities.values.Pairwise fun a b => compare a.name b.name = .lt := by
  unfold SortedMap.values
  rw [List.pairwise_map]
  refine g.session.entities.ascending.imp_of_mem fun ha hb hlt => ?_
  rwa [(h.wellKept.named _ ha).1, (h.wellKept.named _ hb).1] at hlt

theorem length_outputs (g : Generator) :
    g.outputs.length = g.session.entities.values.length * g.handlers.length := by
  have hlength : ∀ es : List Entity, (Draft.outputs g.targets es).length =
      es.length * g.handlers.length := by
    intro es
    induction es with
    | nil => exact (Nat.zero_mul _).symm
    | cons e es ih =>
      unfold Draft.outputs at ih ⊢
      rw [List.flatMap_cons, List.length_append, ih, List.length_map, targets, List.length_map,
        List.length_cons, Nat.succ_mul, Nat.add_comm]
  exact hlength _

/-- Two receivers are handed the same classes, those of the entities in the order of names and for
each of the handlers in their order, and see the same outcome, whatever they answer: it reaches the
report alone, which tells what was received from what was refused, in order. -/
theorem Reachable.isolates_receivers (h : Reachable config user g)
    (receive : GeneratedClass → StateM σ (Except IoFault Unit)) (w : σ)
    (receive' : GeneratedClass → StateM τ (Except IoFault Unit)) (w' : τ) :
    let run := (g.generate receive).run w
    let run' := (g.generate receive').run w'
    let calls := g.calls receive w
    g.generate receive = g.generateInTurn receive ∧
    (g.generate (Sink.noting receive)).run (w, []) = (run.1, (run.2, calls)) ∧
    calls.map Delivery.handed = (g.calls receive' w').map Delivery.handed ∧
    run.1.1.map (fun _ => ()) = run'.1.1.map (fun _ => ()) ∧ run.1.2 = run'.1.2 ∧
    (g.session.entities.values.Pairwise fun a b => compare a.name b.name = .lt) ∧
    (∃ done rest, g.outputs = done ++ rest ∧
      List.Forall₂ (fun o d => Draft.IsClassOf g.session o.1 o.2 d.handed) done calls) ∧
    ∀ report, run.1.1 = .ok report →
      List.Forall₂ (fun o d => Draft.IsClassOf g.session o.1 o.2 d.handed) g.outputs calls ∧
      report.classes = g.session.entities.values.length ∧
      report.written = (calls.filter Delivery.isReceived).map Delivery.path ∧
      report.failed = calls.filterMap Delivery.refusal? ∧
      report.failed.map Prod.fst = (calls.filter fun d => !d.isReceived).map Delivery.path ∧
      report.written.length + report.failed.length = report.classes * g.handlers.length := by
  intro run run' calls
  have hclean := h.wellKept.clean
  have hcalls : calls.map Delivery.handed = g.produce.classes := g.map_handed_calls receive w
  have hfst : run.1 = _ := g.run_generate_fst receive w
  have hfst' : run'.1 = _ := g.run_generate_fst receive' w'
  refine ⟨g.generate_eq_generateInTurn receive, ?_, ?_, ?_, ?_, h.ascending, ?_, ?_⟩
  · show _ = (_, (_, g.calls receive w))
    unfold Generator.calls
    rw [run_generate_noting]
  · rw [hcalls, g.map_handed_calls receive' w']
  · rw [hfst, hfst']
    cases g.produce.outcome <;> rfl
  · rw [hfst, hfst']
  · obtain ⟨done, rest, houtputs, hdone, -⟩ := g.follows_outputs
    rw [← (produce_spec hclean).1, ← hcalls] at hdone
    exact ⟨done, rest, houtputs, List.forall₂_map_right_iff.1 hdone⟩
  · intro report hreport
    rw [hfst] at hreport
    obtain ⟨count, hcount, rfl⟩ := map_eq_ok.1 hreport
    have hall := forall₂_outputs hclean hcount
    rw [← hcalls] at hall
    have hentities : count = g.session.entities.values.length := by
      have houtcome := (produce_spec hclean).2.1
      rw [hcount] at houtcome
      cases hm : g.made.2 with
      | none =>
        rw [hm] at houtcome
        exact Except.ok.inj houtcome
      | some failure =>
        rw [hm] at houtcome
        cases houtcome
    refine ⟨List.forall₂_map_right_iff.1 hall, hentities, rfl, rfl,
      Delivery.map_fst_refusals calls, ?_⟩
    have hlength := hall.length_eq
    rw [length_outputs, List.length_map] at hlength
    rw [List.length_map, Delivery.length_received_add_refused, ← hlength, hentities]

/-- A receiver that has room for some classes and refuses the others. -/
def bounded (room : Nat) (_ : GeneratedClass) : StateM Nat (Except IoFault Unit) := do
  let held ← get
  if held < room then
    set (held + 1)
    return .ok ()
  else
    return .error (.other "no room")

/-- Of six classes, a receiver with room for four is handed as many as memory, and both see
success. -/
theorem bounded_isolated_from_memory :
    Reachable .standard none ofNamesakes ∧
    (ofNamesakes.calls (bounded 4) 0).map Delivery.handed =
      (ofNamesakes.calls Sink.memory .empty).map Delivery.handed ∧
    ∃ report, ((ofNamesakes.generate (bounded 4)).run 0).1.1 = .ok report ∧
      report.written.length + report.failed.length = 6 := by
  obtain ⟨-, -, hcalls, hsame, -, -, -, hreport⟩ :=
    reachable_ofNamesakes.isolates_receivers (bounded 4) 0 Sink.memory .empty
  refine ⟨reachable_ofNamesakes, hcalls, ?_⟩
  obtain ⟨count, hcount⟩ := exists_outcome_ofNamesakes
  rw [generate_memory_of_outcome hcount] at hsame
  obtain ⟨report, hok, -⟩ := map_eq_ok.1 hsame
  obtain ⟨-, hclasses, -, -, -, hlength⟩ := hreport report hok
  refine ⟨report, hok, ?_⟩
  rw [hlength, hclasses, values_ofNamesakes]
  rfl

end Generator

end XmlBinding
