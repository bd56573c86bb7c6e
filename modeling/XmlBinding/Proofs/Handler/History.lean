import XmlBinding.Proofs.Generator.Begins
import XmlBinding.Proofs.Linking

/-!
# What a handler remembers

The callbacks of a handler may come in any order and may fail. A class that a handler ends is that
of the last entity that has begun, with the properties that were taken since. Nothing else of its
past shows in the class, not even the callbacks that failed in between.

* `Call`, `Event` : a callback, and what comes of it; `Event.taken` : the properties taken;
* `Handler.log s h calls` : what comes of callbacks in order;
* `Holds.start`, `Holds.receive_refused`, `Clean.holdsClass`, … : a callback to a handler with a
  class, and to one without;
* `Handler.Recalls s t history h` : the class that a handler holds follows from its history;
  `Recalls.answer` : also after one more callback;
* `Handler.finished_of_log` : the class that a handler ends.
-/

namespace XmlBinding

/-- Callbacks of a handler. -/
inductive Call where
  | start (e : Entity)
  | receive (p : Property)
  | finish
  | reset
  deriving DecidableEq, Repr

/-- What comes of a callback. -/
inductive Event where
  | started (e : Entity)
  | received (p : Property)
  | finished (c : GeneratedClass)
  | discarded
  | refused (call : Call) (failure : Failure)
  deriving Repr

namespace Event

/-- The event of a callback by its result. -/
def ofResult {β : Type} (call : Call) (event : β → Event) : Except Failure β → Event
  | .ok b => event b
  | .error failure => refused call failure

/-- The callback of an event. -/
def call : Event → Call
  | started e => .start e
  | received p => .receive p
  | finished _ => .finish
  | discarded => .reset
  | refused call _ => call

theorem call_ofResult {β : Type} {call : Call} {event : β → Event} (h : ∀ b, (event b).call = call)
    (r : Except Failure β) : (ofResult call event r).call = call := by
  cases r with
  | ok b => exact h b
  | error failure => rfl

/-- The property that was taken. -/
def property? : Event → Option Property
  | received p => some p
  | _ => none

def taken (events : List Event) : List Property := events.filterMap property?

theorem taken_append_received (events : List Event) (p : Property) :
    taken (events ++ [received p]) = taken events ++ [p] := List.filterMap_append

theorem taken_append_refused (events : List Event) (call : Call) (failure : Failure) :
    taken (events ++ [refused call failure]) = taken events :=
  List.filterMap_append.trans (List.append_nil _)

/-- No entity begins by the event, and its callback neither ends a class nor discards one. -/
structure IsWithin (event : Event) : Prop where
  goes_on : ∀ e, event ≠ started e
  not_finish : event.call ≠ .finish
  not_reset : event.call ≠ .reset

theorem isWithin_received (p : Property) : (received p).IsWithin where
  goes_on _ := nofun
  not_finish := nofun
  not_reset := nofun

theorem isWithin_refused_start (e : Entity) (failure : Failure) :
    (refused (.start e) failure).IsWithin where
  goes_on _ := nofun
  not_finish := nofun
  not_reset := nofun

theorem isWithin_refused_receive (p : Property) (failure : Failure) :
    (refused (.receive p) failure).IsWithin where
  goes_on _ := nofun
  not_finish := nofun
  not_reset := nofun

end Event

namespace Handler

/-! ## Callbacks one after another -/

def answer (s : Session) (h : Handler) : Call → Event × Handler
  | .start e => (.ofResult (.start e) (fun _ => .started e) (h.start s e).1, (h.start s e).2)
  | .receive p =>
    (.ofResult (.receive p) (fun _ => .received p) (h.receive s p).1, (h.receive s p).2)
  | .finish => (.ofResult .finish .finished (h.finish s).1, (h.finish s).2)
  | .reset => (.discarded, h.reset)

/-- What comes of callbacks in order. -/
def log (s : Session) (h : Handler) : List Call → List Event
  | [] => []
  | call :: calls => (h.answer s call).1 :: (h.answer s call).2.log s calls

variable {s : Session} {h : Handler} {t : Target} {d : Draft}

theorem call_answer (s : Session) (h : Handler) (call : Call) :
    (h.answer s call).1.call = call := by
  cases call with
  | start e => exact Event.call_ofResult (fun _ => rfl) (h.start s e).1
  | receive p => exact Event.call_ofResult (fun _ => rfl) (h.receive s p).1
  | finish => exact @Event.call_ofResult _ .finish .finished (fun _ => rfl) (h.finish s).1
  | reset => rfl

theorem target_answer (s : Session) (h : Handler) (call : Call) :
    (h.answer s call).2.target = h.target := by
  cases call with
  | start e => exact (leaves_start s e h).target
  | receive p => cases h <;> rfl
  | finish => cases h <;> rfl
  | reset => exact target_fresh h.target

/-! ## A handler with a class -/

theorem Holds.exists_stage (hd : h.Holds d) :
    (∃ phase m, (phase = .begun ∨ phase = .properties) ∧ h = model ⟨phase, some m⟩ ∧
      d = .model m) ∨
    (∃ phase f, (phase = .begun ∨ phase = .properties) ∧ h = clientBuilder ⟨phase, some f⟩ ∧
      d = .clientBuilder f) ∨
    ∃ phase f, (phase = .begun ∨ phase = .properties) ∧ h = serverBuilder ⟨phase, some f⟩ ∧
      d = .serverBuilder f := by
  rcases h with ⟨phase, current⟩ | ⟨phase, current⟩ | ⟨phase, current⟩ <;> rcases d with m | f | f
  case model.model =>
    obtain ⟨hphase, rfl⟩ := hd
    exact .inl ⟨phase, m, hphase, rfl, rfl⟩
  case clientBuilder.clientBuilder =>
    obtain ⟨hphase, rfl⟩ := hd
    exact .inr (.inl ⟨phase, f, hphase, rfl, rfl⟩)
  case serverBuilder.serverBuilder =>
    obtain ⟨hphase, rfl⟩ := hd
    exact .inr (.inr ⟨phase, f, hphase, rfl, rfl⟩)
  all_goals exact hd.elim

/-- A handler that holds a class refuses another entity. -/
theorem Holds.start (hd : h.Holds d) (s : Session) (e : Entity) :
    ∃ failure, h.start s e = (.error failure, h) := by
  obtain ⟨phase, m, rfl | rfl, rfl, rfl⟩ | ⟨phase, f, rfl | rfl, rfl, rfl⟩ |
    ⟨phase, f, rfl | rfl, rfl, rfl⟩ := hd.exists_stage
  all_goals exact ⟨_, rfl⟩

/-- A property that is refused leaves the class as it is. -/
theorem Holds.receive_refused (hd : h.Holds d) {p : Property} {failure : Failure}
    (hr : d.receive s p = .error failure) : (h.receive s p).2.Holds d := by
  have hframe {f : ClassFrame} {phase : Phase} {wrap : ClassFrame → Draft}
      (hphase : phase = .begun ∨ phase = .properties)
      (hr : (Builder.addProperty p f).map wrap = .error failure) :
      ((Builder.receive p).run.run ⟨phase, some f⟩).2.Holds f := by
    rw [Builder.receive_run ⟨hphase, rfl⟩]
    cases hp : Builder.addProperty p f with
    | ok f' =>
      rw [hp] at hr
      cases hr
    | error failure' => exact ⟨.inr rfl, rfl⟩
  obtain ⟨phase, m, hphase, rfl, rfl⟩ | ⟨phase, f, hphase, rfl, rfl⟩ |
    ⟨phase, f, hphase, rfl, rfl⟩ := hd.exists_stage
  · cases hr
  · exact hframe hphase hr
  · exact hframe hphase hr

/-! ## A handler without a class -/

theorem Clean.holdsClass (hh : h.Clean) : h.holdsClass = false := by
  cases h with
  | model | clientBuilder | serverBuilder => rw [Handler.holdsClass, hh.2]; rfl

theorem exists_stage_of_holdsClass (hh : h.holdsClass = false) :
    ∃ phase, h = model ⟨phase, none⟩ ∨ h = clientBuilder ⟨phase, none⟩ ∨
      h = serverBuilder ⟨phase, none⟩ := by
  rcases h with ⟨phase, _ | a⟩ | ⟨phase, _ | a⟩ | ⟨phase, _ | a⟩
  case model.none => exact ⟨phase, .inl rfl⟩
  case clientBuilder.none => exact ⟨phase, .inr (.inl rfl)⟩
  case serverBuilder.none => exact ⟨phase, .inr (.inr rfl)⟩
  all_goals cases hh

theorem holdsClass_start (hh : h.holdsClass = false) {e : Entity} {failure : Failure}
    (hr : (h.start s e).1 = .error failure) : (h.start s e).2.holdsClass = false := by
  have hstage {α : Type} {phase : Phase} {make : Except Failure α}
      (hr : ((do Callback.enter .begun; Callback.put (← liftM make) : Callback α Unit).run.run
        ⟨phase, none⟩).1 = .error failure) :
      ((do Callback.enter .begun; Callback.put (← liftM make) : Callback α Unit).run.run
        ⟨phase, none⟩).2.current.isSome = false := by
    obtain ⟨phase', -, hrun⟩ := Stage.start_runs ⟨phase, none⟩ make
    rw [hrun] at hr ⊢
    cases hb : Stage.begun ⟨phase, none⟩ make with
    | ok a =>
      rw [hb] at hr
      cases hr
    | error failure' => rfl
  obtain ⟨phase, rfl | rfl | rfl⟩ := exists_stage_of_holdsClass hh
  · exact hstage hr
  · exact hstage hr
  · exact hstage hr

theorem holdsClass_receive (hh : h.holdsClass = false) (s : Session) (p : Property) :
    (h.receive s p).2.holdsClass = false := by
  obtain ⟨phase, rfl | rfl | rfl⟩ := exists_stage_of_holdsClass hh
  · show (running model (Model.receive s p) ⟨phase, none⟩).2.holdsClass = false
    unfold Model.receive
    cases p.isHidden .marshalling <;> cases phase <;> rfl
  · cases phase <;> rfl
  · cases phase <;> rfl

theorem finish_of_holdsClass (hh : h.holdsClass = false) (s : Session) :
    (∃ failure, (h.finish s).1 = .error failure) ∧ (h.finish s).2.holdsClass = false := by
  obtain ⟨phase, rfl | rfl | rfl⟩ := exists_stage_of_holdsClass hh
  all_goals cases phase <;> exact ⟨⟨_, rfl⟩, rfl⟩

/-! ## Histories -/

/-- An entity is the last that has begun, and its class is neither ended nor discarded since. -/
def BeganLast (history : List Event) (e : Entity) (since : List Event) : Prop :=
  (∃ earlier, history = earlier ++ .started e :: since) ∧ ∀ event ∈ since, event.IsWithin

theorem beganLast_started (history : List Event) (e : Entity) :
    BeganLast (history ++ [.started e]) e [] :=
  ⟨⟨history, rfl⟩, fun _ h => nomatch h⟩

theorem BeganLast.append {history since : List Event} {e : Entity} {event : Event}
    (hb : BeganLast history e since) (hw : event.IsWithin) :
    BeganLast (history ++ [event]) e (since ++ [event]) := by
  obtain ⟨⟨earlier, rfl⟩, hwithin⟩ := hb
  refine ⟨⟨earlier, by rw [List.append_assoc, List.cons_append]⟩, fun x hx => ?_⟩
  rcases List.mem_append.1 hx with hx | hx
  · exact hwithin x hx
  · rw [List.mem_singleton.1 hx]
    exact hw

/-- The draft of an entity with the properties that were taken since it began. -/
def DraftSince (s : Session) (t : Target) (e : Entity) (since : List Event) (d : Draft) : Prop :=
  Draft.start s e t >>= Draft.receives s (Event.taken since) = .ok d

theorem DraftSince.refused {e : Entity} {since : List Event} (hd : DraftSince s t e since d)
    (call : Call) (failure : Failure) :
    DraftSince s t e (since ++ [.refused call failure]) d := by
  rw [DraftSince, Event.taken_append_refused]
  exact hd

theorem DraftSince.received {e : Entity} {since : List Event} (hd : DraftSince s t e since d)
    {p : Property} {d' : Draft} (hp : d.receive s p = .ok d') :
    DraftSince s t e (since ++ [.received p]) d' := by
  obtain ⟨d₀, hstart, hsince⟩ := bind_eq_ok.1 hd
  refine bind_eq_ok.2 ⟨d₀, hstart, ?_⟩
  rw [Event.taken_append_received, Draft.receives, List.foldlM_append]
  refine bind_eq_ok.2 ⟨d, hsince, ?_⟩
  rw [List.foldlM_cons, hp]
  rfl

/-- A handler of a target holds no class, or that of the entity that began last, with the properties
that were taken since. -/
structure Recalls (s : Session) (t : Target) (history : List Event) (h : Handler) : Prop where
  target : h.target = t
  holds : h.holdsClass = false ∨
    ∃ e since d, BeganLast history e since ∧ h.Holds d ∧ DraftSince s t e since d

theorem recalls_fresh (s : Session) (t : Target) : Recalls s t [] (fresh t) where
  target := target_fresh t
  holds := .inl (clean_fresh t).holdsClass

variable {history : List Event}

theorem Recalls.start (hr : Recalls s t history h) (e : Entity) :
    Recalls s t (history ++ [(h.answer s (.start e)).1]) (h.answer s (.start e)).2 := by
  refine ⟨(target_answer s h _).trans hr.target, ?_⟩
  rcases hr.holds with hempty | ⟨e', since, d, hbegan, hd, hmade⟩
  · cases hresult : (h.start s e).1 with
    | error failure => exact .inl (holdsClass_start hempty hresult)
    | ok _ =>
      have hleaves := leaves_start s e h
      obtain ⟨d, hd, -⟩ := map_eq_ok.1 (hleaves.result.symm.trans hresult)
      have hevent : (h.answer s (.start e)).1 = .started e := by rw [Handler.answer, hresult]; rfl
      rw [hevent]
      refine .inr ⟨e, [], d, beganLast_started history e, hleaves.holds d hd, ?_⟩
      rw [DraftSince, ← hr.target, begins_of_ok hd]
      rfl
  · obtain ⟨failure, hstart⟩ := hd.start s e
    have hanswer : h.answer s (.start e) = (.refused (.start e) failure, h) := by
      rw [Handler.answer, hstart]
      rfl
    rw [hanswer]
    exact .inr ⟨e', _, d, hbegan.append (Event.isWithin_refused_start e failure), hd,
      hmade.refused _ failure⟩

theorem Recalls.receive (hr : Recalls s t history h) (p : Property) :
    Recalls s t (history ++ [(h.answer s (.receive p)).1]) (h.answer s (.receive p)).2 := by
  refine ⟨(target_answer s h _).trans hr.target, ?_⟩
  rcases hr.holds with hempty | ⟨e, since, d, hbegan, hd, hmade⟩
  · exact .inl (holdsClass_receive hempty s p)
  · have hleaves := hd.receive s p
    cases hp : d.receive s p with
    | ok d' =>
      have hevent : (h.answer s (.receive p)).1 = .received p := by
        rw [Handler.answer, hleaves.result, hp]
        rfl
      rw [hevent]
      exact .inr ⟨e, _, d', hbegan.append (Event.isWithin_received p), hleaves.holds d' hp,
        hmade.received hp⟩
    | error failure =>
      have hevent : (h.answer s (.receive p)).1 = .refused (.receive p) failure := by
        rw [Handler.answer, hleaves.result, hp]
        rfl
      rw [hevent]
      exact .inr ⟨e, _, d, hbegan.append (Event.isWithin_refused_receive p failure),
        hd.receive_refused hp, hmade.refused _ failure⟩

theorem Recalls.finish (hr : Recalls s t history h) :
    Recalls s t (history ++ [(h.answer s .finish).1]) (h.answer s .finish).2 := by
  refine ⟨(target_answer s h _).trans hr.target, .inl ?_⟩
  rcases hr.holds with hempty | ⟨e, since, d, -, hd, -⟩
  · exact (finish_of_holdsClass hempty s).2
  · exact (hd.finish s).2.2.holdsClass

/-- One callback more. -/
theorem Recalls.answer (hr : Recalls s t history h) (call : Call) :
    Recalls s t (history ++ [(h.answer s call).1]) (h.answer s call).2 := by
  cases call with
  | start e => exact hr.start e
  | receive p => exact hr.receive p
  | finish => exact hr.finish
  | reset => exact ⟨(target_fresh h.target).trans hr.target, .inl h.clean_reset.holdsClass⟩

/-- A class that a handler ends is made of the entity that began last and of what was taken
since. -/
theorem Recalls.finished (hr : Recalls s t history h) {call : Call} {c : GeneratedClass}
    (hc : (h.answer s call).1 = .finished c) :
    ∃ e since, BeganLast history e since ∧ Draft.ofTarget s (Event.taken since) e t = .ok c := by
  have hcall : call = .finish := by rw [← call_answer s h call, hc]; rfl
  have hfinish : (h.finish s).1 = .ok c := by
    rw [hcall, Handler.answer] at hc
    cases hresult : (h.finish s).1 with
    | ok c' =>
      rw [hresult] at hc
      cases hc
      rfl
    | error failure =>
      rw [hresult] at hc
      cases hc
  rcases hr.holds with hempty | ⟨e, since, d, hbegan, hd, hmade⟩
  · obtain ⟨⟨failure, hfailure⟩, -⟩ := finish_of_holdsClass hempty s
    cases hfailure.symm.trans hfinish
  · obtain ⟨d₀, hstart, hmade⟩ := bind_eq_ok.1 hmade
    refine ⟨e, since, hbegan, bind_eq_ok.2 ⟨d₀, hstart, bind_eq_ok.2 ⟨d, hmade, ?_⟩⟩⟩
    exact (hd.finish s).1.symm.trans hfinish

/-- Any number of callbacks more. -/
theorem Recalls.log (hr : Recalls s t history h) {calls : List Call} {before later : List Event}
    {c : GeneratedClass} (hc : h.log s calls = before ++ .finished c :: later) :
    ∃ e since, BeganLast (history ++ before) e since ∧
      Draft.ofTarget s (Event.taken since) e t = .ok c := by
  induction calls generalizing history h before with
  | nil => cases before <;> cases hc
  | cons call calls ih =>
    rw [Handler.log] at hc
    cases before with
    | nil =>
      rw [List.append_nil]
      exact hr.finished (List.cons.inj hc).1
    | cons event before =>
      obtain ⟨hevent, hrest⟩ := List.cons.inj hc
      have hmade := ih (hr.answer call) hrest
      rw [hevent, List.append_assoc, List.singleton_append] at hmade
      exact hmade

/-! ## A fresh handler -/

theorem log_receives (hd : h.Holds d) {ps : List Property} {d' : Draft} {c : GeneratedClass}
    (hps : d.receives s ps = .ok d') (hc : d'.finish s = .ok c) :
    h.log s (ps.map .receive ++ [.finish]) = ps.map .received ++ [.finished c] := by
  induction ps generalizing h d with
  | nil =>
    cases hps
    have hfinish : (h.finish s).1 = .ok c := (hd.finish s).1.trans hc
    show [Event.ofResult .finish .finished (h.finish s).1] = [.finished c]
    rw [hfinish]
    rfl
  | cons p ps ih =>
    obtain ⟨d₁, hd₁, hps⟩ := bind_eq_ok.1 (List.foldlM_cons.symm.trans hps)
    have hleaves := hd.receive s p
    have hresult : (h.receive s p).1 = .ok () := by rw [hleaves.result, hd₁]; rfl
    rw [List.map_cons, List.map_cons, List.cons_append, List.cons_append, log,
      ← ih (hleaves.holds d₁ hd₁) hps, answer, hresult]
    rfl

/-- A fresh handler makes the class of an entity with properties, where there is one. -/
theorem log_fresh {ps : List Property} {e : Entity} {c : GeneratedClass}
    (hc : Draft.ofTarget s ps e t = .ok c) :
    (fresh t).log s (.start e :: (ps.map .receive ++ [.finish])) =
      .started e :: (ps.map .received ++ [.finished c]) := by
  obtain ⟨d₀, hstart, hc⟩ := bind_eq_ok.1 hc
  obtain ⟨d, hps, hc⟩ := bind_eq_ok.1 hc
  have hleaves := leaves_start s e (fresh t)
  have hbegins : (fresh t).begins s e = .ok d₀ := by
    rw [(clean_fresh t).begins, target_fresh]
    exact hstart
  have hresult : ((fresh t).start s e).1 = .ok () := by rw [hleaves.result, hbegins]; rfl
  rw [log, ← log_receives (hleaves.holds d₀ hbegins) hps hc, answer, hresult]
  rfl

/-! ## Any handler -/

/-- A handler never renders what is past. Whatever callbacks a fresh handler gets, a class that it
ends has an entity that began last, and none was ended or discarded since. The class is the one that
a fresh handler makes of that entity and of the properties that were taken since, whatever was
refused in between. -/
theorem finished_of_log {calls : List Call} {before later : List Event} {c : GeneratedClass}
    (hc : (fresh t).log s calls = before ++ .finished c :: later) :
    ∃ e since, BeganLast before e since ∧
      (fresh t).log s (.start e :: ((Event.taken since).map .receive ++ [.finish])) =
        .started e :: ((Event.taken since).map .received ++ [.finished c]) := by
  obtain ⟨e, since, hbegan, hmade⟩ := (recalls_fresh s t).log hc
  exact ⟨e, since, hbegan, log_fresh hmade⟩

open Generator (ofPersons person partner)

/-- A relative of a person, wanted as an attribute. -/
def kin : Property := { partner with name := "kin", node := ⟨.attribute, "kin"⟩ }

/-- The server builder of a person, when it begins. -/
def personFrame : ClassFrame :=
  .opening person "shop" (ofPersons.session.className person .serverBuilder) person.simpleName

theorem start_person :
    Draft.start ofPersons.session person .serverBuilder = .ok (.serverBuilder personFrame) := rfl

/-- A property comes too early, and the handler is reset. Then a person begins, a relative is
refused, another person is refused, and the partner comes. -/
def events : List Event := [
  .refused (.receive partner) (.invalidState ⟨.leadingTo .properties, .idle⟩),
  .discarded,
  .started person,
  .refused (.receive kin) (.complexAttribute person.name kin.name),
  .refused (.start person) (.invalidState ⟨.leadingTo .begun, .properties⟩),
  .received partner]

theorem log_person : ∃ c,
    (fresh .serverBuilder).log ofPersons.session (events.map Event.call ++ [.finish]) =
      events ++ [.finished c] := by
  obtain ⟨c, hc⟩ := Generator.reachable_ofPersons.exists_mem_zip rfl
    Generator.generable_of_mem_ofPersons (List.mem_singleton.2 rfl) .serverBuilder
  obtain ⟨ps, hps, hmade⟩ := Generator.isClassOf_of_mem_zip
    Generator.reachable_ofPersons.wellKept.clean hc
  cases Generator.describe_person.symm.trans hps
  obtain ⟨d₀, hstart, hmade⟩ := bind_eq_ok.1 hmade
  obtain ⟨d, hreceived, hfinish⟩ := bind_eq_ok.1 hmade
  cases start_person.symm.trans hstart
  have hopen : (serverBuilder ⟨.properties, some personFrame⟩).Holds (.serverBuilder personFrame) :=
    ⟨.inr rfl, rfl⟩
  exact ⟨c, congrArg (events.dropLast ++ ·) (log_receives hopen hreceived hfinish)⟩

/-- The class that comes of these events is that of a person with a partner. -/
theorem finished_of_log_person : ∃ c,
    (fresh .serverBuilder).log ofPersons.session (events.map Event.call ++ [.finish]) =
      events ++ [.finished c] ∧
    ∃ e since, BeganLast events e since ∧
      (fresh .serverBuilder).log ofPersons.session
          (.start e :: ((Event.taken since).map .receive ++ [.finish])) =
        .started e :: ((Event.taken since).map .received ++ [.finished c]) := by
  obtain ⟨c, hlog⟩ := log_person
  exact ⟨c, hlog, finished_of_log hlog⟩

end Handler

end XmlBinding
