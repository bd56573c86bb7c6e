import XmlBinding.Proofs.Generator.Abort
import XmlBinding.Proofs.Handler.History

/-!
# Phases and open classes

A handler is in the phase of an open class where it holds one, with one exception. An entity that is
refused for its own sake is refused behind the step to the new phase, and no class is open in it
until the class is ended or discarded.

* `Handler.through s h calls` : a handler after some callbacks;
* `RefusedLast history` : an entity was refused for its own sake, and no class ended or discarded
  since; `refusedLast_append_iff` : one event more;
* `hasOpenClass_start`, `receive_of_open`, `finish_of_open`, … : phase and class after a callback;
* `Handler.InStep history h` : where phase and class agree, `InStep.answer`;
* `Handler.phase_agrees_iff` : after any callbacks.
-/

namespace XmlBinding

/-! ## Histories -/

/-- An entity is refused for its own sake. -/
def Event.RefusesEntity : Event → Prop
  | refused (.start _) failure => failure.IsEntityFault
  | _ => False

/-- A class stays open, where one is, and none is discarded. -/
structure Event.KeepsOpen (event : Event) : Prop where
  not_finish : event.call ≠ .finish
  not_reset : event.call ≠ .reset

/-- An entity was refused for its own sake, and the class that it should have had is neither ended
nor discarded since. -/
def RefusedLast (history : List Event) : Prop :=
  ∃ earlier event since, history = earlier ++ event :: since ∧ event.RefusesEntity ∧
    ∀ later ∈ since, later.KeepsOpen

theorem not_refusedLast_nil : ¬RefusedLast [] := by
  rintro ⟨earlier, event, since, heq, -⟩
  exact absurd heq.symm (List.append_ne_nil_of_right_ne_nil _ (List.cons_ne_nil _ _))

theorem refusedLast_append_iff {history : List Event} {event : Event} :
    RefusedLast (history ++ [event]) ↔
      event.RefusesEntity ∨ RefusedLast history ∧ event.KeepsOpen := by
  constructor
  · rintro ⟨earlier, refusal, since, heq, hrefuses, hkeeps⟩
    rcases List.eq_nil_or_concat since with rfl | ⟨since, last, rfl⟩
    · obtain ⟨-, rfl⟩ := List.append_singleton_inj.1 heq
      exact .inl hrefuses
    · rw [List.concat_eq_append] at heq hkeeps
      rw [← List.cons_append, ← List.append_assoc] at heq
      obtain ⟨hhistory, rfl⟩ := List.append_singleton_inj.1 heq
      refine .inr ⟨⟨earlier, refusal, since, hhistory, hrefuses, fun later hlater => ?_⟩, ?_⟩
      · exact hkeeps later (List.mem_append_left _ hlater)
      · exact hkeeps event (List.mem_append_right _ (List.mem_singleton_self _))
  · rintro (hrefuses | ⟨⟨earlier, refusal, since, rfl, hrefuses, hkeeps⟩, hevent⟩)
    · exact ⟨history, event, [], rfl, hrefuses, fun _ h => nomatch h⟩
    · refine ⟨earlier, refusal, since ++ [event], ?_, hrefuses, fun later hlater => ?_⟩
      · rw [List.append_assoc, List.cons_append]
      · rcases List.mem_append.1 hlater with hlater | hlater
        · exact hkeeps later hlater
        · rw [List.mem_singleton.1 hlater]
          exact hevent

namespace Handler

variable {s : Session} {h : Handler} {e : Entity}

/-! ## A phase without an open class -/

theorem clean_of_closed (hphase : h.phase.hasOpenClass = false) (hempty : h.holdsClass = false) :
    h.Clean := by
  obtain ⟨phase, rfl | rfl | rfl⟩ := exists_stage_of_holdsClass hempty
  all_goals
    cases phase with
    | idle => exact ⟨.inl rfl, rfl⟩
    | ended => exact ⟨.inr rfl, rfl⟩
    | begun | properties => cases hphase

theorem receive_of_closed (hphase : h.phase.hasOpenClass = false) (s : Session) (p : Property) :
    ∃ fault, h.receive s p = (.error (.invalidState fault), h) := by
  rcases h with ⟨phase, current⟩ | ⟨phase, current⟩ | ⟨phase, current⟩
  all_goals
    cases phase with
    | idle | ended => exact ⟨_, rfl⟩
    | begun | properties => cases hphase

theorem finish_of_closed (hphase : h.phase.hasOpenClass = false) (s : Session) :
    (h.finish s).2 = h := by
  rcases h with ⟨phase, current⟩ | ⟨phase, current⟩ | ⟨phase, current⟩
  all_goals
    cases phase with
    | idle | ended => rfl
    | begun | properties => cases hphase

/-! ## A phase with an open class -/

theorem start_of_open (hphase : h.phase.hasOpenClass = true) (s : Session) (e : Entity) :
    ∃ fault, h.start s e = (.error (.invalidState fault), h) := by
  rcases h with ⟨phase, current⟩ | ⟨phase, current⟩ | ⟨phase, current⟩
  all_goals
    cases phase with
    | begun | properties => exact ⟨_, rfl⟩
    | idle | ended => cases hphase

theorem Clean.hasOpenClass (hh : h.Clean) : h.phase.hasOpenClass = false := by
  have hphase : h.phase = .idle ∨ h.phase = .ended := by
    cases h with
    | model | clientBuilder | serverBuilder => exact hh.1
  rcases hphase with hphase | hphase <;> rw [hphase] <;> rfl

theorem Holds.isOpen {d : Draft} (hd : h.Holds d) :
    h.phase.hasOpenClass = true ∧ h.holdsClass = true := by
  obtain ⟨phase, m, rfl | rfl, rfl, -⟩ | ⟨phase, f, rfl | rfl, rfl, -⟩ |
    ⟨phase, f, rfl | rfl, rfl, -⟩ := hd.exists_stage
  all_goals exact ⟨rfl, rfl⟩

theorem exists_holds (hphase : h.phase.hasOpenClass = true) (hheld : h.holdsClass = true) :
    ∃ d, h.Holds d := by
  have hopen {phase : Phase} (h : phase.hasOpenClass = true) :
      phase = .begun ∨ phase = .properties := by
    cases phase with
    | begun => exact .inl rfl
    | properties => exact .inr rfl
    | idle | ended => cases h
  rcases h with ⟨phase, _ | m⟩ | ⟨phase, _ | f⟩ | ⟨phase, _ | f⟩
  case model.some => exact ⟨.model m, hopen hphase, rfl⟩
  case clientBuilder.some => exact ⟨.clientBuilder f, hopen hphase, rfl⟩
  case serverBuilder.some => exact ⟨.serverBuilder f, hopen hphase, rfl⟩
  all_goals cases hheld

/-- A property changes nothing about whether a class is open, even where it is refused. -/
theorem receive_of_open (hphase : h.phase.hasOpenClass = true) (s : Session) (p : Property) :
    (h.receive s p).2.phase.hasOpenClass = true ∧ (h.receive s p).2.holdsClass = h.holdsClass := by
  cases hheld : h.holdsClass with
  | true =>
    obtain ⟨d, hd⟩ := exists_holds hphase hheld
    cases hr : d.receive s p with
    | ok d' => exact ((hd.receive s p).holds d' hr).isOpen
    | error failure => exact (hd.receive_refused hr).isOpen
  | false =>
    refine ⟨?_, holdsClass_receive hheld s p⟩
    obtain ⟨phase, rfl | rfl | rfl⟩ := exists_stage_of_holdsClass hheld
    · show (running model (Model.receive s p) ⟨phase, none⟩).2.phase.hasOpenClass = true
      unfold Model.receive
      cases p.isHidden .marshalling <;> cases phase <;> first | rfl | cases hphase
    · cases phase <;> first | rfl | cases hphase
    · cases phase <;> first | rfl | cases hphase

/-- The end of a class leaves a handler without one, even where it is refused. -/
theorem finish_of_open (hphase : h.phase.hasOpenClass = true) (s : Session) :
    (h.finish s).2.Clean := by
  cases hheld : h.holdsClass with
  | true =>
    obtain ⟨d, hd⟩ := exists_holds hphase hheld
    exact (hd.finish s).2.2
  | false =>
    obtain ⟨phase, rfl | rfl | rfl⟩ := exists_stage_of_holdsClass hheld
    all_goals
      cases phase with
      | begun | properties => exact ⟨.inr rfl, rfl⟩
      | idle | ended => cases hphase

/-! ## The beginning of a class -/

/-- Whatever comes of an entity, it leaves the phase of an open class. -/
theorem hasOpenClass_start (h : Handler) (s : Session) (e : Entity) :
    (h.start s e).2.phase.hasOpenClass = true := by
  have hstage {α : Type} (stage : Stage α) (make : Except Failure α) :
      ((do Callback.enter .begun; Callback.put (← liftM make) : Callback α Unit).run.run
        stage).2.phase.hasOpenClass = true := by
    obtain ⟨phase, hphase, hrun⟩ := stage.start_runs make
    rw [hrun]
    rcases hphase with rfl | rfl <;> rfl
  cases h with
  | model stage => exact hstage stage _
  | clientBuilder stage => exact hstage stage _
  | serverBuilder stage => exact hstage stage _

/-- A clean handler holds the class of an entity, or refuses the entity for its own sake. -/
theorem Clean.start (hh : h.Clean) (s : Session) (e : Entity) :
    (h.start s e).1 = .ok () ∧ (h.start s e).2.holdsClass = true ∨
      ∃ failure, (h.start s e).1 = .error failure ∧ failure.IsEntityFault ∧
        (h.start s e).2.holdsClass = false := by
  have hleaves := leaves_start s e h
  rw [hh.begins] at hleaves
  cases hstart : Draft.start s e h.target with
  | ok d =>
    rw [hstart] at hleaves
    exact .inl ⟨hleaves.result, (hleaves.holds d rfl).isOpen.2⟩
  | error failure =>
    rw [hstart] at hleaves
    exact .inr ⟨failure, hleaves.result, Draft.failsByEntity_start s e h.target failure hstart,
      holdsClass_start hh.holdsClass hleaves.result⟩

/-! ## Callbacks in order -/

/-- The handler after some callbacks. -/
def through (s : Session) (h : Handler) (calls : List Call) : Handler :=
  calls.foldl (fun h call => (h.answer s call).2) h

/-- Phase and class agree, but behind an entity that was refused for its own sake. -/
structure InStep (history : List Event) (h : Handler) : Prop where
  held : h.holdsClass = true → h.phase.hasOpenClass = true
  refused : h.phase.hasOpenClass = true ∧ h.holdsClass = false ↔ RefusedLast history

variable {history : List Event} {event : Event} {t : Target}

theorem InStep.holdsClass (hi : InStep history h) (hphase : h.phase.hasOpenClass = false) :
    h.holdsClass = false := by
  cases hheld : h.holdsClass with
  | false => rfl
  | true => exact absurd (hi.held hheld) (by rw [hphase]; exact Bool.false_ne_true)

theorem InStep.not_refusedLast (hi : InStep history h) (hphase : h.phase.hasOpenClass = false) :
    ¬RefusedLast history := by
  intro hrefused
  rw [(hi.refused.2 hrefused).1] at hphase
  cases hphase

/-- A clean handler is in step where nothing was refused for its own sake. -/
theorem InStep.of_clean (hh : h.Clean) (hr : ¬RefusedLast history) : InStep history h where
  held hheld := by
    rw [hh.holdsClass] at hheld
    cases hheld
  refused := by
    rw [hh.hasOpenClass]
    exact iff_of_false (fun hopen => nomatch hopen.1) hr

/-- An event that leaves phase and class as they are. -/
theorem InStep.unchanged {h' : Handler} (hi : InStep history h)
    (hphase : h'.phase.hasOpenClass = h.phase.hasOpenClass) (hheld : h'.holdsClass = h.holdsClass)
    (hrefuses : ¬event.RefusesEntity) (hkeeps : event.KeepsOpen) :
    InStep (history ++ [event]) h' where
  held := by
    rw [hphase, hheld]
    exact hi.held
  refused := by
    rw [hphase, hheld, refusedLast_append_iff, hi.refused]
    exact ⟨fun h => .inr ⟨h, hkeeps⟩, fun h => (h.resolve_left hrefuses).1⟩

theorem InStep.start (hi : InStep history h) (s : Session) (e : Entity) :
    InStep (history ++ [(h.answer s (.start e)).1]) (h.answer s (.start e)).2 := by
  cases hphase : h.phase.hasOpenClass with
  | true =>
    obtain ⟨fault, hstart⟩ := start_of_open hphase s e
    have hanswer : h.answer s (.start e) = (.refused (.start e) (.invalidState fault), h) := by
      rw [Handler.answer, hstart]
      rfl
    have hkeeps : (Event.refused (.start e) (.invalidState fault)).KeepsOpen := by
      constructor <;> intro hcall <;> cases hcall
    rw [hanswer]
    exact hi.unchanged rfl rfl id hkeeps
  | false =>
    have hclean := clean_of_closed hphase (hi.holdsClass hphase)
    have hopen := hasOpenClass_start h s e
    rcases hclean.start s e with ⟨hresult, hheld⟩ | ⟨failure, hresult, hfault, hheld⟩
    · have hevent : (h.answer s (.start e)).1 = .started e := by rw [Handler.answer, hresult]; rfl
      rw [hevent]
      refine ⟨fun _ => hopen, ?_⟩
      have hafter : (h.answer s (.start e)).2.holdsClass = true := hheld
      rw [hafter, refusedLast_append_iff]
      refine iff_of_false (fun h => Bool.noConfusion h.2) ?_
      rintro (hrefuses | ⟨hrefused, -⟩)
      · exact hrefuses
      · exact hi.not_refusedLast hphase hrefused
    · have hevent : (h.answer s (.start e)).1 = .refused (.start e) failure := by
        rw [Handler.answer, hresult]
        rfl
      rw [hevent]
      refine ⟨fun _ => hopen, ?_⟩
      rw [refusedLast_append_iff]
      exact iff_of_true ⟨hopen, hheld⟩ (.inl hfault)

theorem InStep.receive (hi : InStep history h) (s : Session) (p : Property) :
    InStep (history ++ [(h.answer s (.receive p)).1]) (h.answer s (.receive p)).2 := by
  have hkeeps : (h.answer s (.receive p)).1.KeepsOpen := by
    constructor <;> rw [call_answer] <;> nofun
  have hrefuses : ¬(h.answer s (.receive p)).1.RefusesEntity := by
    rw [Handler.answer]
    cases (h.receive s p).1 <;> exact id
  cases hphase : h.phase.hasOpenClass with
  | true =>
    obtain ⟨hopen, hheld⟩ := receive_of_open hphase s p
    exact hi.unchanged (hopen.trans hphase.symm) hheld hrefuses hkeeps
  | false =>
    obtain ⟨fault, hreceive⟩ := receive_of_closed hphase s p
    have hsame : (h.answer s (.receive p)).2 = h := by rw [Handler.answer, hreceive]
    rw [hsame]
    exact hi.unchanged rfl rfl hrefuses hkeeps

/-- Nothing is refused last where a class is ended or discarded. -/
theorem InStep.not_refusedLast_answer {call : Call} (hcall : call = .finish ∨ call = .reset) :
    ¬RefusedLast (history ++ [(h.answer s call).1]) := by
  rw [refusedLast_append_iff]
  rintro (hrefuses | ⟨-, hkeeps⟩)
  · rcases hcall with rfl | rfl
    · rw [Handler.answer] at hrefuses
      revert hrefuses
      cases (h.finish s).1 <;> exact id
    · exact hrefuses
  · rcases hcall with rfl | rfl
    · exact hkeeps.not_finish (call_answer s h .finish)
    · exact hkeeps.not_reset (call_answer s h .reset)

theorem InStep.finish (hi : InStep history h) (s : Session) :
    InStep (history ++ [(h.answer s .finish).1]) (h.answer s .finish).2 := by
  refine .of_clean ?_ (not_refusedLast_answer (.inl rfl))
  show (h.finish s).2.Clean
  cases hphase : h.phase.hasOpenClass with
  | true => exact finish_of_open hphase s
  | false =>
    rw [finish_of_closed hphase]
    exact clean_of_closed hphase (hi.holdsClass hphase)

/-- One callback more. -/
theorem InStep.answer (hi : InStep history h) (s : Session) (call : Call) :
    InStep (history ++ [(h.answer s call).1]) (h.answer s call).2 := by
  cases call with
  | start e => exact hi.start s e
  | receive p => exact hi.receive s p
  | finish => exact hi.finish s
  | reset => exact .of_clean h.clean_reset (not_refusedLast_answer (.inr rfl))

theorem InStep.through (hi : InStep history h) (s : Session) (calls : List Call) :
    InStep (history ++ h.log s calls) (h.through s calls) := by
  induction calls generalizing history h with
  | nil =>
    rw [log, List.append_nil]
    exact hi
  | cons call calls ih =>
    have hrest := ih (hi.answer s call)
    rw [List.append_assoc, List.singleton_append] at hrest
    exact hrest

/-- After any callbacks, successful or failing, a handler that holds a class is in the phase of an
open class. It is in that phase without a class where an entity was refused for its own sake, and no
class ended or discarded since; else phase and class agree. -/
theorem phase_agrees_iff (s : Session) (t : Target) (calls : List Call) :
    let h := (fresh t).through s calls
    (h.holdsClass = true → h.phase.hasOpenClass = true) ∧
      (h.phase.hasOpenClass = h.holdsClass ↔ ¬RefusedLast ((fresh t).log s calls)) := by
  intro h
  have hi : InStep ((fresh t).log s calls) h :=
    (InStep.of_clean (clean_fresh t) not_refusedLast_nil).through s calls
  refine ⟨hi.held, ?_⟩
  rw [← hi.refused]
  cases hphase : h.phase.hasOpenClass with
  | true => simp
  | false => simp [hi.holdsClass hphase]

open Generator (misplaced ofMisplaced)

/-- A builder that refuses an entity for its marker is in the phase of an open class without one. -/
theorem phase_disagrees_at_misplaced :
    let h := (fresh .serverBuilder).through ofMisplaced.session [.start misplaced]
    (fresh .serverBuilder).log ofMisplaced.session [.start misplaced] =
        [.refused (.start misplaced) (.attributeClassNode misplaced.name)] ∧
      h.phase.hasOpenClass = true ∧ h.holdsClass = false := by
  intro h
  obtain ⟨hheld, hagree⟩ := phase_agrees_iff ofMisplaced.session .serverBuilder [.start misplaced]
  have hlog : (fresh .serverBuilder).log ofMisplaced.session [.start misplaced] =
      [.refused (.start misplaced) (.attributeClassNode misplaced.name)] := rfl
  have hrefused : RefusedLast [.refused (.start misplaced) (.attributeClassNode misplaced.name)] :=
    ⟨[], _, [], rfl, trivial, fun _ h => nomatch h⟩
  have hapart : h.phase.hasOpenClass ≠ h.holdsClass := fun heq => hagree.1 heq (hlog ▸ hrefused)
  refine ⟨hlog, ?_⟩
  cases hclass : h.holdsClass with
  | true => exact absurd ((hheld hclass).trans hclass.symm) hapart
  | false => exact ⟨eq_true_of_ne_false (hclass ▸ hapart), rfl⟩

end Handler

end XmlBinding
