import XmlBinding.Handler

/-!
# One entity through one handler

Between entities a handler holds no class, and what it does with the next entity depends on its
target alone.

* `Draft` : the class that a handler makes of an entity, with `Draft.start`, `receive`, `finish`;
* `Handler.Clean h` : the handler holds no class and may begin one; `Handler.Holds h d` : it holds
  the draft `d`;
* `Handler.begins s e h` : the draft that a handler begins, where its phase lets it;
* `leaves_start`, `Holds.receive`, `Holds.finish` : the callbacks in terms of drafts.
-/

namespace XmlBinding

/-! ## Drafts -/

/-- A class that is being made. -/
inductive Draft where
  | model (m : ClientModel)
  | clientBuilder (f : ClassFrame)
  | serverBuilder (f : ClassFrame)

namespace Draft

/-- The class that a handler of a target begins. -/
def start (s : Session) (e : Entity) : Target → Except Failure Draft
  | .clientModel => (ClientModel.opening s e).map model
  | .clientBuilder => (Builder.openFrame s e .clientBuilder).map clientBuilder
  | .serverBuilder => (Builder.openFrame s e .serverBuilder).map serverBuilder

/-- A model with one more property, unless that is hidden. -/
def addVisible (s : Session) (p : Property) (m : ClientModel) : ClientModel :=
  if p.isHidden .marshalling then m else m.add s p

def receive (s : Session) (p : Property) : Draft → Except Failure Draft
  | model m => .ok (model (addVisible s p m))
  | clientBuilder f => (Builder.addProperty p f).map clientBuilder
  | serverBuilder f => (Builder.addProperty p f).map serverBuilder

def finish (s : Session) : Draft → Except Failure GeneratedClass
  | model m => .ok (m.finish s)
  | clientBuilder f => Handler.clientDialect.render s f
  | serverBuilder f => Handler.serverDialect.render s f

end Draft

/-! ## Stages -/

namespace Stage

variable {α : Type}

/-- No class is open, and one may begin. -/
def Clean (stage : Stage α) : Prop :=
  (stage.phase = .idle ∨ stage.phase = .ended) ∧ stage.current = none

def Holds (stage : Stage α) (a : α) : Prop :=
  (stage.phase = .begun ∨ stage.phase = .properties) ∧ stage.current = some a

theorem clean_idle : (idle : Stage α).Clean := ⟨.inl rfl, rfl⟩

/-- The stage behind a callback that begins or continues a class. -/
def after (phase : Phase) (previous : Option α) (r : Except Failure α) : Stage α :=
  ⟨phase, r.toOption <|> previous⟩

theorem holds_after {phase : Phase} (h : phase = .begun ∨ phase = .properties)
    (previous : Option α) (a : α) : (after phase previous (.ok a)).Holds a := ⟨h, rfl⟩

/-- A result behind the step to a new class. -/
def begun (stage : Stage α) (r : Except Failure α) : Except Failure α := do
  let _ ← (stage.phase.advance .begun).mapError Failure.invalidState
  r

theorem map_begun {β : Type} (stage : Stage α) (r : Except Failure α) (draft : α → β) :
    (stage.begun r).map draft =
      (stage.phase.advance .begun).mapError Failure.invalidState >>= fun _ => r.map draft := by
  unfold begun
  cases (stage.phase.advance .begun).mapError Failure.invalidState <;> rfl

/-- A callback that begins a class does so where the phase lets it, and leaves a phase in which a
class is open. -/
theorem start_runs (stage : Stage α) (make : Except Failure α) :
    ∃ phase, (phase = .begun ∨ phase = .properties) ∧
      (do Callback.enter .begun; Callback.put (← liftM make) : Callback α Unit).run.run stage =
        ((stage.begun make).map fun _ => (), .after phase stage.current (stage.begun make)) := by
  obtain ⟨phase, current⟩ := stage
  cases phase with
  | idle => exact ⟨.begun, .inl rfl, by cases make <;> rfl⟩
  | ended => exact ⟨.begun, .inl rfl, by cases make <;> rfl⟩
  | begun => exact ⟨.begun, .inl rfl, rfl⟩
  | properties => exact ⟨.properties, .inr rfl, rfl⟩

end Stage

section Stages
variable {s : Session} {p : Property}

theorem Builder.receive_run {stage : Stage ClassFrame} {f : ClassFrame} (h : stage.Holds f) :
    (Builder.receive p).run.run stage =
      ((addProperty p f).map fun _ => (), .after .properties (some f) (addProperty p f)) := by
  have hput : (Builder.receive p).run.run stage =
      ((liftM (addProperty p f) : Callback ClassFrame ClassFrame) >>= Callback.put).run.run
        ⟨.properties, some f⟩ := by
    obtain ⟨phase, current⟩ := stage
    obtain ⟨rfl | rfl, rfl⟩ := h <;> rfl
  rw [hput]
  cases addProperty p f <;> rfl

theorem Builder.finish_run {J : Type} {d : Dialect J} {stage : Stage ClassFrame} {f : ClassFrame}
    (h : stage.Holds f) :
    (Builder.finish d s).run.run stage = (d.render s f, ⟨.ended, none⟩) := by
  have hlift : (Builder.finish d s).run.run stage =
      (liftM (d.render s f) : Callback ClassFrame GeneratedClass).run.run ⟨.ended, none⟩ := by
    obtain ⟨phase, current⟩ := stage
    obtain ⟨rfl | rfl, rfl⟩ := h <;> rfl
  rw [hlift]
  cases d.render s f <;> rfl

theorem Model.receive_run {stage : Stage ClientModel} {m : ClientModel} (h : stage.Holds m) :
    (Model.receive s p).run.run stage =
      ((Except.ok (Draft.addVisible s p m) : Except Failure ClientModel).map fun _ => (),
        .after .properties (some m) (.ok (Draft.addVisible s p m))) := by
  obtain ⟨phase, current⟩ := stage
  unfold Model.receive Draft.addVisible
  obtain ⟨rfl | rfl, rfl⟩ := h <;> cases p.isHidden .marshalling <;> rfl

theorem Model.finish_run {stage : Stage ClientModel} {m : ClientModel} (h : stage.Holds m) :
    (Model.finish s).run.run stage = (.ok (m.finish s), ⟨.ended, none⟩) := by
  obtain ⟨phase, current⟩ := stage
  obtain ⟨rfl | rfl, rfl⟩ := h <;> rfl

end Stages

/-! ## Handlers -/

namespace Handler

/-- The handler holds no class and may begin one. -/
def Clean : Handler → Prop
  | model stage => stage.Clean
  | clientBuilder stage => stage.Clean
  | serverBuilder stage => stage.Clean

def Holds : Handler → Draft → Prop
  | model stage, .model m => stage.Holds m
  | clientBuilder stage, .clientBuilder f => stage.Holds f
  | serverBuilder stage, .serverBuilder f => stage.Holds f
  | _, _ => False

theorem clean_fresh (t : Target) : (fresh t).Clean := by cases t <;> exact Stage.clean_idle

theorem target_fresh (t : Target) : (fresh t).target = t := by cases t <;> rfl

theorem map_target_fresh (ts : List Target) : (ts.map fresh).map target = ts := by
  rw [List.map_map]
  exact (List.map_congr_left fun t _ => target_fresh t).trans (List.map_id ts)

theorem clean_of_mem_fresh {ts : List Target} {h : Handler} (hh : h ∈ ts.map fresh) : h.Clean := by
  obtain ⟨t, -, rfl⟩ := List.mem_map.1 hh
  exact clean_fresh t

theorem clean_reset (h : Handler) : h.reset.Clean := clean_fresh h.target

/-- A callback has the result of a draft and leaves a handler of a target that holds it. -/
structure Leaves (a : After Unit) (t : Target) (r : Except Failure Draft) : Prop where
  result : a.1 = r.map fun _ => ()
  target : a.2.target = t
  holds : ∀ d, r = .ok d → a.2.Holds d

/-- Stages of a kind make handlers of a target that hold drafts of a kind. -/
structure Wraps {α : Type} (wrap : Stage α → Handler) (draft : α → Draft) (t : Target) :
    Prop where
  holds : ∀ stage a, stage.Holds a → (wrap stage).Holds (draft a)
  target : ∀ stage, (wrap stage).target = t

theorem wraps_model : Wraps model .model .clientModel := ⟨fun _ _ => id, fun _ => rfl⟩

theorem wraps_clientBuilder : Wraps clientBuilder .clientBuilder .clientBuilder :=
  ⟨fun _ _ => id, fun _ => rfl⟩

theorem wraps_serverBuilder : Wraps serverBuilder .serverBuilder .serverBuilder :=
  ⟨fun _ _ => id, fun _ => rfl⟩

theorem Wraps.leaves {α : Type} {wrap : Stage α → Handler} {draft : α → Draft} {t : Target}
    (hw : Wraps wrap draft t) {act : Callback α Unit} {stage : Stage α} {phase : Phase}
    {previous : Option α}
    {r : Except Failure α}
    (hrun : act.run.run stage = (r.map fun _ => (), .after phase previous r))
    (hphase : phase = .begun ∨ phase = .properties) :
    Leaves (running wrap act stage) t (r.map draft) := by
  unfold running
  rw [hrun]
  cases r with
  | error failure => exact ⟨rfl, hw.target _, fun d hd => nomatch hd⟩
  | ok a =>
    refine ⟨rfl, hw.target _, fun d hd => ?_⟩
    cases hd
    exact hw.holds _ a (Stage.holds_after hphase previous a)

variable {h : Handler} {d : Draft}

/-- The draft that a handler begins, where its phase lets it. -/
def begins (s : Session) (e : Entity) (h : Handler) : Except Failure Draft := do
  let _ ← (h.phase.advance .begun).mapError Failure.invalidState
  Draft.start s e h.target

theorem leaves_start (s : Session) (e : Entity) (h : Handler) :
    Leaves (h.start s e) h.target (h.begins s e) := by
  cases h with
  | model stage =>
    obtain ⟨phase, hphase, hrun⟩ := stage.start_runs (ClientModel.opening s e)
    have hleaves := wraps_model.leaves hrun hphase
    rw [Stage.map_begun] at hleaves
    exact hleaves
  | clientBuilder stage =>
    obtain ⟨phase, hphase, hrun⟩ := stage.start_runs (Builder.openFrame s e .clientBuilder)
    have hleaves := wraps_clientBuilder.leaves hrun hphase
    rw [Stage.map_begun] at hleaves
    exact hleaves
  | serverBuilder stage =>
    obtain ⟨phase, hphase, hrun⟩ := stage.start_runs (Builder.openFrame s e .serverBuilder)
    have hleaves := wraps_serverBuilder.leaves hrun hphase
    rw [Stage.map_begun] at hleaves
    exact hleaves

/-- Nothing keeps a clean handler from its draft. -/
theorem Clean.begins (hc : h.Clean) (s : Session) (e : Entity) :
    h.begins s e = Draft.start s e h.target := by
  have hphase : h.phase = .idle ∨ h.phase = .ended := by
    cases h with
    | model | clientBuilder | serverBuilder => exact hc.1
  unfold Handler.begins
  rcases hphase with hphase | hphase
  · rw [hphase]
    rfl
  · rw [hphase]
    rfl

/-- A handler adds a property to its draft. -/
theorem Holds.receive (hd : h.Holds d) (s : Session) (p : Property) :
    Leaves (h.receive s p) h.target (d.receive s p) := by
  cases h with
  | model stage =>
    cases d with
    | model m =>
      exact wraps_model.leaves (Model.receive_run hd) (.inr rfl)
    | clientBuilder f => exact hd.elim
    | serverBuilder f => exact hd.elim
  | clientBuilder stage =>
    cases d with
    | clientBuilder f =>
      exact wraps_clientBuilder.leaves (Builder.receive_run hd) (.inr rfl)
    | model m => exact hd.elim
    | serverBuilder f => exact hd.elim
  | serverBuilder stage =>
    cases d with
    | serverBuilder f =>
      exact wraps_serverBuilder.leaves (Builder.receive_run hd) (.inr rfl)
    | model m => exact hd.elim
    | clientBuilder f => exact hd.elim

/-- A handler finishes its draft and is clean, even where the class is refused. -/
theorem Holds.finish (hd : h.Holds d) (s : Session) :
    (h.finish s).1 = d.finish s ∧ (h.finish s).2.target = h.target ∧ (h.finish s).2.Clean := by
  cases h with
  | model stage =>
    cases d with
    | model m =>
      have hrun : (model stage).finish s = (.ok (m.finish s), model ⟨.ended, none⟩) := by
        show running model (Model.finish s) stage = _
        rw [running, Model.finish_run hd]
      rw [hrun]
      exact ⟨rfl, rfl, .inr rfl, rfl⟩
    | clientBuilder f => exact hd.elim
    | serverBuilder f => exact hd.elim
  | clientBuilder stage =>
    cases d with
    | clientBuilder f =>
      have hrun : (clientBuilder stage).finish s =
          (clientDialect.render s f, clientBuilder ⟨.ended, none⟩) := by
        show running clientBuilder (Builder.finish clientDialect s) stage = _
        rw [running, Builder.finish_run hd]
      rw [hrun]
      exact ⟨rfl, rfl, .inr rfl, rfl⟩
    | model m => exact hd.elim
    | serverBuilder f => exact hd.elim
  | serverBuilder stage =>
    cases d with
    | serverBuilder f =>
      have hrun : (serverBuilder stage).finish s =
          (serverDialect.render s f, serverBuilder ⟨.ended, none⟩) := by
        show running serverBuilder (Builder.finish serverDialect s) stage = _
        rw [running, Builder.finish_run hd]
      rw [hrun]
      exact ⟨rfl, rfl, .inr rfl, rfl⟩
    | model m => exact hd.elim
    | clientBuilder f => exact hd.elim

end Handler

end XmlBinding
