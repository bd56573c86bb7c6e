import XmlBinding.Generator
import XmlBinding.Proofs.Handler
import XmlBinding.Proofs.Results

/-!
# Handlers in step

The handlers of a generator take each step of an entity together. What comes of it depends on the
session and on their targets, not on what they did before.

* `Draft.ofEntity s ts e`, `Draft.ofEntities` : the classes of entities for targets, up to the first
  failure, without handlers;
* `Draft.ofHandlers s hs e`, `Production.ofEntity_runs` : what handlers in any state make of an
  entity; `Production.ofEntities_run` : clean handlers make the classes for their targets, and are
  clean afterwards;
* `Generator.produce_spec` : so does a generator.
-/

namespace XmlBinding

/-! ## Classes without handlers -/

namespace Draft

/-- Finishes drafts in order, up to the first failure. -/
def finishAll (s : Session) : List Draft → List GeneratedClass × Option Failure
  | [] => ([], none)
  | d :: rest =>
    match d.finish s with
    | .error failure => ([], some failure)
    | .ok c => (c :: (finishAll s rest).1, (finishAll s rest).2)

/-- Drafts with more properties, each added to all before the next. -/
def receiveAll (s : Session) (ps : List Property) (ds : List Draft) : Except Failure (List Draft) :=
  ps.foldlM (fun ds p => ds.mapM (receive s p)) ds

/-- The drafts of an entity for targets, with all its properties. -/
def filled (s : Session) (ts : List Target) (e : Entity) : Except Failure (List Draft) := do
  let ps ← s.describe e
  let ds ← ts.mapM (start s e)
  receiveAll s ps ds

/-- The classes of drafts, where there are any. -/
def classesOf (s : Session) : Except Failure (List Draft) → List GeneratedClass × Option Failure
  | .error failure => ([], some failure)
  | .ok ds => finishAll s ds

/-- The classes of an entity for targets, up to the first failure. -/
def ofEntity (s : Session) (ts : List Target) (e : Entity) : List GeneratedClass × Option Failure :=
  classesOf s (filled s ts e)

/-- The classes that handlers make of an entity, up to the first failure. -/
def ofHandlers (s : Session) (hs : List Handler) (e : Entity) :
    List GeneratedClass × Option Failure :=
  classesOf s do
    let ps ← s.describe e
    let ds ← hs.mapM (Handler.begins s e)
    receiveAll s ps ds

/-- Clean handlers make the classes of their targets. -/
theorem ofHandlers_of_clean {s : Session} {hs : List Handler} (hc : ∀ h ∈ hs, h.Clean)
    (e : Entity) : ofHandlers s hs e = ofEntity s (hs.map Handler.target) e := by
  have hbegins : hs.mapM (Handler.begins s e) = (hs.map Handler.target).mapM (start s e) := by
    refine mapM_congr_forall₂ (List.forall₂_map_right_iff.2 (List.forall₂_same.2 fun h hh => ?_))
    exact (hc h hh).begins s e
  unfold ofHandlers ofEntity filled
  rw [hbegins]

theorem ofHandlers_map_fresh (s : Session) (ts : List Target) (e : Entity) :
    ofHandlers s (ts.map Handler.fresh) e = ofEntity s ts e := by
  rw [ofHandlers_of_clean (fun _ hh => Handler.clean_of_mem_fresh hh), Handler.map_target_fresh]

/-- The classes of entities for targets, up to the first failure. -/
def ofEntities (s : Session) (ts : List Target) :
    List Entity → List GeneratedClass × Option Failure
  | [] => ([], none)
  | e :: rest =>
    match ofEntity s ts e with
    | (cs, some failure) => (cs, some failure)
    | (cs, none) => (cs ++ (ofEntities s ts rest).1, (ofEntities s ts rest).2)

/-- Classes behind others, unless those end with a failure. -/
def andThen : List GeneratedClass × Option Failure → List GeneratedClass × Option Failure →
    List GeneratedClass × Option Failure
  | (cs, some failure), _ => (cs, some failure)
  | (cs, none), made => (cs ++ made.1, made.2)

theorem ofEntities_eq (s : Session) (ts : List Target) (e : Entity) (es : List Entity) :
    ofEntities s ts (e :: es) = andThen (ofEntity s ts e) (ofEntities s ts es) := by
  rw [ofEntities]
  cases ofEntity s ts e with
  | mk cs outcome => cases outcome <;> rfl

end Draft

/-! ## Steps -/

namespace Production

open Handler

/-- The result of a step that ends with a failure, if with one. -/
def resultOf : Option Failure → Except Failure Unit
  | none => .ok ()
  | some failure => .error failure

variable {α β : Type} {s : Session} {P : Progress}

theorem bind_run (act : Produce α) (next : α → Produce β) (P : Progress) :
    (act >>= next).run.run P =
      match act.run.run P with
      | (.ok a, Q) => (next a).run.run Q
      | (.error failure, Q) => (.error failure, Q) := by
  show (ExceptT.bindCont next =<< act.run).run P = _
  show (match act.run.run P with | (a, Q) => (ExceptT.bindCont next a).run Q) = _
  cases act.run.run P with
  | mk r Q => cases r <;> rfl

theorem step_run (call : Handler → After (List GeneratedClass)) (P : Progress) :
    (step call).run.run P =
      (resultOf (round call P.handlers).failure,
        ⟨(round call P.handlers).handlers, P.classes ++ (round call P.handlers).classes⟩) := by
  unfold step
  rw [bind_run]
  show ((modify fun p : Progress => _) >>= fun _ => _ : Produce Unit).run.run P = _
  rw [bind_run]
  cases (round call P.handlers).failure with
  | none => rfl
  | some failure => rfl

/-- A run that begins at `P` makes no class and ends as `r` does: with handlers that hold drafts, or
with a failure. -/
structure Fills (P : Progress) (out : Except Failure Unit × Progress)
    (r : Except Failure (List Draft)) : Prop where
  classes : out.2.classes = P.classes
  targets : out.2.handlers.map target = P.handlers.map target
  result : out.1 = r.map fun _ => ()
  holds : ∀ ds, r = .ok ds → List.Forall₂ Holds out.2.handlers ds

theorem Fills.bind {act next : Produce Unit} {r : Except Failure (List Draft)}
    {f : List Draft → Except Failure (List Draft)} (h : Fills P (act.run.run P) r)
    (hnext : ∀ ds Q, List.Forall₂ Holds Q.handlers ds → Fills Q (next.run.run Q) (f ds)) :
    Fills P ((act >>= fun _ => next).run.run P) (r >>= f) := by
  rw [bind_run]
  obtain ⟨hclasses, htargets, hresult, hholds⟩ := h
  cases hact : act.run.run P with
  | mk result Q =>
    rw [hact] at hclasses htargets hresult hholds
    cases r with
    | error failure =>
      rw [show result = .error failure from hresult]
      exact ⟨hclasses, htargets, rfl, fun ds hd => nomatch hd⟩
    | ok ds =>
      rw [show result = .ok () from hresult]
      have hn := hnext ds Q (hholds ds rfl)
      exact ⟨hn.classes.trans hclasses, hn.targets.trans htargets, hn.result, hn.holds⟩

/-- Handlers that each make a draft of what they stand in `R` to make all these drafts. -/
theorem fills_step {R : Handler → β → Prop} {call : Handler → After Unit}
    {make : β → Except Failure Draft}
    (hcall : ∀ h b, R h b → Leaves (call h) h.target (make b)) {bs : List β} (P : Progress)
    (hR : List.Forall₂ R P.handlers bs) :
    Fills P ((step fun h => silent (call h)).run.run P) (bs.mapM make) := by
  rw [step_run]
  obtain ⟨hs, cs⟩ := P
  dsimp only at hR ⊢
  induction hR with
  | nil => exact ⟨List.append_nil _, rfl, rfl, fun ds hd => by cases hd; exact .nil⟩
  | @cons h b hs bs hhb _ ih =>
    have hl := hcall h b hhb
    have hresult := hl.result
    obtain ⟨hclasses, htargets, hrest, hholds⟩ := ih
    rw [List.mapM_cons]
    cases hb : make b with
    | error failure =>
      have hround : round (fun h => silent (call h)) (h :: hs) =
          ⟨(call h).2 :: hs, [], some failure⟩ := by
        rw [round, silent, hresult, hb]
        rfl
      rw [hround]
      refine ⟨List.append_nil _, ?_, rfl, fun ds hd => nomatch hd⟩
      rw [List.map_cons, hl.target, List.map_cons]
    | ok d =>
      have hround : round (fun h => silent (call h)) (h :: hs) =
          ⟨(call h).2 :: (round (fun h => silent (call h)) hs).handlers,
            (round (fun h => silent (call h)) hs).classes,
            (round (fun h => silent (call h)) hs).failure⟩ := by
        rw [round, silent, hresult, hb]
        rfl
      rw [hround]
      refine ⟨hclasses, ?_, ?_, fun ds hd => ?_⟩
      · rw [List.map_cons, hl.target, htargets, List.map_cons]
      · rw [hrest]
        cases bs.mapM make <;> rfl
      · cases hm : bs.mapM make with
        | error failure =>
          rw [hm] at hd
          cases hd
        | ok ds' =>
          rw [hm] at hd
          cases hd
          exact .cons (hl.holds d hb) (hholds ds' hm)

theorem fills_receives (s : Session) (ps : List Property) :
    ∀ (ds : List Draft) (P : Progress), List.Forall₂ Holds P.handlers ds →
      Fills P ((ps.forM fun p => step fun h => silent (h.receive s p)).run.run P)
        (Draft.receiveAll s ps ds) := by
  induction ps with
  | nil => exact fun ds P hd => ⟨rfl, rfl, rfl, fun ds' hd' => by cases hd'; exact hd⟩
  | cons p ps ih =>
    intro ds P hd
    unfold Draft.receiveAll
    rw [List.foldlM_cons]
    exact (fills_step (fun h d hhd => hhd.receive s p) P hd).bind ih

/-- The step in which handlers finish their drafts. -/
theorem finish_round (s : Session) {hs : List Handler} {ds : List Draft}
    (hd : List.Forall₂ Holds hs ds) :
    let r := round (fun h => single (h.finish s)) hs
    r.classes = (Draft.finishAll s ds).1 ∧ r.failure = (Draft.finishAll s ds).2 ∧
      r.handlers.map target = hs.map target ∧ (r.failure = none → ∀ h ∈ r.handlers, h.Clean) := by
  induction hd with
  | nil => exact ⟨rfl, rfl, rfl, fun _ h hh => nomatch hh⟩
  | @cons h d hs ds hhd _ ih =>
    obtain ⟨hresult, htarget, hclean⟩ := hhd.finish s
    obtain ⟨hclasses, hfailure, htargets, hrest⟩ := ih
    unfold Draft.finishAll
    cases hf : d.finish s with
    | error failure =>
      rw [hf] at hresult
      have hround : round (fun h => single (h.finish s)) (h :: hs) =
          ⟨(h.finish s).2 :: hs, [], some failure⟩ := by
        rw [round, single, hresult]
        rfl
      rw [hround]
      exact ⟨rfl, rfl, by rw [List.map_cons, htarget, List.map_cons], fun hn => nomatch hn⟩
    | ok c =>
      rw [hf] at hresult
      have hround : round (fun h => single (h.finish s)) (h :: hs) =
          ⟨(h.finish s).2 :: (round (fun h => single (h.finish s)) hs).handlers,
            c :: (round (fun h => single (h.finish s)) hs).classes,
            (round (fun h => single (h.finish s)) hs).failure⟩ := by
        rw [round, single, hresult]
        rfl
      rw [hround]
      refine ⟨congrArg (c :: ·) hclasses, hfailure, ?_, fun hn g hg => ?_⟩
      · rw [List.map_cons, htarget, htargets, List.map_cons]
      · rcases List.mem_cons.1 hg with rfl | hg
        · exact hclean
        · exact hrest hn g hg

/-! ## An entity -/

/-- What a run that begins at `P` makes: new classes and a failure, if there is one. The handlers
keep their targets, and without a failure they are clean. -/
structure Runs (P : Progress) (out : Except Failure Unit × Progress)
    (made : List GeneratedClass × Option Failure) : Prop where
  result : out.1 = resultOf made.2
  classes : out.2.classes = P.classes ++ made.1
  targets : out.2.handlers.map target = P.handlers.map target
  clean : made.2 = none → ∀ h ∈ out.2.handlers, h.Clean

theorem Fills.finish {act : Produce Unit} {r : Except Failure (List Draft)}
    (h : Fills P (act.run.run P) r) (s : Session) :
    Runs P ((act >>= fun _ => step fun h => single (h.finish s)).run.run P)
      (Draft.classesOf s r) := by
  rw [bind_run]
  obtain ⟨hclasses, htargets, hresult, hholds⟩ := h
  cases hact : act.run.run P with
  | mk result Q =>
    rw [hact] at hclasses htargets hresult hholds
    cases r with
    | error failure =>
      rw [show result = .error failure from hresult]
      exact ⟨rfl, hclasses.trans (List.append_nil _).symm, htargets, fun hn => nomatch hn⟩
    | ok ds =>
      obtain ⟨hcs, hf, ht, hclean⟩ := finish_round s (hholds ds rfl)
      rw [show result = .ok () from hresult]
      dsimp only
      rw [step_run]
      refine ⟨congrArg resultOf hf, ?_, ht.trans htargets, fun hn => hclean (hf.trans hn)⟩
      show Q.classes ++ _ = P.classes ++ (Draft.finishAll s ds).1
      rw [← hcs, ← hclasses]

/-- Whatever state handlers are in, they make their classes of an entity, and are clean behind it
unless there is a failure. -/
theorem ofEntity_runs (s : Session) (e : Entity) (P : Progress) :
    Runs P ((ofEntity s e).run.run P) (Draft.ofHandlers s P.handlers e) := by
  unfold ofEntity Draft.ofHandlers
  rw [bind_run]
  cases s.describe e with
  | error failure => exact ⟨rfl, (List.append_nil _).symm, rfl, fun hn => nomatch hn⟩
  | ok ps =>
    have hstart : Fills P ((step fun h => silent (h.start s e)).run.run P)
        (P.handlers.mapM (Handler.begins s e)) := by
      refine fills_step (R := Eq) (fun h _ heq => ?_) P (List.forall₂_same.2 fun _ _ => rfl)
      rw [← heq]
      exact h.leaves_start s e
    have hfill := (hstart.bind (fills_receives s ps)).finish s
    rw [bind_assoc] at hfill
    exact hfill

/-! ## All entities -/

/-- A run behind another, which is made of clean handlers where the first has no failure. -/
theorem Runs.bind {act next : Produce Unit} {made made' : List GeneratedClass × Option Failure}
    (h : Runs P (act.run.run P) made)
    (hnext : ∀ Q : Progress, (∀ h ∈ Q.handlers, h.Clean) →
      Q.handlers.map target = P.handlers.map target → Runs Q (next.run.run Q) made') :
    Runs P ((act >>= fun _ => next).run.run P) (Draft.andThen made made') := by
  rw [bind_run]
  obtain ⟨hresult, hclasses, htargets, hclean⟩ := h
  cases hact : act.run.run P with
  | mk result Q =>
    rw [hact] at hresult hclasses htargets hclean
    obtain ⟨cs, failure⟩ := made
    cases failure with
    | some failure =>
      rw [show result = .error failure from hresult]
      exact ⟨rfl, hclasses, htargets, fun hn => nomatch hn⟩
    | none =>
      rw [show result = .ok () from hresult]
      obtain ⟨hr, hcs, ht, hcl⟩ := hnext Q (hclean rfl) htargets
      refine ⟨hr, ?_, ht.trans htargets, hcl⟩
      show _ = P.classes ++ (cs ++ made'.1)
      rw [hcs, hclasses, List.append_assoc]

theorem ofEntities_run (s : Session) (es : List Entity) :
    ∀ P : Progress, (∀ h ∈ P.handlers, h.Clean) →
      Runs P ((es.forM (ofEntity s)).run.run P)
        (Draft.ofEntities s (P.handlers.map target) es) := by
  induction es with
  | nil => exact fun P hc => ⟨rfl, (List.append_nil _).symm, rfl, fun _ => hc⟩
  | cons e es ih =>
    intro P hc
    rw [Draft.ofEntities_eq, ← Draft.ofHandlers_of_clean hc]
    refine (ofEntity_runs s e P).bind fun Q hclean htargets => ?_
    rw [← htargets]
    exact ih Q hclean

end Production

/-! ## Generators -/

namespace Generator

open Production

/-- Every handler holds no class and may begin one. -/
def Clean (g : Generator) : Prop := ∀ h ∈ g.handlers, h.Clean

def targets (g : Generator) : List Target := g.handlers.map Handler.target

/-- The classes of a generator for its targets, up to the first failure. -/
def made (g : Generator) : List GeneratedClass × Option Failure :=
  Draft.ofEntities g.session g.targets g.session.entities.values

variable {g : Generator}

theorem produce_spec (hg : g.Clean) :
    g.produce.classes = g.made.1 ∧
      g.produce.outcome = (resultOf g.made.2).map (fun _ => g.session.entities.values.length) ∧
      g.produce.handlers.map Handler.target = g.targets ∧ ∀ h ∈ g.produce.handlers, h.Clean := by
  obtain ⟨hresult, hclasses, htargets, hclean⟩ :=
    ofEntities_run g.session g.session.entities.values ⟨g.handlers, []⟩ hg
  unfold produce
  dsimp only
  cases hrun : (g.session.entities.values.forM (ofEntity g.session)).run.run ⟨g.handlers, []⟩ with
  | mk result P =>
    rw [hrun] at hresult hclasses htargets hclean
    rw [List.nil_append] at hclasses
    cases hmade : g.made.2 with
    | none =>
      rw [show result = .ok () from hresult.trans (congrArg resultOf hmade)]
      exact ⟨hclasses, rfl, htargets, hclean hmade⟩
    | some failure =>
      rw [show result = .error failure from hresult.trans (congrArg resultOf hmade)]
      refine ⟨hclasses, rfl, ?_, fun h hh => ?_⟩
      · rw [List.map_map]
        refine Eq.trans (List.map_congr_left fun h _ => ?_) htargets
        exact Handler.target_fresh h.target
      · obtain ⟨h', _, rfl⟩ := List.mem_map.1 hh
        exact h'.clean_reset

end Generator

end XmlBinding
