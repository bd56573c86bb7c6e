import XmlBinding.Proofs.Generator.Outputs
import XmlBinding.Proofs.Results

/-!
# Handlers in any state

A generator may be given handlers that have already begun a class. Such a handler refuses the first
entity or takes it as a clean one does; after an entity all handlers are clean.

* `Draft.ofHandlers_of_none` : handlers that make all classes make those of their targets;
* `Draft.ofRun s hs es`, `Generator.produce_eq` : what handlers make of several entities;
* `Generator.forall₂_outputs_of_ok` : a production that succeeds has a class for each output.
-/

namespace XmlBinding

namespace Handler

theorem begins_of_ok {s : Session} {e : Entity} {h : Handler} {d : Draft}
    (hd : h.begins s e = .ok d) : Draft.start s e h.target = .ok d := by
  obtain ⟨_, -, hd⟩ := bind_eq_ok.1 hd
  exact hd

theorem mapM_begins {s : Session} {e : Entity} {hs : List Handler} {ds : List Draft}
    (h : hs.mapM (begins s e) = .ok ds) : (hs.map target).mapM (Draft.start s e) = .ok ds := by
  induction hs generalizing ds with
  | nil => exact h
  | cons h' hs ih =>
    rw [List.mapM_cons] at h
    obtain ⟨d, hd, h⟩ := bind_eq_ok.1 h
    obtain ⟨rest, hrest, h⟩ := bind_eq_ok.1 h
    rw [List.map_cons, List.mapM_cons, begins_of_ok hd, ih hrest]
    exact h

end Handler

/-! ## An entity -/

namespace Draft

/-- Handlers that make all their classes make those of their targets. -/
theorem ofHandlers_of_none {s : Session} {hs : List Handler} {e : Entity}
    (h : (ofHandlers s hs e).2 = none) :
    ofHandlers s hs e = ofEntity s (hs.map Handler.target) e := by
  unfold ofHandlers at h
  unfold ofHandlers ofEntity filled
  cases hps : s.describe e with
  | error failure => rfl
  | ok ps =>
    cases hds : hs.mapM (Handler.begins s e) with
    | error failure =>
      rw [hps, hds] at h
      cases h
    | ok ds =>
      have hstart : (hs.map Handler.target).mapM (start s e) = .ok ds := Handler.mapM_begins hds
      rw [hstart]

/-- The classes that handlers make of several entities, up to the first failure. -/
def ofRun (s : Session) (hs : List Handler) : List Entity → List GeneratedClass × Option Failure
  | [] => ([], none)
  | e :: rest =>
    -- Only the first entity can come upon a handler that has begun a class.
    andThen (ofHandlers s hs e) (ofEntities s (hs.map Handler.target) rest)

/-- Handlers that make all classes make those of their targets. -/
theorem ofRun_of_none {s : Session} {hs : List Handler} {es : List Entity}
    (h : (ofRun s hs es).2 = none) : ofRun s hs es = ofEntities s (hs.map Handler.target) es := by
  cases es with
  | nil => rfl
  | cons e es =>
    rw [ofRun] at h ⊢
    cases hm : ofHandlers s hs e with
    | mk cs outcome =>
      rw [hm] at h
      cases outcome with
      | some failure => cases h
      | none =>
        have hentity : ofEntity s (hs.map Handler.target) e = (cs, none) :=
          (ofHandlers_of_none (congrArg Prod.snd hm)).symm.trans hm
        rw [ofEntities_eq, hentity]

end Draft

namespace Production

variable {P : Progress}

theorem ofRun_runs (s : Session) (e : Entity) (es : List Entity) (P : Progress) :
    Runs P (((e :: es).forM (ofEntity s)).run.run P) (Draft.ofRun s P.handlers (e :: es)) := by
  refine (ofEntity_runs s e P).bind fun Q hclean htargets => ?_
  rw [← htargets]
  exact ofEntities_run s es Q hclean

end Production

namespace Generator

open Production

/-- What a generator produces, whatever state its handlers are in. -/
theorem produce_eq (g : Generator) :
    g.produce.classes = (Draft.ofRun g.session g.handlers g.session.entities.values).1 ∧
      g.produce.outcome =
        (resultOf (Draft.ofRun g.session g.handlers g.session.entities.values).2).map
          fun _ => g.session.entities.values.length := by
  unfold produce
  dsimp only
  generalize g.session.entities.values = es
  cases es with
  | nil => exact ⟨rfl, rfl⟩
  | cons e es =>
    obtain ⟨hresult, hclasses, -, -⟩ := ofRun_runs g.session e es ⟨g.handlers, []⟩
    dsimp only at hresult hclasses
    rw [List.nil_append] at hclasses
    rw [← hclasses]
    generalize ((e :: es).forM (ofEntity g.session)).run.run ⟨g.handlers, []⟩ = out at *
    obtain ⟨result, Q⟩ := out
    dsimp only at hresult ⊢
    rw [hresult]
    cases (Draft.ofRun g.session g.handlers (e :: es)).2 <;> exact ⟨rfl, rfl⟩

/-- A production that succeeds has a class for each output. -/
theorem forall₂_outputs_of_ok {g : Generator} {count : Nat} (h : g.produce.outcome = .ok count) :
    List.Forall₂ (fun o c => Draft.IsClassOf g.session o.1 o.2 c) g.outputs g.produce.classes := by
  obtain ⟨hclasses, houtcome⟩ := g.produce_eq
  have hnone : (Draft.ofRun g.session g.handlers g.session.entities.values).2 = none := by
    rw [houtcome] at h
    cases hr : (Draft.ofRun g.session g.handlers g.session.entities.values).2 with
    | none => rfl
    | some failure =>
      rw [hr] at h
      cases h
  have hmade : Draft.ofRun g.session g.handlers g.session.entities.values = g.made :=
    Draft.ofRun_of_none hnone
  rw [hclasses, hmade]
  rw [hmade] at hnone
  exact g.follows_outputs.forall₂ hnone

end Generator

end XmlBinding
