import XmlBinding.Handler
import XmlBinding.Proofs.Emission.Body
import XmlBinding.Proofs.Server.Method

/-!
# Classes of server builders

* `Server.standingAddition` : what the methods of every builder add;
* `Server.makes_methods` : they are written unless a package stops them; `stops_methods` : a map
  whose keys are entities stops them;
* `Server.render_assembles`, `render_refuses` : the class of a frame.
-/

namespace XmlBinding.Server

open Emit

variable {X : Type} {scope : Scope}

/-! ## Methods -/

/-- What the methods of every builder add. -/
def standingAddition (scope : Scope) : Addition (Job X) :=
  instanceAddition scope ++ (elementAddition scope ++ (beanFillAddition scope ++
    (beanArrayAddition scope ++ (beanCollectionAddition scope ++ beanMapAddition scope))))

theorem methods_eq :
    (methods : MethodRegistry (Job X)).writers =
      [⟨getInstance, 0, emitGetInstance⟩, ⟨getElement, 0, emitGetElement⟩,
       ⟨getEntityCollection, 0, emitGetEntityCollection⟩,
       ⟨getEntityArrayElement, 0, emitGetEntityArrayElement⟩,
       ⟨getEntityCollectionElement, 0, emitGetEntityCollectionElement⟩,
       ⟨getEntityMapElement, 0, emitGetEntityMapElement⟩] := rfl

section Named
variable (hc : scope.session.catalog.NamesMethods)
include hc

theorem makes_methods
    (h : ∀ p ∈ scope.frame.attributes ++ scope.frame.elements, ¬Unreadable scope.session p) :
    Makes scope .dom4j ((methods : MethodRegistry (Job X)).writers.forM fun w => w.emit) ()
      (standingAddition scope) := by
  rw [methods_eq]
  refine (makes_emitGetInstance hc h).bind ((makes_emitGetElement hc).bind
    ((makes_emitGetEntityCollection hc).bind ((makes_emitGetEntityArrayElement hc).bind
      ((makes_emitGetEntityCollectionElement hc).bind ?_))))
  exact (makes_emitGetEntityMapElement hc).bind_map (makes_pure ())

theorem stops_methods {p : Property} (hp : p ∈ scope.frame.attributes ++ scope.frame.elements)
    (h : Unreadable scope.session p) :
    Stops scope .dom4j ((methods : MethodRegistry (Job X)).writers.forM fun w => w.emit)
      (Refuses scope) := by
  rw [methods_eq]
  exact (stops_emitGetInstance hc hp h).bind

end Named

/-! ## Classes -/

def jobAddition (scope : Scope) : Job Empty → Addition (Job Empty)
  | .inl job => helperAddition scope job

theorem makes_run (hc : scope.session.catalog.NamesMethods) (job : Job Empty) :
    Makes scope .dom4j (Handler.serverDialect.run job) () (jobAddition scope job) := by
  cases job with
  | inl job => exact makes_emitHelper hc job
  | inr x => exact x.elim

/-- The helpers of a server builder ask for none. -/
theorem asks_jobAddition (scope : Scope) (job : Job Empty) : (jobAddition scope job).asks = [] := by
  cases job with
  | inl job => cases job <;> rfl
  | inr x => exact x.elim

def scopeOf (s : Session) (f : ClassFrame) : Scope := ⟨s, f, .serverBuilder⟩

/-- The class of a frame, where every property can be read. -/
theorem render_assembles {s : Session} (hc : s.catalog.NamesMethods) {f : ClassFrame}
    (h : ∀ p ∈ f.attributes ++ f.elements, ¬Unreadable s p) :
    (∃ c, Handler.serverDialect.render s f = .ok c ∧
        Handler.serverDialect.Assembles s f (standingAddition (scopeOf s f))
          (jobAddition (scopeOf s f)) c) ∨
      ∃ failure, s.Blames failure ∧
        Handler.serverDialect.render s f = .error failure := by
  have hm : Makes (scopeOf s f) .dom4j (methods.writers.forM fun w => w.emit) ()
      (standingAddition (scopeOf s f) : Addition (Job Empty)) := makes_methods hc h
  refine Dialect.render_assembles (fun _ => 0) hm (makes_run hc) ?_ ?_
  · intro j g hg
    rw [asks_jobAddition] at hg
    cases hg
  · intro g _
    exact (by decide : 0 < maxWaves)

/-- The frame of a property that cannot be read has no class. -/
theorem render_refuses {s : Session} (hc : s.catalog.NamesMethods) {f : ClassFrame} {p : Property}
    (hp : p ∈ f.attributes ++ f.elements) (h : Unreadable s p) :
    ∃ failure, Refuses (scopeOf s f) failure ∧
      Handler.serverDialect.render s f = .error failure := by
  have hm : Stops (scopeOf s f) .dom4j
      ((methods : MethodRegistry (Job Empty)).writers.forM fun w => w.emit)
      (Refuses (scopeOf s f)) := stops_methods hc hp h
  exact Dialect.render_stops (fun _ => .inl) hm

end XmlBinding.Server
