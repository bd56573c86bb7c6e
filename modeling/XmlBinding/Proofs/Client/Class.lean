import XmlBinding.Handler
import XmlBinding.Proofs.Client.Method
import XmlBinding.Proofs.Emission.Body

/-!
# Classes of client builders

* `Client.standingAddition`, `makes_methods` : what the methods of every builder add;
* `Client.rank` : helpers ask only for the one that reads strings, and that one for none;
* `Client.render_assembles` : the class of a frame.
-/

namespace XmlBinding.Client

open Emit

variable {X : Type} {scope : Scope}

/-! ## Methods -/

/-- What the methods of every builder add. -/
def standingAddition (scope : Scope) : Addition (Job X) :=
  instanceAddition scope ++ (xmlAddition scope ++ (basicXmlAddition scope ++
    (beanArrayAddition scope ++ (beanXmlListAddition scope ++ (basicXmlListAddition scope ++
      (beanMapAddition scope ++ beanMapXmlAddition scope))))))

theorem methods_eq :
    (methods : MethodRegistry (Job X)).writers =
      [⟨getInstance, 0, emitGetInstance⟩, ⟨getXml, 0, emitGetXml⟩,
       ⟨getBasicXml, 0, emitGetBasicXml⟩, ⟨getEntityArray, 0, emitGetEntityArray⟩,
       ⟨getEntityXmlList, 0, emitGetEntityXmlList⟩, ⟨getBasicXmlList, 0, emitGetBasicXmlList⟩,
       ⟨getEntityMap, 0, emitGetEntityMap⟩, ⟨getEntityMapXml, 0, emitGetEntityMapXml⟩] := rfl

theorem makes_methods (hc : scope.session.catalog.NamesMethods) :
    Makes scope .as3 ((methods : MethodRegistry (Job X)).writers.forM fun w => w.emit) ()
      (standingAddition scope) := by
  rw [methods_eq]
  refine (makes_emitGetInstance hc).bind ((makes_emitGetXml hc).bind
    ((makes_emitGetBasicXml hc).bind ((makes_emitGetEntityArray hc).bind
      ((makes_emitGetEntityXmlList hc).bind ((makes_emitGetBasicXmlList hc).bind
        ((makes_emitGetEntityMap hc).bind ?_))))))
  exact (makes_emitGetEntityMapXml hc).bind_map (makes_pure ())

/-! ## Helpers -/

def jobAddition (scope : Scope) : Job Empty → Addition (Job Empty)
  | .inl job => helperAddition scope job

theorem makes_run (hc : scope.session.catalog.NamesMethods) (job : Job Empty) :
    Makes scope .as3 (Handler.clientDialect.run job) () (jobAddition scope job) := by
  cases job with
  | inl job => exact makes_emitHelper hc job
  | inr x => exact x.elim

/-- Helpers that read values rank above the one that reads strings. -/
def rank : Job Empty → Nat
  | .inl (.readArray _) | .inl (.readMap _) => 1
  | _ => 0

/-- The expression for one value asks at most for the helper that reads strings. -/
theorem asks_valueAddition (scope : Scope) (t : JavaType) {h : Helper (Job X)}
    (hh : h ∈ (valueAddition scope t : Addition (Job X)).asks) : h.job = .inl .readString := by
  unfold valueAddition readAddition at hh
  cases hc : (scope.session.synthetic t).category with
  | basic =>
    rw [hc] at hh
    cases hk : ScalarKind.of? (scope.session.synthetic t).type with
    | none =>
      rw [hk] at hh
      cases hh
    | some kind =>
      rw [hk] at hh
      cases kind with
      | string => rw [List.mem_singleton.1 hh]
      | _ => cases hh
  | entity =>
    rw [hc] at hh
    cases hh
  | array _ =>
    rw [hc] at hh
    cases hh
  | collection _ _ _ =>
    rw [hc] at hh
    cases hh
  | map _ _ _ =>
    rw [hc] at hh
    cases hh

theorem rank_lt_of_asks (scope : Scope) (job : Job Empty) {h : Helper (Job Empty)}
    (hh : h ∈ (jobAddition scope job).asks) : rank h.job < rank job := by
  cases job with
  | inr x => exact x.elim
  | inl job =>
    cases job with
    | readString => cases hh
    | writeMap => cases hh
    | readArray t =>
      rw [asks_valueAddition scope t hh]
      exact Nat.zero_lt_one
    | readMap t =>
      rw [asks_valueAddition scope t hh]
      exact Nat.zero_lt_one

theorem rank_le_one (job : Job Empty) : rank job ≤ 1 := by
  unfold rank
  split <;> decide

/-! ## Classes -/

def scopeOf (s : Session) (f : ClassFrame) : Scope := ⟨s, f, .clientBuilder⟩

/-- The class of a frame. -/
theorem render_assembles {s : Session} (hc : s.catalog.NamesMethods) (f : ClassFrame) :
    (∃ c, Handler.clientDialect.render s f = .ok c ∧
        Handler.clientDialect.Assembles s f (standingAddition (scopeOf s f))
          (jobAddition (scopeOf s f)) c) ∨
      ∃ failure, s.Blames failure ∧
        Handler.clientDialect.render s f = .error failure := by
  have hm : Makes (scopeOf s f) .as3 (methods.writers.forM fun w => w.emit) ()
      (standingAddition (scopeOf s f) : Addition (Job Empty)) := makes_methods hc
  refine Dialect.render_assembles rank hm (makes_run hc) (fun job h => rank_lt_of_asks _ job) ?_
  intro h _
  exact Nat.lt_of_le_of_lt (rank_le_one h.job) (by decide)

end XmlBinding.Client
