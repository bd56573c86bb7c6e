import XmlBinding.Proofs.Generator.Classes
import XmlBinding.Proofs.Generator.Reachable
import XmlBinding.Proofs.Results

/-!
# Outputs of a generator

The classes of a generator stand in the order of its entities, and for each of them in the order of
its handlers.

* `Generator.outputs` : entities and targets in this order;
* `Follows R os made` : classes that stand for the first of some outputs, up to a failure;
* `Draft.IsClassOf` : the class of an entity for a target;
* `Generator.follows_outputs`, `isClassOf_of_mem_zip` : the classes of a generator are those of its
  outputs; `forall₂_outputs`, `Reachable.exists_mem_zip` : without a failure there is one for each.
-/

namespace XmlBinding

/-! ## Lists of results -/

section Lists
variable {α β γ : Type}

/-- Results stand for the first of some elements, for all of them where no failure ends them. -/
def Follows (R : α → β → Prop) (os : List α) (made : List β × Option Failure) : Prop :=
  ∃ done rest, os = done ++ rest ∧ List.Forall₂ R done made.1 ∧ (made.2 = none → rest = [])

variable {R : α → β → Prop} {os : List α} {made : List β × Option Failure}

theorem follows_failure (R : α → β → Prop) (os : List α) (failure : Failure) :
    Follows R os ([], some failure) :=
  ⟨[], os, rfl, .nil, fun h => (nomatch h)⟩

theorem follows_nil (R : α → β → Prop) : Follows R [] ([], none) :=
  ⟨[], [], rfl, .nil, fun _ => rfl⟩

/-- More elements behind some that are done. -/
theorem Follows.append {os' : List α} {bs : List β} {made' : List β × Option Failure}
    (h : Follows R os (bs, none)) (h' : Follows R os' made') :
    Follows R (os ++ os') (bs ++ made'.1, made'.2) := by
  obtain ⟨done, rest, rfl, hR, hrest⟩ := h
  obtain ⟨done', rest', rfl, hR', hrest'⟩ := h'
  rw [hrest rfl, List.append_nil, ← List.append_assoc]
  exact ⟨done ++ done', rest', rfl, List.rel_append hR hR', hrest'⟩

/-- More elements behind a failure. -/
theorem Follows.append_right (h : Follows R os made) (os' : List α) {failure : Failure}
    (hf : made.2 = some failure) : Follows R (os ++ os') made := by
  obtain ⟨done, rest, rfl, hR, -⟩ := h
  refine ⟨done, rest ++ os', List.append_assoc _ _ _, hR, fun hn => ?_⟩
  rw [hf] at hn
  cases hn

/-- Results for elements that others stand for. -/
theorem Follows.comp {S : β → γ → Prop} {T : α → γ → Prop} (hT : ∀ a b c, R a b → S b c → T a c)
    {bs : List β} {made : List γ × Option Failure} (hR : List.Forall₂ R os bs)
    (h : Follows S bs made) : Follows T os made := by
  obtain ⟨done, rest, rfl, hS, hrest⟩ := h
  have hdone := List.forall₂_take_append os done rest hR
  have hleft := List.forall₂_drop_append os done rest hR
  refine ⟨os.take done.length, os.drop done.length, (List.take_append_drop _ _).symm,
    forall₂_trans hT hdone hS, fun hn => ?_⟩
  rw [hrest hn] at hleft
  exact List.forall₂_nil_right_iff.1 hleft

theorem Follows.of_map {g : γ → α} {xs : List γ} (h : Follows (fun x b => R (g x) b) xs made) :
    Follows R (xs.map g) made := by
  obtain ⟨done, rest, rfl, hR, hrest⟩ := h
  refine ⟨done.map g, rest.map g, List.map_append, List.forall₂_map_left_iff.2 hR, fun hn => ?_⟩
  rw [hrest hn, List.map_nil]

theorem Follows.forall₂ (h : Follows R os made) (hn : made.2 = none) :
    List.Forall₂ R os made.1 := by
  obtain ⟨done, rest, rfl, hR, hrest⟩ := h
  rw [hrest hn, List.append_nil]
  exact hR

theorem Follows.of_mem_zip (h : Follows R os made) {a : α} {b : β} (hab : (a, b) ∈ os.zip made.1) :
    R a b := by
  obtain ⟨done, rest, rfl, hR, -⟩ := h
  have hzip : (done ++ rest).zip made.1 = done.zip made.1 := by
    have happend : (done ++ rest).zip (made.1 ++ []) = done.zip made.1 ++ rest.zip [] :=
      List.zip_append hR.length_eq
    rw [List.append_nil, List.zip_nil_right, List.append_nil] at happend
    exact happend
  rw [hzip] at hab
  exact (List.forall₂_iff_zip.1 hR).2 hab

end Lists

/-! ## Classes of entities -/

namespace Draft

variable {s : Session} {e : Entity} {t : Target} {ts : List Target} {ps : List Property}

/-- A class is that of an entity for a target. -/
def IsClassOf (s : Session) (e : Entity) (t : Target) (c : GeneratedClass) : Prop :=
  ∃ ps, s.describe e = .ok ps ∧ ofTarget s ps e t = .ok c

theorem follows_finishAll (s : Session) (ds : List Draft) :
    Follows (fun d c => d.finish s = .ok c) ds (finishAll s ds) := by
  induction ds with
  | nil => exact follows_nil _
  | cons d ds ih =>
    unfold finishAll
    cases hd : d.finish s with
    | error failure => exact follows_failure _ _ failure
    | ok c =>
      obtain ⟨done, rest, rfl, hR, hrest⟩ := ih
      exact ⟨d :: done, rest, rfl, .cons hd hR, hrest⟩

theorem forall₂_receiveAll {ds ds' : List Draft} (h : receiveAll s ps ds = .ok ds') :
    List.Forall₂ (fun d d' => receives s ps d = .ok d') ds ds' := by
  induction ps generalizing ds with
  | nil =>
    cases h
    exact List.forall₂_same.2 fun d _ => rfl
  | cons p ps ih =>
    unfold receiveAll at h
    rw [List.foldlM_cons] at h
    obtain ⟨ds₁, h₁, h⟩ := bind_eq_ok.1 h
    refine forall₂_trans (fun d d₁ d' hd hrest => ?_) (forall₂_of_mapM_eq_ok h₁) (ih h)
    unfold receives
    rw [List.foldlM_cons]
    exact bind_eq_ok.2 ⟨d₁, hd, hrest⟩

theorem follows_ofEntity (s : Session) (ts : List Target) (e : Entity) :
    Follows (IsClassOf s e) ts (ofEntity s ts e) := by
  unfold ofEntity
  cases hf : filled s ts e with
  | error failure => exact follows_failure _ _ failure
  | ok ds' =>
    obtain ⟨ps, hps, hf⟩ := bind_eq_ok.1 hf
    obtain ⟨ds, hds, hf⟩ := bind_eq_ok.1 hf
    have hdrafts : List.Forall₂ (fun t d' => ∃ d, start s e t = .ok d ∧ receives s ps d = .ok d')
        ts ds' :=
      forall₂_trans (fun t d d' hd hrest => ⟨d, hd, hrest⟩) (forall₂_of_mapM_eq_ok hds)
        (forall₂_receiveAll hf)
    refine Follows.comp (fun t d' c ht hc => ?_) hdrafts (follows_finishAll s ds')
    obtain ⟨d, hd, hrest⟩ := ht
    exact ⟨ps, hps, bind_eq_ok.2 ⟨d, hd, bind_eq_ok.2 ⟨d', hrest, hc⟩⟩⟩

/-- Entities and targets, in the order in which their classes are made. -/
def outputs (ts : List Target) (es : List Entity) : List (Entity × Target) :=
  es.flatMap fun e => ts.map fun t => (e, t)

theorem follows_ofEntities (s : Session) (ts : List Target) (es : List Entity) :
    Follows (fun o => IsClassOf s o.1 o.2) (outputs ts es) (ofEntities s ts es) := by
  induction es with
  | nil => exact follows_nil _
  | cons e es ih =>
    have he : Follows (fun o => IsClassOf s o.1 o.2) (ts.map fun t => (e, t)) (ofEntity s ts e) :=
      Follows.of_map (follows_ofEntity s ts e)
    unfold outputs ofEntities
    rw [List.flatMap_cons]
    cases hm : ofEntity s ts e with
    | mk cs outcome =>
      rw [hm] at he
      cases outcome with
      | some failure => exact he.append_right _ rfl
      | none => exact he.append ih

end Draft

/-! ## Classes of generators -/

namespace Generator

variable {config : Config} {user : Option Catalog.Bundle} {g : Generator}

/-- Entities and targets of a generator, in the order in which their classes are made. -/
def outputs (g : Generator) : List (Entity × Target) :=
  Draft.outputs g.targets g.session.entities.values

/-- The classes of a generator are those of its outputs, in order and up to a failure. -/
theorem follows_outputs (g : Generator) :
    Follows (fun o => Draft.IsClassOf g.session o.1 o.2) g.outputs g.made :=
  Draft.follows_ofEntities g.session g.targets g.session.entities.values

/-- A class that stands in the place of an output is the class of its entity for its target. -/
theorem isClassOf_of_mem_zip (hg : g.Clean) {e : Entity} {t : Target} {c : GeneratedClass}
    (hc : ((e, t), c) ∈ g.outputs.zip g.produce.classes) : Draft.IsClassOf g.session e t c := by
  rw [(produce_spec hg).1] at hc
  have hclass := g.follows_outputs.of_mem_zip hc
  exact hclass

/-- A generator that succeeds has a class for each of its outputs. -/
theorem forall₂_outputs (hg : g.Clean) {count : Nat} (h : g.produce.outcome = .ok count) :
    List.Forall₂ (fun o c => Draft.IsClassOf g.session o.1 o.2 c) g.outputs g.produce.classes := by
  obtain ⟨hclasses, houtcome, -⟩ := produce_spec hg
  rw [hclasses]
  refine g.follows_outputs.forall₂ ?_
  rw [houtcome] at h
  cases hm : g.made.2 with
  | none => rfl
  | some failure =>
    rw [hm] at h
    cases h

theorem mem_outputs (ht : g.targets = Target.all) {e : Entity}
    (he : e ∈ g.session.entities.values) (t : Target) : (e, t) ∈ g.outputs := by
  unfold outputs Draft.outputs
  rw [ht]
  refine List.mem_flatMap.2 ⟨e, he, List.mem_map.2 ⟨t, ?_, rfl⟩⟩
  cases t <;> decide

section Generable
variable (h : Reachable config user g) (ht : g.targets = Target.all)
  (hall : ∀ e ∈ g.session.entities.values, g.session.Generable e)
include h ht hall

theorem Reachable.exists_outcome : ∃ count, g.produce.outcome = .ok count := by
  rw [(produce_spec h.wellKept.clean).2.1, (made_snd_eq_none_iff h.namesMethods ht).2 hall]
  exact ⟨_, rfl⟩

/-- Where every entity meets the conditions, each has a class for each target. -/
theorem Reachable.exists_mem_zip {e : Entity} (he : e ∈ g.session.entities.values) (t : Target) :
    ∃ c, ((e, t), c) ∈ g.outputs.zip g.produce.classes := by
  obtain ⟨count, hcount⟩ := h.exists_outcome ht hall
  have hlength := (forall₂_outputs h.wellKept.clean hcount).length_eq
  obtain ⟨i, hi, hget⟩ := List.mem_iff_getElem.1 (mem_outputs ht he t)
  have hi' : i < g.produce.classes.length := hlength ▸ hi
  refine ⟨g.produce.classes[i], List.mem_iff_getElem.2 ⟨i, ?_, ?_⟩⟩
  · rw [List.length_zip]
    exact Nat.lt_min.2 ⟨hi, hi'⟩
  · rw [List.getElem_zip, hget]

end Generable

end Generator

end XmlBinding
