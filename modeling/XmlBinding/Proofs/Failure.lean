import XmlBinding.Failure

/-!
# Which failures are due to entities

* `Failure.IsEntityFault` : the failures whose cause is a registered entity;
* `FailsByEntity r` : `r` fails with no others; `FailsByEntity.bind`, `mapM`, `foldlM`, … ;
* `exists_mapM_iff` : a result for every element of a list.
-/

namespace XmlBinding

/-- Failures whose cause is a registered entity. -/
def Failure.IsEntityFault : Failure → Prop
  | .missingElementType .. | .schema _ | .invalidDefault .. | .invalidPackage ..
  | .attributeClassNode _ | .complexAttribute .. => True
  | .missingMethodName _ | .packageNotFound _ | .invalidState _ | .helperExpansionLimit _
  | .config _ | .io _ => False

variable {α β γ : Type} {r : Except Failure α}

/-- Every failure of a result is due to an entity. -/
def FailsByEntity (r : Except Failure α) : Prop :=
  ∀ failure, r = .error failure → failure.IsEntityFault

theorem failsByEntity_ok (a : α) : FailsByEntity (.ok a : Except Failure α) :=
  fun _ h => nomatch h

theorem failsByEntity_error {failure : Failure} (h : failure.IsEntityFault) :
    FailsByEntity (.error failure : Except Failure α) := by
  intro failure' h'
  cases h'
  exact h

theorem FailsByEntity.bind {f : α → Except Failure β} (h : FailsByEntity r)
    (hf : ∀ a, FailsByEntity (f a)) : FailsByEntity (r >>= f) := by
  cases r with
  | error failure => exact failsByEntity_error (h failure rfl)
  | ok a => exact hf a

theorem FailsByEntity.map (h : FailsByEntity r) (f : α → β) : FailsByEntity (r.map f) := by
  cases r with
  | error failure => exact failsByEntity_error (h failure rfl)
  | ok a => exact failsByEntity_ok (f a)

/-- Faults that are turned into failures of entities. -/
theorem failsByEntity_mapError {ε : Type} {r : Except ε α} {f : ε → Failure}
    (hf : ∀ e, (f e).IsEntityFault) : FailsByEntity (r.mapError f) := by
  cases r with
  | error e => exact failsByEntity_error (hf e)
  | ok a => exact failsByEntity_ok a

theorem failsByEntity_mapM {f : α → Except Failure β} {xs : List α}
    (h : ∀ x ∈ xs, FailsByEntity (f x)) : FailsByEntity (xs.mapM f) := by
  induction xs with
  | nil => exact failsByEntity_ok []
  | cons x xs ih =>
    rw [List.mapM_cons]
    refine (h x List.mem_cons_self).bind fun y => ?_
    exact (ih fun x hx => h x (List.mem_cons_of_mem _ hx)).bind fun ys => failsByEntity_ok _

theorem failsByEntity_foldlM {f : β → α → Except Failure β} (h : ∀ b x, FailsByEntity (f b x))
    (xs : List α) (b : β) : FailsByEntity (xs.foldlM f b) := by
  induction xs generalizing b with
  | nil => exact failsByEntity_ok b
  | cons x xs ih =>
    rw [List.foldlM_cons]
    exact (h b x).bind ih

/-! ## Results for every element -/

theorem bind_eq_ok {f : α → Except Failure β} {b : β} :
    r >>= f = .ok b ↔ ∃ a, r = .ok a ∧ f a = .ok b := by
  cases r with
  | error failure => exact ⟨fun h => (nomatch h), fun ⟨_, h, _⟩ => nomatch h⟩
  | ok a =>
    refine ⟨fun h => ⟨a, rfl, h⟩, fun ⟨a', ha, h⟩ => ?_⟩
    cases ha
    exact h

theorem exists_ok_of_isOk (h : r.isOk = true) : ∃ a, r = .ok a := by
  cases r with
  | error failure => cases h
  | ok a => exact ⟨a, rfl⟩

theorem map_eq_ok {ε : Type} {r : Except ε α} {f : α → β} {b : β} :
    r.map f = .ok b ↔ ∃ a, r = .ok a ∧ f a = b := by
  cases r with
  | error failure => exact ⟨fun h => (nomatch h), fun ⟨_, h, _⟩ => nomatch h⟩
  | ok a =>
    refine ⟨fun h => ⟨a, rfl, ?_⟩, fun ⟨a', ha, h⟩ => ?_⟩
    · cases h
      rfl
    · cases ha
      exact congrArg _ h

/-- Every result of a list comes from one of its elements. -/
theorem mem_of_mapM_eq_ok {f : α → Except Failure β} {xs : List α} {ys : List β}
    (h : xs.mapM f = .ok ys) {y : β} (hy : y ∈ ys) : ∃ x ∈ xs, f x = .ok y := by
  induction xs generalizing ys with
  | nil =>
    cases h
    cases hy
  | cons x xs ih =>
    rw [List.mapM_cons] at h
    obtain ⟨z, hz, h⟩ := bind_eq_ok.1 h
    obtain ⟨zs, hzs, h⟩ := bind_eq_ok.1 h
    cases h
    rcases List.mem_cons.1 hy with rfl | hy
    · exact ⟨x, List.mem_cons_self, hz⟩
    · obtain ⟨x', hx', hy⟩ := ih hzs hy
      exact ⟨x', List.mem_cons_of_mem _ hx', hy⟩

/-- A list of results with a property, one for each element. -/
theorem exists_mapM_iff {f : α → Except Failure β} {q : β → Prop} {xs : List α} :
    (∃ ys, xs.mapM f = .ok ys ∧ ∀ y ∈ ys, q y) ↔ ∀ x ∈ xs, ∃ y, f x = .ok y ∧ q y := by
  induction xs with
  | nil => exact ⟨fun _ x hx => (nomatch hx), fun _ => ⟨[], rfl, fun y hy => nomatch hy⟩⟩
  | cons x xs ih =>
    rw [List.mapM_cons, List.forall_mem_cons, ← ih]
    constructor
    · rintro ⟨ys, h, hq⟩
      obtain ⟨y, hy, h⟩ := bind_eq_ok.1 h
      obtain ⟨zs, hz, h⟩ := bind_eq_ok.1 h
      cases h
      exact ⟨⟨y, hy, hq y List.mem_cons_self⟩,
        zs, hz, fun z hz => hq z (List.mem_cons_of_mem _ hz)⟩
    · rintro ⟨⟨y, hy, hqy⟩, ys, hys, hq⟩
      refine ⟨y :: ys, ?_, List.forall_mem_cons.2 ⟨hqy, hq⟩⟩
      rw [hy, hys]
      rfl

theorem exists_mapM_eq_ok_iff {f : α → Except Failure β} {xs : List α} :
    (∃ ys, xs.mapM f = .ok ys) ↔ ∀ x ∈ xs, ∃ y, f x = .ok y := by
  have h : (∃ ys, xs.mapM f = .ok ys ∧ ∀ y ∈ ys, True) ↔ ∀ x ∈ xs, ∃ y, f x = .ok y ∧ True :=
    exists_mapM_iff
  simpa only [implies_true, and_true] using h

end XmlBinding
