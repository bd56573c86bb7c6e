import Mathlib.Data.List.Forall2
import XmlBinding.Proofs.Failure

/-!
# Results of two computations

* `Agrees R r r'` : two computations have related results, or both fail and with one failure;
* `Agrees.bind`, `agrees_mapM`, `agrees_foldlM` : computations in a row;
* `forall₂_trans` : relations of lists in a row;
* `forall₂_of_mapM` : related results of related lists;
* `mapM_filter` : the results of some elements of a list;
* `filter_eq_of_forall₂` : related lists with the same elements of a kind.
-/

namespace XmlBinding

variable {α α' β β' γ : Type}

/-- Two computations have related results, or both fail and with one failure. -/
inductive Agrees (R : α → β → Prop) : Except Failure α → Except Failure β → Prop
  | error (failure : Failure) : Agrees R (.error failure) (.error failure)
  | ok {a : α} {b : β} (h : R a b) : Agrees R (.ok a) (.ok b)

theorem Agrees.bind {R : α → β → Prop} {S : α' → β' → Prop} {r : Except Failure α}
    {r' : Except Failure β} {f : α → Except Failure α'} {f' : β → Except Failure β'}
    (h : Agrees R r r') (hf : ∀ a b, R a b → Agrees S (f a) (f' b)) :
    Agrees S (r >>= f) (r' >>= f') := by
  cases h with
  | error failure => exact .error failure
  | ok h => exact hf _ _ h

theorem Agrees.map {R : α → β → Prop} {S : α' → β' → Prop} {r : Except Failure α}
    {r' : Except Failure β} {f : α → α'} {f' : β → β'} (h : Agrees R r r')
    (hf : ∀ a b, R a b → S (f a) (f' b)) : Agrees S (r.map f) (r'.map f') := by
  cases h with
  | error failure => exact .error failure
  | ok h => exact .ok (hf _ _ h)

theorem Agrees.imp {R S : α → β → Prop} {r : Except Failure α} {r' : Except Failure β}
    (h : Agrees R r r') (hRS : ∀ a b, R a b → S a b) : Agrees S r r' := by
  cases h with
  | error failure => exact .error failure
  | ok h => exact .ok (hRS _ _ h)

theorem Agrees.eq {r r' : Except Failure α} (h : Agrees Eq r r') : r = r' := by
  cases h with
  | error failure => rfl
  | ok h => rw [h]

theorem agrees_of_eq {R : α → α → Prop} (hR : ∀ a, R a a) {r r' : Except Failure α} (h : r = r') :
    Agrees R r r' := by
  subst h
  cases r with
  | error failure => exact .error failure
  | ok a => exact .ok (hR a)

theorem agrees_mapM {R : α → β → Prop} {S : α' → β' → Prop} {f : α → Except Failure α'}
    {f' : β → Except Failure β'} (hf : ∀ a b, R a b → Agrees S (f a) (f' b)) {xs : List α}
    {ys : List β} (h : List.Forall₂ R xs ys) :
    Agrees (List.Forall₂ S) (xs.mapM f) (ys.mapM f') := by
  induction h with
  | nil => exact .ok .nil
  | cons hab _ ih =>
    rw [List.mapM_cons, List.mapM_cons]
    refine (hf _ _ hab).bind fun c d hcd => ?_
    exact ih.bind fun cs ds hrest => .ok (.cons hcd hrest)

theorem agrees_foldlM {R : α → β → Prop} {S : α' → β' → Prop} {f : α → α' → Except Failure α}
    {f' : β → β' → Except Failure β}
    (hf : ∀ a b x y, R a b → S x y → Agrees R (f a x) (f' b y)) {xs : List α'} {ys : List β'}
    (h : List.Forall₂ S xs ys) {a : α} {b : β} (hab : R a b) :
    Agrees R (xs.foldlM f a) (ys.foldlM f' b) := by
  induction h generalizing a b with
  | nil => exact .ok hab
  | cons hxy _ ih =>
    rw [List.foldlM_cons, List.foldlM_cons]
    exact (hf _ _ _ _ hab hxy).bind fun c d hcd => ih hcd

/-! ## Lists -/

theorem mapM_congr_forall₂ {f : α → Except Failure α'} {g : β → Except Failure α'} {xs : List α}
    {ys : List β} (h : List.Forall₂ (fun x y => f x = g y) xs ys) : xs.mapM f = ys.mapM g := by
  induction h with
  | nil => rfl
  | cons hxy _ ih => rw [List.mapM_cons, List.mapM_cons, hxy, ih]

/-- The results of a list stand in the order of its elements. -/
theorem forall₂_of_mapM_eq_ok {f : α → Except Failure β} {xs : List α} {ys : List β}
    (h : xs.mapM f = .ok ys) : List.Forall₂ (fun x y => f x = .ok y) xs ys := by
  induction xs generalizing ys with
  | nil =>
    cases h
    exact .nil
  | cons x xs ih =>
    rw [List.mapM_cons] at h
    obtain ⟨y, hy, h⟩ := bind_eq_ok.1 h
    obtain ⟨zs, hzs, h⟩ := bind_eq_ok.1 h
    cases h
    exact .cons hy (ih hzs)

theorem forall₂_trans {R : α → β → Prop} {S : β → γ → Prop} {T : α → γ → Prop}
    (hT : ∀ a b c, R a b → S b c → T a c) {as : List α} {bs : List β} {cs : List γ}
    (hR : List.Forall₂ R as bs) (hS : List.Forall₂ S bs cs) : List.Forall₂ T as cs := by
  induction hR generalizing cs with
  | nil =>
    cases hS
    exact .nil
  | cons hab _ ih =>
    cases hS with
    | cons hbc hrest => exact .cons (hT _ _ _ hab hbc) (ih hrest)

/-- Related lists have related results. -/
theorem forall₂_of_mapM {R : α → β → Prop} {S : α' → β' → Prop} {f : α → Except Failure α'}
    {f' : β → Except Failure β'}
    (hf : ∀ x y a b, R x y → f x = .ok a → f' y = .ok b → S a b) {xs : List α} {ys : List β}
    (h : List.Forall₂ R xs ys) {as : List α'} {bs : List β'} (has : xs.mapM f = .ok as)
    (hbs : ys.mapM f' = .ok bs) : List.Forall₂ S as bs := by
  have hright : List.Forall₂ (fun x b => ∃ y, R x y ∧ f' y = .ok b) xs bs :=
    forall₂_trans (fun x y b hxy hb => ⟨y, hxy, hb⟩) h (forall₂_of_mapM_eq_ok hbs)
  refine forall₂_trans (fun a x b ha hb => ?_) (forall₂_of_mapM_eq_ok has).flip hright
  obtain ⟨y, hxy, hb⟩ := hb
  exact hf x y a b hxy ha hb

/-- The results of some elements of a list are some of its results. -/
theorem mapM_filter {f : α → Except Failure β} {test : α → Bool} {test' : β → Bool}
    (htest : ∀ x y, f x = .ok y → test x = test' y) {xs : List α} {ys : List β}
    (h : xs.mapM f = .ok ys) : (xs.filter test).mapM f = .ok (ys.filter test') := by
  induction xs generalizing ys with
  | nil =>
    cases h
    rfl
  | cons x xs ih =>
    rw [List.mapM_cons] at h
    obtain ⟨y, hy, h⟩ := bind_eq_ok.1 h
    obtain ⟨zs, hzs, h⟩ := bind_eq_ok.1 h
    cases h
    rw [List.filter_cons, List.filter_cons, htest x y hy]
    cases test' y with
    | true =>
      simp only [if_true]
      rw [List.mapM_cons, hy, ih hzs]
      rfl
    | false => exact ih hzs

/-- Related lists have the same elements of a kind, where elements of this kind are related to
themselves alone. -/
theorem filter_eq_of_forall₂ {test : α → Bool} {xs ys : List α}
    (h : List.Forall₂ (fun x y => test x = test y ∧ (test x = true → x = y)) xs ys) :
    xs.filter test = ys.filter test := by
  induction h with
  | nil => rfl
  | @cons x y _ _ hxy _ ih =>
    obtain ⟨htest, hsame⟩ := hxy
    rw [List.filter_cons, List.filter_cons, ← htest, ih]
    cases hx : test x with
    | true => rw [hsame hx]
    | false => rfl

end XmlBinding
