import Mathlib.Data.List.TakeWhile
import XmlBinding.Session

/-!
# Simple and qualified names

* `not_mem_simpleName` : a simple name has no dots;
* `packageOf_qualify`, `simpleName_qualify` : the parts of a name that is put together;
* `Config.not_mem_modelName`, `Session.not_mem_className` : characters that names of generated
  classes do not have.
-/

namespace XmlBinding

variable {n : String}

theorem not_mem_simpleName (q : String) : '.' ∉ (simpleName q).toList := by
  unfold simpleName
  rw [String.toList_ofList, List.mem_reverse]
  intro h
  have hne := List.mem_takeWhile_imp h
  simp at hne

theorem reverse_toList_qualify (p n : String) :
    (qualify p n).toList.reverse =
      n.toList.reverse ++ if p.isEmpty then [] else '.' :: p.toList.reverse := by
  unfold qualify
  cases p.isEmpty with
  | true => exact (List.append_nil _).symm
  | false =>
    have hdot : ".".toList = ['.'] := rfl
    simp [hdot]

section Qualify
variable (hn : '.' ∉ n.toList) (p : String)
include hn

theorem ne_dot_of_mem_reverse : ∀ c ∈ n.toList.reverse, decide (c ≠ '.') = true := by
  intro c hc
  refine decide_eq_true fun hdot => hn ?_
  rw [← hdot]
  exact List.mem_reverse.1 hc

theorem simpleName_qualify : simpleName (qualify p n) = n := by
  unfold simpleName
  rw [reverse_toList_qualify, List.takeWhile_append_of_pos (ne_dot_of_mem_reverse hn)]
  have hrest : (if p.isEmpty then [] else '.' :: p.toList.reverse).takeWhile (· ≠ '.') = [] := by
    cases p.isEmpty <;> rfl
  rw [hrest, List.append_nil, List.reverse_reverse, String.ofList_toList]

theorem packageOf_qualify : packageOf (qualify p n) = p := by
  unfold packageOf
  rw [reverse_toList_qualify, List.dropWhile_append_of_pos (ne_dot_of_mem_reverse hn)]
  cases hp : p.isEmpty with
  | true => exact (String.isEmpty_iff.1 hp).symm
  | false =>
    have hrest : (('.' :: p.toList.reverse).dropWhile (· ≠ '.')).drop 1 = p.toList.reverse := rfl
    have hif : (if false = true then [] else '.' :: p.toList.reverse) = '.' :: p.toList.reverse :=
      rfl
    rw [hif, hrest, List.reverse_reverse, String.ofList_toList]

end Qualify

/-! ## Names of generated classes -/

section Affixes
variable {c : Char} {config : Config} (hlead : c ∉ (config.classLead.getD "").toList)
  (hsuffix : c ∉ (config.classSuffix.getD "").toList)
include hlead hsuffix

theorem Config.not_mem_modelName {simple : String} (h : c ∉ simple.toList) :
    c ∉ (config.modelName simple).toList := by
  unfold modelName
  rw [String.toList_append, String.toList_append, List.mem_append, List.mem_append]
  exact not_or.2 ⟨not_or.2 ⟨hlead, h⟩, hsuffix⟩

/-- A name of a generated class is put together from that of the entity and what the configuration
puts around it. -/
theorem Session.not_mem_className (hbuilder : c ∉ config.builderSuffix.toList) {s : Session}
    (hs : s.config = config) {e : Entity} (h : c ∉ e.simpleName.toList) (t : Target) :
    c ∉ (s.className e t).toList := by
  subst hs
  have hmodel : c ∉ (s.modelName e).toList := Config.not_mem_modelName hlead hsuffix h
  cases t with
  | clientModel => exact hmodel
  | clientBuilder =>
    show c ∉ (s.modelName e ++ s.config.builderSuffix).toList
    rw [String.toList_append, List.mem_append]
    exact not_or.2 ⟨hmodel, hbuilder⟩
  | serverBuilder =>
    show c ∉ (e.simpleName ++ s.config.builderSuffix).toList
    rw [String.toList_append, List.mem_append]
    exact not_or.2 ⟨h, hbuilder⟩

end Affixes

end XmlBinding
