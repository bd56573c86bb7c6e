import Mathlib.Data.List.Forall2
import XmlBinding.SortedMap

/-!
# Entries of sorted maps

* `mem_values_of_find?` : what is found is among the values; `find?_of_mem` : an entry is found;
* `ext_find?` : maps in which the same is found are equal;
* `map` : a map with other values under its keys; `rel_find?` : maps with related values;
* `mem_insert` : the entries after an insertion;
* `foldl_insert_entries` : a map is what its entries make when they are inserted in order;
* `find?_foldl_insert` : of several insertions at one key, the last is found;
* `length_foldl_insert_iff` : insertions make as many entries where no two are at one key;
* `mem_foldl_insertSorted`, `pairwise_foldl_insertSorted` : elements after insertions into a list
  of keys alone, and their order.
-/

namespace XmlBinding.SortedMap

variable {κ : Type u} {α : Type v} [Ord κ]

theorem mem_of_findIn {key : κ} {l : List (κ × α)} {a : α} (h : findIn key l = some a) :
    ∃ k, (k, a) ∈ l := by
  induction l with
  | nil => cases h
  | cons e rest ih =>
    rw [findIn] at h
    split at h
    · cases h
      exact ⟨e.1, List.mem_cons_self⟩
    · obtain ⟨k, hk⟩ := ih h
      exact ⟨k, List.mem_cons_of_mem _ hk⟩

theorem mem_values_of_find? (m : SortedMap κ α) {key : κ} {a : α} (h : m.find? key = some a) :
    a ∈ m.values := by
  obtain ⟨k, hk⟩ := mem_of_findIn h
  exact List.mem_map_of_mem hk

theorem findIn_of_mem [Std.TransOrd κ] {key : κ} {a : α} {l : List (κ × α)}
    (hl : l.Pairwise fun a b => compare a.1 b.1 = .lt) (h : (key, a) ∈ l) :
    findIn key l = some a := by
  induction l with
  | nil => cases h
  | cons e rest ih =>
    obtain ⟨hbelow, hrest⟩ := List.pairwise_cons.1 hl
    rw [findIn]
    rcases List.mem_cons.1 h with rfl | h
    · rw [if_pos Std.ReflCmp.compare_self]
    · have habove : compare key e.1 = .gt := Std.OrientedCmp.gt_of_lt (hbelow _ h)
      rw [habove, if_neg (by decide)]
      exact ih hrest h

theorem find?_of_mem [Std.TransOrd κ] (m : SortedMap κ α) {key : κ} {a : α}
    (h : (key, a) ∈ m.entries) : m.find? key = some a :=
  findIn_of_mem m.ascending h

theorem eq_of_entries {m n : SortedMap κ α} (h : m.entries = n.entries) : m = n := by
  cases m
  cases n
  cases h
  rfl

/-- Ascending entries in which the same is found under every key are equal. -/
theorem eq_of_findIn [Std.TransOrd κ] [Std.LawfulEqOrd κ] {l m : List (κ × α)}
    (hl : l.Pairwise fun a b => compare a.1 b.1 = .lt)
    (hm : m.Pairwise fun a b => compare a.1 b.1 = .lt)
    (h : ∀ key, findIn key l = findIn key m) : l = m := by
  have first (e : κ × α) (rest : List (κ × α)) : findIn e.1 (e :: rest) = some e.2 := by
    rw [findIn, if_pos Std.ReflCmp.compare_self]
  have below {e d : κ × α} {rest : List (κ × α)} (hlt : compare e.1 d.1 = .lt)
      (hrest : (d :: rest).Pairwise fun a b => compare a.1 b.1 = .lt) :
      findIn e.1 (d :: rest) = none := by
    refine findIn_eq_none fun c hc => ?_
    rcases List.mem_cons.1 hc with rfl | hc
    · exact hlt
    · exact Std.TransCmp.lt_trans hlt ((List.pairwise_cons.1 hrest).1 c hc)
  induction l generalizing m with
  | nil =>
    cases m with
    | nil => rfl
    | cons d m => cases (h d.1).trans (first d m)
  | cons e l ih =>
    cases m with
    | nil => cases (first e l).symm.trans (h e.1)
    | cons d m =>
      -- The lesser of the first keys would be found in one list only.
      cases hc : compare e.1 d.1 with
      | lt => cases (first e l).symm.trans ((h e.1).trans (below hc hm))
      | gt =>
        have hlt : compare d.1 e.1 = .lt := Std.OrientedCmp.lt_of_gt hc
        cases (below hlt hl).symm.trans ((h d.1).trans (first d m))
      | eq =>
        have hkey : e.1 = d.1 := Std.LawfulEqOrd.eq_of_compare hc
        have hvalue : some e.2 = some d.2 :=
          (first e l).symm.trans ((h e.1).trans (hkey ▸ first d m))
        have hhead : e = d := Prod.ext hkey (Option.some.inj hvalue)
        subst hhead
        obtain ⟨hbelow, hl⟩ := List.pairwise_cons.1 hl
        obtain ⟨hbelow', hm⟩ := List.pairwise_cons.1 hm
        refine congrArg (e :: ·) (ih hl hm fun key => ?_)
        have hkey := h key
        rw [findIn, findIn] at hkey
        by_cases heq : compare key e.1 = .eq
        · have hsame : key = e.1 := Std.LawfulEqOrd.eq_of_compare heq
          rw [hsame, findIn_eq_none hbelow, findIn_eq_none hbelow']
        · rwa [if_neg heq, if_neg heq] at hkey

theorem ext_find? [Std.TransOrd κ] [Std.LawfulEqOrd κ] {m n : SortedMap κ α}
    (h : ∀ key, m.find? key = n.find? key) : m = n :=
  eq_of_entries (eq_of_findIn m.ascending n.ascending h)

/-! ## Other values -/

section Map
variable {β : Type w} (f : α → β)

/-- The map with other values under its keys. -/
def map (m : SortedMap κ α) : SortedMap κ β where
  entries := m.entries.map fun e => (e.1, f e.2)
  ascending := List.pairwise_map.2 m.ascending

theorem values_map (m : SortedMap κ α) : (m.map f).values = m.values.map f := by
  unfold values map
  rw [List.map_map, List.map_map]
  rfl

theorem find?_map (m : SortedMap κ α) (key : κ) : (m.map f).find? key = (m.find? key).map f := by
  show findIn key (m.entries.map fun e => (e.1, f e.2)) = (findIn key m.entries).map f
  induction m.entries with
  | nil => rfl
  | cons e rest ih =>
    rw [List.map_cons, findIn, findIn, ih]
    split <;> rfl

/-- In maps with related values under the same keys, what is found is related. -/
theorem rel_find? {R : α → β → Prop} {m : SortedMap κ α} {n : SortedMap κ β}
    (h : List.Forall₂ (fun a b => a.1 = b.1 ∧ R a.2 b.2) m.entries n.entries) (key : κ) :
    Option.Rel R (m.find? key) (n.find? key) := by
  show Option.Rel R (findIn key m.entries) (findIn key n.entries)
  generalize m.entries = l, n.entries = l' at h
  induction h with
  | nil => exact .none
  | cons hab _ ih =>
    obtain ⟨hkey, hvalue⟩ := hab
    rw [findIn, findIn, hkey]
    split
    · exact .some hvalue
    · exact ih

end Map

/-! ## Insertion -/

theorem mem_alterEntries_const [Std.LawfulEqOrd κ] {key : κ} {a : α} {l : List (κ × α)}
    {e : κ × α} (h : e ∈ alterEntries key (fun _ => a) l) : e = (key, a) ∨ e ∈ l := by
  induction l with
  | nil => exact .inl (List.mem_singleton.1 h)
  | cons d rest ih =>
    simp only [alterEntries] at h
    split at h
    · rcases List.mem_cons.1 h with h | h
      · exact .inl h
      · exact .inr h
    · next heq =>
      rcases List.mem_cons.1 h with h | h
      · rw [Std.LawfulEqOrd.compare_eq_iff_eq] at heq
        exact .inl (heq ▸ h)
      · exact .inr (List.mem_cons_of_mem _ h)
    · rcases List.mem_cons.1 h with h | h
      · exact .inr (List.mem_cons.2 (.inl h))
      · rcases ih h with h | h
        · exact .inl h
        · exact .inr (List.mem_cons_of_mem _ h)

/-- The entries after an insertion are the new one and earlier ones. -/
theorem mem_insert [Std.TransOrd κ] [Std.LawfulEqOrd κ] {m : SortedMap κ α} {key : κ} {a : α}
    {e : κ × α} (h : e ∈ (m.insert key a).entries) : e = (key, a) ∨ e ∈ m.entries :=
  mem_alterEntries_const h

theorem alterEntries_of_above [Std.OrientedOrd κ] {key : κ} {f : Option α → α}
    {l : List (κ × α)} (h : ∀ e ∈ l, compare e.1 key = .lt) :
    alterEntries key f l = l ++ [(key, f none)] := by
  induction l with
  | nil => rfl
  | cons e rest ih =>
    have hgt : compare key e.1 = .gt := Std.OrientedCmp.gt_of_lt (h e List.mem_cons_self)
    rw [alterEntries, hgt]
    exact congrArg (e :: ·) (ih fun d hd => h d (List.mem_cons_of_mem _ hd))

/-- Entries that ascend come one after the other. -/
theorem entries_foldl_insert [Std.TransOrd κ] {l : List (κ × α)} {m : SortedMap κ α}
    (h : (m.entries ++ l).Pairwise fun a b => compare a.1 b.1 = .lt) :
    (l.foldl (fun m e => m.insert e.1 e.2) m).entries = m.entries ++ l := by
  induction l generalizing m with
  | nil => exact (List.append_nil _).symm
  | cons e rest ih =>
    have hlast : (m.insert e.1 e.2).entries = m.entries ++ [e] :=
      alterEntries_of_above fun d hd =>
        (List.pairwise_append.1 h).2.2 d hd e List.mem_cons_self
    rw [List.foldl_cons, ih, hlast, List.append_assoc]
    · rfl
    · rw [hlast, List.append_assoc]
      exact h

theorem foldl_insert_entries [Std.TransOrd κ] (m : SortedMap κ α) :
    m.entries.foldl (fun m e => m.insert e.1 e.2) empty = m :=
  eq_of_entries (entries_foldl_insert m.ascending)

/-! ## Many insertions -/

section Insertions
variable [Std.TransOrd κ] {m : SortedMap κ α} {l : List (κ × α)}

theorem find?_insert (m : SortedMap κ α) (key k : κ) (a : α) :
    (m.insert key a).find? k = if compare k key = .eq then some a else m.find? k :=
  find?_alter m key k fun _ => a

/-- Of several insertions at one key, the last is found. -/
theorem find?_foldl_insert (l : List (κ × α)) (m : SortedMap κ α) (k : κ) :
    (l.foldl (fun m e => m.insert e.1 e.2) m).find? k =
      ((l.reverse.find? fun e => compare k e.1 = .eq).map Prod.snd).or (m.find? k) := by
  induction l generalizing m with
  | nil => rfl
  | cons e l ih =>
    rw [List.foldl_cons, ih, find?_insert, List.reverse_cons, List.find?_append]
    cases l.reverse.find? fun e => compare k e.1 = .eq with
    | some d => rfl
    | none => by_cases h : compare k e.1 = .eq <;> simp [h]

theorem length_alterEntries (key : κ) (f : Option α → α) {l : List (κ × α)}
    (h : l.Pairwise fun a b => compare a.1 b.1 = .lt) :
    (alterEntries key f l).length = l.length + if (findIn key l).isSome then 0 else 1 := by
  induction l with
  | nil => rfl
  | cons e rest ih =>
    obtain ⟨below, sorted⟩ := List.pairwise_cons.1 h
    rw [alterEntries]
    split
    · next hlt =>
      have absent : findIn key (e :: rest) = none := by
        refine findIn_eq_none fun d hd => ?_
        rcases List.mem_cons.1 hd with rfl | hd
        · exact hlt
        · exact Std.TransCmp.lt_trans hlt (below d hd)
      rw [absent]
      rfl
    · next heq =>
      rw [findIn, if_pos heq]
      rfl
    · next hgt =>
      have hne : compare key e.1 ≠ .eq := by
        rw [hgt]
        decide
      rw [findIn, if_neg hne, List.length_cons, List.length_cons, ih sorted]
      omega

/-- An insertion adds an entry unless the key has one. -/
theorem length_insert (m : SortedMap κ α) (key : κ) (a : α) :
    (m.insert key a).entries.length =
      m.entries.length + if (m.find? key).isSome then 0 else 1 :=
  length_alterEntries key _ m.ascending

theorem length_foldl_insert_le (l : List (κ × α)) (m : SortedMap κ α) :
    (l.foldl (fun m e => m.insert e.1 e.2) m).entries.length ≤ m.entries.length + l.length := by
  induction l generalizing m with
  | nil => exact Nat.le_refl _
  | cons e l ih =>
    have hrest := ih (m.insert e.1 e.2)
    have hfirst := length_insert m e.1 e.2
    rw [List.foldl_cons, List.length_cons]
    split at hfirst <;> omega

/-- Insertions make one entry each where all their keys are new and different. -/
theorem length_foldl_insert_iff (l : List (κ × α)) (m : SortedMap κ α) :
    (l.foldl (fun m e => m.insert e.1 e.2) m).entries.length = m.entries.length + l.length ↔
      (l.Pairwise fun a b => compare a.1 b.1 ≠ .eq) ∧ ∀ e ∈ l, m.find? e.1 = none := by
  induction l generalizing m with
  | nil => exact iff_of_true rfl ⟨.nil, fun e he => nomatch he⟩
  | cons e l ih =>
    have hrest := ih (m.insert e.1 e.2)
    have hbound := length_foldl_insert_le l (m.insert e.1 e.2)
    have hfirst := length_insert m e.1 e.2
    rw [List.foldl_cons, List.length_cons, List.pairwise_cons, List.forall_mem_cons]
    cases hfind : m.find? e.1 with
    | some a =>
      rw [hfind] at hfirst
      refine iff_of_false ?_ fun h => nomatch h.2.1
      simp only [Option.isSome_some, if_true] at hfirst
      omega
    | none =>
      rw [hfind] at hfirst
      simp only [Option.isSome_none, Bool.false_eq_true, if_false] at hfirst
      have hlength : m.entries.length + (l.length + 1) =
          (m.insert e.1 e.2).entries.length + l.length := by omega
      have habsent (d : κ × α) : (m.insert e.1 e.2).find? d.1 = none ↔
          compare e.1 d.1 ≠ .eq ∧ m.find? d.1 = none := by
        have hcomm : compare e.1 d.1 = .eq ↔ compare d.1 e.1 = .eq := Std.OrientedCmp.eq_comm
        rw [find?_insert, Ne, hcomm]
        by_cases h : compare d.1 e.1 = .eq <;> simp [h]
      rw [hlength, hrest]
      simp only [habsent, imp_and, forall_and]
      constructor
      · rintro ⟨hpairs, hfirst, hall⟩
        exact ⟨⟨hfirst, hpairs⟩, trivial, hall⟩
      · rintro ⟨⟨hfirst, hpairs⟩, -, hall⟩
        exact ⟨hpairs, hfirst, hall⟩

end Insertions

/-! ## Keys alone -/

theorem mem_insertSorted [Std.LawfulEqOrd κ] {a b : κ} {l : List κ} :
    a ∈ insertSorted b l ↔ a = b ∨ a ∈ l := by
  induction l with
  | nil => simp [insertSorted]
  | cons c rest ih =>
    simp only [insertSorted]
    split
    · exact List.mem_cons
    · next heq =>
      rw [Std.LawfulEqOrd.compare_eq_iff_eq] at heq
      rw [heq, List.mem_cons, or_self_left]
    · rw [List.mem_cons, ih, List.mem_cons, or_left_comm]

theorem mem_foldl_insertSorted [Std.LawfulEqOrd κ] {a : κ} {keys l : List κ} :
    a ∈ keys.foldl (fun sorted k => insertSorted k sorted) l ↔ a ∈ l ∨ a ∈ keys := by
  induction keys generalizing l with
  | nil => simp
  | cons k rest ih =>
    rw [List.foldl_cons, ih, mem_insertSorted, List.mem_cons, or_right_comm, or_comm, or_left_comm]

theorem pairwise_insertSorted [Std.TransOrd κ] [Std.LawfulEqOrd κ] (k : κ) {l : List κ}
    (h : l.Pairwise fun a b => compare a b = .lt) :
    (insertSorted k l).Pairwise fun a b => compare a b = .lt := by
  induction l with
  | nil => exact List.pairwise_singleton _ _
  | cons b rest ih =>
    obtain ⟨below, sorted⟩ := List.pairwise_cons.1 h
    rw [insertSorted]
    split
    · next hlt =>
      refine List.pairwise_cons.2 ⟨fun c hc => ?_, h⟩
      rcases List.mem_cons.1 hc with rfl | hc
      · exact hlt
      · exact Std.TransCmp.lt_trans hlt (below c hc)
    · exact h
    · next hgt =>
      refine List.pairwise_cons.2 ⟨fun c hc => ?_, ih sorted⟩
      rcases mem_insertSorted.1 hc with rfl | hc
      · exact Std.OrientedCmp.lt_of_gt hgt
      · exact below c hc

theorem pairwise_foldl_insertSorted [Std.TransOrd κ] [Std.LawfulEqOrd κ] (keys : List κ)
    {l : List κ} (h : l.Pairwise fun a b => compare a b = .lt) :
    (keys.foldl (fun sorted k => insertSorted k sorted) l).Pairwise
      fun a b => compare a b = .lt := by
  induction keys generalizing l with
  | nil => exact h
  | cons k rest ih => exact ih (pairwise_insertSorted k h)

end XmlBinding.SortedMap
