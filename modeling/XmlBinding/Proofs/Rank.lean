import Mathlib.Data.List.Basic
import XmlBinding.Writer

/-!
# Writers by rank

Writers are registered one at a time, each put in its place among those that are there. What comes
of many is one stable sort of them all, and the first writer that accepts a property is the one that
no other outranks.

* `Ranks priority l m` : `m` is `l` in order of descending priority, equal priorities in the order
  of `l`; `Ranks.unique`;
* `rankInsert_splits` : where one more goes; `Ranks.insert`, `Ranks.foldl` : one more, and many;
* `ranks_mergeSort` : a stable sort ranks; `rankInsert_eq_mergeSort`, `register_writers` : one more
  in its place is one more at the end, and then a stable sort;
* `Prevails accepts priority l a` : `a` is in `l`, is accepted, and whatever outranks it is not;
  `Ranks.find?_eq_some_iff`, `Ranks.find?_eq_none_iff` : the first that is accepted;
* `registries_rank` : the registries.
-/

namespace XmlBinding

variable {α : Type} {priority : α → Int} {l m : List α} {a : α}

/-- A list in order of descending priority, equal priorities in the order of another list. -/
structure Ranks (priority : α → Int) (l m : List α) : Prop where
  descending : m.Pairwise fun a b => priority b ≤ priority a
  stable : ∀ k, m.filter (priority · = k) = l.filter (priority · = k)

/-! ## One more -/

/-- One more goes behind all that rank at least as high, before all that rank lower. -/
theorem rankInsert_splits (a : α) (h : m.Pairwise fun a b => priority b ≤ priority a) :
    ∃ high low, m = high ++ low ∧ rankInsert priority a m = high ++ a :: low ∧
      (∀ b ∈ high, priority a ≤ priority b) ∧ ∀ b ∈ low, priority b < priority a := by
  induction m with
  | nil => exact ⟨[], [], rfl, rfl, by simp, by simp⟩
  | cons c m ih =>
    obtain ⟨hc, hm⟩ := List.pairwise_cons.1 h
    unfold rankInsert
    split
    · next hlt =>
      refine ⟨[], c :: m, rfl, rfl, by simp, fun b hb => ?_⟩
      rcases List.mem_cons.1 hb with rfl | hb
      · exact hlt
      · have hle := hc b hb
        omega
    · next hle =>
      obtain ⟨high, low, rfl, hinsert, hhigh, hlow⟩ := ih hm
      refine ⟨c :: high, low, rfl, by rw [hinsert, List.cons_append], fun b hb => ?_, hlow⟩
      rcases List.mem_cons.1 hb with rfl | hb
      · omega
      · exact hhigh b hb

namespace Ranks

theorem nil : Ranks priority [] [] := ⟨.nil, fun _ => rfl⟩

/-- One more that is put in its place ranks as the last one. -/
theorem insert (h : Ranks priority l m) (a : α) :
    Ranks priority (l ++ [a]) (rankInsert priority a m) := by
  obtain ⟨high, low, rfl, hinsert, hhigh, hlow⟩ := rankInsert_splits a h.descending
  obtain ⟨hdesc, hdesc', hcross⟩ := List.pairwise_append.1 h.descending
  rw [hinsert]
  constructor
  · refine List.pairwise_append.2 ⟨hdesc, List.pairwise_cons.2 ⟨fun b hb => ?_, hdesc'⟩,
      fun b hb c hc => ?_⟩
    · have hlt := hlow b hb
      omega
    · rcases List.mem_cons.1 hc with rfl | hc
      · exact hhigh b hb
      · exact hcross b hb c hc
  · intro k
    rw [List.filter_append l, ← h.stable k, List.filter_append, List.filter_append,
      List.append_assoc]
    congr 1
    -- Nothing behind `a` has its priority.
    by_cases hk : priority a = k
    · have hnone : low.filter (priority · = k) = [] :=
        List.filter_eq_nil_iff.2 fun b hb => by
          have hlt := hlow b hb
          simp only [decide_eq_true_eq]
          omega
      rw [List.filter_cons_of_pos (by simpa using hk), hnone, List.nil_append,
        List.filter_cons_of_pos (by simpa using hk), List.filter_nil]
    · rw [List.filter_cons_of_neg (by simpa using hk), List.filter_cons_of_neg (by simpa using hk),
        List.filter_nil, List.append_nil]

/-- Many more, each put in its place in turn. -/
theorem foldl (h : Ranks priority l m) (as : List α) :
    Ranks priority (l ++ as) (as.foldl (fun m a => rankInsert priority a m) m) := by
  induction as generalizing l m with
  | nil => rwa [List.append_nil]
  | cons a as ih =>
    have hrest := ih (h.insert a)
    rwa [List.append_assoc, List.singleton_append] at hrest

/-! ## One order -/

theorem perm (h : Ranks priority l m) : m.Perm l := by
  classical
  refine List.perm_iff_count.2 fun a => ?_
  have hcount (l : List α) : l.count a = (l.filter (priority · = priority a)).count a :=
    (List.count_filter (by simp)).symm
  rw [hcount m, h.stable, ← hcount l]

/-- A list has one order by rank. -/
theorem unique {m' : List α} (h : Ranks priority l m) (h' : Ranks priority l m') : m = m' := by
  have hstable : ∀ k, m.filter (priority · = k) = m'.filter (priority · = k) :=
    fun k => (h.stable k).trans (h'.stable k).symm
  obtain ⟨hdesc, -⟩ := h
  obtain ⟨hdesc', -⟩ := h'
  induction m generalizing m' with
  | nil =>
    cases m' with
    | nil => rfl
    | cons b m' =>
      have hb := hstable (priority b)
      rw [List.filter_cons_of_pos (by simp)] at hb
      cases hb
  | cons a m ih =>
    obtain ⟨ha, hm⟩ := List.pairwise_cons.1 hdesc
    cases m' with
    | nil =>
      have hnone := hstable (priority a)
      rw [List.filter_cons_of_pos (by simp)] at hnone
      cases hnone
    | cons b m' =>
      obtain ⟨hb, hm'⟩ := List.pairwise_cons.1 hdesc'
      -- Each head is somewhere in the other list, so neither ranks lower than the other.
      have hab : priority a = priority b := by
        have hmem : b ∈ a :: m := by
          have hmem : b ∈ (b :: m').filter (priority · = priority b) :=
            List.mem_filter.2 ⟨List.mem_cons_self, by simp⟩
          exact (List.mem_filter.1 (hstable (priority b) ▸ hmem)).1
        have hmem' : a ∈ b :: m' := by
          have hmem : a ∈ (a :: m).filter (priority · = priority a) :=
            List.mem_filter.2 ⟨List.mem_cons_self, by simp⟩
          exact (List.mem_filter.1 (hstable (priority a) ▸ hmem)).1
        rcases List.mem_cons.1 hmem' with rfl | hmem'
        · rfl
        · rcases List.mem_cons.1 hmem with rfl | hmem
          · rfl
          · exact Int.le_antisymm (hb a hmem') (ha b hmem)
      have hfirst := hstable (priority a)
      rw [List.filter_cons_of_pos (by simp), List.filter_cons_of_pos (by simp [hab])] at hfirst
      obtain ⟨rfl, -⟩ := List.cons.inj hfirst
      refine congrArg (a :: ·) (ih (fun k => ?_) hm hm')
      have hk := hstable k
      by_cases hak : priority a = k
      · rw [List.filter_cons_of_pos (by simpa using hak),
          List.filter_cons_of_pos (by simpa using hak)] at hk
        exact (List.cons.inj hk).2
      · rwa [List.filter_cons_of_neg (by simpa using hak),
          List.filter_cons_of_neg (by simpa using hak)] at hk

end Ranks

/-- A stable sort by descending priority ranks. -/
theorem ranks_mergeSort (priority : α → Int) (l : List α) :
    Ranks priority l (l.mergeSort fun a b => decide (priority b ≤ priority a)) := by
  have htrans : ∀ a b c : α, decide (priority b ≤ priority a) = true →
      decide (priority c ≤ priority b) = true → decide (priority c ≤ priority a) = true := by
    simp only [decide_eq_true_eq]
    intro a b c hab hbc
    omega
  have htotal : ∀ a b : α, (decide (priority b ≤ priority a) || decide (priority a ≤ priority b)) =
      true := by
    simp only [Bool.or_eq_true, decide_eq_true_eq]
    omega
  constructor
  · exact (List.pairwise_mergeSort htrans htotal l).imp of_decide_eq_true
  · intro k
    -- Those of one priority are in order in the list, so they still are when it is sorted.
    have hordered : (l.filter (priority · = k)).Pairwise
        fun a b => decide (priority b ≤ priority a) = true := by
      refine List.pairwise_of_forall_mem_list fun a ha b hb => decide_eq_true ?_
      have hak : priority a = k := by simpa using (List.mem_filter.1 ha).2
      have hbk : priority b = k := by simpa using (List.mem_filter.1 hb).2
      omega
    have hsub := (List.sublist_mergeSort htrans htotal hordered
      List.filter_sublist).filter (priority · = k)
    rw [List.filter_filter] at hsub
    simp only [Bool.and_self] at hsub
    exact (hsub.eq_of_length ((List.mergeSort_perm l _).filter _).length_eq.symm).symm

/-- To put one more in its place is to add it behind the others and to sort them, equal priorities
left in their order. -/
theorem rankInsert_eq_mergeSort (a : α) (h : m.Pairwise fun a b => priority b ≤ priority a) :
    rankInsert priority a m =
      (m ++ [a]).mergeSort fun a b => decide (priority b ≤ priority a) := by
  have hranks : Ranks priority m m := ⟨h, fun _ => rfl⟩
  exact (hranks.insert a).unique (ranks_mergeSort priority (m ++ [a]))

/-! ## The first that is accepted -/

/-- An element of a list that is accepted, where none is that ranks higher, or as high and stands
before it. -/
def Prevails (accepts : α → Bool) (priority : α → Int) (l : List α) (a : α) : Prop :=
  ∃ before after, l = before ++ a :: after ∧ accepts a = true ∧
    (∀ b ∈ before, priority a ≤ priority b → accepts b = false) ∧
    ∀ b ∈ after, priority a < priority b → accepts b = false

section Accepts
variable {accepts : α → Bool}

theorem Prevails.unique {b : α} (ha : Prevails accepts priority l a)
    (hb : Prevails accepts priority l b) : a = b := by
  obtain ⟨before, after, rfl, hacc, hbefore, hafter⟩ := ha
  obtain ⟨before', after', heq, hacc', hbefore', hafter'⟩ := hb
  rcases List.append_eq_append_iff.1 heq with ⟨between, rfl, hrest⟩ | ⟨between, rfl, hrest⟩
  · cases between with
    | nil => exact (List.cons.inj hrest).1
    | cons c between =>
      obtain ⟨rfl, rfl⟩ := List.cons.inj hrest
      -- `a` stands before `b`: it ranks lower, or `b` is refused.
      have hlt : priority a < priority b := by
        by_contra hle
        have hrefused := hbefore' a (List.mem_append_right _ List.mem_cons_self) (Int.not_lt.1 hle)
        rw [hacc] at hrefused
        cases hrefused
      have hrefused := hafter b (List.mem_append_right _ List.mem_cons_self) hlt
      rw [hacc'] at hrefused
      cases hrefused
  · cases between with
    | nil => exact (List.cons.inj hrest).1.symm
    | cons c between =>
      obtain ⟨rfl, rfl⟩ := List.cons.inj hrest
      have hlt : priority b < priority a := by
        by_contra hle
        have hrefused := hbefore b (List.mem_append_right _ List.mem_cons_self) (Int.not_lt.1 hle)
        rw [hacc'] at hrefused
        cases hrefused
      have hrefused := hafter' a (List.mem_append_right _ List.mem_cons_self) hlt
      rw [hacc] at hrefused
      cases hrefused

namespace Ranks

/-- The first by rank that is accepted prevails. -/
theorem prevails_of_find? (h : Ranks priority l m) (hfind : m.find? accepts = some a) :
    Prevails accepts priority l a := by
  obtain ⟨hacc, first, rest, rfl, hfirst⟩ := List.find?_eq_some_iff_append.1 hfind
  obtain ⟨-, hrest, hcross⟩ := List.pairwise_append.1 h.descending
  obtain ⟨hlower, -⟩ := List.pairwise_cons.1 hrest
  have hrefused : ∀ b ∈ first, accepts b = false := fun b hb => by simpa using hfirst b hb
  -- Those of the priority of `a` stand around it in the list as they do by rank.
  have hk := h.stable (priority a)
  rw [List.filter_append, List.filter_cons_of_pos (by simp)] at hk
  obtain ⟨before, after', rfl, hbefore, hafter'⟩ := List.filter_eq_append_iff.1 hk.symm
  obtain ⟨between, after, rfl, hbetween, -, -⟩ := List.filter_eq_cons_iff.1 hafter'
  have hhigher : ∀ b ∈ before ++ between ++ a :: after, priority a < priority b →
      accepts b = false := by
    intro b hb hlt
    have hmem : b ∈ first ++ a :: rest := h.perm.mem_iff.2 (by simpa using hb)
    rcases List.mem_append.1 hmem with hmem | hmem
    · exact hrefused b hmem
    · rcases List.mem_cons.1 hmem with rfl | hmem
      · omega
      · have hle := hlower b hmem
        omega
  refine ⟨before ++ between, after, by rw [List.append_assoc], hacc, fun b hb hle => ?_,
    fun b hb hlt => hhigher b (List.mem_append_right _ (List.mem_cons_of_mem a hb)) hlt⟩
  rcases Int.lt_or_eq_of_le hle with hlt | heq
  · exact hhigher b (List.mem_append_left _ hb) hlt
  · rcases List.mem_append.1 hb with hb | hb
    · have hmem : b ∈ first.filter (priority · = priority a) :=
        hbefore ▸ List.mem_filter.2 ⟨hb, by simpa using heq.symm⟩
      exact hrefused b (List.mem_filter.1 hmem).1
    · exact absurd (by simpa using heq.symm) (hbetween b hb)

theorem find?_eq_none_iff (h : Ranks priority l m) :
    m.find? accepts = none ↔ ∀ a ∈ l, accepts a = false := by
  simp only [List.find?_eq_none, Bool.not_eq_true]
  exact forall_congr' fun a => imp_congr_left h.perm.mem_iff

/-- The first by rank that is accepted is the one that prevails. -/
theorem find?_eq_some_iff (h : Ranks priority l m) :
    m.find? accepts = some a ↔ Prevails accepts priority l a := by
  refine ⟨h.prevails_of_find?, fun ha => ?_⟩
  cases hfind : m.find? accepts with
  | some b => rw [(h.prevails_of_find? hfind).unique ha]
  | none =>
    obtain ⟨before, after, rfl, hacc, -⟩ := ha
    have hrefused := h.find?_eq_none_iff.1 hfind a (List.mem_append_right _ List.mem_cons_self)
    rw [hacc] at hrefused
    cases hrefused

end Ranks

end Accepts

/-! ## Registries -/

section Registries
variable {J : Type}

theorem PropertyRegistry.ranks_ofList (ws : List (PropertyWriter J)) :
    Ranks PropertyWriter.priority ws (ofList ws).writers := by
  have hwriters : (ofList ws).writers =
      ws.foldl (fun m w => rankInsert PropertyWriter.priority w m) [] :=
    (List.foldl_hom PropertyRegistry.writers fun _ _ => rfl).symm
  rw [hwriters]
  exact Ranks.nil.foldl ws

theorem MethodRegistry.ranks_ofList (ws : List (MethodWriter J)) :
    Ranks MethodWriter.priority ws (ofList ws).writers := by
  have hwriters : (ofList ws).writers =
      ws.foldl (fun m w => rankInsert MethodWriter.priority w m) [] :=
    (List.foldl_hom MethodRegistry.writers fun _ _ => rfl).symm
  rw [hwriters]
  exact Ranks.nil.foldl ws

/-- A registry of properties adds a writer behind those it has, and sorts. -/
theorem PropertyRegistry.register_writers (ws : List (PropertyWriter J)) (w : PropertyWriter J) :
    ((ofList ws).register w).writers =
      ((ofList ws).writers ++ [w]).mergeSort fun v w => decide (w.priority ≤ v.priority) :=
  rankInsert_eq_mergeSort w (ranks_ofList ws).descending

/-- A registry of methods adds a writer behind those it has, and sorts. -/
theorem MethodRegistry.register_writers (ws : List (MethodWriter J)) (w : MethodWriter J) :
    ((ofList ws).register w).writers =
      ((ofList ws).writers ++ [w]).mergeSort fun v w => decide (w.priority ≤ v.priority) :=
  rankInsert_eq_mergeSort w (ranks_ofList ws).descending

/-- However many writers are registered, they are kept in one stable sort by descending priority,
each as often as it was registered. A property goes to the writer that accepts it where none of a
higher priority does, nor an earlier one of the same; it goes to none where none accepts it. -/
theorem registries_rank :
    (∀ ws : List (PropertyWriter J),
      (PropertyRegistry.ofList ws).writers =
          ws.mergeSort (fun v w => decide (w.priority ≤ v.priority)) ∧
        Ranks PropertyWriter.priority ws (PropertyRegistry.ofList ws).writers ∧
        (PropertyRegistry.ofList ws).writers.Perm ws ∧
        ∀ (s : Session) (style : AccessStyle) (p : Property),
          (∀ w, (PropertyRegistry.ofList ws).dispatch? s style p = some w ↔
            Prevails (fun v => v.accepts s style p) PropertyWriter.priority ws w) ∧
          ((PropertyRegistry.ofList ws).dispatch? s style p = none ↔
            ∀ w ∈ ws, w.accepts s style p = false)) ∧
    ∀ ws : List (MethodWriter J),
      (MethodRegistry.ofList ws).writers =
          ws.mergeSort (fun v w => decide (w.priority ≤ v.priority)) ∧
        Ranks MethodWriter.priority ws (MethodRegistry.ofList ws).writers ∧
        (MethodRegistry.ofList ws).writers.Perm ws := by
  refine ⟨fun ws => ?_, fun ws => ?_⟩
  · have hranks := PropertyRegistry.ranks_ofList ws
    refine ⟨hranks.unique (ranks_mergeSort _ ws), hranks, hranks.perm, fun s style p => ?_⟩
    exact ⟨fun w => hranks.find?_eq_some_iff, hranks.find?_eq_none_iff⟩
  · have hranks := MethodRegistry.ranks_ofList ws
    exact ⟨hranks.unique (ranks_mergeSort _ ws), hranks, hranks.perm⟩

end Registries

/-! ## Four writers -/

/-- A writer that writes its name for all properties, or for attributes alone. -/
def labelWriter (name : String) (priority : Int) (attributesOnly : Bool) : PropertyWriter Empty :=
  ⟨name, priority, fun _ _ p => !attributesOnly || p.node.isAttribute, fun _ _ => Emit.write name⟩

/-- Writers of two priorities, the highest first among those that take attributes alone. -/
def fourWriters : List (PropertyWriter Empty) :=
  [labelWriter "low" (-1) false, labelWriter "picky" 5 true, labelWriter "first" 5 false,
    labelWriter "second" 5 false]

def unpeopled : Session := ⟨.standard, .load Config.standard.locale none, .empty⟩

/-- A value that stands in an element goes to the first of the highest priority that takes it. -/
theorem fourWriters_rank :
    (PropertyRegistry.ofList fourWriters).names = ["picky", "first", "second", "low"] ∧
    (PropertyRegistry.ofList fourWriters).dispatch? unpeopled .dom4j
      (unpeopled.synthetic (.primitive .int)) = some (labelWriter "first" 5 false) := by
  refine ⟨rfl, ?_⟩
  obtain ⟨-, -, -, hdispatch⟩ := registries_rank.1 fourWriters
  refine ((hdispatch unpeopled .dom4j (unpeopled.synthetic (.primitive .int))).1 _).2 ?_
  refine ⟨[labelWriter "low" (-1) false, labelWriter "picky" 5 true],
    [labelWriter "second" 5 false], rfl, rfl, fun w hw hle => ?_, fun w hw hlt => ?_⟩
  · simp only [List.mem_cons, List.not_mem_nil, or_false] at hw
    rcases hw with rfl | rfl
    · exact absurd hle (by decide)
    · rfl
  · rw [List.mem_singleton.1 hw] at hlt
    exact absurd hlt (by decide)

end XmlBinding
