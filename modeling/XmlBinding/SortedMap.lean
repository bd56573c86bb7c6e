/-!
# Maps in key order

* `SortedMap κ α` : entries in strictly ascending key order;
* `SortedMap.alter`, `insert`, `find?`, `keys`, `values`;
* `find?_alter` : what is found after a change;
* `insertSorted` : insertion into a list of keys alone.
-/

namespace XmlBinding

/-- Adds a value to an ascending list without repetitions. -/
def insertSorted [Ord α] (a : α) : List α → List α
  | [] => [a]
  | b :: rest =>
    match compare a b with
    | .lt => a :: b :: rest
    | .eq => b :: rest
    | .gt => b :: insertSorted a rest

/-- Entries in ascending order of their keys. -/
structure SortedMap (κ : Type u) (α : Type v) [Ord κ] where
  entries : List (κ × α)
  ascending : entries.Pairwise fun a b => compare a.1 b.1 = .lt
  deriving Repr

namespace SortedMap

variable {κ : Type u} {α : Type v} [Ord κ]

def empty : SortedMap κ α := ⟨[], .nil⟩

/-- Changes or adds the entry of a key. An entry that is there keeps its key. -/
def alterEntries (key : κ) (f : Option α → α) : List (κ × α) → List (κ × α)
  | [] => [(key, f none)]
  | (k, a) :: rest =>
    match compare key k with
    | .lt => (key, f none) :: (k, a) :: rest
    | .eq => (k, f (some a)) :: rest
    | .gt => (k, a) :: alterEntries key f rest

theorem mem_alterEntries {key : κ} {f : Option α → α} {l : List (κ × α)} {e : κ × α}
    (h : e ∈ alterEntries key f l) : e.1 = key ∨ ∃ e' ∈ l, e'.1 = e.1 := by
  induction l with
  | nil => simp_all [alterEntries]
  | cons e' rest ih =>
    simp only [alterEntries] at h
    split at h
    · rcases List.mem_cons.1 h with rfl | h
      · exact .inl rfl
      · exact .inr ⟨e, h, rfl⟩
    · rcases List.mem_cons.1 h with rfl | h
      · exact .inr ⟨e', List.mem_cons_self, rfl⟩
      · exact .inr ⟨e, List.mem_cons_of_mem _ h, rfl⟩
    · rcases List.mem_cons.1 h with rfl | h
      · exact .inr ⟨_, List.mem_cons_self, rfl⟩
      · rcases ih h with h | ⟨d, hd, he⟩
        · exact .inl h
        · exact .inr ⟨d, List.mem_cons_of_mem _ hd, he⟩

theorem ascending_alterEntries [Std.TransOrd κ] (key : κ) (f : Option α → α) {l : List (κ × α)}
    (h : l.Pairwise fun a b => compare a.1 b.1 = .lt) :
    (alterEntries key f l).Pairwise fun a b => compare a.1 b.1 = .lt := by
  induction l with
  | nil => simp [alterEntries]
  | cons e rest ih =>
    obtain ⟨below, sorted⟩ := List.pairwise_cons.1 h
    simp only [alterEntries]
    split
    · next hlt =>
      refine List.pairwise_cons.2 ⟨fun d hd => ?_, h⟩
      rcases List.mem_cons.1 hd with rfl | hd
      · exact hlt
      · exact Std.TransCmp.lt_trans hlt (below d hd)
    · exact List.pairwise_cons.2 ⟨below, sorted⟩
    · next hgt =>
      refine List.pairwise_cons.2 ⟨fun d hd => ?_, ih sorted⟩
      rcases mem_alterEntries hd with hd | ⟨d', hd', he⟩
      · rw [hd]
        exact Std.OrientedCmp.lt_of_gt hgt
      · rw [← he]
        exact below d' hd'

/-- Changes or adds the entry of a key. -/
def alter [Std.TransOrd κ] (m : SortedMap κ α) (key : κ) (f : Option α → α) : SortedMap κ α :=
  ⟨alterEntries key f m.entries, ascending_alterEntries key f m.ascending⟩

def insert [Std.TransOrd κ] (m : SortedMap κ α) (key : κ) (a : α) : SortedMap κ α :=
  m.alter key fun _ => a

/-- Value of a key among entries. -/
def findIn (key : κ) : List (κ × α) → Option α
  | [] => none
  | (k, a) :: rest => if compare key k = .eq then some a else findIn key rest

def find? (m : SortedMap κ α) (key : κ) : Option α := findIn key m.entries

def keys (m : SortedMap κ α) : List κ := m.entries.map Prod.fst

/-- The values in the order of their keys. -/
def values (m : SortedMap κ α) : List α := m.entries.map Prod.snd

theorem findIn_eq_none {key : κ} {l : List (κ × α)} (h : ∀ e ∈ l, compare key e.1 = .lt) :
    findIn key l = none := by
  induction l with
  | nil => rfl
  | cons e rest ih =>
    have := h e List.mem_cons_self
    simp [findIn, this, ih fun d hd => h d (List.mem_cons_of_mem _ hd)]

theorem findIn_alterEntries [Std.TransOrd κ] (key k : κ) (f : Option α → α) {l : List (κ × α)}
    (h : l.Pairwise fun a b => compare a.1 b.1 = .lt) :
    findIn k (alterEntries key f l) =
      if compare k key = .eq then some (f (findIn key l)) else findIn k l := by
  induction l with
  | nil => simp [alterEntries, findIn]
  | cons e rest ih =>
    obtain ⟨below, sorted⟩ := List.pairwise_cons.1 h
    simp only [alterEntries]
    split
    · next hlt =>
      have absent : findIn key (e :: rest) = none := by
        refine findIn_eq_none fun d hd => ?_
        rcases List.mem_cons.1 hd with rfl | hd
        · exact hlt
        · exact Std.TransCmp.lt_trans hlt (below d hd)
      rw [absent]
      rfl
    · next heq =>
      have swap : compare k e.1 = compare k key := (Std.TransCmp.congr_right heq).symm
      by_cases hk : compare k key = .eq <;> simp [findIn, heq, swap, hk]
    · next hgt =>
      have apart (hk : compare k key = .eq) : compare k e.1 = .gt := by
        rw [Std.TransCmp.congr_left hk, hgt]
      simp only [findIn, hgt, ih sorted]
      by_cases hk : compare k key = .eq <;> simp [hk, apart]

/-- What is found after a change. -/
theorem find?_alter [Std.TransOrd κ] (m : SortedMap κ α) (key k : κ) (f : Option α → α) :
    (m.alter key f).find? k = if compare k key = .eq then some (f (m.find? key)) else m.find? k :=
  findIn_alterEntries key k f m.ascending

end SortedMap

end XmlBinding
