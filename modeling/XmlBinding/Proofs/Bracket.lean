import Mathlib.Algebra.BigOperators.Group.List.Basic
import Mathlib.Data.List.Induction
import XmlBinding.Proofs.Emission.Makes

/-!
# Brackets in texts

Generated code opens a block in one line and closes it in another, so its parts are not balanced by
themselves. What they leave open adds up to what the whole leaves open.

* `Bracket` : curly brackets and round ones;
* `IsPlain s` : a text without brackets; `IsBalanced s` : a text with balanced brackets;
* `Excess` : the closing and the opening brackets that a text leaves without partners, a monoid;
* `excess k s`, `excess_append` : those of a kind that `s` leaves;
* `isBalanced_iff` : a text is balanced where it leaves none;
* `Config.IsPlain`, `excess_lineText`, `excess_blockText` : lines and blocks of code.
-/

namespace XmlBinding

/-- Kinds of brackets. -/
inductive Bracket where
  | curly
  | round
  deriving DecidableEq, Repr

namespace Bracket

def opening : Bracket → Char
  | curly => '\x7b'
  | round => '('

def closing : Bracket → Char
  | curly => '\x7d'
  | round => ')'

/-- Of some characters, no first ones close more brackets than they open, and all of them open as
many as they close. -/
structure Balances (k : Bracket) (cs : List Char) : Prop where
  start : ∀ ds, ds <+: cs → ds.count k.closing ≤ ds.count k.opening
  whole : cs.count k.closing = cs.count k.opening

end Bracket

/-- A text whose brackets are balanced, those of each kind for themselves. -/
def IsBalanced (s : String) : Prop := ∀ k : Bracket, k.Balances s.toList

def brackets : List Char := ['\x7b', '\x7d', '(', ')']

def isBracket (c : Char) : Bool := brackets.contains c

/-- A character of a sort that no bracket belongs to. -/
theorem isBracket_eq_false {sort : Char → Bool} (hsort : (brackets.any sort) = false) {c : Char}
    (h : sort c = true) : isBracket c = false := by
  refine Bool.eq_false_iff.2 fun hbracket => ?_
  have hsome : brackets.any sort = true :=
    List.any_eq_true.2 ⟨c, List.contains_iff_mem.1 hbracket, h⟩
  rw [hsort] at hsome
  cases hsome

/-- A text without brackets. -/
def IsPlain (s : String) : Prop := ∀ c ∈ s.toList, isBracket c = false

-- Over the list alone: characters are finitely many, but far too many to try them all.
instance (cs : List Char) : Decidable (∀ c ∈ cs, isBracket c = false) := cs.decidableBAll _

instance (s : String) : Decidable (IsPlain s) :=
  inferInstanceAs (Decidable (∀ c ∈ s.toList, isBracket c = false))

theorem isPlain_empty : IsPlain "" := by decide

namespace IsPlain

variable {s t : String}

theorem ofList {cs : List Char} (h : ∀ c ∈ cs, isBracket c = false) :
    IsPlain (String.ofList cs) := by
  unfold IsPlain
  rw [String.toList_ofList]
  exact h

/-- Some of the characters of a text without brackets. -/
theorem of_subset {cs : List Char} (h : IsPlain s) (hcs : ∀ c ∈ cs, c ∈ s.toList) :
    IsPlain (String.ofList cs) :=
  ofList fun c hc => h c (hcs c hc)

theorem append (hs : IsPlain s) (ht : IsPlain t) : IsPlain (s ++ t) := by
  intro c hc
  rw [String.toList_append] at hc
  exact (List.mem_append.1 hc).elim (hs c) (ht c)

theorem join {l : List String} (h : ∀ s ∈ l, IsPlain s) : IsPlain (String.join l) := by
  induction l with
  | nil => exact isPlain_empty
  | cons s l ih =>
    rw [String.join_cons]
    exact (h s List.mem_cons_self).append (ih fun t ht => h t (List.mem_cons_of_mem s ht))

end IsPlain

/-! ## Excess -/

/-- Brackets of a kind without partners: closing ones, and opening ones behind them. -/
@[ext] structure Excess where
  closing : Nat
  opening : Nat
  deriving DecidableEq, Repr

namespace Excess

instance : One Excess := ⟨⟨0, 0⟩⟩

/-- Opening brackets of the first find their partners among the closing ones of the second. -/
instance : Mul Excess where
  mul a b := ⟨a.closing + (b.closing - a.opening), b.opening + (a.opening - b.closing)⟩

variable (a b : Excess)

theorem closing_one : (1 : Excess).closing = 0 := rfl

theorem opening_one : (1 : Excess).opening = 0 := rfl

theorem closing_mul : (a * b).closing = a.closing + (b.closing - a.opening) := rfl

theorem opening_mul : (a * b).opening = b.opening + (a.opening - b.closing) := rfl

instance : Monoid Excess where
  mul_assoc a b c := by ext <;> simp only [closing_mul, opening_mul] <;> omega
  one_mul a := by ext <;> simp only [closing_mul, opening_mul, closing_one, opening_one] <;> omega
  mul_one a := by ext <;> simp only [closing_mul, opening_mul, closing_one, opening_one] <;> omega

end Excess

namespace Bracket

/-- What a character leaves without a partner. -/
def weight (k : Bracket) (c : Char) : Excess :=
  if c = k.opening then ⟨0, 1⟩ else if c = k.closing then ⟨1, 0⟩ else 1

variable (k : Bracket)

theorem opening_ne_closing : k.opening ≠ k.closing := by cases k <;> decide

theorem isBracket_opening : isBracket k.opening = true := by cases k <;> decide

theorem isBracket_closing : isBracket k.closing = true := by cases k <;> decide

/-- What some characters leave without partners. -/
def leaves (cs : List Char) : Excess := (cs.map k.weight).prod

theorem leaves_append (cs ds : List Char) : k.leaves (cs ++ ds) = k.leaves cs * k.leaves ds := by
  unfold leaves
  rw [List.map_append, List.prod_append]

theorem leaves_singleton (c : Char) : k.leaves [c] = k.weight c := List.prod_singleton

variable {k} {cs : List Char} {c : Char}

theorem weight_of_not_isBracket (h : isBracket c = false) : k.weight c = 1 := by
  have hopening : c ≠ k.opening := by
    rintro rfl
    rw [k.isBracket_opening] at h
    cases h
  have hclosing : c ≠ k.closing := by
    rintro rfl
    rw [k.isBracket_closing] at h
    cases h
  rw [weight, if_neg hopening, if_neg hclosing]

theorem leaves_of_not_isBracket (h : ∀ c ∈ cs, isBracket c = false) : k.leaves cs = 1 := by
  refine List.prod_eq_one fun a ha => ?_
  obtain ⟨c, hc, rfl⟩ := List.mem_map.1 ha
  exact weight_of_not_isBracket (h c hc)

/-- Brackets are without partners in the same surplus as they are there at all. -/
theorem count_add_leaves (k : Bracket) (cs : List Char) :
    cs.count k.opening + (k.leaves cs).closing = cs.count k.closing + (k.leaves cs).opening := by
  induction cs with
  | nil => rfl
  | cons c cs ih =>
    have hcons : k.leaves (c :: cs) = k.weight c * k.leaves cs := List.prod_cons
    rw [hcons, List.count_cons, List.count_cons, Excess.closing_mul, Excess.opening_mul]
    have hne := k.opening_ne_closing
    unfold weight
    by_cases hopening : c = k.opening
    · subst hopening
      simp only [beq_self_eq_true, if_true, beq_iff_eq, hne, if_false]
      omega
    · by_cases hclosing : c = k.closing
      · subst hclosing
        simp only [beq_self_eq_true, if_true, beq_iff_eq, hne.symm, if_false]
        omega
      · simp only [beq_iff_eq, hopening, hclosing, if_false, Excess.closing_one,
          Excess.opening_one]
        omega

/-- Where no first characters close more than they open, no closing bracket is without a partner. -/
theorem closing_leaves_eq_zero
    (h : ∀ ds, ds <+: cs → ds.count k.closing ≤ ds.count k.opening) :
    (k.leaves cs).closing = 0 := by
  induction cs using List.reverseRecOn with
  | nil => rfl
  | append_singleton cs c ih =>
    have hcs := ih fun ds hds => h ds (hds.trans (List.prefix_append cs [c]))
    have hnet := k.count_add_leaves cs
    have hall := h (cs ++ [c]) (List.prefix_refl _)
    rw [leaves_append, leaves_singleton, Excess.closing_mul, hcs]
    rw [List.count_append, List.count_append] at hall
    unfold weight
    by_cases hclosing : c = k.closing
    · subst hclosing
      have hopening : List.count k.opening [k.closing] = 0 := by
        simp [k.opening_ne_closing.symm]
      rw [if_neg k.opening_ne_closing.symm, if_pos rfl]
      rw [List.count_singleton_self, hopening] at hall
      show 0 + (1 - (k.leaves cs).opening) = 0
      omega
    · rw [if_neg hclosing, Nat.zero_add]
      split
      · exact Nat.zero_sub _
      · exact Nat.zero_sub _

theorem balances_iff : k.Balances cs ↔ k.leaves cs = 1 := by
  constructor
  · intro h
    have hclosing := closing_leaves_eq_zero h.start
    have hnet := k.count_add_leaves cs
    have hopening : (k.leaves cs).opening = 0 := by
      have := h.whole
      omega
    exact Excess.ext hclosing hopening
  · intro h
    refine ⟨fun ds hds => ?_, ?_⟩
    · obtain ⟨rest, rfl⟩ := hds
      rw [leaves_append] at h
      have hclosing := congrArg Excess.closing h
      rw [Excess.closing_mul, Excess.closing_one] at hclosing
      have hnet := k.count_add_leaves ds
      omega
    · have hnet := k.count_add_leaves cs
      rw [h, Excess.closing_one, Excess.opening_one] at hnet
      omega

end Bracket

/-- The brackets of a kind that a text leaves without partners. -/
def excess (k : Bracket) (s : String) : Excess := k.leaves s.toList

section Texts
variable {k : Bracket} {s t : String}

theorem excess_append (k : Bracket) (s t : String) :
    excess k (s ++ t) = excess k s * excess k t := by
  unfold excess
  rw [String.toList_append, k.leaves_append]

theorem excess_empty (k : Bracket) : excess k "" = 1 := rfl

/-- What a literal leaves, by its characters. Rewritten like this, a literal need not be decoded to
compute what it leaves. -/
theorem excess_ofList (k : Bracket) (cs : List Char) :
    excess k (String.ofList cs) = k.leaves cs := by
  unfold excess
  rw [String.toList_ofList]

theorem isBalanced_iff : IsBalanced s ↔ ∀ k, excess k s = 1 :=
  forall_congr' fun _ => Bracket.balances_iff

theorem IsBalanced.excess (h : IsBalanced s) (k : Bracket) : excess k s = 1 :=
  isBalanced_iff.1 h k

theorem isBalanced_ofList {cs : List Char} (h : ∀ k : Bracket, k.leaves cs = 1) :
    IsBalanced (String.ofList cs) :=
  isBalanced_iff.2 fun k => (excess_ofList k cs).trans (h k)

theorem IsPlain.isBalanced (h : IsPlain s) : IsBalanced s :=
  isBalanced_iff.2 fun _ => Bracket.leaves_of_not_isBracket h

theorem IsPlain.excess (h : IsPlain s) (k : Bracket) : XmlBinding.excess k s = 1 :=
  h.isBalanced.excess k

theorem excess_join (k : Bracket) (l : List String) :
    excess k (String.join l) = (l.map (excess k)).prod := by
  induction l with
  | nil => rfl
  | cons s l ih => rw [String.join_cons, excess_append, ih, List.map_cons, List.prod_cons]

theorem excess_join_eq_one {l : List String} (h : ∀ s ∈ l, excess k s = 1) :
    excess k (String.join l) = 1 := by
  rw [excess_join]
  refine List.prod_eq_one fun a ha => ?_
  obtain ⟨s, hs, rfl⟩ := List.mem_map.1 ha
  exact h s hs

theorem isPlain_dot : IsPlain "." := by decide

/-- A call is closed by what closes a round bracket. -/
theorem excess_call {name tail : String} (hname : excess k name = 1)
    (htail : excess k tail = excess k ")") : excess k (name ++ "(") * excess k tail = 1 := by
  rw [excess_append, hname, one_mul, htail]
  cases k <;> rfl

namespace IsBalanced

theorem append (hs : IsBalanced s) (ht : IsBalanced t) : IsBalanced (s ++ t) :=
  isBalanced_iff.2 fun k => by rw [excess_append, hs.excess, ht.excess, one_mul]

theorem empty : IsBalanced "" := isBalanced_iff.2 excess_empty

/-- A text between two that close each other. -/
theorem around {lead tail : String} (hs : IsBalanced s)
    (h : ∀ k, XmlBinding.excess k lead * XmlBinding.excess k tail = 1) :
    IsBalanced (lead ++ s ++ tail) :=
  isBalanced_iff.2 fun k => by rw [excess_append, excess_append, hs.excess, mul_one, h k]

theorem join {l : List String} (h : ∀ s ∈ l, IsBalanced s) : IsBalanced (String.join l) :=
  isBalanced_iff.2 fun k => excess_join_eq_one fun s hs => (h s hs).excess k

end IsBalanced

end Texts

/-! ## Lines and blocks -/

/-- What a configuration puts into code has no brackets. -/
structure Config.IsPlain (c : Config) : Prop where
  indentation : XmlBinding.IsPlain c.indentation
  classLead : XmlBinding.IsPlain (c.classLead.getD "")
  classSuffix : XmlBinding.IsPlain (c.classSuffix.getD "")
  builderSuffix : XmlBinding.IsPlain c.builderSuffix
  packages : ∀ t, XmlBinding.IsPlain (c.packages.get t)

namespace Config

variable {c : Config} {k : Bracket} (hc : c.IsPlain)
include hc

theorem isPlain_indent (level : Nat) : XmlBinding.IsPlain (c.indent level) := by
  refine .join fun s hs => ?_
  rw [List.eq_of_mem_replicate hs]
  exact hc.indentation

theorem excess_indent (level : Nat) : excess k (c.indent level) = 1 :=
  (isPlain_indent hc level).excess k

theorem excess_openBrace (level : Nat) : excess k (c.openBrace level) = excess k "\x7b" := by
  unfold openBrace
  cases c.braceOnNewLine with
  | true =>
    rw [if_pos rfl, excess_append, excess_append, excess_indent hc, mul_one]
    cases k <;> rfl
  | false =>
    rw [if_neg Bool.false_ne_true]
    cases k <;> rfl

theorem excess_lineText (level : Nat) (text : String) :
    excess k (c.lineText level text) = excess k text := by
  have hend : excess k "\n" = 1 := by cases k <;> rfl
  unfold lineText
  rw [excess_append, excess_append, excess_indent hc, hend, one_mul, mul_one]

theorem excess_linesText (level : Nat) {lines : List String}
    (h : ∀ l ∈ lines, excess k l = 1) : excess k (c.linesText level lines) = 1 := by
  refine excess_join_eq_one fun s hs => ?_
  obtain ⟨l, hl, rfl⟩ := List.mem_map.1 hs
  rw [excess_lineText hc, h l hl]

theorem excess_blockText (level : Nat) (header : String) :
    excess k (c.blockText level header) = excess k header * excess k "\x7b" := by
  unfold blockText
  rw [excess_append, excess_append, excess_indent hc, excess_openBrace hc, one_mul]

end Config

end XmlBinding
