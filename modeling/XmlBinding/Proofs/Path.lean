import Mathlib.Data.List.Basic
import XmlBinding.GeneratedClass

/-!
# Paths of generated classes

* `Path.compare_eq_iff` : paths count as equal where they have the same components;
* `Path.parts_push`, `isAbsolute_push` : parts and root of a path below another, and
  `parts_pushAll`, `isAbsolute_pushAll` of several in turn;
* `PlainName s` : a name without separators; `Path.pushAll_plain`, `components_of_parts` : the
  components of a path of plain names are these names;
* `GeneratedClass.SharesPath` : classes whose paths count as equal; `sharesPath_iff` : where names
  are plain, they are on one side, in one package and of one name.
-/

namespace XmlBinding

/-! ## Steps -/

namespace PathStep

theorem eq_of_rank_text {a b : PathStep} (hr : a.rank = b.rank) (ht : a.text = b.text) : a = b := by
  cases a <;> cases b <;> simp_all [rank, text]

instance : Std.LawfulEqOrd PathStep where
  eq_of_compare {a b} h := by
    obtain ⟨hr, ht⟩ := compareLex_eq_eq.1 h
    exact eq_of_rank_text (Std.compare_eq_iff_eq.1 hr) (Std.compare_eq_iff_eq.1 ht)

end PathStep

/-! ## Cutting -/

namespace Text

variable {sep : Char} {cs ds : List Char}

theorem cut_cons_sep (sep : Char) (cs : List Char) : cut sep (sep :: cs) = [] :: cut sep cs := by
  rw [cut, if_pos rfl]

/-- A separator ends a piece. -/
theorem cut_append_sep (sep : Char) (cs ds : List Char) :
    cut sep (cs ++ sep :: ds) = cut sep cs ++ cut sep ds := by
  induction cs with
  | nil => exact cut_cons_sep sep ds
  | cons c cs ih =>
    rw [List.cons_append, cut, cut, ih]
    split
    · rfl
    · have hne := cut_ne_nil sep cs
      cases hcut : cut sep cs with
      | nil => exact absurd hcut hne
      | cons first others => rfl

theorem mem_of_mem_cut {piece : List Char} {c : Char} (h : piece ∈ cut sep cs) (hc : c ∈ piece) :
    c ∈ cs := by
  induction cs generalizing piece with
  | nil =>
    rw [List.mem_singleton.1 h] at hc
    cases hc
  | cons d cs ih =>
    unfold cut at h
    split at h
    · rcases List.mem_cons.1 h with rfl | h
      · cases hc
      · exact List.mem_cons_of_mem d (ih h hc)
    · split at h
      · rw [List.mem_singleton.1 h, List.mem_singleton] at hc
        exact hc ▸ List.mem_cons_self
      · next first others heq =>
        rcases List.mem_cons.1 h with rfl | h
        · rcases List.mem_cons.1 hc with rfl | hc
          · exact List.mem_cons_self
          · exact List.mem_cons_of_mem d (ih (heq ▸ List.mem_cons_self) hc)
        · exact List.mem_cons_of_mem d (ih (heq ▸ List.mem_cons_of_mem first h) hc)

theorem cut_of_not_mem (h : sep ∉ cs) : cut sep cs = [cs] := by
  induction cs with
  | nil => rfl
  | cons c cs ih =>
    rw [List.mem_cons, not_or] at h
    rw [cut, if_neg (Ne.symm h.1), ih h.2]

end Text

/-! ## Plain names -/

/-- A name that is one part of a path. -/
structure PlainName (s : String) : Prop where
  nonempty : s ≠ ""
  undivided : '/' ∉ s.toList

namespace Path

variable {p q : Path} {s : String}

theorem compare_eq_iff : Ord.compare p q = .eq ↔ p.components = q.components := by
  show Ord.compare p.components q.components = .eq ↔ _
  exact Std.compare_eq_iff_eq

theorem parts_of_plain (h : PlainName s) : (⟨s⟩ : Path).parts = [s] := by
  unfold parts Text.pieces
  rw [Text.cut_of_not_mem h.undivided, List.map_singleton, String.ofList_toList,
    List.filter_cons_of_pos]
  · rfl
  · simpa using h.nonempty

theorem isAbsolute_of_plain (h : PlainName s) : (⟨s⟩ : Path).isAbsolute = false := by
  unfold isAbsolute
  refine decide_eq_false fun hhead => h.undivided ?_
  exact List.mem_of_mem_head? hhead

theorem parts_of_text {a b : List Char} (h : p.text.toList = a ++ '/' :: b) :
    p.parts = (⟨String.ofList a⟩ : Path).parts ++ (⟨String.ofList b⟩ : Path).parts := by
  unfold parts Text.pieces
  rw [h, Text.cut_append_sep, String.toList_ofList, String.toList_ofList, List.map_append,
    List.filter_append]

/-- A relative path below another has the parts of both. -/
theorem parts_push (hq : q.isAbsolute = false) (p : Path) :
    (p.push q).parts = p.parts ++ q.parts := by
  have hafter : (⟨String.ofList q.text.toList⟩ : Path).parts = q.parts := by
    rw [String.ofList_toList]
  obtain ⟨text⟩ := p
  unfold push
  rw [hq, if_neg Bool.false_ne_true]
  dsimp only
  split
  · next hend =>
    rcases Bool.or_eq_true_iff.1 hend with hempty | hslash
    · obtain rfl := String.isEmpty_iff.1 hempty
      rw [String.empty_append]
      rfl
    · obtain ⟨a, ha⟩ := List.getLast?_eq_some_iff.1 (of_decide_eq_true hslash)
      have hpushed : (⟨text ++ q.text⟩ : Path).text.toList = a ++ '/' :: q.text.toList := by
        rw [String.toList_append, ha, List.append_assoc]
        rfl
      have halone : (⟨text⟩ : Path).text.toList = a ++ '/' :: [] := ha
      have hnone : (⟨String.ofList []⟩ : Path).parts = [] := rfl
      rw [parts_of_text hpushed, parts_of_text halone, hnone, List.append_nil, hafter]
  · have hpushed : (⟨text ++ "/" ++ q.text⟩ : Path).text.toList =
        text.toList ++ '/' :: q.text.toList := by
      rw [String.toList_append, String.toList_append, List.append_assoc]
      rfl
    rw [parts_of_text hpushed, String.ofList_toList, hafter]

/-- A path below another starts at the root where one of them does. -/
theorem isAbsolute_push (p q : Path) :
    (p.push q).isAbsolute = (p.isAbsolute || q.isAbsolute) := by
  cases hq : q.isAbsolute with
  | true =>
    unfold push
    rw [hq, if_pos rfl, Bool.or_true]
    exact hq
  | false =>
    obtain ⟨text⟩ := p
    unfold push
    rw [hq, if_neg Bool.false_ne_true, Bool.or_false]
    unfold isAbsolute at hq ⊢
    cases htext : text.toList with
    | nil =>
      obtain rfl := String.toList_eq_nil_iff.1 htext
      show decide (("" ++ q.text).toList.head? = some '/') = false
      rw [String.empty_append]
      exact hq
    | cons c cs =>
      dsimp only
      split
      · rw [String.toList_append, htext]
        rfl
      · rw [String.toList_append, String.toList_append, htext]
        rfl

theorem isAbsolute_pushAll (p : Path) (names : List String) :
    (p.pushAll names).isAbsolute =
      (p.isAbsolute || names.any fun n => (⟨n⟩ : Path).isAbsolute) := by
  induction names generalizing p with
  | nil => exact (Bool.or_false _).symm
  | cons n names ih =>
    have hrest := ih (p.push ⟨n⟩)
    rw [isAbsolute_push, Bool.or_assoc] at hrest
    exact hrest

theorem parts_pushAll {names : List String} (h : ∀ n ∈ names, (⟨n⟩ : Path).isAbsolute = false)
    (p : Path) :
    (p.pushAll names).parts = p.parts ++ names.flatMap fun n => (⟨n⟩ : Path).parts := by
  induction names generalizing p with
  | nil => exact (List.append_nil _).symm
  | cons n names ih =>
    obtain ⟨hn, hnames⟩ := List.forall_mem_cons.1 h
    have hrest := ih hnames (p.push ⟨n⟩)
    rw [parts_push hn, List.append_assoc] at hrest
    exact hrest

theorem pushAll_plain {names : List String} (h : ∀ n ∈ names, PlainName n) (p : Path) :
    (p.pushAll names).isAbsolute = p.isAbsolute ∧ (p.pushAll names).parts = p.parts ++ names := by
  have hrelative : ∀ n ∈ names, (⟨n⟩ : Path).isAbsolute = false :=
    fun n hn => isAbsolute_of_plain (h n hn)
  constructor
  · have hnone : (names.any fun n => (⟨n⟩ : Path).isAbsolute) = false :=
      List.any_eq_false.2 fun n hn => by rw [hrelative n hn]; exact Bool.false_ne_true
    rw [isAbsolute_pushAll, hnone, Bool.or_false]
  · have hnames : (names.flatMap fun n => (⟨n⟩ : Path).parts) = names.flatMap fun n => [n] :=
      List.flatMap_congr fun n hn => parts_of_plain (h n hn)
    rw [parts_pushAll hrelative, hnames, List.flatMap_singleton']

/-- A path goes up where a part of it is `..`. -/
theorem parent_mem_components_iff : PathStep.parent ∈ p.components ↔ ".." ∈ p.parts := by
  unfold components
  cases p.isAbsolute with
  | true => simp
  | false =>
    simp only [Bool.false_eq_true, if_false]
    split
    · next parts heq => simp [heq]
    · simp

/-- The steps of a relative path without dots for parts. -/
theorem components_of_parts {names : List String} (hp : p.isAbsolute = false)
    (hparts : p.parts = names) (h : ∀ n ∈ names, n ≠ "." ∧ n ≠ "..") :
    p.components = names.map .name := by
  have hrest : (names.filter (· ≠ ".")).map
      (fun s => if s = ".." then PathStep.parent else .name s) = names.map .name := by
    rw [List.filter_eq_self.2 fun n hn => decide_eq_true (h n hn).1]
    exact List.map_congr_left fun n hn => if_neg (h n hn).2
  unfold components
  rw [hp, hparts]
  cases names with
  | nil => rfl
  | cons n names =>
    have hn := (h n List.mem_cons_self).1
    simp only [Bool.false_eq_true, if_false]
    split
    · next heq => exact absurd (List.cons.inj heq).1 hn
    · exact hrest

end Path

/-! ## Generated classes -/

namespace GeneratedClass

/-- Paths of classes that count as equal. -/
def SharesPath (c d : GeneratedClass) : Prop :=
  c.relativePath.components = d.relativePath.components

/-- The names of a class are plain: neither the package nor the class has a separator of paths. -/
structure HasPlainNames (c : GeneratedClass) : Prop where
  package : '/' ∉ c.package.toList
  className : '/' ∉ c.className.toList

variable {c d : GeneratedClass}

/-- The segments of a package without separators are plain and have no dots. -/
theorem plainName_of_mem_segments {package n : String} (h : '/' ∉ package.toList)
    (hn : n ∈ Package.segments package) : PlainName n ∧ '.' ∉ n.toList := by
  obtain ⟨hn, hempty⟩ := List.mem_filter.1 hn
  obtain ⟨piece, hpiece, rfl⟩ := List.mem_map.1 hn
  refine ⟨⟨fun he => ?_, ?_⟩, ?_⟩
  · rw [he] at hempty
    cases hempty
  · rw [String.toList_ofList]
    exact fun hslash => h (Text.mem_of_mem_cut hpiece hslash)
  · rw [String.toList_ofList]
    exact Text.not_mem_of_mem_cut hpiece

/-- The extension shows the side of a class by its last character. -/
theorem getLast?_append_extension (a : String) (t : Target) :
    (a ++ t.extension).toList.getLast? = some (if t.isClient then 's' else 'a') := by
  rw [String.toList_append, List.getLast?_append]
  cases t <;> rfl

theorem append_extension_eq_iff {a b : String} {t u : Target} :
    a ++ t.extension = b ++ u.extension ↔ a = b ∧ t.isClient = u.isClient := by
  constructor
  · intro h
    have hlast := congrArg (fun s => s.toList.getLast?) h
    rw [getLast?_append_extension, getLast?_append_extension, Option.some.injEq] at hlast
    have hside : t.isClient = u.isClient := by
      revert hlast
      cases t.isClient <;> cases u.isClient <;> decide
    unfold Target.extension at h
    rw [hside] at h
    exact ⟨String.append_left_inj _ |>.1 h, hside⟩
  · rintro ⟨rfl, hside⟩
    unfold Target.extension
    rw [hside]

theorem relativePath_eq_pushAll (c : GeneratedClass) :
    c.relativePath =
      Path.pushAll ⟨""⟩ (Package.segments c.package ++ [c.className ++ c.target.extension]) := by
  unfold relativePath Path.pushAll
  rw [List.foldl_append]
  rfl

/-- The components of a path of plain names are the segments of the package and the file. -/
theorem components_relativePath (h : c.HasPlainNames) :
    c.relativePath.components =
      (Package.segments c.package ++ [c.className ++ c.target.extension]).map .name := by
  have hlast := getLast?_append_extension c.className c.target
  have hfile : PlainName (c.className ++ c.target.extension) := by
    refine ⟨fun he => ?_, ?_⟩
    · rw [he] at hlast
      cases hlast
    · rw [String.toList_append, List.mem_append, not_or]
      refine ⟨h.className, ?_⟩
      cases c.target <;> decide
  have hplain : ∀ n ∈ Package.segments c.package ++ [c.className ++ c.target.extension],
      PlainName n := by
    intro n hn
    rcases List.mem_append.1 hn with hn | hn
    · exact (plainName_of_mem_segments h.package hn).1
    · rw [List.mem_singleton.1 hn]
      exact hfile
  obtain ⟨habsolute, hparts⟩ := Path.pushAll_plain hplain ⟨""⟩
  rw [relativePath_eq_pushAll]
  refine Path.components_of_parts habsolute hparts fun n hn => ?_
  rcases List.mem_append.1 hn with hn | hn
  · have hdot := (plainName_of_mem_segments h.package hn).2
    constructor
    · rintro rfl
      exact hdot (by decide)
    · rintro rfl
      exact hdot (by decide)
  · rw [List.mem_singleton.1 hn]
    constructor
    · intro he
      rw [he] at hlast
      cases hside : c.target.isClient <;> rw [hside] at hlast <;> cases hlast
    · intro he
      rw [he] at hlast
      cases hside : c.target.isClient <;> rw [hside] at hlast <;> cases hlast

/-- Classes of plain names have one path where they belong to one side and have the same package,
segment by segment, and the same name. -/
theorem sharesPath_iff (hc : c.HasPlainNames) (hd : d.HasPlainNames) :
    c.SharesPath d ↔ c.target.isClient = d.target.isClient ∧
      Package.segments c.package = Package.segments d.package ∧ c.className = d.className := by
  have hname : Function.Injective PathStep.name := fun a b => PathStep.name.inj
  unfold SharesPath
  rw [components_relativePath hc, components_relativePath hd,
    (List.map_injective_iff.2 hname).eq_iff, List.append_singleton_inj, append_extension_eq_iff]
  constructor
  · rintro ⟨hpackage, hclass, hside⟩
    exact ⟨hside, hpackage, hclass⟩
  · rintro ⟨hside, hpackage, hclass⟩
    exact ⟨hpackage, hclass, hside⟩

end GeneratedClass

end XmlBinding
