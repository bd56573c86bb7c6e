import XmlBinding.Proofs.Bracket
import XmlBinding.Proofs.Path

/-!
# Names without brackets

What is made from names without brackets has none itself, and no type that can be read has any.

* `IsPlain.capitalize`, `simpleName`, `packageOf`, `qualify` : names;
* `IsPlain.package` : the package that a declaration names;
* `NodeBinding.IsPlain`, `isPlain_resolve` : nodes;
* `JavaType.IsPlain`, `isPlain_parse` : the types that are read.
-/

namespace XmlBinding

/-! ## Upper case -/

def bracketCodes : List Nat := brackets.map Char.toNat

theorem toNat_mem_bracketCodes {c : Char} (h : isBracket c = true) : c.toNat ∈ bracketCodes :=
  List.mem_map_of_mem (List.contains_iff_mem.1 h)

theorem isBracket_ofNat {n : Nat} (h : n ∉ bracketCodes) : isBracket (Char.ofNat n) = false := by
  refine Bool.eq_false_iff.2 fun hbracket => ?_
  have hcode := toNat_mem_bracketCodes hbracket
  by_cases hn : n.isValidChar
  · have hchar : Char.ofNat n = Char.ofNatAux n hn := dif_pos hn
    rw [hchar] at hcode
    exact h hcode
  · have hchar : Char.ofNat n = '\x00' := dif_neg hn
    rw [hchar] at hcode
    exact absurd hcode (by decide)

namespace Text

/-- No run of characters is mapped onto a bracket. -/
theorem not_mem_bracketCodes_of_map? {r : CaseRun} (hr : r ∈ upperRuns) {n m : Nat}
    (h : r.map? n = some m) : m ∉ bracketCodes := by
  have hruns : ∀ r ∈ upperRuns, ∀ b ∈ bracketCodes,
      (b : Int) < r.first + r.shift ∨ r.last + r.shift < b := by decide +kernel
  intro hm
  unfold CaseRun.map? at h
  split at h
  · next hn =>
    cases h
    have hpos : ∀ b ∈ bracketCodes, 0 < b := by decide
    have hpos := hpos _ hm
    have hrun := hruns r hr _ hm
    omega
  · cases h

theorem upperChar_plain {c : Char} (hc : isBracket c = false) :
    ∀ d ∈ upperChar c, isBracket d = false := by
  have hexpansions : ∀ e ∈ upperExpansions, ∀ n ∈ e.2, n ∉ bracketCodes := by decide +kernel
  intro d hd
  unfold upperChar at hd
  split at hd
  · next codes hcodes =>
    obtain ⟨before, behind, hlist, -⟩ := List.lookup_eq_some_iff.1 hcodes
    obtain ⟨n, hn, rfl⟩ := List.mem_map.1 hd
    refine isBracket_ofNat (hexpansions (c.toNat, codes) ?_ n hn)
    rw [hlist]
    exact List.mem_append_right _ List.mem_cons_self
  · obtain rfl := List.mem_singleton.1 hd
    cases hrun : upperRuns.findSome? (·.map? c.toNat) with
    | none => exact hc
    | some m =>
      obtain ⟨r, hr, hm⟩ := List.exists_of_findSome?_eq_some hrun
      exact isBracket_ofNat (not_mem_bracketCodes_of_map? hr hm)

/-- A character stands in a piece of the text, or is where it is cut. -/
theorem mem_cut (sep : Char) {c : Char} {cs : List Char} (hc : c ∈ cs) :
    c = sep ∨ ∃ piece ∈ cut sep cs, c ∈ piece := by
  induction cs with
  | nil => cases hc
  | cons d cs ih =>
    unfold cut
    by_cases hd : d = sep
    · rw [if_pos hd]
      rcases List.mem_cons.1 hc with rfl | hc
      · exact .inl hd
      · refine (ih hc).imp_right ?_
        rintro ⟨piece, hpiece, hc⟩
        exact ⟨piece, List.mem_cons_of_mem _ hpiece, hc⟩
    · rw [if_neg hd]
      split
      · next hcut => exact absurd hcut (cut_ne_nil sep cs)
      · next first others hcut =>
        rw [hcut] at ih
        rcases List.mem_cons.1 hc with rfl | hc
        · exact .inr ⟨_, List.mem_cons_self, List.mem_cons_self⟩
        · refine (ih hc).imp_right ?_
          rintro ⟨piece, hpiece, hc⟩
          rcases List.mem_cons.1 hpiece with rfl | hpiece
          · exact ⟨_, List.mem_cons_self, List.mem_cons_of_mem d hc⟩
          · exact ⟨piece, List.mem_cons_of_mem _ hpiece, hc⟩

end Text

namespace IsPlain

variable {s t : String}

theorem capitalize (h : IsPlain s) : IsPlain (capitalize s) := by
  unfold XmlBinding.capitalize
  split
  · decide
  · next c rest hs =>
    unfold IsPlain at h
    rw [hs] at h
    refine ofList fun d hd => ?_
    rcases List.mem_append.1 hd with hd | hd
    · exact Text.upperChar_plain (h c List.mem_cons_self) d hd
    · exact h d (List.mem_cons_of_mem c hd)

/-! ## Qualified names -/

theorem simpleName (h : IsPlain s) : IsPlain (simpleName s) :=
  h.of_subset fun _ hc =>
    List.mem_reverse.1 ((List.takeWhile_prefix _).subset (List.mem_reverse.1 hc))

theorem packageOf (h : IsPlain s) : IsPlain (packageOf s) :=
  h.of_subset fun _ hc => List.mem_reverse.1
    ((List.dropWhile_suffix _).subset (List.mem_of_mem_drop (List.mem_reverse.1 hc)))

theorem qualify (hs : IsPlain s) (ht : IsPlain t) : IsPlain (qualify s t) := by
  unfold XmlBinding.qualify
  split
  · exact ht
  · exact (hs.append (by decide)).append ht

theorem intercalate {l : List String} (hs : IsPlain s) (hl : ∀ t ∈ l, IsPlain t) :
    IsPlain (s.intercalate l) := by
  induction l with
  | nil => rw [String.intercalate_nil]; decide
  | cons t l ih =>
    have hrest := ih fun u hu => hl u (List.mem_cons_of_mem t hu)
    have ht := hl t List.mem_cons_self
    cases l with
    | nil => rwa [String.intercalate_singleton]
    | cons u l =>
      rw [String.intercalate_cons_cons]
      exact (ht.append hs).append hrest

end IsPlain

/-! ## Packages -/

namespace Package

theorem isPlain_of_mem_segments {package s : String} (h : IsPlain package)
    (hs : s ∈ segments package) : IsPlain s := by
  obtain ⟨cs, hcs, rfl⟩ := List.mem_map.1 (List.mem_of_mem_filter hs)
  exact h.of_subset fun c hc => Text.mem_of_mem_cut hcs hc

/-- Going up leaves some of the segments and the end of the declaration. -/
theorem climb_eq_some {segments outer : List String} {cs relative : List Char}
    (h : climb segments cs = some (outer, relative)) : outer <:+ segments ∧ relative <:+ cs := by
  fun_induction climb segments cs with
  | case1 => cases h
  | case2 rest segment segments ih =>
    obtain ⟨hsegments, hrest⟩ := ih h
    exact ⟨hsegments.trans (List.suffix_cons _ _), hrest.trans ⟨['.', '.', '/'], rfl⟩⟩
  | case3 segments cs =>
    cases h
    exact ⟨List.suffix_refl _, List.suffix_refl _⟩

theorem dropHere_suffix (cs : List Char) : dropHere cs <:+ cs := by
  unfold dropHere
  split
  · exact ⟨['.', '/'], rfl⟩
  · exact List.suffix_refl _

theorem mem_dotted {relative : List Char} {c : Char} (h : c ∈ dotted relative) :
    c = '.' ∨ c ∈ relative := by
  obtain ⟨d, hd, rfl⟩ := List.mem_map.1 h
  split
  · exact .inl rfl
  · exact .inr (List.mem_reverse.1
      ((List.dropWhile_suffix _).subset (List.mem_reverse.1 hd)))

end Package

/-- The package that a declaration names. -/
theorem IsPlain.package {package declaration home : String} (hp : IsPlain package)
    (hd : IsPlain declaration) (h : Package.resolve package declaration = .ok home) :
    IsPlain home := by
  unfold Package.resolve at h
  split at h
  · cases h
  · next rooted hrooted =>
    cases h
    refine hd.of_subset fun c hc => ?_
    rw [hrooted]
    exact List.mem_cons_of_mem _ hc
  · cases h
    exact hp
  · split at h
    · cases h
    · next outer relative hclimb =>
      obtain ⟨houter, hrelative⟩ := Package.climb_eq_some hclimb
      have hbase : IsPlain (".".intercalate outer.reverse) := by
        refine IsPlain.intercalate (by decide) fun s hs => ?_
        exact Package.isPlain_of_mem_segments hp
          (List.mem_reverse.1 (houter.subset (List.mem_reverse.1 hs)))
      have hbelow : IsPlain (String.ofList (Package.dotted relative)) := by
        refine IsPlain.ofList fun c hc => ?_
        rcases Package.mem_dotted hc with rfl | hc
        · decide
        · exact hd c ((Package.dropHere_suffix _).subset (hrelative.subset hc))
      dsimp only at h
      split at h
      · cases h
        exact hbase
      · split at h
        · cases h
          exact hbelow
        · cases h
          exact (hbase.append (by decide)).append hbelow

/-! ## Nodes -/

/-- The name of a node has no brackets. -/
def NodeBinding.IsPlain (n : NodeBinding) : Prop := XmlBinding.IsPlain n.name

namespace NodeBinding

theorem isPlain_resolve {property : String} {marker : Option String}
    (hp : XmlBinding.IsPlain property) (hm : XmlBinding.IsPlain (marker.getD "")) :
    (resolve property marker).IsPlain := by
  unfold resolve
  split
  · exact hp
  · next value =>
    split
    · next c name hname =>
      split
      · refine hm.of_subset fun d hd => ?_
        show d ∈ value.toList
        rw [hname]
        exact List.mem_cons_of_mem c hd
      · exact hm
    · exact hm

theorem IsPlain.e4xPath {n : NodeBinding} (h : n.IsPlain) : XmlBinding.IsPlain n.e4xPath := by
  unfold NodeBinding.e4xPath
  split
  · refine XmlBinding.IsPlain.ofList fun c hc => ?_
    rcases List.mem_cons.1 hc with rfl | hc
    · decide
    · exact h c hc
  · exact h

end NodeBinding

/-! ## Types -/

namespace JavaType

/-- A type whose class has no brackets in its name. -/
def IsPlain : JavaType → Prop
  | primitive _ => True
  | reference q => XmlBinding.IsPlain q
  | array c => c.IsPlain

variable {t : JavaType}

theorem IsPlain.simpleName (h : t.IsPlain) : XmlBinding.IsPlain t.simpleName := by
  induction t with
  | primitive p => cases p <;> decide
  | reference q => exact XmlBinding.IsPlain.simpleName h
  | array c ih => exact (ih h).append (by decide)

theorem IsPlain.wrapperName (h : t.IsPlain) : XmlBinding.IsPlain t.wrapperName := by
  cases t with
  | primitive p => cases p <;> decide
  | reference q => exact h.simpleName
  | array c => exact h.simpleName

theorem IsPlain.clientName (h : t.IsPlain) : XmlBinding.IsPlain t.clientName := by
  unfold JavaType.clientName
  split
  · decide
  · split
    · decide
    · cases ScalarKind.of? t with
      | none => exact h.simpleName
      | some kind =>
        show XmlBinding.IsPlain kind.clientName
        cases kind <;> decide

theorem IsPlain.importName? (h : t.IsPlain) {q : String} (hq : t.importName? = some q) :
    XmlBinding.IsPlain q := by
  induction t with
  | primitive p => cases hq
  | reference name =>
    unfold JavaType.importName? at hq
    split at hq
    · cases hq
    · cases hq
      exact h
  | array c ih => exact ih h hq

theorem IsPlain.component? (h : t.IsPlain) {c : JavaType} (hc : t.component? = some c) :
    c.IsPlain := by
  cases t with
  | primitive p => cases hc
  | reference q => cases hc
  | array c => cases hc; exact h

/-! ## Types that are read -/

theorem isBracket_of_isNameChar {c : Char} (h : isNameChar c = true) : isBracket c = false :=
  isBracket_eq_false (by decide +kernel) h

theorem isPlain_of_isDottedName {cs : List Char} (h : isDottedName cs = true) :
    XmlBinding.IsPlain (String.ofList cs) := by
  refine XmlBinding.IsPlain.ofList fun c hc => ?_
  rcases Text.mem_cut '.' hc with rfl | ⟨segment, hsegment, hc⟩
  · decide
  · have hnames := List.all_eq_true.1 h segment hsegment
    rw [Bool.and_eq_true] at hnames
    exact isBracket_of_isNameChar (List.all_eq_true.1 hnames.2 c hc)

theorem isPlain_of_wellKnown? {simple q : String} (h : wellKnown? simple = some q) :
    XmlBinding.IsPlain q := by
  have hall : ∀ q ∈ langClasses ++ mapClasses ++ collectionClasses ++ utilClasses,
      XmlBinding.IsPlain q := by
    simp only [langClasses, mapClasses, collectionClasses, utilClasses, List.forall_mem_append,
      List.forall_mem_cons, List.not_mem_nil, false_implies, implies_true, and_true]
    and_intros
    all_goals exact .ofList (by decide)
  exact hall q (List.mem_of_find?_eq_some h)

variable {package text : String}

theorem isPlain_base (hp : XmlBinding.IsPlain package) {cs : List Char}
    (h : base package cs = .ok t) : t.IsPlain := by
  unfold base at h
  dsimp only at h
  split at h
  · cases h
  · next hdotted =>
    rw [Bool.not_eq_true, Bool.not_eq_false'] at hdotted
    have hname := isPlain_of_isDottedName hdotted
    split at h
    · cases h
      exact trivial
    · split at h
      · cases h
        exact hname
      · cases h
        show XmlBinding.IsPlain _
        cases hknown : wellKnown? (String.ofList cs) with
        | none => exact hp.qualify hname
        | some q => exact isPlain_of_wellKnown? hknown

/-- No type that is read has brackets. -/
theorem isPlain_parse (hp : XmlBinding.IsPlain package) (h : parse package text = .ok t) :
    t.IsPlain := by
  unfold parse at h
  generalize (Text.trimStart text.toList).reverse = reversed at h
  fun_induction ofReversed package reversed generalizing t with
  | case1 => cases h
  | case2 reversed rest _ ih =>
    cases hrest : ofReversed package rest with
    | error fault =>
      rw [hrest] at h
      cases h
    | ok c =>
      have hc := ih hrest
      rw [hrest] at h
      cases h
      exact hc
  | case3 => exact isPlain_base hp h

end JavaType

end XmlBinding
