import XmlBinding.Proofs.Package

/-!
# What type references are

* `Text.of_contains` : what holds of the characters of some ranges;
* `IsDotted s` : segments of name characters with dots between them, `isDottedName_iff`;
* `IsReference s` : a dotted name, white space and brackets after it;
* `named package s` : the type that a dotted name stands for;
* `Reads package cs t` : the type that a reference is read as, `parse_eq_ok_iff`;
* `IsSettled t` : types that qualified names stand for, `IsSettled.eq_of_qualifiedName`;
* `parse_references` : what is read, and that qualified names are read back.
-/

namespace XmlBinding

/-! ## Characters -/

namespace Text

/-- What holds of every code point of some ranges holds of their characters. -/
theorem of_contains {ranges : CodePoints} (holds : Char → Bool)
    (h : ∀ r ∈ ranges, ∀ n ∈ List.range' r.1 (r.2 + 1 - r.1), holds (Char.ofNat n) = true)
    {c : Char} (hc : ranges.contains c = true) : holds c = true := by
  obtain ⟨r, hr, hbounds⟩ := List.any_eq_true.1 hc
  rw [Bool.and_eq_true, decide_eq_true_eq, decide_eq_true_eq] at hbounds
  have hn : c.toNat ∈ List.range' r.1 (r.2 + 1 - r.1) := by
    rw [List.mem_range'_1]
    omega
  have := h r hr c.toNat hn
  rwa [Char.ofNat_toNat] at this

end Text

namespace JavaType

variable {c : Char} {cs gap : List Char} {package s text : String} {t u : JavaType}

theorem isBlank_of_isNameChar (h : isNameChar c = true) : Text.isBlank c = false := by
  refine Bool.eq_false_iff.2 fun hblank => ?_
  -- There are few characters of white space: each of them is looked at.
  have hnot := Text.of_contains (!isNameChar ·) (by decide +kernel) hblank
  rw [h] at hnot
  cases hnot

/-! ## Dotted names -/

/-- Segments of name characters with dots between them, at least one. -/
def IsDotted (s : String) : Prop :=
  ∃ names : List String, names ≠ [] ∧
    (∀ n ∈ names, n ≠ "" ∧ ∀ c ∈ n.toList, isNameChar c = true) ∧ s = ".".intercalate names

theorem isDottedName_iff : isDottedName s.toList = true ↔ IsDotted s := by
  unfold isDottedName
  rw [List.all_eq_true]
  constructor
  · intro h
    refine ⟨Text.pieces '.' s, ?_, fun n hn => ?_, (Text.intercalate_pieces s).symm⟩
    · exact fun hnil => Text.cut_ne_nil '.' s.toList (List.map_eq_nil_iff.1 hnil)
    · obtain ⟨piece, hpiece, rfl⟩ := List.mem_map.1 hn
      have hsegment := h piece hpiece
      rw [Bool.and_eq_true, Bool.not_eq_true', List.isEmpty_eq_false_iff, List.all_eq_true]
        at hsegment
      rw [Ne, String.ofList_eq_empty_iff, String.toList_ofList]
      exact hsegment
  · rintro ⟨names, hne, hnames, rfl⟩ piece hpiece
    have hdot : ¬isNameChar '.' = true := by decide +kernel
    have hundotted : ∀ n ∈ names, '.' ∉ n.toList := fun n hn h => hdot ((hnames n hn).2 '.' h)
    rw [Text.cut_toList_intercalate hundotted hne] at hpiece
    obtain ⟨n, hn, rfl⟩ := List.mem_map.1 hpiece
    rw [Bool.and_eq_true, Bool.not_eq_true', List.isEmpty_eq_false_iff, List.all_eq_true]
    exact ⟨fun hnil => (hnames n hn).1 (String.toList_eq_nil_iff.1 hnil), (hnames n hn).2⟩

theorem IsDotted.ne_nil (h : IsDotted s) : s.toList ≠ [] := by
  intro hnil
  have hs := isDottedName_iff.2 h
  rw [hnil] at hs
  cases hs

theorem eq_dot_or_isNameChar (h : isDottedName cs = true) (hc : c ∈ cs) :
    c = '.' ∨ isNameChar c = true := by
  rcases Text.mem_cut '.' hc with hdot | ⟨segment, hsegment, hc⟩
  · exact .inl hdot
  · have hnames := List.all_eq_true.1 h segment hsegment
    rw [Bool.and_eq_true] at hnames
    exact .inr (List.all_eq_true.1 hnames.2 c hc)

theorem bracket_not_mem (h : IsDotted s) : ']' ∉ s.toList := by
  intro hmem
  have hname := eq_dot_or_isNameChar (isDottedName_iff.2 h) hmem
  exact absurd hname (by decide +kernel)

theorem isBlank_of_isDottedName (h : isDottedName cs = true) (hc : c ∈ cs) :
    Text.isBlank c = false := by
  rcases eq_dot_or_isNameChar h hc with rfl | hname
  · decide
  · exact isBlank_of_isNameChar hname

theorem isDottedName_append (hp : isDottedName package.toList = true)
    (hs : isDottedName s.toList = true) : isDottedName (package ++ "." ++ s).toList = true := by
  unfold isDottedName at *
  rw [String.toList_append, String.toList_append, Text.toList_dot, List.append_assoc,
    List.singleton_append, Text.cut_append_sep, List.all_append, hp, hs]
  rfl

/-! ## What a dotted name stands for -/

/-- The type that a dotted name stands for. -/
def named (package s : String) : JavaType :=
  match Primitive.ofName? s with
  | some p => .primitive p
  | none =>
    if s.toList.contains '.' then .reference s
    else .reference ((wellKnown? s).getD (qualify package s))

theorem base_eq (package s : String) : base package s.toList =
    if isDottedName s.toList then .ok (named package s) else .error (.invalidName s) := by
  unfold base named
  rw [String.ofList_toList]
  dsimp only
  cases isDottedName s.toList with
  | false => rfl
  | true =>
    cases Primitive.ofName? s with
    | some p => rfl
    | none =>
      simp only [Bool.not_true, Bool.false_eq_true, if_false, if_true]
      split <;> rfl

/-- A package that types belong to: the default one, or a dotted name. -/
def IsHome (package : String) : Prop := package = "" ∨ IsDotted package

/-- A type whose classes have dotted names that are no keywords. -/
def IsSettled : JavaType → Prop
  | primitive _ => True
  | reference q => isDottedName q.toList = true ∧ Primitive.ofName? q = none
  | array c => c.IsSettled

theorem Primitive.ofName?_eq_some_iff {p : Primitive} :
    Primitive.ofName? s = some p ↔ s = p.name := by
  constructor
  · intro h
    have hname := List.find?_some h
    exact (eq_of_beq hname).symm
  · rintro rfl
    cases p <;> rfl

theorem ofName?_of_dot (h : '.' ∈ s.toList) : Primitive.ofName? s = none := by
  rw [Option.eq_none_iff_forall_ne_some]
  intro p hp
  rw [Primitive.ofName?_eq_some_iff.1 hp] at h
  cases p <;> exact absurd h (by decide)

theorem wellKnown?_eq_some {q : String} (h : wellKnown? s = some q) :
    isDottedName q.toList = true ∧ '.' ∈ q.toList := by
  have hall : ∀ q ∈ langClasses ++ mapClasses ++ collectionClasses ++ utilClasses,
      isDottedName q.toList = true ∧ '.' ∈ q.toList := by decide +kernel
  exact hall q (List.mem_of_find?_eq_some h)

theorem named_name (package : String) (p : Primitive) : named package p.name = .primitive p := by
  unfold named
  rw [Primitive.ofName?_eq_some_iff.2 rfl]

/-- A qualified name stands for its class. -/
theorem named_of_dot (h : '.' ∈ s.toList) : named package s = .reference s := by
  unfold named
  rw [ofName?_of_dot h, List.contains_iff_mem.2 h]
  rfl

theorem named_of_simple (hkeyword : Primitive.ofName? s = none) (hdot : '.' ∉ s.toList) :
    named package s = .reference ((wellKnown? s).getD (qualify package s)) := by
  unfold named
  rw [hkeyword]
  exact if_neg (mt List.contains_iff_mem.1 hdot)

/-- The name of what a dotted name stands for is dotted and stands for the same. -/
structure IsNamed (package : String) (t : JavaType) : Prop where
  settled : t.IsSettled
  dotted : isDottedName t.qualifiedName.toList = true
  again : named package t.qualifiedName = t

theorem isNamed_of_dot (h : isDottedName s.toList = true) (hdot : '.' ∈ s.toList) :
    IsNamed package (.reference s) :=
  ⟨⟨h, ofName?_of_dot hdot⟩, h, named_of_dot hdot⟩

theorem isNamed_named (hp : IsHome package) (h : isDottedName s.toList = true) :
    IsNamed package (named package s) := by
  cases hkeyword : Primitive.ofName? s with
  | some p =>
    rw [Primitive.ofName?_eq_some_iff.1 hkeyword, named_name]
    exact ⟨trivial, by cases p <;> decide +kernel, named_name package p⟩
  | none =>
    by_cases hdot : '.' ∈ s.toList
    · rw [named_of_dot hdot]
      exact isNamed_of_dot h hdot
    cases hknown : wellKnown? s with
    | some q =>
      rw [named_of_simple hkeyword hdot, hknown]
      obtain ⟨hq, hdot⟩ := wellKnown?_eq_some hknown
      exact isNamed_of_dot hq hdot
    | none =>
      have hnamed : named package s = .reference (qualify package s) := by
        rw [named_of_simple hkeyword hdot, hknown]
        rfl
      rcases hp with rfl | hp
      · -- In the default package a simple name is its own qualified name.
        have hself : qualify "" s = s := rfl
        rw [hself] at hnamed
        rw [hnamed]
        exact ⟨⟨h, hkeyword⟩, h, hnamed⟩
      · have hpackage := isDottedName_iff.2 hp
        have hqualify : qualify package s = package ++ "." ++ s := by
          unfold qualify
          rw [if_neg]
          rw [String.isEmpty_iff]
          rintro rfl
          exact absurd hpackage (by decide)
        rw [hnamed, hqualify]
        refine isNamed_of_dot (isDottedName_append hpackage h) ?_
        rw [String.toList_append, String.toList_append]
        simp

/-! ## What is read -/

/-- A dotted name, or a reference, white space and brackets after it. -/
inductive IsReference : String → Prop
  | name {s : String} (dotted : IsDotted s) : IsReference s
  | array {s gap : String} (component : IsReference s)
      (blank : ∀ c ∈ gap.toList, Text.isBlank c = true) : IsReference (s ++ gap ++ "[]")

/-- The type that a reference is read as. -/
inductive Reads (package : String) : String → JavaType → Prop
  | name {s : String} (dotted : IsDotted s) : Reads package s (named package s)
  | array {s gap : String} {t : JavaType} (component : Reads package s t)
      (blank : ∀ c ∈ gap.toList, Text.isBlank c = true) :
      Reads package (s ++ gap ++ "[]") (.array t)

theorem isReference_iff : IsReference s ↔ ∃ t, Reads package s t := by
  constructor
  · intro h
    induction h with
    | name dotted => exact ⟨_, .name dotted⟩
    | array _ blank ih =>
      obtain ⟨t, ht⟩ := ih
      exact ⟨_, .array ht blank⟩
  · rintro ⟨t, h⟩
    induction h with
    | name dotted => exact .name dotted
    | array _ blank ih => exact .array ih blank

namespace Reads

/-- No white space surrounds a reference. -/
theorem dropWhile (h : Reads package s t) : s.toList ≠ [] ∧
    s.toList.dropWhile Text.isBlank = s.toList ∧
    s.toList.reverse.dropWhile Text.isBlank = s.toList.reverse := by
  induction h with
  | @name s dotted =>
    have hs := isDottedName_iff.2 dotted
    have hkept (cs : List Char) (h : ∀ c ∈ cs, c ∈ s.toList) : cs.dropWhile Text.isBlank = cs := by
      refine List.dropWhile_eq_self_iff.2 fun hpos hblank => ?_
      rw [isBlank_of_isDottedName hs (h _ (List.getElem_mem hpos))] at hblank
      cases hblank
    exact ⟨dotted.ne_nil, hkept _ fun _ => id, hkept _ fun _ => List.mem_reverse.1⟩
  | @array s gap t component blank ih =>
    obtain ⟨hne, hstart, -⟩ := ih
    obtain ⟨c, rest, hs⟩ := List.exists_cons_of_ne_nil hne
    rw [String.toList_append, String.toList_append, hs]
    rw [hs, List.dropWhile_cons] at hstart
    have hc : ¬Text.isBlank c = true := fun hc => by
      rw [if_pos hc] at hstart
      have := congrArg List.length hstart
      have := (List.dropWhile_suffix Text.isBlank (l := rest)).length_le
      simp only [List.length_cons] at *
      omega
    refine ⟨by simp, ?_, ?_⟩
    · rw [List.cons_append, List.cons_append, List.dropWhile_cons_of_neg hc]
    · rw [List.reverse_append]
      rfl

end Reads

theorem base_eq_ok_iff : base package s.toList = .ok t ↔ IsDotted s ∧ t = named package s := by
  rw [base_eq, ← isDottedName_iff]
  split
  · next hdotted =>
    rw [and_iff_right hdotted]
    exact ⟨fun h => (Except.ok.inj h).symm, fun h => h ▸ rfl⟩
  · next hdotted => exact iff_of_false (fun h => by cases h) fun h => hdotted h.1

theorem ofReversed_of_cons {reversed rest : List Char}
    (h : reversed.dropWhile Text.isBlank = ']' :: '[' :: rest) :
    ofReversed package reversed = (ofReversed package rest).map .array := by
  rw [ofReversed]
  split
  · next hnil =>
    rw [h] at hnil
    cases hnil
  · next hbrackets =>
    rw [h] at hbrackets
    cases hbrackets
    rfl
  · next hne hother =>
    rw [h] at hother
    cases hother
    exact absurd rfl (hne _ rfl)

/-- Reading from the end passes white space, then brackets and what is before them, down to a dotted
name. -/
theorem reads_of_ofReversed {reversed : List Char} (h : ofReversed package reversed = .ok t) :
    Reads package (String.ofList (reversed.dropWhile Text.isBlank).reverse) t := by
  fun_induction ofReversed package reversed generalizing t with
  | case1 => cases h
  | case2 reversed rest hbrackets ih =>
    cases hrest : ofReversed package rest with
    | error fault =>
      rw [hrest] at h
      cases h
    | ok component =>
      rw [hrest] at h
      cases h
      -- Before the brackets there is white space, then the component.
      have hgap : ∀ c ∈ (String.ofList (rest.takeWhile Text.isBlank).reverse).toList,
          Text.isBlank c = true := fun c hc => by
        rw [String.toList_ofList, List.mem_reverse] at hc
        exact List.mem_takeWhile_imp hc
      have hreads := Reads.array (ih hrest) hgap
      have hbrackets' : "[]" = String.ofList ['[', ']'] := rfl
      rw [hbrackets', ← String.ofList_append, ← String.ofList_append, ← List.reverse_append,
        List.takeWhile_append_dropWhile] at hreads
      rw [hbrackets, List.reverse_cons, List.reverse_cons, List.append_assoc]
      exact hreads
  | case3 reversed c rest hother hrest =>
    rw [← String.toList_ofList (l := (c :: rest).reverse)] at h
    obtain ⟨hdotted, rfl⟩ := base_eq_ok_iff.1 h
    rw [hrest]
    exact .name hdotted

theorem ofReversed_of_reads {reversed : List Char} (h : Reads package s t)
    (hs : reversed.dropWhile Text.isBlank = s.toList.reverse) :
    ofReversed package reversed = .ok t := by
  induction h generalizing reversed with
  | @name s dotted =>
    rw [ofReversed]
    split
    · next hnil =>
      rw [hnil] at hs
      exact absurd (List.reverse_eq_nil_iff.1 hs.symm) dotted.ne_nil
    · next rest hbrackets =>
      rw [hbrackets] at hs
      refine absurd (List.mem_reverse.1 (hs ▸ List.mem_cons_self)) (bracket_not_mem dotted)
    · next c rest hother hrest =>
      rw [← hrest, hs, List.reverse_reverse]
      exact base_eq_ok_iff.2 ⟨dotted, rfl⟩
  | @array s gap t component blank ih =>
    have hbrackets : (s ++ gap ++ "[]").toList.reverse =
        ']' :: '[' :: (gap.toList.reverse ++ s.toList.reverse) := by
      rw [String.toList_append, String.toList_append, List.reverse_append, List.reverse_append]
      rfl
    rw [ofReversed_of_cons (hs.trans hbrackets), ih]
    · rfl
    · rw [List.dropWhile_append_of_pos fun c hc => blank c (List.mem_reverse.1 hc)]
      exact component.dropWhile.2.2

theorem parse_eq_ok_iff : parse package text = .ok t ↔ Reads package (Text.trim text) t := by
  unfold parse Text.trim Text.trimEnd
  refine ⟨reads_of_ofReversed, fun h => ofReversed_of_reads h ?_⟩
  rw [String.toList_ofList, List.reverse_reverse]

/-! ## Reading qualified names -/

namespace Reads

/-- What is read from a package is read again from its qualified name. -/
theorem qualifiedName (hp : IsHome package) (h : Reads package s t) :
    t.IsSettled ∧ Reads package t.qualifiedName t := by
  induction h with
  | name dotted =>
    have hnamed := isNamed_named hp (isDottedName_iff.2 dotted)
    refine ⟨hnamed.settled, ?_⟩
    have hreads : Reads package _ (named package _) := .name (isDottedName_iff.1 hnamed.dotted)
    rwa [hnamed.again] at hreads
  | array component blank ih =>
    obtain ⟨hsettled, hreads⟩ := ih
    refine ⟨hsettled, ?_⟩
    have hgap : ∀ c ∈ "".toList, Text.isBlank c = true := fun c hc => absurd hc List.not_mem_nil
    have harray := Reads.array hreads hgap
    rwa [String.append_empty] at harray

theorem trim (h : Reads package s t) : Text.trim s = s := by
  obtain ⟨-, hstart, hend⟩ := h.dropWhile
  unfold Text.trim Text.trimEnd Text.trimStart
  rw [hstart, hend, List.reverse_reverse, String.ofList_toList]

end Reads

/-- A name without brackets is that of a primitive or a class. -/
theorem IsSettled.component_of_bracket (h : t.IsSettled) (hb : ']' ∈ t.qualifiedName.toList) :
    ∃ c : JavaType, t = .array c := by
  cases t with
  | primitive p => cases p <;> exact absurd hb (by decide)
  | reference q => exact absurd hb (bracket_not_mem (isDottedName_iff.1 h.1))
  | array c => exact ⟨c, rfl⟩

theorem bracket_mem_array (c : JavaType) : ']' ∈ (array c).qualifiedName.toList := by
  rw [qualifiedName, String.toList_append]
  exact List.mem_append_right _ (by decide)

theorem IsSettled.eq_of_qualifiedName (ht : t.IsSettled) (hu : u.IsSettled)
    (h : t.qualifiedName = u.qualifiedName) : t = u := by
  -- Only names of arrays have brackets, and names of classes are no keywords.
  induction t generalizing u with
  | array c ih =>
    obtain ⟨d, rfl⟩ := hu.component_of_bracket (h ▸ bracket_mem_array c)
    have hcomponent : c.qualifiedName = d.qualifiedName := by
      have hlists :
          c.qualifiedName.toList ++ "[]".toList = d.qualifiedName.toList ++ "[]".toList := by
        rw [← String.toList_append, ← String.toList_append]
        exact congrArg String.toList h
      exact String.toList_injective (List.append_cancel_right hlists)
    have hd : d.IsSettled := hu
    rw [ih ht hd hcomponent]
  | primitive p =>
    have hp : Primitive.ofName? p.name = some p := Primitive.ofName?_eq_some_iff.2 rfl
    cases u with
    | primitive p' =>
      have hp' : p.name = p'.name := h
      rw [hp', Primitive.ofName?_eq_some_iff.2 rfl] at hp
      cases hp
      rfl
    | reference q =>
      have hq : p.name = q := h
      rw [hq, hu.2] at hp
      cases hp
    | array c =>
      obtain ⟨d, hd⟩ := ht.component_of_bracket (h ▸ bracket_mem_array c)
      cases hd
  | reference q =>
    cases u with
    | primitive p =>
      have hq : q = p.name := h
      have hnone := ht.2
      rw [hq, Primitive.ofName?_eq_some_iff.2 rfl] at hnone
      cases hnone
    | reference q' => exact congrArg reference h
    | array c =>
      obtain ⟨d, hd⟩ := ht.component_of_bracket (h ▸ bracket_mem_array c)
      cases hd

/-- The texts that are read are the references. Read from the default package or from a dotted one,
a type is read again from its qualified name, and no two types have one qualified name, even where
they are read from different packages. -/
theorem parse_references :
    (∀ package text, (∃ t, parse package text = .ok t) ↔ IsReference (Text.trim text)) ∧
    (∀ package text t, IsHome package → parse package text = .ok t →
      parse package t.qualifiedName = .ok t) ∧
    ∀ package text t package' text' u, IsHome package → IsHome package' →
      parse package text = .ok t → parse package' text' = .ok u →
      t.qualifiedName = u.qualifiedName → t = u := by
  refine ⟨fun package text => ?_, fun package text t hp h => ?_, ?_⟩
  · rw [isReference_iff]
    exact exists_congr fun t => parse_eq_ok_iff
  · obtain ⟨-, hreads⟩ := (parse_eq_ok_iff.1 h).qualifiedName hp
    rw [parse_eq_ok_iff, hreads.trim]
    exact hreads
  · intro package text t package' text' u hp hp' ht hu hname
    obtain ⟨ht, -⟩ := (parse_eq_ok_iff.1 ht).qualifiedName hp
    obtain ⟨hu, -⟩ := (parse_eq_ok_iff.1 hu).qualifiedName hp'
    exact ht.eq_of_qualifiedName hu hname

/-- Items of a shop, named from within and from without. -/
theorem parse_items :
    IsHome "shop" ∧ IsHome "" ∧ IsReference (Text.trim " Item []") ∧
    ∃ t u, parse "shop" " Item []" = .ok t ∧ parse "" "shop.Item[]" = .ok u ∧
      t.qualifiedName = "shop.Item[]" ∧ u.qualifiedName = "shop.Item[]" ∧
      parse "shop" "shop.Item[]" = .ok t ∧ t = u := by
  have hshop : IsHome "shop" := .inr (isDottedName_iff.1 (by decide +kernel))
  have hitem : IsDotted "Item" := isDottedName_iff.1 (by decide +kernel)
  have hshopItem : IsDotted "shop.Item" := isDottedName_iff.1 (by decide +kernel)
  have hblank : ∀ c ∈ " ".toList, Text.isBlank c = true := List.all_eq_true.1 (by decide)
  have hgap : ∀ c ∈ "".toList, Text.isBlank c = true := List.forall_mem_nil _
  have hnamed : named "shop" "Item" = .reference "shop.Item" := by decide +kernel
  have hwithin : Reads "shop" "Item" (.reference "shop.Item") := by
    rw [← hnamed]
    exact .name hitem
  have hdot : named "" "shop.Item" = .reference "shop.Item" := named_of_dot (by decide)
  have hwithout : Reads "" "shop.Item" (.reference "shop.Item") := by
    rw [← hdot]
    exact .name hshopItem
  have ht : parse "shop" " Item []" = .ok (.array (.reference "shop.Item")) :=
    parse_eq_ok_iff.2 (.array hwithin hblank)
  have hu : parse "" "shop.Item[]" = .ok (.array (.reference "shop.Item")) :=
    parse_eq_ok_iff.2 (.array hwithout hgap)
  obtain ⟨hread, hagain, hunique⟩ := parse_references
  exact ⟨hshop, .inl rfl, (hread _ _).1 ⟨_, ht⟩, _, _, ht, hu, rfl, rfl, hagain _ _ _ hshop ht,
    hunique _ _ _ _ _ _ hshop (.inl rfl) ht hu rfl⟩

end JavaType

end XmlBinding
