import Mathlib.Data.List.TakeWhile
import XmlBinding.Proofs.Plain

/-!
# What package declarations name

* `Text.cut_intercalate`, `Text.intercalate_cut`, `Text.intercalate_pieces` : pieces, and the text
  they are cut from;
* `IsSegment s`, `IsPackage package` : segments, and packages of them with dots between;
  `segments_intercalate`, `isPackage_iff`, `isPackage_append_iff` : how to tell them;
* `Joined names below` : segments with a dot or a slash between neighbours, `dotted_eq_map`,
  `joined_of_map_undivide` : what turning slashes into dots makes of texts;
* `Relative` : a relative declaration of such segments, `Relative.text`;
* `climb_ups`, `exists_ups_of_climb` : going up;
* `resolve_relative` : the package that a relative declaration of segments names;
* `isPackage_resolve_iff` : no other relative declaration names a package.
-/

namespace XmlBinding

/-! ## Pieces -/

namespace Text

variable {sep : Char} {l : List (List Char)}

theorem cut_intercalate (h : ∀ piece ∈ l, sep ∉ piece) (hne : l ≠ []) :
    cut sep ([sep].intercalate l) = l := by
  induction l with
  | nil => exact absurd rfl hne
  | cons piece l ih =>
    obtain ⟨hpiece, hrest⟩ := List.forall_mem_cons.1 h
    cases l with
    | nil =>
      rw [List.intercalate_singleton]
      exact cut_of_not_mem hpiece
    | cons next l =>
      rw [List.intercalate_cons_cons, List.append_assoc, List.singleton_append, cut_append_sep,
        cut_of_not_mem hpiece, ih hrest (List.cons_ne_nil next l), List.singleton_append]

theorem intercalate_cut (sep : Char) (cs : List Char) : [sep].intercalate (cut sep cs) = cs := by
  induction cs with
  | nil => rfl
  | cons c cs ih =>
    unfold cut
    split
    · next hc =>
      subst hc
      obtain ⟨first, others, hcut⟩ := List.exists_cons_of_ne_nil (cut_ne_nil c cs)
      rw [hcut, List.intercalate_cons_cons, ← hcut, ih]
      rfl
    · split
      · next hcut => exact absurd hcut (cut_ne_nil sep cs)
      · next first others hcut =>
        rw [hcut] at ih
        rw [← ih]
        cases others with
        | nil => rw [List.intercalate_singleton, List.intercalate_singleton]
        | cons next others =>
          rw [List.intercalate_cons_cons, List.intercalate_cons_cons]
          rfl

theorem toList_dot : ".".toList = ['.'] := rfl

/-- The text that pieces without dots are cut from. -/
theorem cut_toList_intercalate {names : List String} (h : ∀ s ∈ names, '.' ∉ s.toList)
    (hne : names ≠ []) : cut '.' (".".intercalate names).toList = names.map String.toList := by
  rw [String.toList_intercalate, toList_dot]
  refine cut_intercalate (fun piece hpiece => ?_) fun hnil => hne (List.map_eq_nil_iff.1 hnil)
  obtain ⟨s, hs, rfl⟩ := List.mem_map.1 hpiece
  exact h s hs

theorem intercalate_pieces (s : String) : ".".intercalate (pieces '.' s) = s := by
  refine String.toList_injective ?_
  rw [String.toList_intercalate, toList_dot, pieces, List.map_map]
  have hid : String.toList ∘ String.ofList = id := funext fun _ => String.toList_ofList
  rw [hid, List.map_id, intercalate_cut]

end Text

namespace Package

/-! ## Packages -/

/-- A segment of a package. -/
structure IsSegment (s : String) : Prop where
  nonempty : s ≠ ""
  undotted : '.' ∉ s.toList

instance (s : String) : Decidable (IsSegment s) :=
  decidable_of_iff (s ≠ "" ∧ '.' ∉ s.toList) ⟨fun h => ⟨h.1, h.2⟩, fun h => ⟨h.1, h.2⟩⟩

/-- Segments with dots between them; none are the empty package. -/
def IsPackage (package : String) : Prop :=
  ∃ names : List String, (∀ s ∈ names, IsSegment s) ∧ package = ".".intercalate names

variable {names : List String} {s t package declaration below : String} {cs : List Char}

theorem segments_intercalate (h : ∀ s ∈ names, IsSegment s) :
    segments (".".intercalate names) = names := by
  by_cases hne : names = []
  · subst hne
    rfl
  · unfold segments Text.pieces
    rw [Text.cut_toList_intercalate (fun s hs => (h s hs).undotted) hne, List.map_map]
    have hid : String.ofList ∘ String.toList = id := funext fun _ => String.ofList_toList
    rw [hid, List.map_id, List.filter_eq_self]
    intro s hs
    rw [Bool.not_eq_true', Bool.eq_false_iff, Ne, String.isEmpty_iff]
    exact (h s hs).nonempty

/-- A package has no leading, trailing or doubled dot. -/
theorem isPackage_iff : IsPackage package ↔ package = "" ∨ [] ∉ Text.cut '.' package.toList := by
  constructor
  · rintro ⟨names, hnames, rfl⟩
    by_cases hne : names = []
    · exact .inl (hne ▸ rfl)
    · rw [Text.cut_toList_intercalate (fun s hs => (hnames s hs).undotted) hne]
      refine .inr fun hnil => ?_
      obtain ⟨s, hs, hempty⟩ := List.mem_map.1 hnil
      exact (hnames s hs).nonempty (String.toList_eq_nil_iff.1 hempty)
  · rintro (rfl | hpieces)
    · exact ⟨[], List.forall_mem_nil _, rfl⟩
    · refine ⟨Text.pieces '.' package, fun s hs => ?_, (Text.intercalate_pieces package).symm⟩
      obtain ⟨piece, hpiece, rfl⟩ := List.mem_map.1 hs
      refine ⟨fun hempty => hpieces ?_, ?_⟩
      · rwa [← String.ofList_eq_empty_iff.1 hempty]
      · rw [String.toList_ofList]
        exact Text.not_mem_of_mem_cut hpiece

theorem IsPackage.of_names (h : ∀ s ∈ names, IsSegment s) : IsPackage (".".intercalate names) :=
  ⟨names, h, rfl⟩

theorem isPackage_append_iff (ht : t ≠ "") (hs : s ≠ "") (h : IsPackage s) :
    IsPackage (s ++ "." ++ t) ↔ IsPackage t := by
  have hne : s ++ "." ++ t ≠ "" := fun hempty => by
    have := congrArg String.length hempty
    simp at this
  have hs' := (isPackage_iff.1 h).resolve_left hs
  rw [isPackage_iff, isPackage_iff, or_iff_right hne, or_iff_right ht, String.toList_append,
    String.toList_append, Text.toList_dot, List.append_assoc, List.singleton_append,
    Text.cut_append_sep, List.mem_append, not_or, and_iff_right hs']

/-! ## Slashes into dots -/

/-- Segments with a dot or a slash between neighbours. -/
inductive Joined : List String → String → Prop
  | nil : Joined [] ""
  | single {s : String} (segment : IsSegment s) (undivided : '/' ∉ s.toList) : Joined [s] s
  | cons {s t sep below : String} {names : List String} (segment : IsSegment s)
      (undivided : '/' ∉ s.toList) (separator : sep = "." ∨ sep = "/")
      (rest : Joined (t :: names) below) : Joined (s :: t :: names) (s ++ sep ++ below)

/-- A slash becomes a dot. -/
def undivide (c : Char) : Char := if c = '/' then '.' else c

theorem undivide_eq_dot_iff {c : Char} : undivide c = '.' ↔ c = '.' ∨ c = '/' := by
  unfold undivide
  split <;> simp_all

theorem map_undivide (h : '/' ∉ cs) : cs.map undivide = cs := by
  rw [List.map_congr_left (g := id), List.map_id]
  rintro c hc
  refine if_neg ?_
  rintro rfl
  exact h hc

theorem not_mem_of_map_undivide (h : '.' ∉ cs.map undivide) : '/' ∉ cs :=
  fun hc => h (List.mem_map.2 ⟨'/', hc, rfl⟩)

theorem dotted_eq_map (h : cs.getLast? ≠ some '/') : dotted cs = cs.map undivide := by
  have hlast : cs.reverse.dropWhile (· = '/') = cs.reverse := by
    rw [List.dropWhile_eq_self_iff]
    intro hpos hslash
    refine h ?_
    rw [← List.head?_reverse, List.head?_eq_getElem?, List.getElem?_eq_getElem hpos]
    exact congrArg some (of_decide_eq_true hslash)
  rw [dotted, hlast, List.reverse_reverse]
  rfl

theorem dotted_append_slashes (cs : List Char) (n : Nat) :
    dotted (cs ++ List.replicate n '/') = dotted cs := by
  unfold dotted
  rw [List.reverse_append, List.reverse_replicate,
    List.dropWhile_append_of_pos fun c hc => decide_eq_true (List.eq_of_mem_replicate hc)]

/-- Trailing slashes apart, a text ends in no slash. -/
theorem exists_slashes (cs : List Char) :
    ∃ body n, cs = body ++ List.replicate n '/' ∧ body.getLast? ≠ some '/' := by
  refine ⟨(cs.reverse.dropWhile (· = '/')).reverse, (cs.reverse.takeWhile (· = '/')).length, ?_, ?_⟩
  · have hslashes : cs.reverse.takeWhile (· = '/') =
        List.replicate (cs.reverse.takeWhile (· = '/')).length '/' :=
      List.eq_replicate_of_mem fun c hc => by simpa using List.mem_takeWhile_imp hc
    conv_lhs => rw [← List.reverse_reverse cs, ← List.takeWhile_append_dropWhile
      (p := (· = '/')) (l := cs.reverse), List.reverse_append, hslashes, List.reverse_replicate]
  · rw [List.getLast?_reverse]
    intro h
    have := List.head?_dropWhile_not (fun c : Char => decide (c = '/')) cs.reverse
    rw [h] at this
    exact absurd this (by decide)

namespace Joined

theorem isSegment (h : Joined names below) : ∀ s ∈ names, IsSegment s := by
  induction h with
  | nil => exact List.forall_mem_nil _
  | single segment => exact List.forall_mem_singleton.2 segment
  | cons segment _ _ _ ih => exact List.forall_mem_cons.2 ⟨segment, ih⟩

theorem eq_empty_iff (h : Joined names below) : below = "" ↔ names = [] := by
  cases h with
  | nil => exact ⟨fun _ => rfl, fun _ => rfl⟩
  | single segment => exact iff_of_false segment.nonempty (List.cons_ne_nil _ _)
  | cons segment =>
    refine iff_of_false (fun h => segment.nonempty ?_) (List.cons_ne_nil _ _)
    rw [String.append_assoc] at h
    exact (String.append_eq_empty_iff.1 h).1

theorem head?_ne (h : Joined names below) {c : Char} (hc : c = '.' ∨ c = '/') :
    below.toList.head? ≠ some c := by
  have hfirst : ∀ {s : String}, IsSegment s → '/' ∉ s.toList → s.toList.head? ≠ some c := by
    rintro s segment undivided hhead
    rcases hc with rfl | rfl
    · exact segment.undotted (List.mem_of_mem_head? hhead)
    · exact undivided (List.mem_of_mem_head? hhead)
  cases h with
  | nil => simp
  | single segment undivided => exact hfirst segment undivided
  | cons segment undivided =>
    rw [String.append_assoc, String.toList_append, List.head?_append_of_ne_nil]
    · exact hfirst segment undivided
    · exact fun hnil => segment.nonempty (String.toList_eq_nil_iff.1 hnil)

theorem getLast?_ne (h : Joined names below) : below.toList.getLast? ≠ some '/' := by
  induction h with
  | nil => simp
  | single _ undivided => exact fun hlast => undivided (List.mem_of_getLast? hlast)
  | cons _ _ _ rest ih =>
    have hne := mt rest.eq_empty_iff.1 (List.cons_ne_nil _ _)
    rwa [String.toList_append, List.getLast?_append_of_ne_nil]
    exact fun hnil => hne (String.toList_eq_nil_iff.1 hnil)

/-- The segments come out with dots between them. -/
theorem dotted (h : Joined names below) :
    String.ofList (dotted below.toList) = ".".intercalate names := by
  rw [dotted_eq_map h.getLast?_ne]
  induction h with
  | nil => rfl
  | single _ undivided =>
    rw [map_undivide undivided, String.intercalate_singleton, String.ofList_toList]
  | @cons s t sep below names _ undivided separator _ ih =>
    have hsep : sep.toList.map undivide = ".".toList := by
      rcases separator with rfl | rfl <;> decide
    rw [String.intercalate_cons_cons, ← ih, String.toList_append, String.toList_append,
      List.map_append, List.map_append, hsep, map_undivide undivided, String.ofList_append,
      String.ofList_append, String.ofList_toList, String.ofList_toList]

end Joined

theorem eq_of_map_undivide {s : String} (hs : IsSegment s) (h : cs.map undivide = s.toList) :
    '/' ∉ s.toList ∧ cs = s.toList := by
  have hcs : '/' ∉ cs := not_mem_of_map_undivide (h ▸ hs.undotted)
  rw [map_undivide hcs] at h
  exact ⟨h ▸ hcs, h⟩

/-- Where turning slashes into dots makes a package, there were segments with dots or slashes
between neighbours. -/
theorem joined_of_map_undivide (hnames : ∀ s ∈ names, IsSegment s)
    (h : cs.map undivide = (".".intercalate names).toList) : Joined names (String.ofList cs) := by
  induction names generalizing cs with
  | nil =>
    rw [List.map_eq_nil_iff.1 h]
    exact .nil
  | cons s names ih =>
    obtain ⟨hs, hrest⟩ := List.forall_mem_cons.1 hnames
    cases names with
    | nil =>
      rw [String.intercalate_singleton] at h
      obtain ⟨undivided, rfl⟩ := eq_of_map_undivide hs h
      rw [String.ofList_toList]
      exact .single hs undivided
    | cons t names =>
      rw [String.intercalate_cons_cons, String.toList_append, String.toList_append, Text.toList_dot,
        List.append_assoc, List.singleton_append, List.map_eq_append_iff] at h
      obtain ⟨first, others, rfl, hfirst, hothers⟩ := h
      obtain ⟨sep, rest, rfl, hsep, hbelow⟩ := List.map_eq_cons_iff.1 hothers
      obtain ⟨undivided, rfl⟩ := eq_of_map_undivide hs hfirst
      have separator : String.ofList [sep] = "." ∨ String.ofList [sep] = "/" := by
        rcases undivide_eq_dot_iff.1 hsep with rfl | rfl
        · exact .inl rfl
        · exact .inr rfl
      have hjoined := Joined.cons hs undivided separator (ih hrest hbelow)
      rwa [String.append_assoc, ← String.ofList_append, ← String.ofList_toList (s := s),
        ← String.ofList_append, String.ofList_toList] at hjoined

/-! ## Going up -/

/-- So many steps up. -/
def up (n : Nat) : String := String.join (List.replicate n "../")

theorem toList_up_succ (n : Nat) : (up (n + 1)).toList = '.' :: '.' :: '/' :: (up n).toList := by
  rw [up, List.replicate_succ, String.join_cons, String.toList_append]
  rfl

theorem climb_of_head? {segments : List String} (h : cs.head? ≠ some '.') :
    climb segments cs = some (segments, cs) := by
  unfold climb
  split
  · exact absurd rfl h
  · rfl

theorem climb_ups {rest : List Char} (h : rest.head? ≠ some '.') (n : Nat)
    (segments : List String) :
    climb segments ((up n).toList ++ rest) =
      if segments.length < n then none else some (segments.drop n, rest) := by
  induction n generalizing segments with
  | zero => exact climb_of_head? h
  | succ n ih =>
    rw [toList_up_succ]
    cases segments with
    | nil => rfl
    | cons segment segments =>
      rw [List.length_cons, List.drop_succ_cons]
      simp only [Nat.add_lt_add_iff_right]
      exact ih segments

theorem exists_ups_of_climb {segments outer : List String} {rest : List Char}
    (h : climb segments cs = some (outer, rest)) :
    ∃ n, cs = (up n).toList ++ rest ∧ outer = segments.drop n := by
  fun_induction climb segments cs with
  | case1 => cases h
  | case2 rest segment segments ih =>
    obtain ⟨n, rfl, rfl⟩ := ih h
    exact ⟨n + 1, by rw [toList_up_succ]; rfl, List.drop_succ_cons.symm⟩
  | case3 segments cs =>
    cases h
    exact ⟨0, rfl, rfl⟩

/-- The package of what is below a package. -/
def under (base below : String) : String := if below.isEmpty then base else qualify base below

theorem intercalate_eq_empty_iff (h : ∀ s ∈ names, IsSegment s) :
    ".".intercalate names = "" ↔ names = [] := by
  constructor
  · intro hempty
    rw [← segments_intercalate h, hempty]
    rfl
  · rintro rfl
    rfl

theorem under_intercalate {outer : List String} (ho : ∀ s ∈ outer, IsSegment s)
    (hn : ∀ s ∈ names, IsSegment s) :
    under (".".intercalate outer) (".".intercalate names) = ".".intercalate (outer ++ names) := by
  unfold under qualify
  simp only [String.isEmpty_iff, intercalate_eq_empty_iff ho, intercalate_eq_empty_iff hn]
  split
  · next hnames => rw [hnames, List.append_nil]
  · next hnames =>
    split
    · next houter => rw [houter, List.nil_append]
    · next houter => exact (String.intercalate_append_of_ne_nil houter hnames).symm

theorem isPackage_under_iff {base : String} (h : IsPackage base) :
    IsPackage (under base below) ↔ IsPackage below := by
  unfold under qualify
  simp only [String.isEmpty_iff]
  split
  · next hempty => exact iff_of_true h (hempty ▸ .of_names (List.forall_mem_nil _))
  · next hne =>
    split
    · exact Iff.rfl
    · next hbase => exact isPackage_append_iff hne hbase h

theorem resolve_of_relative (hne : declaration ≠ "") (hdot : declaration ≠ ".")
    (hrel : declaration.toList.head? ≠ some '/') :
    resolve package declaration =
      match climb (segments package).reverse (dropHere declaration.toList) with
      | none => .error (.aboveRoot declaration)
      | some (outer, relative) =>
        .ok (under (".".intercalate outer.reverse) (String.ofList (dotted relative))) := by
  unfold resolve
  split
  · next hnil => exact absurd (String.toList_eq_nil_iff.1 hnil) hne
  · next rooted hrooted => exact absurd (congrArg List.head? hrooted) hrel
  · next hhere => exact absurd (String.toList_injective hhere) hdot
  · cases climb (segments package).reverse (dropHere declaration.toList) with
    | none => rfl
    | some stop =>
      unfold under qualify
      dsimp only
      split
      · rfl
      · split <;> rfl

/-! ## Relative declarations -/

/-- A relative declaration of segments: here, so many steps up, segments below with dots or slashes
between neighbours. Trailing slashes follow where there is anything before them. -/
structure Relative where
  here : Bool
  ups : Nat
  names : List String
  below : String
  slashes : Nat
  joined : Joined names below
  ends : slashes ≠ 0 → here = true ∨ ups ≠ 0 ∨ names ≠ []

namespace Relative

/-- What follows the steps up. -/
def rest (d : Relative) : String := d.below ++ String.ofList (List.replicate d.slashes '/')

def text (d : Relative) : String := (if d.here then "./" else "") ++ up d.ups ++ d.rest

variable (d : Relative)

theorem toList_rest : d.rest.toList = d.below.toList ++ List.replicate d.slashes '/' := by
  rw [rest, String.toList_append, String.toList_ofList]

theorem head?_rest : d.rest.toList.head? ≠ some '.' := by
  rw [toList_rest, List.head?_append]
  have hbelow := d.joined.head?_ne (.inl rfl)
  cases hhead : d.below.toList.head? with
  | none =>
    rw [Option.none_or, List.head?_replicate]
    split <;> simp
  | some c =>
    rw [hhead] at hbelow
    exact hbelow

theorem dotted_rest : String.ofList (dotted d.rest.toList) = ".".intercalate d.names := by
  rw [toList_rest, dotted_append_slashes, d.joined.dotted]

theorem toList_text : d.text.toList =
    (if d.here then ['.', '/'] else []) ++ ((up d.ups).toList ++ d.rest.toList) := by
  rw [text, String.append_assoc, String.toList_append, String.toList_append]
  split <;> rfl

theorem dropHere_text : dropHere d.text.toList = (up d.ups).toList ++ d.rest.toList := by
  rw [toList_text]
  split
  · rfl
  · rw [List.nil_append]
    cases d.ups with
    | zero =>
      unfold dropHere
      split
      · next hrest => exact absurd (congrArg List.head? hrest) d.head?_rest
      · rfl
    | succ n =>
      rw [toList_up_succ]
      rfl

theorem text_ne_dot : d.text ≠ "." := by
  intro h
  have htext := d.toList_text
  rw [h] at htext
  split at htext
  · cases htext
  · cases hups : d.ups with
    | zero =>
      rw [hups] at htext
      exact d.head?_rest (congrArg List.head? htext).symm
    | succ n =>
      rw [hups, toList_up_succ] at htext
      cases htext

theorem head?_text : d.text.toList.head? ≠ some '/' := by
  rw [toList_text]
  split
  · simp
  · next hhere =>
    rw [List.nil_append]
    cases hups : d.ups with
    | zero =>
      rw [up, List.replicate_zero, String.join_nil, String.toList_empty, List.nil_append,
        toList_rest]
      by_cases hnames : d.names = []
      · have hslashes : d.slashes = 0 := by
          by_contra hslashes
          exact (d.ends hslashes).elim hhere fun h => h.elim (· hups) (· hnames)
        rw [d.joined.eq_empty_iff.2 hnames, hslashes]
        simp
      · have hbelow : d.below.toList ≠ [] := fun hnil =>
          hnames (d.joined.eq_empty_iff.1 (String.toList_eq_nil_iff.1 hnil))
        rw [List.head?_append_of_ne_nil _ hbelow]
        exact d.joined.head?_ne (.inr rfl)
    | succ n =>
      rw [toList_up_succ]
      simp

end Relative

/-- A relative declaration of segments goes up from a package and appends its segments, and fails
where the package has too few; the empty one always fails. A rooted declaration is taken as it
is. -/
theorem resolve_relative (hp : ∀ s ∈ names, IsSegment s) (d : Relative) :
    resolve (".".intercalate names) d.text =
      (if d.text = "" then .error .empty
       else if names.length < d.ups then .error (.aboveRoot d.text)
       else .ok (".".intercalate (names.take (names.length - d.ups) ++ d.names))) ∧
    ∀ package rooted, resolve package ("/" ++ rooted) = .ok rooted := by
  refine ⟨?_, fun package rooted => ?_⟩
  · split
    · next hempty => rw [hempty]; rfl
    · next hne =>
      rw [resolve_of_relative hne d.text_ne_dot d.head?_text, segments_intercalate hp,
        d.dropHere_text, climb_ups d.head?_rest, List.length_reverse]
      by_cases hups : names.length < d.ups
      · rw [if_pos hups, if_pos hups]
      · rw [if_neg hups, if_neg hups]
        dsimp only
        rw [d.dotted_rest, List.reverse_drop, List.reverse_reverse, List.length_reverse,
          under_intercalate (fun s hs => hp s (List.mem_of_mem_take hs)) d.joined.isSegment]
  · unfold resolve
    rw [String.toList_append]
    exact congrArg Except.ok String.ofList_toList

/-- The declaration `./../x/y//`. -/
def besides : Relative where
  here := true
  ups := 1
  names := ["x", "y"]
  below := "x/y"
  slashes := 2
  joined := .cons (by decide) (by decide) (.inr rfl) (.single (by decide) (by decide))
  ends _ := .inl rfl

theorem resolve_besides :
    besides.text = "./../x/y//" ∧ resolve "a.b.c" "./../x/y//" = .ok "a.b.x.y" :=
  have hp : ∀ s ∈ ["a", "b", "c"], IsSegment s := by decide
  ⟨by decide, (resolve_relative hp besides).1⟩

theorem dropHere_cases (cs : List Char) : cs = '.' :: '/' :: dropHere cs ∨ dropHere cs = cs := by
  unfold dropHere
  split
  · exact .inl rfl
  · exact .inr rfl

/-- A declaration that goes up and then names a package is one of segments. -/
theorem exists_relative {n : Nat} {relative : List Char}
    (hrel : declaration.toList.head? ≠ some '/')
    (hups : dropHere declaration.toList = (up n).toList ++ relative)
    (h : IsPackage (String.ofList (dotted relative))) : ∃ d : Relative, declaration = d.text := by
  obtain ⟨body, slashes, rfl, hlast⟩ := exists_slashes relative
  obtain ⟨names, hnames, hbelow⟩ := h
  rw [dotted_append_slashes, dotted_eq_map hlast] at hbelow
  have joined : Joined names (String.ofList body) :=
    joined_of_map_undivide hnames (by rw [← hbelow, String.toList_ofList])
  rcases dropHere_cases declaration.toList with hhere | hhere
  · refine ⟨⟨true, n, names, String.ofList body, slashes, joined, fun _ => .inl rfl⟩, ?_⟩
    refine String.toList_injective ?_
    rw [Relative.toList_text, Relative.toList_rest, hhere, hups, String.toList_ofList]
    rfl
  · have hdeclaration :
        declaration.toList = (up n).toList ++ (body ++ List.replicate slashes '/') :=
      hhere.symm.trans hups
    have ends : slashes ≠ 0 → false = true ∨ n ≠ 0 ∨ names ≠ [] := fun hslashes => by
      -- Slashes with nothing before them would make the declaration a rooted one.
      by_contra hnone
      simp only [Bool.false_eq_true, false_or, not_or, not_not] at hnone
      obtain ⟨rfl, hnil⟩ := hnone
      have hbody : body = [] := String.ofList_eq_empty_iff.1 (joined.eq_empty_iff.2 hnil)
      obtain ⟨m, rfl⟩ := Nat.exists_eq_succ_of_ne_zero hslashes
      rw [hbody] at hdeclaration
      exact hrel (congrArg List.head? hdeclaration)
    refine ⟨⟨false, n, names, String.ofList body, slashes, joined, ends⟩, ?_⟩
    refine String.toList_injective (hdeclaration.trans ?_)
    rw [Relative.toList_text, Relative.toList_rest, String.toList_ofList]
    rfl

/-- No other relative declaration names a package. -/
theorem isPackage_resolve_iff (hp : IsPackage package)
    (hrel : declaration.toList.head? ≠ some '/') :
    (∃ fault, resolve package declaration = .error fault) ∨
    ∃ home, resolve package declaration = .ok home ∧
      (IsPackage home ↔ declaration = "." ∨ ∃ d : Relative, declaration = d.text) := by
  by_cases hne : declaration = ""
  · exact .inl ⟨.empty, by rw [hne]; rfl⟩
  by_cases hdot : declaration = "."
  · exact .inr ⟨package, by rw [hdot]; rfl, iff_of_true hp (.inl hdot)⟩
  rw [resolve_of_relative hne hdot hrel, or_iff_right hdot]
  cases hclimb : climb (segments package).reverse (dropHere declaration.toList) with
  | none => exact .inl ⟨_, rfl⟩
  | some stop =>
    obtain ⟨outer, relative⟩ := stop
    -- What is left of the package is one itself, so all depends on what is put below it.
    obtain ⟨n, hups, houter⟩ := exists_ups_of_climb hclimb
    obtain ⟨names, hnames, rfl⟩ := hp
    have hbase : IsPackage (".".intercalate outer.reverse) := by
      refine .of_names fun s hs => hnames s ?_
      rw [houter, segments_intercalate hnames, List.mem_reverse] at hs
      exact List.mem_reverse.1 (List.mem_of_mem_drop hs)
    refine .inr ⟨_, rfl, (isPackage_under_iff hbase).trans ⟨exists_relative hrel hups, ?_⟩⟩
    rintro ⟨d, rfl⟩
    rw [d.dropHere_text, climb_ups d.head?_rest] at hclimb
    split at hclimb
    · cases hclimb
    · cases hclimb
      rw [d.dotted_rest]
      exact .of_names d.joined.isSegment

/-- Two dots without a slash are no step up: they end up in the package. -/
theorem not_isPackage_of_bare_dots :
    resolve "a.b.c" ".." = .ok "a.b.c..." ∧ ¬IsPackage "a.b.c..." ∧
    ¬∃ d : Relative, ".." = d.text := by
  have hresolve : resolve "a.b.c" ".." = .ok "a.b.c..." := by decide
  have hmalformed : ¬IsPackage "a.b.c..." := by
    rw [isPackage_iff]
    decide
  refine ⟨hresolve, hmalformed, fun hd => ?_⟩
  have hp : IsPackage "a.b.c" := isPackage_iff.2 (by decide)
  have hrel : "..".toList.head? ≠ some '/' := by decide
  rcases isPackage_resolve_iff hp hrel with ⟨fault, h⟩ | ⟨home, h, hiff⟩
  · rw [hresolve] at h
    cases h
  · rw [hresolve] at h
    cases h
    exact hmalformed (hiff.2 (.inr hd))

end Package

end XmlBinding
