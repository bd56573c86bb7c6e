import XmlBinding.Proofs.Bracket
import XmlBinding.Proofs.Catalog.Builtin
import XmlBinding.Proofs.Path

/-!
# Brackets in names and documentation

A template may have brackets, those of its placeholders among them, as long as they are balanced.

* `Template.excess_fill` : to fill a template leaves its brackets as they are;
* `excess_docComment` : so does to write a text as documentation;
* `Catalog.IsBalanced`, `isBalanced_load` : a catalog whose templates are balanced.
-/

namespace XmlBinding

/-! ## Templates -/

namespace Template

variable {k : Bracket} {args : List String} {tail rest : List Char} {arg : String}

theorem isBracket_of_isDigit {c : Char} (h : c.isDigit = true) : isBracket c = false :=
  isBracket_eq_false (by decide) h

/-- A placeholder closes the brace it opens. -/
theorem leaves_placeholder (h : placeholder? args tail = some (arg, rest)) :
    arg ∈ args ∧ k.leaves ('\x7b' :: tail) = k.leaves rest := by
  obtain ⟨digits, hselects, rfl⟩ := placeholder?_eq_some_iff.1 h
  refine ⟨List.mem_of_getElem? hselects.arg_eq, ?_⟩
  have hdigits : k.leaves digits = 1 :=
    Bracket.leaves_of_not_isBracket fun c hc => isBracket_of_isDigit (hselects.isDigit c hc)
  have hbraces : k.leaves ['\x7b'] * k.leaves ['\x7d'] = 1 := by cases k <;> rfl
  have htail : '\x7b' :: (digits ++ '\x7d' :: rest) = ['\x7b'] ++ digits ++ ['\x7d'] ++ rest := by
    simp
  rw [htail, k.leaves_append, k.leaves_append, k.leaves_append, hdigits, mul_one, hbraces, one_mul]

/-- Arguments without partnerless brackets leave a template as balanced as it is. -/
theorem excess_fill (h : ∀ a ∈ args, excess k a = 1) (template : String) :
    excess k (fill args template) = excess k template := by
  have hcons (c : Char) (cs : List Char) : k.leaves (c :: cs) = k.weight c * k.leaves cs :=
    List.prod_cons
  unfold fill
  rw [excess_ofList, excess]
  fun_induction fillChars args template.toList with
  | case1 => rfl
  | case2 tail arg rest hplaceholder ih =>
    obtain ⟨harg, hrest⟩ := leaves_placeholder (k := k) hplaceholder
    have hone : k.leaves arg.toList = 1 := h arg harg
    rw [k.leaves_append, hone, one_mul, ih, hrest]
  | case3 tail _ ih => rw [hcons, hcons, ih]
  | case4 c tail _ ih => rw [hcons, hcons, ih]

end Template

/-! ## Documentation -/

namespace Text

variable {k : Bracket}

theorem prod_leaves_cut (sep : Char) (h : isBracket sep = false) (cs : List Char) :
    ((cut sep cs).map k.leaves).prod = k.leaves cs := by
  have hcons (c : Char) (cs : List Char) : k.leaves (c :: cs) = k.weight c * k.leaves cs :=
    List.prod_cons
  induction cs with
  | nil => rfl
  | cons c cs ih =>
    unfold cut
    rw [hcons, ← ih]
    split
    · next hc =>
      rw [List.map_cons, List.prod_cons, hc, Bracket.weight_of_not_isBracket h]
      rfl
    · cases hcut : cut sep cs with
      | nil => exact absurd hcut (cut_ne_nil sep cs)
      | cons first others =>
        rw [List.map_cons, List.map_cons, List.prod_cons, List.prod_cons, hcons, mul_assoc]

theorem leaves_dropReturn (line : List Char) : k.leaves (dropReturn line) = k.leaves line := by
  unfold dropReturn
  split
  · next hlast =>
    have hreturn : k.weight '\r' = 1 := Bracket.weight_of_not_isBracket (by decide)
    obtain ⟨front, rfl⟩ := List.getLast?_eq_some_iff.1 hlast
    rw [List.dropLast_concat, k.leaves_append, k.leaves_singleton, hreturn, mul_one]
  · rfl

/-- The lines of a text leave what the text leaves. -/
theorem prod_excess_linesOf (k : Bracket) (s : String) :
    ((linesOf s).map (excess k)).prod = excess k s := by
  have hlines (ls : List (List Char)) :
      ((ls.map String.ofList).map (excess k)).prod = (ls.map k.leaves).prod := by
    rw [List.map_map]
    exact congrArg List.prod (List.map_congr_left fun cs _ => excess_ofList k cs)
  have hlast (l : List Char) :
      ((if l.isEmpty then [] else [l]).map k.leaves).prod = k.leaves l := by
    cases l with
    | nil => rfl
    | cons c cs => exact List.prod_singleton
  have hreturns (ls : List (List Char)) :
      ((ls.map dropReturn).map k.leaves).prod = (ls.map k.leaves).prod := by
    rw [List.map_map]
    exact congrArg List.prod (List.map_congr_left fun l _ => leaves_dropReturn l)
  have hparts : (cut '\n' s.toList).dropLast ++ [(cut '\n' s.toList).getLastD []] =
      cut '\n' s.toList := by
    rw [List.getLastD_eq_getLast?, List.getLast?_eq_some_getLast (cut_ne_nil _ _)]
    exact List.dropLast_concat_getLast (cut_ne_nil _ _)
  unfold linesOf
  rw [hlines, List.map_append, List.prod_append, hreturns, hlast, excess,
    ← prod_leaves_cut '\n' (by decide) s.toList]
  conv_rhs => rw [← hparts, List.map_append, List.prod_append]
  rw [List.map_singleton, List.prod_singleton]

end Text

/-- Documentation leaves the brackets of its text as they are. -/
theorem excess_docComment {c : Config} (hc : c.IsPlain) {k : Bracket} (text : String)
    (level : Nat) : excess k (docComment c text level) = excess k text := by
  have hline (l : String) : excess k (if l.isEmpty then c.indent level ++ " *\n"
      else c.indent level ++ " * " ++ l ++ "\n") = excess k l := by
    split
    · next hempty =>
      rw [String.isEmpty_iff.1 hempty, excess_append, Config.excess_indent hc]
      cases k <;> rfl
    · have hstar : excess k " * " = 1 := by cases k <;> rfl
      have hend : excess k "\n" = 1 := by cases k <;> rfl
      simp only [excess_append, Config.excess_indent hc, hstar, hend, one_mul, mul_one]
  unfold docComment
  dsimp only
  simp only [excess_append, excess_join, List.map_map, Config.excess_indent hc, one_mul]
  have hlines : ((Text.linesOf text).map (excess k ∘ fun l => if l.isEmpty then
      c.indent level ++ " *\n" else c.indent level ++ " * " ++ l ++ "\n")).prod =
      excess k text := by
    rw [← Text.prod_excess_linesOf]
    exact congrArg List.prod (List.map_congr_left fun l _ => hline l)
  have hstart : excess k "/**\n" = 1 := by cases k <;> rfl
  have hend : excess k " */\n" = 1 := by cases k <;> rfl
  rw [hlines, hstart, hend, one_mul, mul_one, mul_one]

/-! ## Catalogs -/

namespace Catalog

/-- The templates of a method have balanced brackets. -/
structure MethodText.IsBalanced (m : MethodText) : Prop where
  name : XmlBinding.IsBalanced (m.name.getD "")
  doc : XmlBinding.IsBalanced (m.doc.getD "")

/-- The templates of a layer have balanced brackets. -/
structure Bundle.IsBalanced (b : Bundle) : Prop where
  classes : ∀ entry ∈ b.classes, XmlBinding.IsBalanced entry.2
  methods : ∀ entry ∈ b.methods, entry.2.IsBalanced

/-- The templates of a catalog have balanced brackets. -/
structure IsBalanced (c : Catalog) : Prop where
  classes : ∀ key template, c.classes.find? key = some template → XmlBinding.IsBalanced template
  methods : ∀ key text, c.methods.find? key = some text → text.IsBalanced

theorem MethodText.IsBalanced.over {later : MethodText} {earlier : Option MethodText}
    (hl : later.IsBalanced) (he : ∀ m, earlier = some m → m.IsBalanced) :
    (later.over earlier).IsBalanced := by
  have hchoice (f : MethodText → Option String)
      (hf : ∀ m : MethodText, m.IsBalanced → XmlBinding.IsBalanced ((f m).getD "")) :
      XmlBinding.IsBalanced ((f later <|> earlier.bind f).getD "") := by
    have hlater := hf later hl
    cases hown : f later with
    | some template => rwa [hown] at hlater
    | none =>
      cases earlier with
      | none => exact .empty
      | some m => exact hf m (he m rfl)
  exact ⟨hchoice (·.name) fun _ => (·.name), hchoice (·.doc) fun _ => (·.doc)⟩

theorem isBalanced_classes_foldl {entries : List (String × String)}
    (hentries : ∀ entry ∈ entries, XmlBinding.IsBalanced entry.2) {m : SortedMap String String}
    (hm : ∀ key template, m.find? key = some template → XmlBinding.IsBalanced template)
    (key template : String)
    (h : (entries.foldl (fun m (key, template) => m.insert key template) m).find? key =
      some template) : XmlBinding.IsBalanced template := by
  induction entries generalizing m with
  | nil => exact hm key template h
  | cons entry entries ih =>
    refine ih (fun e he => hentries e (List.mem_cons_of_mem entry he)) (fun k t ht => ?_) h
    rw [SortedMap.find?_insert] at ht
    split at ht
    · cases ht
      exact hentries entry List.mem_cons_self
    · exact hm k t ht

theorem isBalanced_methods_foldl {entries : List (String × MethodText)}
    (hentries : ∀ entry ∈ entries, entry.2.IsBalanced) {m : SortedMap String MethodText}
    (hm : ∀ key text, m.find? key = some text → text.IsBalanced) (key : String) (text : MethodText)
    (h : (entries.foldl (fun m (key, text) => m.alter key text.over) m).find? key = some text) :
    text.IsBalanced := by
  induction entries generalizing m with
  | nil => exact hm key text h
  | cons entry entries ih =>
    refine ih (fun e he => hentries e (List.mem_cons_of_mem entry he)) (fun k t ht => ?_) h
    rw [SortedMap.find?_alter] at ht
    split at ht
    · cases ht
      exact (hentries entry List.mem_cons_self).over (hm entry.1)
    · exact hm k t ht

theorem IsBalanced.overlay {c : Catalog} (hc : c.IsBalanced) {b : Bundle} (hb : b.IsBalanced) :
    (c.overlay b).IsBalanced :=
  ⟨isBalanced_classes_foldl hb.classes hc.classes, isBalanced_methods_foldl hb.methods hc.methods⟩

theorem isBalanced_english : english.IsBalanced := by
  constructor
  · unfold english
    simp only [List.forall_mem_cons, List.not_mem_nil, false_implies, implies_true, and_true]
    and_intros
    all_goals exact isBalanced_ofList fun k => by cases k <;> decide +kernel
  · unfold english
    simp only [List.forall_mem_cons, List.not_mem_nil, false_implies, implies_true, and_true]
    and_intros
    all_goals exact ⟨isBalanced_ofList fun k => by cases k <;> decide +kernel,
      isBalanced_ofList fun k => by cases k <;> decide +kernel⟩

theorem isBalanced_french : french.IsBalanced := by
  constructor
  · unfold french
    simp only [List.forall_mem_cons, List.not_mem_nil, false_implies, implies_true, and_true]
    and_intros
    all_goals exact isBalanced_ofList fun k => by cases k <;> decide +kernel
  · unfold french
    simp only [List.forall_mem_cons, List.not_mem_nil, false_implies, implies_true, and_true]
    and_intros
    all_goals exact ⟨.empty, isBalanced_ofList fun k => by cases k <;> decide +kernel⟩

theorem isBalanced_of_builtin? {locale : String} {b : Bundle} (h : builtin? locale = some b) :
    b.IsBalanced := by
  rcases builtin?_eq h with rfl | rfl
  · exact isBalanced_english
  · exact isBalanced_french

theorem isBalanced_of_mem_layers {locale : String} {user : Option Bundle}
    (hu : ∀ b, user = some b → b.IsBalanced) {b : Bundle} (hb : b ∈ layers locale user) :
    b.IsBalanced := by
  rcases mem_stack_iff.1 (mem_layers_iff.1 hb) with rfl | hb | hb | hb
  · exact isBalanced_english
  · exact isBalanced_of_builtin? hb
  · exact isBalanced_of_builtin? hb
  · exact hu b hb

/-- A catalog is balanced where the layer of the user is. -/
theorem isBalanced_load (locale : String) {user : Option Bundle}
    (hu : ∀ b, user = some b → b.IsBalanced) : (load locale user).IsBalanced := by
  have hfold (bs : List Bundle) (hbs : ∀ b ∈ bs, b.IsBalanced) {c : Catalog} (hc : c.IsBalanced) :
      (bs.foldl Catalog.overlay c).IsBalanced := by
    induction bs generalizing c with
    | nil => exact hc
    | cons b bs ih =>
      exact ih (fun b' hb' => hbs b' (List.mem_cons_of_mem b hb'))
        (hc.overlay (hbs b List.mem_cons_self))
  unfold load
  dsimp only
  generalize Locale.normalize locale = normal
  refine hfold _ (fun b hb => isBalanced_of_mem_layers hu hb) ⟨?_, ?_⟩
  · exact fun _ _ h => (nomatch h)
  · exact fun _ _ h => (nomatch h)

/-! ## Names and documentation -/

section Filled
variable {c : Catalog} (hc : c.IsBalanced) {args : List String}
  (hargs : ∀ a ∈ args, XmlBinding.IsBalanced a)
include hc hargs

theorem isBalanced_nameOf (key : String) : XmlBinding.IsBalanced (c.nameOf key args) := by
  unfold nameOf nameTemplate?
  cases hm : c.methods.find? key with
  | none => exact .empty
  | some m =>
    have hname := (hc.methods key m hm).name
    show XmlBinding.IsBalanced ((m.name.map (Template.fill args)).getD "")
    cases ht : m.name with
    | none => exact .empty
    | some template =>
      rw [ht] at hname
      exact isBalanced_iff.2 fun k =>
        (Template.excess_fill (fun a ha => (hargs a ha).excess k) template).trans (hname.excess k)

theorem isBalanced_methodDoc? {key doc : String} (h : c.methodDoc? key args = some doc) :
    XmlBinding.IsBalanced doc := by
  unfold methodDoc? at h
  obtain ⟨template, htemplate, rfl⟩ := Option.map_eq_some_iff.1 h
  obtain ⟨m, hm, hdoc⟩ := Option.bind_eq_some_iff.1 htemplate
  have hbalanced := (hc.methods key m hm).doc
  rw [hdoc] at hbalanced
  exact isBalanced_iff.2 fun k =>
    (Template.excess_fill (fun a ha => (hargs a ha).excess k) template).trans (hbalanced.excess k)

theorem isBalanced_classDoc? {key doc : String} (h : c.classDoc? key args = some doc) :
    XmlBinding.IsBalanced doc := by
  unfold classDoc? at h
  obtain ⟨template, htemplate, rfl⟩ := Option.map_eq_some_iff.1 h
  exact isBalanced_iff.2 fun k => (Template.excess_fill (fun a ha => (hargs a ha).excess k)
    template).trans ((hc.classes key template htemplate).excess k)

end Filled

end Catalog

end XmlBinding
