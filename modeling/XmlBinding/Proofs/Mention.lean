import XmlBinding.Proofs.Code
import XmlBinding.Proofs.Reference

/-!
# Texts that mention no other classes

The code of a builder is put together from fixed texts, from what stands for no class, and from
names of classes. Which classes it mentions shows in how it is put together: in its characters the
name of a class looks like that of a method. Where a text ends in the name of a class, what comes
behind it does not go on with a letter, so that no name is made of two.

* `Vocabulary` : what the code of a class names;
* `capitals`, `endsInCapital` : the words of a fixed text that name classes, and whether it ends in
  one;
* `Silent v` : texts of a class that name none;
* `MentionsOnly v named` : texts that mention no classes but those of a vocabulary; `named` is
  whether they may end in the name of one;
* `MentionsOnly.simpleName`, `wrapperName`, `refName`, `builderCall`, `callOf` : names of types and
  calls;
* `MentionsOnly.accessText`, `lineText`, `blockText`, … : statements and lines;
* `Emission.Settles.pairwise_imports` : imports are in ascending order;
* `Covers` : a class whose imports are all those of what its body mentions, and no others;
  `Dialect.Assembles.covers`.
-/

namespace XmlBinding

/-- What the code of a class names: methods that it defines or calls, the documentation before
methods with what is filled in, and classes. -/
structure Vocabulary where
  scope : Scope
  style : AccessStyle
  methods : List MethodRef
  documented : List MethodRef
  classes : List Reference

variable {v : Vocabulary} {named : Bool} {p : Property} {t : JavaType} {s u : String}

/-! ## Fixed texts -/

/-- Characters that words of fixed texts are made of. -/
def isLetterOfWord (c : Char) : Bool := c.isAlphanum || c == '_' || c == '$'

def words (cs : List Char) : List (List Char) := cs.splitOnP fun c => !isLetterOfWord c

/-- A word that begins with a capital stands for a class. -/
def isCapital (w : List Char) : Bool := w.head?.any Char.isUpper

def capitals (cs : List Char) : List String := ((words cs).filter isCapital).map String.ofList

/-- Whether a text ends within a word that begins with a capital, or right behind one. -/
def endsInCapital (cs : List Char) : Bool := (words cs).getLast?.any isCapital

theorem endsInCapital_of_capitals_nil {cs : List Char} (h : capitals cs = []) :
    endsInCapital cs = false := by
  have hnone : ∀ w ∈ words cs, ¬isCapital w = true :=
    List.filter_eq_nil_iff.1 (List.map_eq_nil_iff.1 h)
  unfold endsInCapital
  cases hlast : (words cs).getLast? with
  | none => rfl
  | some w => exact Bool.eq_false_iff.2 (hnone w (List.mem_of_getLast? hlast))

/-- A text that begins with something else than a letter of a word. -/
def StandsApart (s : String) : Prop :=
  ∃ c cs, s = String.ofList (c :: cs) ∧ isLetterOfWord c = false

theorem StandsApart.append (h : StandsApart s) (u : String) : StandsApart (s ++ u) := by
  obtain ⟨c, cs, rfl, hc⟩ := h
  exact ⟨c, cs ++ u.toList, String.toList_injective (by simp), hc⟩

theorem standsApart_openBrace (c : Config) (level : Nat) : StandsApart (c.openBrace level) := by
  unfold Config.openBrace
  split
  · exact .append (.append ⟨_, _, rfl, rfl⟩ _) _
  · exact ⟨_, _, rfl, rfl⟩

/-! ## Texts of a class -/

/-- The variable for types in methods that are generic. -/
def typeVariable : String := "T"

/-- Texts of a class that name no class: the layout, documentation, the names of methods and of
nodes, and those by which properties are got at. -/
inductive Silent (v : Vocabulary) : String → Prop
  | indent (level : Nat) : Silent v (v.scope.session.config.indent level)
  | brace (level : Nat) : Silent v (v.scope.session.config.openBrace level)
  | documentation {key : String} {args : List String} (h : ⟨key, args⟩ ∈ v.documented) :
    Silent v (v.scope.session.methodLead key args v.style.methodLevel)
  | method {key : String} {args : List String} (h : ⟨key, args⟩ ∈ v.methods) :
    Silent v (v.scope.nameOf key args)
  | root : Silent v v.scope.frame.node
  | node {p : Property} (hp : p ∈ v.scope.frame.attributes ++ v.scope.frame.elements) :
    Silent v p.node.name
  | key : Silent v mapKeyAttribute
  | entry : Silent v entryElement
  | property {p : Property} (hp : p ∈ v.scope.frame.attributes ++ v.scope.frame.elements) :
    Silent v p.name
  | getter {p : Property} (hp : p ∈ v.scope.frame.attributes ++ v.scope.frame.elements) :
    Silent v p.getter
  | setter {p : Property} (hp : p ∈ v.scope.frame.attributes ++ v.scope.frame.elements)
    {setter : String} (h : p.setter = some setter) : Silent v setter

/-- Texts put together from silent ones, from names of references, and from fixed ones. A fixed text
names classes of libraries, whose names begin with capitals: they are those of references too. What
comes behind the name of a class, or behind a capital, stands apart. -/
inductive MentionsOnly (v : Vocabulary) : Bool → String → Prop
  | silent {named : Bool} {s : String} (h : Silent v s) : MentionsOnly v named s
  | name {r : Reference} (h : r ∈ v.classes) : MentionsOnly v true r.name
  | fixed {named : Bool} {cs : List Char}
    (h : ∀ w ∈ capitals cs, w = typeVariable ∨ ∃ r ∈ v.classes, r.name = w)
    (hend : endsInCapital cs = true → named = true) : MentionsOnly v named (String.ofList cs)
  | append {named : Bool} {s u : String} (hs : MentionsOnly v false s)
    (hu : MentionsOnly v named u) : MentionsOnly v named (s ++ u)
  | apart {named : Bool} {s u : String} (h : StandsApart u) (hs : MentionsOnly v true s)
    (hu : MentionsOnly v named u) : MentionsOnly v named (s ++ u)

namespace MentionsOnly

/-- A text that ends in no name of a class is one that may. -/
theorem loosen (h : MentionsOnly v false s) : MentionsOnly v named s := by
  cases named with
  | false => exact h
  | true =>
    generalize hend : false = ends at h
    induction h with
    | silent h => exact silent h
    | name h => exact name h
    | fixed h => exact fixed h fun _ => rfl
    | append hs _ _ ihu => exact append hs (ihu hend)
    | apart h hs _ _ ihu => exact apart h hs (ihu hend)

/-- A fixed text without words that begin with capitals. Its characters are found by unification
with the literal. -/
theorem plain {cs : List Char} (h : capitals cs = []) :
    MentionsOnly v named (String.ofList cs) :=
  .fixed (fun _ hw => absurd (h ▸ hw) List.not_mem_nil) fun hend =>
    absurd (endsInCapital_of_capitals_nil h ▸ hend) Bool.false_ne_true

/-- A fixed text whose words that begin with capitals are names of some of the references. -/
theorem of_subset {l : List Reference} (hl : l ⊆ v.classes) {cs : List Char}
    (h : ∀ w ∈ capitals cs, w = typeVariable ∨ w ∈ l.map Reference.name)
    (hend : endsInCapital cs = true → named = true) :
    MentionsOnly v named (String.ofList cs) := by
  refine .fixed (fun w hw => (h w hw).imp_right fun hn => ?_) hend
  obtain ⟨r, hr, hname⟩ := List.mem_map.1 hn
  exact ⟨r, hl hr, hname⟩

theorem empty : MentionsOnly v named "" := plain rfl

/-- A fixed text that begins with no letter of a word may come behind the name of a class. -/
theorem delimited {c : Char} {cs : List Char} (hc : isLetterOfWord c = false)
    (hs : MentionsOnly v true s) (hu : MentionsOnly v named (String.ofList (c :: cs))) :
    MentionsOnly v named (s ++ String.ofList (c :: cs)) :=
  .apart ⟨c, cs, rfl, hc⟩ hs hu

theorem join {l : List String} (h : ∀ s ∈ l, MentionsOnly v false s) :
    MentionsOnly v false (String.join l) := by
  induction l with
  | nil => exact empty
  | cons s l ih =>
    rw [String.join_cons]
    exact (h s List.mem_cons_self).append (ih fun u hu => h u (List.mem_cons_of_mem s hu))

/-! ## Lines -/

theorem lineText (h : MentionsOnly v true s) (level : Nat) :
    MentionsOnly v false (v.scope.session.config.lineText level s) :=
  .delimited rfl ((silent (.indent level)).append h) (plain rfl)

theorem linesText {lines : List String} (h : ∀ s ∈ lines, MentionsOnly v true s) (level : Nat) :
    MentionsOnly v false (v.scope.session.config.linesText level lines) := by
  refine join fun l hl => ?_
  obtain ⟨s, hs, rfl⟩ := List.mem_map.1 hl
  exact (h s hs).lineText level

theorem blockText (h : MentionsOnly v true s) (level : Nat) :
    MentionsOnly v false (v.scope.session.config.blockText level s) :=
  .apart (standsApart_openBrace _ level) ((silent (.indent level)).append h)
    (silent (.brace level))

/-! ## Names of types -/

theorem simpleName (h : t.references ⊆ v.classes) : MentionsOnly v true t.simpleName := by
  induction t with
  | primitive p => cases p <;> exact plain rfl
  | reference q => exact name (h (List.mem_singleton.2 rfl))
  | array c ih => exact .delimited rfl (ih h) (plain rfl)

theorem wrapperName (h : t.wrapperReferences ⊆ v.classes) : MentionsOnly v true t.wrapperName := by
  cases t with
  | primitive p => exact name (r := .implicit "java.lang" p.wrapper) (h (List.mem_singleton.2 rfl))
  | reference q => exact simpleName h
  | array c => exact simpleName h

/-- The name of the class generated for an entity. -/
theorem refName {target : Target} (he : v.scope.session.isEntity t = true)
    (h : v.scope.session.references target t ⊆ v.classes) :
    MentionsOnly v true (v.scope.session.refName target t) := by
  obtain ⟨e, he⟩ := Option.isSome_iff_exists.1 he
  unfold Session.references at h
  unfold Session.refName
  rw [he] at h ⊢
  exact name (h (List.mem_singleton.2 rfl))

section Calls
variable {sep : String} (hsep : MentionsOnly v false sep) (hapart : StandsApart sep)
include hsep hapart

/-- The call of a method of the builder of an entity. -/
theorem builderCall (he : v.scope.session.isEntity t = true) (h : v.scope.builders t ⊆ v.classes)
    {key : String} (hm : ⟨key, []⟩ ∈ v.methods) :
    MentionsOnly v named (v.scope.builderName t ++ sep ++ v.scope.nameOf key []) :=
  .append (.apart hapart (refName he h) hsep) (silent (.method hm))

theorem callOf (h : v.scope.builders t ⊆ v.classes) {standing helper : String}
    {args : List String} (hstanding : ⟨standing, []⟩ ∈ v.methods)
    (hhelper : v.scope.session.isEntity t = false → ⟨helper, args⟩ ∈ v.methods) :
    MentionsOnly v named (v.scope.callOf t sep standing helper args) := by
  unfold Scope.callOf
  split
  · next he => exact builderCall hsep hapart he h hstanding
  · next he => exact silent (.method (hhelper (Bool.eq_false_iff.2 he)))

end Calls

/-! ## Access -/

theorem dom4jAccessor (node : NodeBinding) (placement : Option Placement) :
    MentionsOnly v named (AccessStyle.dom4jAccessor node placement) := by
  unfold AccessStyle.dom4jAccessor
  split
  · exact plain rfl
  · split <;> exact plain rfl

theorem e4xPath (hp : p ∈ v.scope.frame.attributes ++ v.scope.frame.elements) :
    MentionsOnly v named p.node.e4xPath := by
  unfold NodeBinding.e4xPath
  split
  · have hpath : String.ofList (NodeBinding.attributeSigil :: p.node.name.toList) =
        "@" ++ p.node.name := String.toList_injective (by simp [NodeBinding.attributeSigil])
    rw [hpath]
    exact append (plain rfl) (silent (.node hp))
  · exact silent (.node hp)

/-- An access to a property of the frame, or to a value. -/
theorem accessText {style : AccessStyle}
    (hp : style.isPrimary = true → p ∈ v.scope.frame.attributes ++ v.scope.frame.elements)
    {var lead tail : String} (hvar : MentionsOnly v false var) (hlead : MentionsOnly v false lead)
    (htail : MentionsOnly v false tail) (placement : Option Placement) :
    MentionsOnly v false (v.scope.accessText style var p lead tail placement) := by
  unfold Scope.accessText AccessStyle.access?
  cases style with
  | dom4j =>
    cases hs : p.setter with
    | none => exact empty
    | some setter =>
      have hset : MentionsOnly v false setter := silent (.setter (hp rfl) hs)
      have hnode : MentionsOnly v false p.node.name := silent (.node (hp rfl))
      simp only [Option.map_some, Option.getD_some]
      -- Only `++` is taken apart, so that texts which stand for names stay whole.
      repeat' with_reducible refine append ?_ ?_
      all_goals first
        | assumption | exact silent (.indent _) | exact dom4jAccessor _ _ | exact plain rfl
  | dom4jText =>
    exact append (append (append hlead hvar) (plain rfl)) htail
  | dom4jKey =>
    have hkey : MentionsOnly v false mapKeyAttribute := silent .key
    simp only [Option.getD_some]
    repeat' with_reducible refine append ?_ ?_
    all_goals first | assumption | exact plain rfl
  | as3 =>
    dsimp only
    split
    · exact empty
    · have hname : MentionsOnly v false p.name := silent (.property (hp rfl))
      have hpath : MentionsOnly v false p.node.e4xPath := e4xPath (hp rfl)
      simp only [Option.getD_some]
      repeat' with_reducible refine append ?_ ?_
      all_goals first | assumption | exact silent (.indent _) | exact plain rfl
  | as3Text => exact append (append hlead hvar) htail

theorem ofProperties {J : Type} {d : Direction} {x : Property → Addition J} {ps : List Property}
    (h : ∀ p ∈ ps, p.takesPart d = true → MentionsOnly v false (x p).text) :
    MentionsOnly v false (Addition.ofProperties d x ps).text := by
  unfold Addition.ofProperties
  rw [Addition.text_concat, List.map_map]
  refine join fun l hl => ?_
  obtain ⟨p, hp, rfl⟩ := List.mem_map.1 hl
  obtain ⟨hp, hd⟩ := List.mem_filter.1 hp
  exact h p hp hd

end MentionsOnly

/-! ## Imports -/

/-- Whether code in a package names a class without an import: one of those known of `java.lang`,
one of the package itself, or one of no package. -/
def SeenFrom (package q : String) : Prop :=
  q ∈ langClasses ∨ packageOf q = package ∨ packageOf q = ""

/-- A type that is not imported where it is named is one of `java.lang`. -/
theorem JavaType.mem_langClasses {r : Reference} (h : r ∈ t.references)
    (hr : r.importable = false) : r.qualified ∈ langClasses := by
  induction t with
  | primitive p => cases h
  | array c ih => exact ih h
  | reference q =>
    rw [List.mem_singleton.1 h] at hr ⊢
    exact List.contains_iff_mem.1 (by simpa using hr)

theorem JavaType.mem_langClasses_wrapper {r : Reference} (h : r ∈ t.wrapperReferences)
    (hr : r.importable = false) : r.qualified ∈ langClasses := by
  cases t with
  | primitive p =>
    rw [List.mem_singleton.1 h]
    cases p <;> decide
  | reference q => exact mem_langClasses h hr
  | array c => exact mem_langClasses h hr

theorem Session.importable_of_mem_references {s : Session} {target : Target} {r : Reference}
    (h : r ∈ s.references target t) : r.importable = true := by
  unfold references at h
  cases he : s.entity? t with
  | none =>
    rw [he] at h
    cases h
  | some e =>
    rw [he] at h
    rw [List.mem_singleton.1 h]

/-- The imports of a class and its body fit: the imports are in ascending order, none is of a class
in the same package or in none, the body mentions no classes but those of its vocabulary, and what
they are meant for is imported, unless it is seen without. -/
structure Covers (v : Vocabulary) (imports : List String) (body source : String) : Prop where
  ascending : imports.Pairwise (· < ·)
  foreign : ∀ q ∈ imports, packageOf q ≠ "" ∧ packageOf q ≠ v.scope.frame.package
  mentions : MentionsOnly v false body
  occurs : ∀ r ∈ v.classes, Occurs r.name source
  imported : ∀ r ∈ v.classes,
    r.qualified ∈ imports ∨ SeenFrom v.scope.frame.package r.qualified

/-- A class whose methods and helpers mention no classes but those of its references, for which it
has its imports. -/
theorem Dialect.Assembles.covers {H X : Type} {d : Dialect (H ⊕ X)} {s : Session} {f : ClassFrame}
    {x : Addition (H ⊕ X)} {make : H ⊕ X → Addition (H ⊕ X)} {c : GeneratedClass}
    {identity : H → HelperId} {asked : List H} {passing : List Reference}
    (h : d.Assembles s f x make c) (hv : v.scope = ⟨s, f, d.target⟩)
    (hx : x.asks = asked.map fun j => ⟨identity j, .inl j⟩)
    (hasked : ∀ j, ∀ a ∈ (make j).asks, (make a.job).uses = [] ∧ (make a.job).asks = [])
    (huses : ∀ q, q ∈ (v.classes ++ passing).flatMap (·.uses ⟨s, f, d.target⟩) ↔
      q ∈ d.baseImports.flatMap (Scope.usesOf ⟨s, f, d.target⟩) ∨ q ∈ x.uses ∨
        ∃ j ∈ asked, q ∈ (make (.inl (servedBy identity asked j))).uses)
    (hmethods : MentionsOnly v false x.text)
    (hhelpers : ∀ j ∈ asked, MentionsOnly v false (make (.inl (servedBy identity asked j))).text ∧
      ∀ a ∈ (make (.inl (servedBy identity asked j))).asks, MentionsOnly v false (make a.job).text)
    (hoccurs : ∀ r ∈ v.classes, Occurs r.name c.source)
    (hseen : ∀ r ∈ v.classes, r.importable = false → SeenFrom f.package r.qualified) :
    ∃ imports body, c = d.assemble s f imports body ∧ Covers v imports body c.source := by
  obtain ⟨scope, style, methods, documented, classes⟩ := v
  subst hv
  obtain ⟨imports, jobs, rfl, hascending, hlisted, hjobs⟩ :=
    h.exists_referred hx (fun j a ha => (hasked j a ha).1) huses
  refine ⟨imports, _, rfl, hascending, fun q hq => ?_, hmethods.append (.join fun l hl => ?_),
    hoccurs, fun r hr => ?_⟩
  · obtain ⟨r, -, hi, rfl⟩ := (hlisted q).1 hq
    exact hi.2
  · obtain ⟨j, hj, rfl⟩ := List.mem_map.1 hl
    rcases hjobs j hj with ⟨k, hk, rfl⟩ | ⟨i, hi, a, ha, rfl⟩
    · exact (hhelpers k hk).1
    · -- What is asked for in turn asks for nothing, so that `i` is asked for by the methods.
      rcases hjobs i hi with ⟨k, hk, rfl⟩ | ⟨i', -, b, hb, rfl⟩
      · exact (hhelpers k hk).2 a ha
      · rw [(hasked i' b hb).2] at ha
        cases ha
  · cases hr' : r.importable with
    | false => exact .inr (hseen r hr hr')
    | true =>
      by_cases hnone : packageOf r.qualified = ""
      · exact .inr (.inr (.inr hnone))
      · by_cases hown : packageOf r.qualified = f.package
        · exact .inr (.inr (.inl hown))
        · exact .inl ((hlisted _).2 ⟨r, List.mem_append_left _ hr, ⟨hr', hnone, hown⟩, rfl⟩)

end XmlBinding
