import XmlBinding.Proofs.Description
import XmlBinding.Proofs.Generator.Files
import XmlBinding.Proofs.Name

/-!
# Classes below their roots

Nothing but the texts that place a class keeps its file below the root of its side. What surrounds
the names of classes may hold separators, and a rooted declaration is taken as it stands.

* `Path.IsBelow root` : the root, then a relative path that nowhere goes up;
* `GeneratedClass.KeepsBelow` : a class whose file is below every root, `pathFor_isBelow`; else it
  is below no relative one, `not_isBelow_pathFor`;
* `Session.KeepsBelow` : the same of the declaration and the names of an entity,
  `Places.keepsBelow_iff`;
* `Generator.Reachable.below_roots_iff` : the classes of a generator.
-/

namespace XmlBinding

/-! ## Paths -/

namespace Path

variable {p q root : Path}

/-- The root, then a relative path that nowhere goes up. -/
def IsBelow (root p : Path) : Prop :=
  ∃ q : Path, q.isAbsolute = false ∧ PathStep.parent ∉ q.components ∧ p = root.push q

/-- What separates a path from one below it. -/
def separator (p : Path) : String :=
  if p.text.isEmpty || p.text.toList.getLast? = some '/' then "" else "/"

theorem push_of_relative (hq : q.isAbsolute = false) (p : Path) :
    p.push q = ⟨p.text ++ p.separator ++ q.text⟩ := by
  unfold push separator
  rw [hq, if_neg Bool.false_ne_true]
  split
  · rw [String.append_empty]
  · rfl

theorem push_right_inj {q' : Path} (hq : q.isAbsolute = false) (hq' : q'.isAbsolute = false) :
    p.push q = p.push q' ↔ q = q' := by
  rw [push_of_relative hq, push_of_relative hq', Path.mk.injEq, String.append_right_inj]
  obtain ⟨text⟩ := q
  obtain ⟨text'⟩ := q'
  rw [Path.mk.injEq]

/-- A relative path stays below a root where it nowhere goes up. -/
theorem isBelow_push_iff (hq : q.isAbsolute = false) :
    root.IsBelow (root.push q) ↔ PathStep.parent ∉ q.components := by
  constructor
  · rintro ⟨q', hq', hup, heq⟩
    rw [(push_right_inj hq hq').1 heq]
    exact hup
  · exact fun hup => ⟨q, hq, hup, rfl⟩

/-- What is below a relative root is relative. -/
theorem IsBelow.isAbsolute (h : root.IsBelow p) (hroot : root.isAbsolute = false) :
    p.isAbsolute = false := by
  obtain ⟨q, hq, -, rfl⟩ := h
  rw [isAbsolute_push, hroot, hq, Bool.false_or]

theorem isAbsolute_eq_false_iff (s : String) :
    (⟨s⟩ : Path).isAbsolute = false ↔ s.toList.head? ≠ some '/' :=
  decide_eq_false_iff_not

/-- The parts of a text without dots do not go up. -/
theorem parent_not_mem_parts {s : String} (h : '.' ∉ s.toList) : ".." ∉ (⟨s⟩ : Path).parts := by
  intro hparts
  obtain ⟨piece, hpiece, heq⟩ := List.mem_map.1 (List.mem_of_mem_filter hparts)
  refine h (Text.mem_of_mem_cut hpiece ?_)
  rw [← String.toList_ofList (l := piece), heq]
  decide

end Path

/-! ## Generated classes -/

namespace GeneratedClass

variable {c : GeneratedClass}

/-- The name of the file of a class. -/
def file (c : GeneratedClass) : String := c.className ++ c.target.extension

/-- What keeps a class below every root: neither a segment of its package nor its name begins with a
separator, and its file nowhere goes up. -/
structure KeepsBelow (c : GeneratedClass) : Prop where
  package : ∀ n ∈ Package.segments c.package, n.toList.head? ≠ some '/'
  className : c.className.toList.head? ≠ some '/'
  file : ".." ∉ (⟨c.file⟩ : Path).parts

theorem head?_file_iff : c.file.toList.head? = some '/' ↔ c.className.toList.head? = some '/' := by
  unfold GeneratedClass.file
  rw [String.toList_append]
  cases c.className.toList with
  | nil => cases c.target <;> decide
  | cons d ds => rfl

theorem not_mem_of_mem_segments {package n : String} (hn : n ∈ Package.segments package) :
    '.' ∉ n.toList := by
  obtain ⟨piece, hpiece, rfl⟩ := List.mem_map.1 (List.mem_of_mem_filter hn)
  rw [String.toList_ofList]
  exact Text.not_mem_of_mem_cut hpiece

/-- The names that make up the path of a class. -/
def names (c : GeneratedClass) : List String := Package.segments c.package ++ [c.file]

theorem relativePath_eq_pushAll_names (c : GeneratedClass) :
    c.relativePath = Path.pushAll ⟨""⟩ c.names := relativePath_eq_pushAll c

theorem isAbsolute_relativePath_eq_false_iff :
    c.relativePath.isAbsolute = false ↔ ∀ n ∈ c.names, (⟨n⟩ : Path).isAbsolute = false := by
  rw [relativePath_eq_pushAll_names, Path.isAbsolute_pushAll]
  show List.any c.names _ = false ↔ _
  rw [List.any_eq_false]
  simp only [Bool.not_eq_true]

/-- The path of a class is relative and nowhere goes up where its texts keep it below. -/
theorem keepsBelow_iff : c.KeepsBelow ↔
    c.relativePath.isAbsolute = false ∧ PathStep.parent ∉ c.relativePath.components := by
  have hrelative : c.relativePath.isAbsolute = false ↔
      (∀ n ∈ Package.segments c.package, n.toList.head? ≠ some '/') ∧
        c.className.toList.head? ≠ some '/' := by
    rw [isAbsolute_relativePath_eq_false_iff, names, List.forall_mem_append,
      List.forall_mem_singleton]
    simp only [Path.isAbsolute_eq_false_iff, ne_eq, head?_file_iff]
  -- the segments have no dots, so that only the file goes up
  have hparts (h : c.relativePath.isAbsolute = false) :
      ".." ∈ c.relativePath.parts ↔ ".." ∈ (⟨c.file⟩ : Path).parts := by
    rw [relativePath_eq_pushAll_names,
      Path.parts_pushAll (isAbsolute_relativePath_eq_false_iff.1 h), List.mem_append,
      List.mem_flatMap]
    constructor
    · rintro (h | ⟨n, hn, hup⟩)
      · cases h
      · rcases List.mem_append.1 hn with hn | hn
        · exact absurd hup (Path.parent_not_mem_parts (not_mem_of_mem_segments hn))
        · rw [List.mem_singleton.1 hn] at hup
          exact hup
    · exact fun hup => .inr ⟨c.file, List.mem_append_right _ (List.mem_singleton_self _), hup⟩
  rw [Path.parent_mem_components_iff]
  constructor
  · rintro ⟨hpackage, hclass, hfile⟩
    have hrel := hrelative.2 ⟨hpackage, hclass⟩
    exact ⟨hrel, fun hup => hfile ((hparts hrel).1 hup)⟩
  · rintro ⟨hrel, hup⟩
    obtain ⟨hpackage, hclass⟩ := hrelative.1 hrel
    exact ⟨hpackage, hclass, fun hfile => hup ((hparts hrel).2 hfile)⟩

end GeneratedClass

namespace FileLayout

variable {c : GeneratedClass}

theorem pathFor_isBelow (h : c.KeepsBelow) (l : FileLayout) :
    (l.root c.target).IsBelow (l.pathFor c) := by
  obtain ⟨hrelative, hup⟩ := GeneratedClass.keepsBelow_iff.1 h
  exact (Path.isBelow_push_iff hrelative).2 hup

/-- The file of any other class is below no relative root. -/
theorem not_isBelow_pathFor (h : ¬c.KeepsBelow) {l : FileLayout}
    (hroot : (l.root c.target).isAbsolute = false) :
    ¬(l.root c.target).IsBelow (l.pathFor c) := by
  intro hbelow
  have hrelative := hbelow.isAbsolute hroot
  unfold FileLayout.pathFor at hrelative hbelow
  rw [Path.isAbsolute_push, hroot, Bool.false_or] at hrelative
  exact h (GeneratedClass.keepsBelow_iff.2 ⟨hrelative, (Path.isBelow_push_iff hrelative).1 hbelow⟩)

end FileLayout

/-! ## Declarations -/

namespace Package

variable {package declaration home : String}

theorem head?_of_mem_segments {n : String} (h : '/' ∉ package.toList) (hn : n ∈ segments package) :
    n.toList.head? ≠ some '/' := by
  obtain ⟨piece, hpiece, rfl⟩ := List.mem_map.1 (List.mem_of_mem_filter hn)
  rw [String.toList_ofList]
  exact fun hhead => h (Text.mem_of_mem_cut hpiece (List.mem_of_mem_head? hhead))

theorem not_mem_dotted (relative : List Char) : '/' ∉ dotted relative := by
  intro h
  obtain ⟨d, -, hd⟩ := List.mem_map.1 h
  split at hd
  · cases hd
  · next hne => exact hne hd

theorem not_mem_intercalate {l : List String} (h : ∀ s ∈ l, '/' ∉ s.toList) :
    '/' ∉ (".".intercalate l).toList := by
  induction l with
  | nil => decide
  | cons s l ih =>
    obtain ⟨hs, hl⟩ := List.forall_mem_cons.1 h
    cases l with
    | nil => rwa [String.intercalate_singleton]
    | cons t l =>
      rw [String.intercalate_cons_cons, String.toList_append, String.toList_append]
      simp only [List.mem_append, not_or]
      exact ⟨⟨hs, by decide⟩, ih hl⟩

/-- Only a rooted declaration brings separators into a package. -/
theorem resolve_undivided (hp : '/' ∉ package.toList)
    (hd : ∀ rooted, declaration.toList ≠ '/' :: rooted)
    (h : resolve package declaration = .ok home) : '/' ∉ home.toList := by
  unfold resolve at h
  split at h
  · cases h
  · next rooted hrooted => exact absurd hrooted (hd rooted)
  · cases h
    exact hp
  · split at h
    · cases h
    · next outer relative hclimb =>
      have hbase : '/' ∉ (".".intercalate outer.reverse).toList := by
        refine not_mem_intercalate fun s hs => ?_
        have hsegment : s ∈ segments package :=
          List.mem_reverse.1 ((climb_eq_some hclimb).1.subset (List.mem_reverse.1 hs))
        exact (GeneratedClass.plainName_of_mem_segments hp hsegment).1.undivided
      have hbelow : '/' ∉ (String.ofList (dotted relative)).toList := by
        rw [String.toList_ofList]
        exact not_mem_dotted relative
      dsimp only at h
      split at h
      · cases h
        exact hbase
      · split at h
        · cases h
          exact hbelow
        · cases h
          rw [String.toList_append, String.toList_append]
          simp only [List.mem_append, not_or]
          exact ⟨⟨hbase, by decide⟩, hbelow⟩

end Package

/-! ## Sessions -/

namespace Session

variable {s : Session} {e : Entity} {t : Target} {c : GeneratedClass}

/-- What keeps the class of an entity below every root: a rooted declaration has no segment that
begins with a separator, nor does the name of the class, and its file nowhere goes up. -/
structure KeepsBelow (s : Session) (e : Entity) (t : Target) : Prop where
  declaration : ∀ rooted, (s.declarationFor e t).toList = '/' :: rooted →
    ∀ n ∈ Package.segments (String.ofList rooted), n.toList.head? ≠ some '/'
  className : (s.className e t).toList.head? ≠ some '/'
  file : ".." ∉ (⟨s.className e t ++ t.extension⟩ : Path).parts

theorem not_mem_packageOf {q : String} (h : '/' ∉ q.toList) : '/' ∉ (packageOf q).toList := by
  unfold packageOf
  rw [String.toList_ofList, List.mem_reverse]
  intro hc
  exact h (List.mem_reverse.1 ((List.dropWhile_suffix _).subset (List.mem_of_mem_drop hc)))

theorem Places.resolve (h : s.Places e t c) :
    Package.resolve e.package (s.declarationFor e t) = .ok c.package := by
  have hpackage := h.package
  unfold packageFor at hpackage
  dsimp only at hpackage
  cases hresolve : Package.resolve e.package (s.declarationFor e t) with
  | error fault =>
    rw [hresolve] at hpackage
    cases hpackage
  | ok home =>
    rw [hresolve] at hpackage
    cases hpackage
    rfl

/-- Where the name of an entity has no separators, as that of every entity that is read, its class
is kept below by the texts of the session. -/
theorem Places.keepsBelow_iff (h : s.Places e t c) (he : '/' ∉ e.name.toList) :
    c.KeepsBelow ↔ s.KeepsBelow e t := by
  have hfile : c.file = s.className e t ++ t.extension := by
    unfold GeneratedClass.file
    rw [h.className, h.target]
  have hpackage : (∀ n ∈ Package.segments c.package, n.toList.head? ≠ some '/') ↔
      ∀ rooted, (s.declarationFor e t).toList = '/' :: rooted →
        ∀ n ∈ Package.segments (String.ofList rooted), n.toList.head? ≠ some '/' := by
    have hresolve := h.resolve
    by_cases hrooted : ∃ rooted, (s.declarationFor e t).toList = '/' :: rooted
    · obtain ⟨rooted, hrooted⟩ := hrooted
      have hhome : c.package = String.ofList rooted := by
        unfold Package.resolve at hresolve
        rw [hrooted] at hresolve
        exact (Except.ok.inj hresolve).symm
      rw [hhome, hrooted]
      constructor
      · intro hall rooted' heq
        cases heq
        exact hall
      · exact fun hall => hall rooted rfl
    · have hnone := not_exists.1 hrooted
      have hundivided := Package.resolve_undivided (not_mem_packageOf he) hnone hresolve
      constructor
      · exact fun _ rooted heq => absurd heq (hnone rooted)
      · exact fun _ n hn => Package.head?_of_mem_segments hundivided hn
  constructor
  · rintro ⟨hsegments, hclass, hup⟩
    rw [h.className] at hclass
    rw [hfile] at hup
    exact ⟨hpackage.1 hsegments, hclass, hup⟩
  · rintro ⟨hdeclaration, hclass, hup⟩
    rw [← h.className] at hclass
    rw [← hfile] at hup
    exact ⟨hpackage.2 hdeclaration, hclass, hup⟩

end Session

/-! ## Generators -/

namespace Generator

variable {config : Config} {user : Option Catalog.Bundle} {g : Generator}

/-- A class of a run that succeeds is written below its root, whatever the roots are, where its
texts keep it there, and else below no relative root. Where the name of its entity has no
separators, the declaration and the names of the session decide. -/
theorem Reachable.below_roots_iff (hg : Reachable config user g) {count : Nat}
    (hrun : g.produce.outcome = .ok count) :
    List.Forall₂ (fun (o : Entity × Target) c => g.session.Places o.1 o.2 c ∧
        (c.KeepsBelow → ∀ l : FileLayout, (l.root o.2).IsBelow (l.pathFor c)) ∧
        (¬c.KeepsBelow → ∀ l : FileLayout, (l.root o.2).isAbsolute = false →
          ¬(l.root o.2).IsBelow (l.pathFor c)) ∧
        ('/' ∉ o.1.name.toList → (c.KeepsBelow ↔ g.session.KeepsBelow o.1 o.2)))
      g.outputs g.produce.classes := by
  refine (forall₂_outputs hg.wellKept.clean hrun).imp ?_
  rintro ⟨e, t⟩ c hclass
  have hplaces : g.session.Places e t c := hclass.places
  obtain rfl := hplaces.target
  exact ⟨hplaces, fun h l => FileLayout.pathFor_isBelow h l,
    fun h l hroot => FileLayout.not_isBelow_pathFor h hroot, hplaces.keepsBelow_iff⟩

/-- A configuration whose models have a path before their names. -/
def astray : Config :=
  { Config.standard with
    classLead := some "../../java/"
    output := ⟨.file, some ⟨"flex"⟩, some ⟨"java"⟩⟩ }

def ofAstray : Generator := ((new astray none).withAllHandlers).add (bare "shop.Person")

theorem reachable_ofAstray : Reachable astray none ofAstray :=
  (reachable_withAllHandlers _ _).register (.entity (bare "shop.Person"))

theorem exists_outcome_ofAstray : ∃ count, ofAstray.produce.outcome = .ok count := by
  refine reachable_ofAstray.exists_outcome rfl
    (Session.generable_of_mem_values (e := bare "shop.Person") rfl ?_)
  refine Session.generable_of_placed (fun t => ⟨(bare "shop.Person").package, ?_⟩) rfl rfl
    fun p hp => (nomatch hp)
  cases t <;> rfl

/-- The configuration is valid, and the model of the entity leaves the root of the client. -/
theorem person_leaves_root :
    astray.validate = .ok () ∧ FileLayout.ofConfig astray.output = .ok ⟨⟨"flex"⟩, ⟨"java"⟩⟩ ∧
      ∃ count, ofAstray.produce.outcome = .ok count ∧ ∃ c ∈ ofAstray.produce.classes,
        (⟨⟨"flex"⟩, ⟨"java"⟩⟩ : FileLayout).pathFor c = ⟨"flex/shop/../../java/Person.as"⟩ ∧
          ¬(⟨"flex"⟩ : Path).IsBelow ⟨"flex/shop/../../java/Person.as"⟩ := by
  obtain ⟨count, hcount⟩ := exists_outcome_ofAstray
  refine ⟨rfl, rfl, count, hcount, ?_⟩
  have hall := reachable_ofAstray.below_roots_iff hcount
  have houtputs : ofAstray.outputs = [(bare "shop.Person", .clientModel),
      (bare "shop.Person", .clientBuilder), (bare "shop.Person", .serverBuilder)] := rfl
  rw [houtputs] at hall
  obtain ⟨c, cs, hc, -, hclasses⟩ := List.forall₂_cons_left_iff.1 hall
  obtain ⟨hplaces, -, hleaves, hkeeps⟩ := hc
  have hclass : c.className = "../../java/Person" := hplaces.className.trans (by decide)
  have hpackage : c.package = "shop" := (Except.ok.inj hplaces.package).symm.trans (by decide)
  have hpath : (⟨⟨"flex"⟩, ⟨"java"⟩⟩ : FileLayout).pathFor c =
      ⟨"flex/shop/../../java/Person.as"⟩ := by
    unfold FileLayout.pathFor GeneratedClass.relativePath
    rw [hplaces.target, hclass, hpackage]
    decide
  refine ⟨c, hclasses ▸ List.mem_cons_self, hpath, ?_⟩
  rw [← hpath]
  refine hleaves (fun h => ?_) ⟨⟨"flex"⟩, ⟨"java"⟩⟩ rfl
  exact ((hkeeps (by decide)).1 h).file (by decide)

end Generator

end XmlBinding
