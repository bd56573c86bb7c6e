import XmlBinding.Proofs.Form
import XmlBinding.Proofs.Name

/-!
# Classes that generated code refers to

Code calls a class by a name. What the name stands for is decided by the imports of the source and
by the classes around it.

* `Reference` : a name with the class it is meant for; `JavaType.references`,
  `wrapperReferences`, `Session.references` : those by which code names a type;
* `ClassFrame.mentioned`, `passing` : those of a class, `mem_uses_mentioned`,
  `forall_mem_mentioned`;
* `Header.Resolves` : what a name stands for below a header;
* `Reference.IsClear` : what it takes for a reference to stand for its class, `resolves_iff`;
* `Reference.Apart` : distinct classes have distinct names, `isClear_of_apart`;
* `Refers` : a class with its references, `Dialect.Assembles.exists_referred`, `refers`.
-/

namespace XmlBinding

/-- A name that generated code has for a class. -/
structure Reference where
  name : String
  /-- The class it is meant for. -/
  qualified : String
  /-- Whether the class is imported when it stands in another package that has a name. -/
  importable : Bool

namespace Reference

def library (qualified : String) : Reference := ⟨simpleName qualified, qualified, true⟩

/-- A class of a package whose classes need no import. -/
def implicit (package name : String) : Reference := ⟨name, qualify package name, false⟩

/-- The class of a frame itself. -/
def self (f : ClassFrame) : Reference := ⟨f.className, f.qualifiedName, false⟩

/-- Whether a reference makes a class in a package import what it refers to. -/
def Imported (r : Reference) (package : String) : Prop :=
  r.importable = true ∧ packageOf r.qualified ≠ "" ∧ packageOf r.qualified ≠ package

/-- What is imported for a reference. -/
def uses (scope : Scope) (r : Reference) : List String :=
  if r.importable then scope.usesOf r.qualified else []

theorem uses_library (scope : Scope) (q : String) : (library q).uses scope = scope.usesOf q :=
  if_pos rfl

theorem uses_implicit (scope : Scope) (package name : String) :
    (implicit package name).uses scope = [] :=
  if_neg Bool.false_ne_true

theorem uses_self (scope : Scope) (f : ClassFrame) : (self f).uses scope = [] :=
  if_neg Bool.false_ne_true

theorem mem_uses {scope : Scope} {r : Reference} {q : String} :
    q ∈ r.uses scope ↔ r.Imported scope.frame.package ∧ r.qualified = q := by
  have hempty : (packageOf r.qualified).isEmpty = true ↔ packageOf r.qualified = "" :=
    String.isEmpty_iff
  unfold uses Imported Scope.usesOf
  by_cases hr : r.importable = true
  · rw [if_pos hr]
    by_cases hp : packageOf r.qualified = "" ∨ packageOf r.qualified = scope.frame.package
    · rw [if_pos (by simpa [hempty] using hp)]
      refine iff_of_false List.not_mem_nil fun h => ?_
      exact hp.elim h.1.2.1 h.1.2.2
    · rw [if_neg (by simpa [hempty] using hp), List.mem_singleton]
      rw [not_or] at hp
      exact ⟨fun h => ⟨⟨hr, hp⟩, h.symm⟩, fun h => h.2.symm⟩
  · rw [if_neg hr]
    exact iff_of_false List.not_mem_nil fun h => hr h.1.1

end Reference

/-! ## References to types -/

namespace JavaType

/-- The class that code names by the simple name of a type. -/
def references : JavaType → List Reference
  | .primitive _ => []
  | .reference q => [⟨XmlBinding.simpleName q, q, !langClasses.contains q⟩]
  | .array c => c.references

/-- The class that code names where a primitive is replaced by its wrapper. -/
def wrapperReferences : JavaType → List Reference
  | .primitive p => [.implicit "java.lang" p.wrapper]
  | t => t.references

variable {t : JavaType} {r : Reference}

theorem occurs_simpleName (h : r ∈ t.references) : Occurs r.name t.simpleName := by
  induction t with
  | primitive p => cases h
  | reference q =>
    rw [List.mem_singleton.1 h]
    exact .refl _
  | array c ih => exact (ih h).append_right _

theorem occurs_wrapperName (h : r ∈ t.wrapperReferences) : Occurs r.name t.wrapperName := by
  cases t with
  | primitive p =>
    rw [List.mem_singleton.1 h]
    exact .refl _
  | reference q => exact occurs_simpleName h
  | array c => exact occurs_simpleName h

end JavaType

/-- The class generated for a type that is an entity. -/
def Session.references (s : Session) (target : Target) (t : JavaType) : List Reference :=
  match s.entity? t with
  | none => []
  | some e => [⟨s.className e target, qualify (s.home e target) (s.className e target), true⟩]

namespace Scope

variable (scope : Scope) {t : JavaType} {r : Reference}

/-- The builder of a type that is an entity. -/
def builders (t : JavaType) : List Reference := scope.session.references scope.target t

theorem usesOfType_eq (t : JavaType) :
    scope.usesOfType t = t.references.flatMap (·.uses scope) := by
  induction t with
  | primitive p => rfl
  | array c ih => exact ih
  | reference q =>
    unfold usesOfType JavaType.importName? JavaType.references Reference.uses
    cases hq : langClasses.contains q <;> simp

theorem usesOfType_eq_wrapper (t : JavaType) :
    scope.usesOfType t = t.wrapperReferences.flatMap (·.uses scope) := by
  cases t with
  | primitive p => rfl
  | reference q => exact scope.usesOfType_eq _
  | array c => exact scope.usesOfType_eq _

theorem usesOfRef_eq (target : Target) (t : JavaType) :
    scope.usesOfRef target t =
      (scope.session.references target t).flatMap (·.uses scope) := by
  unfold usesOfRef Session.references
  cases scope.session.entity? t with
  | none => rfl
  | some e => simp [Reference.uses]

theorem usesOfBuilder_eq (t : JavaType) :
    scope.usesOfBuilder t = (scope.builders t).flatMap (·.uses scope) :=
  scope.usesOfRef_eq scope.target t

/-- The class generated for an entity is called by its name. -/
theorem name_of_mem_references {s : Session} {target : Target} (h : r ∈ s.references target t) :
    r.name = s.refName target t := by
  unfold Session.references at h
  unfold Session.refName
  cases he : s.entity? t with
  | none =>
    rw [he] at h
    cases h
  | some e =>
    rw [he] at h
    rw [List.mem_singleton.1 h]

theorem isEntity_of_mem_builders (h : r ∈ scope.builders t) : scope.session.isEntity t = true := by
  unfold builders Session.references at h
  unfold Session.isEntity
  cases he : scope.session.entity? t with
  | none =>
    rw [he] at h
    cases h
  | some e => rfl

variable {scope}

theorem occurs_builderName (h : r ∈ scope.builders t) : Occurs r.name (scope.builderName t) := by
  rw [name_of_mem_references h]
  exact .refl _

theorem occurs_callOf {sep standing helper : String} {args : List String}
    (h : r ∈ scope.builders t) : Occurs r.name (scope.callOf t sep standing helper args) := by
  unfold callOf
  rw [if_pos (scope.isEntity_of_mem_builders h)]
  exact ((occurs_builderName h).append_right _).append_right _

end Scope

/-! ## References of a frame -/

namespace ClassFrame

variable {H : Type} {f : ClassFrame} {read write : Direction} {readOnly : Bool} {p : Property}

/-- Properties that take part in reading, with a setter or for want of one without a statement. -/
def reading (f : ClassFrame) (read : Direction) (readOnly : Bool) : List Property :=
  (f.attributes ++ f.elements).filter fun p => p.takesPart read && p.isReadOnly == readOnly

theorem mem_reading : p ∈ f.reading read readOnly ↔
    p ∈ f.attributes ++ f.elements ∧ p.takesPart read = true ∧ p.isReadOnly = readOnly := by
  unfold reading
  rw [List.mem_filter, Bool.and_eq_true, beq_iff_eq]

/-- References in the class of a frame: those in every class, those in the code that reads and
writes properties, and those in the methods of helpers. -/
def mentioned (f : ClassFrame) (read write : Direction) (standing : List Reference)
    (reads writes : Property → List Reference) (asked : List H) (helps : H → List Reference) :
    List Reference :=
  standing ++ ((f.reading read false).flatMap reads ++
    ((f.elements.filter (·.takesPart write)).flatMap writes ++ asked.flatMap helps))

/-- References for which a class is imported although there is no statement. -/
def passing (f : ClassFrame) (read : Direction) (reads : Property → List Reference) :
    List Reference :=
  (f.reading read true).flatMap reads

section Mentioned
variable {standing : List Reference} {reads writes : Property → List Reference} {asked : List H}
  {helps : H → List Reference} {scope : Scope} {q : String}

/-- What is imported for the references of a frame. -/
theorem mem_uses_mentioned :
    q ∈ (f.mentioned read write standing reads writes asked helps ++ f.passing read reads).flatMap
        (·.uses scope) ↔
      (q ∈ standing.flatMap (·.uses scope) ∨
        (∃ p ∈ f.attributes ++ f.elements, p.takesPart read = true ∧
          q ∈ (reads p).flatMap (·.uses scope)) ∨
        ∃ p ∈ f.elements, p.takesPart write = true ∧ q ∈ (writes p).flatMap (·.uses scope)) ∨
      ∃ j ∈ asked, q ∈ (helps j).flatMap (·.uses scope) := by
  have hmem {α : Type} (l : List α) (rs : α → List Reference) :
      q ∈ (l.flatMap rs).flatMap (·.uses scope) ↔ ∃ a ∈ l, q ∈ (rs a).flatMap (·.uses scope) := by
    rw [List.flatMap_assoc, List.mem_flatMap]
  have hreading : (∃ p ∈ f.attributes ++ f.elements, p.takesPart read = true ∧
        q ∈ (reads p).flatMap (·.uses scope)) ↔
      (∃ p ∈ f.reading read false, q ∈ (reads p).flatMap (·.uses scope)) ∨
        ∃ p ∈ f.reading read true, q ∈ (reads p).flatMap (·.uses scope) := by
    constructor
    · rintro ⟨p, hp, hd, hq⟩
      cases hs : p.isReadOnly with
      | false => exact .inl ⟨p, mem_reading.2 ⟨hp, hd, hs⟩, hq⟩
      | true => exact .inr ⟨p, mem_reading.2 ⟨hp, hd, hs⟩, hq⟩
    · rintro (⟨p, hp, hq⟩ | ⟨p, hp, hq⟩)
      · exact ⟨p, (mem_reading.1 hp).1, (mem_reading.1 hp).2.1, hq⟩
      · exact ⟨p, (mem_reading.1 hp).1, (mem_reading.1 hp).2.1, hq⟩
  rw [hreading]
  unfold mentioned passing
  simp only [List.flatMap_append, List.mem_append, hmem, List.mem_filter, and_assoc]
  constructor
  · rintro ((h | h | h | h) | h)
    · exact .inl (.inl h)
    · exact .inl (.inr (.inl (.inl h)))
    · exact .inl (.inr (.inr h))
    · exact .inr h
    · exact .inl (.inr (.inl (.inr h)))
  · rintro ((h | (h | h) | h) | h)
    · exact .inl (.inl h)
    · exact .inl (.inr (.inl h))
    · exact .inr h
    · exact .inl (.inr (.inr (.inl h)))
    · exact .inl (.inr (.inr (.inr h)))

theorem standing_subset_mentioned :
    standing ⊆ f.mentioned read write standing reads writes asked helps :=
  List.subset_append_left _ _

theorem reads_subset_mentioned (hp : p ∈ f.reading read false) :
    reads p ⊆ f.mentioned read write standing reads writes asked helps := fun _ hr =>
  List.mem_append_right _ (List.mem_append_left _ (List.mem_flatMap.2 ⟨p, hp, hr⟩))

theorem writes_subset_mentioned (hp : p ∈ f.elements) (hd : p.takesPart write = true) :
    writes p ⊆ f.mentioned read write standing reads writes asked helps := fun _ hr =>
  List.mem_append_right _ (List.mem_append_right _ (List.mem_append_left _
    (List.mem_flatMap.2 ⟨p, List.mem_filter.2 ⟨hp, hd⟩, hr⟩)))

theorem helps_subset_mentioned (helps : H → List Reference) {j : H} (hj : j ∈ asked) :
    helps j ⊆ f.mentioned read write standing reads writes asked helps := fun _ hr =>
  List.mem_append_right _ (List.mem_append_right _ (List.mem_append_right _
    (List.mem_flatMap.2 ⟨j, hj, hr⟩)))

/-- What holds of the references in methods, in the code for properties and in helpers, holds of all
of a class. -/
theorem forall_mem_mentioned {P : Reference → Prop} (hstanding : ∀ r ∈ standing, P r)
    (hreads : ∀ p ∈ f.attributes ++ f.elements, p.takesPart read = true → p.isReadOnly = false →
      ∀ r ∈ reads p, P r)
    (hwrites : ∀ p ∈ f.elements, p.takesPart write = true → ∀ r ∈ writes p, P r)
    (hhelps : ∀ j ∈ asked, ∀ r ∈ helps j, P r) :
    ∀ r ∈ f.mentioned read write standing reads writes asked helps, P r := by
  intro r hr
  unfold mentioned at hr
  simp only [List.mem_append, List.mem_flatMap, List.mem_filter] at hr
  rcases hr with hr | ⟨p, hp, hr⟩ | ⟨p, ⟨hp, hd⟩, hr⟩ | ⟨j, hj, hr⟩
  · exact hstanding r hr
  · obtain ⟨hp, hd, hs⟩ := mem_reading.1 hp
    exact hreads p hp hd hs r hr
  · exact hwrites p hp hd r hr
  · exact hhelps j hj r hr

/-- What properties add in a direction imports what is imported for their references. -/
theorem mem_uses_ofProperties {J : Type} {d : Direction} {x : Property → Addition J}
    (hx : ∀ p, (x p).uses = (reads p).flatMap (·.uses scope)) (ps : List Property) :
    q ∈ (Addition.ofProperties d x ps).uses ↔
      ∃ p ∈ ps, p.takesPart d = true ∧ q ∈ (reads p).flatMap (·.uses scope) := by
  rw [Addition.uses_ofProperties, List.mem_flatMap]
  simp only [hx, List.mem_filter, and_assoc]

end Mentioned

end ClassFrame

/-! ## Headers -/

/-- What decides about the names in a source. -/
structure Header where
  package : String
  className : String
  imports : List String
  /-- Package whose classes are seen without an import. -/
  implicit : String

/-- What a name stands for below a header, where some classes are known: an imported class, else a
class of the package of the source, else one that is seen without an import. A class cannot be
imported under the name of the source's own. -/
inductive Header.Resolves (u : Header) (known : String → Prop) (n : String) : String → Prop
  | imported {q : String} (hq : q ∈ u.imports) (hn : simpleName q = n)
      (only : ∀ q' ∈ u.imports, simpleName q' = n → q' = q) (other : n ≠ u.className) :
      u.Resolves known n q
  | own (h : known (qualify u.package n)) (free : ∀ q ∈ u.imports, simpleName q ≠ n) :
      u.Resolves known n (qualify u.package n)
  | seen (h : ¬known (qualify u.package n)) (free : ∀ q ∈ u.imports, simpleName q ≠ n) :
      u.Resolves known n (qualify u.implicit n)

/-- A name under which two classes are imported stands for none. -/
theorem Header.not_resolves {u : Header} {known : String → Prop} {n a b q : String}
    (ha : a ∈ u.imports) (hb : b ∈ u.imports) (hna : simpleName a = n) (hnb : simpleName b = n)
    (hne : a ≠ b) : ¬u.Resolves known n q := by
  intro h
  cases h with
  | imported _ _ only => exact hne ((only a ha hna).trans (only b hb hnb).symm)
  | own _ free => exact free a ha hna
  | seen _ free => exact free a ha hna

namespace Reference

variable {u : Header} {known : String → Prop} {rs : List Reference} {r : Reference}

/-- Ways in which a name can reach its class, among the references of a source. -/
inductive Reaches (u : Header) (known : String → Prop) (rs : List Reference) (r : Reference) : Prop
  | imported (h : ∃ r' ∈ rs, r'.Imported u.package ∧ r'.qualified = r.qualified)
      (simple : simpleName r.qualified = r.name) (other : r.name ≠ u.className)
  | own (h : r.qualified = qualify u.package r.name)
  | seen (h : r.qualified = qualify u.implicit r.name)
      (visible : ¬known (qualify u.package r.name))

/-- What it takes for a reference to stand for its class, among the references of a source. -/
structure IsClear (u : Header) (known : String → Prop) (rs : List Reference) (r : Reference) :
    Prop where
  /-- No other class of the name is imported. -/
  alone : ∀ r' ∈ rs, r'.Imported u.package → simpleName r'.qualified = r.name →
    r'.qualified = r.qualified
  reaches : r.Reaches u known rs

/-- Distinct classes have distinct simple names. -/
def Apart (rs : List Reference) : Prop :=
  ∀ r ∈ rs, ∀ r' ∈ rs, simpleName r.qualified = simpleName r'.qualified →
    r.qualified = r'.qualified

/-- A class is imported for a reference by its simple name, or stands in the package of the source,
or is seen without an import. -/
structure IsVisible (u : Header) (known : String → Prop) (r : Reference) : Prop where
  simple : r.name = simpleName r.qualified
  placed : r.Imported u.package ∨ r.qualified = qualify u.package r.name ∨
    r.qualified = qualify u.implicit r.name ∧ ¬known (qualify u.package r.name)

/-- Where classes have names of their own, references to visible ones are clear. -/
theorem isClear_of_apart (hrs : Apart rs)
    (hself : ∃ r' ∈ rs, r'.qualified = qualify u.package u.className) (hr : r ∈ rs)
    (hvisible : r.IsVisible u known) : r.IsClear u known rs := by
  have hsimple := hvisible.simple
  refine ⟨fun r' hr' _ hn => hrs r' hr' r hr (hn.trans hsimple), ?_⟩
  rcases hvisible.placed with hi | hown | ⟨hseen, hfree⟩
  · by_cases hother : r.name = u.className
    · obtain ⟨r', hr', hq'⟩ := hself
      have hdot : '.' ∉ u.className.toList := by
        rw [← hother, hsimple]
        exact not_mem_simpleName _
      refine .own ?_
      rw [hother, ← hq']
      refine hrs r hr r' hr' ?_
      rw [← hsimple, hother, hq', simpleName_qualify hdot]
    · exact .imported ⟨r, hr, hi, rfl⟩ hsimple.symm hother
  · exact .own hown
  · exact .seen hseen hfree

end Reference

/-- Where the imports are those of the references, the conditions are what it takes. -/
theorem Header.resolves_iff {u : Header} {known : String → Prop} {rs : List Reference}
    (himports : ∀ q, q ∈ u.imports ↔ ∃ r ∈ rs, r.Imported u.package ∧ r.qualified = q)
    (hself : known (qualify u.package u.className)) {r : Reference}
    (hknown : r.qualified = qualify u.package r.name → known r.qualified) :
    u.Resolves known r.name r.qualified ↔ r.IsClear u known rs := by
  constructor
  · intro h
    have halone (free : ∀ q ∈ u.imports, simpleName q ≠ r.name) : ∀ r' ∈ rs,
        r'.Imported u.package → simpleName r'.qualified = r.name → r'.qualified = r.qualified :=
      fun r' hr' hi' hn' => absurd hn' (free _ ((himports _).2 ⟨r', hr', hi', rfl⟩))
    generalize hq : r.qualified = q at h
    cases h with
    | imported hmem hn only other =>
      rw [← hq] at hmem hn
      refine ⟨fun r' hr' hi' hn' => ?_, .imported ((himports _).1 hmem) hn other⟩
      exact (only _ ((himports _).2 ⟨r', hr', hi', rfl⟩) hn').trans hq.symm
    | own _ free => exact ⟨halone free, .own hq⟩
    | seen hunknown free => exact ⟨halone free, .seen hq hunknown⟩
  · intro h
    have honly : ∀ q ∈ u.imports, simpleName q = r.name → q = r.qualified := by
      intro q hq hn
      obtain ⟨r', hr', hi', rfl⟩ := (himports q).1 hq
      exact h.alone r' hr' hi' hn
    cases h.reaches with
    | imported hi hn other => exact .imported ((himports _).2 hi) hn honly other
    | own hq =>
      -- no class of the source's own package is imported
      have hfree : ∀ q ∈ u.imports, simpleName q ≠ r.name := by
        intro q hmem hn
        have hdot : '.' ∉ r.name.toList := hn ▸ not_mem_simpleName q
        obtain ⟨r', -, hi, rfl⟩ := (himports q).1 hmem
        refine hi.2.2 ?_
        rw [honly _ hmem hn, hq, packageOf_qualify hdot]
      have hown := Header.Resolves.own (hq ▸ hknown hq) hfree
      rwa [← hq] at hown
    | seen hq hunknown =>
      by_cases hfree : ∀ q ∈ u.imports, simpleName q ≠ r.name
      · have hseen := Header.Resolves.seen hunknown hfree
        rwa [← hq] at hseen
      · obtain ⟨q, hmem, hn⟩ : ∃ q ∈ u.imports, simpleName q = r.name := by simpa using hfree
        refine .imported (honly q hmem hn ▸ hmem) (honly q hmem hn ▸ hn) honly fun hother => ?_
        exact hunknown (hother ▸ hself)

/-! ## Classes with their references -/

/-- A class with its references: those that stand in its code, and those passed over, for which a
class is imported although no code calls it. Below the header, a reference in the code stands for
its class exactly where it is clear; so do all to visible classes where distinct classes have
distinct simple names. -/
structure Refers (style : AccessStyle) (config : Config) (u : Header)
    (mentioned passing : List Reference) (source : String) : Prop where
  occurs : ∀ r ∈ mentioned, Occurs r.name source
  header : ∃ rest, source = style.packageHeader config u.package u.imports ++ rest
  imports : ∀ q, q ∈ u.imports ↔
    ∃ r ∈ mentioned ++ passing, r.Imported u.package ∧ r.qualified = q
  resolves : ∀ known : String → Prop,
    (∀ r ∈ mentioned, r.qualified = qualify u.package r.name → known r.qualified) →
    ∀ r ∈ mentioned,
      u.Resolves known r.name r.qualified ↔ r.IsClear u known (mentioned ++ passing)
  uncaptured : Reference.Apart (mentioned ++ passing) → ∀ known : String → Prop,
    (∀ r ∈ mentioned, r.qualified = qualify u.package r.name → known r.qualified) →
    ∀ r ∈ mentioned, r.IsVisible u known → u.Resolves known r.name r.qualified

section Assembled
variable {H X : Type} {d : Dialect (H ⊕ X)} {s : Session} {f : ClassFrame} {x : Addition (H ⊕ X)}
  {make : H ⊕ X → Addition (H ⊕ X)} {c : GeneratedClass} {identity : H → HelperId}
  {asked : List H} {mentioned passing : List Reference} (h : d.Assembles s f x make c)
  (hx : x.asks = asked.map fun j => ⟨identity j, .inl j⟩)
  (hasked : ∀ j, ∀ a ∈ (make j).asks, (make a.job).uses = [])
  (huses : ∀ q, q ∈ (mentioned ++ passing).flatMap (·.uses ⟨s, f, d.target⟩) ↔
    q ∈ d.baseImports.flatMap (Scope.usesOf ⟨s, f, d.target⟩) ∨ q ∈ x.uses ∨
      ∃ j ∈ asked, q ∈ (make (.inl (servedBy identity asked j))).uses)
include h hx hasked huses

/-- A class whose imports are those of its references, around its methods and its helpers. -/
theorem Dialect.Assembles.exists_referred : ∃ imports, ∃ jobs : List (H ⊕ X),
    c = d.assemble s f imports (x.text ++ String.join (jobs.map fun j => (make j).text)) ∧
    imports.Pairwise (· < ·) ∧
    (∀ q, q ∈ imports ↔ ∃ r ∈ mentioned ++ passing, r.Imported f.package ∧ r.qualified = q) ∧
    ∀ j ∈ jobs, (∃ k ∈ asked, j = .inl (servedBy identity asked k)) ∨
      ∃ i ∈ jobs, ∃ a ∈ (make i).asks, a.job = j := by
  obtain ⟨imports, jobs, hc, hascending, himports, hserved, hjobs⟩ := h.exists_served hx
  refine ⟨imports, jobs, hc, hascending, fun q => ?_, hjobs⟩
  have hhelpers : (∃ j ∈ jobs, q ∈ (make j).uses) ↔
      ∃ j ∈ asked, q ∈ (make (.inl (servedBy identity asked j))).uses := by
    constructor
    · rintro ⟨j, hj, hq⟩
      rcases hjobs j hj with ⟨k, hk, rfl⟩ | ⟨i, -, a, ha, rfl⟩
      · exact ⟨k, hk, hq⟩
      · rw [hasked i a ha] at hq
        cases hq
    · rintro ⟨j, hj, hq⟩
      exact ⟨_, hserved j hj, hq⟩
  rw [himports, hhelpers, ← huses, List.mem_flatMap]
  simp only [Reference.mem_uses]

theorem Dialect.Assembles.refers (hself : Reference.self f ∈ mentioned)
    (hoccurs : ∀ r ∈ mentioned, Occurs r.name c.source) (implicit : String) :
    ∃ imports, Refers d.style s.config ⟨f.package, f.className, imports, implicit⟩ mentioned
      passing c.source := by
  obtain ⟨imports, jobs, rfl, -, hlisted, -⟩ := h.exists_referred hx hasked huses
  have hresolves (known : String → Prop)
      (hknown : ∀ r ∈ mentioned, r.qualified = qualify f.package r.name → known r.qualified) :
      ∀ r ∈ mentioned,
        (Header.mk f.package f.className imports implicit).Resolves known r.name r.qualified ↔
          r.IsClear ⟨f.package, f.className, imports, implicit⟩ known (mentioned ++ passing) :=
    fun r hr => Header.resolves_iff hlisted (hknown _ hself rfl) (hknown r hr)
  refine ⟨imports, hoccurs, ⟨_, by simp only [Dialect.assemble, String.append_assoc]; rfl⟩,
    hlisted, hresolves, ?_⟩
  intro hapart known hknown r hr hvisible
  refine (hresolves known hknown r hr).2 (Reference.isClear_of_apart hapart ?_
    (List.mem_append_left _ hr) hvisible)
  exact ⟨_, List.mem_append_left _ hself, rfl⟩

end Assembled

end XmlBinding
