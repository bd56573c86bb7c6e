import XmlBinding.Proofs.Client.Reads
import XmlBinding.Proofs.Client.Writes
import XmlBinding.Proofs.Reference

/-!
# Classes that a client builder refers to

* `Client.readReferences`, `writeReferences`, `helperReferences` : the references in the code for a
  property and in the method of a helper;
* `Client.standing` : those in every builder;
* `Client.mentioned`, `passing` : those of a class, `refers_of_builds`.
-/

namespace XmlBinding.Client

variable {X : Type} {scope : Scope} {p : Property} {t : JavaType} {r : Reference}

/-! ## References in the code -/

/-- A class at the top level of the language. -/
def top (name : String) : Reference := .implicit "" name

/-- The class that converts the node of a scalar. -/
def converter : ScalarKind → List Reference
  | .boolean | .boxedBoolean | .string => []
  | .short | .boxedShort | .int | .integer => [top "int"]
  | .long | .boxedLong | .float | .boxedFloat | .double | .boxedDouble => [top "Number"]

/-- The class that converts the nodes of values of a type. -/
def converterOf (t : JavaType) : List Reference := ((ScalarKind.of? t).map converter).getD []

/-- References in the expression that reads one element or entry. -/
def valueReferences (scope : Scope) (t : JavaType) : List Reference :=
  if scope.session.isEntity t then scope.builders t else converterOf t

/-- References in the statement that reads a property. -/
def readReferences (scope : Scope) (p : Property) : List Reference :=
  match p.category with
  | .basic => converterOf p.type
  | .entity => scope.builders p.type
  | .array t | .collection _ t _ | .map _ t _ => scope.builders t

/-- References in the line of the literal for a property. -/
def writeReferences (scope : Scope) (p : Property) : List Reference :=
  match p.category with
  | .basic => []
  | .entity => scope.builders p.type
  | .array t | .collection _ t _ | .map _ t _ => scope.builders t

/-- References in the method of a helper, apart from those in every builder. -/
def helperReferences (scope : Scope) : ClientHelper → List Reference
  | .readString | .writeMap => []
  | .readArray t | .readMap t => valueReferences scope t

def standing (scope : Scope) : List Reference :=
  .self scope.frame :: top "XML" :: top "String" :: top "Array" ::
    .library "flash.utils.Dictionary" ::
    scope.session.references .clientModel scope.frame.entity.type

def mentioned (s : Session) (f : ClassFrame) : List Reference :=
  f.mentioned .clientRead .clientWrite (standing (scopeOf s f)) (readReferences (scopeOf s f))
    (writeReferences (scopeOf s f)) (requests s f)
    fun j => helperReferences (scopeOf s f) (served s f j)

/-- References for which a class is imported although there is no statement. -/
def passing (s : Session) (f : ClassFrame) : List Reference :=
  f.passing .clientRead (readReferences (scopeOf s f))

/-! ## Imports -/

theorem uses_converterOf (scope : Scope) (t : JavaType) :
    (converterOf t).flatMap (·.uses scope) = [] := by
  unfold converterOf
  cases ScalarKind.of? t with
  | none => rfl
  | some kind => cases kind <;> rfl

theorem uses_scalarAddition (style : AccessStyle) (var : String) (p : Property)
    (kind : ScalarKind) : (scalarAddition scope style var p kind : Addition (Job X)).uses = [] := by
  cases kind <;> rfl

theorem uses_readAddition (scope : Scope) (var : String) (p : Property) :
    (readAddition scope .as3 var p : Addition (Job X)).uses =
      (readReferences scope p).flatMap (·.uses scope) := by
  have hprimary : AccessStyle.as3.isPrimary = true := rfl
  have hsequence (t : JavaType) : (sequenceAddition scope .as3 var p t : Addition (Job X)).uses =
      (scope.builders t).flatMap (·.uses scope) := by
    unfold sequenceAddition
    rw [if_pos hprimary, Addition.uses_append, Scope.uses_callAddition, Addition.uses_ofText,
      List.append_nil, Scope.usesOfBuilder_eq]
  unfold readAddition readReferences
  cases p.category with
  | basic =>
    rw [uses_converterOf]
    cases ScalarKind.of? p.type with
    | none => rfl
    | some kind => exact uses_scalarAddition .as3 var p kind
  | entity => simp [Scope.usesOfBuilder_eq]
  | array t => exact hsequence t
  | collection kind t implementation => exact hsequence t
  | map key t implementation =>
    simp [AccessStyle.isPrimary, Scope.uses_callAddition, Scope.usesOfBuilder_eq]

theorem uses_writeAddition (scope : Scope) (var : String) (p : Property) :
    (writeAddition scope var p : Addition (Job X)).uses =
      (writeReferences scope p).flatMap (·.uses scope) := by
  unfold writeAddition writeReferences
  cases p.category with
  | basic => rfl
  | entity | array t | collection kind t implementation | map key t implementation =>
    simp [Scope.uses_callAddition, Scope.usesOfBuilder_eq]

theorem uses_valueAddition (scope : Scope) (t : JavaType) :
    (valueAddition scope t : Addition (Job X)).uses =
      (valueReferences scope t).flatMap (·.uses scope) := by
  unfold valueAddition readAddition valueReferences
  cases t with
  | array c => exact (uses_converterOf scope _).symm
  | primitive q =>
    have hentity : scope.session.isEntity (.primitive q) = false := rfl
    rw [hentity, if_neg Bool.false_ne_true, uses_converterOf]
    cases q <;> rfl
  | reference q =>
    unfold Session.synthetic
    dsimp only [JavaType.component?]
    cases scope.session.isEntity (.reference q) with
    | true => simp [Scope.usesOfBuilder_eq]
    | false =>
      simp only [Bool.false_eq_true, if_false, uses_converterOf]
      cases ScalarKind.of? (.reference q) with
      | none => rfl
      | some kind => exact uses_scalarAddition .as3Text "n" _ kind

theorem uses_helperAddition (scope : Scope) (job : ClientHelper) :
    (helperAddition scope job : Addition (Job X)).uses =
      (helperReferences scope job).flatMap (·.uses scope) := by
  cases job with
  | readString | writeMap => rfl
  | readArray t | readMap t => exact uses_valueAddition scope t

/-- Helpers ask for no other than the one that reads strings. -/
theorem job_of_asks {job : Job Empty} {a : Helper (Job Empty)}
    (ha : a ∈ (jobAddition scope job).asks) : a.job = .inl .readString := by
  cases job with
  | inr x => exact x.elim
  | inl job =>
    cases job with
    | readString | writeMap => cases ha
    | readArray t | readMap t => exact asks_valueAddition scope t ha

theorem mem_uses_standing {q : String} :
    q ∈ (standing scope).flatMap (·.uses scope) ↔
      q ∈ Handler.clientDialect.baseImports.flatMap scope.usesOf ∨ q ∈ usesOfModel scope := by
  have hbase : Handler.clientDialect.baseImports = ["flash.utils.Dictionary"] := rfl
  unfold standing usesOfModel
  rw [hbase, scope.usesOfRef_eq]
  simp only [List.flatMap_cons, List.flatMap_nil, List.append_nil, List.nil_append, List.mem_append,
    top, Reference.uses_library, Reference.uses_implicit, Reference.uses_self]

/-- What the methods of a builder import apart from what every builder does. -/
theorem mem_uses_standingAddition {q : String} :
    q ∈ Handler.clientDialect.baseImports.flatMap scope.usesOf ∨
        q ∈ (standingAddition scope : Addition (Job X)).uses ↔
      q ∈ (standing scope).flatMap (·.uses scope) ∨
        (∃ p ∈ scope.frame.attributes ++ scope.frame.elements, p.takesPart .clientRead = true ∧
          q ∈ (readReferences scope p).flatMap (·.uses scope)) ∨
        ∃ p ∈ scope.frame.elements, p.takesPart .clientWrite = true ∧
          q ∈ (writeReferences scope p).flatMap (·.uses scope) := by
  have hreads (ps : List Property) :=
    ClassFrame.mem_uses_ofProperties (d := .clientRead) (q := q)
      (uses_readAddition (X := X) scope "o") ps
  have hwrites (ps : List Property) :=
    ClassFrame.mem_uses_ofProperties (d := .clientWrite) (q := q)
      (uses_writeAddition (X := X) scope "o") ps
  unfold standingAddition instanceAddition xmlAddition basicXmlAddition beanArrayAddition
    beanXmlListAddition basicXmlListAddition beanMapAddition beanMapXmlAddition
    beanChildrenAddition beanListAddition readsAddition writesAddition
  simp only [Addition.uses_append, Addition.uses_ofUses, Addition.uses_ofText, List.mem_append,
    List.not_mem_nil, hreads, hwrites, mem_uses_standing, or_and_right, exists_or]
  grind

/-- The imports for the references of a class are those of its dialect, methods and helpers. -/
theorem mem_uses_references (s : Session) (f : ClassFrame) (q : String) :
    q ∈ (mentioned s f ++ passing s f).flatMap (·.uses (scopeOf s f)) ↔
      q ∈ Handler.clientDialect.baseImports.flatMap (scopeOf s f).usesOf ∨
        q ∈ (standingAddition (scopeOf s f) : Addition (Job X)).uses ∨
        ∃ j ∈ requests s f,
          q ∈ (helperAddition (scopeOf s f) (served s f j) : Addition (Job X)).uses := by
  unfold mentioned passing
  rw [← or_assoc, mem_uses_standingAddition, ClassFrame.mem_uses_mentioned]
  simp only [uses_helperAddition]
  rfl

/-! ## Names in the code -/

theorem occurs_converterOf (scope : Scope) (h : r ∈ converterOf t) :
    ∃ kind, ScalarKind.of? t = some kind ∧ Occurs r.name (scalarLead scope kind) := by
  have hint : Occurs "int" "int(" := ⟨"", "(", by decide⟩
  have hnumber : Occurs "Number" "Number(" := ⟨"", "(", by decide⟩
  unfold converterOf at h
  cases hk : ScalarKind.of? t with
  | none =>
    rw [hk] at h
    cases h
  | some kind =>
    rw [hk] at h
    refine ⟨kind, rfl, ?_⟩
    cases kind with
    | boolean | boxedBoolean | string => cases h
    | short | boxedShort | int | integer =>
      rw [List.mem_singleton.1 h]
      exact hint
    | long | boxedLong | float | boxedFloat | double | boxedDouble =>
      rw [List.mem_singleton.1 h]
      exact hnumber

theorem occurs_valueAddition (h : r ∈ valueReferences scope t) :
    Occurs r.name (valueAddition scope t : Addition (Job Empty)).text := by
  unfold valueReferences at h
  cases he : scope.session.isEntity t with
  | true =>
    rw [he, if_pos rfl] at h
    have hentry := readsEntry_entryRead scope t
    unfold Session.entryRead at hentry
    rw [he, if_pos rfl] at hentry
    cases hentry with
    | bean hvalue =>
      rw [hvalue]
      iterate 5 refine Occurs.append_right ?_ _
      exact Scope.occurs_builderName h
  | false =>
    rw [he, if_neg Bool.false_ne_true] at h
    obtain ⟨kind, hk, hocc⟩ := occurs_converterOf scope h
    rw [text_valueAddition he, hk]
    exact (hocc.append_right _).append_right _

/-- What precedes the node stands in the statement that reads a property. -/
theorem occurs_accessText (hs : p.isReadOnly = false) (lead tail : String)
    (placement : Option Placement) :
    Occurs lead (scope.accessText .as3 "o" p lead tail placement) := by
  rw [accessText_eq hs]
  unfold takeText
  iterate 4 refine Occurs.append_right ?_ _
  exact (Occurs.refl lead).append_left _

theorem occurs_readAddition (hs : p.isReadOnly = false) (h : r ∈ readReferences scope p) :
    Occurs r.name (readAddition scope .as3 "o" p : Addition (Job X)).text := by
  have hread {lead tail : String} {placement : Option Placement} (hocc : Occurs r.name lead) :
      Occurs r.name (scope.accessText .as3 "o" p lead tail placement) :=
    hocc.trans (occurs_accessText hs lead tail placement)
  have hsequence {t : JavaType} (h : r ∈ scope.builders t) :
      Occurs r.name (sequenceAddition scope .as3 "o" p t : Addition (Job X)).text := by
    rw [text_sequenceAddition]
    exact hread ((Scope.occurs_callOf h).append_right _)
  unfold readReferences at h
  unfold readAddition
  cases hc : p.category with
  | basic =>
    rw [hc] at h
    obtain ⟨kind, hk, hocc⟩ := occurs_converterOf scope h
    dsimp only
    rw [hk, Option.map_some, Option.getD_some, text_scalarAddition]
    exact hread hocc
  | entity =>
    rw [hc] at h
    refine Occurs.append_left (hread ?_) _
    exact (((Scope.occurs_builderName h).append_right _).append_right _).append_right _
  | array t =>
    rw [hc] at h
    exact hsequence h
  | collection kind t implementation =>
    rw [hc] at h
    exact hsequence h
  | map key t implementation =>
    rw [hc] at h
    have hprimary : AccessStyle.as3.isPrimary = true := rfl
    dsimp only
    rw [if_pos hprimary]
    exact (hread ((Scope.occurs_callOf h).append_right _)).append_left _

theorem occurs_writeAddition (h : r ∈ writeReferences scope p) :
    Occurs r.name (writeAddition scope "o" p : Addition (Job X)).text := by
  have hwrite {call : String} (hocc : Occurs r.name call) :
      Occurs r.name (literalText scope call "o" p) := by
    refine Occurs.lineText ?_ _ literalLevel
    iterate 7 refine Occurs.append_right ?_ _
    exact hocc.append_left _
  have hsequence {t : JavaType} (h : r ∈ scope.builders t) :
      Occurs r.name (sequenceWriter scope t) := by
    unfold sequenceWriter
    rw [if_pos (scope.isEntity_of_mem_builders h)]
    exact ((Scope.occurs_builderName h).append_right _).append_right _
  unfold writeReferences at h
  unfold writeAddition
  cases hc : p.category with
  | basic =>
    rw [hc] at h
    cases h
  | entity =>
    rw [hc] at h
    refine Occurs.append_left (hwrite ?_) _
    exact ((Scope.occurs_builderName h).append_right _).append_right _
  | array t =>
    rw [hc] at h
    exact (hwrite (hsequence h)).append_left _
  | collection kind t implementation =>
    rw [hc] at h
    exact (hwrite (hsequence h)).append_left _
  | map key t implementation =>
    rw [hc] at h
    exact (hwrite (Scope.occurs_callOf h)).append_left _

section Texts
variable {a : String} (c : Config) {name type target statement : String}

theorem occurs_childrenText_type (h : Occurs a type) :
    Occurs a (childrenText c name type target statement) := by
  unfold childrenText
  iterate 7 refine Occurs.append_right ?_ _
  exact (h.append_left _).blockText c 2

theorem occurs_childrenText_statement (h : Occurs a statement) :
    Occurs a (childrenText c name type target statement) := by
  unfold childrenText
  iterate 3 refine Occurs.append_right ?_ _
  exact (h.lineText c 4).append_left _

end Texts

/-- References in the method of a helper stand in it. -/
theorem occurs_helperAddition {job : ClientHelper} (h : r ∈ helperReferences scope job) :
    Occurs r.name (helperAddition scope job : Addition (Job Empty)).text := by
  cases job with
  | readString | writeMap => cases h
  | readArray t =>
    refine Occurs.append_left (occurs_childrenText_statement _ ?_) _
    exact ((occurs_valueAddition h).append_left _).append_right _
  | readMap t =>
    refine Occurs.append_left (occurs_childrenText_statement _ ?_) _
    exact ((occurs_valueAddition h).append_left _).append_right _

/-! ## Classes -/

section Built
variable {s : Session} (hc : s.catalog.NamesMethods) {e : Entity} {ps : List Property}
  {f : ClassFrame} {c : GeneratedClass}
  (h : Builder.Builds Handler.clientDialect s e ps f c)
include hc h

theorem occurs_of_mem_standing (hr : r ∈ standing (scopeOf s f)) : Occurs r.name c.source := by
  obtain ⟨hinstance, hxml, -, harray, -, -, hmap, -⟩ := occurs_standing hc h
  unfold standing at hr
  simp only [List.mem_cons] at hr
  rcases hr with rfl | rfl | rfl | rfl | rfl | hr
  · exact (assembles_of_builds hc h).occurs_className
  · refine Occurs.trans (Occurs.append_left (Occurs.append_right ?_ _) _) hinstance
    iterate 2 refine Occurs.append_right ?_ _
    refine Occurs.append_left (Occurs.blockText ?_ _ 2) _
    exact Occurs.append_right (Occurs.append_left ⟨"(nod:", "):", by decide⟩ _) _
  · refine Occurs.trans (Occurs.append_left (Occurs.append_right ?_ _) _) hxml
    refine Occurs.append_right (Occurs.append_left (Occurs.blockText ?_ _ 2) _) _
    exact Occurs.append_left ⟨", name:", "=null):XML", by decide⟩ _
  · exact Occurs.trans (Occurs.append_left (occurs_childrenText_type _ (.refl _)) _) harray
  · exact Occurs.trans (Occurs.append_left (occurs_childrenText_type _ (.refl _)) _) hmap
  · refine Occurs.trans (Occurs.append_left (Occurs.append_right ?_ _) _) hinstance
    iterate 2 refine Occurs.append_right ?_ _
    refine Occurs.append_left (Occurs.blockText ?_ _ 2) _
    rw [Scope.name_of_mem_references hr]
    exact (Occurs.refl _).append_left _

theorem occurs_of_mem_mentioned (hr : r ∈ mentioned s f) : Occurs r.name c.source := by
  refine ClassFrame.forall_mem_mentioned (P := fun r => Occurs r.name c.source)
    (fun r hr => occurs_of_mem_standing hc h hr) (fun p hp hd hs r hr => ?_)
    (fun p hp hd r hr => ?_) (fun j hj r hr => ?_) r hr
  · exact (occurs_readAddition hs hr).trans (occurs_readText hc h hp hd)
  · exact (occurs_writeAddition hr).trans (occurs_writeText hc h hp hd)
  · exact (occurs_helperAddition hr).trans (occurs_served hc h hj)

/-- A class with its references, those at the top level seen without an import. -/
theorem refers_of_builds :
    ∃ imports, Refers .as3 s.config ⟨f.package, f.className, imports, ""⟩
      (mentioned s f) (passing s f) c.source := by
  refine (assembles_of_builds hc h).refers (asks_standingAddition _) (fun j a ha => ?_)
    (mem_uses_references s f) (List.mem_append_left _ List.mem_cons_self)
    (fun r hr => occurs_of_mem_mentioned hc h hr) ""
  rw [job_of_asks ha]
  rfl

end Built

end XmlBinding.Client
