import XmlBinding.Proofs.Reference
import XmlBinding.Proofs.Server.Reads
import XmlBinding.Proofs.Server.Writes

/-!
# Classes that a server builder refers to

* `Server.readReferences`, `writeReferences`, `helperReferences` : the references in the code for a
  property and in the method of a helper;
* `Server.standing` : those in every builder;
* `Server.mentioned`, `passing` : those of a class, `refers_of_builds`.
-/

namespace XmlBinding.Server

variable {X : Type} {scope : Scope} {p : Property} {t : JavaType} {r : Reference}

/-! ## References in the code -/

def lang (name : String) : Reference := .implicit "java.lang" name

/-- The class that converts the text of a scalar. -/
def parser : ScalarKind → List Reference
  | .boolean | .string => []
  | .boxedBoolean => [lang "Boolean"]
  | .short | .boxedShort => [lang "Short"]
  | .int | .integer => [lang "Integer"]
  | .long | .boxedLong => [lang "Long"]
  | .float | .boxedFloat => [lang "Float"]
  | .double | .boxedDouble => [lang "Double"]

/-- The class that converts the text of values of a type. -/
def parserOf (t : JavaType) : List Reference := ((ScalarKind.of? t).map parser).getD []

/-- References in the expression that reads one element, key or entry. -/
def valueReferences (scope : Scope) (t : JavaType) : List Reference :=
  if scope.session.isEntity t then scope.builders t else parserOf t

def readReferences (scope : Scope) (p : Property) : List Reference :=
  match p.category with
  | .basic => parserOf p.type
  | .entity => scope.builders p.type
  | .array _ => []
  | .collection _ t implementation =>
    implementation.references ++ (t.wrapperReferences ++ scope.builders t)
  | .map key t implementation =>
    implementation.references ++ (key.wrapperReferences ++ t.wrapperReferences)

def writeReferences (scope : Scope) (p : Property) : List Reference :=
  match p.category with
  | .basic => []
  | .entity => scope.builders p.type
  | .array t | .collection _ t _ | .map _ t _ => scope.builders t

def helperReferences (scope : Scope) : ServerHelper → List Reference
  | .readArray t => t.references ++ (valueReferences scope t ++ [.library "java.util.List"])
  | .readCollection t =>
    t.wrapperReferences ++ (valueReferences scope t ++ [.library "java.util.Collection"])
  | .readMap key t =>
    key.wrapperReferences ++ (t.wrapperReferences ++ (valueReferences scope key ++
      (valueReferences scope t ++ [.library "java.util.Map"])))
  | .writeArray t => t.references ++ [.library documentHelper]
  | .writeCollection => [.library "java.util.Collection", .library documentHelper]
  | .writeMap => [.library "java.util.Map", .library documentHelper]

def standing (scope : Scope) : List Reference :=
  .self scope.frame :: lang "String" :: lang "Object" :: .library "org.dom4j.Element" ::
    .library documentHelper :: .library "java.util.Collection" :: .library "java.util.Map" ::
    scope.frame.entity.type.references

def mentioned (s : Session) (f : ClassFrame) : List Reference :=
  f.mentioned .serverRead .serverWrite (standing (scopeOf s f)) (readReferences (scopeOf s f))
    (writeReferences (scopeOf s f)) (requests s f)
    fun j => helperReferences (scopeOf s f) (served s f j)

/-- References for which a class is imported although there is no statement. -/
def passing (s : Session) (f : ClassFrame) : List Reference :=
  f.passing .serverRead (readReferences (scopeOf s f))

/-! ## Imports -/

theorem uses_parserOf (scope : Scope) (t : JavaType) :
    (parserOf t).flatMap (·.uses scope) = [] := by
  unfold parserOf
  cases ScalarKind.of? t with
  | none => rfl
  | some kind => cases kind <;> rfl

theorem uses_valueReferences (scope : Scope) (t : JavaType) :
    (valueReferences scope t).flatMap (·.uses scope) = scope.usesOfBuilder t := by
  unfold valueReferences
  cases h : scope.session.isEntity t with
  | true => exact (scope.usesOfBuilder_eq t).symm
  | false => exact (uses_parserOf scope t).trans (scope.usesOfBuilder_of_not_isEntity h).symm

theorem uses_readAddition (scope : Scope) (style : AccessStyle) (var : String) (p : Property) :
    (readAddition scope style var p : Addition (Job X)).uses =
      (readReferences scope p).flatMap (·.uses scope) := by
  unfold readAddition readReferences
  cases p.category with
  | basic => exact (uses_parserOf scope p.type).symm
  | entity => simp [Scope.usesOfBuilder_eq]
  | array t => cases ht : t.isArray <;> simp [ht]
  | collection kind t implementation =>
    simp [scope.usesOfType_eq_wrapper t, scope.usesOfType_eq implementation,
      Scope.uses_callAddition, Scope.usesOfBuilder_eq]
  | map key t implementation =>
    simp [scope.usesOfType_eq_wrapper key, scope.usesOfType_eq_wrapper t,
      scope.usesOfType_eq implementation]

theorem uses_writeAddition (scope : Scope) (var : String) (p : Property) :
    (writeAddition scope var p : Addition (Job X)).uses =
      (writeReferences scope p).flatMap (·.uses scope) := by
  unfold writeAddition writeReferences
  cases p.category with
  | basic => rfl
  | entity => simp [Scope.usesOfBuilder_eq]
  | array t =>
    cases t with
    | array u => rfl
    | primitive q | reference q =>
      simp [JavaType.isArray, JavaType.component?, Scope.uses_callAddition, Scope.usesOfBuilder_eq]
  | collection kind t implementation => simp [Scope.uses_callAddition, Scope.usesOfBuilder_eq]
  | map key t implementation => simp [Scope.uses_callAddition, Scope.usesOfBuilder_eq]

theorem uses_helperAddition (scope : Scope) (job : ServerHelper) :
    (helperAddition scope job : Addition (Job X)).uses =
      (helperReferences scope job).flatMap (·.uses scope) := by
  cases job with
  | readArray t =>
    simp [helperAddition, arrayAddition, helperReferences, uses_valueReferences,
      Reference.uses_library, scope.usesOfType_eq t]
  | readCollection t =>
    simp [helperAddition, collectionAddition, helperReferences, uses_valueReferences,
      Reference.uses_library, scope.usesOfType_eq_wrapper t]
  | readMap key t =>
    simp [helperAddition, mapAddition, helperReferences, uses_valueReferences,
      Reference.uses_library, scope.usesOfType_eq_wrapper key, scope.usesOfType_eq_wrapper t]
  | writeArray t =>
    simp [helperAddition, entryLoopAddition, helperReferences, Reference.uses_library,
      scope.usesOfType_eq t]
  | writeCollection | writeMap =>
    simp [helperAddition, entryLoopAddition, helperReferences, Reference.uses_library]

theorem mem_uses_standing {q : String} :
    q ∈ (standing scope).flatMap (·.uses scope) ↔
      q ∈ Handler.serverDialect.baseImports.flatMap scope.usesOf ∨
        q ∈ scope.usesOf documentHelper ∨ q ∈ scope.usesOf "java.util.Collection" ∨
          q ∈ scope.usesOf "java.util.Map" ∨ q ∈ usesOfBean scope := by
  have hbase : Handler.serverDialect.baseImports = ["org.dom4j.Element"] := rfl
  unfold standing usesOfBean
  rw [hbase, scope.usesOfType_eq]
  simp only [List.flatMap_cons, List.flatMap_nil, List.append_nil, List.nil_append, List.mem_append,
    lang, Reference.uses_library, Reference.uses_implicit, Reference.uses_self]

/-- What the methods of a builder import apart from what every builder does. -/
theorem mem_uses_standingAddition {q : String} :
    q ∈ Handler.serverDialect.baseImports.flatMap scope.usesOf ∨
        q ∈ (standingAddition scope : Addition (Job X)).uses ↔
      q ∈ (standing scope).flatMap (·.uses scope) ∨
        (∃ p ∈ scope.frame.attributes ++ scope.frame.elements, p.takesPart .serverRead = true ∧
          q ∈ (readReferences scope p).flatMap (·.uses scope)) ∨
        ∃ p ∈ scope.frame.elements, p.takesPart .serverWrite = true ∧
          q ∈ (writeReferences scope p).flatMap (·.uses scope) := by
  have hreads (ps : List Property) :=
    ClassFrame.mem_uses_ofProperties (d := .serverRead) (q := q)
      (uses_readAddition (X := X) scope .dom4j "o") ps
  have hwrites (ps : List Property) :=
    ClassFrame.mem_uses_ofProperties (d := .serverWrite) (q := q)
      (uses_writeAddition (X := X) scope "o") ps
  unfold standingAddition instanceAddition elementAddition beanFillAddition beanArrayAddition
    beanCollectionAddition beanMapAddition beanLoopAddition readsAddition writesAddition
  simp only [Addition.uses_append, Addition.uses_ofUses, Addition.uses_ofText, List.mem_append,
    List.not_mem_nil, hreads, hwrites, mem_uses_standing, or_and_right, exists_or]
  grind

/-- The imports for the references of a class are those of its dialect, methods and helpers. -/
theorem mem_uses_references (s : Session) (f : ClassFrame) (q : String) :
    q ∈ (mentioned s f ++ passing s f).flatMap (·.uses (scopeOf s f)) ↔
      q ∈ Handler.serverDialect.baseImports.flatMap (scopeOf s f).usesOf ∨
        q ∈ (standingAddition (scopeOf s f) : Addition (Job X)).uses ∨
        ∃ j ∈ requests s f,
          q ∈ (helperAddition (scopeOf s f) (served s f j) : Addition (Job X)).uses := by
  unfold mentioned passing
  rw [← or_assoc, mem_uses_standingAddition, ClassFrame.mem_uses_mentioned]
  simp only [uses_helperAddition]
  rfl

/-! ## Names in the code -/

theorem occurs_javaParse {kind : ScalarKind} (h : r ∈ parser kind) :
    Occurs r.name kind.javaParse.1 := by
  have hall : ∀ r ∈ parser kind, r.name.toList.isPrefixOf kind.javaParse.1.toList := by
    cases kind <;> decide
  exact .of_isPrefixOf (hall r h)

theorem occurs_parserOf (h : r ∈ parserOf t) :
    ∃ kind, ScalarKind.of? t = some kind ∧ Occurs r.name kind.javaParse.1 := by
  unfold parserOf at h
  cases hk : ScalarKind.of? t with
  | none =>
    rw [hk] at h
    cases h
  | some kind =>
    rw [hk] at h
    exact ⟨kind, rfl, occurs_javaParse h⟩

theorem occurs_valueText {inner : AccessStyle} (hi : inner.isPrimary = false) (var : String)
    (h : r ∈ valueReferences scope t) : Occurs r.name (valueText scope inner var t) := by
  unfold valueReferences at h
  cases he : scope.session.isEntity t with
  | true =>
    rw [he, if_pos rfl] at h
    unfold valueText
    rw [he, if_pos rfl]
    iterate 5 refine Occurs.append_right ?_ _
    exact Scope.occurs_builderName h
  | false =>
    rw [he, if_neg Bool.false_ne_true] at h
    obtain ⟨kind, hk, hocc⟩ := occurs_parserOf h
    rw [valueText_of_not_isEntity he, hk]
    cases inner with
    | dom4j => cases hi
    | as3 => cases hi
    | dom4jText => exact ((hocc.append_right _).append_right _).append_right _
    | dom4jKey =>
      exact ((((hocc.append_right _).append_right _).append_right _).append_right _).append_right _
    | as3Text => exact (hocc.append_right _).append_right _

/-- What precedes the element stands in the statement that reads a property. -/
theorem occurs_accessText (hs : p.isReadOnly = false) (lead tail : String)
    (placement : Option Placement) :
    Occurs lead (scope.accessText .dom4j "o" p lead tail placement) := by
  obtain ⟨setter, hs⟩ := Option.isSome_iff_exists.1 (Option.isNone_eq_false_iff.1 hs)
  rw [accessText_eq hs]
  unfold setText
  iterate 7 refine Occurs.append_right ?_ _
  exact (Occurs.refl lead).append_left _

section Lead
variable {a call types : String} {implementation : JavaType}

theorem occurs_fillLead_call (h : Occurs a call) :
    Occurs a (fillLead scope call implementation types) := by
  unfold fillLead
  iterate 7 refine Occurs.append_right ?_ _
  exact h

theorem occurs_fillLead_implementation (h : Occurs a implementation.simpleName) :
    Occurs a (fillLead scope call implementation types) :=
  (((h.append_left _).append_right _).append_right _).append_right _

theorem occurs_fillLead_types (h : Occurs a types) :
    Occurs a (fillLead scope call implementation types) :=
  (h.append_left _).append_right _

end Lead

theorem occurs_readAddition (hs : p.isReadOnly = false) (h : r ∈ readReferences scope p) :
    Occurs r.name (readAddition scope .dom4j "o" p : Addition (Job X)).text := by
  have hread {lead tail : String} {placement : Option Placement} (hocc : Occurs r.name lead) :
      Occurs r.name (scope.accessText .dom4j "o" p lead tail placement) :=
    hocc.trans (occurs_accessText hs lead tail placement)
  unfold readReferences at h
  unfold readAddition
  cases hc : p.category with
  | basic =>
    rw [hc] at h
    obtain ⟨kind, hk, hocc⟩ := occurs_parserOf h
    have hscalar : p.scalar? = some kind := by
      unfold Property.scalar?
      rw [if_pos hc, hk]
    unfold scalarText
    rw [hscalar]
    exact hread hocc
  | entity =>
    rw [hc] at h
    refine Occurs.append_left (hread ?_) _
    exact (((Scope.occurs_builderName h).append_right _).append_right _).append_right _
  | array t =>
    rw [hc] at h
    cases h
  | collection kind t implementation =>
    rw [hc] at h
    refine Occurs.append_left (Occurs.append_left (Occurs.append_left (hread ?_) _) _) _
    rcases List.mem_append.1 h with h | h
    · exact occurs_fillLead_implementation (JavaType.occurs_simpleName h)
    · rcases List.mem_append.1 h with h | h
      · exact occurs_fillLead_types (JavaType.occurs_wrapperName h)
      · exact occurs_fillLead_call (Scope.occurs_callOf h)
  | map key t implementation =>
    rw [hc] at h
    refine Occurs.append_left (Occurs.append_left (Occurs.append_left (Occurs.append_left
      (hread ?_) _) _) _) _
    rcases List.mem_append.1 h with h | h
    · exact occurs_fillLead_implementation (JavaType.occurs_simpleName h)
    · refine occurs_fillLead_types ?_
      rcases List.mem_append.1 h with h | h
      · exact ((JavaType.occurs_wrapperName h).append_right _).append_right _
      · exact (JavaType.occurs_wrapperName h).append_left _

theorem occurs_writeAddition (h : r ∈ writeReferences scope p) :
    Occurs r.name (writeAddition scope "o" p : Addition (Job X)).text := by
  have hwrite {call : String} (hocc : Occurs r.name call) :
      Occurs r.name (nestedText scope (onValue call "o" p) p) := by
    refine Occurs.append_right (Occurs.lineText ?_ _ 2) _
    refine Occurs.append_right (Occurs.append_left ?_ _) _
    unfold onValue
    iterate 5 refine Occurs.append_right ?_ _
    exact hocc
  unfold writeReferences at h
  unfold writeAddition
  cases hc : p.category with
  | basic =>
    rw [hc] at h
    cases h
  | entity =>
    rw [hc] at h
    refine Occurs.append_left (hwrite ?_) _
    exact ((Scope.occurs_builderName h).append_right _).append_right _
  | array t =>
    rw [hc] at h
    have hbuilder : Occurs r.name (arrayWriter scope t) := Scope.occurs_callOf h
    cases t with
    | array u => cases h
    | primitive q => exact (hwrite hbuilder).append_left _
    | reference q => exact (hwrite hbuilder).append_left _
  | collection kind t implementation =>
    rw [hc] at h
    exact (hwrite (Scope.occurs_callOf h)).append_left _
  | map key t implementation =>
    rw [hc] at h
    exact (hwrite (Scope.occurs_callOf h)).append_left _

section Texts
variable {a : String} (c : Config) {bound parameter name node type header : String}
  {statements : List String}

theorem occurs_fillText_bound (h : Occurs a bound) :
    Occurs a (fillText c bound parameter name statements) := by
  unfold fillText
  iterate 6 refine Occurs.append_right ?_ _
  refine Occurs.blockText ?_ c 1
  iterate 7 refine Occurs.append_right ?_ _
  exact h.append_left _

theorem occurs_fillText_statement {statement : String} (h : Occurs a statement)
    (hs : statement ∈ statements) : Occurs a (fillText c bound parameter name statements) := by
  unfold fillText
  iterate 3 refine Occurs.append_right ?_ _
  exact (h.linesText hs c 3).append_left _

theorem occurs_loopText_type (h : Occurs a type) :
    Occurs a (loopText c node name type parameter header statements) := by
  unfold loopText
  iterate 7 refine Occurs.append_right ?_ _
  refine Occurs.blockText ?_ c 1
  iterate 3 refine Occurs.append_right ?_ _
  exact h.append_left _

theorem occurs_loopText_documentHelper :
    Occurs "DocumentHelper" (loopText c node name type parameter header statements) := by
  have hlead : Occurs "DocumentHelper" "final Element el = DocumentHelper.createElement(\"" :=
    ⟨"final Element el = ", ".createElement(\"", rfl⟩
  unfold loopText
  iterate 5 refine Occurs.append_right ?_ _
  exact Occurs.append_left (((hlead.append_right _).append_right _).lineText c 2) _

end Texts

/-- References in the method of a helper stand in it. -/
theorem occurs_helperAddition {job : ServerHelper} (h : r ∈ helperReferences scope job) :
    Occurs r.name (helperAddition scope job : Addition (Job X)).text := by
  cases job with
  | readArray t =>
    unfold helperReferences at h
    unfold helperAddition arrayAddition
    simp only [List.mem_append, List.mem_singleton] at h
    rcases h with h | h | rfl
    · iterate 10 refine Occurs.append_right ?_ _
      refine Occurs.append_left (Occurs.blockText ?_ _ 1) _
      iterate 3 refine Occurs.append_right ?_ _
      exact (JavaType.occurs_simpleName h).append_left _
    · iterate 3 refine Occurs.append_right ?_ _
      refine Occurs.append_left (Occurs.lineText ?_ _ 3) _
      exact ((occurs_valueText rfl "e" h).append_left _).append_right _
    · iterate 8 refine Occurs.append_right ?_ _
      refine Occurs.append_left (Occurs.lineText ?_ _ 2) _
      exact ⟨"final ", " els = el.elements();", by decide⟩
  | readCollection t =>
    unfold helperReferences at h
    refine Occurs.append_left ?_ _
    simp only [List.mem_append, List.mem_singleton] at h
    rcases h with h | h | rfl
    · refine occurs_fillText_bound _ ?_
      exact ((JavaType.occurs_wrapperName h).append_left _).append_right _
    · refine occurs_fillText_statement _ ?_ (List.mem_cons_of_mem _ List.mem_cons_self)
      exact ((occurs_valueText rfl "el" h).append_left _).append_right _
    · refine occurs_fillText_bound _ ?_
      have hlead : Occurs "Collection" "Collection<" := ⟨"", "<", by decide⟩
      exact (hlead.append_right _).append_right _
  | readMap key t =>
    unfold helperReferences at h
    refine Occurs.append_left ?_ _
    simp only [List.mem_append, List.mem_singleton] at h
    rcases h with h | h | h | h | rfl
    · refine occurs_fillText_bound _ ?_
      iterate 3 refine Occurs.append_right ?_ _
      exact (JavaType.occurs_wrapperName h).append_left _
    · refine occurs_fillText_bound _ ?_
      exact ((JavaType.occurs_wrapperName h).append_left _).append_right _
    · refine occurs_fillText_statement _ ?_ (List.mem_cons_of_mem _ List.mem_cons_self)
      iterate 3 refine Occurs.append_right ?_ _
      exact (occurs_valueText rfl "el" h).append_left _
    · refine occurs_fillText_statement _ ?_ (List.mem_cons_of_mem _ List.mem_cons_self)
      refine Occurs.append_right (Occurs.append_left ?_ _) _
      have hvalue : Occurs r.name (valueText scope .dom4jText "el" t) := occurs_valueText rfl "el" h
      unfold entryText
      split
      · exact hvalue.append_left _
      · exact hvalue
    · refine occurs_fillText_bound _ ?_
      have hlead : Occurs "Map" "Map<" := ⟨"", "<", by decide⟩
      exact (((hlead.append_right _).append_right _).append_right _).append_right _
  | writeArray t =>
    unfold helperReferences at h
    refine Occurs.append_left ?_ _
    simp only [List.mem_append, List.mem_singleton] at h
    rcases h with h | rfl
    · exact occurs_loopText_type _ ((JavaType.occurs_simpleName h).append_right _)
    · exact occurs_loopText_documentHelper _
  | writeCollection =>
    unfold helperReferences at h
    refine Occurs.append_left ?_ _
    simp only [List.mem_cons, List.not_mem_nil, or_false] at h
    rcases h with rfl | rfl
    · exact occurs_loopText_type _ ⟨"", "<?>", by decide⟩
    · exact occurs_loopText_documentHelper _
  | writeMap =>
    unfold helperReferences at h
    refine Occurs.append_left ?_ _
    simp only [List.mem_cons, List.not_mem_nil, or_false] at h
    rcases h with rfl | rfl
    · exact occurs_loopText_type _ ⟨"", "<?, ?>", by decide⟩
    · exact occurs_loopText_documentHelper _

/-! ## Classes -/

section Built
variable {s : Session} (hc : s.catalog.NamesMethods) {e : Entity} {ps : List Property}
  {f : ClassFrame} {c : GeneratedClass}
  (h : Builder.Builds Handler.serverDialect s e ps f c)
include hc h

theorem occurs_of_mem_standing (hr : r ∈ standing (scopeOf s f)) : Occurs r.name c.source := by
  obtain ⟨hinstance, helement, hfill, harray, -, hmap⟩ := occurs_standing hc h
  unfold standing at hr
  simp only [List.mem_cons] at hr
  rcases hr with rfl | rfl | rfl | rfl | rfl | rfl | rfl | hr
  · exact (assembles_of_builds hc h).occurs_className
  · refine Occurs.trans (Occurs.append_left (Occurs.append_right ?_ _) _) helement
    iterate 2 refine Occurs.append_right ?_ _
    exact Occurs.append_left (Occurs.lineText ⟨"", " str = null;", by decide⟩ _ 2) _
  · refine Occurs.trans (Occurs.append_left ?_ _) hfill
    unfold fillText
    iterate 4 refine Occurs.append_right ?_ _
    exact Occurs.append_left (Occurs.blockText ⟨"for(", " obj : els.elements())", by decide⟩ _ 2) _
  · refine Occurs.trans (Occurs.append_left ?_ _) harray
    unfold loopText
    iterate 7 refine Occurs.append_right ?_ _
    refine Occurs.blockText ?_ _ 1
    iterate 5 refine Occurs.append_right ?_ _
    exact Occurs.append_right ⟨"public static ", " ", by decide⟩ _
  · exact Occurs.trans (Occurs.append_left (occurs_loopText_documentHelper _) _) harray
  · refine Occurs.trans (Occurs.append_left (occurs_fillText_bound _ ?_) _) hfill
    exact Occurs.append_right (Occurs.append_right ⟨"", "<", by decide⟩ _) _
  · refine Occurs.trans (Occurs.append_left (occurs_loopText_type _ ?_) _) hmap
    exact Occurs.append_right (Occurs.append_right ⟨"", "<?, ", by decide⟩ _) _
  · refine Occurs.trans (Occurs.append_left (Occurs.append_right ?_ _) _) hinstance
    iterate 2 refine Occurs.append_right ?_ _
    refine Occurs.append_left (Occurs.blockText ?_ _ 1) _
    iterate 3 refine Occurs.append_right ?_ _
    exact (JavaType.occurs_simpleName hr).append_left _

theorem occurs_of_mem_mentioned (hr : r ∈ mentioned s f) : Occurs r.name c.source := by
  refine ClassFrame.forall_mem_mentioned (P := fun r => Occurs r.name c.source)
    (fun r hr => occurs_of_mem_standing hc h hr) (fun p hp hd hs r hr => ?_)
    (fun p hp hd r hr => ?_) (fun j hj r hr => ?_) r hr
  · exact (occurs_readAddition hs hr).trans (occurs_readText hc h hp hd)
  · exact (occurs_writeAddition hr).trans (occurs_writeText hc h hp hd)
  · exact (occurs_helperAddition hr).trans (occurs_served hc h hj)

/-- A class with its references, those of `java.lang` seen without an import. -/
theorem refers_of_builds :
    ∃ imports, Refers .dom4j s.config ⟨f.package, f.className, imports, "java.lang"⟩
      (mentioned s f) (passing s f) c.source := by
  refine (assembles_of_builds hc h).refers (asks_standingAddition _) (fun j a ha => ?_)
    (mem_uses_references s f) (List.mem_append_left _ List.mem_cons_self)
    (fun r hr => occurs_of_mem_mentioned hc h hr) "java.lang"
  rw [asks_jobAddition] at ha
  cases ha

end Built

end XmlBinding.Server
