import XmlBinding.Proofs.Client.Code
import XmlBinding.Proofs.Client.Identity

/-!
# The methods of a client builder and their calls

* `Client.uses_readingCode`, `uses_writingCode` : what statements call;
* `Client.standingDefinitions` : the methods of every builder, `hasMethods_standingCode`;
* `Client.valueRequests` : what a helper asks for in turn; `hasMethods_helperCode`,
  `hasMethods_code` : the methods of helpers and of a whole body;
* `Client.definition` : what the method of a helper is named by, `definition_eq_of_identity_eq`.
-/

namespace XmlBinding.Client

open Code

variable {X : Type} {scope : Scope} {own : List MethodRef} {p : Property} {t : JavaType}

/-! ## Statements -/

def reference : ClientHelper → MethodRef
  | .readString => ⟨getString, []⟩
  | .readArray t => ⟨getBasicArray, [capitalize t.clientName]⟩
  | .readMap t => ⟨getBasicMap, [capitalize t.clientName]⟩
  | .writeMap => ⟨getBasicMapXml, []⟩

def standingMethods : List MethodRef :=
  [⟨getInstance, []⟩, ⟨getXml, []⟩, ⟨getBasicXml, []⟩, ⟨getEntityArray, []⟩,
    ⟨getEntityXmlList, []⟩, ⟨getBasicXmlList, []⟩, ⟨getEntityMap, []⟩, ⟨getEntityMapXml, []⟩]

theorem uses_sequenceCode (style : AccessStyle) (var : String) (p : Property) (t : JavaType) :
    (sequenceCode scope style var p t).Uses scope.session
      ((if scope.session.isEntity t then [] else [ClientHelper.readArray t]).map reference)
      standingMethods := by
  unfold sequenceCode
  cases style.isPrimary with
  | true =>
    refine uses_accessCode style scope.session.config var p _ _ ?_
    simp only [uses_cons, uses_nil, and_true]
    exact scope.uses_callCode _ (fun h => by simp [h, reference]) (by decide)
  | false => simp

/-- The code that reads a property calls the helpers that it asks for, and builders of entities. -/
theorem uses_readingCode (style : AccessStyle) (var : String)
    (hentity : p.category = .entity → scope.session.isEntity p.type = true) :
    (readingCode scope style var p).Uses scope.session
      ((readRequests scope.session p).map reference) standingMethods := by
  have hread {own : List MethodRef} {lead : Code} {tail : String}
      {placement : Option Placement} (h : lead.Uses scope.session own standingMethods) :=
    uses_accessCode style scope.session.config var p tail placement h
  unfold readingCode readRequests
  cases hc : p.category with
  | basic =>
    cases ScalarKind.of? p.type with
    | none => simp
    | some kind =>
      cases kind with
      | string => exact hread (by simpa using .call List.mem_cons_self)
      | _ => simp
  | entity => exact hread (by simpa using .callOf (hentity hc) (by decide))
  | array t => exact uses_sequenceCode style var p t
  | collection kind t implementation => exact uses_sequenceCode style var p t
  | map key t implementation =>
    cases style.isPrimary with
    | true =>
      refine hread ?_
      simp only [uses_cons, uses_nil, and_true]
      exact scope.uses_callCode _ (fun h => by simp [h, reference]) (by decide)
    | false => simp

/-- The line for a property calls the helpers that it asks for, the methods that write values, and
builders of entities. -/
theorem uses_writingCode (var : String)
    (hentity : p.category = .entity → scope.session.isEntity p.type = true) :
    (writingCode scope var p).Uses scope.session
      ((writeRequests scope.session p).map reference ++ standingMethods) standingMethods := by
  have hwrite {own : List MethodRef} {call : Piece}
      (h : call.Uses scope.session own standingMethods) :
      (literalCode scope call var p).Uses scope.session own standingMethods := by
    simp [literalCode, h]
  have hlist {own : List MethodRef} (t : JavaType) :
      (scope.callCode t "." getEntityXmlList ⟨getBasicXmlList, []⟩).Uses scope.session
        (own ++ standingMethods) standingMethods :=
    scope.uses_callCode _ (fun _ => List.mem_append_right _ (by decide)) (by decide)
  unfold writingCode writeRequests
  cases hc : p.category with
  | basic => exact hwrite (.call (List.mem_append_right _ (by decide)))
  | entity => exact hwrite (.callOf (hentity hc) (by decide))
  | array t => exact hwrite (hlist t)
  | collection kind t implementation => exact hwrite (hlist t)
  | map key t implementation =>
    exact hwrite (scope.uses_callCode _ (fun h => by simp [h, reference]) (by decide))

/-! ## Methods of every builder -/

def standingDefinitions (scope : Scope) : List (MethodRef × List Parameter) :=
  [(⟨getInstance, []⟩, [⟨"XML", "nod", ""⟩]),
    (⟨getXml, []⟩, [⟨model scope, "o", ""⟩, ⟨"String", "name", "=null"⟩]),
    (⟨getBasicXml, []⟩, [⟨"*", "value", ""⟩, ⟨"String", "name", ""⟩]),
    (⟨getEntityArray, []⟩, [⟨"XML", "nod", ""⟩]),
    (⟨getEntityXmlList, []⟩, [⟨"Array", "items", ""⟩, ⟨"String", "name", ""⟩]),
    (⟨getBasicXmlList, []⟩, [⟨"Array", "items", ""⟩, ⟨"String", "name", ""⟩]),
    (⟨getEntityMap, []⟩, [⟨"XML", "nod", ""⟩]),
    (⟨getEntityMapXml, []⟩, [⟨"Dictionary", "map", ""⟩, ⟨"String", "name", ""⟩])]

theorem map_standingDefinitions (scope : Scope) :
    (standingDefinitions scope).map Prod.fst = standingMethods := rfl

theorem hasMethods_childrenCode {docs : List String} {m : MethodRef} {type target : String}
    {statement : Code} (h : statement.Uses scope.session own standingMethods) :
    HasMethods scope.session own standingMethods [(m, [⟨"XML", "nod", ""⟩])]
      (childrenCode scope.session.config docs m type target statement) :=
  .method (by simp [h])

theorem hasMethods_listCode {docs : List String} {m : MethodRef} {parameter type header : String}
    {statements : List Code} (h : ∀ l ∈ statements, l.Uses scope.session own standingMethods) :
    HasMethods scope.session own standingMethods
      [(m, [⟨type, parameter, ""⟩, ⟨"String", "name", ""⟩])]
      (listCode scope.session.config docs m parameter type header statements) := by
  have hlines := uses_linesCode scope.session.config 4 h
  exact .method (by simp [hlines])

/-- The methods of every builder call one another and the helpers that they ask for. -/
theorem hasMethods_standingCode
    (hentity : ∀ p ∈ scope.frame.attributes ++ scope.frame.elements,
      p.category = .entity → scope.session.isEntity p.type = true) :
    HasMethods scope.session
      ((requests scope.session scope.frame).map reference ++ standingMethods) standingMethods
      (standingDefinitions scope) (standingCode scope) := by
  have hreads {ps : List Property} (hps : ps ⊆ scope.frame.attributes ++ scope.frame.elements) :
      (Code.ofProperties .clientRead (readingCode scope .as3 "o") ps).Uses scope.session
        ((requests scope.session scope.frame).map reference ++ standingMethods)
        standingMethods := by
    refine uses_ofProperties fun p hp hd => ?_
    refine (uses_readingCode .as3 "o" (hentity p (hps hp))).mono ?_
    refine List.Subset.trans (List.map_subset reference fun j hj => ?_)
      (List.subset_append_left _ _)
    exact ClassFrame.mem_requests_of_read (hps hp) hd hj
  have hwrites : (Code.ofProperties .clientWrite (writingCode scope "o")
      scope.frame.elements).Uses scope.session
        ((requests scope.session scope.frame).map reference ++ standingMethods)
        standingMethods := by
    refine uses_ofProperties fun p hp hd => ?_
    refine (uses_writingCode "o" (hentity p (List.mem_append_right _ hp))).mono ?_
    refine List.append_subset.2 ⟨?_, List.subset_append_right _ _⟩
    refine List.Subset.trans (List.map_subset reference fun j hj => ?_)
      (List.subset_append_left _ _)
    exact ClassFrame.mem_requests_of_write hp hd hj
  have hliterals : (literalsCode scope).Uses scope.session
      ((requests scope.session scope.frame).map reference ++ standingMethods)
      standingMethods := by
    unfold literalsCode
    dsimp only
    split
    · simp
    · simp [hwrites]
  have hcall {m : MethodRef} (hm : m ∈ standingMethods) : (Piece.call m).Uses scope.session
      ((requests scope.session scope.frame).map reference ++ standingMethods) standingMethods :=
    .call (List.mem_append_right _ hm)
  have hinstance := hcall (m := ⟨getInstance, []⟩) (by decide)
  have hxml := hcall (m := ⟨getXml, []⟩) (by decide)
  have hattributes := hreads (List.subset_append_left _ _)
  have helements := hreads (List.subset_append_right _ _)
  exact (HasMethods.method (by simp [hattributes, helements])).append
    ((HasMethods.method (by simp [hliterals])).append
      ((HasMethods.method (by simp)).append
        ((hasMethods_childrenCode (by simp [hinstance])).append
          ((hasMethods_listCode (by simp [hxml])).append
            ((hasMethods_listCode (by simp)).append
              ((hasMethods_childrenCode (by simp [enterCode, hinstance])).append
                (hasMethods_listCode (by simp [hxml]))))))))

/-! ## Helpers -/

/-- Helpers that the expression for one value asks for. -/
def valueRequests (s : Session) (t : JavaType) : List ClientHelper :=
  if s.isEntity t then [] else if ScalarKind.of? t = some .string then [.readString] else []

/-- Helpers that a helper asks for. -/
def helperRequests (s : Session) : ClientHelper → List ClientHelper
  | .readArray t | .readMap t => valueRequests s t
  | .readString | .writeMap => []

def parameters : ClientHelper → List Parameter
  | .readString | .readArray _ | .readMap _ => [⟨"XML", "nod", ""⟩]
  | .writeMap => [⟨"Dictionary", "map", ""⟩, ⟨"String", "name", ""⟩]

def definition (job : ClientHelper) : MethodRef × List Parameter := (reference job, parameters job)

theorem category_synthetic (s : Session) (t : JavaType) :
    (∃ c, t = .array c ∧ (s.synthetic t).category = .array c) ∨
      (s.synthetic t).category = if s.isEntity t then .entity else .basic := by
  cases t with
  | array c => exact .inl ⟨c, rfl, rfl⟩
  | primitive _ => exact .inr rfl
  | reference _ => exact .inr rfl

theorem asks_valueAddition_eq (scope : Scope) (t : JavaType) :
    (valueAddition scope t : Addition (Job X)).asks =
      (valueRequests scope.session t).map fun j => ⟨identity j, .inl j⟩ := by
  unfold valueAddition readAddition valueRequests
  rcases category_synthetic scope.session t with ⟨c, rfl, hc⟩ | hc
  · rw [hc]
    rfl
  · rw [hc]
    cases scope.session.isEntity t with
    | true => rfl
    | false =>
      have htype : (scope.session.synthetic t).type = t := rfl
      simp only [Bool.false_eq_true, if_false, htype]
      cases ScalarKind.of? t with
      | none => rfl
      | some kind => cases kind <;> rfl

theorem asks_helperAddition (scope : Scope) (job : ClientHelper) :
    (helperAddition scope job : Addition (Job X)).asks =
      (helperRequests scope.session job).map fun j => ⟨identity j, .inl j⟩ := by
  cases job with
  | readString | writeMap => rfl
  | readArray t | readMap t => exact asks_valueAddition_eq scope t

theorem uses_valueCode (t : JavaType) :
    (valueCode scope t).Uses scope.session ((valueRequests scope.session t).map reference)
      standingMethods := by
  unfold valueCode readingCode valueRequests
  rcases category_synthetic scope.session t with ⟨c, rfl, hc⟩ | hc
  · rw [hc]
    exact uses_nil
  · rw [hc]
    cases ht : scope.session.isEntity t with
    | true =>
      refine uses_accessCode .as3Text scope.session.config "n" _ _ _ ?_
      simpa using .callOf ht (by decide)
    | false =>
      have htype : (scope.session.synthetic t).type = t := rfl
      simp only [Bool.false_eq_true, if_false, htype]
      cases ScalarKind.of? t with
      | none => exact uses_nil
      | some kind =>
        cases kind with
        | string =>
          refine uses_accessCode .as3Text scope.session.config "n" _ _ _ ?_
          simpa using .call List.mem_cons_self
        | _ => simp

/-- Helpers call the helpers that they ask for, and builders of entities. -/
theorem hasMethods_helperCode (job : ClientHelper) :
    HasMethods scope.session ((helperRequests scope.session job).map reference) standingMethods
      [definition job] (helperCode scope job) := by
  cases job with
  | readString => exact .method (by simp)
  | readArray t =>
    have hvalue : (valueCode scope t).Uses scope.session
        ((valueRequests scope.session t).map reference) standingMethods := uses_valueCode t
    exact hasMethods_childrenCode (by simpa [helperRequests] using hvalue)
  | readMap t =>
    have hvalue : (valueCode scope t).Uses scope.session
        ((valueRequests scope.session t).map reference) standingMethods := uses_valueCode t
    exact hasMethods_childrenCode (by simpa [enterCode, helperRequests] using hvalue)
  | writeMap => exact hasMethods_listCode (by simp)

/-! ## Bodies -/

/-- A body has the methods of every builder and those of its helpers. They call one another, the
helpers that the properties ask for, and those that helpers ask for. -/
theorem hasMethods_code
    (hentity : ∀ p ∈ scope.frame.attributes ++ scope.frame.elements,
      p.category = .entity → scope.session.isEntity p.type = true) (jobs : List ClientHelper) :
    HasMethods scope.session
      ((requests scope.session scope.frame ++
        jobs.flatMap (helperRequests scope.session)).map reference ++ standingMethods)
      standingMethods (standingDefinitions scope ++ jobs.map definition) (code scope jobs) := by
  refine ((hasMethods_standingCode hentity).mono ?_).append (.flatMap fun j hj => ?_)
  · rw [List.map_append, List.append_assoc]
    refine List.append_subset.2 ⟨List.subset_append_left _ _, ?_⟩
    exact List.Subset.trans (List.subset_append_right _ _) (List.subset_append_right _ _)
  · refine (hasMethods_helperCode j).mono ?_
    refine List.Subset.trans (List.map_subset reference fun i hi => ?_)
      (List.subset_append_left _ _)
    exact List.mem_append_right _ (List.mem_flatMap.2 ⟨j, hj, hi⟩)

/-- Helpers of one identity have the same method. -/
theorem definition_eq_of_identity_eq {i j : ClientHelper} (h : identity i = identity j) :
    definition i = definition j := by
  cases identity_eq_iff.1 h with
  | readArray hn | readMap hn => simp only [definition, reference, parameters, hn]
  | readString | writeMap => rfl

end XmlBinding.Client
