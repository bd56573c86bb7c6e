import XmlBinding.Proofs.Client.Class
import XmlBinding.Proofs.Form

/-!
# Helpers in a client builder

* `Client.requests` : the helpers the methods of every builder ask for, in order;
* `Client.served` : the one that does a job, the first asked for with the same identity;
* `Client.assembles_of_builds`, `occurs_served` : what stands in a class.
-/

namespace XmlBinding.Client

variable {X : Type} {scope : Scope} {p : Property} {t : JavaType}

/-! ## Requested helpers -/

def identity : ClientHelper → HelperId
  | .readString => ⟨getString, ""⟩
  | .readArray t => ⟨getBasicArray, capitalize t.clientName⟩
  | .readMap t => ⟨getBasicMap, capitalize t.clientName⟩
  | .writeMap => ⟨getBasicMapXml, ""⟩

/-- Helpers that reading a property asks for. -/
def readRequests (s : Session) (p : Property) : List ClientHelper :=
  match p.category with
  | .basic => if ScalarKind.of? p.type = some .string then [.readString] else []
  | .entity => []
  | .array t | .collection _ t _ => if s.isEntity t then [] else [.readArray t]
  | .map _ t _ => if s.isEntity t then [] else [.readMap t]

/-- Helpers that writing a property asks for. -/
def writeRequests (s : Session) (p : Property) : List ClientHelper :=
  match p.category with
  | .map _ t _ => if s.isEntity t then [] else [.writeMap]
  | .basic | .entity | .array _ | .collection .. => []

/-- Helpers that the methods of every builder ask for, in order. -/
def requests (s : Session) (f : ClassFrame) : List ClientHelper :=
  f.requests .clientRead .clientWrite (readRequests s) (writeRequests s)

def served (s : Session) (f : ClassFrame) (job : ClientHelper) : ClientHelper :=
  servedBy identity (requests s f) job

theorem asks_sequenceAddition (scope : Scope) (var : String) (p : Property) (t : JavaType) :
    (sequenceAddition scope .as3 var p t : Addition (Job X)).asks =
      (if scope.session.isEntity t then [] else [ClientHelper.readArray t]).map
        fun j => ⟨identity j, .inl j⟩ := by
  have hprimary : AccessStyle.as3.isPrimary = true := rfl
  unfold sequenceAddition
  rw [if_pos hprimary, Addition.asks_append, Scope.asks_callAddition]
  cases scope.session.isEntity t <;> rfl

theorem asks_readAddition (scope : Scope) (var : String) (p : Property) :
    (readAddition scope .as3 var p : Addition (Job X)).asks =
      (readRequests scope.session p).map fun j => ⟨identity j, .inl j⟩ := by
  have hprimary : AccessStyle.as3.isPrimary = true := rfl
  unfold readAddition readRequests
  cases p.category with
  | basic =>
    cases hk : ScalarKind.of? p.type with
    | none => rfl
    | some kind => cases kind <;> simp [scalarAddition, identity]
  | entity => rfl
  | array t => exact asks_sequenceAddition scope var p t
  | collection kind t implementation => exact asks_sequenceAddition scope var p t
  | map key t implementation =>
    dsimp only
    rw [if_pos hprimary, Addition.asks_append, Scope.asks_callAddition]
    cases scope.session.isEntity t <;> rfl

theorem asks_writeAddition (scope : Scope) (var : String) (p : Property) :
    (writeAddition scope var p : Addition (Job X)).asks =
      (writeRequests scope.session p).map fun j => ⟨identity j, .inl j⟩ := by
  unfold writeAddition writeRequests
  cases p.category with
  | basic => rfl
  | entity => rfl
  | array t => rfl
  | collection kind t implementation => rfl
  | map key t implementation =>
    dsimp only
    rw [Addition.asks_append, Scope.asks_callAddition]
    cases scope.session.isEntity t <;> rfl

theorem asks_standingAddition (scope : Scope) :
    (standingAddition scope : Addition (Job X)).asks =
      (requests scope.session scope.frame).map fun j => ⟨identity j, .inl j⟩ := by
  have hreads (ps : List Property) :=
    Addition.asks_ofProperties_of_forall (d := .clientRead)
      (asks_readAddition (X := X) scope "o") ps
  have hwrites (ps : List Property) :=
    Addition.asks_ofProperties_of_forall (d := .clientWrite)
      (asks_writeAddition (X := X) scope "o") ps
  unfold standingAddition instanceAddition xmlAddition basicXmlAddition beanArrayAddition
    beanMapAddition beanXmlListAddition basicXmlListAddition beanMapXmlAddition beanChildrenAddition
    beanListAddition requests ClassFrame.requests readsAddition writesAddition
  simp only [Addition.asks_append, Addition.asks_ofUses, Addition.asks_ofText, List.nil_append,
    List.append_nil, hreads, hwrites, List.filter_append, List.flatMap_append, List.map_append,
    List.append_assoc]

theorem identity_served (s : Session) (f : ClassFrame) (job : ClientHelper) :
    identity (served s f job) = identity job :=
  identity_servedBy identity (requests s f) job

/-! ### Jobs of a kind -/

theorem eq_readArray {j : ClientHelper} {n : String} (h : identity j = ⟨getBasicArray, n⟩) :
    ∃ t, j = .readArray t ∧ capitalize t.clientName = n := by
  cases j with
  | readArray t => exact ⟨t, rfl, congrArg HelperId.typeName h⟩
  | _ => simp [identity, getString, getBasicArray, getBasicMap, getBasicMapXml] at h

theorem eq_readMap {j : ClientHelper} {n : String} (h : identity j = ⟨getBasicMap, n⟩) :
    ∃ t, j = .readMap t ∧ capitalize t.clientName = n := by
  cases j with
  | readMap t => exact ⟨t, rfl, congrArg HelperId.typeName h⟩
  | _ => simp [identity, getString, getBasicArray, getBasicMap, getBasicMapXml] at h

theorem eq_writeMap {j : ClientHelper} {n : String} (h : identity j = ⟨getBasicMapXml, n⟩) :
    j = .writeMap := by
  cases j with
  | writeMap => rfl
  | _ => simp [identity, getString, getBasicArray, getBasicMap, getBasicMapXml] at h

/-! ## Classes -/

section Built
variable {s : Session} (hc : s.catalog.NamesMethods) {e : Entity} {ps : List Property}
  {f : ClassFrame} {c : GeneratedClass}
  (h : Builder.Builds Handler.clientDialect s e ps f c)
include hc h

theorem assembles_of_builds :
    Handler.clientDialect.Assembles s f (standingAddition (scopeOf s f))
      (jobAddition (scopeOf s f)) c := by
  rcases render_assembles hc f with ⟨c', hr, ha⟩ | ⟨failure, -, hr⟩
  · rw [h.rendered] at hr
    cases hr
    exact ha
  · rw [h.rendered] at hr
    cases hr

/-- The method of a helper that is asked for stands in the class. -/
theorem occurs_served {job : ClientHelper} (hj : job ∈ requests s f) :
    Occurs (helperAddition (scopeOf s f) (served s f job) : Addition (Job Empty)).text
      c.source := by
  have hocc := (assembles_of_builds hc h).occurs_served (asks_standingAddition _) hj
  exact hocc

/-- A class has the methods that read and write a model, those by which its literals write values,
and those by which other classes read and write its models. -/
theorem occurs_standing :
    Occurs (instanceAddition (scopeOf s f) : Addition (Job Empty)).text c.source ∧
    Occurs (xmlAddition (scopeOf s f) : Addition (Job Empty)).text c.source ∧
    Occurs (basicXmlAddition (scopeOf s f) : Addition (Job Empty)).text c.source ∧
    Occurs (beanArrayAddition (scopeOf s f) : Addition (Job Empty)).text c.source ∧
    Occurs (beanXmlListAddition (scopeOf s f) : Addition (Job Empty)).text c.source ∧
    Occurs (basicXmlListAddition (scopeOf s f) : Addition (Job Empty)).text c.source ∧
    Occurs (beanMapAddition (scopeOf s f) : Addition (Job Empty)).text c.source ∧
    Occurs (beanMapXmlAddition (scopeOf s f) : Addition (Job Empty)).text c.source := by
  have hall := (assembles_of_builds hc h).occurs_methods
  obtain ⟨hinstance, hall⟩ := Addition.occurs_of_append hall
  obtain ⟨hxml, hall⟩ := Addition.occurs_of_append hall
  obtain ⟨hbasicXml, hall⟩ := Addition.occurs_of_append hall
  obtain ⟨hbeanArray, hall⟩ := Addition.occurs_of_append hall
  obtain ⟨hbeanList, hall⟩ := Addition.occurs_of_append hall
  obtain ⟨hbasicList, hall⟩ := Addition.occurs_of_append hall
  obtain ⟨hbeanMap, hbeanMapXml⟩ := Addition.occurs_of_append hall
  exact ⟨hinstance, hxml, hbasicXml, hbeanArray, hbeanList, hbasicList, hbeanMap, hbeanMapXml⟩

end Built

end XmlBinding.Client
