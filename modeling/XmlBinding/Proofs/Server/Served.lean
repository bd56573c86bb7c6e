import XmlBinding.Proofs.Form
import XmlBinding.Proofs.Server.Class

/-!
# Helpers in a server builder

* `Server.requests` : the helpers a class asks for, in order;
* `Server.served` : the one that does a job, the first asked for with the same identity;
* `Server.assembles_of_builds`, `occurs_served` : what stands in a class.
-/

namespace XmlBinding.Server

variable {X : Type} {scope : Scope} {p : Property} {t : JavaType}

/-! ## Requested helpers -/

def identity : ServerHelper → HelperId
  | .readArray t => ⟨getArray, t.simpleName⟩
  | .readCollection t => ⟨getCollection, t.wrapperName⟩
  | .readMap key entry => ⟨getMap, mapTypes key entry⟩
  | .writeArray t => ⟨getArrayElement, t.simpleName⟩
  | .writeCollection => ⟨getCollectionElement, ""⟩
  | .writeMap => ⟨getMapElement, ""⟩

/-- Helpers that reading a property asks for. -/
def readRequests (s : Session) (p : Property) : List ServerHelper :=
  match p.category with
  | .array t => if t.isArray then [] else [.readArray t]
  | .collection _ t _ => if s.isEntity t then [] else [.readCollection t]
  | .map key entry _ => [.readMap key entry]
  | .basic | .entity => []

/-- Helpers that writing a property asks for. -/
def writeRequests (s : Session) (p : Property) : List ServerHelper :=
  match p.category with
  | .array t => if t.isArray || s.isEntity t then [] else [.writeArray t]
  | .collection _ t _ => if s.isEntity t then [] else [.writeCollection]
  | .map _ t _ => if s.isEntity t then [] else [.writeMap]
  | .basic | .entity => []

/-- Helpers that the class of a frame asks for, in order. -/
def requests (s : Session) (f : ClassFrame) : List ServerHelper :=
  f.requests .serverRead .serverWrite (readRequests s) (writeRequests s)

def served (s : Session) (f : ClassFrame) (job : ServerHelper) : ServerHelper :=
  servedBy identity (requests s f) job

theorem asks_readAddition (scope : Scope) (style : AccessStyle) (var : String) (p : Property) :
    (readAddition scope style var p : Addition (Job X)).asks =
      (readRequests scope.session p).map fun j => ⟨identity j, .inl j⟩ := by
  unfold readAddition readRequests
  cases p.category with
  | basic => rfl
  | entity => rfl
  | array t => cases ht : t.isArray <;> simp [ht, identity]
  | collection kind t implementation =>
    cases ht : scope.session.isEntity t <;> simp [Scope.asks_callAddition, ht, identity]
  | map key entry implementation => simp [identity]

theorem asks_writeAddition (scope : Scope) (var : String) (p : Property) :
    (writeAddition scope var p : Addition (Job X)).asks =
      (writeRequests scope.session p).map fun j => ⟨identity j, .inl j⟩ := by
  unfold writeAddition writeRequests
  cases p.category with
  | basic => rfl
  | entity => rfl
  | array t =>
    cases ht : t.isArray <;> cases he : scope.session.isEntity t <;>
      simp [Scope.asks_callAddition, ht, he, identity]
  | collection kind t implementation =>
    cases he : scope.session.isEntity t <;> simp [Scope.asks_callAddition, he, identity]
  | map key t implementation =>
    cases he : scope.session.isEntity t <;> simp [Scope.asks_callAddition, he, identity]

theorem asks_standingAddition (scope : Scope) :
    (standingAddition scope : Addition (Job X)).asks =
      (requests scope.session scope.frame).map fun j => ⟨identity j, .inl j⟩ := by
  have hreads (ps : List Property) :=
    Addition.asks_ofProperties_of_forall (d := .serverRead)
      (asks_readAddition (X := X) scope .dom4j "o") ps
  have hwrites (ps : List Property) :=
    Addition.asks_ofProperties_of_forall (d := .serverWrite)
      (asks_writeAddition (X := X) scope "o") ps
  unfold standingAddition instanceAddition elementAddition beanFillAddition beanArrayAddition
    beanCollectionAddition beanMapAddition beanLoopAddition requests ClassFrame.requests
    readsAddition writesAddition
  simp only [Addition.asks_append, Addition.asks_ofUses, Addition.asks_ofText, List.nil_append,
    List.append_nil, hreads, hwrites, List.filter_append, List.flatMap_append, List.map_append,
    List.append_assoc]

theorem identity_served (s : Session) (f : ClassFrame) (job : ServerHelper) :
    identity (served s f job) = identity job :=
  identity_servedBy identity (requests s f) job

/-! ### Jobs of a kind -/

theorem eq_readArray {j : ServerHelper} {n : String} (h : identity j = ⟨getArray, n⟩) :
    ∃ t, j = .readArray t ∧ t.simpleName = n := by
  cases j <;> simp_all [identity, getArray, getCollection, getMap, getArrayElement,
    getCollectionElement, getMapElement]

theorem eq_readCollection {j : ServerHelper} {n : String} (h : identity j = ⟨getCollection, n⟩) :
    ∃ t, j = .readCollection t ∧ t.wrapperName = n := by
  cases j <;> simp_all [identity, getArray, getCollection, getMap, getArrayElement,
    getCollectionElement, getMapElement]

theorem eq_readMap {j : ServerHelper} {n : String} (h : identity j = ⟨getMap, n⟩) :
    ∃ key entry, j = .readMap key entry ∧ mapTypes key entry = n := by
  cases j with
  | readMap key entry => exact ⟨key, entry, rfl, congrArg HelperId.typeName h⟩
  | _ => simp [identity, getArray, getCollection, getMap, getArrayElement, getCollectionElement,
      getMapElement] at h

theorem eq_writeArray {j : ServerHelper} {n : String} (h : identity j = ⟨getArrayElement, n⟩) :
    ∃ t, j = .writeArray t ∧ t.simpleName = n := by
  cases j <;> simp_all [identity, getArray, getCollection, getMap, getArrayElement,
    getCollectionElement, getMapElement]

theorem eq_writeCollection {j : ServerHelper} {n : String}
    (h : identity j = ⟨getCollectionElement, n⟩) : j = .writeCollection := by
  cases j <;> simp_all [identity, getArray, getCollection, getMap, getArrayElement,
    getCollectionElement, getMapElement]

theorem eq_writeMap {j : ServerHelper} {n : String} (h : identity j = ⟨getMapElement, n⟩) :
    j = .writeMap := by
  cases j <;> simp_all [identity, getArray, getCollection, getMap, getArrayElement,
    getCollectionElement, getMapElement]

/-! ## Classes -/

section Built
variable {s : Session} (hc : s.catalog.NamesMethods) {e : Entity} {ps : List Property}
  {f : ClassFrame} {c : GeneratedClass}
  (h : Builder.Builds Handler.serverDialect s e ps f c)
include hc h

theorem readable_of_builds {p : Property} (hp : p ∈ f.attributes ++ f.elements) :
    ¬Unreadable s p := by
  intro hu
  obtain ⟨failure, -, hr⟩ := render_refuses hc hp hu
  rw [h.rendered] at hr
  cases hr

theorem assembles_of_builds :
    Handler.serverDialect.Assembles s f (standingAddition (scopeOf s f))
      (jobAddition (scopeOf s f)) c := by
  rcases render_assembles hc (fun p hp => readable_of_builds hc h hp) with
    ⟨c', hr, ha⟩ | ⟨failure, -, hr⟩
  · rw [h.rendered] at hr
    cases hr
    exact ha
  · rw [h.rendered] at hr
    cases hr

/-- The method of a helper that is asked for stands in the class. -/
theorem occurs_served {job : ServerHelper} (hj : job ∈ requests s f) :
    Occurs (helperAddition (scopeOf s f) (served s f job) : Addition (Job Empty)).text
      c.source := by
  have hocc := (assembles_of_builds hc h).occurs_served (asks_standingAddition _) hj
  exact hocc

/-- A class has the methods that read and write a bean, and those by which other classes read and
write its beans. -/
theorem occurs_standing :
    Occurs (instanceAddition (scopeOf s f) : Addition (Job Empty)).text c.source ∧
    Occurs (elementAddition (scopeOf s f) : Addition (Job Empty)).text c.source ∧
    Occurs (beanFillAddition (scopeOf s f) : Addition (Job Empty)).text c.source ∧
    Occurs (beanArrayAddition (scopeOf s f) : Addition (Job Empty)).text c.source ∧
    Occurs (beanCollectionAddition (scopeOf s f) : Addition (Job Empty)).text c.source ∧
    Occurs (beanMapAddition (scopeOf s f) : Addition (Job Empty)).text c.source := by
  have hall := (assembles_of_builds hc h).occurs_methods
  obtain ⟨hinstance, hall⟩ := Addition.occurs_of_append hall
  obtain ⟨helement, hall⟩ := Addition.occurs_of_append hall
  obtain ⟨hfill, hall⟩ := Addition.occurs_of_append hall
  obtain ⟨harray, hall⟩ := Addition.occurs_of_append hall
  obtain ⟨hcollection, hmap⟩ := Addition.occurs_of_append hall
  exact ⟨hinstance, helement, hfill, harray, hcollection, hmap⟩

end Built

end XmlBinding.Server
