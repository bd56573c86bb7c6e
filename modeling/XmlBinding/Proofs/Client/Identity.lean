import XmlBinding.Proofs.Client.Served

/-!
# Identities of helpers in a client builder

* `Client.Alike` : helpers of one kind, for types of one name in client code; `identity_eq_iff` :
  these are the helpers of one identity;
* `Client.valueOf` : what the expression for a value of a type adds, told by its scalar kind;
* `Client.helperAddition_eq_of_alike` : helpers of one identity are one and the same, if both read
  scalars or neither does.
-/

namespace XmlBinding

namespace ClientHelper

def valueType? : ClientHelper → Option JavaType
  | .readArray t | .readMap t => some t
  | .readString | .writeMap => none

def readsScalars (j : ClientHelper) : Bool :=
  j.valueType?.any fun t => (ScalarKind.of? t).isSome

end ClientHelper

namespace Client

variable {X : Type} {j k : ClientHelper} {t u : JavaType}

/-- Helpers of one kind for types of one name in client code, up to the case of its first letter. -/
inductive Alike : ClientHelper → ClientHelper → Prop
  | readString : Alike .readString .readString
  | readArray {t u : JavaType} (h : capitalize t.clientName = capitalize u.clientName) :
      Alike (.readArray t) (.readArray u)
  | readMap {t u : JavaType} (h : capitalize t.clientName = capitalize u.clientName) :
      Alike (.readMap t) (.readMap u)
  | writeMap : Alike .writeMap .writeMap

theorem eq_readString (h : identity j = ⟨getString, ""⟩) : j = .readString := by
  cases j with
  | readString => rfl
  | _ => simp [identity, getString, getBasicArray, getBasicMap, getBasicMapXml] at h

/-- An identity says which kind a helper is of, and what its type is called in client code. -/
theorem identity_eq_iff : identity j = identity k ↔ Alike j k := by
  constructor
  · intro h
    cases j with
    | readString =>
      obtain rfl := eq_readString h.symm
      exact .readString
    | readArray t =>
      obtain ⟨u, rfl, hu⟩ := eq_readArray h.symm
      exact .readArray hu.symm
    | readMap t =>
      obtain ⟨u, rfl, hu⟩ := eq_readMap h.symm
      exact .readMap hu.symm
    | writeMap =>
      obtain rfl := eq_writeMap h.symm
      exact .writeMap
  · intro h
    cases h with
    | readArray h | readMap h => exact congrArg (HelperId.mk _) h
    | readString => rfl
    | writeMap => rfl

/-! ## One helper for many types -/

/-- What the expression adds that reads a value, by its scalar kind. -/
def valueOf (scope : Scope) : Option ScalarKind → Addition (Job X)
  | none => .empty
  | some .string =>
    .ofAsk ⟨getString, ""⟩ (.inl .readString) ++
      .ofText (scope.nameOf getString [] ++ "(" ++ "n" ++ ")")
  | some kind => .ofText ((conversion kind).1 ++ "n" ++ (conversion kind).2)

theorem scalarAddition_synthetic (scope : Scope) (t : JavaType) (kind : ScalarKind) :
    (scalarAddition scope .as3Text "n" (scope.session.synthetic t) kind : Addition (Job X)) =
      valueOf scope (some kind) := by
  cases kind <;> rfl

/-- Of the type of a value that is no entity, the expression depends on the scalar kind alone. -/
theorem valueAddition_eq (scope : Scope) (h : scope.session.isEntity t = false) :
    (valueAddition scope t : Addition (Job X)) = valueOf scope (ScalarKind.of? t) := by
  have hbasic (hcategory : (scope.session.synthetic t).category = .basic) :
      (valueAddition scope t : Addition (Job X)) = valueOf scope (ScalarKind.of? t) := by
    have htype : (scope.session.synthetic t).type = t := rfl
    unfold valueAddition readAddition
    rw [hcategory]
    dsimp only
    rw [htype]
    cases ScalarKind.of? t with
    | none => rfl
    | some kind => exact scalarAddition_synthetic scope t kind
  cases t with
  | primitive p => exact hbasic rfl
  | array c => rfl
  | reference q =>
    refine hbasic ?_
    unfold Session.synthetic
    dsimp only [JavaType.component?]
    rw [h]
    rfl

/-! ## Client names of scalars -/

/-- Types of client code that scalars have. -/
def scalarNames : List String := ["Boolean", "int", "Number", "String"]

theorem clientName_eq {kind : ScalarKind} (h : ScalarKind.of? t = some kind) :
    t.clientName = kind.clientName := by
  unfold ScalarKind.of? at h
  split at h <;> cases h <;> decide

theorem clientName_mem_scalarNames (kind : ScalarKind) : kind.clientName ∈ scalarNames := by
  cases kind <;> decide

theorem eq_of_capitalize_scalarNames :
    ∀ a ∈ scalarNames, ∀ b ∈ scalarNames, capitalize a = capitalize b → a = b := by
  decide

/-- The type in client code decides how a scalar is read. -/
theorem valueOf_eq_of_clientName (scope : Scope) {kind kind' : ScalarKind}
    (h : kind.clientName = kind'.clientName) :
    (valueOf scope (some kind) : Addition (Job X)) = valueOf scope (some kind') := by
  cases kind <;> cases kind' <;> first | rfl | exact absurd h (by decide)

theorem valueOf_eq (scope : Scope) (hname : capitalize t.clientName = capitalize u.clientName)
    (hscalar : (ScalarKind.of? t).isSome = (ScalarKind.of? u).isSome) :
    (valueOf scope (ScalarKind.of? t) : Addition (Job X)) = valueOf scope (ScalarKind.of? u) := by
  cases ht : ScalarKind.of? t with
  | none =>
    rw [ht] at hscalar
    rw [Option.isSome_eq_false_iff.1 hscalar.symm |> Option.isNone_iff_eq_none.1]
  | some kind =>
    rw [ht] at hscalar
    obtain ⟨kind', hu⟩ := Option.isSome_iff_exists.1 hscalar.symm
    rw [clientName_eq ht, clientName_eq hu] at hname
    rw [hu]
    exact valueOf_eq_of_clientName scope (eq_of_capitalize_scalarNames _
      (clientName_mem_scalarNames kind) _ (clientName_mem_scalarNames kind') hname)

/-! ## Helpers of one identity -/

/-- Helpers are asked for only where values are no entities. -/
theorem isEntity_of_mem_requests {s : Session} {f : ClassFrame} (hj : j ∈ requests s f)
    (ht : j.valueType? = some t) : s.isEntity t = false := by
  have hunless {u : JavaType} {k : ClientHelper} (hu : k.valueType? = some u)
      (hj : j ∈ if s.isEntity u then [] else [k]) : s.isEntity t = false := by
    cases he : s.isEntity u with
    | true =>
      rw [he] at hj
      cases hj
    | false =>
      rw [he] at hj
      obtain rfl := List.mem_singleton.1 hj
      cases ht.symm.trans hu
      exact he
  obtain ⟨p, -, ⟨-, hj⟩ | ⟨-, hj⟩⟩ := ClassFrame.exists_of_mem_requests hj
  · unfold readRequests at hj
    cases hc : p.category with
    | basic =>
      rw [hc] at hj
      dsimp only at hj
      split at hj
      · rw [List.mem_singleton.1 hj] at ht
        cases ht
      · cases hj
    | entity => rw [hc] at hj; cases hj
    | array u => rw [hc] at hj; exact hunless rfl hj
    | collection kind u implementation => rw [hc] at hj; exact hunless rfl hj
    | map key u implementation => rw [hc] at hj; exact hunless rfl hj
  · unfold writeRequests at hj
    cases hc : p.category with
    | map key u implementation =>
      rw [hc] at hj
      dsimp only at hj
      split at hj
      · cases hj
      · rw [List.mem_singleton.1 hj] at ht
        cases ht
    | _ => rw [hc] at hj; cases hj

/-- Helpers of one identity are the same, letter by letter, if both read scalars or neither does. -/
theorem helperAddition_eq_of_alike {s : Session} {f : ClassFrame} (hj : j ∈ requests s f)
    (hk : k ∈ requests s f) (h : Alike j k) (hscalar : j.readsScalars = k.readsScalars) :
    (helperAddition (scopeOf s f) j : Addition (Job X)) = helperAddition (scopeOf s f) k := by
  have hvalues {t u : JavaType} (key type target : String) (statement : String → String)
      (ht : j.valueType? = some t) (hu : k.valueType? = some u)
      (hname : capitalize t.clientName = capitalize u.clientName) :
      (valuesAddition (scopeOf s f) key type target statement t : Addition (Job X)) =
        valuesAddition (scopeOf s f) key type target statement u := by
    have hsame : (ScalarKind.of? t).isSome = (ScalarKind.of? u).isSome := by
      unfold ClientHelper.readsScalars at hscalar
      rw [ht, hu] at hscalar
      exact hscalar
    unfold valuesAddition
    rw [valueAddition_eq (scopeOf s f) (isEntity_of_mem_requests hj ht),
      valueAddition_eq (scopeOf s f) (isEntity_of_mem_requests hk hu),
      valueOf_eq (scopeOf s f) hname hsame, hname]
  cases h with
  | readString => rfl
  | readArray h =>
    unfold helperAddition
    exact hvalues getBasicArray "Array" "items" _ rfl rfl h
  | readMap h =>
    unfold helperAddition
    exact hvalues getBasicMap "Dictionary" "map" _ rfl rfl h
  | writeMap => rfl

end Client

end XmlBinding
