import XmlBinding.Client
import XmlBinding.Proofs.Emission.Makes

/-!
# What reading a property adds to a client builder

* `Client.makes_readString`, `makes_readEntity`, … : one lemma for each writer;
* `Client.dispatch_readers_basic`, `dispatch_readers_sequence`, … : which writer takes a property;
* `Client.readAddition`, `makes_read` : the code that reads a property in a style;
* `Client.valueAddition`, `makes_valueExpression` : the expression that reads one element or entry.
-/

namespace XmlBinding.Client

open Emit

variable {X : Type} {scope : Scope} {style : AccessStyle} {p : Property} {t : JavaType}

/-! ## The writers -/

/-- What ends a call on a child element. -/
def nodeEnd (style : AccessStyle) : String := if style.isPrimary then "[0])" else ")"

theorem makes_nodeTail :
    Makes scope style (nodeTail : Emit (Job X) String) (nodeEnd style) .empty :=
  makes_style.map fun style => nodeEnd style

theorem makes_readScalar (lead tail var : String) (p : Property) :
    Makes scope style (readScalar lead tail var p : Emit (Job X) Unit) ()
      (.ofText (scope.accessText style var p lead tail none)) :=
  makes_access var p lead tail none

/-- The statement that reads a string by its helper. -/
def stringText (scope : Scope) (style : AccessStyle) (var : String) (p : Property) : String :=
  scope.accessText style var p (scope.nameOf getString [] ++ "(")
    (if p.node.isAttribute then ")" else nodeEnd style) none

/-- The method that reads an array or a collection. -/
def sequenceReader (scope : Scope) (t : JavaType) : String :=
  scope.callOf t "." getEntityArray getBasicArray [capitalize t.clientName]

def mapReader (scope : Scope) (t : JavaType) : String :=
  scope.callOf t "." getEntityMap getBasicMap [capitalize t.clientName]

section Named
variable (hc : scope.session.catalog.NamesMethods)
include hc

theorem makes_readString (var : String) (p : Property) :
    Makes scope style (readString var p : Emit (Job X) Unit) ()
      (.ofAsk ⟨getString, ""⟩ (.inl .readString) ++ .ofText (stringText scope style var p)) := by
  unfold readString stringText
  refine (makes_methodName hc (by decide) []).bind_right ((makes_request _ _).bind ?_)
  cases p.node.isAttribute with
  | true => exact (makes_pure _).bind_right (makes_access var p _ _ none)
  | false => exact makes_nodeTail.bind_right (makes_access var p _ _ none)

theorem makes_readEntity (var : String) (p : Property) :
    Makes scope style (readEntity var p : Emit (Job X) Unit) ()
      (.ofUses (scope.usesOfBuilder p.type) ++
        .ofText (scope.accessText style var p
          (scope.builderName p.type ++ "." ++ scope.nameOf getInstance [] ++ "(") (nodeEnd style)
          (some .element))) := by
  unfold readEntity
  refine (makes_builderRef p.type).bind ((makes_methodName hc (by decide) []).bind_right ?_)
  exact makes_nodeTail.bind_right (makes_access var p _ _ _)

theorem makes_readBasicArray (h : p.category.element? = some t) (var : String) :
    Makes scope style (readBasicArray var p : Emit (Job X) Unit) ()
      (.ofAsk ⟨getBasicArray, capitalize t.clientName⟩ (.inl (.readArray t)) ++
        .ofText (scope.accessText style var p
          (scope.nameOf getBasicArray [capitalize t.clientName] ++ "(") "[0])"
          (some .element))) := by
  unfold readBasicArray
  rw [h]
  refine (makes_methodName hc (by decide) _).bind_right ((makes_request _ _).bind ?_)
  exact makes_access var p _ _ _

theorem makes_readEntityArray (h : p.category.element? = some t) (var : String) :
    Makes scope style (readEntityArray var p : Emit (Job X) Unit) ()
      (.ofUses (scope.usesOfBuilder t) ++
        .ofText (scope.accessText style var p
          (scope.builderName t ++ "." ++ scope.nameOf getEntityArray [] ++ "(") "[0])"
          (some .element))) := by
  unfold readEntityArray
  rw [h]
  refine (makes_builderRef t).bind ((makes_methodName hc (by decide) []).bind_right ?_)
  exact makes_access var p _ _ _

theorem makes_readBasicMap {key implementation : JavaType}
    (h : p.category = .map key t implementation) (var : String) :
    Makes scope style (readBasicMap var p : Emit (Job X) Unit) ()
      (.ofAsk ⟨getBasicMap, capitalize t.clientName⟩ (.inl (.readMap t)) ++
        .ofText (scope.accessText style var p
          (scope.nameOf getBasicMap [capitalize t.clientName] ++ "(") "[0])" (some .element))) := by
  unfold readBasicMap
  rw [h]
  refine (makes_methodName hc (by decide) _).bind_right ((makes_request _ _).bind ?_)
  exact makes_access var p _ _ _

theorem makes_readEntityMap {key implementation : JavaType}
    (h : p.category = .map key t implementation) (var : String) :
    Makes scope style (readEntityMap var p : Emit (Job X) Unit) ()
      (.ofUses (scope.usesOfBuilder t) ++
        .ofText (scope.accessText style var p
          (scope.builderName t ++ "." ++ scope.nameOf getEntityMap [] ++ "(") "[0])"
          (some .element))) := by
  unfold readEntityMap
  rw [h]
  refine (makes_builderRef t).bind ((makes_methodName hc (by decide) []).bind_right ?_)
  exact makes_access var p _ _ _

end Named

/-! ## Which writer reads -/

theorem readers_eq :
    (readers : PropertyRegistry (Job X)).writers =
      [⟨"entity_map", 3, acceptsEntityMap, readEntityMap⟩,
       ⟨"entity_array", 2, acceptsEntityArray, readEntityArray⟩,
       ⟨"basic_map", 2, acceptsBasicMap, readBasicMap⟩,
       ⟨"string", 1, acceptsScalar "String", readString⟩,
       ⟨"entity", 1, acceptsEntity, readEntity⟩,
       ⟨"basic_array", 1, acceptsBasicArray, readBasicArray⟩,
       ⟨"int", 0, acceptsScalar "int", readScalar "int(" ")"⟩,
       ⟨"number", 0, acceptsScalar "Number", readScalar "Number(" ")"⟩,
       ⟨"boolean", 0, acceptsScalar "Boolean", readScalar "(" " == \"true\")"⟩] := rfl

def scalarWriter : ScalarKind → PropertyWriter (Job X)
  | .boolean | .boxedBoolean =>
    ⟨"boolean", 0, acceptsScalar "Boolean", readScalar "(" " == \"true\")"⟩
  | .short | .boxedShort | .int | .integer =>
    ⟨"int", 0, acceptsScalar "int", readScalar "int(" ")"⟩
  | .long | .boxedLong | .float | .boxedFloat | .double | .boxedDouble =>
    ⟨"number", 0, acceptsScalar "Number", readScalar "Number(" ")"⟩
  | .string => ⟨"string", 1, acceptsScalar "String", readString⟩

theorem dispatch_readers_basic (style : AccessStyle) (s : Session) (h : p.category = .basic) :
    (readers : PropertyRegistry (Job X)).dispatch? s style p =
      (ScalarKind.of? p.type).map scalarWriter := by
  unfold PropertyRegistry.dispatch?
  rw [readers_eq]
  simp only [List.find?, acceptsEntityMap, acceptsEntityArray, acceptsBasicMap, acceptsEntity,
    acceptsBasicArray, acceptsScalar, mapValue?, sequenceElement?, Category.element?,
    Property.isEntity, Property.scalar?, h, ite_self, Option.any_none, if_true]
  cases ScalarKind.of? p.type with
  | none => rfl
  | some kind => cases kind <;> rfl

theorem dispatch_readers_entity {s : Session} (h : p.category = .entity) :
    (readers : PropertyRegistry (Job X)).dispatch? s style p =
      some ⟨"entity", 1, acceptsEntity, readEntity⟩ := by
  unfold PropertyRegistry.dispatch?
  rw [readers_eq]
  simp [List.find?, acceptsEntityMap, acceptsEntityArray, acceptsBasicMap, acceptsEntity,
    acceptsScalar, mapValue?, sequenceElement?, Category.element?, Property.isEntity,
    Property.scalar?, h]

theorem dispatch_readers_sequence (style : AccessStyle) (s : Session)
    (h : p.category.element? = some t) :
    (readers : PropertyRegistry (Job X)).dispatch? s style p =
      if style.isPrimary then
        some (if s.isEntity t then ⟨"entity_array", 2, acceptsEntityArray, readEntityArray⟩
          else ⟨"basic_array", 1, acceptsBasicArray, readBasicArray⟩)
      else none := by
  unfold PropertyRegistry.dispatch?
  rw [readers_eq]
  cases hs : style.isPrimary <;> cases he : s.isEntity t <;> cases hc : p.category <;>
    simp_all [List.find?, acceptsEntityMap, acceptsEntityArray, acceptsBasicMap, acceptsEntity,
      acceptsBasicArray, acceptsScalar, mapValue?, sequenceElement?, Category.element?,
      Property.isEntity, Property.scalar?]

theorem dispatch_readers_map (style : AccessStyle) (s : Session) {key implementation : JavaType}
    (h : p.category = .map key t implementation) :
    (readers : PropertyRegistry (Job X)).dispatch? s style p =
      if style.isPrimary then
        some (if s.isEntity t then ⟨"entity_map", 3, acceptsEntityMap, readEntityMap⟩
          else ⟨"basic_map", 2, acceptsBasicMap, readBasicMap⟩)
      else none := by
  unfold PropertyRegistry.dispatch?
  rw [readers_eq]
  cases hs : style.isPrimary <;> cases he : s.isEntity t <;>
    simp [List.find?, acceptsEntityMap, acceptsEntityArray, acceptsBasicMap, acceptsEntity,
      acceptsBasicArray, acceptsScalar, mapValue?, sequenceElement?, Category.element?,
      Property.isEntity, Property.scalar?, h, hs, he]

/-! ## What reading adds -/

/-- What stands around the node of a scalar that is read without a helper. -/
def conversion : ScalarKind → String × String
  | .boolean | .boxedBoolean => ("(", " == \"true\")")
  | .short | .boxedShort | .int | .integer => ("int(", ")")
  | .long | .boxedLong | .float | .boxedFloat | .double | .boxedDouble => ("Number(", ")")
  | .string => ("", "")

def scalarAddition (scope : Scope) (style : AccessStyle) (var : String) (p : Property) :
    ScalarKind → Addition (Job X)
  | .string => .ofAsk ⟨getString, ""⟩ (.inl .readString) ++ .ofText (stringText scope style var p)
  | kind => .ofText (scope.accessText style var p (conversion kind).1 (conversion kind).2 none)

/-- What the code adds that reads an array or a collection of a type. -/
def sequenceAddition (scope : Scope) (style : AccessStyle) (var : String) (p : Property)
    (t : JavaType) : Addition (Job X) :=
  if style.isPrimary then
    scope.callAddition t ⟨getBasicArray, capitalize t.clientName⟩ (.inl (.readArray t)) ++
      .ofText (scope.accessText style var p (sequenceReader scope t ++ "(") "[0])"
        (some .element))
  else .empty

def readAddition (scope : Scope) (style : AccessStyle) (var : String) (p : Property) :
    Addition (Job X) :=
  match p.category with
  | .basic => ((ScalarKind.of? p.type).map (scalarAddition scope style var p)).getD .empty
  | .entity =>
    .ofUses (scope.usesOfBuilder p.type) ++
      .ofText (scope.accessText style var p
        (scope.builderName p.type ++ "." ++ scope.nameOf getInstance [] ++ "(") (nodeEnd style)
        (some .element))
  | .array t => sequenceAddition scope style var p t
  | .collection _ t _ => sequenceAddition scope style var p t
  | .map _ t _ =>
    if style.isPrimary then
      scope.callAddition t ⟨getBasicMap, capitalize t.clientName⟩ (.inl (.readMap t)) ++
        .ofText (scope.accessText style var p (mapReader scope t ++ "(") "[0])" (some .element))
    else .empty

/-- What the expression adds that reads one element or entry from the node `n`. -/
def valueAddition (scope : Scope) (t : JavaType) : Addition (Job X) :=
  readAddition scope .as3Text "n" (scope.session.synthetic t)

section Named
variable (hc : scope.session.catalog.NamesMethods)
include hc

theorem makes_scalarWriter (kind : ScalarKind) (var : String) (p : Property) :
    Makes scope style ((scalarWriter kind : PropertyWriter (Job X)).emit var p) ()
      (scalarAddition scope style var p kind) := by
  cases kind with
  | string => exact makes_readString hc var p
  | _ => exact makes_readScalar _ _ var p

theorem makes_sequence {d : Direction} (hp : p.takesPart d = true)
    (h : p.category.element? = some t) (var : String) :
    Makes scope style (writeProperty (readers : PropertyRegistry (Job X)) var p d) ()
      (sequenceAddition scope style var p t) := by
  have hd := dispatch_readers_sequence (X := X) style scope.session h
  unfold sequenceAddition sequenceReader Scope.callAddition Scope.callOf
  cases hs : style.isPrimary with
  | false =>
    rw [hs] at hd
    exact makes_writeProperty_none hd
  | true =>
    cases he : scope.session.isEntity t with
    | true =>
      rw [hs, he] at hd
      exact makes_writeProperty hp hd (makes_readEntityArray hc h var)
    | false =>
      rw [hs, he] at hd
      exact makes_writeProperty hp hd (makes_readBasicArray hc h var)

/-- The code that reads a property. -/
theorem makes_read {d : Direction} (hp : p.takesPart d = true) (var : String) :
    Makes scope style (writeProperty (readers : PropertyRegistry (Job X)) var p d) ()
      (readAddition scope style var p) := by
  unfold readAddition
  cases h : p.category with
  | basic =>
    have hd := dispatch_readers_basic (X := X) style scope.session h
    cases hk : ScalarKind.of? p.type with
    | none =>
      rw [hk] at hd
      exact makes_writeProperty_none hd
    | some kind =>
      rw [hk] at hd
      exact makes_writeProperty hp hd (makes_scalarWriter hc kind var p)
  | entity => exact makes_writeProperty hp (dispatch_readers_entity h) (makes_readEntity hc var p)
  | array t => exact makes_sequence hc hp (by rw [h]; rfl) var
  | collection kind t implementation => exact makes_sequence hc hp (by rw [h]; rfl) var
  | map key t implementation =>
    have hd := dispatch_readers_map (X := X) style scope.session h
    dsimp only
    unfold mapReader Scope.callAddition Scope.callOf
    cases hs : style.isPrimary with
    | false =>
      rw [hs] at hd
      exact makes_writeProperty_none hd
    | true =>
      cases he : scope.session.isEntity t with
      | true =>
        rw [hs, he] at hd
        exact makes_writeProperty hp hd (makes_readEntityMap hc h var)
      | false =>
        rw [hs, he] at hd
        exact makes_writeProperty hp hd (makes_readBasicMap hc h var)

theorem makes_valueExpression (t : JavaType) :
    Makes scope style (valueExpression t : Emit (Job X) String)
      (valueAddition scope t : Addition (Job X)).text
      { (valueAddition scope t : Addition (Job X)) with text := "" } :=
  makes_expression (makes_read hc (Session.takesPart_synthetic _ t _) "n")

end Named

end XmlBinding.Client
