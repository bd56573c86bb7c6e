import XmlBinding.Proofs.Emission.Makes
import XmlBinding.Server

/-!
# What reading a property adds to a server builder

* `Server.makes_readScalar`, `makes_readEntity`, … : one lemma for each writer;
* `Server.dispatch_readers_bean`, `dispatch_readers_value` : which writer takes a property;
* `Server.readAddition`, `makes_read` : the code that reads a property of the bean;
  `does_read_entityKey` : the property that has none;
* `Server.valueText`, `makes_valueExpression` : the expression that reads one element, key or entry.
-/

namespace XmlBinding.Server

open Emit

variable {X : Type} {scope : Scope} {style : AccessStyle} {p : Property} {t : JavaType}

/-! ## The writers -/

theorem makes_readScalar {kind : ScalarKind} (hk : ScalarKind.of? p.type = some kind)
    (var : String) :
    Makes scope style (readScalar var p : Emit (Job X) Unit) ()
      (.ofText (scope.accessText style var p kind.javaParse.1 kind.javaParse.2 none)) := by
  unfold readScalar
  rw [hk]
  exact makes_access var p _ _ none

def arrayReader (scope : Scope) (t : JavaType) : String :=
  scope.nameOf getArray [capitalize t.simpleName]

def collectionReader (scope : Scope) (t : JavaType) : String :=
  scope.callOf t "." getEntityCollection getCollection [capitalize t.wrapperName]

def mapReader (scope : Scope) (key entry : JavaType) : String :=
  scope.nameOf getMap [mapTypes key entry]

/-- What stands before the element in the call that fills a collection or a map. -/
def fillLead (scope : Scope) (call : String) (implementation : JavaType) (types : String) :
    String :=
  call ++ "(\n" ++ scope.session.config.indent 4 ++ "new " ++ implementation.simpleName ++ "<" ++
    types ++ ">(), "

section Named
variable (hc : scope.session.catalog.NamesMethods)
include hc

theorem makes_readEntity (var : String) :
    Makes scope style (readEntity var p : Emit (Job X) Unit) ()
      (.ofUses (scope.usesOfBuilder p.type) ++
        .ofText (scope.accessText style var p
          (scope.builderName p.type ++ "." ++ scope.nameOf getInstance [] ++ "(") ")"
          (some .element))) := by
  unfold readEntity
  refine (makes_builderRef p.type).bind ?_
  refine (makes_methodName hc (by decide) []).bind_right ?_
  exact makes_access var p _ _ _

theorem makes_readArray (h : p.category = .array t) (var : String) :
    Makes scope style (readArray var p : Emit (Job X) Unit) ()
      (.ofAsk ⟨getArray, t.simpleName⟩ (.inl (.readArray t)) ++
        .ofText (scope.accessText style var p (arrayReader scope t ++ "(") ")"
          (some .element))) := by
  unfold readArray
  rw [h]
  refine (makes_methodName hc (by decide) _).bind_right ?_
  exact (makes_request _ _).bind (makes_access var p _ _ _)

theorem makes_collectionCall (t : JavaType) :
    Makes scope style (collectionCall t : Emit (Job X) String) (collectionReader scope t)
      (scope.callAddition t ⟨getCollection, t.wrapperName⟩ (.inl (.readCollection t))) := by
  unfold collectionCall collectionReader Scope.callOf Scope.callAddition
  refine (makes_isEntity t).bind_right ?_
  cases scope.session.isEntity t with
  | true => exact (makes_builderRef t).bind_map ((makes_methodName hc (by decide) []).map _)
  | false => exact (makes_methodName hc (by decide) _).bind_right ((makes_request _ _).map _)

theorem makes_readCollection {kind : CollectionKind} {implementation : JavaType}
    (h : p.category = .collection kind t implementation) (var : String) :
    Makes scope style (readCollection var p : Emit (Job X) Unit) ()
      (.ofUses (scope.usesOfType implementation) ++ (.ofUses (scope.usesOfType t) ++
        (scope.callAddition t ⟨getCollection, t.wrapperName⟩ (.inl (.readCollection t)) ++
        .ofText (scope.accessText style var p
          (fillLead scope (collectionReader scope t) implementation t.wrapperName) ")"
          (some .element))))) := by
  unfold readCollection
  rw [h]
  refine (makes_javaRef implementation).bind ((makes_importType t).bind ?_)
  refine (makes_collectionCall hc t).bind ((makes_indent 4).bind_right ?_)
  exact makes_access var p _ _ _

theorem makes_readMap {key entry implementation : JavaType}
    (h : p.category = .map key entry implementation) (hk : scope.session.isEntity key = false)
    (var : String) :
    Makes scope style (readMap var p : Emit (Job X) Unit) ()
      (.ofUses (scope.usesOfType implementation) ++ (.ofUses (scope.usesOfType key) ++
        (.ofUses (scope.usesOfType entry) ++
        (.ofAsk ⟨getMap, mapTypes key entry⟩ (.inl (.readMap key entry)) ++
        .ofText (scope.accessText style var p
          (fillLead scope (mapReader scope key entry) implementation
            (key.wrapperName ++ ", " ++ entry.wrapperName)) ")" (some .element)))))) := by
  unfold readMap
  rw [h]
  refine (makes_isEntity key).bind_right ?_
  rw [hk]
  refine (makes_javaRef implementation).bind ((makes_importType key).bind
    ((makes_importType entry).bind ?_))
  refine (makes_methodName hc (by decide) _).bind_right ((makes_request _ _).bind ?_)
  refine ((makes_indent 4).bind_right (makes_access var p _ _ _)).of_eq ?_
  simp only [fillLead, mapReader, String.append_assoc]

end Named

/-- A map whose keys are entities is refused. -/
theorem does_readMap {key entry implementation : JavaType}
    (h : p.category = .map key entry implementation) (hk : scope.session.isEntity key = true)
    (var : String) :
    Does scope style (readMap var p : Emit (Job X) Unit)
      (.error (.complexAttribute scope.frame.entity.name p.name)) .empty := by
  intro s _
  unfold readMap
  rw [h, Emission.add_empty]
  dsimp only
  rw [bind_apply]
  show (if scope.session.isEntity key = true then _ else _ : Emit (Job X) Unit) scope s = _
  rw [if_pos hk]
  rfl


/-! ## Which writer reads -/

theorem readers_eq :
    (readers : PropertyRegistry (Job X)).writers =
      [⟨"entity", 5, acceptsEntity, readEntity⟩, ⟨"array", 5, acceptsArray, readArray⟩,
       ⟨"collection", 5, acceptsCollection, readCollection⟩, ⟨"map", 5, acceptsMap, readMap⟩,
       ⟨"scalar", 0, acceptsScalar, readScalar⟩] := rfl

/-- Away from the bean, only scalars are read. -/
theorem dispatch_readers_value {s : Session} (h : style.isPrimary = false) :
    (readers : PropertyRegistry (Job X)).dispatch? s style p =
      if p.scalar?.isSome then some ⟨"scalar", 0, acceptsScalar, readScalar⟩ else none := by
  unfold PropertyRegistry.dispatch?
  rw [readers_eq]
  simp only [List.find?, acceptsEntity, acceptsArray, acceptsCollection, acceptsMap, acceptsScalar,
    h, Bool.false_and]
  cases p.scalar?.isSome <;> rfl

/-- On the bean, the category chooses the writer. -/
theorem dispatch_readers_bean {s : Session} (h : style.isPrimary = true) :
    (readers : PropertyRegistry (Job X)).dispatch? s style p =
      match p.category with
      | .basic =>
        if p.scalar?.isSome then some ⟨"scalar", 0, acceptsScalar, readScalar⟩ else none
      | .entity => some ⟨"entity", 5, acceptsEntity, readEntity⟩
      | .array t => if t.isArray then none else some ⟨"array", 5, acceptsArray, readArray⟩
      | .collection .. => some ⟨"collection", 5, acceptsCollection, readCollection⟩
      | .map .. => some ⟨"map", 5, acceptsMap, readMap⟩ := by
  unfold PropertyRegistry.dispatch?
  rw [readers_eq]
  cases hc : p.category with
  | array t =>
    simp only [List.find?, acceptsEntity, acceptsArray, acceptsCollection, acceptsMap,
      acceptsScalar, Property.isEntity, Property.scalar?, h, hc, Bool.true_and]
    cases t.isArray <;> rfl
  | basic =>
    simp only [List.find?, acceptsEntity, acceptsArray, acceptsCollection, acceptsMap,
      acceptsScalar, Property.isEntity, h, hc, Bool.true_and]
    cases p.scalar?.isSome <;> rfl
  | entity | collection | map =>
    simp only [List.find?, acceptsEntity, acceptsArray, acceptsCollection, acceptsMap,
      Property.isEntity, h, hc, Bool.true_and]
    rfl

/-! ## What reading adds -/

def scalarText (scope : Scope) (style : AccessStyle) (var : String) (p : Property) : String :=
  match p.scalar? with
  | some kind => scope.accessText style var p kind.javaParse.1 kind.javaParse.2 none
  | none => ""

/-- What the code adds that reads a property of the bean. -/
def readAddition (scope : Scope) (style : AccessStyle) (var : String) (p : Property) :
    Addition (Job X) :=
  let readBy (lead : String) : Addition (Job X) :=
    .ofText (scope.accessText style var p lead ")" (some .element))
  match p.category with
  | .basic => .ofText (scalarText scope style var p)
  | .entity =>
    .ofUses (scope.usesOfBuilder p.type) ++
      readBy (scope.builderName p.type ++ "." ++ scope.nameOf getInstance [] ++ "(")
  | .array t =>
    if t.isArray then .empty
    else
      .ofAsk ⟨getArray, t.simpleName⟩ (.inl (.readArray t)) ++ readBy (arrayReader scope t ++ "(")
  | .collection _ t implementation =>
    .ofUses (scope.usesOfType implementation) ++ (.ofUses (scope.usesOfType t) ++
      (scope.callAddition t ⟨getCollection, t.wrapperName⟩ (.inl (.readCollection t)) ++
        readBy (fillLead scope (collectionReader scope t) implementation t.wrapperName)))
  | .map key entry implementation =>
    .ofUses (scope.usesOfType implementation) ++ (.ofUses (scope.usesOfType key) ++
      (.ofUses (scope.usesOfType entry) ++
        (.ofAsk ⟨getMap, mapTypes key entry⟩ (.inl (.readMap key entry)) ++
          readBy (fillLead scope (mapReader scope key entry) implementation
            (key.wrapperName ++ ", " ++ entry.wrapperName)))))

/-- Whether a property is a map whose keys are entities. -/
def HasEntityKey (s : Session) (p : Property) : Prop :=
  ∃ key entry implementation,
    p.category = .map key entry implementation ∧ s.isEntity key = true

theorem makes_scalar {d : Direction} (hp : p.takesPart d = true)
    (hd : (readers : PropertyRegistry (Job X)).dispatch? scope.session style p =
      if p.scalar?.isSome then some ⟨"scalar", 0, acceptsScalar, readScalar⟩ else none)
    (var : String) :
    Makes scope style (writeProperty (readers : PropertyRegistry (Job X)) var p d) ()
      (.ofText (scalarText scope style var p)) := by
  unfold scalarText
  cases hs : p.scalar? with
  | none =>
    rw [hs] at hd
    exact makes_writeProperty_none hd
  | some kind =>
    rw [hs] at hd
    refine makes_writeProperty hp hd (makes_readScalar ?_ var)
    unfold Property.scalar? at hs
    split at hs
    · exact hs
    · cases hs

section Named
variable (hc : scope.session.catalog.NamesMethods)
include hc

/-- The code that reads a property of the bean, unless the keys of a map are entities. -/
theorem makes_read {d : Direction} (hs : style.isPrimary = true)
    (hp : p.takesPart d = true) (hk : ¬HasEntityKey scope.session p)
    (var : String) :
    Makes scope style (writeProperty (readers : PropertyRegistry (Job X)) var p d) ()
      (readAddition scope style var p) := by
  have hd := dispatch_readers_bean (X := X) (p := p) (s := scope.session) hs
  unfold readAddition
  cases h : p.category with
  | basic =>
    rw [h] at hd
    exact makes_scalar hp hd var
  | entity =>
    rw [h] at hd
    exact makes_writeProperty hp hd (makes_readEntity hc var)
  | array t =>
    rw [h] at hd
    dsimp only at hd ⊢
    cases ht : t.isArray with
    | true =>
      rw [ht] at hd
      exact makes_writeProperty_none hd
    | false =>
      rw [ht] at hd
      exact makes_writeProperty hp hd (makes_readArray hc h var)
  | collection kind t implementation =>
    rw [h] at hd
    exact makes_writeProperty hp hd (makes_readCollection hc h var)
  | map key entry implementation =>
    rw [h] at hd
    refine makes_writeProperty hp hd (makes_readMap hc h ?_ var)
    exact Bool.eq_false_iff.2 fun hkey => hk ⟨key, entry, implementation, h, hkey⟩

/-- The expression that reads one element, key or entry; none for a type of no conversion. -/
def valueText (scope : Scope) (inner : AccessStyle) (var : String) (t : JavaType) : String :=
  if scope.session.isEntity t then
    scope.builderName t ++ "." ++ scope.nameOf getInstance [] ++ "(" ++ var ++ ")"
  else scalarText scope inner var (scope.session.synthetic t)

theorem makes_valueExpression {inner : AccessStyle} (hi : inner.isPrimary = false) (var : String)
    (t : JavaType) :
    Makes scope style (valueExpression inner var t : Emit (Job X) String)
      (valueText scope inner var t) (.ofUses (scope.usesOfBuilder t)) := by
  unfold valueExpression valueText
  refine (makes_isEntity t).bind_right ?_
  cases h : scope.session.isEntity t with
  | true =>
    exact (makes_builderRef t).bind_map ((makes_methodName hc (by decide) []).map _)
  | false =>
    rw [scope.usesOfBuilder_of_not_isEntity h]
    exact (makes_expression (makes_scalar (Session.takesPart_synthetic _ t _)
      (dispatch_readers_value hi) var)).of_eq rfl

end Named

/-- A map whose keys are entities stops the code that reads it. -/
theorem does_read_entityKey {d : Direction} (hs : style.isPrimary = true)
    (hp : p.takesPart d = true) (hk : HasEntityKey scope.session p)
    (var : String) :
    Does scope style (writeProperty (readers : PropertyRegistry (Job X)) var p d)
      (.error (.complexAttribute scope.frame.entity.name p.name)) .empty := by
  obtain ⟨key, entry, implementation, h, hkey⟩ := hk
  intro s hstyle
  have hd := dispatch_readers_bean (X := X) (p := p) (s := scope.session) hs
  rw [h] at hd
  rw [writeProperty_apply, if_pos hp, hstyle, hd]
  exact does_readMap h hkey var s hstyle

end XmlBinding.Server
