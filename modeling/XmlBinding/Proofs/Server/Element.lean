import XmlBinding.Proofs.Server.Reader

/-!
# What writing a property adds to a server builder

* `Server.makes_writeSimple`, `makes_writeEntity`, … : one lemma for each writer;
* `Server.dispatch_elements` : which writer takes a property;
* `Server.writeAddition`, `makes_write` : the code that writes a property of the bean.
-/

namespace XmlBinding.Server

open Emit

variable {X : Type} {scope : Scope} {style : AccessStyle} {p : Property} {t : JavaType}

/-! ## The writers -/

/-- The statements that add a nested element. -/
def nestedText (scope : Scope) (call : String) (p : Property) : String :=
  let c := scope.session.config
  c.lineText 2 ("nested = " ++ call ++ ";") ++ (c.blockText 2 "if(nested != null)" ++
    (c.lineText 3 ("nested.setName(\"" ++ p.node.name ++ "\");") ++
      (c.lineText 3 "el.add(nested);" ++ c.lineText 2 "\x7d")))

/-- The statements that add a text. -/
def simpleText (scope : Scope) (var : String) (p : Property) : String :=
  let c := scope.session.config
  c.lineText 2 ("str = String.valueOf(" ++ var ++ "." ++ p.getter ++ "());") ++
    c.lineText 2
      ("el.addElement(\"" ++ p.node.name ++ "\").setText((str == null) ? \"\" : str);")

def arrayWriter (scope : Scope) (t : JavaType) : String :=
  scope.callOf t "." getEntityArrayElement getArrayElement [capitalize t.simpleName]

def collectionWriter (scope : Scope) (t : JavaType) : String :=
  scope.callOf t "." getEntityCollectionElement getCollectionElement []

def mapWriter (scope : Scope) (t : JavaType) : String :=
  scope.callOf t (".\n" ++ scope.session.config.indent 4) getEntityMapElement getMapElement []

theorem makes_writeNested (call : String) (p : Property) :
    Makes scope style (writeNested call p : Emit (Job X) Unit) ()
      (.ofText (nestedText scope call p)) := by
  unfold writeNested
  refine ((makes_line 2 _).bind ((makes_openBlock 2 _).bind ((makes_line 3 _).bind
    ((makes_line 3 _).bind (makes_closeBrace 2))))).of_eq ?_
  simp only [Addition.ofText_append]
  rfl

theorem makes_writeSimple (var : String) (p : Property) :
    Makes scope style (writeSimple var p : Emit (Job X) Unit) ()
      (.ofText (simpleText scope var p)) := by
  unfold writeSimple
  refine ((makes_line 2 _).bind (makes_line 2 _)).of_eq ?_
  rw [Addition.ofText_append]
  rfl

section Named
variable (hc : scope.session.catalog.NamesMethods)
include hc

theorem makes_writeEntity (var : String) (p : Property) :
    Makes scope style (writeEntity var p : Emit (Job X) Unit) ()
      (.ofUses (scope.usesOfBuilder p.type) ++
        .ofText (nestedText scope
          (onValue (scope.builderName p.type ++ "." ++ scope.nameOf getElement []) var p) p)) := by
  unfold writeEntity
  refine (makes_builderRef p.type).bind ?_
  exact (makes_methodName hc (by decide) []).bind_right (makes_writeNested _ p)

theorem makes_writeArray (h : p.category = .array t) (var : String) :
    Makes scope style (writeArray var p : Emit (Job X) Unit) ()
      (scope.callAddition t ⟨getArrayElement, t.simpleName⟩ (.inl (.writeArray t)) ++
        .ofText (nestedText scope (onValue (arrayWriter scope t) var p) p)) := by
  unfold writeArray
  rw [h]
  refine (makes_isEntity t).bind_right (makes_callOf (k := fun call =>
    .ofText (nestedText scope (onValue call var p) p)) ?_ ?_)
  · refine (makes_builderRef t).bind ((makes_methodName hc (by decide) []).bind_right ?_)
    exact (makes_pure _).bind_right (makes_writeNested _ p)
  · refine (makes_methodName hc (by decide) _).bind_right ((makes_request _ _).bind ?_)
    exact (makes_pure _).bind_right (makes_writeNested _ p)

theorem makes_writeCollection {kind : CollectionKind} {implementation : JavaType}
    (h : p.category = .collection kind t implementation) (var : String) :
    Makes scope style (writeCollection var p : Emit (Job X) Unit) ()
      (scope.callAddition t ⟨getCollectionElement, ""⟩ (.inl .writeCollection) ++
        .ofText (nestedText scope (onValue (collectionWriter scope t) var p) p)) := by
  unfold writeCollection
  rw [h]
  refine (makes_isEntity t).bind_right (makes_callOf (k := fun call =>
    .ofText (nestedText scope (onValue call var p) p)) ?_ ?_)
  · refine (makes_builderRef t).bind ((makes_methodName hc (by decide) []).bind_right ?_)
    exact (makes_pure _).bind_right (makes_writeNested _ p)
  · refine (makes_methodName hc (by decide) _).bind_right ((makes_request _ _).bind ?_)
    exact (makes_pure _).bind_right (makes_writeNested _ p)

theorem makes_writeMap {key implementation : JavaType}
    (h : p.category = .map key t implementation) (var : String) :
    Makes scope style (writeMap var p : Emit (Job X) Unit) ()
      (scope.callAddition t ⟨getMapElement, ""⟩ (.inl .writeMap) ++
        .ofText (nestedText scope (onValue (mapWriter scope t) var p) p)) := by
  unfold writeMap
  rw [h]
  refine (makes_isEntity t).bind_right (makes_callOf (k := fun call =>
    .ofText (nestedText scope (onValue call var p) p)) ?_ ?_)
  · refine (makes_builderRef t).bind ((makes_indent 4).bind_right
      ((makes_methodName hc (by decide) []).bind_right ?_))
    rw [← String.append_assoc]
    exact (makes_pure _).bind_right (makes_writeNested _ p)
  · refine (makes_methodName hc (by decide) _).bind_right ((makes_request _ _).bind ?_)
    exact (makes_pure _).bind_right (makes_writeNested _ p)

end Named

/-! ## Which writer writes -/

theorem elements_eq :
    (elements : PropertyRegistry (Job X)).writers =
      [⟨"array", 3, acceptsArray, writeArray⟩,
       ⟨"collection", 3, acceptsCollection, writeCollection⟩,
       ⟨"entity", 1, acceptsEntity, writeEntity⟩, ⟨"map", 1, acceptsMap, writeMap⟩,
       ⟨"simple", 0, acceptsPrimary, writeSimple⟩] := rfl

/-- On the bean, the category chooses the writer; what no other takes is written as text. -/
theorem dispatch_elements {s : Session} (h : style.isPrimary = true) :
    (elements : PropertyRegistry (Job X)).dispatch? s style p =
      some (match p.category with
        | .basic => ⟨"simple", 0, acceptsPrimary, writeSimple⟩
        | .entity => ⟨"entity", 1, acceptsEntity, writeEntity⟩
        | .array t =>
          if t.isArray then ⟨"simple", 0, acceptsPrimary, writeSimple⟩
          else ⟨"array", 3, acceptsArray, writeArray⟩
        | .collection .. => ⟨"collection", 3, acceptsCollection, writeCollection⟩
        | .map .. => ⟨"map", 1, acceptsMap, writeMap⟩) := by
  unfold PropertyRegistry.dispatch?
  rw [elements_eq]
  cases hc : p.category with
  | array t =>
    simp only [List.find?, acceptsArray, acceptsCollection, acceptsEntity, acceptsMap,
      acceptsPrimary, Property.isEntity, h, hc, Bool.true_and]
    cases t.isArray <;> rfl
  | basic | entity | collection | map =>
    simp [List.find?, acceptsArray, acceptsCollection, acceptsEntity, acceptsMap,
      acceptsPrimary, Property.isEntity, h, hc]

/-! ## What writing adds -/

/-- What the code adds that writes a property of the bean. -/
def writeAddition (scope : Scope) (var : String) (p : Property) : Addition (Job X) :=
  let writeBy (call : String) : Addition (Job X) :=
    .ofText (nestedText scope (onValue call var p) p)
  match p.category with
  | .basic => .ofText (simpleText scope var p)
  | .entity =>
    .ofUses (scope.usesOfBuilder p.type) ++
      writeBy (scope.builderName p.type ++ "." ++ scope.nameOf getElement [])
  | .array t =>
    if t.isArray then .ofText (simpleText scope var p)
    else
      scope.callAddition t ⟨getArrayElement, t.simpleName⟩ (.inl (.writeArray t)) ++
        writeBy (arrayWriter scope t)
  | .collection _ t _ =>
    scope.callAddition t ⟨getCollectionElement, ""⟩ (.inl .writeCollection) ++
      writeBy (collectionWriter scope t)
  | .map _ t _ =>
    scope.callAddition t ⟨getMapElement, ""⟩ (.inl .writeMap) ++ writeBy (mapWriter scope t)

/-- The code that writes a property of the bean. -/
theorem makes_write (hc : scope.session.catalog.NamesMethods) {d : Direction}
    (hs : style.isPrimary = true) (hp : p.takesPart d = true) (var : String) :
    Makes scope style (writeProperty (elements : PropertyRegistry (Job X)) var p d) ()
      (writeAddition scope var p) := by
  have hd := dispatch_elements (X := X) (p := p) (s := scope.session) hs
  unfold writeAddition
  cases h : p.category with
  | basic =>
    rw [h] at hd
    exact makes_writeProperty hp hd (makes_writeSimple var p)
  | entity =>
    rw [h] at hd
    exact makes_writeProperty hp hd (makes_writeEntity hc var p)
  | array t =>
    rw [h] at hd
    dsimp only at hd ⊢
    cases ht : t.isArray with
    | true =>
      rw [ht] at hd
      exact makes_writeProperty hp hd (makes_writeSimple var p)
    | false =>
      rw [ht] at hd
      exact makes_writeProperty hp hd (makes_writeArray hc h var)
  | collection kind t implementation =>
    rw [h] at hd
    exact makes_writeProperty hp hd (makes_writeCollection hc h var)
  | map key entry implementation =>
    rw [h] at hd
    exact makes_writeProperty hp hd (makes_writeMap hc h var)

end XmlBinding.Server
