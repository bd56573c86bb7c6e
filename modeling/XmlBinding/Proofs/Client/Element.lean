import XmlBinding.Proofs.Client.Reader

/-!
# What writing a property adds to a client builder

* `Client.makes_writeEntityMap`, `makes_writeArray`, … : one lemma for each writer;
* `Client.dispatch_elements` : which writer takes a property of the bean;
* `Client.writeAddition`, `makes_write` : the line of the literal for a property.
-/

namespace XmlBinding.Client

open Emit

variable {X : Type} {scope : Scope} {style : AccessStyle} {p : Property} {t : JavaType}

/-! ## The writers -/

def literalText (scope : Scope) (call var : String) (p : Property) : String :=
  scope.session.config.lineText literalLevel
    ("\x7b" ++ call ++ "(" ++ var ++ "." ++ p.name ++ ", \"" ++ p.node.name ++ "\")\x7d")

theorem makes_writeLiteralCall (call var : String) (p : Property) :
    Makes scope style (writeLiteralCall call var p : Emit (Job X) Unit) ()
      (.ofText (literalText scope call var p)) :=
  makes_line literalLevel _

/-- The method that writes an array or a collection. -/
def sequenceWriter (scope : Scope) (t : JavaType) : String :=
  if scope.session.isEntity t then
    scope.builderName t ++ "." ++ scope.nameOf getEntityXmlList []
  else scope.nameOf getBasicXmlList []

def mapWriter (scope : Scope) (t : JavaType) : String :=
  scope.callOf t "." getEntityMapXml getBasicMapXml []

section Named
variable (hc : scope.session.catalog.NamesMethods)
include hc

theorem makes_writeEntityMap {key implementation : JavaType}
    (h : p.category = .map key t implementation) (var : String) :
    Makes scope style (writeEntityMap var p : Emit (Job X) Unit) ()
      (.ofUses (scope.usesOfBuilder t) ++
        .ofText (literalText scope
          (scope.builderName t ++ "." ++ scope.nameOf getEntityMapXml []) var p)) := by
  unfold writeEntityMap
  rw [h]
  refine (makes_builderRef t).bind ((makes_methodName hc (by decide) []).bind_right ?_)
  exact makes_writeLiteralCall _ var p

theorem makes_writeBasicMap (var : String) (p : Property) :
    Makes scope style (writeBasicMap var p : Emit (Job X) Unit) ()
      (.ofAsk ⟨getBasicMapXml, ""⟩ (.inl .writeMap) ++
        .ofText (literalText scope (scope.nameOf getBasicMapXml []) var p)) := by
  unfold writeBasicMap
  refine (makes_methodName hc (by decide) []).bind_right ((makes_request _ _).bind ?_)
  exact makes_writeLiteralCall _ var p

theorem makes_writeArray (h : p.category.element? = some t) (var : String) :
    Makes scope style (writeArray var p : Emit (Job X) Unit) ()
      (.ofUses (scope.usesOfBuilder t) ++
        .ofText (literalText scope (sequenceWriter scope t) var p)) := by
  unfold writeArray sequenceWriter
  rw [h]
  refine (makes_isEntity t).bind_right ?_
  cases he : scope.session.isEntity t with
  | true =>
    refine (makes_builderRef t).bind ((makes_methodName hc (by decide) []).bind_right ?_)
    exact (makes_pure _).bind_right (makes_writeLiteralCall _ var p)
  | false =>
    rw [scope.usesOfBuilder_of_not_isEntity he]
    exact (makes_methodName hc (by decide) []).bind_right (makes_writeLiteralCall _ var p)

theorem makes_writeEntity (var : String) (p : Property) :
    Makes scope style (writeEntity var p : Emit (Job X) Unit) ()
      (.ofUses (scope.usesOfBuilder p.type) ++
        .ofText (literalText scope
          (scope.builderName p.type ++ "." ++ scope.nameOf getXml []) var p)) := by
  unfold writeEntity
  refine (makes_builderRef p.type).bind ((makes_methodName hc (by decide) []).bind_right ?_)
  exact makes_writeLiteralCall _ var p

theorem makes_writeBasic (var : String) (p : Property) :
    Makes scope style (writeBasic var p : Emit (Job X) Unit) ()
      (.ofText (literalText scope (scope.nameOf getBasicXml []) var p)) := by
  unfold writeBasic
  exact (makes_methodName hc (by decide) []).bind_right (makes_writeLiteralCall _ var p)

end Named

/-! ## Which writer writes -/

theorem elements_eq :
    (elements : PropertyRegistry (Job X)).writers =
      [⟨"entity_map", 3, acceptsEntityMap, writeEntityMap⟩,
       ⟨"basic_map", 2, acceptsBasicMap, writeBasicMap⟩, ⟨"array", 1, acceptsSequence, writeArray⟩,
       ⟨"entity", 1, acceptsEntity, writeEntity⟩, ⟨"basic", -1, acceptsAny, writeBasic⟩] := rfl

/-- On the bean, the category chooses the writer. -/
theorem dispatch_elements {s : Session} (h : style.isPrimary = true) :
    (elements : PropertyRegistry (Job X)).dispatch? s style p =
      some (match p.category with
        | .basic => ⟨"basic", -1, acceptsAny, writeBasic⟩
        | .entity => ⟨"entity", 1, acceptsEntity, writeEntity⟩
        | .array _ | .collection .. => ⟨"array", 1, acceptsSequence, writeArray⟩
        | .map _ t _ =>
          if s.isEntity t then ⟨"entity_map", 3, acceptsEntityMap, writeEntityMap⟩
          else ⟨"basic_map", 2, acceptsBasicMap, writeBasicMap⟩) := by
  unfold PropertyRegistry.dispatch?
  rw [elements_eq]
  cases hc : p.category with
  | map key t implementation =>
    cases he : s.isEntity t <;>
      simp [List.find?, acceptsEntityMap, acceptsBasicMap, mapValue?, h, hc, he]
  | basic | entity | array | collection =>
    simp [List.find?, acceptsEntityMap, acceptsBasicMap, acceptsSequence, acceptsEntity,
      acceptsAny, mapValue?, sequenceElement?, Category.element?, Property.isEntity, h, hc]

/-! ## What writing adds -/

/-- What the line of the literal adds for a property. -/
def writeAddition (scope : Scope) (var : String) (p : Property) : Addition (Job X) :=
  let writeBy (call : String) : Addition (Job X) := .ofText (literalText scope call var p)
  match p.category with
  | .basic => writeBy (scope.nameOf getBasicXml [])
  | .entity =>
    .ofUses (scope.usesOfBuilder p.type) ++
      writeBy (scope.builderName p.type ++ "." ++ scope.nameOf getXml [])
  | .array t => .ofUses (scope.usesOfBuilder t) ++ writeBy (sequenceWriter scope t)
  | .collection _ t _ => .ofUses (scope.usesOfBuilder t) ++ writeBy (sequenceWriter scope t)
  | .map _ t _ =>
    scope.callAddition t ⟨getBasicMapXml, ""⟩ (.inl .writeMap) ++ writeBy (mapWriter scope t)

theorem text_writeAddition_ne_empty (scope : Scope) (var : String) (p : Property) :
    (writeAddition scope var p : Addition (Job X)).text ≠ "" := by
  unfold writeAddition
  cases p.category with
  | basic | entity | array t | collection kind t implementation | map key t implementation =>
    simp [Scope.text_callAddition, literalText, Config.lineText]

/-- The line of the literal for a property of the bean. -/
theorem makes_write (hc : scope.session.catalog.NamesMethods) {d : Direction}
    (hs : style.isPrimary = true) (hp : p.takesPart d = true) (var : String) :
    Makes scope style (writeProperty (elements : PropertyRegistry (Job X)) var p d) ()
      (writeAddition scope var p) := by
  have hd := dispatch_elements (X := X) (p := p) (s := scope.session) hs
  unfold writeAddition
  cases h : p.category with
  | basic =>
    rw [h] at hd
    exact makes_writeProperty hp hd (makes_writeBasic hc var p)
  | entity =>
    rw [h] at hd
    exact makes_writeProperty hp hd (makes_writeEntity hc var p)
  | array t =>
    rw [h] at hd
    exact makes_writeProperty hp hd (makes_writeArray hc (by rw [h]; rfl) var)
  | collection kind t implementation =>
    rw [h] at hd
    exact makes_writeProperty hp hd (makes_writeArray hc (by rw [h]; rfl) var)
  | map key t implementation =>
    rw [h] at hd
    dsimp only at hd ⊢
    unfold mapWriter Scope.callAddition Scope.callOf
    cases he : scope.session.isEntity t with
    | true =>
      rw [he] at hd
      exact makes_writeProperty hp hd (makes_writeEntityMap hc h var)
    | false =>
      rw [he] at hd
      exact makes_writeProperty hp hd (makes_writeBasicMap hc var p)

end XmlBinding.Client
