import Mathlib.Data.List.Forall2
import Mathlib.Data.Option.Basic
import XmlBinding.Emission

/-!
# What each side sees

The classes of the client and those of the server are made from one session, but neither side uses
all of it. Two sessions, entities or properties are alike on a side where they agree on what that
side uses.

* `Side`, `Target.side`, `Direction.side` : the two sides;
* `Category.AlikeOn`, `Property.AlikeOn`, `ClassFrame.AlikeOn` : only the server uses
  implementations, only the client uses defaults and bindable marks, and each its own directions;
* `Entity.AlikeOn side s s'` : entities whose classes have the same names and places in two
  sessions;
* `Session.AlikeOn side s s'`, `Scope.AlikeOn side a b` : the same layout, the same catalog, and
  alike entities under every type.
-/

namespace XmlBinding

/-- The sides for which classes are generated. -/
inductive Side where
  | client
  | server
  deriving DecidableEq, Repr

/-- Side of a class. -/
def Target.side : Target → Side
  | .clientModel | .clientBuilder => .client
  | .serverBuilder => .server

/-- Side that reads or writes. -/
def Direction.side : Direction → Side
  | .clientRead | .clientWrite => .client
  | .serverRead | .serverWrite => .server

/-! ## Properties -/

/-- Categories that a side does not tell apart. The client does not see implementations. -/
inductive Category.AlikeOn (side : Side) : Category → Category → Prop
  | basic : AlikeOn side .basic .basic
  | entity : AlikeOn side .entity .entity
  | array (element : JavaType) : AlikeOn side (.array element) (.array element)
  | collection (kind : CollectionKind) (element : JavaType) {i j : JavaType}
      (h : side = .server → i = j) :
      AlikeOn side (.collection kind element i) (.collection kind element j)
  | map (key entry : JavaType) {i j : JavaType} (h : side = .server → i = j) :
      AlikeOn side (.map key entry i) (.map key entry j)

namespace Category.AlikeOn

variable {side : Side} {c c' : Category}

theorem refl (side : Side) (c : Category) : c.AlikeOn side c := by
  cases c with
  | basic => exact .basic
  | entity => exact .entity
  | array element => exact .array element
  | collection kind element i => exact .collection kind element fun _ => rfl
  | map key entry i => exact .map key entry fun _ => rfl

theorem eq_of_server (h : c.AlikeOn .server c') : c = c' := by
  cases h with
  | basic | entity | array => rfl
  | collection _ _ h => rw [h rfl]
  | map _ _ h => rw [h rfl]

theorem basic_iff (h : c.AlikeOn side c') : c = .basic ↔ c' = .basic := by
  cases h with
  | basic | entity | array => exact Iff.rfl
  | collection | map => exact iff_of_false nofun nofun

theorem entity_iff (h : c.AlikeOn side c') : c = .entity ↔ c' = .entity := by
  cases h with
  | basic | entity | array => exact Iff.rfl
  | collection | map => exact iff_of_false nofun nofun

theorem element?_eq (h : c.AlikeOn side c') : c.element? = c'.element? := by
  cases h <;> rfl

end Category.AlikeOn

/-- Properties that a side does not tell apart. -/
structure Property.AlikeOn (side : Side) (p p' : Property) : Prop where
  name : p.name = p'.name
  type : p.type = p'.type
  getter : p.getter = p'.getter
  setter : p.setter = p'.setter
  category : p.category.AlikeOn side p'.category
  node : p.node = p'.node
  transience : p.transience = p'.transience
  synthetic : p.synthetic = p'.synthetic
  isLazy : ∀ d : Direction, d.side = side → p.isLazy d = p'.isLazy d
  bindable : side = .client → p.bindable = p'.bindable
  default : side = .client → p.default = p'.default

namespace Property.AlikeOn

variable {side : Side} {p p' : Property}

theorem refl (side : Side) (p : Property) : p.AlikeOn side p :=
  ⟨rfl, rfl, rfl, rfl, .refl side _, rfl, rfl, rfl, fun _ _ => rfl, fun _ => rfl, fun _ => rfl⟩

theorem category_eq (h : p.AlikeOn .server p') : p.category = p'.category :=
  h.category.eq_of_server

theorem isHidden (h : p.AlikeOn side p') (v : Visibility) : p.isHidden v = p'.isHidden v := by
  unfold Property.isHidden
  rw [h.transience, h.synthetic]

theorem isReadOnly (h : p.AlikeOn side p') : p.isReadOnly = p'.isReadOnly := by
  unfold Property.isReadOnly
  rw [h.setter]

theorem isEntity (h : p.AlikeOn side p') : p.isEntity = p'.isEntity := by
  unfold Property.isEntity
  exact decide_eq_decide.2 h.category.entity_iff

theorem scalar? (h : p.AlikeOn side p') : p.scalar? = p'.scalar? := by
  unfold Property.scalar?
  simp only [h.category.basic_iff, h.type]

end Property.AlikeOn

/-! ## Frames -/

/-- Frames that a side does not tell apart. -/
structure ClassFrame.AlikeOn (side : Side) (f f' : ClassFrame) : Prop where
  entity : f.entity.name = f'.entity.name
  package : f.package = f'.package
  className : f.className = f'.className
  node : f.node = f'.node
  superclass : f.superclass = f'.superclass
  interfaces : f.interfaces = f'.interfaces
  attributes : List.Forall₂ (Property.AlikeOn side) f.attributes f'.attributes
  elements : List.Forall₂ (Property.AlikeOn side) f.elements f'.elements

theorem forall₂_alikeOn_refl (side : Side) (ps : List Property) :
    List.Forall₂ (Property.AlikeOn side) ps ps :=
  List.forall₂_same.2 fun p _ => .refl side p

theorem ClassFrame.AlikeOn.refl (side : Side) (f : ClassFrame) : f.AlikeOn side f :=
  ⟨rfl, rfl, rfl, rfl, rfl, rfl, forall₂_alikeOn_refl side _, forall₂_alikeOn_refl side _⟩

/-! ## Sessions -/

/-- Entities of two sessions whose classes on a side have the same names and places. -/
structure Entity.AlikeOn (side : Side) (s s' : Session) (e e' : Entity) : Prop where
  name : e.name = e'.name
  packageFor : ∀ t : Target, t.side = side → s.packageFor e t = s'.packageFor e' t
  className : ∀ t : Target, t.side = side → s.className e t = s'.className e' t

/-- With one configuration, name and package mark decide where the classes of an entity stand. -/
theorem Entity.alikeOn_of_marks {s s' : Session} {e e' : Entity} (hconfig : s.config = s'.config)
    (hname : e.name = e'.name) (hpackages : e.descriptor.packages = e'.descriptor.packages)
    (side : Side) : Entity.AlikeOn side s s' e e' := by
  refine ⟨hname, fun t _ => ?_, fun t _ => ?_⟩
  · unfold Session.packageFor Session.declarationFor Entity.package
    rw [hconfig, hname, hpackages]
  · unfold Session.className Session.modelName Entity.simpleName
    rw [hconfig, hname]

/-- Sessions that a side does not tell apart, but for what is known of an entity while its own class
is made. -/
structure Session.AlikeOn (side : Side) (s s' : Session) : Prop where
  indentation : s.config.indentation = s'.config.indentation
  braceOnNewLine : s.config.braceOnNewLine = s'.config.braceOnNewLine
  usingUnderscore : side = .client → s.config.usingUnderscore = s'.config.usingUnderscore
  catalog : s.catalog = s'.catalog
  entity? : ∀ t : JavaType, Option.Rel (Entity.AlikeOn side s s') (s.entity? t) (s'.entity? t)

namespace Session.AlikeOn

variable {side : Side} {s s' : Session}

theorem indent (h : s.AlikeOn side s') (level : Nat) :
    s.config.indent level = s'.config.indent level := by
  unfold Config.indent
  rw [h.indentation]

theorem openBrace (h : s.AlikeOn side s') (level : Nat) :
    s.config.openBrace level = s'.config.openBrace level := by
  unfold Config.openBrace
  rw [h.braceOnNewLine, h.indent]

theorem docComment (h : s.AlikeOn side s') (text : String) (level : Nat) :
    docComment s.config text level = docComment s'.config text level := by
  unfold XmlBinding.docComment
  rw [h.indent]

/-- A type is an entity of both sessions or of none. -/
theorem entity?_cases (h : s.AlikeOn side s') (t : JavaType) :
    (s.entity? t = none ∧ s'.entity? t = none) ∨
      ∃ e e', s.entity? t = some e ∧ s'.entity? t = some e' ∧ Entity.AlikeOn side s s' e e' := by
  have hrel := h.entity? t
  generalize s.entity? t = r, s'.entity? t = r' at hrel
  cases hrel with
  | none => exact .inl ⟨rfl, rfl⟩
  | some he => exact .inr ⟨_, _, rfl, rfl, he⟩

theorem isEntity (h : s.AlikeOn side s') (t : JavaType) : s.isEntity t = s'.isEntity t := by
  unfold Session.isEntity
  rcases h.entity?_cases t with ⟨hs, hs'⟩ | ⟨e, e', hs, hs', -⟩
  · rw [hs, hs']
  · rw [hs, hs']
    rfl

theorem synthetic (h : s.AlikeOn side s') (t : JavaType) :
    (s.synthetic t).AlikeOn side (s'.synthetic t) := by
  have hsame : s.synthetic t = s'.synthetic t := by
    unfold Session.synthetic
    rw [h.isEntity]
  rw [hsame]
  exact .refl side _

end Session.AlikeOn

/-- Scopes on a side that does not tell them apart. -/
structure Scope.AlikeOn (side : Side) (a b : Scope) : Prop where
  session : a.session.AlikeOn side b.session
  frame : a.frame.AlikeOn side b.frame
  target : a.target = b.target
  side : b.target.side = side

end XmlBinding
