import XmlBinding.Proofs.Catalog.Names
import XmlBinding.Proofs.Emission.Addition
import XmlBinding.Proofs.SortedMap

/-!
# What the actions of an emission make

* `Emit.Does scope style act r x` : from every emission of a style, `act` has the result `r` and
  adds `x`, whatever has been written before;
* `Emit.Makes scope style act a x` : `act` answers `a` and adds `x`, unless it meets an entity whose
  package cannot be resolved;
* `Makes.bind`, `makes_forM` : actions in a row; then one lemma for each action, with the texts and
  imports it stands for (`Config.lineText`, `Scope.usesOf`, `Session.refName`, …).
-/

namespace XmlBinding

/-! ## Texts, names and imports -/

def Config.lineText (c : Config) (level : Nat) (text : String) : String :=
  c.indent level ++ text ++ "\n"

def Config.linesText (c : Config) (level : Nat) (lines : List String) : String :=
  String.join (lines.map (c.lineText level))

/-- The header of a block with its opening brace. -/
def Config.blockText (c : Config) (level : Nat) (header : String) : String :=
  c.indent level ++ header ++ c.openBrace level

def Property.takesPart (p : Property) (d : Direction) : Bool :=
  !(p.isLazy d || p.isHidden .marshalling)

theorem Property.takesPart_iff {p : Property} {d : Direction} :
    p.takesPart d = true ↔ p.isLazy d = false ∧ p.isHidden .marshalling = false := by
  unfold takesPart
  rw [Bool.not_eq_true', Bool.or_eq_false_iff]

/-- What stands for a value takes part in every direction. -/
theorem Session.takesPart_synthetic (s : Session) (t : JavaType) (d : Direction) :
    (s.synthetic t).takesPart d = true :=
  Property.takesPart_iff.2 ⟨rfl, rfl⟩

/-- What is added for those of some properties that take part in a direction. -/
def Addition.ofProperties {J : Type} (d : Direction) (x : Property → Addition J)
    (ps : List Property) : Addition J :=
  .concat ((ps.filter (·.takesPart d)).map x)

namespace Session

/-- Package of the class generated for an entity, where there is one. -/
def home (s : Session) (e : Entity) (t : Target) : String := (s.packageFor e t).toOption.getD ""

/-- How generated code calls the class of a type. -/
def refName (s : Session) (target : Target) (t : JavaType) : String :=
  match s.entity? t with
  | none => t.simpleName
  | some e => s.className e target

/-- The blank line and the documentation before a method. -/
def methodLead (s : Session) (key : String) (args : List String) (level : Nat) : String :=
  "\n" ++ ((s.catalog.methodDoc? key args).map fun doc => docComment s.config doc level).getD ""

/-- A failure that a registered entity is to blame for, because its package is none. -/
def Blames (s : Session) (failure : Failure) : Prop :=
  ∃ e ∈ s.entities.values, ∃ t, s.packageFor e t = .error failure

theorem mem_values_of_entity? {s : Session} {t : JavaType} {e : Entity} (h : s.entity? t = some e) :
    e ∈ s.entities.values := by
  cases t with
  | reference q => exact s.entities.mem_values_of_find? h
  | primitive p => cases h
  | array c => cases h

end Session

namespace Scope

/-- What is imported for the use of a class. -/
def usesOf (scope : Scope) (qualified : String) : List String :=
  if (packageOf qualified).isEmpty || packageOf qualified == scope.frame.package then []
  else [qualified]

/-- What is imported for the use of a Java type. -/
def usesOfType (scope : Scope) (t : JavaType) : List String :=
  match t.importName? with
  | some qualified => scope.usesOf qualified
  | none => []

/-- What is imported for the use of the class generated for a type. -/
def usesOfRef (scope : Scope) (target : Target) (t : JavaType) : List String :=
  match scope.session.entity? t with
  | none => []
  | some e =>
    scope.usesOf (qualify (scope.session.home e target) (scope.session.className e target))

def nameOf (scope : Scope) (key : String) (args : List String) : String :=
  scope.session.catalog.nameOf key args

/-- How generated code calls the builder of a type. -/
def builderName (scope : Scope) (t : JavaType) : String := scope.session.refName scope.target t

/-- What is imported for the use of the builder of a type. -/
def usesOfBuilder (scope : Scope) (t : JavaType) : List String := scope.usesOfRef scope.target t

theorem usesOfBuilder_of_not_isEntity (scope : Scope) {t : JavaType}
    (h : scope.session.isEntity t = false) : scope.usesOfBuilder t = [] := by
  unfold usesOfBuilder usesOfRef
  rw [Option.not_isSome_iff_eq_none.1 (Bool.eq_false_iff.1 h)]

/-- The access to a value in a style; nothing where there is none. -/
def accessText (scope : Scope) (style : AccessStyle) (var : String) (p : Property)
    (lead tail : String) (placement : Option Placement) : String :=
  (style.access? scope.session.config var p lead tail placement).getD ""

/-- The method that stands for values of a type: of the type's builder for an entity, with `sep`
before its name, and a helper of the class itself for other types. -/
def callOf (scope : Scope) (t : JavaType) (sep standing helper : String) (args : List String) :
    String :=
  if scope.session.isEntity t then scope.builderName t ++ sep ++ scope.nameOf standing []
  else scope.nameOf helper args

/-- What the use of that method adds. -/
def callAddition {J : Type} (scope : Scope) (t : JavaType) (id : HelperId) (job : J) :
    Addition J :=
  if scope.session.isEntity t then .ofUses (scope.usesOfBuilder t) else .ofAsk id job

theorem text_callAddition {J : Type} (scope : Scope) (t : JavaType) (id : HelperId) (job : J) :
    (scope.callAddition t id job).text = "" := by
  unfold callAddition
  cases scope.session.isEntity t <;> rfl

theorem asks_callAddition {J : Type} (scope : Scope) (t : JavaType) (id : HelperId) (job : J) :
    (scope.callAddition t id job).asks =
      if scope.session.isEntity t then [] else [⟨id, job⟩] := by
  unfold callAddition
  cases scope.session.isEntity t <;> rfl

theorem uses_callAddition {J : Type} (scope : Scope) (t : JavaType) (id : HelperId) (job : J) :
    (scope.callAddition t id job).uses = scope.usesOfBuilder t := by
  unfold callAddition
  cases h : scope.session.isEntity t with
  | true => rfl
  | false => exact (scope.usesOfBuilder_of_not_isEntity h).symm

end Scope

namespace Emit

variable {J : Type} {α β : Type} {scope : Scope} {style : AccessStyle}

theorem bind_apply (act : Emit J α) (next : α → Emit J β) (scope : Scope) (s : Emission J) :
    (act >>= next) scope s =
      match act scope s with
      | (.ok a, t) => next a scope t
      | (.error failure, t) => (.error failure, t) := by
  simp only [bind, ReaderT.bind, ExceptT.bind, ExceptT.mk, StateT.bind, ExceptT.bindCont]
  cases act scope s with
  | mk r t => cases r <;> rfl

theorem discard_eq (act : Emit J α) : discard act = act >>= fun _ => pure () := rfl

/-! ## Results and additions -/

/-- From every emission of a style, an action has a result and adds something. -/
def Does (scope : Scope) (style : AccessStyle) (act : Emit J α) (r : Except Failure α)
    (x : Addition J) : Prop :=
  ∀ s : Emission J, s.style = style → act scope s = (r, s.add x)

theorem Does.bind {act : Emit J α} {next : α → Emit J β} {a : α} {r : Except Failure β}
    {x y : Addition J} (h : Does scope style act (.ok a) x)
    (h' : Does scope style (next a) r y) : Does scope style (act >>= next) r (x ++ y) := by
  intro s hs
  rw [bind_apply, h s hs]
  show next a scope (s.add x) = _
  rw [h' _ (by rw [Emission.add_style, hs]), Emission.add_append]

theorem Does.bind_error {act : Emit J α} {next : α → Emit J β} {failure : Failure}
    {x : Addition J} (h : Does scope style act (.error failure) x) :
    Does scope style (act >>= next) (.error failure) x := by
  intro s hs
  rw [bind_apply, h s hs]

/-- From every emission of a style, an action fails in some way. -/
def Stops (scope : Scope) (style : AccessStyle) (act : Emit J α) (way : Failure → Prop) : Prop :=
  ∃ failure x, way failure ∧ Does scope style act (.error failure) x

/-- An action answers something and adds something, unless a package stops it. -/
def Makes (scope : Scope) (style : AccessStyle) (act : Emit J α) (a : α) (x : Addition J) : Prop :=
  Does scope style act (.ok a) x ∨ Stops scope style act scope.session.Blames

theorem Makes.bind {act : Emit J α} {next : α → Emit J β} {a : α} {b : β} {x y : Addition J}
    (h : Makes scope style act a x) (h' : Makes scope style (next a) b y) :
    Makes scope style (act >>= next) b (x ++ y) := by
  rcases h with h | ⟨failure, z, hb, h⟩
  · rcases h' with h' | ⟨failure, z, hb, h'⟩
    · exact .inl (h.bind h')
    · exact .inr ⟨failure, x ++ z, hb, h.bind h'⟩
  · exact .inr ⟨failure, z, hb, h.bind_error⟩

theorem Stops.bind {act : Emit J α} {next : α → Emit J β} {way : Failure → Prop}
    (h : Stops scope style act way) : Stops scope style (act >>= next) way := by
  obtain ⟨failure, x, hw, h⟩ := h
  exact ⟨failure, x, hw, h.bind_error⟩

/-- What stops an action stops all that stands before it as well. -/
theorem Makes.stops {act : Emit J α} {next : α → Emit J β} {a : α} {x : Addition J}
    {way : Failure → Prop} (hway : ∀ failure, scope.session.Blames failure → way failure)
    (h : Makes scope style act a x) (h' : Stops scope style (next a) way) :
    Stops scope style (act >>= next) way := by
  rcases h with h | ⟨failure, y, hb, h⟩
  · obtain ⟨failure, y, hw, h'⟩ := h'
    exact ⟨failure, x ++ y, hw, h.bind h'⟩
  · exact ⟨failure, y, hway failure hb, h.bind_error⟩

theorem Makes.of_eq {act : Emit J α} {a : α} {x y : Addition J} (h : Makes scope style act a x)
    (hxy : x = y) : Makes scope style act a y := hxy ▸ h

theorem makes_pure (a : α) : Makes scope style (pure a : Emit J α) a .empty :=
  .inl fun s _ => by rw [Emission.add_empty]; rfl

/-- An action whose answer is only looked at. -/
theorem Makes.map {act : Emit J α} {a : α} {x : Addition J} (h : Makes scope style act a x)
    (f : α → β) : Makes scope style (act >>= fun a => pure (f a)) (f a) x :=
  (h.bind (makes_pure (f a))).of_eq (Addition.append_empty x)

/-- An action behind one that adds nothing. -/
theorem Makes.bind_right {act : Emit J α} {next : α → Emit J β} {a : α} {b : β} {x : Addition J}
    (h : Makes scope style act a .empty) (h' : Makes scope style (next a) b x) :
    Makes scope style (act >>= next) b x :=
  (h.bind h').of_eq (Addition.empty_append x)

/-- An action before one that adds nothing. -/
theorem Makes.bind_map {act : Emit J α} {next : α → Emit J β} {a : α} {b : β} {x : Addition J}
    (h : Makes scope style act a x) (h' : Makes scope style (next a) b .empty) :
    Makes scope style (act >>= next) b x :=
  (h.bind h').of_eq (Addition.append_empty x)

/-- An action that only looks at scope and style. -/
theorem makes_of_apply {act : Emit J α} {a : α}
    (h : ∀ s : Emission J, s.style = style → act scope s = (.ok a, s)) :
    Makes scope style act a .empty :=
  .inl fun s hs => by rw [Emission.add_empty, h s hs]

theorem makes_forM {ps : List β} {act : β → Emit J Unit} {x : β → Addition J}
    (h : ∀ p ∈ ps, Makes scope style (act p) () (x p)) :
    Makes scope style (ps.forM act) () (.concat (ps.map x)) := by
  induction ps with
  | nil => exact makes_pure ()
  | cons p ps ih =>
    exact (h p List.mem_cons_self).bind (ih fun q hq => h q (List.mem_cons_of_mem _ hq))

/-- One action that fails stops those in a row with it. -/
theorem stops_forM {ps : List β} {act : β → Emit J Unit} {way : Failure → Prop}
    (hway : ∀ failure, scope.session.Blames failure → way failure)
    (h : ∀ p ∈ ps, (∃ x, Makes scope style (act p) () x) ∨ Stops scope style (act p) way)
    {p : β} (hp : p ∈ ps) (hstop : Stops scope style (act p) way) :
    Stops scope style (ps.forM act) way := by
  induction ps with
  | nil => cases hp
  | cons q ps ih =>
    show Stops scope style (act q >>= fun _ => ps.forM act) way
    rcases h q List.mem_cons_self with ⟨x, hq⟩ | hq
    · rcases List.mem_cons.1 hp with rfl | hp
      · exact hstop.bind
      · exact hq.stops hway (ih (fun r hr => h r (List.mem_cons_of_mem _ hr)) hp)
    · exact hq.bind

/-! ## Output -/

theorem makes_config : Makes scope style (config : Emit J Config) scope.session.config .empty :=
  makes_of_apply fun _ _ => rfl

theorem makes_frame : Makes scope style (frame : Emit J ClassFrame) scope.frame .empty :=
  makes_of_apply fun _ _ => rfl

theorem makes_style : Makes scope style (Emit.style : Emit J AccessStyle) style .empty :=
  makes_of_apply fun s hs => by rw [← hs]; rfl

theorem makes_read : Makes scope style (read : Emit J Scope) scope .empty :=
  makes_of_apply fun _ _ => rfl

theorem makes_indent (level : Nat) :
    Makes scope style (indent level : Emit J String) (scope.session.config.indent level) .empty :=
  makes_of_apply fun _ _ => rfl

theorem makes_isEntity (t : JavaType) :
    Makes scope style (isEntity t : Emit J Bool) (scope.session.isEntity t) .empty :=
  makes_of_apply fun _ _ => rfl

theorem makes_write (text : String) :
    Makes scope style (write text : Emit J Unit) () (.ofText text) :=
  .inl fun _ _ => rfl

theorem makes_line (level : Nat) (text : String) :
    Makes scope style (line level text : Emit J Unit) ()
      (.ofText (scope.session.config.lineText level text)) :=
  .inl fun _ _ => rfl

theorem makes_openBlock (level : Nat) (header : String) :
    Makes scope style (openBlock level header : Emit J Unit) ()
      (.ofText (scope.session.config.blockText level header)) :=
  .inl fun _ _ => rfl

theorem makes_closeBrace (level : Nat) :
    Makes scope style (closeBrace level : Emit J Unit) ()
      (.ofText (scope.session.config.lineText level "\x7d")) :=
  makes_line level "\x7d"

/-- Actions in a row that each append a text. -/
theorem makes_texts {ps : List β} {act : β → Emit J Unit} {text : β → String}
    (h : ∀ p ∈ ps, Makes scope style (act p) () (.ofText (text p))) :
    Makes scope style (ps.forM act) () (.ofText (String.join (ps.map text))) := by
  refine (makes_forM h).of_eq ?_
  clear h
  induction ps with
  | nil => rfl
  | cons p ps ih =>
    rw [List.map_cons, Addition.concat_cons, ih, Addition.ofText_append, List.map_cons,
      String.join_cons]

theorem makes_lines (level : Nat) (lines : List String) :
    Makes scope style (lines.forM fun l => line level l : Emit J Unit) ()
      (.ofText (scope.session.config.linesText level lines)) :=
  makes_texts fun l _ => makes_line level l

/-! ## Imports -/

theorem makes_importClass (qualified : String) :
    Makes scope style (importClass qualified : Emit J Unit) ()
      (.ofUses (scope.usesOf qualified)) := by
  refine .inl fun s _ => ?_
  unfold importClass Scope.usesOf
  rw [bind_apply]
  show (if _ then _ else _ : Emit J Unit) scope s = _
  split
  · exact congrArg (Prod.mk _) (Emission.add_empty s).symm
  · simp only [Emission.add, Addition.ofUses, String.append_empty]
    rfl

theorem makes_importType (t : JavaType) :
    Makes scope style (importType t : Emit J Unit) () (.ofUses (scope.usesOfType t)) := by
  unfold importType Scope.usesOfType
  cases t.importName? with
  | some qualified => exact makes_importClass qualified
  | none => exact makes_pure ()

theorem makes_javaRef (t : JavaType) :
    Makes scope style (javaRef t : Emit J String) t.simpleName (.ofUses (scope.usesOfType t)) := by
  exact (makes_importType t).map fun _ => t.simpleName

theorem makes_classRef (target : Target) (t : JavaType) :
    Makes scope style (classRef target t : Emit J String) (scope.session.refName target t)
      (.ofUses (scope.usesOfRef target t)) := by
  unfold classRef Session.refName Scope.usesOfRef
  refine makes_read.bind_right ?_
  dsimp only
  cases he : scope.session.entity? t with
  | none => exact makes_pure _
  | some e =>
    dsimp only
    cases hp : scope.session.packageFor e target with
    | error failure =>
      refine .inr ⟨failure, .empty, ⟨e, Session.mem_values_of_entity? he, target, hp⟩, ?_⟩
      exact Does.bind_error fun s _ => by rw [Emission.add_empty]; rfl
    | ok package =>
      have hh : scope.session.home e target = package := by rw [Session.home, hp]; rfl
      rw [hh]
      have hl : Makes scope style (liftM (Except.ok (ε := Failure) package) : Emit J String) package
          .empty := makes_of_apply fun _ _ => rfl
      refine hl.bind_right ?_
      exact (makes_importClass _).map fun _ => scope.session.className e target

theorem makes_builderRef (t : JavaType) :
    Makes scope style (builderRef t : Emit J String) (scope.builderName t)
      (.ofUses (scope.usesOfBuilder t)) :=
  makes_read.bind_right (makes_classRef scope.target t)

/-! ## Methods -/

section Named
variable (hc : scope.session.catalog.NamesMethods) {key : String} (hk : Catalog.IsMethodKey key)
include hc hk

theorem makes_methodName (args : List String) :
    Makes scope style (methodName key args : Emit J String) (scope.nameOf key args) .empty := by
  refine makes_read.bind_right ?_
  rw [hc.methodName_eq hk args]
  exact makes_of_apply fun _ _ => rfl

theorem makes_beginMethod (nameArgs docArgs : List String) :
    Makes scope style (beginMethod key nameArgs docArgs : Emit J String) (scope.nameOf key nameArgs)
      (.ofText (scope.session.methodLead key docArgs style.methodLevel)) := by
  unfold beginMethod
  refine (makes_methodName hc hk nameArgs).bind_right (makes_config.bind_right
    (makes_style.bind_right (makes_read.bind_right ?_)))
  exact (makes_write _).map fun _ => scope.nameOf key nameArgs

end Named

theorem makes_access (var : String) (p : Property) (lead tail : String)
    (placement : Option Placement) :
    Makes scope style (access var p lead tail placement : Emit J Unit) ()
      (.ofText (scope.accessText style var p lead tail placement)) := by
  unfold access Scope.accessText
  refine makes_style.bind_right (makes_config.bind_right ?_)
  cases style.access? scope.session.config var p lead tail placement with
  | some text => exact makes_write text
  | none => exact makes_pure ()

/-! ## Helpers, styles and captures -/

theorem request_apply (id : HelperId) (job : J) (s : Emission J) :
    request id job scope s =
      (.ok (!decide (id ∈ s.requested)), s.add (.ofAsk id job)) := by
  unfold request
  rw [bind_apply]
  show (if _ then _ else _ : Emit J Bool) scope s = _
  simp only [Emission.add, Addition.ofAsk, List.foldl_cons, List.foldl_nil, String.append_empty,
    Emission.ask]
  by_cases h : id ∈ s.requested
  · simp only [h, if_true]
    rfl
  · simp only [h, if_false]
    rfl

theorem makes_request (id : HelperId) (job : J) :
    Makes scope style (discard (request id job)) () (.ofAsk id job) := by
  refine .inl fun s _ => ?_
  rw [discard_eq, bind_apply, request_apply]
  rfl

/-- What is done with the method for values of a type: one of a builder for entities, else a
helper. -/
theorem makes_callOf {t : JavaType} {sep standing helper : String} {args : List String}
    {id : HelperId} {job : J} {ofBuilder ofHelper : Emit J Unit} {k : String → Addition J}
    (hb : Makes scope style ofBuilder ()
      (.ofUses (scope.usesOfBuilder t) ++
        k (scope.builderName t ++ sep ++ scope.nameOf standing [])))
    (hh : Makes scope style ofHelper () (.ofAsk id job ++ k (scope.nameOf helper args))) :
    Makes scope style (if scope.session.isEntity t = true then ofBuilder else ofHelper) ()
      (scope.callAddition t id job ++ k (scope.callOf t sep standing helper args)) := by
  unfold Scope.callOf Scope.callAddition
  split
  · exact hb
  · exact hh

theorem withStyle_apply (inner : AccessStyle) (act : Emit J α) (s : Emission J) :
    withStyle inner act scope s =
      ((act scope { s with style := inner }).1,
        { (act scope { s with style := inner }).2 with style := s.style }) := rfl

theorem Does.withStyle {inner : AccessStyle} {act : Emit J α} {r : Except Failure α}
    {x : Addition J} (h : Does scope inner act r x) :
    Does scope style (Emit.withStyle inner act) r x := by
  intro s _
  rw [withStyle_apply, h { s with style := inner } rfl, Emission.with_add s inner s.output x]
  rw [← Emission.add_style s x, ← Emission.add_output s x]

theorem capture_apply (act : Emit J α) (s : Emission J) :
    capture act scope s =
      ((act scope { s with output := "" }).1.map
          (·, (act scope { s with output := "" }).2.output),
        { (act scope { s with output := "" }).2 with output := s.output }) := rfl

theorem Does.capture {act : Emit J α} {r : Except Failure α} {x : Addition J}
    (h : Does scope style act r x) :
    Does scope style (Emit.capture act) (r.map (·, x.text)) { x with text := "" } := by
  intro s hs
  rw [capture_apply, h { s with output := "" } hs, Emission.with_add s s.style "" x]
  refine Prod.ext (by simp) ?_
  rw [Emission.add_eq s { x with text := "" }, Emission.add_eq s x]
  simp

theorem Makes.withStyle {inner : AccessStyle} {act : Emit J α} {a : α} {x : Addition J}
    (h : Makes scope inner act a x) : Makes scope style (Emit.withStyle inner act) a x := by
  rcases h with h | ⟨failure, y, hb, h⟩
  · exact .inl h.withStyle
  · exact .inr ⟨failure, y, hb, h.withStyle⟩

theorem Makes.capture {act : Emit J α} {a : α} {x : Addition J}
    (h : Makes scope style act a x) :
    Makes scope style (Emit.capture act) (a, x.text) { x with text := "" } := by
  rcases h with h | ⟨failure, y, hb, h⟩
  · exact .inl h.capture
  · exact .inr ⟨failure, _, hb, h.capture⟩

/-! ## Properties -/

section Property
variable {r : PropertyRegistry J} {var : String} {p : Property} {d : Direction}

theorem writeProperty_apply (s : Emission J) :
    writeProperty r var p d scope s =
      if p.takesPart d then
        match r.dispatch? scope.session s.style p with
        | some w => w.emit var p scope s
        | none => (.ok (), s)
      else (.ok (), s) := by
  unfold writeProperty Property.takesPart
  show (if _ then _ else _ : Emit J Unit) scope s = _
  cases p.isLazy d || p.isHidden .marshalling with
  | true => rfl
  | false =>
    show (match r.dispatch? scope.session s.style p with | some w => _ | none => _ : Emit J Unit)
      scope s = _
    cases r.dispatch? scope.session s.style p <;> rfl

theorem makes_writeProperty_absent (h : ¬p.takesPart d = true) :
    Makes scope style (writeProperty r var p d) () .empty :=
  makes_of_apply fun s _ => by rw [writeProperty_apply, if_neg h]

theorem makes_writeProperty_none (h : r.dispatch? scope.session style p = none) :
    Makes scope style (writeProperty r var p d) () .empty :=
  makes_of_apply fun s hs => by rw [writeProperty_apply, hs, h, ite_self]

theorem makes_writeProperty {w : PropertyWriter J} {x : Addition J} (h : p.takesPart d = true)
    (hd : r.dispatch? scope.session style p = some w)
    (hw : Makes scope style (w.emit var p) () x) :
    Makes scope style (writeProperty r var p d) () x := by
  have happly (s : Emission J) (hs : s.style = style) :
      writeProperty r var p d scope s = w.emit var p scope s := by
    rw [writeProperty_apply, if_pos h, hs, hd]
  rcases hw with hw | ⟨failure, y, hb, hw⟩
  · exact .inl fun s hs => (happly s hs).trans (hw s hs)
  · exact .inr ⟨failure, y, hb, fun s hs => (happly s hs).trans (hw s hs)⟩

theorem makes_writeProperties {ps : List Property} {x : Property → Addition J}
    (h : ∀ p ∈ ps, p.takesPart d = true → Makes scope style (writeProperty r var p d) () (x p)) :
    Makes scope style (writeProperties r var ps d) () (.ofProperties d x ps) := by
  induction ps with
  | nil => exact makes_pure ()
  | cons p ps ih =>
    have hrest := ih fun q hq => h q (List.mem_cons_of_mem _ hq)
    unfold Addition.ofProperties
    by_cases hp : p.takesPart d = true
    · rw [List.filter_cons_of_pos (by exact hp)]
      exact (h p List.mem_cons_self hp).bind hrest
    · rw [List.filter_cons_of_neg (by exact hp)]
      exact (makes_writeProperty_absent hp).bind_right hrest

theorem makes_expression {inner : AccessStyle} {t : JavaType} {x : Addition J}
    (h : Makes scope inner (writeProperty r var (scope.session.synthetic t) .serverRead) () x) :
    Makes scope style (expression r inner var t) x.text { x with text := "" } := by
  unfold expression
  refine makes_read.bind_right ?_
  exact (h.capture.withStyle).map fun b => b.2

end Property

end Emit

end XmlBinding
