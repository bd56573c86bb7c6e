import XmlBinding.Session
import XmlBinding.Style

/-!
# Emission of a class body

While the body of a class is written, its output grows, classes to import are collected and helper
methods are asked for. Everything is in one value, so that what a writer does is a function.

* `Emission J` : output, imports, and the helpers asked for; `J` is the type of helper jobs;
* `Emit J` : actions that read the class at hand, change an emission and may fail;
* `Emit.write`, `line`, `openBlock`, … : output; `Emit.importClass` : imports;
* `Emit.request`, `Emit.drain` : helpers, each written once, in waves;
* `Emit.withStyle`, `Emit.capture` : an action in another style, or aside from the output.
-/

namespace XmlBinding

/-- The class that is being generated. -/
structure ClassFrame where
  entity : Entity
  package : String
  className : String
  /-- Root element of the entity. -/
  node : String
  superclass : Option String
  interfaces : List String
  /-- Properties bound to attributes. -/
  attributes : List Property
  /-- Properties bound to elements. -/
  elements : List Property
  deriving DecidableEq, Repr

namespace ClassFrame

/-- A frame without properties. -/
def opening (entity : Entity) (package className node : String) : ClassFrame :=
  ⟨entity, package, className, node, none, [], [], []⟩

def qualifiedName (f : ClassFrame) : String := qualify f.package f.className

end ClassFrame

/-- Identity of a helper: what it does and for which type. -/
structure HelperId where
  kind : String
  typeName : String
  deriving DecidableEq, Repr

def HelperId.text (i : HelperId) : String :=
  if i.typeName.isEmpty then i.kind else i.kind ++ "<" ++ i.typeName ++ ">"

/-- A helper that has been asked for. -/
structure Helper (J : Type) where
  id : HelperId
  job : J

/-- The state of a class body. -/
structure Emission (J : Type) where
  style : AccessStyle
  output : String
  /-- Classes to import, in ascending order. -/
  imports : List String
  /-- Helpers asked for and not yet written, in order. -/
  pending : List (Helper J)
  /-- Identities of all helpers asked for. -/
  requested : List HelperId

/-- A body before anything is written. -/
def Emission.start (style : AccessStyle) : Emission J := ⟨style, "", [], [], []⟩

/-- The class at hand and the session it belongs to. -/
structure Scope where
  session : Session
  frame : ClassFrame
  target : Target

/-- Actions on a class body. A failure keeps what was written before it. -/
abbrev Emit (J : Type) := ReaderT Scope (ExceptT Failure (StateM (Emission J)))

namespace Emit

variable {J : Type}

/-! ## Output -/

def config : Emit J Config := do return (← read).session.config

def frame : Emit J ClassFrame := do return (← read).frame

def style : Emit J AccessStyle := do return (← get).style

def write (text : String) : Emit J Unit := modify fun s => { s with output := s.output ++ text }

def indent (level : Nat) : Emit J String := do return (← config).indent level

def line (level : Nat) (text : String) : Emit J Unit := do
  write ((← indent level) ++ text ++ "\n")

/-- Appends the opening brace of a block at a level. -/
def openBrace (level : Nat) : Emit J Unit := do write ((← config).openBrace level)

def openBlock (level : Nat) (header : String) : Emit J Unit := do
  write ((← indent level) ++ header ++ (← config).openBrace level)

def closeBrace (level : Nat) : Emit J Unit := line level "\x7d"

/-! ## Imports -/

/-- Collects a class to import, unless it is in the default package or in that of the class. -/
def importClass (qualified : String) : Emit J Unit := do
  let package := packageOf qualified
  if package.isEmpty || package == (← frame).package then return
  modify fun s => { s with imports := insertSorted qualified s.imports }

/-- Collects the class that a Java type needs. -/
def importType (t : JavaType) : Emit J Unit :=
  match t.importName? with
  | some qualified => importClass qualified
  | none => pure ()

/-- Simple name of a Java type, which is imported. -/
def javaRef (t : JavaType) : Emit J String := do
  importType t
  return t.simpleName

def isEntity (t : JavaType) : Emit J Bool := do return (← read).session.isEntity t

/-- Simple name of the class generated for an entity, which is imported; of another type its own
simple name. -/
def classRef (target : Target) (t : JavaType) : Emit J String := do
  let session := (← read).session
  match session.entity? t with
  | none => return t.simpleName
  | some entity =>
    let name := session.className entity target
    let package ← liftM (session.packageFor entity target)
    importClass (qualify package name)
    return name

/-- Simple name of the class of the same kind generated for an entity. -/
def builderRef (t : JavaType) : Emit J String := do classRef (← read).target t

/-! ## Methods -/

def methodName (key : String) (args : List String) : Emit J String := do
  liftM ((← read).session.catalog.methodName key args)

/-- Starts a method with a blank line and its documentation, and answers its name. -/
def beginMethod (key : String) (nameArgs docArgs : List String) : Emit J String := do
  let name ← methodName key nameArgs
  let c ← config
  let level := (← style).methodLevel
  let doc := ((← read).session.catalog.methodDoc? key docArgs).map fun doc => docComment c doc level
  write ("\n" ++ doc.getD "")
  return name

/-- Appends the access to a value in the current style, if there is one. -/
def access (var : String) (p : Property) (lead tail : String) (placement : Option Placement) :
    Emit J Unit := do
  match (← style).access? (← config) var p lead tail placement with
  | some text => write text
  | none => pure ()

/-! ## Helpers -/

/-- Asks for a helper, unless one of its identity has been asked for. Answers whether it is new. -/
def request (id : HelperId) (job : J) : Emit J Bool := do
  if id ∈ (← get).requested then return false
  modify fun s =>
    { s with requested := s.requested ++ [id], pending := s.pending ++ [⟨id, job⟩] }
  return true

/-- Number of waves after which helpers that keep asking for new ones are given up. -/
def maxWaves : Nat := 64

/-- Takes the helpers that are pending. -/
def takePending : Emit J (List (Helper J)) :=
  modifyGet fun s => (s.pending, { s with pending := [] })

/-- Writes the pending helpers wave by wave, for at most `waves` waves. -/
def drainWaves (run : J → Emit J Unit) : Nat → Emit J Nat
  | 0 => do
    if (← get).pending.isEmpty then return 0 else throw (.helperExpansionLimit maxWaves)
  | waves + 1 => do
    if (← get).pending.isEmpty then return 0
    let wave ← takePending
    wave.forM fun helper => run helper.job
    return wave.length + (← drainWaves run waves)

/-- Writes the pending helpers until none is left, those asked for meanwhile in the next wave.
Answers how many were written. -/
def drain (run : J → Emit J Unit) : Emit J Nat := drainWaves run maxWaves

/-! ## Styles and captures -/

def withStyle (style : AccessStyle) (act : Emit J α) : Emit J α := fun scope s =>
  let (result, t) := (act.run scope).run.run { s with style }
  (result, { t with style := s.style })

/-- An action whose output is taken aside, and answered behind its result. -/
def capture (act : Emit J α) : Emit J (α × String) := fun scope s =>
  let (result, t) := (act.run scope).run.run { s with output := "" }
  (result.map (·, t.output), { t with output := s.output })

end Emit

end XmlBinding
