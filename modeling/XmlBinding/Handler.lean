import XmlBinding.Client
import XmlBinding.ClientModel
import XmlBinding.Server

/-!
# Handlers

A handler makes the class of one target. It is told of an entity, of its properties one by one, and
of the end, and answers the class at the end. A builder only gathers properties until then; a model
writes each as it arrives.

* `Stage α` : the phase of a handler and its open class;
* `Builder.start`, `receive`, `finish` and `Model.start`, … : the callbacks;
* `Handler` : the three handlers, with `Handler.start`, `receive`, `finish`, `reset`.
-/

namespace XmlBinding

/-- Phase of a handler, and the class that is open. -/
structure Stage (α : Type) where
  phase : Phase
  current : Option α
  deriving DecidableEq, Repr

/-- The stage before any class. -/
def Stage.idle : Stage α := ⟨.idle, none⟩

/-- Callbacks of a handler. A failure keeps the phase that was entered. -/
abbrev Callback (α : Type) := ExceptT Failure (StateM (Stage α))

namespace Callback

variable {α : Type}

def enter (target : Phase) : Callback α Unit := do
  match (← get).phase.advance target with
  | .ok phase => modify fun s => { s with phase }
  | .error fault => throw (.invalidState fault)

def current (requirement : Requirement) : Callback α α := do
  let stage ← get
  match stage.current with
  | some a => return a
  | none => throw (.invalidState ⟨requirement, stage.phase⟩)

/-- Opens a class, or replaces the open one. -/
def put (a : α) : Callback α Unit := modify fun s => { s with current := some a }

/-- Takes the open class, which is open no more. -/
def take (requirement : Requirement) : Callback α α := do
  let a ← current requirement
  modify fun s => { s with current := none }
  return a

end Callback

/-! ## Builders -/

namespace Builder

/-- The frame of the class of an entity, without properties. -/
def openFrame (s : Session) (e : Entity) (t : Target) : Except Failure ClassFrame := do
  let package ← s.packageFor e t
  let node ← e.rootNode
  return .opening e package (s.className e t) node

def start (s : Session) (e : Entity) (t : Target) : Callback ClassFrame Unit := do
  Callback.enter .begun
  Callback.put (← liftM (openFrame s e t))

/-- The frame with one more property. Hidden properties are passed over; only basic ones can be
attributes. -/
def addProperty (p : Property) (f : ClassFrame) : Except Failure ClassFrame :=
  if p.isHidden .marshalling then .ok f
  else if p.node.isAttribute then
    if p.category ≠ .basic then .error (.complexAttribute f.entity.name p.name)
    else .ok { f with attributes := f.attributes ++ [p] }
  else .ok { f with elements := f.elements ++ [p] }

def receive (p : Property) : Callback ClassFrame Unit := do
  Callback.enter .properties
  let frame ← Callback.current .openFrame
  Callback.put (← liftM (addProperty p frame))

def finish (d : Dialect J) (s : Session) : Callback ClassFrame GeneratedClass := do
  Callback.enter .ended
  let frame ← Callback.take .openFrame
  liftM (d.render s frame)

end Builder

/-! ## Models -/

namespace Model

def start (s : Session) (e : Entity) : Callback ClientModel Unit := do
  Callback.enter .begun
  Callback.put (← liftM (ClientModel.opening s e))

/-- Receives a property. Hidden properties are passed over. -/
def receive (s : Session) (p : Property) : Callback ClientModel Unit := do
  Callback.enter .properties
  if p.isHidden .marshalling then return
  let model ← Callback.current .openClass
  Callback.put (model.add s p)

def finish (s : Session) : Callback ClientModel GeneratedClass := do
  Callback.enter .ended
  let model ← Callback.take .openClass
  return model.finish s

end Model

/-! ## The three handlers -/

/-- Handlers of a generator. -/
inductive Handler where
  | model (stage : Stage ClientModel)
  | clientBuilder (stage : Stage ClassFrame)
  | serverBuilder (stage : Stage ClassFrame)
  deriving DecidableEq, Repr

namespace Handler

/-- Client builders without helper jobs of a caller. -/
def clientDialect : Dialect (Client.Job Empty) := Client.dialect nofun

/-- Server builders without helper jobs of a caller. -/
def serverDialect : Dialect (Server.Job Empty) := Server.dialect nofun

/-- A handler that has seen no class. -/
def fresh : Target → Handler
  | .clientModel => model .idle
  | .clientBuilder => clientBuilder .idle
  | .serverBuilder => serverBuilder .idle

def target : Handler → Target
  | model _ => .clientModel
  | clientBuilder _ => .clientBuilder
  | serverBuilder _ => .serverBuilder

def name : Handler → String
  | model _ => "as3-model"
  | clientBuilder _ => clientDialect.name
  | serverBuilder _ => serverDialect.name

def phase : Handler → Phase
  | model stage => stage.phase
  | clientBuilder stage => stage.phase
  | serverBuilder stage => stage.phase

/-- Whether the handler holds an open class. -/
def holdsClass : Handler → Bool
  | model stage => stage.current.isSome
  | clientBuilder stage => stage.current.isSome
  | serverBuilder stage => stage.current.isSome

/-- Result of a callback and the handler after it. -/
abbrev After (β : Type) := Except Failure β × Handler

def running (wrap : Stage α → Handler) (act : Callback α β) (stage : Stage α) : After β :=
  let (result, stage) := act.run.run stage
  (result, wrap stage)

/-- Tells a handler that an entity begins. -/
def start (s : Session) (e : Entity) : Handler → After Unit
  | model stage => running model (Model.start s e) stage
  | clientBuilder stage => running clientBuilder (Builder.start s e .clientBuilder) stage
  | serverBuilder stage => running serverBuilder (Builder.start s e .serverBuilder) stage

def receive (s : Session) (p : Property) : Handler → After Unit
  | model stage => running model (Model.receive s p) stage
  | clientBuilder stage => running clientBuilder (Builder.receive p) stage
  | serverBuilder stage => running serverBuilder (Builder.receive p) stage

/-- Tells a handler that the entity ends, and gets the class. -/
def finish (s : Session) : Handler → After GeneratedClass
  | model stage => running model (Model.finish s) stage
  | clientBuilder stage => running clientBuilder (Builder.finish clientDialect s) stage
  | serverBuilder stage => running serverBuilder (Builder.finish serverDialect s) stage

/-- The handler without its open class. -/
def reset (h : Handler) : Handler := fresh h.target

end Handler

end XmlBinding
