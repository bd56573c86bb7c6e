import XmlBinding.Handler

/-!
# Generation

Every entity, in the order of names, goes through every handler. Production is a function of the
generator; what receives the classes cannot change which classes there are.

* `Generator.produce` : the classes in order, up to the first failure;
* `deliver` : hands classes to a receiver and notes which it refused;
* `Generator.generate` : both.
-/

namespace XmlBinding

/-- A session and the handlers that generate from it. -/
structure Generator where
  session : Session
  handlers : List Handler
  deriving Repr

/-- What a generator produces. -/
structure Production where
  /-- All classes up to the failure, if there is one. -/
  classes : List GeneratedClass
  /-- Number of entities. -/
  outcome : Except Failure Nat
  /-- The handlers afterwards. -/
  handlers : List Handler

/-- Outcome of a generation. -/
structure Report where
  /-- Number of entities. -/
  classes : Nat
  /-- Paths of the classes that were received. -/
  written : List Path
  /-- Paths of the classes that were refused, with the reasons. -/
  failed : List (Path × IoFault)
  deriving DecidableEq, Repr

/-- Whether every class was received. -/
def Report.isSuccess (r : Report) : Bool := r.failed.isEmpty

namespace Production

/-- Handlers and classes while entities are produced. -/
structure Progress where
  handlers : List Handler
  classes : List GeneratedClass

/-- Steps of a production. A failure keeps the classes before it. -/
abbrev Produce := ExceptT Failure (StateM Progress)

/-- Handlers, new classes and a failure after one callback to each handler in order. -/
structure Round where
  handlers : List Handler
  classes : List GeneratedClass
  failure : Option Failure

/-- Calls each handler in order, up to the first failure. -/
def round (call : Handler → Handler.After (List GeneratedClass)) : List Handler → Round
  | [] => ⟨[], [], none⟩
  | h :: rest =>
    match call h with
    | (.error failure, h) => ⟨h :: rest, [], some failure⟩
    | (.ok classes, h) =>
      let r := round call rest
      ⟨h :: r.handlers, classes ++ r.classes, r.failure⟩

def step (call : Handler → Handler.After (List GeneratedClass)) : Produce Unit := do
  let r := round call (← get).handlers
  modify fun p => ⟨r.handlers, p.classes ++ r.classes⟩
  match r.failure with
  | some failure => throw failure
  | none => pure ()

/-- A callback that answers no class. -/
def silent (a : Handler.After Unit) : Handler.After (List GeneratedClass) :=
  (a.1.map fun _ => [], a.2)

/-- A callback that answers one class. -/
def single (a : Handler.After GeneratedClass) : Handler.After (List GeneratedClass) :=
  (a.1.map ([·]), a.2)

/-- One entity through every handler. -/
def ofEntity (s : Session) (e : Entity) : Produce Unit := do
  let properties ← liftM (s.describe e)
  step fun h => silent (h.start s e)
  properties.forM fun p => step fun h => silent (h.receive s p)
  step fun h => single (h.finish s)

end Production

namespace Generator

/-- A generator without handlers and entities. -/
def new (config : Config) (user : Option Catalog.Bundle) : Generator :=
  ⟨⟨config, Catalog.load config.locale user, .empty⟩, []⟩

def addHandler (g : Generator) (t : Target) : Generator :=
  { g with handlers := g.handlers ++ [.fresh t] }

def withAllHandlers (g : Generator) : Generator := Target.all.foldl addHandler g

def add (g : Generator) (e : Entity) : Generator := { g with session := g.session.register e }

/-- Registers the entities of descriptors in order, up to the first that is none, and answers how
many were not passed over. -/
def addDescriptors (g : Generator) : List EntityDescriptor → Except Failure Nat × Generator
  | [] => (.ok 0, g)
  | d :: rest =>
    match Entity.ofDescriptor d with
    | .error failure => (.error failure, g)
    | .ok e =>
      let (count, g) := (g.add e).addDescriptors rest
      (count.map (· + if d.transient then 0 else 1), g)

/-- All classes of the registered entities. After a failure every handler is idle again. -/
def produce (g : Generator) : Production :=
  let entities := g.session.entities.values
  let (result, progress) :=
    (entities.forM (Production.ofEntity g.session)).run.run ⟨g.handlers, []⟩
  match result with
  | .ok _ => ⟨progress.classes, .ok entities.length, progress.handlers⟩
  | .error failure => ⟨progress.classes, .error failure, progress.handlers.map Handler.reset⟩

end Generator

/-- Hands classes to a receiver in order. Answers the paths received and the paths refused. -/
def deliver [Monad m] (receive : GeneratedClass → m (Except IoFault Unit)) :
    List GeneratedClass → m (List Path × List (Path × IoFault))
  | [] => return ([], [])
  | c :: rest => do
    let answer ← receive c
    let (written, failed) ← deliver receive rest
    match answer with
    | .ok () => return (c.relativePath :: written, failed)
    | .error fault => return (written, (c.relativePath, fault) :: failed)

/-- Generates the classes of all entities and hands them to a receiver. What it refuses is noted,
and generation goes on. -/
def Generator.generate [Monad m] (g : Generator)
    (receive : GeneratedClass → m (Except IoFault Unit)) :
    m (Except Failure Report × Generator) := do
  let production := g.produce
  let (written, failed) ← deliver receive production.classes
  return (production.outcome.map (⟨·, written, failed⟩), { g with handlers := production.handlers })

end XmlBinding
