import XmlBinding.Disk
import XmlBinding.Toml.Document

/-!
# Hosts

What a program needs of where it runs: a reader of TOML documents, files, and a console. The actions
of a host are those of a monad, so that the same program runs on a machine and on a value.

* `Host m` : the actions; `Host.write` puts a file where its directory may be missing;
* `World`, `World.host` : a disk and the text on its console;
* `Disk.host` : a disk that is only read.
-/

namespace XmlBinding

/-- What a machine offers to a program. -/
structure Host (m : Type → Type) where
  toml : Toml.Reader
  /-- Content of a file. -/
  read : Path → m (Except IoFault String)
  isFile : Path → m Bool
  isDirectory : Path → m Bool
  /-- Names in a directory, in any order. -/
  list : Path → m (Except IoFault (List String))
  /-- Makes a directory in one that is there. -/
  makeDirectory : Path → m (Except IoFault Unit)
  /-- Sets the content of a file in a directory that is there. -/
  put : Path → String → m (Except IoFault Unit)
  /-- Sends a text to the console. -/
  print : String → m (Except IoFault Unit)
  /-- Sends on what the console holds back. -/
  flush : m (Except IoFault Unit)

namespace Host

variable {m : Type → Type} [Monad m]

/-- Makes a directory and those above it that are missing. The steps are in reverse. A directory
that is there will do. -/
def createSteps (host : Host m) : List PathStep → ExceptT IoFault m Unit
  | [] => pure ()
  | step :: outer =>
    let p := Path.ofComponents (step :: outer).reverse
    let make : ExceptT IoFault m Unit := host.makeDirectory p
    let makeBelow : ExceptT IoFault m Unit := do
      createSteps host outer
      make
    tryCatch (tryCatch make fun fault => if fault = .notFound then makeBelow else throw fault)
      fun fault => do
        let there ← (host.isDirectory p : m Bool)
        if there then pure () else throw fault

/-- Makes a directory and those above it that are missing. -/
def createDirectories (host : Host m) (p : Path) : ExceptT IoFault m Unit :=
  host.createSteps p.components.reverse

/-- Sets the content of a file, making its directory where needed. -/
def write (host : Host m) (p : Path) (content : String) : ExceptT IoFault m Unit := do
  match p.parent? with
  | some outer => host.createDirectories outer
  | none => pure ()
  (host.put p content : m _)

end Host

/-- A disk that is only read. -/
def Disk.host (d : Disk) (toml : Toml.Reader := Toml.parse) : Host Id where
  toml := toml
  read p := d.read p
  isFile p := d.isFile p
  isDirectory p := d.isDirectory p
  list p := d.list p
  makeDirectory _ := .ok ()
  put _ _ := .ok ()
  print _ := .ok ()
  flush := .ok ()

/-- A disk and what has been printed. -/
structure World where
  disk : Disk
  printed : String

namespace World

def change (act : Disk.Change Unit) : StateM World (Except IoFault Unit) :=
  modifyGet fun w =>
    let (result, disk) := act.run.run w.disk
    (result, { w with disk })

/-- The host of a world, whose console takes everything at once. -/
def host (toml : Toml.Reader := Toml.parse) : Host (StateM World) where
  toml := toml
  read p := return (← get).disk.read p
  isFile p := return (← get).disk.isFile p
  isDirectory p := return (← get).disk.isDirectory p
  list p := return (← get).disk.list p
  makeDirectory p := change (Disk.makeDirectory p)
  put p content := change (Disk.writeFile p content)
  print text := do
    modify fun w => { w with printed := w.printed ++ text }
    return .ok ()
  flush := return .ok ()

end World

end XmlBinding
