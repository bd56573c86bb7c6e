import XmlBinding.Generator
import XmlBinding.Host

/-!
# Receivers of generated classes

* `Sink.memory` : keeps the classes by path;
* `Sink.consoleText` : what is printed for a class; `Sink.console` collects it, `Sink.toConsole`
  prints it;
* `FileLayout` : a root directory for each side; `FileLayout.pathFor` places a class,
  `FileLayout.write` writes it there.
-/

namespace XmlBinding

variable {m : Type → Type} [Monad m]

namespace Sink

/-- Keeps every class under its path. A path that is there keeps its spelling. -/
def memory (c : GeneratedClass) : StateM (SortedMap Path String) (Except IoFault Unit) := do
  modify fun files => files.insert c.relativePath c.source
  return .ok ()

def consoleHead (c : GeneratedClass) : String := "// " ++ c.relativePath.text ++ "\n"

/-- Text that the console shows for a class. -/
def consoleText (c : GeneratedClass) : String := consoleHead c ++ c.source ++ "\n"

def console (c : GeneratedClass) : StateM String (Except IoFault Unit) := do
  modify (· ++ consoleText c)
  return .ok ()

/-- Prints a class part by part, up to the first that the console refuses. -/
def toConsole (host : Host m) (c : GeneratedClass) : ExceptT IoFault m Unit := do
  ExceptT.mk (host.print (consoleHead c))
  ExceptT.mk (host.print c.source)
  ExceptT.mk (host.print "\n")
  ExceptT.mk host.flush

end Sink

/-- Root directories of the sources of client and server. -/
structure FileLayout where
  client : Path
  server : Path
  deriving DecidableEq, Repr

namespace FileLayout

def ofConfig (o : OutputConfig) : Except ConfigFault FileLayout :=
  match o.root? .clientModel, o.root? .serverBuilder with
  | none, _ => .error .clientRootUnset
  | some _, none => .error .serverRootUnset
  | some client, some server => .ok ⟨client, server⟩

def root (l : FileLayout) (t : Target) : Path := if t.isClient then l.client else l.server

def pathFor (l : FileLayout) (c : GeneratedClass) : Path := (l.root c.target).push c.relativePath

def write (l : FileLayout) (host : Host m) (c : GeneratedClass) : ExceptT IoFault m Unit :=
  host.write (l.pathFor c) c.source

end FileLayout

end XmlBinding
