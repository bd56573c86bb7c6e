import XmlBinding.Generator
import XmlBinding.Host

/-!
# Where descriptors come from

Descriptors are read from single files, or from a class path: a directory tree in which
`com.example.Person` stands in `com/example/Person.toml`.

* `Source.readDescriptors host path` : the descriptors of a file;
* `ClassPath.scan host classPath package` : the descriptors directly in a package;
* `Source.readConfig`, `Source.newGenerator` : configuration and documentation from files;
* `Generator.addFile`, `Generator.addPackage` : registers what a file or a package describes.
-/

namespace XmlBinding

variable {m : Type → Type} [Monad m]

namespace Source

def readText (host : Host m) (p : Path) : ExceptT Failure m String := do
  match ← host.read p with
  | .ok text => return text
  | .error fault => throw (.io fault)

def inFile (p : Path) (fault : Toml.Fault) : Failure := .schema (.malformed (some p.text) fault)

def readDescriptors (host : Host m) (p : Path) : ExceptT Failure m (List EntityDescriptor) := do
  match Descriptor.parse (← readText host p) host.toml with
  | .ok descriptors => return descriptors
  | .error fault => throw (inFile p fault)

def readConfig (host : Host m) (p : Path) : ExceptT Failure m Config := do
  let text ← readText host p
  match Config.parse text host.toml with
  | .ok config => return config
  | .error failure => throw failure

def readBundle (host : Host m) (p : Path) : ExceptT Failure m Catalog.Bundle := do
  match Catalog.Bundle.parse (← readText host p) host.toml with
  | .ok bundle => return bundle
  | .error fault => throw (inFile p fault)

/-- A generator without handlers for a valid configuration, with its documentation. -/
def newGenerator (host : Host m) (config : Config) : ExceptT Failure m Generator := do
  match config.validate with
  | .ok () => pure ()
  | .error fault => throw (.config fault)
  match config.documentation with
  | none => return .new config none
  | some p => return .new config (some (← readBundle host p))

end Source

/-- A directory tree of descriptors laid out by packages. -/
structure ClassPath where
  root : Path
  deriving DecidableEq, Repr

namespace ClassPath

def descriptorExtension : String := "toml"

def directory (c : ClassPath) (package : String) : Path :=
  c.root.pushAll (Package.segments package)

/-- Whether a name in a directory is that of a descriptor file. -/
def isDescriptorName (name : String) : Bool :=
  (Path.cutExtension name).2 = some descriptorExtension

/-- The class that a file name promises in a package. -/
def promised (package name : String) : String := qualify package (Path.cutExtension name).1

/-- The descriptor that a file gives for the class its name promises, if it does. -/
def candidate (host : Host m) (package : String) (dir : Path) (name : String) :
    m (Option EntityDescriptor) := do
  match ← (Source.readDescriptors host (dir.push ⟨name⟩)).run with
  | .ok descriptors => return descriptors.find? (·.name = promised package name)
  | .error _ => return none

/-- The names of the descriptor files in a directory, in order. -/
def descriptorNames (host : Host m) (dir : Path) (names : List String) : m (List String) := do
  let files ← names.filterM fun name => do
    if isDescriptorName name then host.isFile (dir.push ⟨name⟩) else return false
  return files.foldl (fun sorted name => insertSorted name sorted) []

/-- The descriptors directly in a package, in the order of file names. Files that cannot be read, or
do not describe the class their name promises, are passed over. -/
def scan (host : Host m) (c : ClassPath) (package : String) :
    ExceptT Failure m (List EntityDescriptor) := do
  let dir := c.directory package
  if !(← host.isDirectory dir) then
    throw (.packageNotFound (Text.replaceChar '.' '/' package))
  match ← host.list dir with
  | .error fault => throw (.io fault)
  | .ok names => do
    let files ← (descriptorNames host dir names : m _)
    let found ← files.mapM fun name => (candidate host package dir name : m _)
    return found.filterMap id

end ClassPath

namespace Generator

/-- Registers what descriptors say that have to be read, and answers how many were not passed over.
Where they cannot be read, the generator stays as it is. -/
def addRead (g : Generator) (reading : ExceptT Failure m (List EntityDescriptor)) :
    m (Except Failure Nat × Generator) := do
  match ← reading.run with
  | .ok descriptors => return g.addDescriptors descriptors
  | .error failure => return (.error failure, g)

/-- Registers the entities of a descriptor file. -/
def addFile (host : Host m) (g : Generator) (p : Path) : m (Except Failure Nat × Generator) :=
  g.addRead (Source.readDescriptors host p)

/-- Registers the entities directly in a package of a class path. -/
def addPackage (host : Host m) (g : Generator) (c : ClassPath) (package : String) :
    m (Except Failure Nat × Generator) :=
  g.addRead (ClassPath.scan host c package)

end Generator

end XmlBinding
