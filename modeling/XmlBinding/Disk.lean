import XmlBinding.Failure
import XmlBinding.FileTree

/-!
# Disks

A file tree with a working directory. Paths are followed name by name, from the root or from the
working directory, and the first step that cannot be taken decides the fault.

* `Disk.locate` : the names that a path leads to;
* `Disk.read`, `isFile`, `isDirectory`, `list` : questions;
* `Disk.makeDirectory`, `writeFile` : changes.
-/

namespace XmlBinding

/-- A file tree, and the names that lead to the working directory. -/
structure Disk where
  root : FileTree
  here : List String

namespace Disk

/-- Most bytes of a name. -/
def nameLimit : Nat := 255

/-- Most bytes of a path. -/
def pathLimit : Nat := 4095

/-- Refuses a name of too many bytes. -/
def checkName (name : String) : Except IoFault Unit :=
  if name.utf8ByteSize ≤ nameLimit then .ok () else .error .nameTooLong

/-- Refuses a text that no path can be. -/
def checkPath (p : Path) : Except IoFault Unit :=
  if p.text.toList.contains '\x00' then .error .nulInName
  else if p.text.isEmpty then .error .notFound
  else if p.text.utf8ByteSize ≤ pathLimit then .ok ()
  else .error .nameTooLong

/-! ## Following paths -/

/-- The names that a list of parts leads to, from the directory at the names in `here`, which are in
reverse. The root is its own parent. -/
def follow (root : FileTree) (here : List String) : List String → Except IoFault (List String)
  | [] => .ok here.reverse
  | part :: rest =>
    match root.at? here.reverse with
    | some (.directory entries) =>
      if part = "." then follow root here rest
      else if part = ".." then follow root (here.drop 1) rest
      else do
        checkName part
        if (entries.lookup part).isSome then follow root (part :: here) rest
        else .error .notFound
    | some (.file _) => .error .notADirectory
    | none => .error .notFound

/-- The names that parts of a path lead to. -/
def followFrom (d : Disk) (p : Path) (parts : List String) : Except IoFault (List String) :=
  follow d.root (if p.isAbsolute then [] else d.here.reverse) parts

/-- Parts of a path to follow. A path that ends with a separator leads to a directory. -/
def partsOf (p : Path) : List String :=
  if p.text.toList.getLast? = some '/' then p.parts ++ ["."] else p.parts

/-- The names that a path leads to. -/
def locate (d : Disk) (p : Path) : Except IoFault (List String) := do
  checkPath p
  d.followFrom p (partsOf p)

def open? (d : Disk) (p : Path) : Except IoFault FileTree := do
  match d.root.at? (← d.locate p) with
  | some t => return t
  | none => throw .notFound

def read (d : Disk) (p : Path) : Except IoFault String := do
  match ← d.open? p with
  | .file content => return content
  | .directory _ => throw .isADirectory

def isFile (d : Disk) (p : Path) : Bool :=
  match d.open? p with
  | .ok (.file _) => true
  | _ => false

def isDirectory (d : Disk) (p : Path) : Bool :=
  match d.open? p with
  | .ok (.directory _) => true
  | _ => false

def list (d : Disk) (p : Path) : Except IoFault (List String) := do
  match ← d.open? p with
  | .directory entries => return entries.map Prod.fst
  | .file _ => throw .notADirectory

/-- Files below the working directory. -/
def files (d : Disk) : List (String × String) := ((d.root.at? d.here).map (·.files)).getD []

/-! ## Changes -/

abbrev Change := ExceptT IoFault (StateM Disk)

/-- Where the entry of a new name goes: the names of its directory and the name, or none for a path
that ends in no name of its own. -/
def slot (d : Disk) (p : Path) : Except IoFault (List String × Option String) := do
  checkPath p
  let outer ← d.followFrom p p.parts.dropLast
  match d.root.at? outer with
  | some (.directory _) =>
    match p.parts.getLast? with
    | none | some "." | some ".." => return (outer, none)
    | some name => do
      checkName name
      return (outer, some name)
  | _ => throw .notADirectory

/-- Puts a tree at the end of a list of names. -/
def place (new : FileTree) (names : List String) : Change Unit :=
  modify fun d => { d with root := FileTree.put new names d.root }

/-- Makes a directory in one that is there. -/
def makeDirectory (p : Path) : Change Unit := do
  let d ← get
  match ← liftM (d.slot p) with
  | (_, none) => throw .alreadyExists
  | (outer, some name) =>
    let names := outer ++ [name]
    if (d.root.at? names).isSome then throw .alreadyExists else place .empty names

/-- Sets the content of a file, in a directory that is there. -/
def writeFile (p : Path) (content : String) : Change Unit := do
  let d ← get
  match ← liftM (d.slot p) with
  | (_, none) => throw .isADirectory
  | (outer, some name) =>
    let names := outer ++ [name]
    match d.root.at? names with
    | some (.directory _) => throw .isADirectory
    | _ => place (.file content) names

end Disk

end XmlBinding
