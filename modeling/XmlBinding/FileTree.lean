import XmlBinding.Path

/-!
# File trees

Directories and files as a value.

* `FileTree.at? names` : the tree at the end of a list of names;
* `FileTree.put new names` : the tree with another one there;
* `FileTree.files` : every file with its path.
-/

namespace XmlBinding

/-- A file, or a directory with the names in it. -/
inductive FileTree where
  | file (content : String)
  | directory (entries : List (String × FileTree))

namespace FileTree

def empty : FileTree := .directory []

/-- The tree at the end of a list of names. -/
def at? : List String → FileTree → Option FileTree
  | [], t => some t
  | _ :: _, .file _ => none
  | name :: rest, .directory entries => (entries.lookup name).bind (at? rest)

def setEntry (name : String) (t : FileTree) : List (String × FileTree) → List (String × FileTree)
  | [] => [(name, t)]
  | (n, u) :: rest => if n = name then (n, t) :: rest else (n, u) :: setEntry name t rest

/-- Puts a tree at the end of a list of names, in directories that are there. -/
def put (new : FileTree) : List String → FileTree → FileTree
  | [], _ => new
  | _ :: _, .file content => .file content
  | name :: rest, .directory entries =>
    .directory (setEntry name (put new rest ((entries.lookup name).getD empty)) entries)

/-- Name below a path, as text. -/
def childPath (outer name : String) : String := if outer.isEmpty then name else outer ++ "/" ++ name

mutual

def filesBelow (here : String) : FileTree → List (String × String)
  | .file content => [(here, content)]
  | .directory entries => filesOf here entries

/-- Every file of the entries of a directory. -/
def filesOf (here : String) : List (String × FileTree) → List (String × String)
  | [] => []
  | (name, t) :: rest => filesBelow (childPath here name) t ++ filesOf here rest

end

def files (root : FileTree) : List (String × String) := filesBelow "" root

end FileTree

end XmlBinding
