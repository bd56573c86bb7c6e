import XmlBinding.Text.Split

/-!
# Paths

A path is kept as written; two paths that differ in repeated or trailing separators, or in inner `.`
steps, have the same components and count as equal.

* `Path.push p q` : `q` below `p`; an absolute `q` stands alone;
* `Path.components` : the steps; `Path.compare` orders paths step by step;
* `Path.parent?` : the path without its last step;
* `Path.cutExtension` : name and extension of a file.
-/

namespace XmlBinding

/-- A step of a path. -/
inductive PathStep where
  | root
  | current
  | parent
  | name (s : String)
  deriving DecidableEq, Repr

/-- A path as written. -/
structure Path where
  text : String
  deriving DecidableEq, Repr

namespace PathStep

def text : PathStep → String
  | root => ""
  | current => "."
  | parent => ".."
  | name s => s

/-- Place of a kind of step in the order. -/
def rank : PathStep → Nat
  | root => 0
  | current => 1
  | parent => 2
  | name _ => 3

/-- Steps in order: the root, `.`, `..`, then names by their characters. -/
def compare : PathStep → PathStep → Ordering := compareLex (compareOn rank) (compareOn text)

instance : Ord PathStep := ⟨compare⟩

instance : Std.TransOrd PathStep := inferInstanceAs (Std.TransCmp (compareLex _ _))

end PathStep

namespace Path

/-- Whether the path starts at the root. -/
def isAbsolute (p : Path) : Bool := p.text.toList.head? = some '/'

/-- `q` below `p`. An absolute `q` replaces `p`. -/
def push (p q : Path) : Path :=
  if q.isAbsolute then q
  else if p.text.isEmpty || p.text.toList.getLast? = some '/' then ⟨p.text ++ q.text⟩
  else ⟨p.text ++ "/" ++ q.text⟩

/-- A list of names below `p`, each below the one before. -/
def pushAll (p : Path) (names : List String) : Path := names.foldl (fun path n => path.push ⟨n⟩) p

/-- The parts between separators, without empty ones. -/
def parts (p : Path) : List String := (Text.pieces '/' p.text).filter (!·.isEmpty)

/-- The steps of a path. A `.` counts only at the start of a relative path. -/
def components (p : Path) : List PathStep :=
  let step (s : String) : PathStep := if s = ".." then .parent else .name s
  let rest (parts : List String) := (parts.filter (· ≠ ".")).map step
  if p.isAbsolute then .root :: rest p.parts
  else
    match p.parts with
    | "." :: parts => .current :: rest parts
    | parts => rest parts

/-- Paths in order, step by step. -/
def compare : Path → Path → Ordering := compareOn components

instance : Ord Path := ⟨compare⟩

instance : Std.TransOrd Path := inferInstanceAs (Std.TransCmp (compareOn components))

def ofComponents : List PathStep → Path
  | [.root] => ⟨"/"⟩
  | steps => ⟨"/".intercalate (steps.map PathStep.text)⟩

/-- The path without its last step; none for the root and the empty path. -/
def parent? (p : Path) : Option Path :=
  match p.components.reverse with
  | [] | [.root] => none
  | _ :: outer => some (ofComponents outer.reverse)

/-- A file name cut at its last dot, unless that is its first character. -/
def cutExtension (file : String) : String × Option String :=
  let reversed := file.toList.reverse
  let stem := ((reversed.dropWhile (· ≠ '.')).drop 1).reverse
  if stem.isEmpty then (file, none)
  else (String.ofList stem, some (String.ofList (reversed.takeWhile (· ≠ '.')).reverse))

end Path

end XmlBinding
