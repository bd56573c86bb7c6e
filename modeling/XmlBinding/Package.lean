import XmlBinding.Text.Split

/-!
# Package declarations

A declaration places a generated class relative to the package of its entity.

* `Package.resolve package declaration` : a rooted declaration `/x.y` is `x.y`; `.` is the package
  itself; each leading `../` goes up one segment, and what follows is appended.
-/

namespace XmlBinding.Package

/-- Why a declaration names no package. -/
inductive Fault where
  | empty
  | aboveRoot (declaration : String)
  deriving DecidableEq, Repr

def Fault.message : Fault → String
  | empty => "a package declaration cannot be empty"
  | aboveRoot declaration => s!"'{declaration}' walks above the root package"

def segments (package : String) : List String := (Text.pieces '.' package).filter (!·.isEmpty)

/-- Goes up one segment for each leading `../`. The segments are in reverse. -/
def climb (segments : List String) : List Char → Option (List String × List Char)
  | '.' :: '.' :: '/' :: rest =>
    match segments with
    | [] => none
    | _ :: outer => climb outer rest
  | rest => some (segments, rest)

/-- The declaration without a leading `./`. -/
def dropHere : List Char → List Char
  | '.' :: '/' :: rest => rest
  | rest => rest

/-- The relative part in dotted form: trailing slashes dropped, the others turned into dots. -/
def dotted (relative : List Char) : List Char :=
  let body := (relative.reverse.dropWhile (· = '/')).reverse
  body.map fun c => if c = '/' then '.' else c

/-- Package that a declaration names for an entity of `package`. -/
def resolve (package declaration : String) : Except Fault String :=
  match declaration.toList with
  | [] => .error .empty
  | '/' :: rooted => .ok (String.ofList rooted)
  | ['.'] => .ok package
  | cs =>
    match climb (segments package).reverse (dropHere cs) with
    | none => .error (.aboveRoot declaration)
    | some (outer, relative) =>
      let base := ".".intercalate outer.reverse
      let below := String.ofList (dotted relative)
      if below.isEmpty then .ok base
      else if base.isEmpty then .ok below
      else .ok (base ++ "." ++ below)

end XmlBinding.Package
