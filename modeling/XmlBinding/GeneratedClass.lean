import XmlBinding.Package
import XmlBinding.Path
import XmlBinding.Target

/-!
# Generated classes

* `GeneratedClass` : the source of one class, with its place;
* `GeneratedClass.relativePath` : `com/example/PersonBuilder.java`.
-/

namespace XmlBinding

/-- Source of one generated class. -/
structure GeneratedClass where
  target : Target
  package : String
  className : String
  source : String
  deriving DecidableEq, Repr

/-- Path of the source file below the root of its target: the segments of the package, then the file
name. -/
def GeneratedClass.relativePath (c : GeneratedClass) : Path :=
  (Path.pushAll ⟨""⟩ (Package.segments c.package)).push ⟨c.className ++ c.target.extension⟩

end XmlBinding
