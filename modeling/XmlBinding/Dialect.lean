import XmlBinding.GeneratedClass
import XmlBinding.Writer

/-!
# Dialects of builders

A dialect gathers the writers of one kind of builder class. A class is rendered in two steps: the
body first, for it decides the imports, then the frame around it.

* `Dialect J` : the writers, with `run` for the helper jobs `J`;
* `Dialect.body` : the methods of a class and the helpers they ask for;
* `Dialect.render` : the whole class.
-/

namespace XmlBinding

/-- Writers of a kind of builder class. -/
structure Dialect (J : Type) where
  name : String
  target : Target
  /-- Primary style of access. -/
  style : AccessStyle
  /-- Key of the class documentation in the catalog. -/
  classDocKey : String
  /-- Classes that every builder imports. -/
  baseImports : List String
  /-- Writers of the code that reads properties. -/
  readers : PropertyRegistry J
  /-- Writers of the code that writes properties bound to elements. -/
  elements : PropertyRegistry J
  /-- Methods of every class. -/
  methods : MethodRegistry J
  /-- Writes the method of a helper. -/
  run : J → Emit J Unit

namespace Dialect

variable {J : Type}

def body (d : Dialect J) : Emit J Unit := do
  d.baseImports.forM Emit.importClass
  d.methods.writers.forM fun w => w.emit
  discard (Emit.drain d.run)

/-- The class of a frame, around a body with its imports. -/
def assemble (d : Dialect J) (session : Session) (frame : ClassFrame) (imports : List String)
    (body : String) : GeneratedClass :=
  let config := session.config
  let doc := match session.catalog.classDoc? d.classDocKey [frame.className, frame.entity.name] with
    | some doc => docComment config doc d.style.classLevel
    | none => ""
  { target := d.target
    package := frame.package
    className := frame.className
    source :=
      d.style.packageHeader config frame.package imports ++ doc ++
        d.style.classHeader config frame.className frame.superclass frame.interfaces ++ body ++
        d.style.classFooter config }

def render (d : Dialect J) (session : Session) (frame : ClassFrame) :
    Except Failure GeneratedClass :=
  let (result, emission) := (d.body.run ⟨session, frame, d.target⟩).run.run (.start d.style)
  result.map fun _ => d.assemble session frame emission.imports emission.output

end Dialect

end XmlBinding
