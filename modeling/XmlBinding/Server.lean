import XmlBinding.Dialect
import XmlBinding.Server.Method

/-!
# Server builders

Java classes that read and write beans as dom4j elements.

* `Server.dialect own` : their dialect; `own` runs the helper jobs of a caller.
-/

namespace XmlBinding.Server

variable {X : Type}

def dialect (own : X → Emit (Job X) Unit) : Dialect (Job X) where
  name := "dom4j"
  target := .serverBuilder
  style := .dom4j
  classDocKey := "dom4j_builder"
  baseImports := ["org.dom4j.Element"]
  readers := readers
  elements := elements
  methods := methods
  run
    | .inl helper => emitHelper helper
    | .inr x => own x

end XmlBinding.Server
