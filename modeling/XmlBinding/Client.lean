import XmlBinding.Client.Method
import XmlBinding.Dialect

/-!
# Client builders

ActionScript classes that read and write models as E4X literals.

* `Client.dialect own` : their dialect; `own` runs the helper jobs of a caller.
-/

namespace XmlBinding.Client

variable {X : Type}

def dialect (own : X → Emit (Job X) Unit) : Dialect (Job X) where
  name := "as3-builder"
  target := .clientBuilder
  style := .as3
  classDocKey := "as3_builder"
  baseImports := ["flash.utils.Dictionary"]
  readers := readers
  elements := elements
  methods := methods
  run
    | .inl helper => emitHelper helper
    | .inr x => own x

end XmlBinding.Client
