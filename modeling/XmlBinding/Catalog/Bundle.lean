import XmlBinding.Toml.Decode
import XmlBinding.Toml.Document

/-!
# Bundles of method names and documentation

* `Bundle` : templates for the documentation of classes, and for names and documentation of methods;
* `Bundle.parse text` : the bundle that a file gives, without unknown keys.
-/

namespace XmlBinding.Catalog

/-- Templates for a method. -/
structure MethodText where
  name : Option String
  doc : Option String
  deriving DecidableEq, Repr

/-- Templates of one layer of a catalog. -/
structure Bundle where
  classes : List (String × String)
  methods : List (String × MethodText)
  deriving DecidableEq, Repr

open Toml (Table Value)

def MethodText.ofValue (v : Value) : Except Toml.Fault MethodText := do
  let keys := ["name", "doc"]
  let t ← v.asOpenRecord keys
  t.allow keys
  return ⟨← t.optional "name" Value.asString, ← t.optional "doc" Value.asString⟩

namespace Bundle

/-- Reads the entries of a table with a decoder for their values. -/
def entries (decode : Value → Except Toml.Fault α) (v : Value) :
    Except Toml.Fault (List (String × α)) := do
  (← v.asTable).mapM fun (key, v) => (decode v).map (key, ·)

def ofTable (t : Table) : Except Toml.Fault Bundle := do
  t.allow ["classes", "methods"]
  return ⟨← t.orElse "classes" (entries Value.asString) [],
    ← t.orElse "methods" (entries MethodText.ofValue) []⟩

/-- The bundle that the text of a file gives. -/
def parse (text : String) (toml : Toml.Reader := Toml.parse) : Except Toml.Fault Bundle := do
  ofTable (← toml text)

end Bundle

end XmlBinding.Catalog
