import XmlBinding.Failure
import XmlBinding.Path
import XmlBinding.Target
import XmlBinding.Toml.Decode
import XmlBinding.Toml.Document

/-!
# Configuration

* `Config` : the settings of a session; `Config.standard` has the default of each;
* `Config.ofValue`, `Config.parse` : the settings that a file gives, unknown keys passed over;
* `Config.validate` : what a configuration must have to generate from it;
* `Config.indent`, `Config.openBrace`, `Config.modelName` : the layout and names it decides.
-/

namespace XmlBinding

/-- Where generated classes go. -/
inductive OutputMode where
  | console
  | file
  deriving DecidableEq, Repr

/-- Settings of the output. -/
structure OutputConfig where
  mode : OutputMode
  /-- Root directory of the classes of the client. -/
  clientRoot : Option Path
  /-- Root directory of the classes of the server. -/
  serverRoot : Option Path
  deriving DecidableEq, Repr

def OutputConfig.root? (o : OutputConfig) (t : Target) : Option Path :=
  if t.isClient then o.clientRoot else o.serverRoot

/-- Settings of a session. -/
structure Config where
  /-- One level of indentation. -/
  indentation : String
  /-- Whether the fields of models start with an underscore. -/
  usingUnderscore : Bool
  /-- Whether an opening brace stands on a line of its own. -/
  braceOnNewLine : Bool
  /-- What precedes the names of models. -/
  classLead : Option String
  /-- What follows the names of models. -/
  classSuffix : Option String
  /-- What follows the names of builders. -/
  builderSuffix : String
  locale : String
  /-- Package declarations. -/
  packages : PackageSlots
  output : OutputConfig
  /-- File with further method names and documentation. -/
  documentation : Option Path
  deriving DecidableEq, Repr

namespace Config

/-- The configuration without settings. -/
def standard : Config where
  indentation := "    "
  usingUnderscore := true
  braceOnNewLine := false
  classLead := none
  classSuffix := none
  builderSuffix := "Builder"
  locale := "en"
  packages := PackageSlots.uniform "."
  output := ⟨.console, none, none⟩
  documentation := none

open Toml (Table Value)

def asPath (v : Value) : Except Toml.Fault Path := v.asString.map Path.mk

def packagesOfValue (v : Value) : Except Toml.Fault PackageSlots := do
  let t ← v.asOpenRecord (Target.all.map Target.key)
  let slot (target : Target) := t.orElse target.key Value.asString (standard.packages.get target)
  return ⟨← slot .clientModel, ← slot .clientBuilder, ← slot .serverBuilder⟩

def modes : List (String × OutputMode) := [("console", .console), ("file", .file)]

def outputOfValue (v : Value) : Except Toml.Fault OutputConfig := do
  let t ← v.asOpenRecord ["mode", "flex_dir", "java_dir"]
  return ⟨← t.orElse "mode" (Value.asChoice modes) .console, ← t.optional "flex_dir" asPath,
    ← t.optional "java_dir" asPath⟩

def ofValue (v : Value) : Except Toml.Fault Config := do
  let t ← v.asOpenRecord ["indentation", "using_underscore", "new_line_before_curly_brace",
    "class_prefix", "class_suffix", "builder_suffix", "locale", "packages", "output",
    "documentation"]
  return {
    indentation := ← t.orElse "indentation" Value.asString standard.indentation
    usingUnderscore := ← t.orElse "using_underscore" Value.asBool standard.usingUnderscore
    braceOnNewLine := ← t.orElse "new_line_before_curly_brace" Value.asBool standard.braceOnNewLine
    classLead := ← t.optional "class_prefix" Value.asString
    classSuffix := ← t.optional "class_suffix" Value.asString
    builderSuffix := ← t.orElse "builder_suffix" Value.asString standard.builderSuffix
    locale := ← t.orElse "locale" Value.asString standard.locale
    packages := ← t.orElse "packages" packagesOfValue standard.packages
    output := ← t.orElse "output" outputOfValue standard.output
    documentation := ← t.optional "documentation" asPath }

/-- The configuration that the text of a file gives. -/
def parse (text : String) (toml : Toml.Reader := Toml.parse) : Except Failure Config :=
  (do ofValue (.table (← toml text))).mapError fun fault => .config (.malformed fault)

/-- What a configuration must have: texts that are not empty, and in file mode both roots. -/
def validate (c : Config) : Except ConfigFault Unit :=
  if c.builderSuffix.isEmpty then .error .emptyBuilderSuffix
  else if c.indentation.isEmpty then .error .emptyIndentation
  else if c.output.mode = .file ∧ c.output.clientRoot = none then .error .clientRootRequired
  else if c.output.mode = .file ∧ c.output.serverRoot = none then .error .serverRootRequired
  else .ok ()

def indent (c : Config) (level : Nat) : String :=
  String.join (List.replicate level c.indentation)

/-- The opening brace of a block whose header stands at a level. -/
def openBrace (c : Config) (level : Nat) : String :=
  if c.braceOnNewLine then "\n" ++ c.indent level ++ "\x7b\n" else " \x7b\n"

def modelName (c : Config) (simple : String) : String :=
  c.classLead.getD "" ++ simple ++ c.classSuffix.getD ""

end Config

end XmlBinding
