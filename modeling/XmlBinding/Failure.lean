import XmlBinding.Package
import XmlBinding.Phase
import XmlBinding.Scalar
import XmlBinding.Toml.Value

/-!
# Failures

Why reading inputs, resolving metadata or generating classes stops, each with its cause as data.

* `Failure` : the kinds of failures; `Failure.message` words them;
* `SchemaFault`, `ConfigFault`, `IoFault` : the causes that a kind gathers.
-/

namespace XmlBinding

/-- A fault of the file system or of the console. -/
inductive IoFault where
  | notFound
  | alreadyExists
  | notADirectory
  | isADirectory
  | nameTooLong
  | nulInName
  | brokenPipe
  | other (text : String)
  deriving DecidableEq, Repr

def IoFault.message : IoFault → String
  | notFound => "No such file or directory (os error 2)"
  | alreadyExists => "File exists (os error 17)"
  | notADirectory => "Not a directory (os error 20)"
  | isADirectory => "Is a directory (os error 21)"
  | nameTooLong => "File name too long (os error 36)"
  | nulInName => "file name contained an unexpected NUL byte"
  | brokenPipe => "Broken pipe (os error 32)"
  | other text => text

/-- What is wrong with a descriptor or with a file of documentation. -/
inductive SchemaFault where
  | type (fault : TypeFault)
  | entityName (name : String)
  | unnamedProperty (entity : String)
  /-- The text is no document of the expected shape; `file` is where it was read. -/
  | malformed (file : Option String) (fault : Toml.Fault)
  deriving DecidableEq, Repr

def SchemaFault.message : SchemaFault → String
  | type .emptyName => "empty type name"
  | type (.invalidName text) => s!"invalid type name '{text}'"
  | entityName name => s!"invalid entity name '{name}'"
  | unnamedProperty entity => s!"unnamed property in {entity}"
  | malformed none fault => fault.message
  | malformed (some file) fault => s!"{file}: {fault.message}"

/-- What is wrong with a configuration. -/
inductive ConfigFault where
  | emptyBuilderSuffix
  | emptyIndentation
  | clientRootRequired
  | serverRootRequired
  | clientRootUnset
  | serverRootUnset
  | malformed (fault : Toml.Fault)
  deriving DecidableEq, Repr

def ConfigFault.message : ConfigFault → String
  | emptyBuilderSuffix => "builder_suffix must not be empty"
  | emptyIndentation => "indentation must not be empty"
  | clientRootRequired => "output.flex_dir is required in file mode"
  | serverRootRequired => "output.java_dir is required in file mode"
  | clientRootUnset => "output.flex_dir is not set"
  | serverRootUnset => "output.java_dir is not set"
  | malformed fault => fault.message

/-- Why a step stops. -/
inductive Failure where
  | invalidPackage (entity declaration : String) (fault : Package.Fault)
  | missingElementType (entity property marker : String)
  | attributeClassNode (entity : String)
  | complexAttribute (entity property : String)
  | invalidDefault (entity property value : String) (fault : LiteralFault)
  | missingMethodName (key : String)
  | packageNotFound (package : String)
  | invalidState (fault : StateFault)
  | helperExpansionLimit (waves : Nat)
  | schema (fault : SchemaFault)
  | config (fault : ConfigFault)
  | io (fault : IoFault)
  deriving DecidableEq, Repr

def Failure.message : Failure → String
  | invalidPackage entity declaration fault =>
    s!"invalid package declaration '{declaration}' for {entity}: {fault.message}"
  | missingElementType entity property marker =>
    s!"missing element type on {entity}.{property}: {marker} marker requires one"
  | attributeClassNode entity => s!"a class cannot be an attribute node ({entity})"
  | complexAttribute entity property =>
    s!"a complex type cannot be used as XML attribute ({entity}.{property})"
  | invalidDefault entity property value fault =>
    s!"invalid default value '{value}' for {entity}.{property}: {fault.message}"
  | missingMethodName key => s!"method '{key}' missing in message catalog"
  | packageNotFound package => s!"the package '{package}' cannot be found"
  | invalidState fault => fault.message
  | helperExpansionLimit waves =>
    s!"context helper expansion did not settle after {waves} waves"
  | schema fault => s!"schema error: {fault.message}"
  | config fault => s!"configuration error: {fault.message}"
  | io fault => s!"I/O error: {fault.message}"

end XmlBinding
