import XmlBinding.CommandLine
import XmlBinding.Sink
import XmlBinding.Source

/-!
# Commands

* `Command.generate` : generates the classes of all descriptors and puts them where the
  configuration says;
* `Command.check` : generates them into memory;
* `Command.run` : a command line from its arguments to its outcome.
-/

namespace XmlBinding

namespace Command

/-- The step of a command that a failure stops. -/
inductive Stage where
  | loadingConfig (path : Path)
  | validating
  | choosingOutput
  | loadingDescriptor (path : Path)
  | scanning (package : String)
  | generating
  | checking
  deriving DecidableEq, Repr

/-- Wording for a step that has failed. -/
def Stage.message : Stage → String
  | loadingConfig path => s!"Failed to load configuration: {path.text}"
  | validating => "Invalid configuration"
  | choosingOutput => "Invalid output configuration"
  | loadingDescriptor path => s!"Failed to load descriptor: {path.text}"
  | scanning package => s!"Failed to scan package '{package}'"
  | generating => "Generation aborted"
  | checking => "Descriptors cannot be generated"

/-- Why a command fails. -/
inductive Fault where
  | noInputs
  | nothingToGenerate
  | stopped (stage : Stage) (cause : Failure)
  | unwritten (failed : List (Path × IoFault)) (total : Nat)
  /-- The console refuses what a command says of its success. -/
  | unprinted (fault : IoFault)
  deriving DecidableEq, Repr

namespace Fault

def message : Fault → String
  | noInputs => "No entities given: pass descriptor files or --classpath with --package"
  | nothingToGenerate => "No entities to generate: every descriptor was transient or empty"
  | stopped stage _ => stage.message
  | unwritten failed total => s!"{failed.length} of {total} classes could not be written"
  | unprinted fault => s!"failed printing to stdout: {fault.message}"

def cause? : Fault → Option Failure
  | stopped _ cause => some cause
  | _ => none

/-- Marks for the classes that could not be written. -/
def marks : Fault → List String
  | unwritten failed _ =>
    failed.map fun (path, fault) => s!"✗ {path.text}: {(Failure.io fault).message}"
  | _ => []

end Fault

def versionText : String := "flexgen 0.3.0\n"

/-- Short description of the command line. -/
def helpText : String :=
  "Generate Flex models and dom4j/E4X XML builders\n\n" ++
  "Usage: flexgen [--log-level LEVEL] generate|check [FILES] [OPTIONS]\n\n" ++
  "      --classpath DIR     root directory scanned with --package\n" ++
  "  -p, --package NAME      package to scan for descriptors, repeatable\n" ++
  "  -c, --config FILE       configuration, flexgen.toml when present\n" ++
  "  -o, --output MODE       console or file (generate)\n" ++
  "      --flex-dir DIR      root directory of client classes (generate)\n" ++
  "      --java-dir DIR      root directory of server classes (generate)\n"

/-- Configuration that is read when it is there and no other is named. -/
def defaultConfig : Path := ⟨"flexgen.toml"⟩

variable {m : Type → Type} [Monad m]

/-- Actions of a command. -/
abbrev Run (m : Type → Type) := ExceptT Fault m

/-- Actions whose failures stop a step. -/
def during (stage : Stage) (act : ExceptT Failure m α) : Run m α := do
  match ← (act.run : m _) with
  | .ok a => return a
  | .error cause => throw (.stopped stage cause)

def loadConfig (host : Host m) (inputs : InputArgs) : Run m Config := do
  match inputs.config with
  | some path => during (.loadingConfig path) (Source.readConfig host path)
  | none => do
    if ← host.isFile defaultConfig then
      during (.loadingConfig defaultConfig) (Source.readConfig host defaultConfig)
    else return .standard

/-- A configuration with what the command line replaces. -/
def override (output : OutputArgs) (config : Config) : Config :=
  { config with
    output := {
      mode := output.mode.getD config.output.mode
      clientRoot := output.clientRoot <|> config.output.clientRoot
      serverRoot := output.serverRoot <|> config.output.serverRoot } }

/-- Refuses an invalid configuration. -/
def validated (config : Config) : Run m Unit :=
  match config.validate with
  | .ok () => pure ()
  | .error fault => throw (.stopped .validating (.config fault))

def register (stage : Stage) (adding : m (Except Failure Nat × Generator)) : Run m Generator := do
  match ← (adding : m _) with
  | (.ok _, g) => return g
  | (.error cause, _) => throw (.stopped stage cause)

def buildGenerator (host : Host m) (inputs : InputArgs) (config : Config) : Run m Generator := do
  if inputs.files.isEmpty && inputs.packages.isEmpty then throw .noInputs
  let g ← during .validating (Source.newGenerator host config)
  let g ← inputs.files.foldlM
    (fun g path => register (.loadingDescriptor path) (g.addFile host path)) g.withAllHandlers
  let g ← match inputs.classPath with
    | none => pure g
    | some root =>
      inputs.packages.foldlM
        (fun g package => register (.scanning package) (g.addPackage host ⟨root⟩ package)) g
  if g.session.entities.entries.isEmpty then throw .nothingToGenerate
  return g

/-- Hands a class to the place that a configuration says. -/
def receiver (host : Host m) (config : Config) :
    Run m (GeneratedClass → m (Except IoFault Unit)) := do
  match config.output.mode with
  | .console => return fun c => (Sink.toConsole host c).run
  | .file =>
    match FileLayout.ofConfig config.output with
    | .ok layout => return fun c => (layout.write host c).run
    | .error fault => throw (.stopped .choosingOutput (.config fault))

/-- Generates and counts what could not be written. -/
def generate (host : Host m) (inputs : InputArgs) (output : OutputArgs) : Run m Unit := do
  let config := override output (← loadConfig host inputs)
  validated config
  let receive ← receiver host config
  let g ← buildGenerator host inputs config
  let (result, _) ← (g.generate receive : m _)
  match result with
  | .error cause => throw (.stopped .generating cause)
  | .ok report =>
    if report.isSuccess then return
    throw (.unwritten report.failed (report.failed.length + report.written.length))

def checkText (report : Report) : String :=
  "✓ Configuration is valid\n" ++ s!"✓ Entities: {report.classes}\n" ++
    s!"✓ Classes: {report.written.length}\n" ++ "\nDescriptors are valid!\n"

/-- Generates into memory and says how much there is. -/
def check (host : Host m) (inputs : InputArgs) : Run m Unit := do
  let config ← loadConfig host inputs
  validated config
  let g ← buildGenerator host inputs config
  let ((result, _), _) := (g.generate Sink.memory).run .empty
  match result with
  | .error cause => throw (.stopped .checking cause)
  | .ok report =>
    match ← (host.print (checkText report) : m _) with
    | .ok () => return
    | .error fault => throw (.unprinted fault)

/-- Outcome of a command line. -/
inductive Outcome where
  | done
  | failed (fault : Fault)
  | refused (fault : CommandLine.Fault)

def run (host : Host m) (args : List String) : m Outcome := do
  let ended (act : Run m Unit) : m Outcome := do
    match ← act.run with
    | .ok () => return .done
    | .error fault => return .failed fault
  match CommandLine.parse args with
  | .error fault => return .refused fault
  | .ok .version => do
    discard (host.print versionText)
    return .done
  | .ok .help => do
    discard (host.print helpText)
    return .done
  | .ok (.generate inputs output) => ended (generate host inputs output)
  | .ok (.check inputs) => ended (check host inputs)

end Command

end XmlBinding
