import XmlBinding.Config

/-!
# Command lines

`generate` and `check` take descriptor files and options; options may stand before, between and
after the files, and `--` ends them.

* `CommandLine.parse args` : what the arguments ask for, or the first fault in them.
-/

namespace XmlBinding

/-- Where a command finds its configuration and descriptors. -/
structure InputArgs where
  /-- Descriptor files. -/
  files : List Path
  classPath : Option Path
  packages : List String
  config : Option Path
  deriving DecidableEq, Repr

/-- What `generate` sets in place of the configuration. -/
structure OutputArgs where
  mode : Option OutputMode
  clientRoot : Option Path
  serverRoot : Option Path
  deriving DecidableEq, Repr

/-- What a command line asks for. -/
inductive Request where
  | generate (inputs : InputArgs) (output : OutputArgs)
  | check (inputs : InputArgs)
  | version
  | help
  deriving DecidableEq, Repr

namespace CommandLine

/-- Options with a value. -/
inductive Setting where
  | logLevel
  | classPath
  | package
  | config
  | output
  | clientRoot
  | serverRoot
  deriving DecidableEq, Repr

/-- What is wrong with a command line. -/
inductive Fault where
  | unknown (arg : String)
  | missingValue (option : String)
  | badValue (option value : String)
  | repeated (option : String)
  | requiresClassPath
  | missingCommand
  deriving DecidableEq, Repr

def Fault.message : Fault → String
  | unknown arg => s!"unexpected argument '{arg}' found"
  | missingValue option => s!"a value is required for '--{option}' but none was supplied"
  | badValue option value => s!"invalid value '{value}' for '--{option}'"
  | repeated option => s!"the argument '--{option}' cannot be used multiple times"
  | requiresClassPath => "the argument '--classpath' is required by '--package'"
  | missingCommand => "a command is required: generate or check"

namespace Setting

def long : Setting → String
  | logLevel => "log-level"
  | classPath => "classpath"
  | package => "package"
  | config => "config"
  | output => "output"
  | clientRoot => "flex-dir"
  | serverRoot => "java-dir"

def short? : Setting → Option Char
  | package => some 'p'
  | config => some 'c'
  | output => some 'o'
  | _ => none

def general : List Setting := [logLevel]

/-- Options of `check`. -/
def inputs : List Setting := [logLevel, classPath, package, config]

/-- Options of `generate`. -/
def all : List Setting := inputs ++ [output, clientRoot, serverRoot]

/-- Whether a value is one that the option takes. -/
def accepts (o : Setting) (value : String) : Bool :=
  match o with
  | logLevel => ["trace", "debug", "info", "warn", "error", "off"].contains value
  | output => (Config.modes.lookup value).isSome
  | package => true
  | classPath | config | clientRoot | serverRoot => !value.isEmpty

end Setting

/-- Options and positional arguments read so far. -/
structure Parsed where
  options : List (Setting × String)
  positional : List String

namespace Parsed

/-- Nothing read. -/
def empty : Parsed := ⟨[], []⟩

/-- Notes the value of an option. Only packages may be given again. -/
def set (p : Parsed) (o : Setting) (value : String) : Except Fault Parsed :=
  if !o.accepts value then .error (.badValue o.long value)
  else if o ≠ .package ∧ (p.options.lookup o).isSome then .error (.repeated o.long)
  else .ok { p with options := p.options ++ [(o, value)] }

/-- Notes a positional argument. -/
def add (p : Parsed) (value : String) : Except Fault Parsed :=
  if value.isEmpty then .error (.badValue "file" value)
  else .ok { p with positional := p.positional ++ [value] }

def path? (p : Parsed) (o : Setting) : Option Path := (p.options.lookup o).map Path.mk

/-- Where the configuration and descriptors are. Packages need a class path. -/
def inputArgs (p : Parsed) : Except Fault InputArgs :=
  let packages := (p.options.filter (·.1 = .package)).map Prod.snd
  if !packages.isEmpty && (p.path? .classPath).isNone then .error .requiresClassPath
  else .ok ⟨p.positional.map Path.mk, p.path? .classPath, packages, p.path? .config⟩

/-- What replaces the configuration. -/
def outputArgs (p : Parsed) : OutputArgs :=
  ⟨(p.options.lookup .output).bind fun word => Config.modes.lookup word,
    p.path? .clientRoot, p.path? .serverRoot⟩

end Parsed

/-- What one argument is, by its first characters. -/
inductive Word where
  /-- `--name` or `--name=value`. -/
  | long (name : String) (value : Option String)
  /-- A letter behind one dash, and what follows it. -/
  | short (letter : Char) (rest : List Char)
  | separator
  | plain

/-- Kind of an argument. -/
def Word.of (arg : String) : Word :=
  match arg.toList with
  | ['-', '-'] => .separator
  | '-' :: '-' :: cs =>
    let name := String.ofList (cs.takeWhile (· ≠ '='))
    match cs.dropWhile (· ≠ '=') with
    | [] => .long name none
    | _ :: value => .long name (some (String.ofList value))
  | '-' :: letter :: rest => .short letter rest
  | _ => .plain

/-- Whether an argument can be the value of the option before it. -/
def isValue (arg : String) : Bool :=
  match Word.of arg with
  | .plain => true
  | _ => false

/-- Reading goes on, or an argument asks for something by itself. -/
inductive Step where
  | go (parsed : Parsed) (rest : List String)
  | stop (request : Request)

/-- Notes an option whose value, if it is not attached, is the next argument. -/
def withValue (p : Parsed) (o : Setting) (attached : Option String) (rest : List String) :
    Except Fault Step :=
  match attached, rest with
  | some value, _ => (p.set o value).map (.go · rest)
  | none, value :: rest =>
    if isValue value then (p.set o value).map (.go · rest) else .error (.missingValue o.long)
  | none, [] => .error (.missingValue o.long)

/-- A value attached to a short option, with or without an equals sign. -/
def attached? : List Char → Option String
  | [] => none
  | '=' :: value => some (String.ofList value)
  | value => some (String.ofList value)

/-- Reads one argument with a dash. -/
def readOption (allowed : List Setting) (hasVersion : Bool) (p : Parsed) (arg : String)
    (rest : List String) : Except Fault Step :=
  match Word.of arg with
  | .long name value =>
    if name = "help" ∧ value.isNone then .ok (.stop .help)
    else if hasVersion ∧ name = "version" ∧ value.isNone then .ok (.stop .version)
    else
      match allowed.find? (·.long = name) with
      | some o => withValue p o value rest
      | none => .error (.unknown arg)
  | .short letter more =>
    if letter = 'h' then .ok (.stop .help)
    else if hasVersion ∧ letter = 'V' then .ok (.stop .version)
    else
      match allowed.find? (·.short? = some letter) with
      | some o => withValue p o (attached? more) rest
      | none => .error (.unknown arg)
  | _ => .error (.unknown arg)

def readArgs (allowed : List Setting) (p : Parsed) (args : List String) :
    Except Fault (Parsed ⊕ Request) :=
  match args with
  | [] => .ok (.inl p)
  | arg :: rest =>
    match Word.of arg with
    | .separator => (rest.foldlM Parsed.add p).map .inl
    | .plain => do readArgs allowed (← p.add arg) rest
    | _ => do
      match ← readOption allowed false p arg rest with
      | .stop request => .ok (.inr request)
      | .go p remaining =>
        if _h : remaining.length ≤ rest.length then readArgs allowed p remaining
        else .error (.unknown arg)
termination_by args.length

/-- A command that has been read, as a request. -/
def finish (request : Parsed → Except Fault Request) :
    Parsed ⊕ Request → Except Fault Request
  | .inl p => request p
  | .inr r => .ok r

def readCommand (name : String) (args : List String) : Except Fault Request := do
  match name with
  | "generate" =>
    finish (fun p => do return .generate (← p.inputArgs) p.outputArgs)
      (← readArgs Setting.all .empty args)
  | "check" =>
    finish (fun p => do return .check (← p.inputArgs)) (← readArgs Setting.inputs .empty args)
  | "help" =>
    match args with
    | [] | ["generate"] | ["check"] | ["help"] => .ok .help
    | arg :: _ => .error (.unknown arg)
  | _ => .error (.unknown name)

def readGeneral (p : Parsed) (args : List String) : Except Fault Request :=
  match args with
  | [] => .error .missingCommand
  | arg :: rest =>
    match Word.of arg with
    | .plain => readCommand arg rest
    | .separator => .error (.unknown arg)
    | _ => do
      match ← readOption Setting.general true p arg rest with
      | .stop request => .ok request
      | .go p remaining =>
        if _h : remaining.length ≤ rest.length then readGeneral p remaining
        else .error (.unknown arg)
termination_by args.length

def parse (args : List String) : Except Fault Request := readGeneral .empty args

end CommandLine

end XmlBinding
