import XmlBinding.Command

/-!
# The program

Runs a command line on the machine at hand.
-/

namespace XmlBinding

/-- Number of an error of the system, which some calls answer negated. -/
def errorNumber (code : UInt32) : Nat := min code.toNat (-code).toNat

/-- A fault of the file system by its cause. -/
def ioFault (e : IO.Error) : IoFault :=
  match e with
  | .noFileOrDirectory .. => .notFound
  | .alreadyExists .. => .alreadyExists
  | .invalidArgument _ code _ =>
    if errorNumber code = 36 then .nameTooLong else .other (toString e)
  | .inappropriateType _ code _ =>
    if errorNumber code = 20 then .notADirectory
    else if errorNumber code = 21 then .isADirectory
    else .other (toString e)
  | .resourceVanished code _ =>
    if errorNumber code = 32 then .brokenPipe else .other (toString e)
  | e => .other (toString e)

def attempt (p : Path) (act : String → IO α) : IO (Except IoFault α) := do
  if p.text.toList.contains '\x00' then return .error .nulInName
  try return .ok (← act p.text) catch e => return .error (ioFault e)

/-- A question about a path of the machine. -/
def ask (p : Path) (question : String → IO Bool) : IO Bool := do
  match ← attempt p question with
  | .ok answer => return answer
  | .error _ => return false

def attemptConsole (act : IO.FS.Stream → IO Unit) : IO (Except IoFault Unit) := do
  try return .ok (← act (← IO.getStdout)) catch e => return .error (ioFault e)

def machine : Host IO where
  toml := Toml.parse
  read p := attempt p fun text => IO.FS.readFile text
  isFile p := ask p fun text => do
    let file := (← IO.currentDir) / text
    return (← file.pathExists) && !(← file.isDir)
  isDirectory p := ask p fun text => do ((← IO.currentDir) / text).isDir
  list p := attempt p fun text => do
    return (← ((← IO.currentDir) / text).readDir).toList.map (·.fileName)
  makeDirectory p := attempt p fun text => IO.FS.createDir text
  put p content := attempt p fun text => IO.FS.writeFile text content
  print text := attemptConsole fun out => do
    out.putStr text
    out.flush
  flush := attemptConsole (·.flush)

def faultText (fault : Command.Fault) : String :=
  let causes := match fault.cause? with
    | some cause => "\n\nCaused by:\n    " ++ cause.message
    | none => ""
  "Error: " ++ fault.message ++ causes

/-- Exit code of a fault. A console that is gone ends the program in its tracks. -/
def exitCode : Command.Fault → UInt32
  | .unprinted _ => 101
  | _ => 1

/-- Runs a command line and answers its exit code. -/
def runProgram (args : List String) : IO UInt32 := do
  match ← Command.run machine args with
  | .done => return 0
  | .refused fault => do
    IO.eprintln ("error: " ++ fault.message)
    return 2
  | .failed fault => do
    fault.marks.forM IO.eprintln
    IO.eprintln (faultText fault)
    return exitCode fault

end XmlBinding

def main (args : List String) : IO UInt32 := XmlBinding.runProgram args
