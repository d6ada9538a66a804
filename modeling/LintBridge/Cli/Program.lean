import LintBridge.Config.Load
import LintBridge.Lint.Linter
import LintBridge.Server.Session

set_option autoImplicit false

/-! # The program

The program serves one session: frames come in through its input and go out through its output.
Asked for its version, it writes that and does nothing else. Since the output belongs to the
session, it logs to a file, below the home directory if it can and else below the current one.
Settings that cannot be loaded are replaced by the defaults.
-/

namespace LintBridge

/-- A running program. -/
structure Program where
  machine : Machine
  linter : Linter
  session : Session

namespace Program

/-! ## Arguments -/

/-- Whether the arguments ask for the version. All others are left out of account. -/
def asksVersion (args : List String) : Bool := args.any fun arg => arg = "--version" || arg = "-V"

/-- What is written then. -/
def versionLine : String := programName ++ " " ++ programVersion ++ "\n"

/-! ## The log -/

/-- The directory of the log below that of the settings. -/
def logDirectory : String := "logs"

/-- The name of the log. -/
def logName : String := "server.log"

/-- The directories in which the log may be, the first that can be used going first. -/
def logDirectories (env : Environment) : List String :=
  ((Settings.directory? env).toList ++ [".tsqllint-lsp"]).map fun dir =>
    String.ofList (Path.join dir.toList logDirectory.toList)

/-- The files with a log in a directory, which is made if it is missing. -/
def openLog? (m : Machine) (dir : String) : Option FileTree :=
  (m.files.makeDirectories m.dir dir.toList).bind fun files =>
    files.touch m.dir dir.toList logName.toList

/-- The machine with a log in the first directory that can hold one, if there is one. -/
def openLog (m : Machine) : Machine :=
  match (logDirectories m.env).findSome? (openLog? m) with
  | some files => { m with files }
  | none => m

/-! ## Running -/

/-- A session that is served by the given settings. -/
def serve (m : Machine) (s : Settings) : Program where
  machine := m
  linter := .ofSettings m.env s.linter
  session := { server := .init s.source s.directives }

/-- The settings to use: the loaded ones, or the defaults where there are none to be had. -/
def settingsOf : Except ConfigFault (Option Settings) → Settings
  | .ok (some s) => s
  | .ok none | .error _ => {}

/-- The program at its start. -/
def start (m : Machine) : Program :=
  let m := openLog m
  serve m (settingsOf (Settings.load m))

/-- The frames that some reactions send. -/
def frames (rs : List Reaction) : List (List Char) :=
  (Reaction.allSent rs).map fun message => Frame.render message.toJson

/-- Bytes arrive. -/
def receive (p : Program) (bytes : List UInt8) : Program × List (List Char) :=
  let (session, rs) := p.session.receive bytes
  ({ p with session }, frames rs)

/-- The input ends. -/
def close (p : Program) : Program × List (List Char) :=
  let (session, rs) := p.session.close
  ({ p with session }, frames rs)

/-- The first lint run that is under way ends, if there is one. `run` says what the linter writes
when it is started. -/
def finishFirst? (p : Program) (unique : List Char) (run : LintCall → List UInt8) :
    Option (Program × List (List Char)) :=
  p.session.firstRunning?.map fun (k, job) =>
    let report := (p.linter.lint p.machine unique run job.uri job.document.text).toOption
    let (session, rs) := p.session.finish k report
    ({ p with session }, frames rs)

/-- The exit code, once the session has ended. -/
def exitCode? (p : Program) : Option Nat := p.session.exit.map ExitReason.code

end Program

end LintBridge
