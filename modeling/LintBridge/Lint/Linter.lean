import LintBridge.Config.Settings
import LintBridge.Lint.Report
import LintBridge.Lint.TempFile
import LintBridge.Machine.Basic

set_option autoImplicit false

/-! # Running the linter

The linter is a program of its own. It is found in the directory of a bundled linter, if there
is one, or else like every command, and run on a temporary file with the text of a document.
Of what it writes, the lines that may state a violation are kept; how it ends does not matter.
-/

namespace LintBridge

/-- Keeps a lint run from succeeding. -/
inductive LintFault
  /-- There is no such command. -/
  | notFound (command : String)
  /-- There are no bundled linters for the platform. -/
  | unsupportedPlatform (os arch : String)
  /-- The bundled linter is not where it should be. -/
  | runtimeMissing (path : String)
  /-- The text cannot be put into a temporary file. -/
  | tempFile
  /-- The linter cannot be started. -/
  | spawn (program : String) (why : Machine.LaunchFault)
  deriving DecidableEq, Repr

/-- The wording of a fault. -/
def LintFault.message : LintFault → String
  | notFound command => command ++ " not found in PATH"
  | unsupportedPlatform os arch => "no bundled linter runtime for " ++ os ++ "/" ++ arch
  | runtimeMissing path => "bundled linter runtime missing at " ++ path
  | tempFile => "writing document to temp file"
  | spawn program why => "spawning " ++ program ++ ": " ++ why.message

/-- The linter as the settings describe it, in an environment. -/
structure Linter where
  command : String
  args : List String
  toolsDir : Option String
  fileExtension : String
  deriving DecidableEq

/-- What the linter is started with. -/
structure LintCall where
  program : List Char
  args : List String
  /-- The path of the file with the text. -/
  file : List Char
  text : String

namespace Linter

/-- The linter that some settings describe. -/
def ofSettings (env : Environment) (s : LinterSettings) : Linter where
  command := s.expandedCommand env
  args := s.args
  toolsDir := s.expandedToolsDir env
  fileExtension := s.fileExtension

/-! ## Finding the linter -/

/-- Where the linter for a platform is in a directory with bundled linters. -/
def runtimeSubpath (os arch : String) : Option String :=
  if os = "macos" then some "osx-x64/TSQLLint.Console"
  else if os = "linux" then some "linux-x64/TSQLLint.Console"
  else if os = "windows" ∧ arch = "x86" then some "win-x86/TSQLLint.Console.exe"
  else if os = "windows" ∧ arch = "x86_64" then some "win-x64/TSQLLint.Console.exe"
  else none

/-- The platform of this program. -/
def platform : String × String := ("linux", "x86_64")

/-- A directory of the search path, in which a tilde at the front stands for the home
directory. -/
def searchDir (env : Environment) (dir : List Char) : List Char :=
  match env.home?, Path.isAbsolute dir, Path.parts dir with
  | some home, false, ['~'] :: rest =>
    if (Text.splitAt '/' dir).head? = some ['~'] then rest.foldl Path.join home.toList else dir
  | _, _, _ => dir

/-- The paths at which a command may be: one if the command is itself a path, and else one for
each directory of the search path. -/
def candidates (m : Machine) (command : List Char) : List (List Char) :=
  if 1 < Path.size command then
    if Path.isAbsolute command then [command]
    else [(Path.parts command).foldl Path.join m.dirPath]
  else match m.env.get? "PATH" with
    | none => []
    | some dirs => (Text.splitAt ':' dirs.toList).map fun dir =>
        Path.join (searchDir m.env dir) command

/-- Finds the linter's executable on a machine. -/
def resolve (l : Linter) (m : Machine) : Except LintFault (List Char) :=
  match l.toolsDir with
  | some dir => match runtimeSubpath platform.1 platform.2 with
    | none => .error (.unsupportedPlatform platform.1 platform.2)
    | some subpath =>
      let path := Path.join dir.toList subpath.toList
      if m.isFile path then .ok path else .error (.runtimeMissing (String.ofList path))
  | none => match (candidates m l.command.toList).find? m.isExecutable with
    | some path => .ok path
    | none => .error (.notFound l.command)

/-! ## Lint runs -/

/-- Whether a text can be the name of a file. -/
def isFileName (name : List Char) : Bool :=
  '/' ∉ name ∧ '\x00' ∉ name ∧ FileTree.byteLength name ≤ FileTree.maxNameBytes

/-- The path of the temporary file for a document, if one can be made. -/
def tempPath? (l : Linter) (m : Machine) (unique : List Char) (uri : String) :
    Option (List Char) :=
  let name := TempFile.name unique (TempFile.extensionChars uri.toList l.fileExtension.toList)
  if isFileName name ∧ m.find? m.tempDir = some .directory then some (Path.join m.tempDir name)
  else none

/-- What the linter is started with for the text of a document. -/
def call (l : Linter) (m : Machine) (unique : List Char) (uri text : String) :
    Except LintFault LintCall := do
  let program ← l.resolve m
  match l.tempPath? m unique uri with
  | none => .error .tempFile
  | some file => match m.launchFault? program l.args with
    | some why => .error (.spawn (String.ofList program) why)
    | none => .ok ⟨program, l.args, file, text⟩

/-- The lines of the linter's output that may state a violation. -/
def reportLines (output : List UInt8) : List String :=
  (Text.outputLines (Text.Utf8.decodeLossy output)).filterMap fun line =>
    (reportPart? line).map String.ofList

/-- Lints the text of a document. `run` says what the linter writes. -/
def lint (l : Linter) (m : Machine) (unique : List Char) (run : LintCall → List UInt8)
    (uri text : String) : Except LintFault (List String) :=
  (l.call m unique uri text).map fun call => reportLines (run call)

end Linter

end LintBridge
