import LintBridge.Machine.Environment
import LintBridge.Machine.FileTree
import LintBridge.Machine.ProgramFile

set_option autoImplicit false

/-! # Machines

What a program sees of the machine on which it runs: the environment, the files, and the
directory in which it was started. Whether the machine starts another program depends on the
file of that program; the reasons against it have the wording of the operating system.
-/

namespace LintBridge

/-- What a program sees of its machine. -/
structure Machine where
  env : Environment
  files : FileTree
  /-- The current directory. -/
  dir : List (List Char)

namespace Machine

/-- What a path leads to from the current directory. -/
def find? (m : Machine) (path : List Char) : Option FileNode := m.files.find? m.dir path

/-- Whether a path leads to a file. -/
def isFile (m : Machine) (path : List Char) : Bool :=
  match m.find? path with
  | some (.file _ _) => true
  | _ => false

/-- Whether a path leads to a file that may be executed. -/
def isExecutable (m : Machine) (path : List Char) : Bool :=
  match m.find? path with
  | some (.file _ executable) => executable
  | _ => false

/-- The path of the current directory. -/
def dirPath (m : Machine) : List Char := m.dir.flatMap ('/' :: ·)

/-- The directory for temporary files. -/
def tempDir (m : Machine) : List Char :=
  match m.env.get? "TMPDIR" with
  | none => "/tmp".toList
  | some "" => m.dirPath
  | some dir => dir.toList

/-! ## Starting programs -/

/-- Keeps a program from being started. -/
inductive LaunchFault
  /-- There is no such program, or a script has no interpreter. -/
  | missing
  /-- The path of an interpreter leads through a file. -/
  | notDirectory
  /-- The program or an interpreter may not be executed. -/
  | notExecutable
  /-- The file is no program. -/
  | noProgram
  /-- Too many scripts interpret each other. -/
  | tooManyScripts
  /-- An argument has a character that no argument can have. -/
  | badArgument
  deriving DecidableEq, Repr

/-- The wording of a fault. -/
def LaunchFault.message : LaunchFault → String
  | missing => "No such file or directory (os error 2)"
  | notDirectory => "Not a directory (os error 20)"
  | notExecutable => "Permission denied (os error 13)"
  | noProgram => "Exec format error (os error 8)"
  | tooManyScripts => "Too many levels of symbolic links (os error 40)"
  | badArgument => "nul byte found in provided data"

/-- What keeps the program in a file from being started, if anything does, where at most so many
files may be opened for it: the program itself and its interpreters. An empty path of an
interpreter leads to the current directory. -/
def contentFault? (m : Machine) : Nat → List UInt8 → Option LaunchFault
  | 0, _ => some .tooManyScripts
  | files + 1, content => match ProgramFile.interpreter? content with
    | none => if ProgramFile.isMachineCode content then none else some .noProgram
    | some [] => some .notExecutable
    | some path => match m.find? path with
      | some (.file content true) => m.contentFault? files content
      | some _ => some .notExecutable
      | none => some (if m.files.passesFile m.dir path then .notDirectory else .missing)

/-- The most files that may be opened for a program. -/
def maxProgramFiles : Nat := 6

/-- What keeps a program from being started with some arguments, if anything does. -/
def launchFault? (m : Machine) (program : List Char) (args : List String) : Option LaunchFault :=
  if args.any fun arg => '\x00' ∈ arg.toList then some .badArgument
  else match m.find? program with
    | none => some .missing
    | some (.file content true) => m.contentFault? maxProgramFiles content
    | some _ => some .notExecutable

end Machine

end LintBridge
