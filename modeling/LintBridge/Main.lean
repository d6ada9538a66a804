import LintBridge.Cli.Program

set_option autoImplicit false

/-! # The command line

Joins the program to the standard input and output. The environment and the file with the
settings are read once, at the start. This layer starts no other programs, so every session
runs as on a machine without the linter: all lint runs end without success.
-/

namespace LintBridge.CommandLine

/-- The environment of this process. -/
def environment : IO Environment := do
  try
    let block ← IO.FS.readBinFile "/proc/self/environ"
    pure (.ofBlock block.toList)
  catch _ => pure ⟨[]⟩

/-- The file at a path, if there is one that can be read. -/
def readFile (path : String) : IO (Option FileNode) := do
  try
    let content ← IO.FS.readBinFile path
    pure (some (.file content.toList false))
  catch _ => pure none

/-- Makes a log in the first of some directories that can hold one. -/
def openLog : List String → IO Unit
  | [] => pure ()
  | dir :: dirs => do
    try
      IO.FS.createDirAll dir
      let log ← IO.FS.Handle.mk (dir ++ "/" ++ Program.logName) .append
      log.flush
    catch _ => openLog dirs

/-- Writes frames. -/
def write (output : IO.FS.Stream) (frames : List (List Char)) : IO Unit := do
  frames.forM fun frame => output.putStr (String.ofList frame)
  output.flush

/-- Ends the lint runs that are under way. -/
partial def settle (output : IO.FS.Stream) (p : Program) : IO Program := do
  match p.finishFirst? [] (fun _ => []) with
  | none => pure p
  | some (p, frames) =>
    write output frames
    settle output p

/-- Serves the session to its end and yields the exit code. -/
partial def serve (input output : IO.FS.Stream) (p : Program) : IO UInt32 := do
  match p.exitCode? with
  | some code => pure (UInt32.ofNat code)
  | none =>
    let bytes ← input.read 65536
    let (p, frames) := if bytes.isEmpty then p.close else p.receive bytes.toList
    write output frames
    serve input output (← settle output p)

/-- Writes the version, or serves a session. Yields the exit code. -/
def run (args : List String) : IO UInt32 := do
  let output ← IO.getStdout
  if Program.asksVersion args then
    output.putStr Program.versionLine
    pure 0
  else
    let env ← environment
    openLog (Program.logDirectories env)
    let settings ← match Settings.path? env with
      | none => pure (.ok none)
      | some path => do pure (Settings.ofNode path (← readFile path))
    serve (← IO.getStdin) output
      (.serve ⟨env, .empty, []⟩ (Program.settingsOf settings))

end LintBridge.CommandLine

/-- The program. -/
def main (args : List String) : IO UInt32 := LintBridge.CommandLine.run args
