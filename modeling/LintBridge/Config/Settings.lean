import LintBridge.Machine.Environment
import LintBridge.Machine.Path
import LintBridge.Lint.Directive
import LintBridge.Text.Basic

set_option autoImplicit false

/-! # Settings

What a user can choose: how the linter is found and run, how suppression comments are spelled,
and how the linter is named in diagnostics. The settings stand in a file in the user's home
directory, or in one that an environment variable names.
-/

namespace LintBridge

/-- How the linter is found and run. -/
structure LinterSettings where
  /-- The linter's executable, by name or path. It may refer to variables. -/
  command : String := "tsqllint"
  /-- Arguments before the path of the linted file. -/
  args : List String := []
  /-- The directory of a bundled linter, which goes before `command`. It may refer to
  variables. -/
  toolsDir : Option String := none
  /-- How many seconds a lint run may take; 0 stands for no bound. -/
  timeoutSeconds : Nat := 30
  /-- The extension of the linted file where the document has none. -/
  fileExtension : String := "sql"
  deriving DecidableEq

namespace LinterSettings

/-- The linter's executable. -/
def expandedCommand (s : LinterSettings) (env : Environment) : String := env.expand s.command

/-- The directory of a bundled linter. A blank one is none. -/
def expandedToolsDir (s : LinterSettings) (env : Environment) : Option String :=
  (s.toolsDir.map env.expand).filter fun dir => !Text.isAllBlank dir.toList

/-- The bound on a lint run, in seconds. -/
def timeout (s : LinterSettings) : Option Nat :=
  if s.timeoutSeconds = 0 then none else some s.timeoutSeconds

end LinterSettings

/-- What a user can choose. -/
structure Settings where
  linter : LinterSettings := {}
  directives : DirectiveSyntax := {}
  /-- Names the linter in diagnostics. -/
  source : String := "TSQLLint"
  deriving DecidableEq

namespace Settings

/-! ## Where the settings are -/

/-- The variable that names the file with the settings. -/
def pathVariable : String := "TSQLLINT_LSP_CONFIG"

/-- The directory for the settings and the log. -/
def directory? (env : Environment) : Option String :=
  env.home?.map fun home => String.ofList (Path.join home.toList ".tsqllint-lsp".toList)

/-- The file with the settings. A variable that is blank does not name one. -/
def path? (env : Environment) : Option String :=
  match (env.get? pathVariable).filter fun path => !Text.isAllBlank path.toList with
  | some path => some path
  | none => (directory? env).map fun dir =>
      String.ofList (Path.join dir.toList "config.toml".toList)

end Settings

end LintBridge
