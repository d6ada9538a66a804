import LintBridge.Config.Settings
import LintBridge.Machine.Basic
import LintBridge.Toml.Reader

set_option autoImplicit false

/-! # Loading the settings

The settings are a TOML document with one table for each of their groups. What the document
does not mention keeps its default, and keys with no meaning are left out of account as long as
their values can be read. A group may also be given as an array of the values of its fields, in
their order; values past the last field are not even looked at.
-/

namespace LintBridge

/-- Keeps the settings from being loaded. -/
inductive ConfigFault
  /-- The path leads to a directory. -/
  | isDirectory (path : String)
  /-- The file is not UTF-8. -/
  | notText (path : String)
  /-- The text is no TOML or does not fit the settings. -/
  | syntaxError (path : String)
  deriving DecidableEq

namespace ConfigFault

/-- The path to the settings. -/
def path : ConfigFault → String
  | isDirectory path | notText path | syntaxError path => path

/-- The wording of a fault. -/
def message : ConfigFault → String
  | isDirectory path =>
    "failed to read config at " ++ path ++ ": Is a directory (os error 21)"
  | notText path =>
    "failed to read config at " ++ path ++ ": stream did not contain valid UTF-8"
  | syntaxError path => "failed to parse config at " ++ path

end ConfigFault

namespace Settings

/-! ## Values of fields -/

/-- The text of a string. -/
def text? : Toml → Option String
  | .string s => some s
  | _ => none

/-- The texts of an array of strings. -/
def texts? : Toml → Option (List String)
  | .array items => items.mapM text?
  | _ => none

/-- A number of seconds below `2 ^ 64`. -/
def seconds? : Toml → Option Nat
  | .integer (some n) => if 0 ≤ n ∧ n < 18446744073709551616 then some n.toNat else none
  | _ => none

/-! ## Groups -/

/-- A field of a group `α`: its key, and how its value changes the group. -/
structure Field (α : Type) where
  key : String
  set : Toml → α → Option α

/-- A field whose values are read by `read`. -/
def field {α β : Type} (key : String) (read : Toml → Option β) (set : β → α → α) : Field α where
  key := key
  set v a := (read v).map fun b => set b a

/-- Reads a field of a table into a group. A key with no meaning must have a readable value. -/
def readField {α : Type} (fields : List (Field α)) (a : α) (key : String) (v : Toml) : Option α :=
  match fields.find? (·.key = key) with
  | some f => f.set v a
  | none => if v.isReadable then some a else none

/-- Reads the items of an array into the fields of a group, in order. -/
def readItems {α : Type} (a : α) : List (Field α) → List Toml → Option α
  | f :: fs, v :: vs => (f.set v a).bind fun a => readItems a fs vs
  | _, _ => some a

/-- Reads a group. A date or time counts as a table with a key that has no meaning. -/
def readGroup {α : Type} (fields : List (Field α)) (a : α) : Toml → Option α
  | .table entries => entries.foldlM (fun a (key, v) => readField fields a key v) a
  | .array items => readItems a fields items
  | .datetime => some a
  | _ => none

/-- The fields of the linter's settings. -/
def linterFields : List (Field LinterSettings) := [
  field "command" text? fun command s => { s with command },
  field "args" texts? fun args s => { s with args },
  field "tools_dir" text? fun dir s => { s with toolsDir := some dir },
  field "timeout_secs" seconds? fun timeoutSeconds s => { s with timeoutSeconds },
  field "file_extension" text? fun fileExtension s => { s with fileExtension }]

/-- The fields of the spelling of suppression comments. -/
def directiveFields : List (Field DirectiveSyntax) := [
  field "comment_open" text? fun commentOpen s => { s with commentOpen },
  field "comment_close" text? fun commentClose s => { s with commentClose },
  field "disable" text? fun disable s => { s with disable },
  field "enable" text? fun enable s => { s with enable }]

/-- The fields of the settings for diagnostics. -/
def diagnosticFields : List (Field Settings) := [
  field "source" text? fun source s => { s with source }]

/-- The groups of the settings. -/
def groups : List (Field Settings) := [
  ⟨"linter", fun v s => (readGroup linterFields {} v).map fun linter => { s with linter }⟩,
  ⟨"directives", fun v s =>
    (readGroup directiveFields {} v).map fun directives => { s with directives }⟩,
  ⟨"diagnostics", fun v s => readGroup diagnosticFields s v⟩]

/-! ## Documents and files -/

/-- The settings in a text. -/
def ofText? (cs : List Char) : Option Settings :=
  (Toml.parse? cs).bind fun fields => readGroup groups {} (.table fields)

/-- The settings in what a path leads to. Where nothing stands there are none. -/
def ofNode (path : String) : Option FileNode → Except ConfigFault (Option Settings)
  | none => .ok none
  | some .directory => .error (.isDirectory path)
  | some (.file content _) => match Text.Utf8.decode content with
    | .error _ => .error (.notText path)
    | .ok cs => match ofText? cs with
      | none => .error (.syntaxError path)
      | some s => .ok (some s)

/-- Loads the settings that a machine holds. -/
def load (m : Machine) : Except ConfigFault (Option Settings) :=
  match path? m.env with
  | none => .ok none
  | some path => ofNode path (m.find? path.toList)

end Settings

end LintBridge
