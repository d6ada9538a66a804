import LintBridge.Text.Basic

set_option autoImplicit false

/-! # Paths

A path is a text whose parts are separated by slashes. It is absolute if it starts with one.
Empty parts and parts that consist of one period mean nothing, and a part of two periods means
the directory above.
-/

namespace LintBridge.Path

/-- Whether a path starts at the root. -/
def isAbsolute (path : List Char) : Bool := path.head? = some '/'

/-- A path behind a directory. An absolute path stands for itself. -/
def join (dir path : List Char) : List Char :=
  if isAbsolute path then path
  else if dir = [] ∨ dir.getLast? = some '/' then dir ++ path
  else dir ++ '/' :: path

/-- The parts of a path that mean something. -/
def parts (path : List Char) : List (List Char) :=
  (Text.splitAt '/' path).filter fun part => part ≠ [] ∧ part ≠ ['.']

/-- The number of parts, where a slash or a single period at the front counts as one. -/
def size (path : List Char) : Nat :=
  (parts path).length +
    if isAbsolute path ∨ (Text.splitAt '/' path).head? = some ['.'] then 1 else 0

/-- The name of the file at the end of a path. -/
def fileName? (path : List Char) : Option (List Char) :=
  match (parts path).getLast? with
  | none => none
  | some name => if name = ['.', '.'] then none else some name

/-- The part of a file name behind its last period, which may not stand at the front. -/
def extensionOf (name : List Char) : Option (List Char) :=
  match name.reverse.dropWhile (· ≠ '.') with
  | [] | [_] => none
  | _ => some (name.reverse.takeWhile (· ≠ '.')).reverse

/-- The extension of the file at the end of a path. -/
def extension? (path : List Char) : Option (List Char) := (fileName? path).bind extensionOf

end LintBridge.Path
