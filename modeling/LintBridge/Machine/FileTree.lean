import LintBridge.Machine.Path
import LintBridge.Text.Utf8

set_option autoImplicit false

/-! # File trees

A file tree says which directories and files there are. A place in it is the list of names
that leads there from the root, and a path is followed from a place, part by part; every part
but the last has to lead to a directory, and the last one too if a slash follows it.
-/

namespace LintBridge

/-- What stands at a place. -/
inductive FileNode
  | directory
  | file (content : List UInt8) (executable : Bool)
  deriving DecidableEq

/-- The directories and files there are, apart from the root. -/
structure FileTree where
  nodes : List (List (List Char) × FileNode)

namespace FileTree

/-- The tree that consists of the root. -/
def empty : FileTree := ⟨[]⟩

/-- The most bytes that a name may have. -/
def maxNameBytes : Nat := 255

/-- The most bytes that a path may have. -/
def maxPathBytes : Nat := 4095

/-- The number of bytes of a name or path. -/
def byteLength (cs : List Char) : Nat := (Text.Utf8.encode cs).length

/-- What stands at a place. -/
def nodeAt (t : FileTree) (place : List (List Char)) : Option FileNode :=
  if place = [] then some .directory else (t.nodes.find? (·.1 = place)).map (·.2)

/-- Whether a place is a directory. -/
def isDirectory (t : FileTree) (place : List (List Char)) : Bool :=
  t.nodeAt place = some .directory

/-- The tree with a file or directory at a place. -/
def put (t : FileTree) (place : List (List Char)) (node : FileNode) : FileTree :=
  ⟨(place, node) :: t.nodes.filter (·.1 ≠ place)⟩

theorem nodeAt_put (t : FileTree) (place other : List (List Char)) (node : FileNode)
    (h : place ≠ []) :
    (t.put place node).nodeAt other = if place = other then some node else t.nodeAt other := by
  by_cases hp : place = other
  · subst hp
    simp [nodeAt, put, h]
  · simp only [nodeAt, put, List.find?_cons, hp, decide_false, if_false, List.find?_filter]
    congr 3
    funext e
    by_cases he : e.1 = other <;> simp [he, Ne.symm hp]

/-! ## Following paths -/

/-- The place that a part of a path leads to from a directory. -/
def enter (place : List (List Char)) (part : List Char) : List (List Char) :=
  if part = [] ∨ part = ['.'] then place
  else if part = ['.', '.'] then place.dropLast
  else place ++ [part]

/-- Follows the parts of a path from a place. -/
def follow (t : FileTree) (place : List (List Char)) : List (List Char) → Option (List (List Char))
  | [] => if (t.nodeAt place).isSome then some place else none
  | part :: parts =>
    if t.isDirectory place ∧ byteLength part ≤ maxNameBytes then t.follow (enter place part) parts
    else none

/-- Whether a text can be a path at all. -/
def isPath (path : List Char) : Bool :=
  path ≠ [] ∧ '\x00' ∉ path ∧ byteLength path ≤ maxPathBytes

/-- Where a path starts, seen from a directory. -/
def startOf (dir : List (List Char)) (path : List Char) : List (List Char) :=
  if Path.isAbsolute path then [] else dir

/-- The place that a path leads to from a directory, if something stands there. -/
def locate (t : FileTree) (dir : List (List Char)) (path : List Char) :
    Option (List (List Char)) :=
  if isPath path then t.follow (startOf dir path) (Text.splitAt '/' path) else none

/-- What a path leads to from a directory. -/
def find? (t : FileTree) (dir : List (List Char)) (path : List Char) : Option FileNode :=
  (t.locate dir path).bind t.nodeAt

/-- Whether following the parts of a path from a place leads to a file before the last part. -/
def runsIntoFile (t : FileTree) (place : List (List Char)) : List (List Char) → Bool
  | [] => false
  | part :: parts => match t.nodeAt place with
    | some (.file _ _) => true
    | some .directory => t.runsIntoFile (enter place part) parts
    | none => false

/-- Whether a path leads through a file, seen from a directory. -/
def passesFile (t : FileTree) (dir : List (List Char)) (path : List Char) : Bool :=
  t.runsIntoFile (startOf dir path) (Text.splitAt '/' path)

/-! ## Changes -/

/-- Follows the parts of a path from a place and makes the directories that are missing. -/
def makeFrom (t : FileTree) (place : List (List Char)) : List (List Char) → Option FileTree
  | [] => some t
  | part :: parts =>
    let next := enter place part
    if maxNameBytes < byteLength part then none
    else match t.nodeAt next with
      | some .directory => t.makeFrom next parts
      | some (.file _ _) => none
      | none => (t.put next .directory).makeFrom next parts

/-- Makes the directories that a path leads through and the one at its end. -/
def makeDirectories (t : FileTree) (dir : List (List Char)) (path : List Char) :
    Option FileTree :=
  if isPath path then t.makeFrom (startOf dir path) (Text.splitAt '/' path) else none

/-- Makes an empty file of the given name in a directory unless there is a file already. -/
def touch (t : FileTree) (dir : List (List Char)) (path name : List Char) : Option FileTree := do
  let place ← t.locate dir path
  if !t.isDirectory place then none
  else match t.nodeAt (place ++ [name]) with
    | none => some (t.put (place ++ [name]) (.file [] false))
    | some (.file _ _) => some t
    | some .directory => none

end FileTree

end LintBridge
