import LintBridge.Toml.Quoted
import LintBridge.Toml.Scalar
import LintBridge.Toml.Table

set_option autoImplicit false

/-! # Reading TOML

A document consists of lines: headers, and keys with values. Reading it takes the lines off its
front and adds them to the document one by one.

The recursion is bounded by a number of steps that the wrappers take from the length of the
text.
-/

namespace LintBridge.Toml

/-- How deep arrays and tables in braces may nest, and how many parts a key may have. -/
def maxDepth : Nat := 80

/-! ## Keys -/

/-- Whether a character may stand in a key without quotes. -/
def isBare (c : Char) : Bool := c.isAlphanum || c = '_' || c = '-'

/-- Reads a part of a key. -/
def readKeyPart (cs : List Char) : Option (String × List Char) :=
  match cs with
  | '"' :: '"' :: '"' :: _ | '\'' :: '\'' :: '\'' :: _ => none
  | '"' :: rest => readLine '"' [] rest.length rest
  | '\'' :: rest => readLine '\'' [] rest.length rest
  | _ =>
    let part := cs.takeWhile isBare
    if part = [] then none else some (String.ofList part, cs.dropWhile isBare)

/-- Reads a dotted key: the path before its last part, and that part. The parts read so far come
in reverse order. -/
def readKey (path : List String) : Nat → List Char → Option ((List String × String) × List Char)
  | 0, _ => none
  | fuel + 1, cs => do
    let (part, cs) ← readKeyPart (skipGaps cs)
    match skipGaps cs with
    | '.' :: rest => readKey (part :: path) fuel rest
    | rest => if path.length < maxDepth then pure ((path.reverse, part), rest) else none

/-! ## Values -/

/-- The text behind the sign between a key and its value, with gaps on both sides that `skip`
skips. -/
def expectEquals (skip : List Char → Option (List Char)) (cs : List Char) : Option (List Char) :=
  match skip cs with
  | some ('=' :: rest) => skip rest
  | _ => none

mutual
/-- Reads a value. -/
def readValue (depth : Nat) : Nat → List Char → Option (Toml × List Char)
  | 0, _ => none
  | fuel + 1, cs => match cs with
    | '"' :: '"' :: '"' :: rest => (readBlock '"' rest).map fun (s, rest) => (string s, rest)
    | '\'' :: '\'' :: '\'' :: rest => (readBlock '\'' rest).map fun (s, rest) => (string s, rest)
    | '"' :: rest => (readLine '"' [] rest.length rest).map fun (s, rest) => (string s, rest)
    | '\'' :: rest => (readLine '\'' [] rest.length rest).map fun (s, rest) => (string s, rest)
    | c :: rest =>
      if c = '[' then (if depth = 0 then none else readItems (depth - 1) [] fuel rest)
      else if c = '\x7B' then (if depth = 0 then none else readFields (depth - 1) [] fuel rest)
      else
        let (word, rest) := Scalar.split (c :: rest)
        (Scalar.read word).map fun v => (v, rest)
    | [] => none

/-- Reads the items of an array and its closing bracket, with the items read so far in reverse
order. -/
def readItems (depth : Nat) (done : List Toml) : Nat → List Char → Option (Toml × List Char)
  | 0, _ => none
  | fuel + 1, cs => match skipLayout false cs with
    | none => none
    | some (']' :: rest) => some (array done.reverse, rest)
    | some cs => match readValue depth fuel cs with
      | none => none
      | some (v, rest) => match skipLayout false rest with
        | some (',' :: rest) => readItems depth (v :: done) fuel rest
        | some (']' :: rest) => some (array (v :: done).reverse, rest)
        | _ => none

/-- Reads the fields of a table in braces and its closing brace, behind those read so far. -/
def readFields (depth : Nat) (done : List (String × Node)) :
    Nat → List Char → Option (Toml × List Char)
  | 0, _ => none
  | fuel + 1, cs => match skipLayout false cs with
    | none => none
    | some cs =>
      if cs.head? = some '\x7D' then some (table (Node.fieldsToToml done), cs.drop 1)
      else match readKey [] cs.length cs with
        | none => none
        | some ((path, key), rest) => match expectEquals (skipLayout false) rest with
          | none => none
          | some rest => match readValue depth fuel rest with
            | none => none
            | some (v, rest) => match Node.bind path key v .header done, skipLayout false rest with
              | some done, some (c :: rest) =>
                if c = ',' then readFields depth done fuel rest
                else if c = '\x7D' then some (table (Node.fieldsToToml done), rest)
                else none
              | _, _ => none
end

/-! ## Lines -/

/-- A line of a document. -/
inductive Line
  /-- A header in single or double brackets. -/
  | header (double : Bool) (path : List String) (key : String)
  /-- A key with a value. -/
  | binding (path : List String) (key : String) (v : Toml)

/-- Reads a header behind its first bracket. -/
def readHeader (cs : List Char) : Option (Line × List Char) :=
  match cs with
  | '[' :: rest => match readKey [] rest.length rest with
    | some ((path, key), ']' :: ']' :: rest) => some (.header true path key, rest)
    | _ => none
  | _ => match readKey [] cs.length cs with
    | some ((path, key), ']' :: rest) => some (.header false path key, rest)
    | _ => none

/-- Reads a line. -/
def readEntry (cs : List Char) : Option (Line × List Char) :=
  match cs with
  | '[' :: rest => readHeader rest
  | _ => do
    let ((path, key), rest) ← readKey [] cs.length cs
    let rest ← expectEquals (fun cs => some (skipGaps cs)) rest
    let (v, rest) ← readValue maxDepth (2 * rest.length + 2) rest
    pure (.binding path key v, rest)

/-- Whether a line may end here. -/
def endsLine (cs : List Char) : Bool := cs.isEmpty || cs.head? = some '#' || (lineEnd? cs).isSome

/-- Reads lines to the end of the text, with those read so far in reverse order. -/
def readEntries (done : List Line) : Nat → List Char → Option (List Line)
  | 0, _ => none
  | fuel + 1, cs => match skipLayout false cs with
    | none => none
    | some [] => some done.reverse
    | some cs => match readEntry cs with
      | none => none
      | some (line, rest) =>
        let rest := skipGaps rest
        if endsLine rest then readEntries (line :: done) fuel rest else none

/-! ## Documents -/

/-- A document of which some lines have been read. -/
structure Draft where
  /-- The fields of the document. -/
  fields : List (String × Node) := []
  /-- The path to the table of the last header. -/
  current : List String := []

/-- Adds a line to a document. -/
def Draft.add (d : Draft) : Line → Option Draft
  | .header double path key => do
    let opened := fun (_ : Origin) fields =>
      if double then Node.openNext key fields else Node.openTable key fields
    let fields ← Node.change opened false path .header d.fields
    pure ⟨fields, path ++ [key]⟩
  | .binding path key v => do
    let fields ← Node.change (Node.bind path key v) false d.current .header d.fields
    pure { d with fields }

/-- The fields of a document. A byte order mark may stand at its front. -/
def parse? (cs : List Char) : Option (List (String × Toml)) := do
  let cs := match cs with
    | '\uFEFF' :: rest => rest
    | _ => cs
  let lines ← readEntries [] (cs.length + 1) cs
  let draft ← lines.foldlM Draft.add {}
  pure (Node.fieldsToToml draft.fields)

end LintBridge.Toml
