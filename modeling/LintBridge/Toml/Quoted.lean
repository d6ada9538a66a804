import LintBridge.Json.Reader

set_option autoImplicit false

/-! # Text in TOML

The characters that may stand in a comment or a string, blanks and line ends, and the four
kinds of strings: between single or double quotes, on one line or on several. Escapes belong to
double quotes.
-/

namespace LintBridge.Toml

/-! ## Layout -/

/-- Whether a character may stand in a comment or a string: any but control characters, of
which the tab alone may. -/
def isTextual (c : Char) : Bool := c = '\t' || (' ' ≤ c && c ≠ '\x7F')

/-- Whether a character separates tokens on a line. -/
def isGap (c : Char) : Bool := c = ' ' || c = '\t'

/-- The text without leading gaps. -/
def skipGaps (cs : List Char) : List Char := cs.dropWhile isGap

/-- The text behind a line end, if it starts with one. -/
def lineEnd? : List Char → Option (List Char)
  | '\n' :: rest => some rest
  | '\r' :: '\n' :: rest => some rest
  | _ => none

/-- Skips gaps, line ends and comments. Inside a comment, nothing but a line end ends it, and a
character that may not stand there is an error. -/
def skipLayout (inComment : Bool) : List Char → Option (List Char)
  | [] => some []
  | '\r' :: '\n' :: rest => skipLayout false rest
  | c :: rest =>
    if c = '\n' then skipLayout false rest
    else if inComment then (if isTextual c then skipLayout true rest else none)
    else if isGap c then skipLayout false rest
    else if c = '#' then skipLayout true rest
    else some (c :: rest)

/-! ## Escapes -/

/-- The character that an escape letter stands for. -/
def escaped? : Char → Option Char
  | 'b' => some '\x08'
  | 't' => some '\t'
  | 'n' => some '\n'
  | 'f' => some '\x0C'
  | 'r' => some '\r'
  | 'e' => some '\x1B'
  | '"' => some '"'
  | '\\' => some '\\'
  | _ => none

/-- The number of hexadecimal digits behind an escape letter. -/
def codeLength? : Char → Option Nat
  | 'x' => some 2
  | 'u' => some 4
  | 'U' => some 8
  | _ => none

/-- Reads so many hexadecimal digits, behind those that make up `n`. -/
def readCode (n : Nat) : Nat → List Char → Option (Nat × List Char)
  | 0, cs => some (n, cs)
  | _ + 1, [] => none
  | digits + 1, c :: cs => (Json.hexDigit? c).bind fun d => readCode (n * 16 + d) digits cs

/-- Reads an escape behind its backslash. A code point may be no surrogate. -/
def readEscape : List Char → Option (Char × List Char)
  | [] => none
  | c :: rest => match escaped? c with
    | some d => some (d, rest)
    | none => do
      let (n, rest) ← readCode 0 (← codeLength? c) rest
      if n.isValidChar then some (Char.ofNat n, rest) else none

/-! ## Strings -/

/-- Reads a string on one line behind its opening quote. The characters read so far come in
reverse order. -/
def readLine (quote : Char) (done : List Char) : Nat → List Char → Option (String × List Char)
  | 0, _ | _, [] => none
  | fuel + 1, c :: cs =>
    if c = quote then some (String.ofList done.reverse, cs)
    else if c = '\\' ∧ quote = '"' then match readEscape cs with
      | none => none
      | some (c, rest) => readLine quote (c :: done) fuel rest
    else if isTextual c then readLine quote (c :: done) fuel cs
    else none

/-- The text behind a backslash at the end of a line, without the blanks and line ends that
follow. -/
def skipContinuation (cs : List Char) : Option (List Char) :=
  (lineEnd? (skipGaps cs)).map fun rest => skipLines rest
where
  /-- Skips gaps and line ends. -/
  skipLines : List Char → List Char
    | [] => []
    | '\r' :: '\n' :: rest => skipLines rest
    | c :: rest => if isGap c ∨ c = '\n' then skipLines rest else c :: rest

/-- Reads a string on several lines behind its opening quotes and a line end. Three quotes close
it, and one or two more before them belong to it. The characters read so far come in reverse
order. -/
def readLines (quote : Char) (done : List Char) : Nat → List Char → Option (String × List Char)
  | 0, _ | _, [] => none
  | fuel + 1, c :: cs =>
    if c = quote then
      let run := min 5 ((c :: cs).takeWhile (· = quote)).length
      let rest := (c :: cs).drop run
      if run < 3 then readLines quote (List.replicate run quote ++ done) fuel rest
      else some (String.ofList (List.replicate (run - 3) quote ++ done).reverse, rest)
    else if c = '\\' ∧ quote = '"' then match skipContinuation cs with
      | some rest => readLines quote done fuel rest
      | none => match readEscape cs with
        | none => none
        | some (c, rest) => readLines quote (c :: done) fuel rest
    else match lineEnd? (c :: cs) with
      | some rest => readLines quote (if c = '\r' then '\n' :: c :: done else c :: done) fuel rest
      | none => if isTextual c then readLines quote (c :: done) fuel cs else none

/-- Reads a string on several lines behind its opening quotes; a line end right there does not
count. -/
def readBlock (quote : Char) (cs : List Char) : Option (String × List Char) :=
  readLines quote [] cs.length ((lineEnd? cs).getD cs)

end LintBridge.Toml
