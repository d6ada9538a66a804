import LintBridge.Url.Host
import LintBridge.Url.Segments

set_option autoImplicit false

/-! # Reading URLs

A URL is a scheme, a colon, and in most cases a host and a path; a query and a fragment may
follow. Control characters and spaces around it are dropped, tabs and line ends inside it too.
A URL of a scheme that is not special may have, in place of host and path, any text.

The library needs of a URL only its path, and whether there is one: every text that is no URL
has none.
-/

namespace LintBridge.Url

/-! ## Parts -/

/-- A text without control characters and spaces around it, and without tabs and line ends. -/
def clean (cs : List Char) : List Char :=
  let blank (c : Char) : Bool := c ≤ ' '
  ((cs.dropWhile blank).reverse.dropWhile blank).reverse.filter fun c =>
    c ≠ '\t' ∧ c ≠ '\n' ∧ c ≠ '\r'

/-- Whether a character may stand in a scheme. -/
def isSchemeChar (c : Char) : Bool := c.isAlphanum || c = '+' || c = '-' || c = '.'

/-- Splits the scheme, in lower case, off a text. -/
def splitScheme (cs : List Char) : Option (List Char × List Char) :=
  match cs.dropWhile isSchemeChar with
  | ':' :: rest =>
    if cs.head?.any Char.isAlpha then some ((cs.takeWhile isSchemeChar).map Char.toLower, rest)
    else none
  | _ => none

/-- Whether a character ends a path. -/
def endsPath (c : Char) : Bool := c = '?' || c = '#'

/-- The text before the query and the fragment. -/
def beforeQuery (cs : List Char) : List Char := cs.takeWhile (!endsPath ·)

/-- The text in front of the last of the given characters, if there is one, and behind it. -/
def splitLast (c : Char) (cs : List Char) : Option (List Char) × List Char :=
  match cs.reverse.dropWhile (· ≠ c) with
  | [] => (none, cs)
  | _ :: before => (some before.reverse, (cs.reverse.takeWhile (· ≠ c)).reverse)

/-- Splits a text before the first colon that is not in brackets. -/
def splitPort (inBrackets : Bool) : List Char → List Char × List Char
  | [] => ([], [])
  | c :: cs =>
    if c = ':' ∧ !inBrackets then ([], c :: cs)
    else
      let inBrackets := c = '[' || (inBrackets && c ≠ ']')
      let (host, port) := splitPort inBrackets cs
      (c :: host, port)

/-- Splits the digits of a port, behind those that make up `n`, off a text. It is below
`2 ^ 16`, and nothing but a backslash may follow. -/
def skipPort (n : Nat) : List Char → Option (List Char)
  | [] => some []
  | c :: cs =>
    if c.isDigit then
      let n := n * 10 + (c.toNat - '0'.toNat)
      if n < 65536 then skipPort n cs else none
    else if c = '\\' then some (c :: cs)
    else none

/-- Whether what stands before the host would be written: not if it is empty or one colon. -/
def isWritten (userinfo : List Char) : Bool := userinfo ≠ [] && userinfo ≠ [':']

/-! ## Authorities -/

/-- Reads the part between two slashes and the path; `ends` says that nothing follows it. Yields
what of it belongs to the path: a backslash behind a port and what follows that. -/
def readAuthority (k : SchemeKind) (ends : Bool) (cs : List Char) : Option (List Char) := do
  let (userinfo, place) := splitLast '@' cs
  -- `@` alone may only stand at the end of the whole text
  if userinfo = some [] ∧ place = [] ∧ !ends then none
  let (host, port) := splitPort false place
  if host = [] then
    if k.isSpecial ∨ port ≠ [] ∨ userinfo.any isWritten then none
  else if !(if k.isSpecial then isSpecialHost host else isOpaqueHost host) then none
  match port with
  | [] => some []
  | _ :: port => skipPort 0 port

/-! ## Paths -/

/-- The path behind an authority. The path of a special scheme is never empty. -/
def pathBehind (k : SchemeKind) (cs : List Char) : List Char :=
  if k.isSpecial then
    match cs with
    | c :: rest => if k.isSlash c then readPath k true rest else readPath k true (c :: rest)
    | [] => readPath k true []
  else
    match cs with
    | [] => []
    | c :: rest => if c = '/' then readPath k false (c :: rest) else readPath k true (c :: rest)

/-- Reads authority and path behind two slashes. -/
def readAfterSlashes (k : SchemeKind) (cs : List Char) : Option (List Char) := do
  let isEnd (c : Char) : Bool := k.isSlash c || endsPath c
  let authority := cs.takeWhile (!isEnd ·)
  let rest := cs.dropWhile (!isEnd ·)
  let overrun ← readAuthority k rest.isEmpty authority
  pure (pathBehind k (beforeQuery (overrun ++ rest)))

/-- Reads what follows the scheme of a `file` URL. A drive letter in the place of the host
belongs to the path. -/
def readFile (cs : List Char) : Option (List Char) :=
  let isSlash := SchemeKind.file.isSlash
  match cs with
  | c :: d :: rest =>
    if isSlash c ∧ isSlash d then
      let isEnd (c : Char) : Bool := isSlash c || endsPath c
      let host := rest.takeWhile (!isEnd ·)
      if isDrive host then some (readPath .file true (beforeQuery rest))
      else if host = [] ∨ isSpecialHost host then
        some (pathBehind .file (beforeQuery (rest.dropWhile (!isEnd ·))))
      else none
    else some (readPath .file (!isSlash c) (beforeQuery cs))
  | _ => some (readPath .file (!cs.head?.any isSlash) (beforeQuery cs))

/-- Reads what follows the scheme of a URL that is not special. -/
def readOther (cs : List Char) : Option (List Char) :=
  match cs with
  | '/' :: '/' :: rest => readAfterSlashes .other rest
  | '/' :: rest => some (readPath .other true (beforeQuery rest))
  | _ => some (encode isControl (beforeQuery cs))

/-- The path of a URL; nothing if the text is no URL. -/
def path? (cs : List Char) : Option (List Char) := do
  let (scheme, rest) ← splitScheme (clean cs)
  match SchemeKind.of scheme with
  | .file => readFile rest
  | .web => readAfterSlashes .web (rest.dropWhile SchemeKind.web.isSlash)
  | .other => readOther rest

end LintBridge.Url
