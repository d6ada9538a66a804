import LintBridge.Text.Basic
import LintBridge.Url.Percent

set_option autoImplicit false

/-! # Segments of paths

The path of a URL is a list of segments. A segment of one period means nothing and one of two
periods takes away the segment before it, with the periods written plainly or encoded. In a
`file` URL, the first segment may be the letter of a drive. No segment takes a drive letter
away.
-/

namespace LintBridge.Url

/-- The kinds of schemes. -/
inductive SchemeKind
  | file
  /-- Other schemes of the web, which always have a host. -/
  | web
  | other
  deriving DecidableEq

/-- The kind of a scheme, given in lower case. -/
def SchemeKind.of (scheme : List Char) : SchemeKind :=
  if scheme = "file".toList then .file
  else if scheme ∈ ["http", "https", "ws", "wss", "ftp"].map String.toList then .web
  else .other

/-- Whether a backslash counts as a slash. -/
def SchemeKind.isSpecial (k : SchemeKind) : Bool := k ≠ .other

/-- Whether a character separates segments. -/
def SchemeKind.isSlash (k : SchemeKind) (c : Char) : Bool := c = '/' || (c = '\\' && k.isSpecial)

/-! ## Kinds of segments -/

/-- A segment with encoded periods written plainly. -/
def plainDots : List Char → List Char
  | [] => []
  | '%' :: '2' :: 'e' :: rest | '%' :: '2' :: 'E' :: rest => '.' :: plainDots rest
  | c :: rest => c :: plainDots rest

/-- Whether a segment means nothing. -/
def isSingleDot (segment : List Char) : Bool := plainDots segment = ['.']

/-- Whether a segment takes away the one before it. -/
def isDoubleDot (segment : List Char) : Bool := plainDots segment = ['.', '.']

/-- Whether a segment is the letter of a drive. -/
def isDrive : List Char → Bool
  | [c, d] => c.isAlpha && (d = ':' || d = '|')
  | _ => false

/-- Whether a segment starts with the letter of a drive, alone or in front of a backslash. -/
def startsWithDrive (segment : List Char) : Bool := isDrive (segment.takeWhile (· ≠ '\\'))

/-! ## Building paths -/

/-- The segments without the last one, unless that is the one before the first slash or starts
with the letter of a drive. -/
def parent (segments : List (List Char)) : List (List Char) :=
  match segments.getLast? with
  | none => segments
  | some last =>
    if segments.length = 1 || startsWithDrive last then segments else segments.dropLast

/-- What a segment is written as behind others. At the front of a `file` path, a drive letter
gets a colon. -/
def written (k : SchemeKind) (before : List (List Char)) (segment : List Char) : List Char :=
  match segment with
  | [c, d] => if k = .file ∧ before = [[]] ∧ isDrive [c, d] then [c, ':'] else segment
  | _ => segment

/-- Adds segments to others. At the end of the path, a segment of periods leaves a slash. -/
def addSegments (k : SchemeKind) (before : List (List Char)) :
    List (List Char) → List (List Char)
  | [] => before
  | segment :: rest =>
    let after :=
      if isDoubleDot segment then parent before
      else if isSingleDot segment then before
      else before ++ [written k before segment]
    if rest = [] ∧ (isDoubleDot segment ∨ isSingleDot segment) then after ++ [[]]
    else addSegments k after rest

/-- The segments without empty ones at the front. -/
def dropEmpty : List (List Char) → List (List Char) := List.dropWhile (· = [])

/-- The pieces of a text between slashes. -/
def splitSegments (k : SchemeKind) (cs : List Char) : List (List Char) :=
  Text.splitAt '/' (cs.map fun c => if k.isSlash c then '/' else c)

/-- Segments with slashes between them. -/
def joinSegments (segments : List (List Char)) : List Char := ['/'].intercalate segments

/-- The path that a text stands for, behind a slash if `rooted`. The path of a `file` URL starts
with exactly one slash. -/
def readPath (k : SchemeKind) (rooted : Bool) (cs : List Char) : List Char :=
  let segments := addSegments k (if rooted then [[]] else [])
    ((splitSegments k cs).map (encode isPathReserved))
  if k = .file then '/' :: joinSegments (dropEmpty segments) else joinSegments segments

end LintBridge.Url
