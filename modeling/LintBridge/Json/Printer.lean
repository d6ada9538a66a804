import LintBridge.Json.Value

set_option autoImplicit false

/-! # Writing JSON

The compact form: no blanks, fields in the order in which the object holds them. Of the
characters in a string only the quote, the backslash and those below U+0020 are escaped. The
text is gathered in reverse onto what has been written, so that a list of any length is
written in a loop.
-/

namespace LintBridge.Json

/-- A character as it stands in a string. -/
def escape (c : Char) : List Char :=
  if c = '"' then ['\\', '"']
  else if c = '\\' then ['\\', '\\']
  else if c = '\x08' then ['\\', 'b']
  else if c = '\t' then ['\\', 't']
  else if c = '\n' then ['\\', 'n']
  else if c = '\x0C' then ['\\', 'f']
  else if c = '\r' then ['\\', 'r']
  else if c.toNat < 0x20 then
    ['\\', 'u', '0', '0', Nat.digitChar (c.toNat / 16), Nat.digitChar (c.toNat % 16)]
  else [c]

/-- Writes a string, quotes included. -/
def emitString (out : List Char) (s : String) : List Char :=
  '"' :: s.toList.foldl (fun out c => (escape c).reverseAux out) ('"' :: out)

mutual
/-- Writes a value behind what has been written; both texts are in reverse. -/
def emit (out : List Char) : Json → List Char
  | .null => 'l' :: 'l' :: 'u' :: 'n' :: out
  | .bool true => 'e' :: 'u' :: 'r' :: 't' :: out
  | .bool false => 'e' :: 's' :: 'l' :: 'a' :: 'f' :: out
  | .number n => n.render.reverseAux out
  | .string s => emitString out s
  | .array items => ']' :: emitItems true ('[' :: out) items
  | .object fields => '}' :: emitFields true ('{' :: out) fields

/-- Writes the items of an array, each but the first behind a comma. -/
def emitItems (isFirst : Bool) (out : List Char) : List Json → List Char
  | [] => out
  | v :: rest => emitItems false (emit (if isFirst then out else ',' :: out) v) rest

/-- Writes the fields of an object, each but the first behind a comma. -/
def emitFields (isFirst : Bool) (out : List Char) : List (String × Json) → List Char
  | [] => out
  | (key, v) :: rest =>
    let out := emitString (if isFirst then out else ',' :: out) key
    emitFields false (emit (':' :: out) v) rest
end

/-- The compact text of a value. -/
def print (v : Json) : List Char := (emit [] v).reverse

end LintBridge.Json
