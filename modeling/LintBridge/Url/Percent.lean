import LintBridge.Json.Reader

set_option autoImplicit false

/-! # Percent-encoding

A character that may not stand in a part of a URL is written as the bytes of its UTF-8 form,
each as a percent sign and two hexadecimal digits.
-/

namespace LintBridge.Url

/-- The upper-case hexadecimal digit of a number below 16. -/
def hexDigit (n : Nat) : Char := (Nat.digitChar n).toUpper

/-- A byte as a percent sign and two digits. -/
def encodeByte (b : UInt8) : List Char := ['%', hexDigit (b.toNat / 16), hexDigit (b.toNat % 16)]

/-- A character, encoded if it is in the given set or not ASCII. -/
def encodeChar (isReserved : Char → Bool) (c : Char) : List Char :=
  if isReserved c || 0x80 ≤ c.toNat then (Text.Utf8.encodeChar c).flatMap encodeByte else [c]

/-- A text, with the characters of the given set and all that are not ASCII encoded. -/
def encode (isReserved : Char → Bool) (cs : List Char) : List Char :=
  cs.flatMap (encodeChar isReserved)

/-- Whether a character is an ASCII control character. -/
def isControl (c : Char) : Bool := c.toNat < 0x20 || c = '\x7F'

/-- The characters that are encoded in a path: control characters, the space and
some signs. -/
def isPathReserved (c : Char) : Bool :=
  isControl c || c = ' ' || c = '"' || c = '<' || c = '>' || c = '\x60' || c = '#' || c = '?' ||
    c = '\x7B' || c = '\x7D'

/-- The bytes of a text in which percent signs with two hexadecimal digits stand for bytes. -/
def decode : List Char → List UInt8
  | [] => []
  | [c] => Text.Utf8.encodeChar c
  | [c, d] => Text.Utf8.encodeChar c ++ Text.Utf8.encodeChar d
  | c :: d :: e :: rest =>
    match if c = '%' then Json.hexDigit? d else none, Json.hexDigit? e with
    | some m, some n => UInt8.ofNat (m * 16 + n) :: decode rest
    | _, _ => Text.Utf8.encodeChar c ++ decode (d :: e :: rest)

end LintBridge.Url
