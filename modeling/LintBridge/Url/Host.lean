import LintBridge.Domain.Name
import LintBridge.Url.Percent

set_option autoImplicit false

/-! # Hosts

Whether a text may be the host of a URL. Where the scheme is special, a host is a domain name or
the address of a computer in the fourth or sixth version of the internet protocol; elsewhere it
is an address of the sixth version or any text without certain signs.
-/

namespace LintBridge.Url

/-! ## Addresses of the fourth version -/

/-- A number of an address: decimal digits, hexadecimal ones behind `0x`, or octal ones behind
`0`. -/
def ipv4Number? (cs : List Char) : Option Nat :=
  match cs with
  | [] => none
  | '0' :: 'x' :: ds | '0' :: 'X' :: ds => value? 16 0 ds
  | '0' :: d :: ds => value? 8 0 (d :: ds)
  | ds => value? 10 0 ds
where
  /-- The value of digits to a base, behind those that make up `n`. -/
  value? (base n : Nat) : List Char → Option Nat
    | [] => some n
    | c :: cs => ((Json.hexDigit? c).filter (· < base)).bind fun d => value? base (n * base + d) cs

/-- The labels of a name, without an empty one at the end. -/
def labels (cs : List Char) : List (List Char) :=
  let ls := Text.splitAt '.' cs
  if ls.getLast? = some [] then ls.dropLast else ls

/-- Whether a name ends in a number, so that it can only be an address. -/
def endsInNumber (cs : List Char) : Bool :=
  match (labels cs).getLast? with
  | none | some [] => false
  | some label => label.all Char.isDigit || (ipv4Number? label).isSome

/-- Whether a text is an address: up to four numbers, the last of which fills what remains of
four bytes. -/
def isIpv4 (cs : List Char) : Bool :=
  let ls := labels cs
  match (ls.mapM ipv4Number?).map List.reverse with
  | none | some [] => false
  | some (last :: others) =>
    ls.length ≤ 4 && others.all (· ≤ 255) && last < Nat.pow 256 (4 - others.length)

/-! ## Addresses of the sixth version -/

/-- Whether a text is a group of up to four hexadecimal digits. -/
def isHexGroup (cs : List Char) : Bool :=
  cs ≠ [] && cs.length ≤ 4 && cs.all fun c => (Json.hexDigit? c).isSome

/-- Whether a text is a decimal number up to 255 without superfluous zeros. -/
def isDecimalByte (cs : List Char) : Bool :=
  cs.all Char.isDigit && (cs.length = 1 || cs.head? ≠ some '0') &&
    (ipv4Number?.value? 10 0 cs).any (· ≤ 255) && cs ≠ []

/-- Whether a text is four decimal bytes between periods. -/
def isDottedQuad (cs : List Char) : Bool :=
  let bytes := Text.splitAt '.' cs
  bytes.length = 4 && bytes.all isDecimalByte

/-- How many groups some texts stand for, if each is a group or, where allowed, the last is a
dotted quad, which counts as two. -/
def groupCount? (allowQuad : Bool) : List (List Char) → Option Nat
  | [] => some 0
  | [group] =>
    if isHexGroup group then some 1
    else if allowQuad && isDottedQuad group then some 2 else none
  | group :: groups => if isHexGroup group then (groupCount? allowQuad groups).map (· + 1) else none

/-- The groups of a text, which has none if it is empty. -/
def groups (cs : List Char) : List (List Char) := if cs = [] then [] else Text.splitAt ':' cs

/-- A text cut at its first pair of colons. -/
def cutAtGap : List Char → Option (List Char × List Char)
  | ':' :: ':' :: rest => some ([], rest)
  | [] => none
  | c :: cs => (cutAtGap cs).map fun (before, behind) => (c :: before, behind)

/-- Whether a text is an address: eight groups, or fewer with one pair of colons for the others. -/
def isIpv6 (cs : List Char) : Bool :=
  match cutAtGap cs with
  | none => groupCount? true (groups cs) = some 8
  | some (before, behind) =>
    match groupCount? false (groups before), groupCount? true (groups behind) with
    | some m, some n => m + n ≤ 7
    | _, _ => false

/-! ## Hosts -/

/-- The signs that a host may not hold. -/
def isForbidden (c : Char) : Bool :=
  c = '\x00' || c = '\t' || c = '\n' || c = '\r' || c = ' ' || c = '#' || c = '/' || c = ':' ||
    c = '<' || c = '>' || c = '?' || c = '@' || c = '[' || c = '\\' || c = ']' || c = '^' || c = '|'

/-- Whether a character of a domain name may stand in a host. -/
def isDomainChar (c : Char) : Bool :=
  0x80 ≤ c.toNat || !(isForbidden c || isControl c || c = '%')

/-- Whether a text is the host of a URL with a special scheme. -/
def isSpecialHost (cs : List Char) : Bool :=
  match cs with
  | '[' :: rest => rest.getLast? = some ']' && isIpv6 rest.dropLast
  | _ => match Text.Utf8.decode (decode cs) with
    | .error _ => false
    | .ok text => match Domain.labels? text with
      | none => false
      | some labels =>
        let name := ['.'].intercalate labels
        name ≠ [] && name.all isDomainChar && (!endsInNumber name || isIpv4 name)

/-- Whether a text is the host of a URL with another scheme. -/
def isOpaqueHost (cs : List Char) : Bool :=
  match cs with
  | '[' :: rest => rest.getLast? = some ']' && isIpv6 rest.dropLast
  | _ => cs.all (!isForbidden ·)

end LintBridge.Url
