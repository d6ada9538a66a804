import LintBridge.Text.Basic

set_option autoImplicit false

/-! # UTF-8

Reading bytes as characters, one byte at a time. A character that takes several bytes is
announced by its first byte, which fixes how many follow and which values the second may
have; that is enough to keep out overlong forms, surrogates and values past U+10FFFF.

Reading strictly (`decode`) stops at the first bytes that are no character and says where
they are and how many of them belong together. Reading leniently (`decodeLossy`) puts one
replacement character in their place and goes on.
-/

namespace LintBridge.Text.Utf8

/-! ## Writing -/

/-- The bytes of a character. -/
def encodeChar (c : Char) : List UInt8 :=
  let n := c.toNat
  if n < 0x80 then [UInt8.ofNat n]
  else if n < 0x800 then [UInt8.ofNat (0xC0 + n / 64), UInt8.ofNat (0x80 + n % 64)]
  else if n < 0x10000 then
    [UInt8.ofNat (0xE0 + n / 4096), UInt8.ofNat (0x80 + n / 64 % 64), UInt8.ofNat (0x80 + n % 64)]
  else
    [UInt8.ofNat (0xF0 + n / 262144), UInt8.ofNat (0x80 + n / 4096 % 64),
      UInt8.ofNat (0x80 + n / 64 % 64), UInt8.ofNat (0x80 + n % 64)]

/-- The bytes of a text. -/
def encode (cs : List Char) : List UInt8 := cs.flatMap encodeChar

/-! ## Reading -/

/-- A character of which some bytes have been read and some are still to come. -/
structure Unfinished where
  /-- How many bytes have been read. -/
  seen : Nat
  /-- How many bytes are to come. -/
  missing : Nat
  /-- The least value that the next byte may have. -/
  low : Nat
  /-- The greatest value that the next byte may have. -/
  high : Nat
  /-- The bits read so far. -/
  bits : Nat
  deriving DecidableEq

/-- What a byte leads to. -/
inductive Progress
  | done (c : Char)
  | more (u : Unfinished)
  | bad
  deriving DecidableEq

/-- The first byte of a character. -/
def first (byte : UInt8) : Progress :=
  let b := byte.toNat
  if b < 0x80 then .done (Char.ofNat b)
  else if b < 0xC2 then .bad
  else if b < 0xE0 then .more ⟨1, 1, 0x80, 0xBF, b - 0xC0⟩
  else if b < 0xF0 then
    .more ⟨1, 2, if b = 0xE0 then 0xA0 else 0x80, if b = 0xED then 0x9F else 0xBF, b - 0xE0⟩
  else if b < 0xF5 then
    .more ⟨1, 3, if b = 0xF0 then 0x90 else 0x80, if b = 0xF4 then 0x8F else 0xBF, b - 0xF0⟩
  else .bad

/-- A further byte of a character. -/
def Unfinished.next (u : Unfinished) (byte : UInt8) : Progress :=
  let b := byte.toNat
  if u.low ≤ b ∧ b ≤ u.high then
    let bits := u.bits * 64 + (b - 0x80)
    if u.missing = 1 then .done (Char.ofNat bits)
    else .more ⟨u.seen + 1, u.missing - 1, 0x80, 0xBF, bits⟩
  else .bad

/-- Bytes that are not UTF-8. -/
structure Fault where
  /-- The number of bytes before the first bad one. -/
  index : Nat
  /-- How many bytes form no character, or nothing if the bytes end inside a character. -/
  width : Option Nat
  deriving DecidableEq, Repr

/-- The wording of a fault. -/
def Fault.message (f : Fault) : String :=
  match f.width with
  | some n => "invalid utf-8 sequence of " ++ toString n ++ " bytes from index " ++ toString f.index
  | none => "incomplete utf-8 byte sequence from index " ++ toString f.index

/-- Strict reading from byte number `index` on, with the characters read so far in reverse order. -/
def decodeFrom (index : Nat) (pending : Option Unfinished) (done : List Char) :
    List UInt8 → Except Fault (List Char)
  | [] => match pending with
    | none => .ok done.reverse
    | some u => .error ⟨index - u.seen, none⟩
  | b :: bs => match pending with
    | none => match first b with
      | .done c => decodeFrom (index + 1) none (c :: done) bs
      | .more u => decodeFrom (index + 1) (some u) done bs
      | .bad => .error ⟨index, some 1⟩
    | some u => match u.next b with
      | .done c => decodeFrom (index + 1) none (c :: done) bs
      | .more u' => decodeFrom (index + 1) (some u') done bs
      | .bad => .error ⟨index - u.seen, some u.seen⟩

/-- Strict reading. -/
def decode (bytes : List UInt8) : Except Fault (List Char) := decodeFrom 0 none [] bytes

/-- Stands for bytes that are no character. -/
def replacement : Char := '\uFFFD'

/-- Lenient reading, with the characters read so far in reverse order. A byte that breaks
off a character is looked at again as a first byte. -/
def decodeLossyFrom (pending : Option Unfinished) (done : List Char) : List UInt8 → List Char
  | [] => match pending with
    | none => done.reverse
    | some _ => (replacement :: done).reverse
  | b :: bs =>
    match pending.elim .bad (·.next b) with
    | .done c => decodeLossyFrom none (c :: done) bs
    | .more u => decodeLossyFrom (some u) done bs
    | .bad =>
      let done := if pending.isSome then replacement :: done else done
      match first b with
      | .done c => decodeLossyFrom none (c :: done) bs
      | .more u => decodeLossyFrom (some u) done bs
      | .bad => decodeLossyFrom none (replacement :: done) bs

/-- Lenient reading. -/
def decodeLossy (bytes : List UInt8) : List Char := decodeLossyFrom none [] bytes

end LintBridge.Text.Utf8
