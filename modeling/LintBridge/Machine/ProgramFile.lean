import LintBridge.Text.Utf8

set_option autoImplicit false

/-! # Program files

A file is a program if it is machine code, with a header that says where its segments are
described, or a script, whose first line names the program that interprets it. Only the bytes at
the front of a file tell which of them it is.
-/

namespace LintBridge.ProgramFile

/-- How many bytes at the front of a file are looked at. -/
def headSize : Nat := 256

/-- The bytes at the front of a file. Zeros stand in for what a short file lacks. -/
def head (content : List UInt8) : List UInt8 :=
  (content ++ List.replicate headSize 0).take headSize

/-! ## Machine code -/

/-- The number that so many bytes from a place on stand for, the least first. -/
def number (bytes : List UInt8) (place size : Nat) : Nat :=
  ((bytes.drop place).take size).foldr (fun b n => b.toNat + 256 * n) 0

/-- What machine code starts with. -/
def magic : List UInt8 := [0x7F, 0x45, 0x4C, 0x46]

/-- The size of the description of a segment. -/
def segmentSize : Nat := 56

/-- The most bytes that the descriptions of all segments may take. -/
def maxSegmentsSize : Nat := 4096

/-- Whether a file is machine code that can be run: its kind is that of a program, at a fixed
place in memory (2) or at any (3), for the processor of this machine (62), and it describes some
segments within the file. -/
def isMachineCode (content : List UInt8) : Bool :=
  let bytes := head content
  let kind := number bytes 16 2
  let size := number bytes 56 2 * segmentSize
  magic.isPrefixOf bytes && (kind = 2 || kind = 3) && number bytes 18 2 = 62 &&
    number bytes 54 2 = segmentSize && 0 < size && size ≤ maxSegmentsSize &&
    number bytes 32 8 + size ≤ content.length

/-! ## Scripts -/

/-- Whether a byte is a space or a tab. -/
def isBlank (b : UInt8) : Bool := b = 0x20 || b = 0x09

/-- The path of the interpreter that a script names on its first line, behind `#!` and blanks. A
blank, the end of the line or a zero byte ends it, which must not lie beyond the bytes that are
looked at. Only a zero byte may end an empty path, and the last byte looked at does not count as
one then. -/
def interpreter? (content : List UInt8) : Option (List Char) :=
  match head content with
  | 0x23 :: 0x21 :: rest =>
    let line := rest.takeWhile fun b => b ≠ 0x0A && b ≠ 0
    let words := line.dropWhile isBlank
    let path := words.takeWhile (!isBlank ·)
    let isComplete : Bool := match rest.drop line.length with
      | [] => path.length < words.length
      | b :: behind => path ≠ [] || (b = 0 && behind ≠ [])
    if isComplete then some (Text.Utf8.decodeLossy path) else none
  | _ => none

end LintBridge.ProgramFile
