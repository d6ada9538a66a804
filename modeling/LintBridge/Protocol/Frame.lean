import LintBridge.Json.Printer
import LintBridge.Json.Reader

set_option autoImplicit false

/-! # Frames

Messages travel as frames: header lines, a blank line, and a body of as many bytes as the
`Content-Length` header says. A body that is no JSON is skipped, since the header has said
where it ends; any other fault ends the input.

Bytes may arrive in pieces. `next` looks at what has arrived and at whether more may come: if
the frame at the front is not complete it waits for more, or, once the input is closed, says
what is wrong. `drain` takes frames off the front until it has to stop.
-/

namespace LintBridge.Frame

/-! ## Faults -/

/-- What keeps a text from being a length. -/
inductive LengthFault
  | empty
  | invalidDigit
  | tooLarge
  deriving DecidableEq, Repr

/-- The wording of a fault in a length. -/
def LengthFault.message : LengthFault → String
  | empty => "cannot parse integer from empty string"
  | invalidDigit => "invalid digit found in string"
  | tooLarge => "number too large to fit in target type"

/-- The greatest length of a body. -/
def maxLength : Nat := 4 * 1024 * 1024

/-- What ends the input before its time. -/
inductive Fault
  /-- The input ends among header lines. -/
  | endInHeaders
  /-- The header lines give no length. -/
  | missingLength
  /-- The length is no number. -/
  | badLength (why : LengthFault)
  /-- The length exceeds `maxLength`. -/
  | tooLong (length : Nat)
  /-- A header line is not UTF-8. -/
  | badHeader (why : Text.Utf8.Fault)
  /-- The input ends in a body. -/
  | endInBody
  deriving DecidableEq, Repr

/-- The wording of a fault. -/
def Fault.message : Fault → String
  | endInHeaders => "unexpected EOF while reading headers"
  | missingLength => "missing Content-Length header"
  | badLength why => "invalid Content-Length value: " ++ why.message
  | tooLong length =>
    "Content-Length " ++ toString length ++ " exceeds maximum " ++ toString maxLength
  | badHeader why => "reading header line: " ++ why.message
  | endInBody => "reading frame body: early eof"

/-! ## Header lines -/

/-- Appends a decimal digit to a length below `2 ^ 64`. -/
def appendDigit (n : Nat) (c : Char) : Except LengthFault Nat :=
  if !c.isDigit then .error .invalidDigit
  else
    let n := n * 10 + (c.toNat - '0'.toNat)
    if n < 18446744073709551616 then .ok n else .error .tooLarge

/-- Reads a length: decimal digits with an optional plus sign. -/
def readLength (cs : List Char) : Except LengthFault Nat :=
  match cs with
  | [] => .error .empty
  | ['+'] => .error .invalidDigit
  | '+' :: ds => ds.foldlM appendDigit 0
  | ds => ds.foldlM appendDigit 0

/-- What a header line says. -/
inductive HeaderLine
  /-- Blanks only: the header ends here. -/
  | blank
  /-- The length of the body. -/
  | length (n : Nat)
  /-- Something else. -/
  | other
  deriving DecidableEq

/-- The name of the header that gives the length, in lower case. -/
def lengthName : List Char := "content-length".toList

/-- Reads a header line: a name and a value around the first colon, blanks around either
dropped, the case of ASCII letters in the name ignored. -/
def readHeader (line : List Char) : Except Fault HeaderLine :=
  let line := Text.trim line
  if line = [] then .ok .blank
  else
    let name := Text.trim (line.takeWhile (· ≠ ':'))
    match line.dropWhile (· ≠ ':') with
    | _ :: value =>
      if name.map Char.toLower = lengthName then
        match readLength (Text.trim value) with
        | .ok n => .ok (.length n)
        | .error why => .error (.badLength why)
      else .ok .other
    | [] => .ok .other

/-- Reads the bytes of a header line. -/
def readHeaderBytes (line : List UInt8) : Except Fault HeaderLine :=
  match Text.Utf8.decode line with
  | .ok cs => readHeader cs
  | .error why => .error (.badHeader why)

/-! ## The header of a frame -/

/-- What stands at the front of the input, up to a body. -/
inductive Header
  /-- A whole header, the length that it gives, and the bytes behind it. -/
  | complete (length : Option Nat) (rest : List UInt8)
  /-- Part of a header, of which more may come. -/
  | pending
  /-- The end of the input. -/
  | none
  /-- No header. -/
  | fault (f : Fault)

/-- Reads the header lines at the front of the input. `closed` says that no more bytes will
come, `started` that a line has been read, `length` what the lines so far say, and `line`
holds the bytes of the current line in reverse order. A last line that the closed input leaves
without its end still counts. -/
def readLines (closed started : Bool) (length : Option Nat) (line : List UInt8) :
    List UInt8 → Header
  | [] =>
    if !closed then .pending
    else if line = [] then (if started then .fault .endInHeaders else .none)
    else match readHeaderBytes line.reverse with
      | .error f => .fault f
      | .ok .blank => .complete length []
      | .ok _ => .fault .endInHeaders
  | b :: bs =>
    if b = 10 then match readHeaderBytes (b :: line).reverse with
      | .error f => .fault f
      | .ok .blank => .complete length bs
      | .ok (.length n) => readLines closed true (some n) [] bs
      | .ok .other => readLines closed true length [] bs
    else readLines closed started length (b :: line) bs

/-- Reads the header at the front of the input. -/
def readHeaders (closed : Bool) (bytes : List UInt8) : Header :=
  readLines closed false none [] bytes

/-! ## Frames -/

/-- The first `n` bytes and the rest, with the bytes taken so far in reverse order; nothing if
there are fewer. -/
def takeBody (taken : List UInt8) : Nat → List UInt8 → Option (List UInt8 × List UInt8)
  | 0, bytes => some (taken.reverse, bytes)
  | _ + 1, [] => none
  | n + 1, b :: bytes => takeBody (b :: taken) n bytes

/-- What stands at the front of the input. -/
inductive Next
  /-- A frame: the value of its body, if it is JSON, and the bytes behind it. -/
  | frame (body : Option Json) (rest : List UInt8)
  /-- Part of a frame, of which more may come. -/
  | pending
  /-- The end of the input, between frames. -/
  | finished
  /-- No frame. -/
  | fault (f : Fault)

/-- Takes a frame off the front of the input. -/
def next (closed : Bool) (bytes : List UInt8) : Next :=
  match readHeaders closed bytes with
  | .pending => .pending
  | .none => .finished
  | .fault f => .fault f
  | .complete none _ => .fault .missingLength
  | .complete (some n) rest =>
    if maxLength < n then .fault (.tooLong n)
    else match takeBody [] n rest with
      | some (body, rest) => .frame (Json.ofBytes? body) rest
      | none => if closed then .fault .endInBody else .pending

theorem length_lt_of_readLines (closed : Bool) {started : Bool} {length n : Option Nat}
    {line bytes rest : List UInt8} (hline : line = [] → bytes ≠ [])
    (h : readLines closed started length line bytes = .complete n rest) :
    rest.length < bytes.length + line.length := by
  induction bytes generalizing started length line with
  | nil =>
    simp only [readLines] at h
    split at h
    · cases h
    · split at h
      · next hl => exact absurd rfl (hline hl)
      · next hl =>
        split at h <;> cases h
        simpa [List.length_pos_iff] using hl
  | cons b bs ih =>
    simp only [readLines] at h
    have step : ∀ {started : Bool} {length : Option Nat},
        readLines closed started length [] bs = .complete n rest →
          rest.length < (b :: bs).length + line.length := by
      intro started length h
      cases bs with
      | nil =>
        simp only [readLines] at h
        split at h
        · cases h
        · split at h <;> simp_all
          split at h <;> cases h
      | cons c cs =>
        have := ih (by simp) h
        simp only [List.length_cons, List.length_nil] at this ⊢
        omega
    split at h
    · split at h
      · cases h
      · cases h
        simp only [List.length_cons]
        omega
      · exact step h
      · exact step h
    · have := ih (by simp) h
      simp only [List.length_cons] at this ⊢
      omega

theorem length_le_of_takeBody {taken body rest bytes : List UInt8} {n : Nat}
    (h : takeBody taken n bytes = some (body, rest)) : rest.length ≤ bytes.length := by
  induction n generalizing taken bytes with
  | zero =>
    simp only [takeBody, Option.some.injEq, Prod.mk.injEq] at h
    exact Nat.le_of_eq (by rw [h.2])
  | succ n ih => cases bytes with
    | nil => simp [takeBody] at h
    | cons b bs =>
      simp only [takeBody] at h
      exact Nat.le_trans (ih h) (Nat.le_succ _)

/-- A frame takes at least one byte. -/
theorem length_lt_of_next {closed : Bool} {bytes rest : List UInt8} {body : Option Json}
    (h : next closed bytes = .frame body rest) : rest.length < bytes.length := by
  simp only [next] at h
  split at h <;> try cases h
  next n tail hh =>
  split at h
  · cases h
  · split at h
    · next htake =>
      cases h
      have hne : bytes ≠ [] := by
        intro hb
        subst hb
        simp only [readHeaders, readLines] at hh
        split at hh
        · cases hh
        · simp at hh
      have h₁ := length_lt_of_readLines closed (fun _ => hne) hh
      have h₂ := length_le_of_takeBody htake
      simp only [List.length_nil] at h₁
      omega
    · split at h <;> cases h

/-- Where taking frames stops. -/
inductive Stop
  /-- Before part of a frame, of which more may come. -/
  | pending (rest : List UInt8)
  /-- At the end of the input, between frames. -/
  | finished
  /-- At a fault. -/
  | fault (f : Fault)
  deriving DecidableEq

/-- Takes frames off the front of the input, behind those taken so far in reverse order. -/
def drainOnto (closed : Bool) (taken : List Json) (bytes : List UInt8) : List Json × Stop :=
  match _h : next closed bytes with
  | .pending => (taken.reverse, .pending bytes)
  | .finished => (taken.reverse, .finished)
  | .fault f => (taken.reverse, .fault f)
  | .frame (some v) rest => drainOnto closed (v :: taken) rest
  | .frame none rest => drainOnto closed taken rest
termination_by bytes.length
decreasing_by all_goals exact length_lt_of_next (by assumption)

/-- Takes frames off the front of the input. -/
def drain (closed : Bool) (bytes : List UInt8) : List Json × Stop := drainOnto closed [] bytes

/-- The frames of a whole input, and where they stop. -/
def decode (bytes : List UInt8) : List Json × Stop := drain true bytes

/-! ## Writing -/

/-- The text of a frame. -/
def render (v : Json) : List Char :=
  let body := v.print
  "Content-Length: ".toList ++ Number.digits (Text.Utf8.encode body).length ++
    ['\r', '\n', '\r', '\n'] ++ body

/-- The bytes of a frame. -/
def encode (v : Json) : List UInt8 := Text.Utf8.encode (render v)

end LintBridge.Frame
