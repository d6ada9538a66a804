import LintBridge.Proofs.Frame.Sequence
import LintBridge.Proofs.Json.RoundTrip

set_option autoImplicit false

/-! # Reading undoes writing

A value is written as one frame: a line with the length of its text in bytes, a blank line,
and the text (`encode_eq_bytes`). So what holds of frames in general holds of it, and since a
plain value is read back from its text, the whole output of a writer is read back
(`decode_flatMap_encode`).
-/

namespace LintBridge.Frame

/-! ## The line with the length -/

theorem denotes_digits {n : Nat} (h : n < 18446744073709551616) : Denotes (Number.digits n) n := by
  obtain ⟨d, ds, hds, -, -⟩ := Number.digits_eq_cons n
  exact ⟨Number.digits n, .inl rfl, by simp [hds], Number.isDigit_of_mem_digits,
    Nat.ofDigitChars_ten_toDigits, h⟩

/-- The line that gives the length `n`, without its line feed. -/
def lengthLine (n : Nat) : List Char := "Content-Length: ".toList ++ Number.digits n ++ ['\r']

theorem lengthLine_eq (n : Nat) :
    lengthLine n = "Content-Length".toList ++ ':' :: ([' '] ++ Number.digits n ++ ['\r']) := rfl

theorem givesLength_lengthLine (n : Nat) : GivesLength (lengthLine n) (Number.digits n) := by
  refine ⟨"Content-Length".toList, _, lengthLine_eq n, by decide, by decide, ?_⟩
  have hdigits : ∀ c ∈ Number.digits n, Text.isBlank c = false := fun c hc =>
    Text.isBlank_of_isDigit (Number.isDigit_of_mem_digits c hc)
  have hspace : ∀ c ∈ [' '], Text.isBlank c = true := List.forall_mem_singleton.mpr rfl
  have hreturn : ∀ c ∈ ['\r'], Text.isBlank c = true := List.forall_mem_singleton.mpr rfl
  rw [Text.trim_append_blank hreturn, Text.trim_blank_append hspace, Text.trim_eq_self hdigits]

theorem lineFeed_notMem_lengthLine (n : Nat) : '\n' ∉ lengthLine n := by
  have hname : '\n' ∉ "Content-Length".toList := by decide
  have hdigits : '\n' ∉ Number.digits n := fun h =>
    absurd (Number.isDigit_of_mem_digits _ h) (by decide)
  rw [lengthLine_eq]
  simp only [List.mem_append, List.mem_cons, List.not_mem_nil, hname, hdigits]
  decide

/-! ## The frame of a text -/

/-- The frame in which the bytes of a text are written. -/
def Written.ofBody (body : List UInt8) (h : body.length ≤ maxLength) : Written where
  headers := [lengthLine body.length]
  separator := ['\r']
  body := body
  headers_whole := by
    intro line hline
    rw [List.mem_singleton.mp hline]
    exact lineFeed_notMem_lengthLine _
  headers_notBlank := by
    intro line hline
    rw [List.mem_singleton.mp hline]
    exact ⟨'C', List.mem_cons_self, by decide⟩
  lengths := by
    intro line hline value hvalue
    rw [List.mem_singleton.mp hline] at hvalue
    obtain rfl := hvalue.unique (givesLength_lengthLine _)
    exact ⟨body.length, denotes_digits (Nat.lt_of_le_of_lt h (by decide))⟩
  lastLength := ⟨[], lengthLine body.length, [], Number.digits body.length, rfl,
    givesLength_lengthLine _, denotes_digits (Nat.lt_of_le_of_lt h (by decide)), by simp⟩
  separator_whole := by decide
  separator_blank := List.forall_mem_singleton.mpr rfl
  short := h

theorem render_eq (v : Json) :
    render v = lengthLine (Text.Utf8.encode v.print).length ++ ['\n'] ++ (['\r'] ++ ['\n']) ++
      v.print := by
  -- The line feeds end the lines of the frame, the carriage returns belong to the lines.
  have hends : ['\r', '\n', '\r', '\n'] = ['\r'] ++ (['\n'] ++ (['\r'] ++ ['\n'])) := rfl
  show "Content-Length: ".toList ++ _ ++ ['\r', '\n', '\r', '\n'] ++ _ =
    "Content-Length: ".toList ++ _ ++ _ ++ _ ++ _ ++ _
  rw [hends]
  simp only [List.append_assoc]

theorem encode_eq_bytes {v : Json} (h : (Text.Utf8.encode v.print).length ≤ maxLength) :
    encode v = (Written.ofBody (Text.Utf8.encode v.print) h).bytes := by
  rw [encode, render_eq, Text.Utf8.encode_append, Text.Utf8.encode_append, Written.bytes]
  simp only [Written.ofBody, lineBytes, List.flatMap_cons, List.flatMap_nil, List.append_nil]

/-- A plain value is taken off the front of the input. -/
theorem next_encode (closed : Bool) {v : Json} (hplain : Json.Plain Json.maxDepth v)
    (hshort : (Text.Utf8.encode v.print).length ≤ maxLength) (rest : List UInt8) :
    next closed (encode v ++ rest) = .frame (some v) rest := by
  rw [encode_eq_bytes hshort, next_written]
  exact congrArg (Next.frame · rest) (Json.ofBytes?_encode_print hplain)

/-- **Reading undoes writing.** Plain values that are written one after another, each as one
frame and none of them too long, are read back as they are and in order. -/
theorem decode_flatMap_encode {vs : List Json} (hplain : ∀ v ∈ vs, Json.Plain Json.maxDepth v)
    (hshort : ∀ v ∈ vs, (Text.Utf8.encode v.print).length ≤ maxLength) :
    decode (vs.flatMap encode) = (vs, .finished) := by
  have hread := decode_flatMap fun v hv rest => next_encode true (hplain v hv) (hshort v hv) rest
  rw [hread, List.filterMap_some]

/-- An object with a list of the extreme integers and a string whose characters are escaped or
lie outside the basic plane, and a bare value behind it. -/
def nestedValues : List Json :=
  [.object [("a", .array [.int (-9223372036854775808), .int 18446744073709551615, .null]),
      ("b", .string "\"\\\n\x01😀")],
    .bool true]

theorem decode_flatMap_encode_nested :
    (∀ v ∈ nestedValues, Json.Plain Json.maxDepth v) ∧
      (∀ v ∈ nestedValues, (Text.Utf8.encode v.print).length ≤ maxLength) ∧
      decode (nestedValues.flatMap encode) = (nestedValues, .finished) := by
  have hitems : ∀ v ∈ [Json.int (-9223372036854775808), Json.int 18446744073709551615, Json.null],
      Json.Plain 125 v := by
    simp only [List.forall_mem_cons, List.not_mem_nil, false_implies, implies_true, and_true]
    exact ⟨.int (by decide) (by decide), .int (by decide) (by decide), .null⟩
  have hplain : ∀ v ∈ nestedValues, Json.Plain Json.maxDepth v := by
    simp only [nestedValues, List.forall_mem_cons, List.not_mem_nil, false_implies, implies_true,
      and_true]
    refine ⟨.object (List.pairwise_pair.mpr (by decide)) ?_, .bool true⟩
    simp only [List.forall_mem_cons, List.not_mem_nil, false_implies, implies_true, and_true]
    exact ⟨.array hitems, .string _⟩
  have hshort : ∀ v ∈ nestedValues, (Text.Utf8.encode v.print).length ≤ maxLength := by
    decide +kernel
  exact ⟨hplain, hshort, decode_flatMap_encode hplain hshort⟩

end LintBridge.Frame
