import LintBridge.Proofs.Frame.Recognition
import LintBridge.Proofs.Frame.RoundTrip

set_option autoImplicit false

/-! # Where an input ends cleanly

The reader reports a clean end if the input ends between frames, and whatever follows then is
read as if the reader had begun with it. An end in a header is meant to be a fault
(`Fault.endInHeaders`). But a blank line at the end of the input counts without its line feed,
and if the header above it announces an empty body, nothing is left to be missed: the input ends
cleanly in the middle of a header. The main statement, `clean_end_iff`, tells the two cases
apart.
-/

namespace LintBridge.Frame

/-! ## Where an input ends -/

/-- The bytes of a frame up to its body. -/
def Written.header (f : Written) : List UInt8 :=
  f.headers.flatMap lineBytes ++ lineBytes f.separator

/-- The input is made of whole frames. -/
def EndsBetweenFrames (bytes : List UInt8) : Prop :=
  ∃ fs : List Written, bytes = fs.flatMap Written.bytes

/-- Behind whole frames the input has part of the header of another one, but not all of it. -/
def StopsInHeader (bytes : List UInt8) : Prop :=
  ∃ (fs : List Written) (f : Written) (part missing : List UInt8), part ≠ [] ∧ missing ≠ [] ∧
    f.header = part ++ missing ∧ bytes = fs.flatMap Written.bytes ++ part

/-- Behind whole frames the input has another one, without body, and just the line feed of its
blank line is missing. -/
def EndsInBlankLine (bytes : List UInt8) : Prop :=
  ∃ (fs : List Written) (last : List UInt8), LacksLineFeed last ∧
    bytes = fs.flatMap Written.bytes ++ last

/-- The second input is read behind the first one as it is read by itself. -/
def Continues (a b : List UInt8) : Prop :=
  decode (a ++ b) = ((decode a).1 ++ (decode b).1, (decode b).2)

theorem decode_written_append (fs : List Written) (rest : List UInt8) :
    decode (fs.flatMap Written.bytes ++ rest) =
      (fs.filterMap Written.value? ++ (decode rest).1, (decode rest).2) :=
  decode_flatMap_append (fun f _ rest => next_written true f rest) rest

/-! ## Clean ends -/

/-- There is no header at all only if the input has ended before the first byte of one. -/
theorem eq_nil_of_readLines_none {closed started : Bool} {length : Option Nat}
    {line bytes : List UInt8} (h : readLines closed started length line bytes = .none) :
    started = false ∧ line = [] ∧ bytes = [] := by
  induction bytes generalizing started length line with
  | nil =>
      rw [readLines] at h
      split at h
      · cases h
      split at h
      · rename_i hline
        cases started with
        | false => exact ⟨rfl, hline, rfl⟩
        | true => cases h
      · split at h <;> cases h
  | cons b bytes ih =>
      rw [readLines] at h
      split at h
      · split at h
        · cases h
        · cases h
        · cases (ih h).1
        · cases (ih h).1
      · cases (ih h).2.1

theorem eq_nil_of_next_finished {closed : Bool} {bytes : List UInt8}
    (h : next closed bytes = .finished) : bytes = [] := by
  unfold next at h
  split at h
  · cases h
  · rename_i hheader
    exact (eq_nil_of_readLines_none hheader).2.2
  · cases h
  · cases h
  · split at h
    · cases h
    · split at h
      · cases h
      · split at h <;> cases h

theorem LacksLineFeed.decode_eq {last : List UInt8} (h : LacksLineFeed last) :
    decode last = ([], .finished) := by
  have hnil : decode [] = ([], .finished) := drain_of_finished rfl
  rw [decode, drain_of_frame h.next_eq]
  exact hnil

/-- The input ends cleanly between frames, and where a last line feed is missing. -/
theorem finished_iff (bytes : List UInt8) :
    (decode bytes).2 = .finished ↔ EndsBetweenFrames bytes ∨ EndsInBlankLine bytes := by
  constructor
  · intro h
    induction hsize : bytes.length using Nat.strongRecOn generalizing bytes with
    | _ size ih =>
        rw [decode, drain_eq] at h
        cases hnext : next true bytes with
        | pending =>
            rw [hnext] at h
            cases h
        | fault f =>
            rw [hnext] at h
            cases h
        | finished =>
            obtain rfl := eq_nil_of_next_finished hnext
            exact .inl ⟨[], rfl⟩
        | frame v rest =>
            rw [hnext] at h
            have hlt : rest.length < size := hsize ▸ length_lt_of_next hnext
            rcases next_eq_frame_iff.mp hnext with ⟨f, rfl, -⟩ | ⟨-, -, -, hlacks⟩
            · rcases ih rest.length hlt rest h rfl with ⟨fs, rfl⟩ | ⟨fs, last, hlast, rfl⟩
              · exact .inl ⟨f :: fs, rfl⟩
              · exact .inr ⟨f :: fs, last, hlast, by simp⟩
            · exact .inr ⟨[], bytes, hlacks, rfl⟩
  · rintro (⟨fs, rfl⟩ | ⟨fs, last, hlast, rfl⟩)
    · rw [decode_written]
    · rw [decode_written_append, hlast.decode_eq]

/-- Whole frames are read by themselves, whatever follows. -/
theorem EndsBetweenFrames.continues {a : List UInt8} (h : EndsBetweenFrames a) (b : List UInt8) :
    Continues a b := by
  obtain ⟨fs, rfl⟩ := h
  rw [Continues, decode_written_append, decode_written]

/-- If the line feed of a blank line comes by itself, it is not read by itself. -/
theorem EndsInBlankLine.not_continues {a : List UInt8} (h : EndsInBlankLine a) :
    ¬ Continues a [10] := by
  obtain ⟨fs, last, ⟨f, hbody, hne, hbytes⟩, rfl⟩ := h
  have hlf : decode [10] = ([], .fault .missingLength) := drain_eq true [10]
  have hwhole : fs.flatMap Written.bytes ++ last ++ [10] = (fs ++ [f]).flatMap Written.bytes := by
    rw [List.append_assoc, ← hbytes]
    simp
  intro hcontinues
  rw [Continues, hwhole, decode_written, hlf] at hcontinues
  cases congrArg Prod.snd hcontinues

theorem Written.bytes_ne_nil (f : Written) : f.bytes ≠ [] := by
  simp [bytes, lineBytes_eq]

/-- Where a frame ends is settled by its own bytes. -/
theorem Written.eq_of_bytes_append {f g : Written} {rest rest' : List UInt8}
    (h : f.bytes ++ rest = g.bytes ++ rest') : rest = rest' := by
  have hf := next_written true f rest
  rw [h, next_written] at hf
  exact (Next.frame.inj hf).2.symm

/-- No frame begins in part of a header and ends there. -/
theorem Written.header_ne (f g : Written) {part missing rest : List UInt8} (hmissing : missing ≠ [])
    (hheader : f.header = part ++ missing) : part ≠ g.bytes ++ rest := by
  rintro rfl
  have hbytes : f.bytes ++ [] = g.bytes ++ (rest ++ missing ++ f.body) := by
    rw [List.append_nil, bytes, ← header, hheader]
    simp
  have hf := f.readHeaders_bytes false []
  rw [hbytes, g.readHeaders_bytes] at hf
  have hlength := congrArg List.length (Header.complete.inj hf).2
  have hpos := List.length_pos_iff.mpr hmissing
  simp only [List.length_append, List.length_nil] at hlength
  omega

/-- Whole frames do not end in part of a header. -/
theorem StopsInHeader.not_endsBetweenFrames {a : List UInt8} (h : StopsInHeader a) :
    ¬ EndsBetweenFrames a := by
  obtain ⟨fs, f, part, missing, hpart, hmissing, hheader, rfl⟩ := h
  rintro ⟨gs, hgs⟩
  induction fs generalizing gs with
  | nil =>
      cases gs with
      | nil => exact hpart hgs
      | cons g gs => exact f.header_ne g hmissing hheader hgs
  | cons f' fs ih =>
      rw [List.flatMap_cons, List.append_assoc] at hgs
      cases gs with
      | nil => exact f'.bytes_ne_nil (List.append_eq_nil_iff.mp hgs).1
      | cons g gs => exact ih gs (Written.eq_of_bytes_append hgs)

/-- **The clean end of an input.** It is reported in two cases: the input ends between frames,
or it ends in the blank line of a frame without body. Whatever follows is read by itself in the
first case only, and an input that stops in a header ends cleanly in the second case only. -/
theorem clean_end_iff (a : List UInt8) :
    ((decode a).2 = .finished ↔ EndsBetweenFrames a ∨ EndsInBlankLine a) ∧
      ((decode a).2 = .finished → ((∀ b, Continues a b) ↔ EndsBetweenFrames a)) ∧
      (StopsInHeader a → ((decode a).2 = .finished ↔ EndsInBlankLine a)) := by
  have hfinished := finished_iff a
  refine ⟨hfinished, fun h => ⟨fun hcontinues => ?_, EndsBetweenFrames.continues⟩, fun hstops => ?_⟩
  · rcases hfinished.mp h with hbetween | hblank
    · exact hbetween
    · exact absurd (hcontinues [10]) hblank.not_continues
  · rw [hfinished]
    exact or_iff_right hstops.not_endsBetweenFrames

/-- The header of an empty body, without the last line feed. -/
def unendedHeader : List UInt8 := Text.Utf8.encode "Content-Length: 0\r\n\r".toList

theorem clean_end_in_header :
    StopsInHeader unendedHeader ∧ decode unendedHeader = ([], .finished) ∧
      ¬ Continues unendedHeader [10] := by
  let f : Written := .ofBody [] (Nat.zero_le maxLength)
  have hbytes : f.bytes = unendedHeader ++ [10] := by decide
  have hlacks : LacksLineFeed unendedHeader := ⟨f, rfl, by decide, hbytes⟩
  have hends : EndsInBlankLine unendedHeader := ⟨[], unendedHeader, hlacks, rfl⟩
  have hheader : f.header = unendedHeader ++ [10] := by decide
  exact ⟨⟨[], f, unendedHeader, [10], by decide, by decide, hheader, rfl⟩, hlacks.decode_eq,
    hends.not_continues⟩

end LintBridge.Frame
