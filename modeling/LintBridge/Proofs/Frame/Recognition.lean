import LintBridge.Proofs.Frame.Sequence

set_option autoImplicit false

/-! # What is taken for a frame

A frame in the form of `Written` is taken off the front of any input. This module is about the
converse. The bytes in front of a body are cut into lines and read line by line, so they can be
put together again from what has been read (`exists_heads_of_readLines`). The main statement is
`next_eq_frame_iff`: what is taken for a frame is a frame, with one exception. At the end of the
input the last line need not be whole, so if only the line feed of a blank line is missing, and
no body follows, then this is taken for a frame as well (`LacksLineFeed`).
-/

namespace LintBridge.Frame

/-! ## Lines that are read -/

theorem readHeaderBytes_eq_ok_iff {bytes : List UInt8} {said : HeaderLine} :
    readHeaderBytes bytes = .ok said ↔
      ∃ line, bytes = Text.Utf8.encode line ∧ readHeader line = .ok said := by
  unfold readHeaderBytes
  constructor
  · intro h
    cases hd : Text.Utf8.decode bytes with
    | error why =>
        rw [hd] at h
        cases h
    | ok line =>
        rw [hd] at h
        exact ⟨line, Text.Utf8.decode_eq_ok_iff.mp hd, h⟩
  · rintro ⟨line, rfl, hread⟩
    rw [Text.Utf8.decode_encode]
    exact hread

/-- Bytes up to a line feed that are read are those of a line. -/
theorem exists_line_of_readHeaderBytes {bytes : List UInt8} {said : HeaderLine}
    (hbytes : 10 ∉ bytes) (h : readHeaderBytes (bytes ++ [10]) = .ok said) :
    ∃ line, bytes ++ [10] = lineBytes line ∧ '\n' ∉ line ∧ readHeader line = .ok said := by
  obtain ⟨whole, hwhole, -⟩ := readHeaderBytes_eq_ok_iff.mp h
  obtain ⟨line, rfl, rfl⟩ := Text.Utf8.exists_line_of_encode hwhole.symm
  refine ⟨line, hwhole, mt Text.Utf8.lineFeed_mem_encode_iff.mpr hbytes, ?_⟩
  rwa [← lineBytes_eq, readHeaderBytes_lineBytes] at h

/-- The lines and the blank line behind them can be read one after the other. They turn what is
known of the length from `k` into `n`. -/
structure Heads (k n : Option Nat) (lines : List (List Char)) (separator : List Char) : Prop where
  tells : Tells k lines n
  whole : ∀ line ∈ lines, '\n' ∉ line
  separator_whole : '\n' ∉ separator
  separator_blank : readHeader separator = .ok .blank

/-- The input is made of the lines, the blank line and the rest. If it is closed, it may also end
just before the line feed of the blank line. -/
def Starts (closed : Bool) (lines : List (List Char)) (separator : List Char)
    (bytes rest : List UInt8) : Prop :=
  bytes = lines.flatMap lineBytes ++ lineBytes separator ++ rest ∨
    closed = true ∧ rest = [] ∧ separator ≠ [] ∧
      bytes = lines.flatMap lineBytes ++ Text.Utf8.encode separator

section

variable {closed started : Bool} {k n : Option Nat} {m : Nat} {lines : List (List Char)}
  {line separator : List Char} {bytes rest : List UInt8}

theorem Heads.length (h : Heads (some m) n lines separator) (hline : '\n' ∉ line)
    (hread : readHeader line = .ok (.length m)) : Heads k n (line :: lines) separator :=
  ⟨.length hread h.tells, List.forall_mem_cons.mpr ⟨hline, h.whole⟩, h.separator_whole,
    h.separator_blank⟩

theorem Heads.other (h : Heads k n lines separator) (hline : '\n' ∉ line)
    (hread : readHeader line = .ok .other) : Heads k n (line :: lines) separator :=
  ⟨.other hread h.tells, List.forall_mem_cons.mpr ⟨hline, h.whole⟩, h.separator_whole,
    h.separator_blank⟩

theorem Starts.cons (line : List Char) (h : Starts closed lines separator bytes rest) :
    Starts closed (line :: lines) separator (lineBytes line ++ bytes) rest := by
  rcases h with rfl | ⟨hclosed, hrest, hne, rfl⟩
  · left
    simp
  · right
    simp [hclosed, hrest, hne]

/-- A header that ends without line feed is a blank line at the end of a closed input. -/
theorem exists_heads_of_unended (hbytes : 10 ∉ bytes)
    (h : readLines closed started k [] bytes = .complete n rest) :
    ∃ separator, Heads k n [] separator ∧ Starts closed [] separator bytes rest := by
  have hend := readLines_append hbytes closed started k [] []
  rw [List.append_nil, h, List.append_nil] at hend
  cases closed with
  | false => cases hend
  | true =>
      have hne : bytes ≠ [] := by
        rintro rfl
        cases started <;> cases hend
      rw [readLines_unended hbytes hne] at h
      split at h
      · cases h
      · rename_i hsaid
        cases h
        obtain ⟨separator, rfl, hblank⟩ := readHeaderBytes_eq_ok_iff.mp hsaid
        exact ⟨separator, ⟨.nil _, List.forall_mem_nil _,
          mt Text.Utf8.lineFeed_mem_encode_iff.mpr hbytes, hblank⟩,
          .inr ⟨rfl, rfl, mt Text.Utf8.encode_eq_nil_iff.mpr hne, rfl⟩⟩
      · cases h

/-- A header that has been read is made of lines, of which the last one may be unended. -/
theorem exists_heads_of_readLines (h : readLines closed started k [] bytes = .complete n rest) :
    ∃ lines separator, Heads k n lines separator ∧ Starts closed lines separator bytes rest := by
  induction hsize : bytes.length using Nat.strongRecOn generalizing started k bytes with
  | _ size ih =>
      -- The line up to the first line feed is taken off, and the rest is read as a shorter input.
      by_cases hmem : (10 : UInt8) ∈ bytes
      · obtain ⟨front, behind, rfl, hfront⟩ := List.eq_append_cons_of_mem hmem
        have hlt : behind.length < size := by
          rw [← hsize, List.length_append, List.length_cons]
          omega
        have hcons : front ++ 10 :: behind = front ++ [10] ++ behind := by simp
        rw [readLines_lineFeed hfront] at h
        cases hsaid : readHeaderBytes (front ++ [10]) with
        | error f =>
            rw [hsaid] at h
            cases h
        | ok said =>
            rw [hsaid] at h
            obtain ⟨line, hbytes, hline, hread⟩ := exists_line_of_readHeaderBytes hfront hsaid
            rw [hcons, hbytes]
            cases said with
            | blank =>
                cases h
                exact ⟨[], line, ⟨.nil _, List.forall_mem_nil _, hline, hread⟩, .inl rfl⟩
            | length m =>
                obtain ⟨lines, separator, heads, starts⟩ := ih behind.length hlt h rfl
                exact ⟨line :: lines, separator, heads.length hline hread, starts.cons line⟩
            | other =>
                obtain ⟨lines, separator, heads, starts⟩ := ih behind.length hlt h rfl
                exact ⟨line :: lines, separator, heads.other hline hread, starts.cons line⟩
      · obtain ⟨separator, heads, starts⟩ := exists_heads_of_unended hmem h
        exact ⟨[], separator, heads, starts⟩

end

/-! ## Frames that are taken -/

namespace Tells

variable {k n : Option Nat} {lines : List (List Char)}

theorem read (h : Tells k lines n) {line : List Char} (hline : line ∈ lines) :
    ∃ said, said ≠ .blank ∧ readHeader line = .ok said := by
  induction h with
  | nil _ => cases hline
  | length hread _ ih =>
      rcases List.mem_cons.mp hline with rfl | hmem
      · exact ⟨_, by simp, hread⟩
      · exact ih hmem
  | other hread _ ih =>
      rcases List.mem_cons.mp hline with rfl | hmem
      · exact ⟨_, by simp, hread⟩
      · exact ih hmem

/-- What is known behind the lines was known before, or the last line that gives a length has
said it. -/
theorem last (h : Tells k lines n) :
    (n = k ∧ ∀ line ∈ lines, readHeader line = .ok .other) ∨
      ∃ before line after m, lines = before ++ line :: after ∧ n = some m ∧
        readHeader line = .ok (.length m) ∧ ∀ line' ∈ after, readHeader line' = .ok .other := by
  induction h with
  | nil _ => exact .inl ⟨rfl, List.forall_mem_nil _⟩
  | @length k n m line lines hread _ ih =>
      right
      rcases ih with ⟨rfl, hothers⟩ | ⟨before, line', after, m', rfl, hn, hread', hothers⟩
      · exact ⟨[], line, lines, m, rfl, rfl, hread, hothers⟩
      · exact ⟨line :: before, line', after, m', rfl, hn, hread', hothers⟩
  | @other k n line lines hread _ ih =>
      rcases ih with ⟨rfl, hothers⟩ | ⟨before, line', after, m', rfl, hn, hread', hothers⟩
      · exact .inl ⟨rfl, List.forall_mem_cons.mpr ⟨hread, hothers⟩⟩
      · exact .inr ⟨line :: before, line', after, m', rfl, hn, hread', hothers⟩

end Tells

/-- Lines that are read as the header of a body make a frame with it. -/
theorem Heads.exists_written {lines : List (List Char)} {separator : List Char}
    {body : List UInt8} (h : Heads none (some body.length) lines separator)
    (hshort : body.length ≤ maxLength) :
    ∃ f : Written, f.headers = lines ∧ f.separator = separator ∧ f.body = body := by
  have hnotBlank : ∀ line ∈ lines, ∃ c ∈ line, Text.isBlank c = false := by
    intro line hline
    obtain ⟨said, hsaid, hread⟩ := h.tells.read hline
    by_contra hblank
    rw [readHeader_of_blank (by simpa using hblank)] at hread
    cases hread
    exact hsaid rfl
  have hlengths : ∀ line ∈ lines, ∀ value, GivesLength line value → ∃ n, Denotes value n := by
    intro line hline value hgives
    obtain ⟨said, -, hread⟩ := h.tells.read hline
    obtain ⟨n, hn, -⟩ := denotes_of_readHeader hread hgives
    exact ⟨n, hn⟩
  have hlast : ∃ before line after value, lines = before ++ line :: after ∧
      GivesLength line value ∧ Denotes value body.length ∧
      ∀ line' ∈ after, ∀ value', ¬ GivesLength line' value' := by
    rcases h.tells.last with ⟨hn, -⟩ | ⟨before, line, after, m, hlines, hm, hread, hothers⟩
    · cases hn
    · obtain rfl := Option.some.inj hm
      obtain ⟨value, hgives, hvalue⟩ := readHeader_eq_length_iff.mp hread
      refine ⟨before, line, after, value, hlines, hgives, hvalue, ?_⟩
      intro line' hline' value' hgives'
      obtain ⟨n, -, hsaid⟩ := denotes_of_readHeader (hothers line' hline') hgives'
      cases hsaid
  exact ⟨⟨lines, separator, body, h.whole, hnotBlank, hlengths, hlast, h.separator_whole,
    readHeader_eq_blank_iff.mp h.separator_blank, hshort⟩, rfl, rfl, rfl⟩

section

variable {closed : Bool} {bytes rest : List UInt8} {v : Option Json}

/-- The input is a frame without body that lacks the line feed of its blank line. -/
def LacksLineFeed (bytes : List UInt8) : Prop :=
  ∃ f : Written, f.body = [] ∧ f.separator ≠ [] ∧ f.bytes = bytes ++ [10]

/-- At the end of the input a blank line counts without its line feed. -/
theorem LacksLineFeed.next_eq (h : LacksLineFeed bytes) : next true bytes = .frame none [] := by
  obtain ⟨f, hbody, hne, hbytes⟩ := h
  obtain ⟨started, hheaders⟩ := f.readHeaders_headers true
  have hfront : f.headers.flatMap lineBytes ++ Text.Utf8.encode f.separator = bytes := by
    rw [Written.bytes, hbody, lineBytes_eq, List.append_nil, ← List.append_assoc] at hbytes
    exact List.append_inj_left' hbytes rfl
  have hblank : readHeaderBytes (Text.Utf8.encode f.separator) = .ok .blank :=
    readHeaderBytes_eq_ok_iff.mpr ⟨_, rfl, readHeader_of_blank f.separator_blank⟩
  have hheader : readHeaders true bytes = .complete (some 0) [] := by
    rw [← hfront, hheaders, hbody, readLines_unended
      (mt Text.Utf8.lineFeed_mem_encode_iff.mp f.separator_whole)
      (mt Text.Utf8.encode_eq_nil_iff.mp hne), hblank]
    rfl
  exact next_eq_frame_iff_header.mpr ⟨[], hheader, Nat.zero_le _, rfl⟩

/-- **What is taken for a frame.** It is a frame indeed, or it is all the input and lacks just
the line feed of its blank line. -/
theorem next_eq_frame_iff : next closed bytes = .frame v rest ↔
    (∃ f : Written, bytes = f.bytes ++ rest ∧ v = f.value?) ∨
      closed = true ∧ rest = [] ∧ v = none ∧ LacksLineFeed bytes := by
  constructor
  · intro h
    obtain ⟨body, hheader, hshort, rfl⟩ := next_eq_frame_iff_header.mp h
    obtain ⟨lines, separator, heads, starts⟩ := exists_heads_of_readLines hheader
    obtain ⟨f, rfl, rfl, rfl⟩ := heads.exists_written hshort
    rcases starts with rfl | ⟨hclosed, hnil, hne, rfl⟩
    · left
      exact ⟨f, by simp [Written.bytes], rfl⟩
    · right
      obtain ⟨hbody, hrest⟩ := List.append_eq_nil_iff.mp hnil
      refine ⟨hclosed, hrest, by rw [hbody]; rfl, f, hbody, hne, ?_⟩
      rw [Written.bytes, hbody, lineBytes_eq, List.append_nil, List.append_assoc]
  · rintro (⟨f, rfl, rfl⟩ | ⟨rfl, rfl, rfl, hlacks⟩)
    · exact next_written closed f rest
    · exact hlacks.next_eq

end

end LintBridge.Frame
