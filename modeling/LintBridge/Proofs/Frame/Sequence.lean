import LintBridge.Proofs.Frame.Header

set_option autoImplicit false

/-! # Sequences of frames

`Written` is the form in which frames travel: any number of header lines, of which the last
one that gives a length gives that of the body, a blank line, and the body, whose bytes may be
anything. However such frames follow each other, each is taken off the front of the input
exactly up to its last byte (`next_written`). The main statement is `decode_written`: reading a
sequence of them yields the values of those bodies that are JSON, leaves out the others, and
ends between frames.
-/

namespace LintBridge.Frame

/-! ## Frames as they travel -/

/-- A frame as it travels. Lines are given without their line feeds. -/
structure Written where
  headers : List (List Char)
  /-- The blank line behind the header lines. -/
  separator : List Char
  body : List UInt8
  headers_whole : ∀ line ∈ headers, '\n' ∉ line
  headers_notBlank : ∀ line ∈ headers, ∃ c ∈ line, Text.isBlank c = false
  /-- Whatever is given for the length is a number. -/
  lengths : ∀ line ∈ headers, ∀ value, GivesLength line value → ∃ n, Denotes value n
  /-- The length that is given last is that of the body. -/
  lastLength : ∃ before line after value, headers = before ++ line :: after ∧
    GivesLength line value ∧ Denotes value body.length ∧
    ∀ line' ∈ after, ∀ value', ¬ GivesLength line' value'
  separator_whole : '\n' ∉ separator
  separator_blank : ∀ c ∈ separator, Text.isBlank c = true
  short : body.length ≤ maxLength

namespace Written

/-- The bytes of a frame. -/
def bytes (f : Written) : List UInt8 :=
  f.headers.flatMap lineBytes ++ lineBytes f.separator ++ f.body

/-- The value of the body, if it is JSON. -/
def value? (f : Written) : Option Json := Json.ofBytes? f.body

end Written

/-! ## The header of a frame -/

/-- The header lines can be read one after the other. They turn what was known of the length
into what is known behind them. -/
inductive Tells : Option Nat → List (List Char) → Option Nat → Prop
  | nil (n : Option Nat) : Tells n [] n
  | length {k n : Option Nat} {m : Nat} {line : List Char} {lines : List (List Char)}
      (hread : readHeader line = .ok (.length m)) (h : Tells (some m) lines n) :
      Tells k (line :: lines) n
  | other {k n : Option Nat} {line : List Char} {lines : List (List Char)}
      (hread : readHeader line = .ok .other) (h : Tells k lines n) : Tells k (line :: lines) n

namespace Tells

variable {k m n : Option Nat} {lines lines' : List (List Char)}

theorem append (h : Tells k lines m) (h' : Tells m lines' n) : Tells k (lines ++ lines') n := by
  induction h with
  | nil _ => exact h'
  | length hread _ ih => exact .length hread (ih h')
  | other hread _ ih => exact .other hread (ih h')

/-- Lines that give no length leave it as it is. -/
theorem of_others (h : ∀ line ∈ lines, readHeader line = .ok .other) (n : Option Nat) :
    Tells n lines n := by
  induction lines with
  | nil => exact .nil n
  | cons line lines ih =>
      exact .other (h line List.mem_cons_self) (ih fun l hl => h l (List.mem_cons_of_mem _ hl))

theorem exists_of_read
    (h : ∀ line ∈ lines, readHeader line = .ok .other ∨ ∃ m, readHeader line = .ok (.length m))
    (k : Option Nat) : ∃ n, Tells k lines n := by
  induction lines generalizing k with
  | nil => exact ⟨k, .nil k⟩
  | cons line lines ih =>
      have ih := ih fun l hl => h l (List.mem_cons_of_mem _ hl)
      rcases h line List.mem_cons_self with hother | ⟨m, hlength⟩
      · obtain ⟨n, hn⟩ := ih k
        exact ⟨n, .other hother hn⟩
      · obtain ⟨n, hn⟩ := ih (some m)
        exact ⟨n, .length hlength hn⟩

/-- Whole header lines are read, and reading goes on behind them. -/
theorem readLines_append (h : Tells k lines n) (hwhole : ∀ line ∈ lines, '\n' ∉ line)
    (closed started : Bool) : ∃ started', ∀ rest,
      readLines closed started k [] (lines.flatMap lineBytes ++ rest) =
        readLines closed started' n [] rest := by
  induction h generalizing started with
  | nil _ => exact ⟨started, fun rest => rfl⟩
  | length hread _ ih =>
      obtain ⟨started', ih⟩ := ih (fun l hl => hwhole l (List.mem_cons_of_mem _ hl)) true
      refine ⟨started', fun rest => ?_⟩
      rw [List.flatMap_cons, List.append_assoc, readLines_line (hwhole _ List.mem_cons_self), hread]
      exact ih rest
  | other hread _ ih =>
      obtain ⟨started', ih⟩ := ih (fun l hl => hwhole l (List.mem_cons_of_mem _ hl)) true
      refine ⟨started', fun rest => ?_⟩
      rw [List.flatMap_cons, List.append_assoc, readLines_line (hwhole _ List.mem_cons_self), hread]
      exact ih rest

end Tells

namespace Written

/-- The header lines of a frame say how long its body is. -/
theorem tells (f : Written) : Tells none f.headers (some f.body.length) := by
  obtain ⟨before, line, after, value, hheaders, hline, hvalue, hafter⟩ := f.lastLength
  have hbefore : ∀ l ∈ before, readHeader l = .ok .other ∨ ∃ n, readHeader l = .ok (.length n) := by
    intro l hl
    have hmem : l ∈ f.headers := by rw [hheaders]; simp [hl]
    by_cases hgives : ∃ value, GivesLength l value
    · obtain ⟨value, hgives⟩ := hgives
      obtain ⟨n, hn⟩ := f.lengths l hmem value hgives
      exact .inr ⟨n, readHeader_of_givesLength hgives hn⟩
    · exact .inl (readHeader_of_not_givesLength (f.headers_notBlank l hmem)
        fun value h => hgives ⟨value, h⟩)
  have hothers : ∀ l ∈ after, readHeader l = .ok .other := by
    intro l hl
    have hmem : l ∈ f.headers := by rw [hheaders]; simp [hl]
    exact readHeader_of_not_givesLength (f.headers_notBlank l hmem) (hafter l hl)
  -- The lines before the last length may say anything, those behind it say nothing.
  obtain ⟨n, htells⟩ := Tells.exists_of_read hbefore none
  rw [hheaders]
  exact htells.append (.length (readHeader_of_givesLength hline hvalue) (Tells.of_others hothers _))

/-- Reading goes on behind the header lines, with the length of the body. -/
theorem readHeaders_headers (closed : Bool) (f : Written) : ∃ started, ∀ rest,
    readHeaders closed (f.headers.flatMap lineBytes ++ rest) =
      readLines closed started (some f.body.length) [] rest :=
  f.tells.readLines_append f.headers_whole closed false

theorem readHeaders_bytes (closed : Bool) (f : Written) (rest : List UInt8) :
    readHeaders closed (f.bytes ++ rest) = .complete (some f.body.length) (f.body ++ rest) := by
  obtain ⟨started, hheaders⟩ := f.readHeaders_headers closed
  rw [bytes, List.append_assoc, List.append_assoc, hheaders, readLines_line f.separator_whole,
    readHeader_of_blank f.separator_blank]

end Written

/-! ## Single frames -/

theorem takeBody_append (taken body rest : List UInt8) :
    takeBody taken body.length (body ++ rest) = some (taken.reverse ++ body, rest) := by
  induction body generalizing taken with
  | nil => simp [takeBody]
  | cons b body ih =>
      rw [List.cons_append, List.length_cons, takeBody, ih]
      simp

theorem eq_append_of_takeBody {taken body rest bytes : List UInt8} {n : Nat}
    (h : takeBody taken n bytes = some (body, rest)) :
    ∃ front, body = taken.reverse ++ front ∧ front.length = n ∧ bytes = front ++ rest := by
  induction n generalizing taken bytes with
  | zero =>
      rw [takeBody] at h
      cases h
      exact ⟨[], (List.append_nil _).symm, rfl, rfl⟩
  | succ n ih =>
      cases bytes with
      | nil => cases h
      | cons b bytes =>
          obtain ⟨front, hbody, hlength, rfl⟩ := ih h
          exact ⟨b :: front, by simpa using hbody, by rw [List.length_cons, hlength], rfl⟩

/-- A frame is taken off the input by its header. -/
theorem next_eq_frame_iff_header {closed : Bool} {bytes rest : List UInt8} {v : Option Json} :
    next closed bytes = .frame v rest ↔ ∃ body,
      readHeaders closed bytes = .complete (some body.length) (body ++ rest) ∧
        body.length ≤ maxLength ∧ v = Json.ofBytes? body := by
  constructor
  · intro h
    unfold next at h
    split at h
    · cases h
    · cases h
    · cases h
    · cases h
    · rename_i n tail hheader
      split at h
      · cases h
      · rename_i hshort
        split at h
        · rename_i body rest' htake
          cases h
          obtain ⟨front, hbody, rfl, rfl⟩ := eq_append_of_takeBody htake
          obtain rfl : body = front := hbody
          exact ⟨body, hheader, Nat.not_lt.mp hshort, rfl⟩
        · split at h <;> cases h
  · rintro ⟨body, hheader, hshort, rfl⟩
    unfold next
    rw [hheader]
    dsimp only
    rw [if_neg (Nat.not_lt.mpr hshort), takeBody_append]
    rfl

/-- A frame is taken off the front of the input up to its last byte. -/
theorem next_written (closed : Bool) (f : Written) (rest : List UInt8) :
    next closed (f.bytes ++ rest) = .frame f.value? rest :=
  next_eq_frame_iff_header.mpr ⟨f.body, f.readHeaders_bytes closed rest, f.short, rfl⟩

/-! ## Taking frames off the input -/

section

variable {closed : Bool} {bytes rest : List UInt8}

theorem drainOnto_eq (closed : Bool) (taken : List Json) (bytes : List UInt8) :
    drainOnto closed taken bytes =
      (taken.reverse ++ (drain closed bytes).1, (drain closed bytes).2) := by
  induction h : bytes.length using Nat.strongRecOn generalizing taken bytes with
  | _ n ih =>
      unfold drain
      rw [drainOnto, drainOnto]
      split
      · simp
      · simp
      · simp
      · rename_i v rest hnext
        have hlt : rest.length < n := h ▸ length_lt_of_next hnext
        rw [ih rest.length hlt (v :: taken) rest rfl, ih rest.length hlt [v] rest rfl]
        simp
      · rename_i rest hnext
        have hlt : rest.length < n := h ▸ length_lt_of_next hnext
        rw [ih rest.length hlt taken rest rfl, ih rest.length hlt [] rest rfl]
        simp

/-- What stands at the front of the input decides how taking frames begins. -/
theorem drain_eq (closed : Bool) (bytes : List UInt8) :
    drain closed bytes = match next closed bytes with
      | .pending => ([], .pending bytes)
      | .finished => ([], .finished)
      | .fault f => ([], .fault f)
      | .frame v rest => (v.toList ++ (drain closed rest).1, (drain closed rest).2) := by
  conv => lhs; rw [drain, drainOnto]
  split <;> rename_i hnext <;> rw [hnext]
  · rfl
  · rfl
  · rfl
  · exact drainOnto_eq _ _ _
  · exact drainOnto_eq _ _ _

theorem drain_of_frame {v : Option Json} (h : next closed bytes = .frame v rest) :
    drain closed bytes = (v.toList ++ (drain closed rest).1, (drain closed rest).2) := by
  rw [drain_eq, h]

theorem drain_of_finished (h : next closed bytes = .finished) :
    drain closed bytes = ([], .finished) := by
  rw [drain_eq, h]

end

/-- If each of some things is written so that it is taken off the front of any input, then all
of them are read, in order, and then what stands behind them. -/
theorem decode_flatMap_append {α : Type} {bytes : α → List UInt8} {value? : α → Option Json}
    {things : List α}
    (h : ∀ a ∈ things, ∀ rest, next true (bytes a ++ rest) = .frame (value? a) rest)
    (rest : List UInt8) :
    decode (things.flatMap bytes ++ rest) =
      (things.filterMap value? ++ (decode rest).1, (decode rest).2) := by
  induction things with
  | nil => rfl
  | cons a things ih =>
      have ih := ih fun b hb => h b (List.mem_cons_of_mem _ hb)
      rw [decode] at ih
      rw [decode, List.flatMap_cons, List.append_assoc, drain_of_frame (h a List.mem_cons_self _),
        ih]
      cases hv : value? a with
      | none => rw [List.filterMap_cons_none hv]; rfl
      | some v => rw [List.filterMap_cons_some hv]; rfl

theorem decode_flatMap {α : Type} {bytes : α → List UInt8} {value? : α → Option Json}
    {things : List α}
    (h : ∀ a ∈ things, ∀ rest, next true (bytes a ++ rest) = .frame (value? a) rest) :
    decode (things.flatMap bytes) = (things.filterMap value?, .finished) := by
  have hnil : decode [] = ([], .finished) := drain_of_finished rfl
  have happend := decode_flatMap_append h []
  rwa [List.append_nil, hnil, List.append_nil] at happend

/-- **Framing resynchronises.** A sequence of frames, whatever their header lines and bodies,
is read as the values of those bodies that are JSON, in order, and ends between frames. -/
theorem decode_written (fs : List Written) :
    decode (fs.flatMap Written.bytes) = (fs.filterMap Written.value?, .finished) :=
  decode_flatMap fun f _ rest => next_written true f rest

end LintBridge.Frame
