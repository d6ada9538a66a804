import LintBridge.Proofs.Json.Text
import LintBridge.Proofs.Text.Lines
import LintBridge.Proofs.Text.Utf8
import LintBridge.Protocol.Frame

set_option autoImplicit false

/-! # What header lines say

A length is a run of decimal digits with an optional plus sign (`Denotes`), and `readLength`
reads exactly these texts. A header line gives the length if its name, which stands before the
first colon, is that of the length header up to case and blanks at its ends (`GivesLength`).
The main statement of this module is the one about a single line, `readLines_line`: the line
is read as a whole, blanks at its ends do not count, and reading goes on behind its line feed.
-/

namespace LintBridge.Frame

/-! ## Lengths -/

/-- The text `cs` stands for the number `n`, which is below `2 ^ 64`. -/
def Denotes (cs : List Char) (n : Nat) : Prop :=
  ∃ ds, (cs = ds ∨ cs = '+' :: ds) ∧ ds ≠ [] ∧ (∀ d ∈ ds, d.isDigit = true) ∧
    Nat.ofDigitChars 10 ds 0 = n ∧ n < 18446744073709551616

theorem appendDigit_eq_ok_iff {k n : Nat} {c : Char} :
    appendDigit k c = .ok n ↔
      c.isDigit = true ∧ 10 * k + (c.toNat - '0'.toNat) = n ∧ n < 18446744073709551616 := by
  unfold appendDigit
  dsimp only
  rw [Nat.mul_comm k 10]
  cases hc : c.isDigit with
  | false => simp
  | true =>
      simp only [Bool.not_true, Bool.false_eq_true, if_false, true_and]
      split
      · rename_i hlt
        constructor
        · intro h
          cases h
          exact ⟨rfl, hlt⟩
        · rintro ⟨rfl, -⟩
          rfl
      · rename_i hge
        constructor
        · intro h
          cases h
        · rintro ⟨rfl, hlt⟩
          exact absurd hlt hge

theorem foldlM_appendDigit_eq_ok_iff {ds : List Char} {k n : Nat} (hk : k < 18446744073709551616) :
    ds.foldlM appendDigit k = .ok n ↔
      (∀ d ∈ ds, d.isDigit = true) ∧ Nat.ofDigitChars 10 ds k = n ∧ n < 18446744073709551616 := by
  induction ds generalizing k with
  | nil =>
      simp only [List.foldlM_nil, List.not_mem_nil, false_implies, implies_true, true_and,
        Nat.ofDigitChars_nil]
      constructor
      · intro h
        cases h
        exact ⟨rfl, hk⟩
      · rintro ⟨rfl, -⟩
        rfl
  | cons d ds ih =>
      rw [List.foldlM_cons, Nat.ofDigitChars_cons]
      cases hd : appendDigit k d with
      | ok m =>
          obtain ⟨hdigit, hm, hlt⟩ := appendDigit_eq_ok_iff.mp hd
          show List.foldlM appendDigit m ds = .ok n ↔ _
          rw [hm, ih hlt]
          simp [hdigit]
      | error why =>
          -- The digits that follow do not make the number smaller again.
          have hfails : ∀ m, appendDigit k d ≠ .ok m := by simp [hd]
          constructor
          · intro h
            cases h
          · rintro ⟨hdigits, rfl, hlt⟩
            have hle := Number.le_ofDigitChars ds (10 * k + (d.toNat - '0'.toNat))
            exact absurd (appendDigit_eq_ok_iff.mpr
              ⟨hdigits d List.mem_cons_self, rfl, Nat.lt_of_le_of_lt hle hlt⟩) (hfails _)

/-- What is read as a length. -/
theorem readLength_eq_ok_iff {cs : List Char} {n : Nat} :
    readLength cs = .ok n ↔ Denotes cs n := by
  have hplus : ('+').isDigit = false := rfl
  unfold readLength
  split
  · constructor
    · intro h
      cases h
    · rintro ⟨ds, hds | hds, hne, -⟩
      · exact absurd hds.symm hne
      · cases hds
  · constructor
    · intro h
      cases h
    · rintro ⟨ds, hds | hds, hne, hdigits, -⟩
      · have := hdigits '+' (by simp [← hds])
        simp [hplus] at this
      · exact absurd (List.cons.inj hds).2.symm hne
  · rename_i ds hne
    rw [foldlM_appendDigit_eq_ok_iff (by decide)]
    constructor
    · rintro ⟨hdigits, hn, hlt⟩
      exact ⟨ds, .inr rfl, fun hnil => hne (by rw [hnil]), hdigits, hn, hlt⟩
    · rintro ⟨ds', hds | hds, -, hdigits, hn, hlt⟩
      · have := hdigits '+' (by simp [← hds])
        simp [hplus] at this
      · obtain rfl := (List.cons.inj hds).2
        exact ⟨hdigits, hn, hlt⟩
  · rename_i hnil hone hcons
    rw [foldlM_appendDigit_eq_ok_iff (by decide)]
    constructor
    · rintro ⟨hdigits, hn, hlt⟩
      exact ⟨cs, .inl rfl, hnil, hdigits, hn, hlt⟩
    · rintro ⟨ds, hds | hds, -, hdigits, hn, hlt⟩
      · subst hds
        exact ⟨hdigits, hn, hlt⟩
      · exact absurd hds (hcons ds)

/-! ## Header lines -/

/-- The header line gives `value` for the length: this stands behind the first colon of the
line, without blanks at its ends, and what stands before the colon is the name of the length
header, whatever its case and the blanks around it. -/
def GivesLength (line value : List Char) : Prop :=
  ∃ name rest, line = name ++ ':' :: rest ∧ ':' ∉ name ∧
    (Text.trim name).map Char.toLower = lengthName ∧ value = Text.trim rest

/-- A line gives no two values. -/
theorem GivesLength.unique {line value value' : List Char} (h : GivesLength line value)
    (h' : GivesLength line value') : value = value' := by
  obtain ⟨name, rest, hline, hname, -, rfl⟩ := h
  obtain ⟨name', rest', hline', hname', -, rfl⟩ := h'
  rw [hline] at hline'
  obtain rfl := Text.front_eq_of_append_sep hname hname' hline'
  rw [(List.cons.inj (List.append_cancel_left hline')).2]

/-- A line with a colon: its name decides whether its value counts. -/
theorem readHeader_of_colon {name : List Char} (h : ':' ∉ name) (rest : List Char) :
    readHeader (name ++ ':' :: rest) =
      if (Text.trim name).map Char.toLower = lengthName then
        match readLength (Text.trim rest) with
        | .ok n => .ok (.length n)
        | .error why => .error (.badLength why)
      else .ok .other := by
  have hblank : Text.isBlank ':' = false := rfl
  have hstart : ':' ∉ Text.trimStart name := fun hmem => h (List.dropWhile_subset _ hmem)
  obtain ⟨htake, hdrop⟩ := Text.takeWhile_dropWhile_sep hstart (Text.trimEnd rest)
  unfold readHeader
  rw [Text.trim_append_cons hblank]
  simp only [htake, hdrop, Text.trim_trimStart, Text.trim_trimEnd]
  exact if_neg (by simp)

/-- A line without colon gives no length. -/
theorem readHeader_of_notMem {line : List Char} (h : ':' ∉ line) :
    readHeader line = if Text.trim line = [] then .ok .blank else .ok .other := by
  have htrim : ':' ∉ Text.trim line := by
    intro hc
    have hmem : ':' ∈ (Text.trimStart line).reverse :=
      List.dropWhile_subset _ (List.mem_reverse.mp hc)
    exact h (List.dropWhile_subset _ (List.mem_reverse.mp hmem))
  unfold readHeader
  simp only [List.dropWhile_eq_nil_iff.mpr (Text.forall_ne_of_notMem htrim)]

/-- Blanks at the ends of a line do not count. -/
theorem readHeader_congr {line line' : List Char} (h : Text.trim line = Text.trim line') :
    readHeader line = readHeader line' := by
  unfold readHeader
  rw [h]

theorem readHeader_of_blank {line : List Char} (h : ∀ c ∈ line, Text.isBlank c = true) :
    readHeader line = .ok .blank := by
  unfold readHeader
  rw [(Text.trim_eq_nil_iff line).mpr h]
  rfl

/-- A line that gives the length says it, if it is a number. -/
theorem readHeader_of_value {line value : List Char} (h : GivesLength line value) :
    readHeader line = match readLength value with
      | .ok n => .ok (.length n)
      | .error why => .error (.badLength why) := by
  obtain ⟨name, rest, rfl, hname, hlower, rfl⟩ := h
  rw [readHeader_of_colon hname, if_pos hlower]

theorem readHeader_of_givesLength {line value : List Char} {n : Nat}
    (h : GivesLength line value) (hn : Denotes value n) : readHeader line = .ok (.length n) := by
  rw [readHeader_of_value h, readLength_eq_ok_iff.mpr hn]

theorem readHeader_of_not_givesLength {line : List Char}
    (hblank : ∃ c ∈ line, Text.isBlank c = false) (h : ∀ value, ¬ GivesLength line value) :
    readHeader line = .ok .other := by
  by_cases hcolon : ':' ∈ line
  · obtain ⟨name, rest, rfl, hname⟩ := List.eq_append_cons_of_mem hcolon
    rw [readHeader_of_colon hname, if_neg]
    intro hlower
    exact h _ ⟨name, rest, rfl, hname, hlower, rfl⟩
  · rw [readHeader_of_notMem hcolon, if_neg]
    intro hnil
    obtain ⟨c, hc, hne⟩ := hblank
    rw [(Text.trim_eq_nil_iff line).mp hnil c hc] at hne
    cases hne

/-- A line that is read and gives the length gives a number. -/
theorem denotes_of_readHeader {line value : List Char} {said : HeaderLine}
    (h : readHeader line = .ok said) (hgives : GivesLength line value) :
    ∃ n, Denotes value n ∧ said = .length n := by
  rw [readHeader_of_value hgives] at h
  cases hn : readLength value with
  | error why =>
      rw [hn] at h
      cases h
  | ok n =>
      rw [hn] at h
      cases h
      exact ⟨n, readLength_eq_ok_iff.mp hn, rfl⟩

/-- What is read as a blank line. -/
theorem readHeader_eq_blank_iff {line : List Char} :
    readHeader line = .ok .blank ↔ ∀ c ∈ line, Text.isBlank c = true := by
  refine ⟨fun h => ?_, readHeader_of_blank⟩
  by_contra hall
  have hblank : ∃ c ∈ line, Text.isBlank c = false := by simpa using hall
  by_cases hgives : ∃ value, GivesLength line value
  · obtain ⟨value, hgives⟩ := hgives
    obtain ⟨n, -, hsaid⟩ := denotes_of_readHeader h hgives
    cases hsaid
  · rw [readHeader_of_not_givesLength hblank (not_exists.mp hgives)] at h
    cases h

/-- What is read as a line that gives the length. -/
theorem readHeader_eq_length_iff {line : List Char} {n : Nat} :
    readHeader line = .ok (.length n) ↔ ∃ value, GivesLength line value ∧ Denotes value n := by
  constructor
  · intro h
    have hblank : ∃ c ∈ line, Text.isBlank c = false := by
      by_contra hall
      rw [readHeader_of_blank (by simpa using hall)] at h
      cases h
    by_cases hgives : ∃ value, GivesLength line value
    · obtain ⟨value, hgives⟩ := hgives
      obtain ⟨m, hm, hsaid⟩ := denotes_of_readHeader h hgives
      cases hsaid
      exact ⟨value, hgives, hm⟩
    · rw [readHeader_of_not_givesLength hblank (not_exists.mp hgives)] at h
      cases h
  · rintro ⟨value, hgives, hn⟩
    exact readHeader_of_givesLength hgives hn

/-! ## Lines of a header -/

/-- The bytes of a line. -/
def lineBytes (line : List Char) : List UInt8 := Text.Utf8.encode (line ++ ['\n'])

/-- The bytes before a line feed are kept until it comes. -/
theorem readLines_append {bytes : List UInt8} (h : 10 ∉ bytes) (closed started : Bool)
    (length : Option Nat) (line rest : List UInt8) :
    readLines closed started length line (bytes ++ rest) =
      readLines closed started length (bytes.reverse ++ line) rest := by
  induction bytes generalizing line with
  | nil => rfl
  | cons b bytes ih =>
      have hb : b ≠ 10 := fun heq => h (heq ▸ List.mem_cons_self)
      have htail : 10 ∉ bytes := fun hmem => h (List.mem_cons_of_mem _ hmem)
      rw [List.cons_append, readLines, if_neg hb, ih htail]
      simp

/-- Bytes are read up to their first line feed, and reading goes on behind it. -/
theorem readLines_lineFeed {bytes : List UInt8} (h : 10 ∉ bytes) (closed started : Bool)
    (length : Option Nat) (rest : List UInt8) :
    readLines closed started length [] (bytes ++ 10 :: rest) =
      match readHeaderBytes (bytes ++ [10]) with
      | .error f => .fault f
      | .ok .blank => .complete length rest
      | .ok (.length n) => readLines closed true (some n) [] rest
      | .ok .other => readLines closed true length [] rest := by
  have hline : (10 :: (bytes.reverse ++ [])).reverse = bytes ++ [10] := by simp
  rw [readLines_append h, readLines, if_pos rfl]
  generalize (10 :: (bytes.reverse ++ [])).reverse = line at hline ⊢
  subst hline
  rfl

/-- At the end of the input a blank line counts without its line feed. -/
theorem readLines_unended {bytes : List UInt8} (h : 10 ∉ bytes) (hne : bytes ≠ [])
    (started : Bool) (length : Option Nat) :
    readLines true started length [] bytes =
      match readHeaderBytes bytes with
      | .error f => .fault f
      | .ok .blank => .complete length []
      | .ok _ => .fault .endInHeaders := by
  have hend := readLines_append h true started length [] []
  have hline : bytes.reverse.reverse = bytes := List.reverse_reverse bytes
  rw [List.append_nil, List.append_nil] at hend
  rw [hend, readLines, if_neg (by simp), if_neg (by simpa using hne)]
  generalize bytes.reverse.reverse = line at hline ⊢
  subst hline
  rfl

theorem lineBytes_eq (line : List Char) : lineBytes line = Text.Utf8.encode line ++ [10] :=
  Text.Utf8.encode_append _ _

theorem readHeaderBytes_lineBytes (line : List Char) :
    readHeaderBytes (lineBytes line) = readHeader line := by
  have htrim : Text.trim (line ++ ['\n']) = Text.trim line :=
    Text.trim_append_blank (List.forall_mem_singleton.mpr rfl)
  rw [readHeaderBytes, lineBytes, Text.Utf8.decode_encode]
  exact readHeader_congr htrim

/-- A line is read as a whole, and reading goes on behind its line feed. -/
theorem readLines_line {line : List Char} (h : '\n' ∉ line) (closed started : Bool)
    (length : Option Nat) (rest : List UInt8) :
    readLines closed started length [] (lineBytes line ++ rest) =
      match readHeader line with
      | .error f => .fault f
      | .ok .blank => .complete length rest
      | .ok (.length n) => readLines closed true (some n) [] rest
      | .ok .other => readLines closed true length [] rest := by
  have hline : 10 ∉ Text.Utf8.encode line := mt Text.Utf8.lineFeed_mem_encode_iff.mp h
  rw [lineBytes_eq, List.append_assoc, List.singleton_append, readLines_lineFeed hline,
    ← lineBytes_eq, readHeaderBytes_lineBytes]

end LintBridge.Frame
