import LintBridge.Proofs.Text.Lines
import LintBridge.Text.Utf8

set_option autoImplicit false

/-! # What has been written as UTF-8 is read back

The bytes of a text are read as this text (`decode_encode`), no other bytes are
(`decode_eq_ok_iff`), and they are the bytes that the standard library gives it
(`encodeChar_eq_utf8EncodeChar`). A byte below 0x80 stands for an ASCII character wherever it
occurs (`ascii_mem_encode_iff`), so that bytes can be cut at one before they are read
(`encode_eq_append_ascii_iff`), and into lines in particular.
-/

namespace LintBridge.Text.Utf8

/-- A number below 256 is the value of its byte. -/
private theorem toNat_byte {k : Nat} (h : k < 256) : (UInt8.ofNat k).toNat = k := by
  rw [UInt8.toNat_ofNat']
  omega

/-! ## Single bytes -/

theorem first_of_one {n : Nat} (h : n < 0x80) : first (UInt8.ofNat n) = .done (Char.ofNat n) := by
  simp only [first, toNat_byte (show n < 256 by omega)]
  rw [if_pos h]

theorem first_of_two {k : Nat} (hlow : 2 ≤ k) (hhigh : k < 0x20) :
    first (UInt8.ofNat (0xC0 + k)) = .more ⟨1, 1, 0x80, 0xBF, k⟩ := by
  have hbits : 0xC0 + k - 0xC0 = k := by omega
  simp only [first, toNat_byte (show 0xC0 + k < 256 by omega)]
  rw [if_neg (by omega), if_neg (by omega), if_pos (by omega), hbits]

theorem first_of_three {k : Nat} (hhigh : k < 0x10) :
    first (UInt8.ofNat (0xE0 + k)) =
      .more ⟨1, 2, if k = 0 then 0xA0 else 0x80, if k = 0xD then 0x9F else 0xBF, k⟩ := by
  have hbits : 0xE0 + k - 0xE0 = k := by omega
  have hleast : 0xE0 + k = 0xE0 ↔ k = 0 := by omega
  have hsurrogate : 0xE0 + k = 0xED ↔ k = 0xD := by omega
  simp only [first, toNat_byte (show 0xE0 + k < 256 by omega)]
  rw [if_neg (by omega), if_neg (by omega), if_neg (by omega), if_pos (by omega), hbits]
  simp only [hleast, hsurrogate]

theorem first_of_four {k : Nat} (hhigh : k < 5) :
    first (UInt8.ofNat (0xF0 + k)) =
      .more ⟨1, 3, if k = 0 then 0x90 else 0x80, if k = 4 then 0x8F else 0xBF, k⟩ := by
  have hbits : 0xF0 + k - 0xF0 = k := by omega
  have hleast : 0xF0 + k = 0xF0 ↔ k = 0 := by omega
  have hgreatest : 0xF0 + k = 0xF4 ↔ k = 4 := by omega
  simp only [first, toNat_byte (show 0xF0 + k < 256 by omega)]
  rw [if_neg (by omega), if_neg (by omega), if_neg (by omega), if_neg (by omega),
    if_pos (by omega), hbits]
  simp only [hleast, hgreatest]

theorem next_last {seen low high bits k : Nat} (hk : k < 0x40) (hlow : low ≤ 0x80 + k)
    (hhigh : 0x80 + k ≤ high) :
    Unfinished.next ⟨seen, 1, low, high, bits⟩ (UInt8.ofNat (0x80 + k)) =
      .done (Char.ofNat (bits * 64 + k)) := by
  have hbits : 0x80 + k - 0x80 = k := by omega
  simp only [Unfinished.next, toNat_byte (show 0x80 + k < 256 by omega)]
  rw [if_pos ⟨hlow, hhigh⟩, if_pos trivial, hbits]

theorem next_more {seen missing low high bits k : Nat} (hk : k < 0x40) (hlow : low ≤ 0x80 + k)
    (hhigh : 0x80 + k ≤ high) :
    Unfinished.next ⟨seen, missing + 2, low, high, bits⟩ (UInt8.ofNat (0x80 + k)) =
      .more ⟨seen + 1, missing + 1, 0x80, 0xBF, bits * 64 + k⟩ := by
  have hbits : 0x80 + k - 0x80 = k := by omega
  have hmissing : missing + 2 - 1 = missing + 1 := by omega
  simp only [Unfinished.next, toNat_byte (show 0x80 + k < 256 by omega)]
  rw [if_pos ⟨hlow, hhigh⟩, if_neg (by omega), hbits, hmissing]

/-- What the first byte of a character may be. -/
theorem first_cases (b : UInt8) :
    first b = .bad ∨ (∃ k, k < 0x80 ∧ b = UInt8.ofNat k) ∨
      (∃ k, 2 ≤ k ∧ k < 0x20 ∧ b = UInt8.ofNat (0xC0 + k)) ∨
      (∃ k, k < 0x10 ∧ b = UInt8.ofNat (0xE0 + k)) ∨ ∃ k, k < 5 ∧ b = UInt8.ofNat (0xF0 + k) := by
  have hb (k : Nat) (h : b.toNat = k) : b = UInt8.ofNat k := by
    rw [← h, UInt8.ofNat_toNat]
  by_cases h₁ : b.toNat < 0x80
  · exact .inr (.inl ⟨b.toNat, h₁, hb _ rfl⟩)
  by_cases h₂ : b.toNat < 0xC2
  · left
    simp only [first, if_neg h₁, if_pos h₂]
  by_cases h₃ : b.toNat < 0xE0
  · exact .inr (.inr (.inl ⟨b.toNat - 0xC0, by omega, by omega, hb _ (by omega)⟩))
  by_cases h₄ : b.toNat < 0xF0
  · exact .inr (.inr (.inr (.inl ⟨b.toNat - 0xE0, by omega, hb _ (by omega)⟩)))
  by_cases h₅ : b.toNat < 0xF5
  · exact .inr (.inr (.inr (.inr ⟨b.toNat - 0xF0, by omega, hb _ (by omega)⟩)))
  · left
    simp only [first, if_neg h₁, if_neg h₂, if_neg h₃, if_neg h₄, if_neg h₅]

/-- What a further byte of a character may be. -/
theorem next_cases (u : Unfinished) (b : UInt8) (hlow : 0x80 ≤ u.low) (hhigh : u.high < 0xC0) :
    u.next b = .bad ∨ ∃ k, k < 0x40 ∧ u.low ≤ 0x80 + k ∧ 0x80 + k ≤ u.high ∧
      b = UInt8.ofNat (0x80 + k) := by
  by_cases h : u.low ≤ b.toNat ∧ b.toNat ≤ u.high
  · have hb : 0x80 + (b.toNat - 0x80) = b.toNat := by omega
    refine .inr ⟨b.toNat - 0x80, by omega, by omega, by omega, ?_⟩
    rw [hb, UInt8.ofNat_toNat]
  · left
    simp only [Unfinished.next, if_neg h]

section

variable {index : Nat} {u u' : Unfinished} {done cs : List Char} {c : Char} {b : UInt8}
  {bs : List UInt8}

theorem decodeFrom_first_done (h : first b = .done c) :
    decodeFrom index none done (b :: bs) = decodeFrom (index + 1) none (c :: done) bs := by
  simp only [decodeFrom, h]

theorem decodeFrom_first_more (h : first b = .more u) :
    decodeFrom index none done (b :: bs) = decodeFrom (index + 1) (some u) done bs := by
  simp only [decodeFrom, h]

theorem decodeFrom_next_done (h : u.next b = .done c) :
    decodeFrom index (some u) done (b :: bs) = decodeFrom (index + 1) none (c :: done) bs := by
  simp only [decodeFrom, h]

theorem decodeFrom_next_more (h : u.next b = .more u') :
    decodeFrom index (some u) done (b :: bs) = decodeFrom (index + 1) (some u') done bs := by
  simp only [decodeFrom, h]

/-- A character that has been begun goes on with one of the bytes that it may go on with. -/
theorem exists_next_of_decodeFrom (h : decodeFrom index (some u) done bs = .ok cs)
    (hlow : 0x80 ≤ u.low) (hhigh : u.high < 0xC0) :
    ∃ k rest, k < 0x40 ∧ u.low ≤ 0x80 + k ∧ 0x80 + k ≤ u.high ∧
      bs = UInt8.ofNat (0x80 + k) :: rest := by
  cases bs with
  | nil => cases h
  | cons b bs =>
      rcases next_cases u b hlow hhigh with hbad | ⟨k, hk, hl, hh, rfl⟩
      · simp only [decodeFrom, hbad] at h
        cases h
      · exact ⟨k, bs, hk, hl, hh, rfl⟩

end

/-! ## Single characters -/

/-- The numbers of characters leave out the surrogates. -/
private theorem toNat_valid (c : Char) :
    c.toNat < 0xD800 ∨ 0xDFFF < c.toNat ∧ c.toNat < 0x110000 := c.valid

/-- The bytes of a character are read as this character. -/
theorem decodeFrom_encodeChar (index : Nat) (done : List Char) (c : Char) (bs : List UInt8) :
    decodeFrom index none done (encodeChar c ++ bs) =
      decodeFrom (index + (encodeChar c).length) none (c :: done) bs := by
  have hc : Char.ofNat c.toNat = c := Char.ofNat_toNat c
  have hvalid := toNat_valid c
  unfold encodeChar
  generalize c.toNat = n at hc hvalid
  dsimp only
  split
  · rename_i h₁
    rw [List.singleton_append, decodeFrom_first_done (first_of_one h₁), hc]
    rfl
  split
  · rename_i h₁ h₂
    have hbits : n / 64 * 64 + n % 64 = n := by omega
    rw [List.cons_append, List.singleton_append,
      decodeFrom_first_more (first_of_two (by omega) (by omega)),
      decodeFrom_next_done (next_last (by omega) (by omega) (by omega)), hbits, hc]
    rfl
  -- In the longer forms the bounds on the second byte keep out overlong forms, surrogates and
  -- what is no character; the number of a character meets them.
  split
  · rename_i h₁ h₂ h₃
    have hbits : (n / 4096 * 64 + n / 64 % 64) * 64 + n % 64 = n := by omega
    rw [List.cons_append, List.cons_append, List.singleton_append,
      decodeFrom_first_more (first_of_three (by omega)),
      decodeFrom_next_more (next_more (by omega) (by split <;> omega) (by split <;> omega)),
      decodeFrom_next_done (next_last (by omega) (by omega) (by omega)), hbits, hc]
    rfl
  · rename_i h₁ h₂ h₃
    have hbits : ((n / 262144 * 64 + n / 4096 % 64) * 64 + n / 64 % 64) * 64 + n % 64 = n := by
      omega
    rw [List.cons_append, List.cons_append, List.cons_append, List.singleton_append,
      decodeFrom_first_more (first_of_four (by omega)),
      decodeFrom_next_more (next_more (by omega) (by split <;> omega) (by split <;> omega)),
      decodeFrom_next_more (next_more (by omega) (by omega) (by omega)),
      decodeFrom_next_done (next_last (by omega) (by omega) (by omega)), hbits, hc]
    rfl

/-- The bytes of the character with a given number. -/
theorem encodeChar_ofNat {n : Nat} (h : n < 0xD800 ∨ 0xDFFF < n ∧ n < 0x110000) :
    encodeChar (Char.ofNat n) =
      if n < 0x80 then [UInt8.ofNat n]
      else if n < 0x800 then [UInt8.ofNat (0xC0 + n / 64), UInt8.ofNat (0x80 + n % 64)]
      else if n < 0x10000 then
        [UInt8.ofNat (0xE0 + n / 4096), UInt8.ofNat (0x80 + n / 64 % 64),
          UInt8.ofNat (0x80 + n % 64)]
      else
        [UInt8.ofNat (0xF0 + n / 262144), UInt8.ofNat (0x80 + n / 4096 % 64),
          UInt8.ofNat (0x80 + n / 64 % 64), UInt8.ofNat (0x80 + n % 64)] := by
  have hvalid : n.isValidChar := h
  have hnumber : (Char.ofNat n).toNat = n := by
    rw [Char.ofNat, dif_pos hvalid]
    rfl
  rw [encodeChar, hnumber]

/-- Bytes that are read as characters start with the bytes of a character. -/
theorem exists_encodeChar_of_decodeFrom {index : Nat} {done cs : List Char} {b : UInt8}
    {bs : List UInt8} (h : decodeFrom index none done (b :: bs) = .ok cs) :
    ∃ c rest, b :: bs = encodeChar c ++ rest := by
  rcases first_cases b with hbad | ⟨k, hk, rfl⟩ | ⟨k, htwo, hk, rfl⟩ | ⟨k, hk, rfl⟩ | ⟨k, hk, rfl⟩
  · simp only [decodeFrom, hbad] at h
    cases h
  · refine ⟨Char.ofNat k, bs, ?_⟩
    rw [encodeChar_ofNat (by omega), if_pos hk]
    rfl
  · rw [decodeFrom_first_more (first_of_two htwo hk)] at h
    obtain ⟨j, rest, hj, -, -, rfl⟩ :=
      exists_next_of_decodeFrom h (Nat.le_refl 0x80) (Nat.le_refl 0xC0)
    have hk' : (k * 64 + j) / 64 = k := by omega
    have hj' : (k * 64 + j) % 64 = j := by omega
    refine ⟨Char.ofNat (k * 64 + j), rest, ?_⟩
    rw [encodeChar_ofNat (by omega), if_neg (by omega), if_pos (by omega), hk', hj']
    rfl
  · rw [decodeFrom_first_more (first_of_three hk)] at h
    obtain ⟨j, rest₁, hj, hlow, hhigh, rfl⟩ := exists_next_of_decodeFrom h
      (by dsimp only; split <;> omega) (by dsimp only; split <;> omega)
    rw [decodeFrom_next_more (next_more hj hlow hhigh)] at h
    obtain ⟨l, rest, hl, -, -, rfl⟩ :=
      exists_next_of_decodeFrom h (Nat.le_refl 0x80) (Nat.le_refl 0xC0)
    -- The bounds on the second byte keep the number out of the shorter forms and the surrogates.
    have hleast : k = 0 → 0x20 ≤ j := by
      intro hk
      simp only [if_pos hk] at hlow
      omega
    have hsurrogate : k = 0xD → j < 0x20 := by
      intro hk
      simp only [if_pos hk] at hhigh
      omega
    have hk' : ((k * 64 + j) * 64 + l) / 4096 = k := by omega
    have hj' : ((k * 64 + j) * 64 + l) / 64 % 64 = j := by omega
    have hl' : ((k * 64 + j) * 64 + l) % 64 = l := by omega
    refine ⟨Char.ofNat ((k * 64 + j) * 64 + l), rest, ?_⟩
    rw [encodeChar_ofNat (by omega), if_neg (by omega), if_neg (by omega), if_pos (by omega), hk',
      hj', hl']
    rfl
  · rw [decodeFrom_first_more (first_of_four hk)] at h
    obtain ⟨j, rest₁, hj, hlow, hhigh, rfl⟩ := exists_next_of_decodeFrom h
      (by dsimp only; split <;> omega) (by dsimp only; split <;> omega)
    rw [decodeFrom_next_more (next_more hj hlow hhigh)] at h
    obtain ⟨l, rest₂, hl, hlow', hhigh', rfl⟩ :=
      exists_next_of_decodeFrom h (Nat.le_refl 0x80) (Nat.le_refl 0xC0)
    rw [decodeFrom_next_more (next_more hl hlow' hhigh')] at h
    obtain ⟨m, rest, hm, -, -, rfl⟩ :=
      exists_next_of_decodeFrom h (Nat.le_refl 0x80) (Nat.le_refl 0xC0)
    have hleast : k = 0 → 0x10 ≤ j := by
      intro hk
      simp only [if_pos hk] at hlow
      omega
    have hgreatest : k = 4 → j < 0x10 := by
      intro hk
      simp only [if_pos hk] at hhigh
      omega
    have hk' : (((k * 64 + j) * 64 + l) * 64 + m) / 262144 = k := by omega
    have hj' : (((k * 64 + j) * 64 + l) * 64 + m) / 4096 % 64 = j := by omega
    have hl' : (((k * 64 + j) * 64 + l) * 64 + m) / 64 % 64 = l := by omega
    have hm' : (((k * 64 + j) * 64 + l) * 64 + m) % 64 = m := by omega
    refine ⟨Char.ofNat (((k * 64 + j) * 64 + l) * 64 + m), rest, ?_⟩
    rw [encodeChar_ofNat (by omega), if_neg (by omega), if_neg (by omega), if_neg (by omega), hk',
      hj', hl', hm']
    rfl

/-- The standard library writes a character in the same bytes. -/
theorem encodeChar_eq_utf8EncodeChar (c : Char) : encodeChar c = String.utf8EncodeChar c := by
  have hvalid := toNat_valid c
  have hval : c.val.toNat = c.toNat := rfl
  unfold encodeChar String.utf8EncodeChar
  rw [hval]
  generalize c.toNat = n at hvalid
  by_cases h₁ : n < 0x80
  · simp only [if_pos h₁, if_pos (show n ≤ 127 by omega)]
  by_cases h₂ : n < 0x800
  · have hbits : n / 64 % 32 = n / 64 := by omega
    simp only [if_neg h₁, if_pos h₂, if_neg (show ¬ n ≤ 127 by omega),
      if_pos (show n ≤ 2047 by omega), hbits, Nat.add_comm]
  by_cases h₃ : n < 0x10000
  · have hbits : n / 4096 % 16 = n / 4096 := by omega
    simp only [if_neg h₁, if_neg h₂, if_pos h₃, if_neg (show ¬ n ≤ 127 by omega),
      if_neg (show ¬ n ≤ 2047 by omega), if_pos (show n ≤ 65535 by omega), hbits, Nat.add_comm]
  · have hbits : n / 262144 % 8 = n / 262144 := by omega
    simp only [if_neg h₁, if_neg h₂, if_neg h₃, if_neg (show ¬ n ≤ 127 by omega),
      if_neg (show ¬ n ≤ 2047 by omega), if_neg (show ¬ n ≤ 65535 by omega), hbits, Nat.add_comm]

theorem encodeChar_ne_nil (c : Char) : encodeChar c ≠ [] := by
  have hpos : 0 < (encodeChar c).length := by
    rw [encodeChar_eq_utf8EncodeChar, String.length_utf8EncodeChar]
    exact c.utf8Size_pos
  exact List.length_pos_iff.mp hpos

/-- Where a byte below 0x80 stands, it is an ASCII character. -/
theorem toNat_of_mem_encodeChar {c : Char} {b : UInt8} (h : b ∈ encodeChar c) :
    b.toNat = c.toNat ∨ 0x80 ≤ b.toNat := by
  have hvalid := toNat_valid c
  have hbyte : ∀ k : Nat, b = UInt8.ofNat k → k < 256 → b.toNat = k := by
    rintro k rfl hk
    exact toNat_byte hk
  unfold encodeChar at h
  generalize c.toNat = n at h hvalid
  dsimp only at h
  split at h
  · obtain rfl := List.mem_singleton.mp h
    exact Or.inl (toNat_byte (by omega))
  -- In a longer form every byte is the sum of a marker of at least 0x80 and some bits.
  right
  split at h
  · simp only [List.mem_cons, List.not_mem_nil, or_false] at h
    rcases h with h | h <;> rw [hbyte _ h (by omega)] <;> omega
  split at h
  · simp only [List.mem_cons, List.not_mem_nil, or_false] at h
    rcases h with h | h | h <;> rw [hbyte _ h (by omega)] <;> omega
  · simp only [List.mem_cons, List.not_mem_nil, or_false] at h
    rcases h with h | h | h | h <;> rw [hbyte _ h (by omega)] <;> omega

/-! ## Texts -/

@[simp] theorem encode_nil : encode [] = [] := rfl

@[simp] theorem encode_cons (c : Char) (cs : List Char) :
    encode (c :: cs) = encodeChar c ++ encode cs := rfl

@[simp] theorem encode_append (cs cs' : List Char) :
    encode (cs ++ cs') = encode cs ++ encode cs' := List.flatMap_append

theorem encode_eq_nil_iff {cs : List Char} : encode cs = [] ↔ cs = [] := by
  cases cs with
  | nil => simp
  | cons c cs => simp [encodeChar_ne_nil]

theorem decodeFrom_encode (index : Nat) (done cs : List Char) :
    decodeFrom index none done (encode cs) = .ok (done.reverse ++ cs) := by
  induction cs generalizing index done with
  | nil => simp [decodeFrom]
  | cons c cs ih =>
      rw [encode_cons, decodeFrom_encodeChar, ih]
      simp

/-- Reading undoes writing. -/
theorem decode_encode (cs : List Char) : decode (encode cs) = .ok cs :=
  decodeFrom_encode 0 [] cs

/-- Characters are read from their own bytes only. -/
theorem exists_encode_of_decodeFrom {index : Nat} {done cs : List Char} {bs : List UInt8}
    (h : decodeFrom index none done bs = .ok cs) :
    ∃ rest, cs = done.reverse ++ rest ∧ bs = encode rest := by
  induction hn : bs.length using Nat.strongRecOn generalizing index done bs with
  | _ n ih =>
      cases bs with
      | nil =>
          cases h
          exact ⟨[], by simp, rfl⟩
      | cons b bs =>
          obtain ⟨c, bs', hbs⟩ := exists_encodeChar_of_decodeFrom h
          have hlt : bs'.length < n := by
            have hpos := List.length_pos_iff.mpr (encodeChar_ne_nil c)
            rw [← hn, hbs, List.length_append]
            omega
          rw [hbs, decodeFrom_encodeChar] at h
          obtain ⟨rest, hcs, hrest⟩ := ih bs'.length hlt h rfl
          refine ⟨c :: rest, by simpa using hcs, ?_⟩
          rw [hbs, hrest, encode_cons]

/-- The only bytes that are read as a text are its own. -/
theorem decode_eq_ok_iff {bytes : List UInt8} {cs : List Char} :
    decode bytes = .ok cs ↔ bytes = encode cs := by
  constructor
  · intro h
    obtain ⟨rest, rfl, hbytes⟩ := exists_encode_of_decodeFrom h
    exact hbytes
  · rintro rfl
    exact decode_encode cs

/-- Texts with the same bytes are the same. -/
theorem encode_inj {cs cs' : List Char} : encode cs = encode cs' ↔ cs = cs' := by
  refine ⟨fun h => ?_, congrArg encode⟩
  have hread := decode_encode cs
  rw [h, decode_encode] at hread
  exact (Except.ok.inj hread).symm

/-! ## ASCII -/

section

variable {sep : Char} (hsep : sep.toNat < 0x80)
include hsep

/-- An ASCII character is one byte. -/
theorem encodeChar_ascii : encodeChar sep = [UInt8.ofNat sep.toNat] := by
  rw [encodeChar, if_pos hsep]

/-- The byte of an ASCII character is part of no other character. -/
theorem eq_of_ascii_mem_encodeChar {c : Char} (h : UInt8.ofNat sep.toNat ∈ encodeChar c) :
    c = sep := by
  rcases toNat_of_mem_encodeChar h with heq | hge
  · rw [toNat_byte (by omega)] at heq
    rw [← Char.ofNat_toNat c, ← heq, Char.ofNat_toNat]
  · rw [toNat_byte (by omega)] at hge
    omega

theorem ascii_mem_encode_iff {cs : List Char} :
    UInt8.ofNat sep.toNat ∈ encode cs ↔ sep ∈ cs := by
  constructor
  · intro hmem
    obtain ⟨c, hc, hbyte⟩ := List.mem_flatMap.mp hmem
    exact eq_of_ascii_mem_encodeChar hsep hbyte ▸ hc
  · intro hmem
    refine List.mem_flatMap.mpr ⟨sep, hmem, ?_⟩
    rw [encodeChar_ascii hsep]
    exact List.mem_singleton.mpr rfl

/-- Where the bytes of a text are cut at the first byte of an ASCII character, the text is cut at
the first such character. -/
theorem encode_eq_append_ascii_iff {cs : List Char} {front rest : List UInt8}
    (hfront : UInt8.ofNat sep.toNat ∉ front) :
    encode cs = front ++ UInt8.ofNat sep.toNat :: rest ↔
      ∃ before behind, cs = before ++ sep :: behind ∧ sep ∉ before ∧ front = encode before ∧
        rest = encode behind := by
  constructor
  · intro h
    have hmem : UInt8.ofNat sep.toNat ∈ encode cs := by
      rw [h]
      exact List.mem_append_right _ List.mem_cons_self
    obtain ⟨before, behind, rfl, hbefore⟩ :=
      List.eq_append_cons_of_mem ((ascii_mem_encode_iff hsep).mp hmem)
    rw [encode_append, encode_cons, encodeChar_ascii hsep, List.singleton_append] at h
    have hencode : UInt8.ofNat sep.toNat ∉ encode before :=
      mt (ascii_mem_encode_iff hsep).mp hbefore
    obtain rfl := front_eq_of_append_sep hencode hfront h
    exact ⟨before, behind, rfl, hbefore, rfl,
      (List.cons.inj (List.append_cancel_left h)).2.symm⟩
  · rintro ⟨before, behind, rfl, -, rfl, rfl⟩
    rw [encode_append, encode_cons, encodeChar_ascii hsep, List.singleton_append]

end

/-- The byte 10 stands for a line feed and is part of no other character. -/
theorem eq_lineFeed_of_mem_encodeChar {c : Char} (h : 10 ∈ encodeChar c) : c = '\n' :=
  @eq_of_ascii_mem_encodeChar '\n' (by decide) c h

theorem lineFeed_mem_encode_iff {cs : List Char} : 10 ∈ encode cs ↔ '\n' ∈ cs :=
  @ascii_mem_encode_iff '\n' (by decide) cs

/-- A text whose bytes end in a line feed ends in a line feed. -/
theorem exists_line_of_encode {cs : List Char} {bytes : List UInt8}
    (h : encode cs = bytes ++ [10]) : ∃ line, cs = line ++ ['\n'] ∧ bytes = encode line := by
  rcases List.eq_nil_or_concat cs with rfl | ⟨line, c, rfl⟩
  · simp at h
  · have hencode : encode line ++ encodeChar c = bytes ++ [10] := by simpa using h
    have hlast := congrArg List.getLast? hencode
    rw [List.getLast?_append, List.getLast?_concat,
      List.getLast?_eq_some_getLast (encodeChar_ne_nil c), Option.some_or] at hlast
    have hmem : (10 : UInt8) ∈ encodeChar c := by
      rw [← Option.some.inj hlast]
      exact List.getLast_mem _
    obtain rfl := eq_lineFeed_of_mem_encodeChar hmem
    exact ⟨line, List.concat_eq_append, (List.append_inj_left' hencode rfl).symm⟩

end LintBridge.Text.Utf8
