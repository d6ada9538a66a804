import LintBridge.Json.Printer
import LintBridge.Json.Reader

set_option autoImplicit false

/-! # The text of a value, part by part

The printer gathers its text in reverse. Here the text of a value is put together from the
texts of its parts, in the order in which they stand (`text`), and this is what the printer
writes (`print_eq_text`). What follows are the parts without parts of their own: a string and
an integer are read back from the front of any text, provided that an integer does not go on
behind its last digit (`readString_text`, `read_renderInt`).
-/

namespace LintBridge

namespace Json

/-! ## The text -/

/-- The text of a string, quotes included. -/
def textString (s : String) : List Char := '"' :: s.toList.flatMap escape ++ ['"']

/-- What stands between items and between fields. -/
def comma (isFirst : Bool) : List Char := if isFirst then [] else [',']

mutual
/-- The compact text of a value. -/
def text : Json → List Char
  | .null => ['n', 'u', 'l', 'l']
  | .bool true => ['t', 'r', 'u', 'e']
  | .bool false => ['f', 'a', 'l', 's', 'e']
  | .number n => n.render
  | .string s => textString s
  | .array items => '[' :: textItems true items ++ [']']
  | .object fields => '{' :: textFields true fields ++ ['}']

/-- The text of the items of an array. -/
def textItems (isFirst : Bool) : List Json → List Char
  | [] => []
  | v :: rest => comma isFirst ++ text v ++ textItems false rest

/-- The text of the fields of an object. -/
def textFields (isFirst : Bool) : List (String × Json) → List Char
  | [] => []
  | (key, v) :: rest => comma isFirst ++ textString key ++ ':' :: text v ++ textFields false rest
end

theorem emitString_eq (out : List Char) (s : String) :
    emitString out s = (textString s).reverse ++ out := by
  have key : ∀ (cs out : List Char),
      cs.foldl (fun out c => (escape c).reverseAux out) out =
        (cs.flatMap escape).reverse ++ out := by
    intro cs
    induction cs with
    | nil => intro out; rfl
    | cons c cs ih =>
        intro out
        rw [List.foldl_cons, ih, List.reverseAux_eq, List.flatMap_cons, List.reverse_append,
          List.append_assoc]
  rw [emitString, key, textString]
  simp

/-- Where an item or a field goes on. -/
private theorem comma_reverse (isFirst : Bool) (out : List Char) :
    (if isFirst then out else ',' :: out) = (comma isFirst).reverse ++ out := by
  cases isFirst <;> rfl

mutual
theorem emit_eq_text (out : List Char) : (v : Json) → emit out v = (text v).reverse ++ out
  | .null => rfl
  | .bool true => rfl
  | .bool false => rfl
  | .number n => List.reverseAux_eq
  | .string s => emitString_eq out s
  | .array items => by
      rw [emit, emitItems_eq_text true ('[' :: out) items, text]
      simp
  | .object fields => by
      rw [emit, emitFields_eq_text true ('{' :: out) fields, text]
      simp

theorem emitItems_eq_text (isFirst : Bool) (out : List Char) :
    (items : List Json) → emitItems isFirst out items = (textItems isFirst items).reverse ++ out
  | [] => rfl
  | v :: rest => by
      rw [emitItems, emitItems_eq_text false _ rest, emit_eq_text _ v, comma_reverse, textItems]
      simp

theorem emitFields_eq_text (isFirst : Bool) (out : List Char) :
    (fields : List (String × Json)) →
      emitFields isFirst out fields = (textFields isFirst fields).reverse ++ out
  | [] => rfl
  | (key, v) :: rest => by
      rw [emitFields, emitFields_eq_text false _ rest, emit_eq_text _ v, emitString_eq,
        comma_reverse, textFields]
      simp
end

/-- The printer writes the text of a value. -/
theorem print_eq_text (v : Json) : print v = text v := by
  rw [print, emit_eq_text]
  simp

/-! ## Strings -/

theorem hexDigit?_digitChar : ∀ k < 16, hexDigit? (Nat.digitChar k) = some k := by decide

/-- A control character is read back from its code point. -/
theorem readEscape_control {c : Char} (hc : c.toNat < 0x20) (cs : List Char) :
    readEscape ('u' :: '0' :: '0' :: Nat.digitChar (c.toNat / 16) ::
      Nat.digitChar (c.toNat % 16) :: cs) = some (c, cs) := by
  have hzero : hexDigit? '0' = some 0 := rfl
  have hhigh := hexDigit?_digitChar (c.toNat / 16) (by omega)
  have hlow := hexDigit?_digitChar (c.toNat % 16) (by omega)
  have hvalue : (0 * 16 + 0) * 256 + (c.toNat / 16 * 16 + c.toNat % 16) = c.toNat := by omega
  have hhex : readHex4 ('0' :: '0' :: Nat.digitChar (c.toNat / 16) ::
      Nat.digitChar (c.toNat % 16) :: cs) = some (c.toNat, cs) := by
    simp only [readHex4, hzero, hhigh, hlow]
    exact congrArg (fun n => some (n, cs)) hvalue
  show readCodePoint _ = _
  rw [readCodePoint, hhex]
  show (if _ then _ else if _ then _ else _) = _
  rw [if_neg (by omega), if_neg (by omega), Char.ofNat_toNat]

/-- A character of a string is read in one step, escaped or not. -/
theorem readString_escape (done : List Char) (fuel : Nat) (c : Char) (cs : List Char) :
    readString done (fuel + 1) (escape c ++ cs) = readString (c :: done) fuel cs := by
  have hescaped : ∀ rest, readEscape rest = some (c, cs) →
      readString done (fuel + 1) ('\\' :: rest) = readString (c :: done) fuel cs := by
    intro rest h
    rw [readString, if_neg (by decide), if_pos rfl, h]
  unfold escape
  -- Seven characters have an escape of their own.
  iterate 7
    split
    · rename_i h
      exact hescaped _ (by rw [h]; rfl)
  split
  · rename_i h
    exact hescaped _ (readEscape_control h cs)
  · rename_i hquote hslash _ _ _ _ _ hcontrol
    rw [List.singleton_append, readString, if_neg hquote, if_neg hslash, if_neg hcontrol]

theorem readString_escapes (cs done rest : List Char) {fuel : Nat} (h : cs.length < fuel) :
    readString done fuel (cs.flatMap escape ++ '"' :: rest) =
      some (String.ofList (done.reverse ++ cs), rest) := by
  obtain ⟨fuel, rfl⟩ : ∃ f, fuel = f + 1 := Nat.exists_eq_add_one.mpr (by omega)
  induction cs generalizing done fuel with
  | nil => rw [List.flatMap_nil, List.nil_append, readString, if_pos rfl, List.append_nil]
  | cons c cs ih =>
      rw [List.length_cons] at h
      obtain ⟨fuel, rfl⟩ : ∃ f, fuel = f + 1 := Nat.exists_eq_add_one.mpr (by omega)
      rw [List.flatMap_cons, List.append_assoc, readString_escape, ih (c :: done) fuel (by omega)]
      simp

theorem length_le_flatMap_escape (cs : List Char) : cs.length ≤ (cs.flatMap escape).length := by
  have hpos : ∀ c : Char, 1 ≤ (escape c).length := by
    intro c
    unfold escape
    repeat' split
    all_goals exact Nat.succ_le_succ (Nat.zero_le _)
  induction cs with
  | nil => exact Nat.le_refl 0
  | cons c cs ih =>
      have := hpos c
      rw [List.flatMap_cons, List.length_append, List.length_cons]
      omega

/-- A string is read back, in fewer steps than its text has characters. -/
theorem readString_text (s : String) (rest : List Char) {fuel : Nat}
    (h : (textString s).length ≤ fuel + 1) :
    ∃ cs, textString s ++ rest = '"' :: cs ∧ readString [] fuel cs = some (s, rest) := by
  refine ⟨s.toList.flatMap escape ++ '"' :: rest, by simp [textString], ?_⟩
  have hchars := length_le_flatMap_escape s.toList
  simp only [textString, List.length_append, List.length_cons, List.length_nil] at h
  have hfuel : s.toList.length < fuel := by omega
  rw [readString_escapes s.toList [] rest hfuel]
  simp

/-! ## What follows a value -/

/-- No number goes on with the text `rest`. -/
def Delimits (rest : List Char) : Prop :=
  ∀ c ∈ rest.head?, c.isDigit = false ∧ c ≠ '.' ∧ c ≠ 'e' ∧ c ≠ 'E'

theorem delimits_nil : Delimits [] := by
  intro c hc
  cases hc

theorem delimits_cons {c : Char} (h : c.isDigit = false ∧ c ≠ '.' ∧ c ≠ 'e' ∧ c ≠ 'E')
    (rest : List Char) : Delimits (c :: rest) := by
  intro d hd
  cases hd
  exact h

end Json

/-! ## Integers -/

namespace Number

/-- A number is not less than that of its leading digits. -/
theorem le_ofDigitChars (ds : List Char) (n : Nat) : n ≤ Nat.ofDigitChars 10 ds n := by
  rw [Nat.ofDigitChars_eq_ofDigitChars_zero]
  have hpos : 0 < 10 ^ ds.length := Nat.pow_pos (by decide)
  have hle : n ≤ 10 ^ ds.length * n := Nat.le_mul_of_pos_left n hpos
  omega

theorem digit?_eq_some {c : Char} (h : c.isDigit = true) :
    digit? c = some (c.toNat - '0'.toNat) := by
  have hbounds : '0' ≤ c ∧ c ≤ '9' := by
    simpa [Char.isDigit, Char.le_def] using h
  rw [digit?, if_pos hbounds]

theorem digit?_eq_none {c : Char} (h : c.isDigit = false) : digit? c = none := by
  have hbounds : ¬ ('0' ≤ c ∧ c ≤ '9') := by
    intro hc
    have : c.isDigit = true := by simpa [Char.isDigit, Char.le_def] using hc
    rw [h] at this
    cases this
  rw [digit?, if_neg hbounds]

/-- All digits of a number below the limit are gathered. -/
theorem gather_append {ds : List Char} (hds : ∀ d ∈ ds, d.isDigit = true) {rest : List Char}
    (hrest : Json.Delimits rest) {n : Nat} (count : Nat) (hlt : Nat.ofDigitChars 10 ds n < limit) :
    gather n count (ds ++ rest) = ⟨Nat.ofDigitChars 10 ds n, count + ds.length, 0, rest⟩ := by
  induction ds generalizing n count with
  | nil =>
      cases rest with
      | nil => rfl
      | cons c cs =>
          rw [List.nil_append, gather, digit?_eq_none (hrest c rfl).1]
          rfl
  | cons d ds ih =>
      have hd : d.isDigit = true := hds d List.mem_cons_self
      rw [Nat.ofDigitChars_cons] at hlt ⊢
      have hle := le_ofDigitChars ds (10 * n + (d.toNat - '0'.toNat))
      rw [List.cons_append, gather, digit?_eq_some hd]
      dsimp only
      rw [if_pos (by omega), Nat.mul_comm n 10,
        ih (fun c hc => hds c (List.mem_cons_of_mem _ hc)) (count + 1) hlt, List.length_cons]
      congr 1
      omega

theorem isDigit_of_mem_digits {n : Nat} : ∀ d ∈ digits n, d.isDigit = true := by
  intro d hd
  exact Nat.isDigit_of_mem_toDigits (by decide) (by decide) hd

/-- A number has a first digit, and only that of zero is zero. -/
theorem digits_eq_cons (n : Nat) :
    ∃ d ds, digits n = d :: ds ∧ d.isDigit = true ∧ (d = '0' → n = 0) := by
  induction n using Nat.strongRecOn with
  | _ n ih =>
      by_cases hn : n < 10
      · have hdigit : ∀ k < 10, (Nat.digitChar k).isDigit = true ∧
            (Nat.digitChar k = '0' → k = 0) := by decide
        exact ⟨Nat.digitChar n, [], Nat.toDigits_of_lt_base hn, hdigit n hn⟩
      · have hle : 10 ≤ n := by omega
        obtain ⟨d, ds, hds, hd, hzero⟩ := ih (n / 10) (by omega)
        refine ⟨d, ds ++ [Nat.digitChar (n % 10)], ?_, hd, fun h => ?_⟩
        · rw [digits] at hds
          rw [digits, Nat.toDigits_of_base_le (by decide) hle, hds]
          rfl
        · have := hzero h
          omega

/-- An integer starts with a minus sign or a digit. -/
theorem renderInt_eq_cons (n : Int) :
    ∃ c cs, renderInt n = c :: cs ∧ (c = '-' ∨ c.isDigit = true) := by
  unfold renderInt
  split
  · exact ⟨'-', _, rfl, .inl rfl⟩
  · obtain ⟨d, ds, hds, hd, -⟩ := digits_eq_cons n.natAbs
    exact ⟨d, ds, hds, .inr hd⟩

/-- The digits of a number below the limit are read as this number. -/
theorem readUnsigned_digits (negative : Bool) {n : Nat} (hn : n < limit) {rest : List Char}
    (hrest : Json.Delimits rest) :
    readUnsigned negative (digits n ++ rest) = some (ofLiteral negative n, rest) := by
  have hvalue : Nat.ofDigitChars 10 (digits n) 0 = n := Nat.ofDigitChars_ten_toDigits
  have hgather : gather 0 0 (digits n ++ rest) = ⟨n, (digits n).length, 0, rest⟩ := by
    rw [gather_append isDigit_of_mem_digits hrest 0 (by rw [hvalue]; exact hn), hvalue,
      Nat.zero_add]
  have hlead : ¬ ((digits n).length = 0 ∨
      ((digits n ++ rest).head? = some '0' ∧ (digits n).length ≠ 1)) := by
    obtain ⟨d, ds, hds, -, hzero⟩ := digits_eq_cons n
    rintro (hnone | ⟨hhead, hone⟩)
    · rw [hds] at hnone
      cases hnone
    · rw [hds] at hhead
      obtain rfl := hzero (Option.some.inj hhead)
      exact hone rfl
  rw [readUnsigned, hgather]
  dsimp only
  rw [if_neg hlead]
  split
  · exact absurd rfl (hrest '.' rfl).2.1
  · exact absurd rfl (hrest 'e' rfl).2.2.1
  · exact absurd rfl (hrest 'E' rfl).2.2.2
  · rw [if_neg (by simp)]

/-- An integer of 64 bits, with or without sign, is read back. -/
theorem read_renderInt {n : Int} (hlow : -9223372036854775808 ≤ n)
    (hhigh : n < 18446744073709551616) {rest : List Char}
    (hrest : Json.Delimits rest) : read (renderInt n ++ rest) = some (.int n, rest) := by
  have hlimit : n.natAbs < limit := by
    show n.natAbs < 18446744073709551616
    omega
  unfold renderInt
  split
  · rename_i hneg
    have hliteral : ofLiteral true n.natAbs = .int n := by
      rw [ofLiteral, if_pos rfl, if_neg (by omega)]
      exact congrArg Number.int (by omega)
    rw [List.cons_append, read, readUnsigned_digits true hlimit hrest, hliteral]
  · rename_i hnonneg
    have hliteral : ofLiteral false n.natAbs = .int n := by
      rw [ofLiteral, if_neg (by decide)]
      exact congrArg Number.int (by omega)
    -- The first digit is not a sign.
    have hsign : ∀ cs, digits n.natAbs ++ rest ≠ '-' :: cs := by
      intro cs heq
      obtain ⟨d, ds, hds, hd, -⟩ := digits_eq_cons n.natAbs
      rw [hds] at heq
      obtain rfl : d = '-' := (List.cons.inj heq).1
      cases hd
    rw [read]
    · rw [readUnsigned_digits false hlimit hrest, hliteral]
    · exact hsign

end Number

end LintBridge
