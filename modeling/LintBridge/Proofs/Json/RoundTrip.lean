import LintBridge.Proofs.Json.Text
import LintBridge.Proofs.Text.Utf8

set_option autoImplicit false

/-! # Reading undoes printing

A *plain* value holds no floating-point numbers, its integers are those of 64 bits with or
without sign, the fields of its objects are in the order of their keys, and its arrays and
objects nest only so deep. Every plain value is read back from the front of any text that does
not continue a number (`Plain.reads`), by induction on how it is built; the lists inside arrays
and objects have a lemma of their own (`readItems_text`, `readFields_text`). The main statement
is `parse?_print`.
-/

namespace LintBridge.Json

/-! ## Plain values -/

/-- Values without floating-point numbers in which arrays and objects nest at most `depth`
deep. -/
inductive Plain : (depth : Nat) → Json → Prop
  | null {depth : Nat} : Plain depth .null
  | bool {depth : Nat} (b : Bool) : Plain depth (.bool b)
  | int {depth : Nat} {n : Int} (low : -9223372036854775808 ≤ n)
      (high : n < 18446744073709551616) : Plain depth (.int n)
  | string {depth : Nat} (s : String) : Plain depth (.string s)
  | array {depth : Nat} {items : List Json} (plain : ∀ v ∈ items, Plain depth v) :
      Plain (depth + 1) (.array items)
  | object {depth : Nat} {fields : List (String × Json)} (ordered : Fields.Ordered fields)
      (plain : ∀ f ∈ fields, Plain depth f.2) : Plain (depth + 1) (.object fields)

theorem Fields.lastOfEach_eq_self {fields : List (String × Json)} (h : Ordered fields) :
    lastOfEach fields = fields := by
  induction fields with
  | nil => rfl
  | cons field fields ih =>
      obtain ⟨hfirst, hrest⟩ := List.pairwise_cons.mp h
      have ih := ih hrest
      unfold lastOfEach at ih ⊢
      rw [List.foldr_cons, ih]
      cases fields with
      | nil => rfl
      | cons next rest =>
          have hne : field.1 ≠ next.1 := by
            intro heq
            have hlt := hfirst next List.mem_cons_self
            rw [heq] at hlt
            exact String.lt_irrefl _ hlt
          exact if_neg hne

/-- Fields that are in order stay as they are. -/
theorem Fields.ofList_eq_self {fields : List (String × Json)} (h : Ordered fields) :
    ofList fields = fields := by
  have hsorted : fields.Pairwise (fun a b => decide (a.1 ≤ b.1) = true) := by
    refine List.Pairwise.imp ?_ h
    intro a b hlt
    exact decide_eq_true (String.not_lt.mp (String.lt_asymm hlt))
  rw [ofList, List.mergeSort_of_pairwise hsorted, lastOfEach_eq_self h]

/-! ## What stands at the front of a text -/

/-- The value `v` is read from the front of a text, whatever follows, if that does not continue
a number. -/
def Reads (depth : Nat) (v : Json) : Prop :=
  ∀ (fuel : Nat) (rest : List Char), 2 * (text v).length ≤ fuel → Delimits rest →
    readValue depth fuel (text v ++ rest) = some (v, rest)

theorem skipSpace_cons {c : Char} (h : isSpace c = false) (cs : List Char) :
    skipSpace (c :: cs) = c :: cs :=
  List.dropWhile_cons_of_neg (by simp [h])

/-- The first character of an integer is no other than a minus sign or a digit. -/
theorem ne_of_starts_int {c d : Char} (h : c = '-' ∨ c.isDigit = true)
    (hd : d ≠ '-' ∧ d.isDigit = false) : c ≠ d := by
  rintro rfl
  rcases h with rfl | h
  · exact hd.1 rfl
  · rw [hd.2] at h
    cases h

theorem isSpace_of_starts_int {c : Char} (h : c = '-' ∨ c.isDigit = true) :
    isSpace c = false := by
  simp only [isSpace, Bool.or_eq_false_iff, decide_eq_false_iff_not]
  exact ⟨⟨⟨ne_of_starts_int h (by decide), ne_of_starts_int h (by decide)⟩,
    ne_of_starts_int h (by decide)⟩, ne_of_starts_int h (by decide)⟩

/-- The text of a plain value starts with a character that is neither a space nor closes an
array. -/
theorem text_eq_cons {depth : Nat} {v : Json} (h : Plain depth v) :
    ∃ c cs, text v = c :: cs ∧ isSpace c = false ∧ c ≠ ']' := by
  cases h with
  | null => exact ⟨_, _, rfl, by decide, by decide⟩
  | bool b => cases b <;> exact ⟨_, _, rfl, by decide, by decide⟩
  | @int _ n low high =>
      obtain ⟨c, cs, hcs, hc⟩ := Number.renderInt_eq_cons n
      exact ⟨c, cs, hcs, isSpace_of_starts_int hc, ne_of_starts_int hc (by decide)⟩
  | string s => exact ⟨_, _, rfl, by decide, by decide⟩
  | array plain => exact ⟨_, _, rfl, by decide, by decide⟩
  | object ordered plain => exact ⟨_, _, rfl, by decide, by decide⟩

/-! ## Values without parts -/

theorem reads_int {depth : Nat} {n : Int} (hlow : -9223372036854775808 ≤ n)
    (hhigh : n < 18446744073709551616) :
    Reads depth (.int n) := by
  intro fuel rest hfuel hrest
  have hread := Number.read_renderInt hlow hhigh hrest
  obtain ⟨c, cs, hcs, hc⟩ := Number.renderInt_eq_cons n
  have htext : text (.int n) = c :: cs := hcs
  rw [htext, List.length_cons] at hfuel
  rw [hcs] at hread
  obtain ⟨fuel, rfl⟩ : ∃ f, fuel = f + 1 := Nat.exists_eq_add_one.mpr (by omega)
  rw [htext, List.cons_append, readValue, skipSpace_cons (isSpace_of_starts_int hc)]
  split
  case h_7 =>
      rw [← List.cons_append, hread]
      rfl
  -- No value of another kind starts like a number.
  all_goals
    rename_i heq
    exact absurd (List.cons.inj heq).1 (ne_of_starts_int hc (by decide))

theorem reads_string {depth : Nat} (s : String) : Reads depth (.string s) := by
  intro fuel rest hfuel hrest
  have hlength : 2 ≤ (textString s).length := by simp [textString]
  rw [text] at hfuel ⊢
  obtain ⟨fuel, rfl⟩ : ∃ f, fuel = f + 1 := Nat.exists_eq_add_one.mpr (by omega)
  have hfuel' : (textString s).length ≤ fuel + 1 := by omega
  obtain ⟨cs, hcs, hread⟩ := readString_text s rest hfuel'
  rw [hcs, readValue, skipSpace_cons (by decide)]
  show (readString [] fuel cs).map _ = _
  rw [hread]
  rfl

theorem reads_null {depth : Nat} : Reads depth .null := by
  intro fuel rest hfuel hrest
  simp only [text, List.length_cons] at hfuel
  obtain ⟨fuel, rfl⟩ : ∃ f, fuel = f + 1 := Nat.exists_eq_add_one.mpr (by omega)
  rfl

theorem reads_bool {depth : Nat} (b : Bool) : Reads depth (.bool b) := by
  intro fuel rest hfuel hrest
  have hpos : 0 < fuel := by
    cases b <;> simp only [text, List.length_cons] at hfuel <;> omega
  obtain ⟨fuel, rfl⟩ := Nat.exists_eq_add_one.mpr hpos
  cases b <;> rfl

/-! ## Lists of values -/

/-- The items of an array, from the text of the first one on. -/
theorem readItems_text {depth : Nat} {v : Json} {items : List Json} (hv : Reads depth v)
    (hitems : ∀ w ∈ items, Reads depth w) (done : List Json) (rest : List Char) {fuel : Nat}
    (hfuel : 2 * (text v ++ textItems false items).length < fuel) :
    readItems depth done fuel (text v ++ textItems false items ++ ']' :: rest) =
      some (.array (done.reverse ++ v :: items), rest) := by
  obtain ⟨fuel, rfl⟩ : ∃ f, fuel = f + 1 := Nat.exists_eq_add_one.mpr (by omega)
  rw [List.length_append] at hfuel
  induction items generalizing v done fuel with
  | nil =>
      rw [textItems, List.append_nil, readItems,
        hv fuel _ (by omega) (delimits_cons (c := ']') (by decide) rest)]
      dsimp only
      rw [skipSpace_cons (by decide)]
      simp
  | cons w items ih =>
      have hw := hitems w List.mem_cons_self
      have htext : textItems false (w :: items) = ',' :: (text w ++ textItems false items) := rfl
      rw [htext] at hfuel ⊢
      rw [List.length_cons, List.length_append] at hfuel
      rw [List.append_assoc, readItems, List.cons_append,
        hv fuel _ (by omega) (delimits_cons (c := ',') (by decide) _)]
      dsimp only
      rw [skipSpace_cons (by decide)]
      obtain ⟨fuel, rfl⟩ : ∃ f, fuel = f + 1 := Nat.exists_eq_add_one.mpr (by omega)
      show readItems depth (v :: done) (fuel + 1) _ = _
      rw [ih hw (fun u hu => hitems u (List.mem_cons_of_mem _ hu)) (v :: done) fuel (by omega)]
      simp

/-- The fields of an object, from the text of the first one on. -/
theorem readFields_text {depth : Nat} {key : String} {v : Json} {fields : List (String × Json)}
    (hv : Reads depth v) (hfields : ∀ f ∈ fields, Reads depth f.2)
    (done : List (String × Json)) (rest : List Char) {fuel : Nat}
    (hfuel : 2 * (textString key ++ ':' :: text v ++ textFields false fields).length < fuel) :
    readFields depth done fuel
        (textString key ++ ':' :: text v ++ textFields false fields ++ '}' :: rest) =
      some (ofFields (done.reverse ++ (key, v) :: fields), rest) := by
  obtain ⟨fuel, rfl⟩ : ∃ f, fuel = f + 1 := Nat.exists_eq_add_one.mpr (by omega)
  simp only [List.length_append, List.length_cons] at hfuel
  induction fields generalizing key v done fuel with
  | nil =>
      have hlength : (textString key).length ≤ fuel + 1 := by omega
      obtain ⟨cs, hcs, hkey⟩ := readString_text key (':' :: (text v ++ '}' :: rest)) hlength
      have htext : textString key ++ ':' :: text v ++ textFields false [] ++ '}' :: rest =
          '"' :: cs := by
        rw [← hcs, textFields]
        simp
      rw [htext, readFields, skipSpace_cons (by decide)]
      simp only [hkey]
      rw [skipSpace_cons (by decide)]
      simp only [hv fuel _ (by omega) (delimits_cons (c := '}') (by decide) rest)]
      rw [skipSpace_cons (by decide)]
      simp
  | cons field fields ih =>
      obtain ⟨key', v'⟩ := field
      have hv' : Reads depth v' := hfields (key', v') List.mem_cons_self
      have hmore : textFields false ((key', v') :: fields) =
          ',' :: (textString key' ++ ':' :: text v' ++ textFields false fields) := rfl
      rw [hmore] at hfuel ⊢
      simp only [List.length_append, List.length_cons] at hfuel
      have hlength : (textString key).length ≤ fuel + 1 := by omega
      obtain ⟨cs, hcs, hkey⟩ := readString_text key (':' :: (text v ++ ',' ::
        (textString key' ++ ':' :: text v' ++ textFields false fields ++ '}' :: rest))) hlength
      have htext : textString key ++ ':' :: text v ++ ',' ::
          (textString key' ++ ':' :: text v' ++ textFields false fields) ++ '}' :: rest =
          '"' :: cs := by
        rw [← hcs]
        simp
      rw [htext, readFields, skipSpace_cons (by decide)]
      simp only [hkey]
      rw [skipSpace_cons (by decide)]
      simp only [hv fuel _ (by omega) (delimits_cons (c := ',') (by decide) _)]
      rw [skipSpace_cons (by decide)]
      obtain ⟨fuel, rfl⟩ : ∃ f, fuel = f + 1 := Nat.exists_eq_add_one.mpr (by omega)
      show readFields depth ((key, v) :: done) (fuel + 1) _ = _
      rw [ih hv' (fun f hf => hfields f (List.mem_cons_of_mem _ hf)) ((key, v) :: done) fuel
        (by omega)]
      simp

/-! ## All values -/

theorem readValue_bracket (depth fuel : Nat) (cs : List Char) :
    readValue (depth + 1) (fuel + 1) ('[' :: cs) = match skipSpace cs with
      | ']' :: rest => some (.array [], rest)
      | rest => readItems depth [] fuel rest := rfl

theorem readValue_brace (depth fuel : Nat) (cs : List Char) :
    readValue (depth + 1) (fuel + 1) ('{' :: cs) = match skipSpace cs with
      | '}' :: rest => some (.object [], rest)
      | rest => readFields depth [] fuel rest := rfl

theorem reads_array {depth : Nat} {items : List Json} (hplain : ∀ v ∈ items, Plain depth v)
    (hreads : ∀ v ∈ items, Reads depth v) : Reads (depth + 1) (.array items) := by
  intro fuel rest hfuel hrest
  rw [text] at hfuel ⊢
  simp only [List.length_cons, List.length_append, List.length_nil] at hfuel
  obtain ⟨fuel, rfl⟩ : ∃ f, fuel = f + 1 := Nat.exists_eq_add_one.mpr (by omega)
  cases items with
  | nil => rfl
  | cons v items =>
      have hitems : textItems true (v :: items) = text v ++ textItems false items := rfl
      rw [hitems] at hfuel ⊢
      have hlength : 2 * (text v ++ textItems false items).length < fuel := by omega
      have hread := readItems_text (hreads v List.mem_cons_self)
        (fun w hw => hreads w (List.mem_cons_of_mem _ hw)) [] rest hlength
      obtain ⟨c, cs, hcs, hspace, hne⟩ := text_eq_cons (hplain v List.mem_cons_self)
      have htext : '[' :: (text v ++ textItems false items) ++ [']'] ++ rest =
          '[' :: (text v ++ textItems false items ++ ']' :: rest) := by simp
      rw [htext, readValue_bracket]
      rw [hcs] at hread ⊢
      rw [List.cons_append, List.cons_append, skipSpace_cons hspace]
      -- The first item does not look like the end of an empty array.
      split
      · rename_i heq
        exact absurd (List.cons.inj heq).1 hne
      · exact hread

theorem reads_object {depth : Nat} {fields : List (String × Json)}
    (hordered : Fields.Ordered fields) (hreads : ∀ f ∈ fields, Reads depth f.2) :
    Reads (depth + 1) (.object fields) := by
  intro fuel rest hfuel hrest
  rw [text] at hfuel ⊢
  simp only [List.length_cons, List.length_append, List.length_nil] at hfuel
  obtain ⟨fuel, rfl⟩ : ∃ f, fuel = f + 1 := Nat.exists_eq_add_one.mpr (by omega)
  cases fields with
  | nil => rfl
  | cons field fields =>
      obtain ⟨key, v⟩ := field
      have hv : Reads depth v := hreads (key, v) List.mem_cons_self
      have hfields : textFields true ((key, v) :: fields) =
          textString key ++ ':' :: text v ++ textFields false fields := rfl
      rw [hfields] at hfuel ⊢
      have hlength : 2 * (textString key ++ ':' :: text v ++ textFields false fields).length <
          fuel := by omega
      have hread := readFields_text hv (fun f hf => hreads f (List.mem_cons_of_mem _ hf)) [] rest
        hlength
      have htext : '{' :: (textString key ++ ':' :: text v ++ textFields false fields) ++ ['}'] ++
          rest = '{' :: '"' :: (key.toList.flatMap escape ++ '"' :: ':' :: (text v ++
            (textFields false fields ++ '}' :: rest))) := by simp [textString]
      have htext' : textString key ++ ':' :: text v ++ textFields false fields ++ '}' :: rest =
          '"' :: (key.toList.flatMap escape ++ '"' :: ':' :: (text v ++
            (textFields false fields ++ '}' :: rest))) := by simp [textString]
      rw [htext'] at hread
      rw [htext, readValue_brace, skipSpace_cons (by decide)]
      show readFields depth [] fuel _ = _
      rw [hread, List.reverse_nil, List.nil_append, ofFields, Fields.ofList_eq_self hordered]

/-- Every plain value is read back from the front of a text. -/
theorem Plain.reads {depth : Nat} {v : Json} (h : Plain depth v) : Reads depth v := by
  induction h with
  | null => exact reads_null
  | bool b => exact reads_bool b
  | int low high => exact reads_int low high
  | string s => exact reads_string s
  | array plain ih => exact reads_array plain ih
  | object ordered plain ih => exact reads_object ordered ih

/-- **Reading undoes printing**, for plain values that nest no deeper than the reader goes. -/
theorem parse?_print {v : Json} (h : Plain maxDepth v) : parse? (print v) = some v := by
  have hread := h.reads (2 * (text v).length + 2) [] (by omega) delimits_nil
  rw [List.append_nil] at hread
  rw [parse?, print_eq_text, hread]
  rfl

theorem ofBytes?_encode_print {v : Json} (h : Plain maxDepth v) :
    ofBytes? (Text.Utf8.encode (print v)) = some v := by
  rw [ofBytes?, Text.Utf8.decode_encode]
  exact parse?_print h

end LintBridge.Json
