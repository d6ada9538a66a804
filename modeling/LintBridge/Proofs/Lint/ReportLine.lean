import LintBridge.Lint.Report
import LintBridge.Proofs.Text.Lines

set_option autoImplicit false

/-! # What report lines state

`ReportLine` is the form of the lines that state a violation: a position in parentheses, and
between and behind two colons a word with a rule and a message, with blanks around every part.
Each reader of a part accepts exactly the texts that have the form of the part
(`readInt_eq_some_iff`, `splitHead_eq_some_iff`). The main statement is
`parse_eq_some_iff_reportLine`: a line is read exactly if it is a report line, and what is read is
what the line states.
-/

namespace LintBridge.ReportedViolation

/-! ## Numbers -/

/-- What a sign in front of digits multiplies their value by. -/
inductive Sign : List Char → Int → Prop
  | none : Sign [] 1
  | plus : Sign ['+'] 1
  | minus : Sign ['-'] (-1)

/-- The text `cs` stands for the integer `n` of 64 bits: it is a run of ASCII digits behind an
optional sign. -/
structure Numeral (cs : List Char) (n : Int) : Prop where
  signed : ∃ sign factor ds, Sign sign factor ∧ cs = sign ++ ds ∧ ds ≠ [] ∧
    (∀ d ∈ ds, d.isDigit = true) ∧ n = factor * Nat.ofDigitChars 10 ds 0
  low : -9223372036854775808 ≤ n
  high : n ≤ 9223372036854775807

theorem digitsValue_eq (ds : List Char) : digitsValue ds = Nat.ofDigitChars 10 ds 0 := by
  have hfrom : ∀ n : Nat, ds.foldl (fun n c => n * 10 + (c.toNat - '0'.toNat)) n =
      Nat.ofDigitChars 10 ds n := by
    induction ds with
    | nil => exact fun n => Nat.ofDigitChars_nil.symm
    | cons d ds ih =>
        intro n
        rw [List.foldl_cons, ih, Nat.ofDigitChars_cons, Nat.mul_comm n 10]
  exact hfrom 0

/-- A text starts with the sign that it can start with. -/
theorem exists_sign (cs : List Char) : ∃ sign factor tail, Sign sign factor ∧ cs = sign ++ tail ∧
    (sign = [] → ∀ c ∈ tail.head?, c ≠ '-' ∧ c ≠ '+') := by
  cases cs with
  | nil => exact ⟨[], 1, [], .none, rfl, fun _ => nofun⟩
  | cons c cs =>
      by_cases hminus : c = '-'
      · exact ⟨['-'], -1, cs, .minus, by rw [hminus]; rfl, nofun⟩
      by_cases hplus : c = '+'
      · exact ⟨['+'], 1, cs, .plus, by rw [hplus]; rfl, nofun⟩
      refine ⟨[], 1, c :: cs, .none, rfl, ?_⟩
      rintro - d hd
      obtain rfl : c = d := by simpa using hd
      exact ⟨hminus, hplus⟩

/-- Reading an integer whose sign has been found. -/
theorem readInt_sign {sign tail : List Char} {factor : Int} (h : Sign sign factor)
    (htail : sign = [] → ∀ c ∈ tail.head?, c ≠ '-' ∧ c ≠ '+') :
    readInt (sign ++ tail) =
      let ds := tail.takeWhile Char.isDigit
      let n := factor * digitsValue ds
      if ds = [] ∨ n < -9223372036854775808 ∨ 9223372036854775807 < n then none
      else some (n, tail.dropWhile Char.isDigit) := by
  cases h with
  | plus =>
      simp only [readInt, List.singleton_append, Int.one_mul]
      rfl
  | minus =>
      simp only [readInt, List.singleton_append, Int.neg_one_mul]
      rfl
  | none =>
      have hhead := htail rfl
      simp only [List.nil_append, Int.one_mul]
      cases tail with
      | nil => rfl
      | cons c tail =>
          obtain ⟨hminus, hplus⟩ := hhead c rfl
          unfold readInt
          split
          rename_i hsplit
          split at hsplit
          · rename_i heq
            exact absurd (List.cons.inj heq).1 hminus
          · rename_i heq
            exact absurd (List.cons.inj heq).1 hplus
          · cases hsplit
            rfl

/-- What is read as an integer. -/
theorem readInt_eq_some_iff {cs rest : List Char} {n : Int} :
    readInt cs = some (n, rest) ↔ ∃ numeral, cs = numeral ++ rest ∧ Numeral numeral n ∧
      ∀ c ∈ rest.head?, c.isDigit = false := by
  constructor
  · intro h
    obtain ⟨sign, factor, tail, hsign, rfl, htail⟩ := exists_sign cs
    rw [readInt_sign hsign htail] at h
    dsimp only at h
    split at h
    · cases h
    · rename_i hfits
      cases h
      rw [not_or, not_or, Int.not_lt, Int.not_lt] at hfits
      obtain ⟨hne, hlow, hhigh⟩ := hfits
      obtain ⟨hcut, hdigits, hrest⟩ := Text.takeWhile_dropWhile_iff.mp
        ⟨rfl, (rfl : tail.dropWhile Char.isDigit = _)⟩
      refine ⟨sign ++ tail.takeWhile Char.isDigit, ?_, ⟨⟨sign, factor, _, hsign, rfl, hne, hdigits,
        ?_⟩, hlow, hhigh⟩, hrest⟩
      · rw [List.append_assoc, ← hcut]
      · rw [digitsValue_eq]
  · rintro ⟨_, rfl, ⟨⟨sign, factor, ds, hsign, rfl, hne, hdigits, rfl⟩, hlow, hhigh⟩, hrest⟩
    have htail : sign = [] → ∀ c ∈ (ds ++ rest).head?, c ≠ '-' ∧ c ≠ '+' := by
      obtain ⟨d, ds', rfl⟩ := List.exists_cons_of_ne_nil hne
      rintro - c hc
      obtain rfl : d = c := by simpa using hc
      have hdigit := hdigits d List.mem_cons_self
      constructor
      · rintro rfl
        cases hdigit
      · rintro rfl
        cases hdigit
    obtain ⟨htake, hdrop⟩ := Text.takeWhile_dropWhile_iff.mpr
      ⟨(rfl : ds ++ rest = _), hdigits, hrest⟩
    rw [List.append_assoc, readInt_sign hsign htail]
    dsimp only
    rw [htake, hdrop, digitsValue_eq, if_neg]
    rw [not_or, not_or, Int.not_lt, Int.not_lt]
    exact ⟨hne, hlow, hhigh⟩

/-- A number starts with a sign or a digit. -/
theorem Numeral.exists_cons {cs : List Char} {n : Int} (h : Numeral cs n) :
    ∃ c cs', cs = c :: cs' ∧ Text.isBlank c = false := by
  obtain ⟨sign, factor, ds, hsign, rfl, hne, hdigits, -⟩ := h.signed
  cases hsign with
  | plus => exact ⟨'+', ds, rfl, rfl⟩
  | minus => exact ⟨'-', ds, rfl, rfl⟩
  | none =>
      obtain ⟨d, ds', rfl⟩ := List.exists_cons_of_ne_nil hne
      exact ⟨d, ds', rfl, Text.isBlank_of_isDigit (hdigits d List.mem_cons_self)⟩

/-! ## Parts behind blanks -/

theorem expect_eq_some_iff {c : Char} {cs rest : List Char} :
    expect c cs = some rest ↔ cs = c :: rest := by
  cases cs with
  | nil => exact ⟨nofun, nofun⟩
  | cons d cs =>
      rw [expect]
      split
      · rename_i hd
        rw [hd, Option.some.injEq, List.cons.injEq, eq_self_iff_true, true_and]
      · rename_i hd
        exact ⟨nofun, fun h => absurd (List.cons.inj h).1 hd⟩

/-- An expected character behind blanks. -/
theorem expect_trimStart_eq_some_iff {c : Char} {cs rest : List Char}
    (hc : Text.isBlank c = false) : expect c (Text.trimStart cs) = some rest ↔
      ∃ gap, cs = gap ++ c :: rest ∧ ∀ b ∈ gap, Text.isBlank b = true := by
  rw [expect_eq_some_iff, Text.trimStart_eq_cons_iff hc]

/-- A number behind blanks. -/
theorem readInt_trimStart_eq_some_iff {cs rest : List Char} {n : Int} :
    readInt (Text.trimStart cs) = some (n, rest) ↔ ∃ gap numeral, cs = gap ++ (numeral ++ rest) ∧
      (∀ b ∈ gap, Text.isBlank b = true) ∧ Numeral numeral n ∧
      ∀ c ∈ rest.head?, c.isDigit = false := by
  rw [readInt_eq_some_iff]
  constructor
  · rintro ⟨numeral, hcs, hnumeral, hrest⟩
    obtain ⟨c, numeral', rfl, hc⟩ := hnumeral.exists_cons
    obtain ⟨gap, rfl, hgap⟩ := (Text.trimStart_eq_cons_iff hc).mp hcs
    exact ⟨gap, c :: numeral', rfl, hgap, hnumeral, hrest⟩
  · rintro ⟨gap, numeral, rfl, hgap, hnumeral, hrest⟩
    obtain ⟨c, numeral', rfl, hc⟩ := hnumeral.exists_cons
    exact ⟨c :: numeral', (Text.trimStart_eq_cons_iff hc).mpr ⟨gap, rfl, hgap⟩, hnumeral, hrest⟩

/-- A number ends before blanks with something behind them that is no digit. -/
theorem isDigit_head?_behind_blanks {gap rest : List Char} {c : Char}
    (hgap : ∀ b ∈ gap, Text.isBlank b = true) (hc : c.isDigit = false) :
    ∀ d ∈ (gap ++ c :: rest).head?, d.isDigit = false := by
  cases gap with
  | nil =>
      intro d hd
      obtain rfl : c = d := by simpa using hd
      exact hc
  | cons b gap =>
      intro d hd
      obtain rfl : b = d := by simpa using hd
      have hblank := hgap b List.mem_cons_self
      by_contra hdigit
      rw [Bool.not_eq_false] at hdigit
      rw [Text.isBlank_of_isDigit hdigit] at hblank
      cases hblank

/-! ## Severity and rule -/

/-- The text `head` names a severity by a word, and behind at least one blank a rule. -/
def Names (head word rule : List Char) : Prop :=
  ∃ blank rest, Text.trim head = word ++ blank :: rest ∧ Text.isBlank blank = true ∧
    word ≠ [] ∧ (∀ c ∈ word, Text.isBlank c = false) ∧ rule = Text.trim rest ∧ rule ≠ []

theorem splitHead_eq_some_iff {head word rule : List Char} :
    splitHead head = some (word, rule) ↔ Names head word rule := by
  have hblank : ∀ {b : Char} (rest : List Char), Text.isBlank b = true →
      Text.trim (b :: rest) = Text.trim rest := by
    intro b rest hb
    rw [← List.singleton_append, Text.trim_blank_append (List.forall_mem_singleton.mpr hb)]
  constructor
  · intro h
    unfold splitHead at h
    dsimp only at h
    split at h
    · cases h
    · rename_i hrule
      cases h
      obtain ⟨hcut, hword, hrest⟩ := Text.takeWhile_dropWhile_iff.mp
        ⟨rfl, (rfl : (Text.trim head).dropWhile (!Text.isBlank ·) = _)⟩
      cases hbehind : (Text.trim head).dropWhile (!Text.isBlank ·) with
      | nil =>
          rw [hbehind] at hrule
          exact absurd rfl hrule
      | cons b rest =>
          rw [hbehind] at hcut hrule hrest
          have hb : Text.isBlank b = true := by simpa using hrest b rfl
          rw [hblank rest hb] at hrule ⊢
          refine ⟨b, rest, hcut, hb, ?_, by simpa using hword, rfl, hrule⟩
          -- A trimmed text does not start with a blank, so there is a word.
          intro hnil
          rw [hnil] at hcut
          rw [Text.isBlank_of_head?_trim (congrArg List.head? hcut)] at hb
          cases hb
  · rintro ⟨b, rest, hcut, hb, -, hword, rfl, hrule⟩
    obtain ⟨htake, hdrop⟩ := Text.takeWhile_dropWhile_iff (p := (!Text.isBlank ·)).mpr
      ⟨hcut, by simpa using hword, by simpa using hb⟩
    rw [splitHead, htake, hdrop, hblank rest hb, if_neg hrule]

/-- The severity that a word stands for, by its spelling. -/
theorem ofWord_ofList (word : List Char) : Severity.ofWord (String.ofList word) =
    if word = "error".toList then .error
    else if word = "warning".toList then .warning
    else .information := by
  have hword : ∀ text : String, String.ofList word = text ↔ word = text.toList := by
    intro text
    rw [← String.toList_inj, String.toList_ofList]
  simp only [Severity.ofWord, hword]

/-- The part before the first colon and the part behind it. -/
theorem cut_at_colon_iff {cs head message : List Char} :
    cs.takeWhile (· ≠ ':') = head ∧ expect ':' (cs.dropWhile (· ≠ ':')) = some message ↔
      cs = head ++ ':' :: message ∧ ':' ∉ head := by
  rw [expect_eq_some_iff]
  constructor
  · intro h
    obtain ⟨hcut, hhead, -⟩ := Text.takeWhile_dropWhile_iff.mp h
    exact ⟨hcut, fun hmem => absurd (hhead ':' hmem) (by decide)⟩
  · rintro ⟨rfl, hhead⟩
    exact Text.takeWhile_dropWhile_sep hhead message

/-! ## Report lines -/

/-- A line that states a violation, in its parts. The texts of the numbers stand between gaps, which
hold nothing but blanks. -/
structure ReportLine where
  beforeLine : List Char
  lineText : List Char
  afterLine : List Char
  beforeColumn : List Char
  columnText : List Char
  afterColumn : List Char
  beforeColon : List Char
  /-- The word for the severity and the rule, with what stands around them. -/
  head : List Char
  message : List Char
  line : Int
  column : Int
  word : List Char
  rule : List Char
  gaps_blank : ∀ gap ∈ [beforeLine, afterLine, beforeColumn, afterColumn, beforeColon],
    ∀ c ∈ gap, Text.isBlank c = true
  line_numeral : Numeral lineText line
  column_numeral : Numeral columnText column
  head_whole : ':' ∉ head
  head_names : Names head word rule
  message_whole : '\n' ∉ message

namespace ReportLine

/-- The text of a report line. -/
def chars (l : ReportLine) : List Char :=
  '(' :: (l.beforeLine ++ (l.lineText ++ (l.afterLine ++ ',' :: (l.beforeColumn ++
    (l.columnText ++ (l.afterColumn ++ ')' :: (l.beforeColon ++ ':' ::
      (l.head ++ ':' :: l.message))))))))

/-- What a report line states. Its word stands for an error or a warning in these spellings, and
in every other one for information. -/
def stated (l : ReportLine) : ReportedViolation where
  line := l.line
  column := l.column
  severity :=
    if l.word = "error".toList then .error
    else if l.word = "warning".toList then .warning
    else .information
  rule := String.ofList l.rule
  message := String.ofList (Text.trim l.message)

end ReportLine

/-- The readers of the parts, one after the other, accept the parts of a report line. -/
theorem ofChars?_eq_some_iff {cs : List Char} {r : ReportedViolation} :
    ofChars? cs = some r ↔ ∃ l : ReportLine, cs = l.chars ∧ r = l.stated := by
  constructor
  · intro h
    simp only [ofChars?, Option.bind_eq_bind, Option.bind_eq_some_iff, Prod.exists] at h
    obtain ⟨cs₁, hopen, line, cs₂, hline, cs₃, hcomma, column, cs₄, hcolumn, cs₅, hclose, cs₆,
      hcolon, word, rule, hhead, message, hmessage, h⟩ := h
    obtain rfl := expect_eq_some_iff.mp hopen
    obtain ⟨beforeLine, lineText, rfl, hbeforeLine, hlineText, -⟩ :=
      readInt_trimStart_eq_some_iff.mp hline
    obtain ⟨afterLine, rfl, hafterLine⟩ := (expect_trimStart_eq_some_iff rfl).mp hcomma
    obtain ⟨beforeColumn, columnText, rfl, hbeforeColumn, hcolumnText, -⟩ :=
      readInt_trimStart_eq_some_iff.mp hcolumn
    obtain ⟨afterColumn, rfl, hafterColumn⟩ := (expect_trimStart_eq_some_iff rfl).mp hclose
    obtain ⟨beforeColon, rfl, hbeforeColon⟩ := (expect_trimStart_eq_some_iff rfl).mp hcolon
    obtain ⟨hcut, hwhole⟩ := cut_at_colon_iff.mp ⟨rfl, hmessage⟩
    split at h
    · cases h
    · rename_i hlf
      cases h
      refine ⟨⟨beforeLine, lineText, afterLine, beforeColumn, columnText, afterColumn, beforeColon,
        _, message, line, column, word, rule, ?_, hlineText, hcolumnText, hwhole,
        splitHead_eq_some_iff.mp hhead, hlf⟩, ?_, ?_⟩
      · simp only [List.forall_mem_cons, List.not_mem_nil, false_implies, implies_true, and_true]
        exact ⟨hbeforeLine, hafterLine, hbeforeColumn, hafterColumn, hbeforeColon⟩
      · rw [ReportLine.chars, ← hcut]
      · rw [ofWord_ofList]
        rfl
  · rintro ⟨l, rfl, rfl⟩
    have hgaps := l.gaps_blank
    simp only [List.forall_mem_cons, List.not_mem_nil, false_implies, implies_true, and_true]
      at hgaps
    obtain ⟨hbeforeLine, hafterLine, hbeforeColumn, hafterColumn, hbeforeColon⟩ := hgaps
    obtain ⟨htake, hdrop⟩ := cut_at_colon_iff.mpr
      ⟨(rfl : l.head ++ ':' :: l.message = _), l.head_whole⟩
    simp only [ofChars?, Option.bind_eq_bind, Option.bind_eq_some_iff, Prod.exists]
    refine ⟨_, expect_eq_some_iff.mpr rfl,
      l.line, _, readInt_trimStart_eq_some_iff.mpr ⟨l.beforeLine, l.lineText, rfl, hbeforeLine,
        l.line_numeral, isDigit_head?_behind_blanks hafterLine rfl⟩,
      _, (expect_trimStart_eq_some_iff rfl).mpr ⟨l.afterLine, rfl, hafterLine⟩,
      l.column, _, readInt_trimStart_eq_some_iff.mpr ⟨l.beforeColumn, l.columnText, rfl,
        hbeforeColumn, l.column_numeral, isDigit_head?_behind_blanks hafterColumn rfl⟩,
      _, (expect_trimStart_eq_some_iff rfl).mpr ⟨l.afterColumn, rfl, hafterColumn⟩,
      _, (expect_trimStart_eq_some_iff rfl).mpr ⟨l.beforeColon, rfl, hbeforeColon⟩,
      l.word, l.rule, ?_, l.message, hdrop, ?_⟩
    · rw [htake, splitHead_eq_some_iff]
      exact l.head_names
    · rw [if_neg l.message_whole, ofWord_ofList]
      rfl

/-- **The reader accepts exactly the report lines.** A line is read if it has the form of a report
line, and what is read is what it states, however its parts are told apart. Every other line is
left out. -/
theorem parse_eq_some_iff_reportLine (s : String) :
    (∀ r, parse? s = some r ↔ ∃ l : ReportLine, s.toList = l.chars ∧ r = l.stated) ∧
      (parse? s = none ↔ ∀ l : ReportLine, s.toList ≠ l.chars) := by
  have hread : ∀ r, parse? s = some r ↔ ∃ l : ReportLine, s.toList = l.chars ∧ r = l.stated :=
    fun r => ofChars?_eq_some_iff
  refine ⟨hread, ?_⟩
  constructor
  · intro hnone l hl
    have hsome := (hread l.stated).mpr ⟨l, hl, rfl⟩
    cases hnone.symm.trans hsome
  · intro hno
    cases hr : parse? s with
    | none => rfl
    | some r =>
        obtain ⟨l, hl, -⟩ := (hread r).mp hr
        exact absurd hl (hno l)

example : parse? "( +3, 07 ) : warning two words: a:b " =
    some ⟨3, 7, .warning, "two words", "a:b"⟩ := by decide +kernel

end LintBridge.ReportedViolation
