import LintBridge.Proofs.Lint.ReportLine
import LintBridge.Proofs.Lint.TempName

set_option autoImplicit false

/-! # The path in front of a report line

The linter puts the path of the linted file in front of each report line, and the path is cut off
at the first opening parenthesis. So it must not hold one itself (`reportPart_behind_iff`). Of the
name of a temporary file, the extension is the part that a client chooses. The main statement is
`report_behind_path_iff`: a violation is read behind the path of a temporary file exactly if the
extension for its document holds no opening parenthesis.
-/

namespace LintBridge

/-! ## The form of report lines -/

namespace ReportedViolation

theorem Numeral.notMem {cs : List Char} {n : Int} (h : Numeral cs n) {c : Char}
    (hdigit : c.isDigit = false) (hplus : c ≠ '+') (hminus : c ≠ '-') : c ∉ cs := by
  obtain ⟨sign, factor, ds, hsign, rfl, -, hdigits, -⟩ := h.signed
  have hds : c ∉ ds := by
    intro hmem
    rw [hdigits c hmem] at hdigit
    cases hdigit
  cases hsign with
  | none => exact hds
  | plus => exact List.not_mem_cons_of_ne_of_not_mem hplus hds
  | minus => exact List.not_mem_cons_of_ne_of_not_mem hminus hds

namespace ReportLine

/-- What a report line holds between its opening parenthesis and its first colon. -/
def place (l : ReportLine) : List Char :=
  l.beforeLine ++ l.lineText ++ l.afterLine ++ [','] ++ l.beforeColumn ++ l.columnText ++
    l.afterColumn ++ [')'] ++ l.beforeColon

theorem chars_eq (l : ReportLine) :
    l.chars = '(' :: l.place ++ ':' :: (l.head ++ ':' :: l.message) := by
  simp only [chars, place, List.append_assoc, List.cons_append, List.nil_append]

theorem notMem_place (l : ReportLine) {c : Char} (hblank : Text.isBlank c = false)
    (hdigit : c.isDigit = false) (hsigns : c ∉ ['+', '-', ',', ')']) : c ∉ l.place := by
  simp only [List.mem_cons, List.not_mem_nil, or_false, not_or] at hsigns
  obtain ⟨hplus, hminus, hcomma, hclose⟩ := hsigns
  have hgap : ∀ gap ∈ [l.beforeLine, l.afterLine, l.beforeColumn, l.afterColumn, l.beforeColon],
      c ∉ gap := by
    intro gap hmem hc
    rw [l.gaps_blank gap hmem c hc] at hblank
    cases hblank
  simp only [List.forall_mem_cons, List.not_mem_nil, false_implies, implies_true, and_true] at hgap
  obtain ⟨hbeforeLine, hafterLine, hbeforeColumn, hafterColumn, hbeforeColon⟩ := hgap
  have hline := l.line_numeral.notMem hdigit hplus hminus
  have hcolumn := l.column_numeral.notMem hdigit hplus hminus
  simp only [place, List.mem_append, List.mem_singleton, hbeforeLine, hline, hafterLine, hcomma,
    hbeforeColumn, hcolumn, hafterColumn, hclose, hbeforeColon, or_self, not_false_eq_true]

theorem colon_notMem_place (l : ReportLine) : ':' ∉ l.place :=
  l.notMem_place rfl rfl (by decide)

theorem parenthesis_notMem_place (l : ReportLine) : '(' ∉ l.place :=
  l.notMem_place rfl rfl (by decide)

/-- The colons of a report line are the two that divide it and those of the message. -/
theorem count_colon (l : ReportLine) :
    l.chars.count ':' = (Text.trim l.message).count ':' + 2 := by
  have hplace : l.place.count ':' = 0 := List.count_eq_zero.mpr l.colon_notMem_place
  have hhead : l.head.count ':' = 0 := List.count_eq_zero.mpr l.head_whole
  have hopen : ('(' :: l.place).count ':' = l.place.count ':' := List.count_cons_of_ne (by decide)
  rw [l.chars_eq, Text.count_trim rfl, List.count_append, hopen, List.count_cons_self,
    List.count_append, List.count_cons_self, hplace, hhead]
  omega

/-- A report line without the blanks at its end. -/
def trimmed (l : ReportLine) : ReportLine :=
  { l with
    message := Text.trimEnd l.message
    message_whole := fun h => l.message_whole (by
      obtain ⟨bs, hmessage, -⟩ := Text.trimEnd_append l.message
      rw [← hmessage]
      exact List.mem_append_left bs h) }

theorem chars_trimmed (l : ReportLine) : l.trimmed.chars = Text.trimEnd l.chars := by
  have hcut : l.chars = ('(' :: l.place ++ ':' :: l.head) ++ ':' :: l.message := by
    rw [l.chars_eq]
    simp only [List.append_assoc, List.cons_append]
  rw [hcut, Text.trimEnd_append_cons rfl, l.trimmed.chars_eq]
  simp only [List.append_assoc, List.cons_append]
  rfl

theorem stated_trimmed (l : ReportLine) : l.trimmed.stated = l.stated := by
  have hmessage : Text.trim l.trimmed.message = Text.trim l.message := Text.trim_trimEnd l.message
  rw [stated, stated, hmessage]
  rfl

end ReportLine

/-- Blanks at the end of a report line belong to its message, where they do not count. -/
theorem ofChars?_trimEnd {v : List Char} {r : ReportedViolation} (hv : ofChars? v = some r) :
    ofChars? (Text.trimEnd v) = some r := by
  obtain ⟨l, rfl, rfl⟩ := ofChars?_eq_some_iff.mp hv
  exact ofChars?_eq_some_iff.mpr ⟨l.trimmed, l.chars_trimmed.symm, l.stated_trimmed.symm⟩

/-- Lines that state the same have equally many colons. -/
theorem count_colon_eq {cs cs' : List Char} {r : ReportedViolation} (h : ofChars? cs = some r)
    (h' : ofChars? cs' = some r) : cs.count ':' = cs'.count ':' := by
  obtain ⟨l, rfl, rfl⟩ := ofChars?_eq_some_iff.mp h
  obtain ⟨l', rfl, hstated⟩ := ofChars?_eq_some_iff.mp h'
  have hmessage : Text.trim l.message = Text.trim l'.message :=
    String.ofList_injective (congrArg ReportedViolation.message hstated)
  rw [l.count_colon, l'.count_colon, hmessage]

end ReportedViolation

/-! ## Cutting off a path -/

section

open ReportedViolation

variable {path v w : List Char} {r : ReportedViolation}

/-- Behind a path, what is read starts at the first opening parenthesis. -/
theorem reportPart_of_opening {front rest : List Char} (h : '(' ∉ front) :
    reportPart? (front ++ '(' :: rest) = some (Text.trimEnd ('(' :: rest)) := by
  rw [reportPart?, (Text.takeWhile_dropWhile_sep h rest).2]

/-- Behind another opening parenthesis a report line is not read as what it states. -/
theorem ofChars?_behind_parenthesis (hv : ofChars? v = some r) (behind w : List Char) :
    ofChars? (Text.trimEnd ('(' :: (behind ++ v ++ w))) ≠ some r := by
  intro hread
  have hcolons := count_colon_eq hread hv
  rw [Text.count_trimEnd rfl] at hcolons
  -- The whole has the colons of the report line, so that there are none in front of it.
  have hbehind : behind.count ':' = 0 := by
    rw [List.count_cons_of_ne (by decide), List.count_append, List.count_append] at hcolons
    omega
  -- So its first colon is that of the report line, and a second parenthesis stands before it.
  obtain ⟨l, rfl, -⟩ := ofChars?_eq_some_iff.mp hv
  obtain ⟨l', hl', -⟩ := ofChars?_eq_some_iff.mp hread
  have hcut : '(' :: (behind ++ l.chars ++ w) = ('(' :: behind ++ '(' :: l.place) ++
      ':' :: (l.head ++ ':' :: l.message ++ w) := by
    simp only [l.chars_eq, List.append_assoc, List.cons_append]
  have hfirst : ':' ∉ '(' :: behind ++ '(' :: l.place := by
    rw [List.mem_append, not_or]
    exact ⟨List.not_mem_cons_of_ne_of_not_mem (by decide) (List.count_eq_zero.mp hbehind),
      List.not_mem_cons_of_ne_of_not_mem (by decide) l.colon_notMem_place⟩
  have hfirst' : ':' ∉ '(' :: l'.place :=
    List.not_mem_cons_of_ne_of_not_mem (by decide) l'.colon_notMem_place
  rw [hcut, Text.trimEnd_append_cons rfl, l'.chars_eq] at hl'
  have hplace := Text.front_eq_of_append_sep hfirst hfirst' hl'
  have hsecond : '(' ∈ l'.place := by
    rw [← (List.cons.inj hplace).2]
    simp
  exact l'.parenthesis_notMem_place hsecond

/-- A report line is read behind a path exactly if there is no opening parenthesis in the path. -/
theorem reportPart_behind_iff (hv : ofChars? v = some r) (hw : ∀ c ∈ w, Text.isBlank c = true) :
    (∃ part, reportPart? (path ++ v ++ w) = some part ∧ ofChars? part = ofChars? v) ↔
      '(' ∉ path := by
  constructor
  · rintro ⟨part, hpart, hread⟩ hmem
    -- What is read starts in the path.
    obtain ⟨front, behind, rfl, hfront⟩ : ∃ front behind, path = front ++ '(' :: behind ∧
        '(' ∉ front := List.eq_append_cons_of_mem hmem
    have hline : front ++ '(' :: behind ++ v ++ w = front ++ '(' :: (behind ++ v ++ w) := by
      simp only [List.append_assoc, List.cons_append]
    rw [hline, reportPart_of_opening hfront] at hpart
    cases hpart
    exact ofChars?_behind_parenthesis hv behind w (hread.trans hv)
  · intro hpath
    obtain ⟨l, rfl, -⟩ := ofChars?_eq_some_iff.mp hv
    have hline : path ++ l.chars ++ w = path ++ '(' :: (l.chars.tail ++ w) := by
      simp only [l.chars_eq, List.append_assoc, List.cons_append, List.tail_cons]
    refine ⟨Text.trimEnd l.chars, ?_, by rw [ofChars?_trimEnd hv, hv]⟩
    rw [hline, reportPart_of_opening hpath, ← List.cons_append]
    exact congrArg some (Text.trimEnd_append_blank hw)

end

/-! ## Temporary files -/

theorem TempFile.parenthesis_mem_name {unique extension : List Char} (h : '(' ∉ unique) :
    '(' ∈ name unique extension ↔ '(' ∈ extension :=
  mem_name_iff (by decide) (by decide) h

/-- What an extension holds comes from the URI or from the default, except for the signs of
paths. -/
theorem TempFile.mem_of_mem_extensionChars {uri fallback : List Char} {c : Char}
    (hc : c ∈ extensionChars uri fallback) : c ∈ uri ∨ c ∈ fallback ∨ c ∈ Url.pathSigns := by
  rcases piece_of_mem_extensionChars hc with ⟨path, piece, hpath, hpiece, hmem⟩ | hfallback
  · rcases Url.drawn_of_path hpath c (Text.subset_of_mem_splitAt hpiece hmem) with huri | hsign
    · exact .inl huri.1
    · exact .inr (.inr hsign)
  · exact .inr (.inl hfallback)

/-- **A violation is lost behind the path of a file if the extension holds an opening
parenthesis, and only then.** Let the directory and the unique part of the name of a temporary
file be without opening parentheses. A line that states a violation, with the path of the file in
front of it and blanks behind it, is read as what it states exactly if there is none in the
extension for the document either. A parenthesis in the extension stands in the URI or in the
default, so that nothing is lost if these hold none. -/
theorem report_behind_path_iff {dir unique uri fallback v w : List Char} {r : ReportedViolation}
    (hdir : '(' ∉ dir) (hunique : '(' ∉ unique) (hv : ReportedViolation.ofChars? v = some r)
    (hw : ∀ c ∈ w, Text.isBlank c = true) :
    ((∃ part, reportPart? (dir ++ '/' ::
          TempFile.name unique (TempFile.extensionChars uri fallback) ++ v ++ w) = some part ∧
        ReportedViolation.ofChars? part = ReportedViolation.ofChars? v) ↔
      '(' ∉ TempFile.extensionChars uri fallback) ∧
      ('(' ∈ TempFile.extensionChars uri fallback → '(' ∈ uri ∨ '(' ∈ fallback) := by
  constructor
  · refine (reportPart_behind_iff hv hw).trans ?_
    rw [List.mem_append, List.mem_cons, TempFile.parenthesis_mem_name hunique]
    simp [hdir]
  · intro hmem
    rcases TempFile.mem_of_mem_extensionChars hmem with huri | hfallback | hsign
    · exact .inl huri
    · exact .inr hfallback
    · exact absurd hsign (by decide)

/-- A report line. -/
def plainReport : List Char := "(1,1): error r : m".toList

theorem report_behind_path_iff_sql :
    '(' ∉ "/tmp".toList ∧ '(' ∉ "x".toList ∧
      ReportedViolation.ofChars? plainReport = some ⟨1, 1, .error, "r", "m"⟩ ∧
      ∃ part, reportPart? ("/tmp".toList ++ '/' :: TempFile.name "x".toList
          (TempFile.extensionChars "file:///w/a.sql".toList "sql".toList) ++ plainReport ++
            ['\r']) = some part ∧
        ReportedViolation.ofChars? part = ReportedViolation.ofChars? plainReport := by
  have hdir : '(' ∉ "/tmp".toList := by decide
  have hunique : '(' ∉ "x".toList := by decide
  have hread : ReportedViolation.ofChars? plainReport = some ⟨1, 1, .error, "r", "m"⟩ := by
    decide +kernel
  have hw : ∀ c ∈ ['\r'], Text.isBlank c = true := List.forall_mem_singleton.mpr rfl
  have hextension :
      '(' ∉ TempFile.extensionChars "file:///w/a.sql".toList "sql".toList := by
    decide +kernel
  have hfound := (report_behind_path_iff hdir hunique hread hw).1.mpr hextension
  exact ⟨hdir, hunique, hread, hfound⟩

/-- A document whose URI has an opening parenthesis in its extension. -/
theorem report_behind_path_lost :
    '(' ∉ "/tmp".toList ∧ '(' ∉ "x".toList ∧ '(' ∉ "sql".toList ∧
      ReportedViolation.ofChars? plainReport = some ⟨1, 1, .error, "r", "m"⟩ ∧
      ¬ ∃ part, reportPart? ("/tmp".toList ++ '/' :: TempFile.name "x".toList
          (TempFile.extensionChars "file:///w/a.s(q".toList "sql".toList) ++ plainReport ++
            ['\r']) = some part ∧
        ReportedViolation.ofChars? part = ReportedViolation.ofChars? plainReport := by
  have hread : ReportedViolation.ofChars? plainReport = some ⟨1, 1, .error, "r", "m"⟩ := by
    decide +kernel
  have hpart : reportPart? ("/tmp".toList ++ '/' :: TempFile.name "x".toList
      (TempFile.extensionChars "file:///w/a.s(q".toList "sql".toList) ++ plainReport ++
        ['\r']) = some "(q(1,1): error r : m".toList := by
    decide +kernel
  have hlost : ReportedViolation.ofChars? "(q(1,1): error r : m".toList = none := by
    decide +kernel
  refine ⟨by decide, by decide, by decide, hread, ?_⟩
  rintro ⟨part, hfound, hsame⟩
  obtain rfl := Option.some.inj (hpart.symm.trans hfound)
  cases hlost.symm.trans (hsame.trans hread)

end LintBridge
