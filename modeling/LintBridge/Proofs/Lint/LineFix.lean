import LintBridge.Lint.QuickFix
import LintBridge.Lint.Report
import LintBridge.Proofs.Document.Edit

set_option autoImplicit false

/-! # What the fix for a line does to the text

The end of a violation is put where its line ends, in code units (`Violation.stop_of_ofReport`),
by the reader of the report; the copy of the line in the fix is made by the registry. Both cut
the text into lines in the same way, so the fix replaces exactly the line that it copies. The
main statements are `lineFix_keeps_lines`: after the fix the line stands between its two comments
and no line of the text is lost; and `lineFix_adds_empty_line`: what the fix adds are the two
comments and an empty line.
-/

namespace LintBridge

/-! ## Wrapping a line -/

namespace Text

/-- The lines of a text, with some lines in the place of line number `i`. -/
def replaceLine (lines : List (List Char)) (i : Nat) (block : List (List Char)) :
    List (List Char) :=
  lines.take i ++ block ++ lines.drop (i + 1)

namespace LineAt

variable {cs before line after : List Char} {i : Nat}

/-- The lines around a line of a text. -/
theorem lines_eq (h : LineAt cs i before line after) :
    lines cs = (lines before).dropLast ++ line :: (lines after).tail := by
  rw [h.text, List.append_assoc, lines_started h.started, lines_line_append h.whole h.ended]

theorem replaceLine_lines (h : LineAt cs i before line after) (block : List (List Char)) :
    replaceLine (lines cs) i block = (lines before).dropLast ++ block ++ (lines after).tail := by
  have hbefore : (lines before).dropLast.length = i := by
    rw [List.length_dropLast, length_lines, h.number]
    rfl
  rw [replaceLine, h.lines_eq, List.take_left' hbefore, ← List.singleton_append,
    ← List.append_assoc, List.drop_left' (by simp [hbefore])]

theorem length_replaceLine (h : LineAt cs i before line after) (block : List (List Char)) :
    (replaceLine (lines cs) i block).length + 1 = (lines cs).length + block.length := by
  rw [h.replaceLine_lines, h.lines_eq]
  simp only [List.length_append, List.length_cons]
  omega

/-- A line of a text is put between other lines. -/
theorem lines_wrapped (h : LineAt cs i before line after) (head foot : List Char) :
    lines (before ++ (head ++ '\n' :: (line ++ '\n' :: (foot ++ '\n' :: after)))) =
      replaceLine (lines cs) i (lines head ++ [line] ++ lines foot ++ [[]]) := by
  -- Behind the last line feed the rest of the text starts anew, with a line that is empty.
  have hafter : lines after = [] :: (lines after).tail :=
    lines_line_append List.not_mem_nil h.ended
  rw [lines_started h.started, lines_append_lineFeed, lines_append_lineFeed,
    lines_append_lineFeed, lines_of_notMem h.whole, hafter, h.replaceLine_lines]
  simp only [List.append_assoc, List.cons_append, List.nil_append]

/-- A line that is put between other lines keeps all lines of a text. -/
theorem lines_sublist (h : LineAt cs i before line after) (head foot : List Char) :
    (lines cs).Sublist
      (lines (before ++ (head ++ '\n' :: (line ++ '\n' :: (foot ++ '\n' :: after))))) := by
  have hblock : [line].Sublist (lines head ++ [line] ++ lines foot ++ [[]]) := by
    rw [List.append_assoc]
    exact (List.sublist_append_right _ _).trans (List.sublist_append_left _ _)
  rw [h.lines_wrapped, h.replaceLine_lines, h.lines_eq, List.append_assoc]
  exact (List.Sublist.refl _).append (hblock.append (List.Sublist.refl _))

end LineAt

end Text

/-! ## The end of a violation -/

/-- A violation ends on its line, where the line ends. -/
theorem Violation.stop_of_ofReport {text : String} {report : List String} {v : Violation}
    (h : v ∈ Violation.ofReport text report) {line : List Char}
    (hline : (Text.lines text.toList)[v.line.toNat]? = some line) :
    v.range.stop = ⟨v.line, UInt32.ofNat (Text.utf16Length line)⟩ := by
  obtain ⟨reported, -, hread⟩ := List.mem_filterMap.mp h
  obtain ⟨r, -, hanchor⟩ := Option.bind_eq_some_iff.mp hread
  obtain ⟨n, -, hplace⟩ := Option.bind_eq_some_iff.mp hanchor
  obtain rfl := Option.some.inj hplace
  -- The reader of the report looks the line up in the same list as the registry.
  have hn : (Text.lines text.toList)[n.toNat]? = some line := hline
  show (⟨n, (ReportedViolation.columns (Text.lines text.toList)[n.toNat]?).2⟩ : Position) = _
  rw [hn]
  rfl

/-! ## The fix -/

/-- The edit puts line number `n` of the document `cs`, which stands between `before` and
`after`, between the comments that disable and enable a rule. -/
structure DirectiveSyntax.WrapsLine (s : DirectiveSyntax) (rule : String) (n : UInt32)
    (cs before line after : List Char) (edit : TextEdit) : Prop where
  lineAt : Text.LineAt cs n.toNat before line after
  range : edit.range = ⟨⟨n, 0⟩, ⟨n, UInt32.ofNat (Text.utf16Length line)⟩⟩
  replaces : edit.Replaces cs before line after
  /-- The comments stand on lines of their own, behind the blanks that the line starts with. -/
  wrapped : ∃ indent rest, line = indent ++ rest ∧ (∀ c ∈ indent, Text.isBlank c = true) ∧
    (∀ c ∈ rest.head?, Text.isBlank c = false) ∧
    edit.apply cs = before ++ (indent ++ (s.disableMarker rule).toList ++ '\n' :: (line ++ '\n' ::
      (indent ++ (s.enableMarker rule).toList ++ '\n' :: after)))
  /-- All lines of the document are still there, in their order. -/
  kept : (Text.lines cs).Sublist (Text.lines (edit.apply cs))

/-- What the fix for a line puts in its place. -/
theorem DirectiveSyntax.newText_lineEdit (s : DirectiveSyntax) {lines : List (List Char)}
    {v : Violation} {line : List Char} (h : lines[v.line.toNat]? = some line) :
    (s.lineEdit lines v).newText.toList =
      Text.indentation line ++ (s.disableMarker v.rule).toList ++ ['\n'] ++ line ++ ['\n'] ++
        Text.indentation line ++ (s.enableMarker v.rule).toList ++ ['\n'] := by
  have hlf : "\n".toList = ['\n'] := rfl
  simp only [lineEdit, h, Option.getD_some, String.toList_append, String.toList_ofList, hlf]

section

variable {cs before line after : List Char} {v : Violation}

/-- The fix for a violation that ends where its line ends replaces the line. -/
theorem DirectiveSyntax.replaces_lineEdit (s : DirectiveSyntax)
    (hat : Text.LineAt cs v.line.toNat before line after)
    (hstop : v.range.stop = ⟨v.line, UInt32.ofNat (Text.utf16Length line)⟩)
    (hshort : Text.utf16Length line < 4294967296) :
    (s.lineEdit (Text.lines cs) v).range =
        ⟨⟨v.line, 0⟩, ⟨v.line, UInt32.ofNat (Text.utf16Length line)⟩⟩ ∧
      (s.lineEdit (Text.lines cs) v).Replaces cs before line after := by
  have hrange : (s.lineEdit (Text.lines cs) v).range =
      ⟨⟨v.line, 0⟩, ⟨v.line, UInt32.ofNat (Text.utf16Length line)⟩⟩ := by
    rw [← hstop]
    rfl
  exact ⟨hrange, hat.replaces (UInt32.toNat_ofNat_of_lt' hshort) hrange⟩

/-- The text behind a fix that replaces its line. -/
theorem DirectiveSyntax.apply_lineEdit (s : DirectiveSyntax)
    (hreplaces : (s.lineEdit (Text.lines cs) v).Replaces cs before line after)
    (hline : (Text.lines cs)[v.line.toNat]? = some line) :
    (s.lineEdit (Text.lines cs) v).apply cs = before ++
      (Text.indentation line ++ (s.disableMarker v.rule).toList ++ '\n' :: (line ++ '\n' ::
        (Text.indentation line ++ (s.enableMarker v.rule).toList ++ '\n' :: after))) := by
  rw [hreplaces.apply_eq, s.newText_lineEdit hline]
  simp only [List.append_assoc, List.cons_append, List.nil_append]

/-- The fix for a violation that ends where its line ends wraps the line. -/
theorem DirectiveSyntax.wrapsLine_lineEdit (s : DirectiveSyntax)
    (hat : Text.LineAt cs v.line.toNat before line after)
    (hline : (Text.lines cs)[v.line.toNat]? = some line)
    (hstop : v.range.stop = ⟨v.line, UInt32.ofNat (Text.utf16Length line)⟩)
    (hshort : Text.utf16Length line < 4294967296) :
    s.WrapsLine v.rule v.line cs before line after (s.lineEdit (Text.lines cs) v) := by
  obtain ⟨hrange, hreplaces⟩ := s.replaces_lineEdit hat hstop hshort
  have happly := s.apply_lineEdit hreplaces hline
  obtain ⟨hindent, hrest⟩ := Text.indentation_maximal line
  refine ⟨hat, hrange, hreplaces, ⟨Text.indentation line, Text.trimStart line,
    (Text.indentation_append_trimStart line).symm, hindent, hrest, happly⟩, ?_⟩
  rw [happly]
  exact hat.lines_sublist _ _

/-- A line between the comments that disable and enable a rule, which are indented like it. -/
def DirectiveSyntax.wrapped (s : DirectiveSyntax) (rule : String) (line : List Char) :
    List (List Char) :=
  [Text.indentation line ++ (s.disableMarker rule).toList, line,
    Text.indentation line ++ (s.enableMarker rule).toList]

/-- The lines behind a fix that replaces its line. -/
theorem DirectiveSyntax.lines_apply_lineEdit (s : DirectiveSyntax)
    (hat : Text.LineAt cs v.line.toNat before line after)
    (hreplaces : (s.lineEdit (Text.lines cs) v).Replaces cs before line after)
    (hline : (Text.lines cs)[v.line.toNat]? = some line)
    (hdisable : '\n' ∉ (s.disableMarker v.rule).toList)
    (henable : '\n' ∉ (s.enableMarker v.rule).toList) :
    Text.lines ((s.lineEdit (Text.lines cs) v).apply cs) =
      Text.replaceLine (Text.lines cs) v.line.toNat (s.wrapped v.rule line ++ [[]]) := by
  have hindent : '\n' ∉ Text.indentation line := fun h =>
    hat.whole (List.takeWhile_prefix _ |>.subset h)
  have hcomment : ∀ {comment : List Char}, '\n' ∉ comment →
      Text.lines (Text.indentation line ++ comment) = [Text.indentation line ++ comment] :=
    fun hcomment => Text.lines_of_notMem (by simp [hindent, hcomment])
  rw [s.apply_lineEdit hreplaces hline, hat.lines_wrapped, hcomment hdisable, hcomment henable]
  rfl

end

namespace Registry

variable {r : Registry} {uri text : String} {version : Int32} {report : List String}

/-- What the registry holds once a report has been registered. -/
theorem mem_entries_register {e : RegisteredViolation} {violations : List Violation}
    (h : e ∈ (r.register uri version text violations).entries uri) :
    e.violation ∈ violations ∧
      e.lineEdits = [r.directives.lineEdit (Text.lines text.toList) e.violation] := by
  rw [entries, register, UriMap.get?_insert, if_pos rfl] at h
  obtain ⟨v, hv, rfl⟩ := List.mem_map.mp h
  exact ⟨hv, rfl⟩

/-- **The fix for a line loses nothing.** Let a report be registered for a text whose lines are
not too long to be measured. The fix for a violation on a line of the text is one edit. It
replaces exactly this line by the line as it was between two comments that are indented like it,
so that all lines of the text are still there and in their order. -/
theorem lineFix_keeps_lines
    (hshort : ∀ line ∈ Text.lines text.toList, Text.utf16Length line < 4294967296)
    {e : RegisteredViolation}
    (he : e ∈ (r.register uri version text (Violation.ofReport text report)).entries uri)
    (hinside : e.violation.line.toNat < (Text.lines text.toList).length) :
    ∃ edit before line after, e.lineEdits = [edit] ∧
      (Text.lines text.toList)[e.violation.line.toNat]? = some line ∧
      r.directives.WrapsLine e.violation.rule e.violation.line text.toList before line after
        edit := by
  obtain ⟨hv, hedits⟩ := mem_entries_register he
  obtain ⟨line, hline⟩ : ∃ line, (Text.lines text.toList)[e.violation.line.toNat]? = some line :=
    ⟨_, List.getElem?_eq_getElem hinside⟩
  obtain ⟨before, after, hat⟩ := Text.lineAt_of_getElem? hline
  exact ⟨_, before, line, after, hedits, hline, r.directives.wrapsLine_lineEdit hat hline
    (Violation.stop_of_ofReport hv hline) (hshort line (List.mem_of_getElem? hline))⟩

/-- Three lines, the second of which starts with a blank that is not ASCII, has a character
outside the basic plane, and ends with a carriage return. -/
def astralText : String := "a\n\u2003b😀\r\nc"

/-- A violation on the second line. -/
def astralViolation : RegisteredViolation :=
  enter {} 1 (Text.lines astralText.toList) ⟨⟨⟨1, 1⟩, ⟨1, 5⟩⟩, "m", "r", .error⟩

theorem lineFix_keeps_lines_astral :
    (∀ line ∈ Text.lines astralText.toList, Text.utf16Length line < 4294967296) ∧
      astralViolation ∈ ((empty {}).register "u" 1 astralText
        (Violation.ofReport astralText ["(2,1): error r : m"])).entries "u" ∧
      astralViolation.violation.line.toNat < (Text.lines astralText.toList).length ∧
      ∃ edit before line after, astralViolation.lineEdits = [edit] ∧
        (Text.lines astralText.toList)[1]? = some line ∧
        DirectiveSyntax.WrapsLine {} "r" 1 astralText.toList before line after edit := by
  have hshort : ∀ line ∈ Text.lines astralText.toList, Text.utf16Length line < 4294967296 := by
    decide
  have hentry : astralViolation ∈ ((empty {}).register "u" 1 astralText
      (Violation.ofReport astralText ["(2,1): error r : m"])).entries "u" := by
    decide +kernel
  have hinside : astralViolation.violation.line.toNat <
      (Text.lines astralText.toList).length := by decide
  exact ⟨hshort, hentry, hinside, lineFix_keeps_lines hshort hentry hinside⟩

/-- **The fix for a line adds an empty line.** Let a report be registered as before, and let the
comments for the rule of a violation be without line feeds. After the fix for a violation on a
line of the text, the line stands between its two comments and an empty line stands behind them:
the edit ends with a line feed, and the line feed of the line that it replaces is still there.
All other lines stay, so that there are three lines more. -/
theorem lineFix_adds_empty_line
    (hshort : ∀ line ∈ Text.lines text.toList, Text.utf16Length line < 4294967296)
    {e : RegisteredViolation}
    (he : e ∈ (r.register uri version text (Violation.ofReport text report)).entries uri)
    (hinside : e.violation.line.toNat < (Text.lines text.toList).length)
    (hdisable : '\n' ∉ (r.directives.disableMarker e.violation.rule).toList)
    (henable : '\n' ∉ (r.directives.enableMarker e.violation.rule).toList) :
    ∃ edit line, e.lineEdits = [edit] ∧
      (Text.lines text.toList)[e.violation.line.toNat]? = some line ∧
      Text.lines (edit.apply text.toList) =
        Text.replaceLine (Text.lines text.toList) e.violation.line.toNat
          (r.directives.wrapped e.violation.rule line ++ [[]]) ∧
      (Text.lines (edit.apply text.toList)).length = (Text.lines text.toList).length + 3 := by
  obtain ⟨hv, hedits⟩ := mem_entries_register he
  obtain ⟨line, hline⟩ : ∃ line, (Text.lines text.toList)[e.violation.line.toNat]? = some line :=
    ⟨_, List.getElem?_eq_getElem hinside⟩
  obtain ⟨before, after, hat⟩ := Text.lineAt_of_getElem? hline
  obtain ⟨-, hreplaces⟩ := r.directives.replaces_lineEdit hat (Violation.stop_of_ofReport hv hline)
    (hshort line (List.mem_of_getElem? hline))
  have hlines := r.directives.lines_apply_lineEdit hat hreplaces hline hdisable henable
  refine ⟨_, line, hedits, hline, hlines, ?_⟩
  rw [hlines]
  exact Nat.succ.inj (hat.length_replaceLine _)

theorem lineFix_adds_empty_line_astral :
    astralViolation ∈ ((empty {}).register "u" 1 astralText
        (Violation.ofReport astralText ["(2,1): error r : m"])).entries "u" ∧
      ∃ edit line, astralViolation.lineEdits = [edit] ∧
        (Text.lines astralText.toList)[astralViolation.violation.line.toNat]? = some line ∧
        Text.lines (edit.apply astralText.toList) =
          Text.replaceLine (Text.lines astralText.toList) astralViolation.violation.line.toNat
            (DirectiveSyntax.wrapped {} astralViolation.violation.rule line ++ [[]]) ∧
        (Text.lines (edit.apply astralText.toList)).length =
          (Text.lines astralText.toList).length + 3 := by
  have hshort : ∀ line ∈ Text.lines astralText.toList, Text.utf16Length line < 4294967296 := by
    decide
  have hentry : astralViolation ∈ ((empty {}).register "u" 1 astralText
      (Violation.ofReport astralText ["(2,1): error r : m"])).entries "u" := by
    decide +kernel
  have hinside : astralViolation.violation.line.toNat <
      (Text.lines astralText.toList).length := by decide
  have hdisable :
      '\n' ∉ (DirectiveSyntax.disableMarker {} astralViolation.violation.rule).toList := by
    decide
  have henable :
      '\n' ∉ (DirectiveSyntax.enableMarker {} astralViolation.violation.rule).toList := by
    decide
  obtain ⟨edit, line, hedit, hline, hlines, hlength⟩ :=
    lineFix_adds_empty_line hshort hentry hinside hdisable henable
  exact ⟨hentry, edit, line, hedit, hline, hlines, hlength⟩

/-- A violation on the only line of the text `a`. -/
def onlyViolation : RegisteredViolation :=
  enter {} 1 (Text.lines "a".toList) ⟨⟨⟨0, 0⟩, ⟨0, 1⟩⟩, "m", "r", .error⟩

/-- Even where the text ends with the line, the two comments are not all that is added. -/
theorem lineFix_of_only_line_adds_third :
    onlyViolation ∈ ((empty {}).register "u" 1 "a"
        (Violation.ofReport "a" ["(1,1): error r : m"])).entries "u" ∧
      '\n' ∉ (DirectiveSyntax.disableMarker {} "r").toList ∧
      '\n' ∉ (DirectiveSyntax.enableMarker {} "r").toList ∧
      (Text.lines "a".toList)[onlyViolation.violation.line.toNat]? = some "a".toList ∧
      ∃ edit, onlyViolation.lineEdits = [edit] ∧
        Text.lines (edit.apply "a".toList) ≠
          Text.replaceLine (Text.lines "a".toList) onlyViolation.violation.line.toNat
            (DirectiveSyntax.wrapped {} "r" "a".toList) := by
  have hentry : onlyViolation ∈ ((empty {}).register "u" 1 "a"
      (Violation.ofReport "a" ["(1,1): error r : m"])).entries "u" := by
    decide +kernel
  have hlines : Text.lines ((DirectiveSyntax.lineEdit {} (Text.lines "a".toList)
        onlyViolation.violation).apply "a".toList) ≠
      Text.replaceLine (Text.lines "a".toList) onlyViolation.violation.line.toNat
        (DirectiveSyntax.wrapped {} "r" "a".toList) := by
    decide +kernel
  exact ⟨hentry, by decide, by decide, by decide, _, rfl, hlines⟩

end Registry

end LintBridge
