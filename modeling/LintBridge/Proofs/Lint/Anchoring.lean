import LintBridge.Proofs.Document.Edit
import LintBridge.Proofs.Lint.ReportLine
import Mathlib.Data.List.Forall2

set_option autoImplicit false

/-! # Where violations are placed

A violation lies on one line. If the text has the line, it covers what the line holds behind its
indentation, and otherwise it sits at the start of the line (`Span`). `PlacedAs` says what
becomes of a reported violation in a text, and `Contributes` what becomes of a line of a report:
it states no violation, or one that lies too far down for a position, or one that is placed. The
main statement, `ofReport_eq_iff_contributes`, puts a report together from its lines. The column
that the linter reports has no part in it.
-/

namespace LintBridge

/-! ## Columns -/

namespace Text

theorem utf16Length_append (cs cs' : List Char) :
    utf16Length (cs ++ cs') = utf16Length cs + utf16Length cs' := by
  induction cs with
  | nil => exact (Nat.zero_add _).symm
  | cons c cs ih => rw [List.cons_append, utf16Length_cons, utf16Length_cons, ih, Nat.add_assoc]

end Text

namespace ReportedViolation

/-- The columns between which a violation on a line lies: those of the first character that is no
blank and of the end, or the start of a line that the text does not have. -/
inductive Span : Option (List Char) → UInt32 → UInt32 → Prop
  | inside {indent rest : List Char} {first last : UInt32}
      (hindent : ∀ c ∈ indent, Text.isBlank c = true)
      (hrest : ∀ c ∈ rest.head?, Text.isBlank c = false)
      (hfirst : first.toNat = Text.utf16Length indent)
      (hlast : last.toNat = Text.utf16Length (indent ++ rest)) :
      Span (some (indent ++ rest)) first last
  | outside : Span none 0 0

section

variable {line : Option (List Char)} {first last : UInt32}

theorem Span.le (h : Span line first last) : first ≤ last := by
  cases h with
  | inside hindent hrest hfirst hlast =>
      rw [UInt32.le_iff_toNat_le, hfirst, hlast, Text.utf16Length_append]
      exact Nat.le_add_right _ _
  | outside => exact UInt32.le_refl 0

/-- On a line that is not too long to be measured, the columns are those of the violation. -/
theorem columns_eq_iff (hshort : ∀ cs ∈ line, Text.utf16Length cs < 4294967296) :
    columns line = (first, last) ↔ Span line first last := by
  constructor
  · intro h
    cases line with
    | none =>
        cases h
        exact .outside
    | some cs =>
        cases h
        obtain ⟨hindent, hrest⟩ := Text.indentation_maximal cs
        have hcs := Text.indentation_append_trimStart cs
        have hlength := hshort cs rfl
        have hle : Text.utf16Length (Text.indentation cs) ≤ Text.utf16Length cs := by
          conv => rhs; rw [← hcs, Text.utf16Length_append]
          exact Nat.le_add_right _ _
        have hspan : Span (some (Text.indentation cs ++ Text.trimStart cs))
            (UInt32.ofNat (Text.utf16Length (Text.indentation cs)))
            (UInt32.ofNat (Text.utf16Length cs)) :=
          .inside hindent hrest (UInt32.toNat_ofNat_of_lt' (Nat.lt_of_le_of_lt hle hlength))
            (by rw [hcs]; exact UInt32.toNat_ofNat_of_lt' hlength)
        rwa [hcs] at hspan
  · intro h
    cases h with
    | @inside indent rest first last hindent hrest hfirst hlast =>
        obtain ⟨hindentation, -⟩ := Text.takeWhile_dropWhile_iff.mpr
          ⟨(rfl : indent ++ rest = _), hindent, hrest⟩
        rw [columns, Text.indentation, hindentation, ← hfirst, ← hlast, UInt32.ofNat_toNat,
          UInt32.ofNat_toNat]
    | outside => rfl

end

/-! ## Lines -/

section

variable {r : ReportedViolation} {n : UInt32}

/-- Lines are counted from zero, and what is reported above the first line is taken for it. -/
theorem targetLine_eq_some_iff :
    r.targetLine = some n ↔ r.line ≤ 4294967296 ∧ (n.toNat : Int) = max (r.line - 1) 0 := by
  unfold targetLine
  dsimp only
  split
  · rename_i hlt
    have hn : (UInt32.ofNat (r.line - 1).toNat).toNat = (r.line - 1).toNat :=
      UInt32.toNat_ofNat_of_lt' hlt
    rw [Option.some.injEq, ← UInt32.toNat_inj, hn]
    omega
  · constructor
    · intro h
      cases h
    · omega

theorem targetLine_eq_none_iff : r.targetLine = none ↔ 4294967296 < r.line := by
  unfold targetLine
  dsimp only
  split
  · constructor
    · intro h
      cases h
    · omega
  · simp only [true_iff]
    omega

end

/-! ## Violations -/

/-- The violation `v` is what the linter reports by `r`, placed in the text `cs`. -/
structure PlacedAs (cs : List Char) (r : ReportedViolation) (v : Violation) : Prop where
  message : v.message = r.message
  rule : v.rule = r.rule
  severity : v.severity = r.severity
  /-- The reported line, counted from zero, or the first line if that would be above it. -/
  line : (v.range.start.line.toNat : Int) = max (r.line - 1) 0
  oneLine : v.range.stop.line = v.range.start.line
  ordered : v.range.start.character ≤ v.range.stop.character
  span : Span (Text.lines cs)[v.range.start.line.toNat]? v.range.start.character
    v.range.stop.character

section

variable {cs : List Char} {r : ReportedViolation} {v : Violation}

theorem anchor_eq_none_iff {lines : List (List Char)} :
    r.anchor lines = none ↔ 4294967296 < r.line := by
  rw [← targetLine_eq_none_iff]
  cases h : r.targetLine <;> simp [anchor, h]

/-- A reported violation is placed, unless its line is too far down for a position. -/
theorem anchor_eq_some_iff
    (hshort : ∀ line ∈ Text.lines cs, Text.utf16Length line < 4294967296) :
    r.anchor (Text.lines cs) = some v ↔ r.line ≤ 4294967296 ∧ PlacedAs cs r v := by
  have hcolumns : ∀ {n first last : UInt32}, columns (Text.lines cs)[n.toNat]? = (first, last) ↔
      Span (Text.lines cs)[n.toNat]? first last :=
    columns_eq_iff fun line hline => hshort line (List.mem_of_getElem? hline)
  constructor
  · intro h
    obtain ⟨n, hn, hplace⟩ := Option.bind_eq_some_iff.mp h
    obtain rfl := Option.some.inj hplace
    obtain ⟨hnear, hline⟩ := targetLine_eq_some_iff.mp hn
    have hspan := hcolumns.mp (rfl : columns (Text.lines cs)[n.toNat]? = _)
    exact ⟨hnear, rfl, rfl, rfl, hline, rfl, hspan.le, hspan⟩
  · rintro ⟨hnear, hv⟩
    obtain ⟨⟨⟨n, first⟩, ⟨m, last⟩⟩, message, rule, severity⟩ := v
    obtain ⟨rfl, rfl, rfl, hline, hm, -, hspan⟩ := hv
    obtain rfl : m = n := hm
    refine Option.bind_eq_some_iff.mpr ⟨m, targetLine_eq_some_iff.mpr ⟨hnear, hline⟩, ?_⟩
    rw [hcolumns.mpr hspan]
    rfl

end

end ReportedViolation

/-! ## Reports -/

namespace Violation

open ReportedViolation

/-- What a line of a report adds to the violations of the text `cs`. -/
inductive Contributes (cs : List Char) (line : String) : List Violation → Prop
  /-- The line states no violation. -/
  | noise (hread : parse? line = none) : Contributes cs line []
  /-- No position has a line number as great as the reported one. -/
  | tooFar {r : ReportedViolation} (hread : parse? line = some r) (hfar : 4294967296 < r.line) :
      Contributes cs line []
  | placed {r : ReportedViolation} {v : Violation} (hread : parse? line = some r)
      (hnear : r.line ≤ 4294967296) (hv : PlacedAs cs r v) : Contributes cs line [v]

/-- The lines state the same violation, but for its column, or none. -/
def SameButColumn (line line' : String) : Prop :=
  (parse? line = none ∧ parse? line' = none) ∨
    ∃ r column, parse? line = some r ∧ parse? line' = some { r with column }

/-- The violations that are read from a line of a report, of which there is one at most. -/
def ofReportLine (text line : String) : List Violation :=
  ((parse? line).bind (·.anchor (Text.lines text.toList))).toList

theorem ofReport_eq_flatten (text : String) (report : List String) :
    ofReport text report = (report.map (ofReportLine text)).flatten := by
  rw [ofReport, List.filterMap_eq_flatMap_toList, List.flatMap_def]
  rfl

section

variable {text : String}

/-- A line of a report adds what is read from it. -/
theorem contributes_iff
    (hshort : ∀ line ∈ Text.lines text.toList, Text.utf16Length line < 4294967296)
    {line : String} {part : List Violation} :
    Contributes text.toList line part ↔ ofReportLine text line = part := by
  unfold ofReportLine
  constructor
  · intro h
    cases h with
    | noise hread =>
        rw [hread]
        rfl
    | tooFar hread hfar =>
        rw [hread, Option.bind_some, anchor_eq_none_iff.mpr hfar]
        rfl
    | placed hread hnear hv =>
        rw [hread, Option.bind_some, (anchor_eq_some_iff hshort).mpr ⟨hnear, hv⟩]
        rfl
  · rintro rfl
    cases hread : parse? line with
    | none => exact .noise hread
    | some r =>
        rw [Option.bind_some]
        cases hanchor : r.anchor (Text.lines text.toList) with
        | none => exact .tooFar hread (anchor_eq_none_iff.mp hanchor)
        | some v =>
            obtain ⟨hnear, hv⟩ := (anchor_eq_some_iff hshort).mp hanchor
            exact .placed hread hnear hv

theorem forall₂_contributes_iff
    (hshort : ∀ line ∈ Text.lines text.toList, Text.utf16Length line < 4294967296)
    {report : List String} {parts : List (List Violation)} :
    List.Forall₂ (Contributes text.toList) report parts ↔
      report.map (ofReportLine text) = parts := by
  have hmap : List.Forall₂ (fun line part => ofReportLine text line = part) report parts ↔
      report.map (ofReportLine text) = parts := by
    rw [← List.forall₂_map_left_iff, List.forall₂_eq_eq_eq]
  rw [← hmap]
  constructor
  · exact .imp fun line part => (contributes_iff hshort).mp
  · exact .imp fun line part => (contributes_iff hshort).mpr

/-- Violations do not depend on their reported columns. -/
theorem ofReport_of_sameButColumn {report report' : List String}
    (h : List.Forall₂ SameButColumn report report') :
    ofReport text report' = ofReport text report := by
  rw [ofReport_eq_flatten, ofReport_eq_flatten]
  congr 1
  induction h with
  | nil => rfl
  | cons hline _ ih =>
      rw [List.map_cons, List.map_cons, ih]
      congr 1
      unfold ofReportLine
      rcases hline with ⟨hread, hread'⟩ | ⟨r, column, hread, hread'⟩
      · rw [hread, hread']
      · rw [hread, hread']
        rfl

/-- **The violations of a report are those of its lines, in their order, each at its place.** Let
the lines of a text be not too long to be measured. Then a report on the text comes to certain
violations exactly if they are, put one behind the other, what its lines contribute: nothing if
the line is noise, or if the line that it reports is too far down for a position, and otherwise
the violation that it states, placed in the text. Other reported columns change nothing. -/
theorem ofReport_eq_iff_contributes
    (hshort : ∀ line ∈ Text.lines text.toList, Text.utf16Length line < 4294967296)
    (report : List String) :
    (∀ vs, ofReport text report = vs ↔
      ∃ parts, List.Forall₂ (Contributes text.toList) report parts ∧ vs = parts.flatten) ∧
    ∀ report', List.Forall₂ SameButColumn report report' →
      ofReport text report' = ofReport text report := by
  refine ⟨fun vs => ?_, fun report' => ofReport_of_sameButColumn⟩
  rw [ofReport_eq_flatten]
  constructor
  · rintro rfl
    exact ⟨_, (forall₂_contributes_iff hshort).mpr rfl, rfl⟩
  · rintro ⟨parts, hcontributes, rfl⟩
    rw [(forall₂_contributes_iff hshort).mp hcontributes]

end

/-- A line that starts with a blank outside ASCII and has a character outside the basic plane, and
an empty line. -/
def wideText : String := "\u3000SELECT '😀'\n"

theorem ofReport_eq_iff_contributes_wide :
    (∀ line ∈ Text.lines wideText.toList, Text.utf16Length line < 4294967296) ∧
      (∃ parts, List.Forall₂ (Contributes wideText.toList)
          ["TSQLLint 1.15.3", "(-4,99): error r : m", "(4294967297,1): error r : m",
            "(40,1): warning r : m"] parts ∧
        [⟨⟨⟨0, 1⟩, ⟨0, 12⟩⟩, "m", "r", .error⟩, ⟨⟨⟨39, 0⟩, ⟨39, 0⟩⟩, "m", "r", .warning⟩] =
          parts.flatten) ∧
      SameButColumn "(-4,99): error r : m" "(-4,1): error r : m" ∧
      ofReport wideText ["(-4,1): error r : m"] = ofReport wideText ["(-4,99): error r : m"] := by
  have hshort : ∀ line ∈ Text.lines wideText.toList, Text.utf16Length line < 4294967296 := by
    decide
  have hreport : ofReport wideText ["TSQLLint 1.15.3", "(-4,99): error r : m",
      "(4294967297,1): error r : m", "(40,1): warning r : m"] =
        [⟨⟨⟨0, 1⟩, ⟨0, 12⟩⟩, "m", "r", .error⟩, ⟨⟨⟨39, 0⟩, ⟨39, 0⟩⟩, "m", "r", .warning⟩] := by
    decide +kernel
  have hsame : SameButColumn "(-4,99): error r : m" "(-4,1): error r : m" :=
    .inr ⟨⟨-4, 99, .error, "r", "m"⟩, 1, by decide +kernel, by decide +kernel⟩
  exact ⟨hshort, ((ofReport_eq_iff_contributes hshort _).1 _).mp hreport, hsame,
    (ofReport_eq_iff_contributes hshort _).2 _ (.cons hsame .nil)⟩

end Violation

end LintBridge
