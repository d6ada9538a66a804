import LintBridge.Proofs.Document.History
import LintBridge.Proofs.Document.Overlap
import LintBridge.Proofs.Server.Step

set_option autoImplicit false

/-! # What the registry answers

The registry is filled by registrations, of any documents and in any order. A registration of a
document replaces what was held for it, and one of another document leaves it alone, so that
the last registration of a document decides what is held for it (`entries_after_of_isLast`). The
main statement, `answers_of_last_registration`, says what the registry answers then: which
violations are found in a range, which fixes are offered there, and for how many documents there
is anything.
-/

namespace LintBridge

/-- The violations that have been found in a version of a document. -/
structure Registration where
  uri : String
  version : Int32
  text : String
  violations : List Violation

namespace Registration

/-- What the registry holds for the document of a registration. -/
def entries (directives : DirectiveSyntax) (g : Registration) : List RegisteredViolation :=
  g.violations.map fun v =>
    ⟨v, g.version, [directives.lineEdit (Text.lines g.text.toList) v]⟩

/-- Of some registrations, `g` is the last one of a document. -/
def IsLast (gs : List Registration) (uri : String) (g : Registration) : Prop :=
  ∃ before later, gs = before ++ g :: later ∧ g.uri = uri ∧ ∀ g' ∈ later, g'.uri ≠ uri

theorem IsLast.uri_eq {gs : List Registration} {uri : String} {g : Registration}
    (h : IsLast gs uri g) : g.uri = uri := by
  obtain ⟨before, later, -, huri, -⟩ := h
  exact huri

end Registration

namespace Registry

/-! ## What the registry holds -/

/-- The registry behind a registration. -/
def record (r : Registry) (g : Registration) : Registry :=
  r.register g.uri g.version g.text g.violations

/-- The registry behind some registrations, without anything before them. -/
def after (directives : DirectiveSyntax) (gs : List Registration) : Registry :=
  gs.foldl record (empty directives)

section

variable {r : Registry} {directives : DirectiveSyntax} {gs : List Registration} {uri : String}
  {g : Registration}

theorem directives_foldl (r : Registry) (gs : List Registration) :
    (gs.foldl record r).directives = r.directives := by
  induction gs generalizing r with
  | nil => rfl
  | cons g gs ih => exact ih (r.record g)

theorem entries_record (r : Registry) (g : Registration) (uri : String) :
    (r.record g).entries uri =
      if g.uri = uri then g.entries r.directives else r.entries uri :=
  r.entries_register g.uri uri g.version g.text g.violations

/-- Registrations of other documents leave what is held for a document alone. -/
theorem entries_foldl_of_ne (h : ∀ g ∈ gs, g.uri ≠ uri) :
    (gs.foldl record r).entries uri = r.entries uri := by
  induction gs generalizing r with
  | nil => rfl
  | cons g gs ih =>
      rw [List.foldl_cons, ih fun g' hg' => h g' (List.mem_cons_of_mem _ hg'), entries_record,
        if_neg (h g List.mem_cons_self)]

theorem entries_after_of_ne (h : ∀ g ∈ gs, g.uri ≠ uri) :
    (after directives gs).entries uri = [] :=
  entries_foldl_of_ne h

/-- The last registration of a document decides what is held for it. -/
theorem entries_after_of_isLast (h : Registration.IsLast gs uri g) :
    (after directives gs).entries uri = g.entries directives := by
  obtain ⟨before, later, rfl, huri, hlater⟩ := h
  rw [after, List.foldl_append, List.foldl_cons, entries_foldl_of_ne hlater, entries_record,
    if_pos huri, directives_foldl]
  rfl

/-- There is something, if only an empty list, for the documents that have been registered. -/
theorem isSome_get?_foldl (r : Registry) (gs : List Registration) (uri : String) :
    ((gs.foldl record r).documents.get? uri).isSome = true ↔
      (∃ g ∈ gs, g.uri = uri) ∨ (r.documents.get? uri).isSome = true := by
  induction gs generalizing r with
  | nil => simp
  | cons g gs ih =>
      rw [List.foldl_cons, ih, record, register, UriMap.get?_insert]
      by_cases hg : g.uri = uri <;> simp [hg]

theorem documentCount_after (directives : DirectiveSyntax) (gs : List Registration) :
    (after directives gs).documentCount = (gs.map (·.uri)).toFinset.card := by
  refine UriMap.size_eq_card _ fun uri => ?_
  rw [after, isSome_get?_foldl]
  simp [empty]

end

/-! ## What the registry answers -/

/-- The registry `r` answers queries for the range `query` of a document from the registration
`g` of it. -/
structure AnswersFrom (r : Registry) (directives : DirectiveSyntax) (g : Registration)
    (query : Range) : Prop where
  held : r.entries g.uri = g.entries directives
  /-- What is found are the violations that share a position with the range. -/
  found : r.overlapping g.uri query =
    (g.entries directives).filter (·.violation.range.Meets query)
  count : (r.fixes g.uri query).length = 2 * (r.overlapping g.uri query).length
  /-- The first half of the fixes are those for the lines of the violations. -/
  lineFixes : (r.fixes g.uri query).take (r.overlapping g.uri query).length =
    (r.overlapping g.uri query).map fun e =>
      { title := "Disable: " ++ e.violation.rule ++ " for this line"
        uri := g.uri
        version := g.version
        edits := e.lineEdits }
  /-- The second half of the fixes are those for the whole file. -/
  fileFixes : (r.fixes g.uri query).drop (r.overlapping g.uri query).length =
    (r.overlapping g.uri query).map fun e =>
      { title := "Disable: " ++ e.violation.rule ++ " for this file"
        uri := g.uri
        version := g.version
        edits := [⟨⟨⟨0, 0⟩, ⟨0, 0⟩⟩, directives.disableMarker e.violation.rule ++ "\n"⟩] }

/-- What is held for a document decides what is answered for it. -/
theorem answersFrom_of_entries {r : Registry} {g : Registration} {query : Range}
    (hheld : r.entries g.uri = g.entries r.directives) (hquery : query.start ≤ query.stop)
    (hviolations : ∀ v ∈ g.violations, v.range.start ≤ v.range.stop) :
    r.AnswersFrom r.directives g query := by
  have hfound : r.overlapping g.uri query =
      (g.entries r.directives).filter (·.violation.range.Meets query) := by
    rw [overlapping, hheld]
    refine List.filter_congr fun e he => ?_
    obtain ⟨v, hv, rfl⟩ := List.mem_map.mp he
    exact Bool.eq_iff_iff.mpr
      ((Range.overlaps_iff_meets (hviolations v hv) hquery).trans decide_eq_true_iff.symm)
  have hversion : ∀ e ∈ r.overlapping g.uri query, e.version = g.version := by
    intro e he
    rw [hfound] at he
    obtain ⟨v, -, rfl⟩ := List.mem_map.mp (List.mem_filter.mp he).1
    rfl
  refine ⟨hheld, hfound, ?_, ?_, ?_⟩
  · rw [fixes, fixesFor, List.length_append, List.length_map, List.length_map, Nat.two_mul]
  · rw [fixes, fixesFor, List.take_left' (List.length_map _)]
    refine List.map_congr_left fun e he => ?_
    rw [lineFix, hversion e he]
  · rw [fixes, fixesFor, List.drop_left' (List.length_map _)]
    refine List.map_congr_left fun e he => ?_
    rw [fileFix, hversion e he]
    rfl

/-- **The registry answers from the last registration of a document.** If there is none, nothing
is found and no fix is offered. Otherwise, as long as the ends of all ranges are in order, what is
found are the violations of this registration that share a position with the range that is asked
for, and two fixes are offered for each of them. The documents that are counted are those that
have been registered, each of them once. -/
theorem answers_of_last_registration (directives : DirectiveSyntax) (gs : List Registration)
    (uri : String) {query : Range} (hquery : query.start ≤ query.stop) :
    ((∀ g ∈ gs, g.uri ≠ uri) → (after directives gs).entries uri = [] ∧
        (after directives gs).overlapping uri query = [] ∧
        (after directives gs).fixes uri query = []) ∧
      (∀ g, Registration.IsLast gs uri g → (∀ v ∈ g.violations, v.range.start ≤ v.range.stop) →
        g.uri = uri ∧ (after directives gs).AnswersFrom directives g query) ∧
      (after directives gs).documentCount = (gs.map (·.uri)).toFinset.card := by
  refine ⟨fun hnone => ?_, fun g hlast hviolations => ?_, documentCount_after directives gs⟩
  · have hheld : (after directives gs).entries uri = [] := entries_after_of_ne hnone
    have hfound : (after directives gs).overlapping uri query = [] := by
      rw [overlapping, hheld, List.filter_nil]
    refine ⟨hheld, hfound, ?_⟩
    rw [fixes, hfound]
    rfl
  · have hdirectives : (after directives gs).directives = directives := directives_foldl _ gs
    have hheld : (after directives gs).entries g.uri =
        g.entries (after directives gs).directives := by
      rw [hdirectives, hlast.uri_eq]
      exact entries_after_of_isLast hlast
    have hanswers := answersFrom_of_entries hheld hquery hviolations
    rw [hdirectives] at hanswers
    exact ⟨hlast.uri_eq, hanswers⟩

/-- A registration with three violations, two of which are the same. -/
def tripleRegistration : Registration where
  uri := "u"
  version := 2
  text := "ab\nc"
  violations :=
    [⟨⟨⟨0, 0⟩, ⟨0, 2⟩⟩, "m", "r", .error⟩, ⟨⟨⟨1, 0⟩, ⟨1, 1⟩⟩, "m", "s", .warning⟩,
      ⟨⟨⟨0, 0⟩, ⟨0, 2⟩⟩, "m", "r", .error⟩]

/-- A document is registered twice, with other documents between and behind. -/
def interleaved : List Registration :=
  [⟨"u", 1, "a", [⟨⟨⟨0, 0⟩, ⟨0, 1⟩⟩, "m", "q", .error⟩]⟩, ⟨"v", 7, "", []⟩, tripleRegistration,
    ⟨"w", 1, "a", []⟩]

/-- A range from the end of a line to the start of the next one. -/
def lineBreak : Range := ⟨⟨0, 2⟩, ⟨1, 0⟩⟩

theorem answers_of_last_registration_touching :
    lineBreak.start ≤ lineBreak.stop ∧ Registration.IsLast interleaved "u" tripleRegistration ∧
      (∀ v ∈ tripleRegistration.violations, v.range.start ≤ v.range.stop) ∧
      (after {} interleaved).AnswersFrom {} tripleRegistration lineBreak ∧
      (after {} interleaved).documentCount = (interleaved.map (·.uri)).toFinset.card := by
  have hquery : lineBreak.start ≤ lineBreak.stop := by decide
  have hlast : Registration.IsLast interleaved "u" tripleRegistration :=
    ⟨interleaved.take 2, interleaved.drop 3, rfl, rfl, by decide⟩
  have hviolations : ∀ v ∈ tripleRegistration.violations, v.range.start ≤ v.range.stop := by
    decide
  obtain ⟨-, hanswers, hcount⟩ :=
    answers_of_last_registration {} interleaved "u" hquery
  exact ⟨hquery, hlast, hviolations, (hanswers _ hlast hviolations).2, hcount⟩

end Registry

end LintBridge
