import LintBridge.Proofs.Session.Versions

set_option autoImplicit false

/-! # Which text a fix is made for

The fix for a line carries a copy of the line, so it does harm when the editor applies it to
another text. The editor protects itself by the version of the fix. This module says what that
version is worth: the fix wraps the line of a text that has arrived under this version
(`Reached.entries_cases` is the invariant behind it). Hence the version protects the stored
text as long as no other text has been stored under it, and in particular when versions
increase. It does not when a document is closed and opened anew in a version that it had
before, because the registry keeps what it holds for a closed document.
-/

namespace LintBridge

/-! ## Wrapped lines -/

/-- A line of a text. It is empty past the end of the text. -/
def Text.lineAt (text : String) (n : UInt32) : List Char :=
  (Text.lines text.toList)[n.toNat]?.getD []

/-- A line between the comments that disable and enable a rule, which are indented like the
line. -/
def DirectiveSyntax.wrap (s : DirectiveSyntax) (rule : String) (line : List Char) : String :=
  let indent := String.ofList (Text.indentation line)
  indent ++ s.disableMarker rule ++ "\n" ++ String.ofList line ++ "\n" ++
    indent ++ s.enableMarker rule ++ "\n"

/-- The fix replaces a line from its start on, by the line of `text` with the same number in
its wrapping. -/
def QuickFix.Wraps (f : QuickFix) (directives : DirectiveSyntax) (rule text : String) : Prop :=
  ∃ n stop, f.edits = [⟨⟨⟨n, 0⟩, stop⟩, directives.wrap rule (Text.lineAt text n)⟩]

namespace Registry

/-- The title of a fix tells those for a line from those for the file. -/
theorem title_lineFix_ne_fileFix (rule rule' : String) :
    "Disable: " ++ rule ++ " for this line" ≠ "Disable: " ++ rule' ++ " for this file" := by
  intro h
  have hlast := congrArg (fun s => s.toList.reverse.take 4) h
  simp [String.toList_append] at hlast

theorem exists_entry_of_title {r : Registry} {uri rule : String} {query : Range} {f : QuickFix}
    (hf : f ∈ r.fixes uri query) (ht : f.title = "Disable: " ++ rule ++ " for this line") :
    ∃ e ∈ r.entries uri, f = lineFix uri e ∧ e.violation.rule = rule := by
  rcases List.mem_append.mp hf with hline | hfile
  · obtain ⟨e, he, rfl⟩ := List.mem_map.mp hline
    refine ⟨e, (List.mem_filter.mp he).1, rfl, ?_⟩
    exact (String.append_right_inj _).mp ((String.append_left_inj _).mp ht)
  · obtain ⟨e, he, rfl⟩ := List.mem_map.mp hfile
    exact absurd ht.symm (title_lineFix_ne_fileFix rule e.violation.rule)

end Registry

/-- A fix for a line wraps the line of the text that was linted. -/
theorem LintJob.wraps_of_mem_entries {directives : DirectiveSyntax} {job : LintJob}
    {report : Option (List String)} {e : RegisteredViolation} (uri : String)
    (h : e ∈ job.entries directives report) :
    (Registry.lineFix uri e).version = job.document.version ∧
      (Registry.lineFix uri e).Wraps directives e.violation.rule job.document.text := by
  obtain ⟨v, -, rfl⟩ := List.mem_map.mp h
  exact ⟨rfl, v.line, v.range.stop, rfl⟩

namespace Session

variable {source : String} {directives : DirectiveSyntax} {log : Log} {s : Session}

/-! ## Where the entries of the registry come from -/

/-- Whatever the registry holds for a document is the outcome of one of its lint runs. -/
theorem Reached.entries_cases (h : Reached source directives log s) (uri : String) :
    s.entries uri = [] ∨ ∃ (k : Nat) (job : LintJob) (report : Option (List String)),
      s.runs[k]? = some ⟨job, true⟩ ∧ job.uri = uri ∧
        s.entries uri = job.entries directives report := by
  induction h with
  | start => exact Or.inl rfl
  | buffered bytes h ih => exact ih
  | step m h ready ih =>
      have heff := move_effect ready uri
      rcases heff.entries_cases with hkeep | ⟨k, report, job, rfl, hk, hu, he⟩
      · -- The run stays in the list of runs, as a run that has ended.
        rw [hkeep]
        rcases ih with hnil | ⟨k, job, report, hk, hu, he⟩
        · exact Or.inl hnil
        · obtain ⟨ended, hk', hended⟩ := heff.run_kept hu hk
          rw [hended rfl] at hk'
          exact Or.inr ⟨k, job, report, hk', hu, he⟩
      · rw [h.settings.1] at he
        exact Or.inr ⟨k, job, report, heff.run_ended hu hk, hu, he⟩

/-! ## What the version of a fix is worth -/

/-- **The version of a fix.** A fix for a line wraps the line of a text that has arrived, and
has been linted, under the version of the fix. So when this is the stored version, it wraps the
line of the stored text, unless another text has been stored under the same version. With
increasing versions none has. -/
theorem line_fix_wraps_text_of_version (h : Reached source directives log s)
    {uri rule : String} {query : Range} {f : QuickFix}
    (hf : f ∈ s.server.registry.fixes uri query)
    (htitle : f.title = "Disable: " ++ rule ++ " for this line") :
    (∃ d, f.version = d.version ∧ ⟨uri, d⟩ ∈ Log.texts log ∧ ⟨⟨uri, d⟩, true⟩ ∈ s.runs ∧
      f.Wraps directives rule d.text) ∧
    (∀ d, s.document? uri = some d → f.version = d.version →
      (∀ run ∈ s.runs, run.job.uri = uri → run.job.document.version = d.version →
        run.job.document.text = d.text) → f.Wraps directives rule d.text) ∧
    (log.Increasing → ∀ d, s.document? uri = some d → f.version = d.version →
      f.Wraps directives rule d.text) := by
  obtain ⟨e, he, rfl, rfl⟩ := Registry.exists_entry_of_title hf htitle
  rcases h.entries_cases uri with hnil | ⟨k, job, report, hk, rfl, hentries⟩
  · rw [entries] at hnil
    rw [hnil] at he
    cases he
  · rw [← entries, hentries] at he
    obtain ⟨hversion, hwraps⟩ := LintJob.wraps_of_mem_entries job.uri he
    have hrun : ⟨job, true⟩ ∈ s.runs := List.mem_of_getElem? hk
    refine ⟨⟨job.document, hversion, h.mem_texts_of_run hk, hrun, hwraps⟩, ?_, ?_⟩
    · intro d hd hv hsame
      rw [← hsame ⟨job, true⟩ hrun rfl (hversion.symm.trans hv)]
      exact hwraps
    · intro hlog d hd hv
      -- The stored text has a lint run of its own, which is then this one.
      obtain ⟨j, ended, hj⟩ := h.run_of_document hd
      have hjk : k = j := h.run_unique hlog hk hj rfl (hversion.symm.trans hv)
      subst hjk
      have hdocument : job.document = d :=
        congrArg (fun run => run.job.document) (Option.some.inj (hk.symm.trans hj))
      rw [← hdocument]
      exact hwraps

/-- A document is linted. -/
def linting : List Move :=
  [.received (.opening ⟨"file:///w/a.sql", ⟨1, "a"⟩⟩), .ended 0 (some ["(1,1): error r : m"])]

/-- The fix that is offered for it. -/
def lintingFix : QuickFix where
  title := "Disable: r for this line"
  uri := "file:///w/a.sql"
  version := 1
  edits := [⟨⟨⟨0, 0⟩, ⟨0, 1⟩⟩, "/* tsqllint-disable r */\na\n/* tsqllint-enable r */\n"⟩]

theorem line_fix_wraps_text_of_version_linting :
    let p := (init "TSQLLint" {}).play linting
    Reached "TSQLLint" {} p.1 p.2 ∧ p.1.Increasing ∧
      p.2.document? "file:///w/a.sql" = some ⟨1, "a"⟩ ∧
      lintingFix ∈ p.2.server.registry.fixes "file:///w/a.sql" (.point .origin) ∧
      lintingFix.title = "Disable: " ++ "r" ++ " for this line" ∧
      lintingFix.Wraps {} "r" "a" := by
  have hplay : (init "TSQLLint" {}).CanPlay linting := by decide +kernel
  have hlog : ((init "TSQLLint" {}).play linting).1.Increasing := by decide +kernel
  have hdocument : ((init "TSQLLint" {}).play linting).2.document? "file:///w/a.sql" =
      some ⟨1, "a"⟩ := by decide +kernel
  have hfix : lintingFix ∈ ((init "TSQLLint" {}).play linting).2.server.registry.fixes
      "file:///w/a.sql" (.point .origin) := by decide +kernel
  have htitle : lintingFix.title = "Disable: " ++ "r" ++ " for this line" := by decide +kernel
  have hreached := Reached.start.play hplay
  obtain ⟨-, -, hwraps⟩ := line_fix_wraps_text_of_version hreached hfix htitle
  have hline := hwraps hlog _ hdocument rfl
  exact ⟨hreached, hlog, hdocument, hfix, htitle, hline⟩

/-- When the document is then closed and opened anew in the same version, the fix is still
offered, though the stored text is another one. -/
theorem line_fix_of_stored_version_wraps_other_text :
    let p := (init "TSQLLint" {}).play (linting ++
      [.received (.closing "file:///w/a.sql"),
        .received (.opening ⟨"file:///w/a.sql", ⟨1, "b"⟩⟩)])
    Reached "TSQLLint" {} p.1 p.2 ∧ p.2.document? "file:///w/a.sql" = some ⟨1, "b"⟩ ∧
      lintingFix ∈ p.2.server.registry.fixes "file:///w/a.sql" (.point .origin) ∧
      lintingFix.title = "Disable: " ++ "r" ++ " for this line" ∧
      lintingFix.version = 1 ∧ ¬ lintingFix.Wraps {} "r" "b" := by
  have hplay : (init "TSQLLint" {}).CanPlay (linting ++
      [.received (.closing "file:///w/a.sql"),
        .received (.opening ⟨"file:///w/a.sql", ⟨1, "b"⟩⟩)]) := by decide +kernel
  refine ⟨Reached.start.play hplay, by decide +kernel, by decide +kernel, by decide +kernel,
    rfl, ?_⟩
  -- The edit begins on the first line, which is another one in the stored text.
  rintro ⟨n, stop, hedits⟩
  simp only [lintingFix, List.cons.injEq, TextEdit.mk.injEq, Range.mk.injEq,
    Position.mk.injEq] at hedits
  obtain ⟨⟨⟨⟨rfl, -⟩, -⟩, htext⟩, -⟩ := hedits
  revert htext
  decide +kernel

end Session

end LintBridge
