import LintBridge.Proofs.Session.Run

set_option autoImplicit false

/-! # Versions in a run

The editor chooses the versions of its texts. While a document stays open the stored version
only grows, since an older text is refused; but a document that is closed and opened again may
start anew with any version, even with one that it had before. This module says how the lint
runs, the stored texts and the texts that have arrived hang together in every run, and what
more is known when the editor never goes back to an older version (`Log.Increasing`). It then
settles for which stored versions the outcome of a lint run counts.
-/

namespace LintBridge

/-! ## Increasing versions -/

namespace Log

/-- Every text of a document has a greater version than all texts of this document that have
arrived before it, whether the document was closed in between or not. -/
def Increasing (log : Log) : Prop :=
  (texts log).Pairwise fun a b => a.uri = b.uri → a.document.version < b.document.version

instance (log : Log) : Decidable log.Increasing :=
  inferInstanceAs (Decidable (List.Pairwise _ _))

variable {log : Log} {m : Move} {r : Reaction} {t t' : DocumentText}

theorem mem_texts_append :
    t ∈ texts (log ++ [(m, r)]) ↔ t ∈ texts log ∨ m.documentText? = some t := by
  rw [texts_append, List.mem_append, Option.mem_toList]

theorem Increasing.of_append (h : Increasing (log ++ [(m, r)])) : Increasing log := by
  rw [Increasing, texts_append] at h
  exact (List.pairwise_append.mp h).1

theorem Increasing.lt_of_text (h : Increasing (log ++ [(m, r)]))
    (ht : m.documentText? = some t) (ht' : t' ∈ texts log) (hu : t'.uri = t.uri) :
    t'.document.version < t.document.version := by
  rw [Increasing, texts_append, ht] at h
  exact (List.pairwise_append.mp h).2.2 t' ht' t (List.mem_singleton_self t) hu

end Log

namespace Session

variable {source : String} {directives : DirectiveSyntax} {log : Log} {s : Session}
  {uri : String} {d : Document}

/-! ## Texts and lint runs -/

/-- Every lint run works on a text that has arrived. -/
theorem Reached.mem_texts_of_run {k : Nat} {run : LintRun}
    (h : Reached source directives log s) (hk : s.runs[k]? = some run) :
    ⟨run.job.uri, run.job.document⟩ ∈ Log.texts log := by
  induction h generalizing run with
  | start => cases hk
  | buffered bytes h ih => exact ih hk
  | step m h ready ih =>
      rw [Log.mem_texts_append]
      have heff := move_effect ready run.job.uri
      rcases heff.run_origin rfl hk with ⟨old, hold⟩ | ⟨-, htext⟩
      · have hmem := ih hold
        exact Or.inl hmem
      · exact Or.inr htext

/-- There is a lint run on the text of every open document. -/
theorem Reached.run_of_document (h : Reached source directives log s)
    (hd : s.document? uri = some d) :
    ∃ (k : Nat) (ended : Bool), s.runs[k]? = some ⟨⟨uri, d⟩, ended⟩ := by
  induction h with
  | start => cases hd
  | buffered bytes h ih => exact ih hd
  | step m h ready ih =>
      have heff := move_effect ready uri
      rcases heff.document_cases hd with hold | ⟨-, hruns⟩
      · obtain ⟨k, ended, hk⟩ := ih hold
        obtain ⟨ended', hk', -⟩ := heff.run_kept rfl hk
        exact ⟨k, ended', hk'⟩
      · exact ⟨_, false, by rw [hruns]; exact List.getElem?_concat_length⟩

/-! ## The stored version -/

/-- A text that arrives is stored, or a newer one is. -/
theorem Effect.version_le_of_text {m : Move} {s' : Session} {r : Reaction}
    (h : Effect uri s m s' r) (ht : m.documentText? = some ⟨uri, d⟩) :
    ∃ stored, s'.document? uri = some stored ∧ d.version ≤ stored.version := by
  cases h with
  | recorded text newest document entries runs started shown =>
      cases ht.symm.trans text
      exact ⟨d, document, Int32.le_rfl⟩
  | closed closing opened document entries runs shown =>
      rw [Server.closedDocument?_of_text ht] at closing
      cases closing
  | linted about pending accepted document entries runs shown => cases ht
  | dropped about pending refused document entries runs shown => cases ht
  | other text closing ended document entries runs shown =>
      have hnewer := text d ht
      cases hd : s.document? uri with
      | none =>
          rw [hd] at hnewer
          cases hnewer
      | some stored =>
          rw [hd] at hnewer
          exact ⟨stored, document.trans hd, Int32.le_of_lt (of_decide_eq_true hnewer)⟩

/-- A move that does not close a document does not lower its version. -/
theorem Effect.version_le_of_open {m : Move} {s' : Session} {r : Reaction}
    (h : Effect uri s m s' r) (hd : s.document? uri = some d) (hm : ¬ m.Closes uri) :
    ∃ stored, s'.document? uri = some stored ∧ d.version ≤ stored.version := by
  cases h with
  | recorded text newest document entries runs started shown =>
      rw [hd] at newest
      exact ⟨_, document, Int32.not_lt.mp (of_decide_eq_false newest)⟩
  | closed closing opened document entries runs shown => exact absurd closing hm
  | linted about pending accepted document entries runs shown =>
      exact ⟨d, document.trans hd, Int32.le_rfl⟩
  | dropped about pending refused document entries runs shown =>
      exact ⟨d, document.trans hd, Int32.le_rfl⟩
  | other text closing ended document entries runs shown =>
      exact ⟨d, document.trans hd, Int32.le_rfl⟩

/-- While a document stays open after the arrival of a text, its version does not fall below
that of the text, be the text stored or refused. -/
theorem Reached.version_le_while_open {before after : Log} {m : Move} {r : Reaction}
    (h : Reached source directives log s) (hlog : log = before ++ (m, r) :: after)
    (ht : m.documentText? = some ⟨uri, d⟩) (hopen : ∀ e ∈ after, ¬ e.1.Closes uri) :
    ∃ stored, s.document? uri = some stored ∧ d.version ≤ stored.version := by
  induction h generalizing after with
  | start => simp at hlog
  | buffered bytes h ih => exact ih hlog hopen
  | @step log s m' h ready ih =>
      have heff := move_effect ready uri
      rcases List.eq_nil_or_concat after with rfl | ⟨rest, e, rfl⟩
      · -- The last move is the arrival of the text itself.
        obtain ⟨-, hlast⟩ := List.append_inj' hlog rfl
        cases hlast
        exact heff.version_le_of_text ht
      · rw [List.concat_eq_append, ← List.cons_append, ← List.append_assoc] at hlog
        obtain ⟨hinit, hlast⟩ := List.append_inj' hlog rfl
        cases hlast
        obtain ⟨d', hd', hle⟩ := ih hinit fun e he => hopen e (by simp [he])
        have hm : ¬ m'.Closes uri := hopen (m', (s.move m').2) (by simp)
        obtain ⟨stored, hstored, hle'⟩ := heff.version_le_of_open hd' hm
        exact ⟨stored, hstored, Int32.le_trans hle hle'⟩

/-! ## Increasing versions in a run -/

/-- With increasing versions, an open document has the greatest version that has arrived. -/
theorem Reached.version_le_of_mem_texts {t : DocumentText}
    (h : Reached source directives log s) (hlog : log.Increasing)
    (hd : s.document? uri = some d) (ht : t ∈ Log.texts log) (hu : t.uri = uri) :
    t.document.version ≤ d.version := by
  induction h generalizing d t with
  | start => cases hd
  | buffered bytes h ih => exact ih hlog hd ht hu
  | step m h ready ih =>
      subst hu
      have heff := move_effect ready t.uri
      rcases Log.mem_texts_append.mp ht with hold | hnew
      · rcases heff.document_cases hd with hd' | ⟨htext, -⟩
        · exact ih hlog.of_append hd' hold rfl
        · exact Int32.le_of_lt (hlog.lt_of_text htext hold rfl)
      · -- The text has just arrived, so it is stored, or a newer one is.
        obtain ⟨stored, hstored, hle⟩ := heff.version_le_of_text hnew
        cases hd.symm.trans hstored
        exact hle

/-- With increasing versions, no two lint runs work on the same version of a document. -/
theorem Reached.run_unique {j k : Nat} {run run' : LintRun}
    (h : Reached source directives log s) (hlog : log.Increasing)
    (hj : s.runs[j]? = some run) (hk : s.runs[k]? = some run') (hu : run.job.uri = run'.job.uri)
    (hv : run.job.document.version = run'.job.document.version) : j = k := by
  induction h generalizing run run' with
  | start => cases hj
  | buffered bytes h ih => exact ih hlog hj hk hu hv
  | step m h ready ih =>
      have horigin := (move_effect ready run.job.uri).run_origin rfl hj
      have horigin' := (move_effect ready run'.job.uri).run_origin rfl hk
      rcases horigin with ⟨old, hold⟩ | ⟨hlen, htext⟩
      · rcases horigin' with ⟨old', hold'⟩ | ⟨-, htext'⟩
        · exact ih hlog.of_append hold hold' hu hv
        · -- The new run has a text of greater version than any run before it.
          have hlt := hlog.lt_of_text htext' (h.mem_texts_of_run hold) hu
          exact absurd hv (Int32.ne_of_lt hlt)
      · rcases horigin' with ⟨old', hold'⟩ | ⟨hlen', -⟩
        · have hlt := hlog.lt_of_text htext (h.mem_texts_of_run hold') hu.symm
          exact absurd hv.symm (Int32.ne_of_lt hlt)
        · rw [hlen, hlen']

/-! ## The outcome of a lint run -/

/-- The outcome `p` of a move sends something or changes the registry. -/
def Changes (s : Session) (p : Session × Reaction) : Prop :=
  p.2.sent ≠ [] ∨ p.1.server.registry ≠ s.server.registry

/-- Exactly the outcomes that the server accepts change anything. -/
theorem changes_ended_iff {k : Nat} {job : LintJob} (hx : s.exit = none)
    (hk : s.runs[k]? = some ⟨job, false⟩) (report : Option (List String)) :
    s.Changes (s.move (.ended k report)) ↔ s.server.Accepts job := by
  rw [move_ended hx hk]
  by_cases ha : s.server.Accepts job
  · rw [Server.applyLint_accepted ha]
    exact ⟨fun _ => ha, fun _ => Or.inl (List.cons_ne_nil _ _)⟩
  · rw [Server.applyLint_dropped ha]
    refine ⟨?_, fun h => absurd h ha⟩
    rintro (hsent | hregistry)
    · exact absurd rfl hsent
    · exact absurd rfl hregistry

/-- **When an outcome is tied to the current version.** The outcome of a lint run changes
something exactly if its document is open in no newer version. So it is tied to the version
that was linted exactly if the stored version is not a lower one. For the stored version to be
lower, the document must have been closed after every arrival of the text that was linted, and
with increasing versions it never is. -/
theorem tied_to_current_version_iff (h : Reached source directives log s) (hx : s.exit = none)
    {k : Nat} {job : LintJob} (hk : s.runs[k]? = some ⟨job, false⟩)
    (report : Option (List String)) :
    (s.Changes (s.move (.ended k report)) ↔
      ∃ d, s.document? job.uri = some d ∧ d.version ≤ job.document.version) ∧
    ((s.Changes (s.move (.ended k report)) →
        ∃ d, s.document? job.uri = some d ∧ d.version = job.document.version) ↔
      ∀ d, s.document? job.uri = some d → ¬ d.version < job.document.version) ∧
    (∀ d, s.document? job.uri = some d → d.version < job.document.version →
      ∀ before m r after, log = before ++ (m, r) :: after →
        m.documentText? = some ⟨job.uri, job.document⟩ → ∃ e ∈ after, e.1.Closes job.uri) ∧
    (log.Increasing →
      ∀ d, s.document? job.uri = some d → ¬ d.version < job.document.version) := by
  have hchanges := changes_ended_iff hx hk report
  refine ⟨hchanges, ⟨fun htied d hd hlt => ?_, fun hnot hch => ?_⟩, ?_, ?_⟩
  · obtain ⟨d', hd', heq⟩ := htied (hchanges.mpr ⟨d, hd, Int32.le_of_lt hlt⟩)
    cases hd.symm.trans hd'
    exact Int32.ne_of_lt hlt heq
  · obtain ⟨d, hd, hle⟩ := hchanges.mp hch
    exact ⟨d, hd, Int32.le_antisymm hle (Int32.not_lt.mp (hnot d hd))⟩
  · intro d hd hlt before m r after hlog ht
    refine Classical.byContradiction fun hopen => ?_
    have hopen' : ∀ e ∈ after, ¬ e.1.Closes job.uri := fun e he hc => hopen ⟨e, he, hc⟩
    obtain ⟨stored, hstored, hle⟩ := h.version_le_while_open hlog ht hopen'
    cases hd.symm.trans hstored
    exact Int32.not_lt.mpr hle hlt
  · intro hlog d hd
    have hle := h.version_le_of_mem_texts hlog hd (h.mem_texts_of_run hk) rfl
    exact Int32.not_lt.mpr hle

/-- A document is opened in version 5, closed, and opened anew in version 1, while the lint
run on version 5 goes on. -/
def reopening : List Move :=
  [.received (.opening ⟨"file:///w/a.sql", ⟨5, "a"⟩⟩), .received (.closing "file:///w/a.sql"),
    .received (.opening ⟨"file:///w/a.sql", ⟨1, "b"⟩⟩)]

private theorem canPlay_reopening : (init "TSQLLint" {}).CanPlay reopening := by decide +kernel

private theorem run_reopening : ((init "TSQLLint" {}).play reopening).2.runs[0]? =
    some ⟨⟨"file:///w/a.sql", ⟨5, "a"⟩⟩, false⟩ := by decide +kernel

private theorem document_reopening :
    ((init "TSQLLint" {}).play reopening).2.document? "file:///w/a.sql" = some ⟨1, "b"⟩ := by
  decide +kernel

theorem tied_to_current_version_iff_reopening :
    let p := (init "TSQLLint" {}).play reopening
    Reached "TSQLLint" {} p.1 p.2 ∧ p.2.exit = none ∧
      p.2.runs[0]? = some ⟨⟨"file:///w/a.sql", ⟨5, "a"⟩⟩, false⟩ ∧
      p.2.Changes (p.2.move (.ended 0 (some ["(1,1): error r : m"]))) ∧
      (∀ before m r after, p.1 = before ++ (m, r) :: after →
        m.documentText? = some ⟨"file:///w/a.sql", ⟨5, "a"⟩⟩ →
          ∃ e ∈ after, e.1.Closes "file:///w/a.sql") ∧
      ¬ p.1.Increasing := by
  have hreached := Reached.start.play canPlay_reopening
  have hexit : ((init "TSQLLint" {}).play reopening).2.exit = none := by decide +kernel
  obtain ⟨hchanges, -, hclosed, hnever⟩ :=
    tied_to_current_version_iff hreached hexit run_reopening (some ["(1,1): error r : m"])
  refine ⟨hreached, hexit, run_reopening, hchanges.mpr ⟨_, document_reopening, by decide⟩, ?_, ?_⟩
  · exact hclosed _ document_reopening (by decide)
  · intro hlog
    exact hnever hlog _ document_reopening (by decide)

/-- The outcome of the lint run on version 5 is then shown and registered, though the document
is open in version 1. -/
theorem outcome_counts_for_lower_version :
    let p := (init "TSQLLint" {}).play reopening
    Reached "TSQLLint" {} p.1 p.2 ∧
      p.2.runs[0]? = some ⟨⟨"file:///w/a.sql", ⟨5, "a"⟩⟩, false⟩ ∧
      p.2.Changes (p.2.move (.ended 0 (some ["(1,1): error r : m"]))) ∧
      ¬ ∃ d, p.2.document? "file:///w/a.sql" = some d ∧ d.version = 5 := by
  have hexit : ((init "TSQLLint" {}).play reopening).2.exit = none := by decide +kernel
  have hchanges := changes_ended_iff hexit run_reopening (some ["(1,1): error r : m"])
  refine ⟨Reached.start.play canPlay_reopening, run_reopening,
    hchanges.mpr ⟨_, document_reopening, by decide⟩, ?_⟩
  rintro ⟨d, hd, hversion⟩
  cases document_reopening.symm.trans hd
  revert hversion
  decide

end Session

end LintBridge
