import LintBridge.Proofs.Server.Heeded
import LintBridge.Proofs.Session.Run

set_option autoImplicit false

/-! # Documents do not interfere

Four things concern a document: a text of it arrives, it is closed, its fixes are asked for, or
a lint run on it ends (`Concern`). Seen from the document, a whole session is no more than a
small machine (`Aspect`) that takes these things one after the other: it holds the stored text
and the entries of the registry, and it says what the editor is told about the document. That
this is so in every run is `Reached.run_about`, by one case for each move. Hence two sessions in
which the same happens to a document treat it alike (`documents_do_not_interfere`), whatever
else happens in them.
-/

namespace LintBridge

/-! ## What concerns a document -/

/-- Something that happens to a document. -/
inductive Concern
  /-- A text arrives. -/
  | text (d : Document)
  /-- The document is closed. -/
  | closing
  /-- The fixes at a range are asked for. -/
  | query (id : Json) (range : Range)
  /-- A lint run on a text ends. -/
  | outcome (d : Document) (report : Option (List String))

namespace Json

/-- The request for fixes that a value from the editor is. -/
def fixQuery? (v : Json) : Option (Json × FixQuery) :=
  match Incoming.ofJson? v with
  | some (.request id "textDocument/codeAction" params) =>
    (FixQuery.read (params.getD .null)).toOption.map (id, ·)
  | _ => none

/-- What a value from the editor means for a document. -/
def concern? (v : Json) (uri : String) : Option Concern :=
  match v.documentText?, v.closedDocument?, v.fixQuery? with
  | some t, _, _ => if t.uri = uri then some (.text t.document) else none
  | none, some u, _ => if u = uri then some .closing else none
  | none, none, some (id, q) => if q.uri = uri then some (.query id q.range) else none
  | none, none, none => none

theorem queries_of_fixQuery? {v id : Json} {q : FixQuery} (h : v.fixQuery? = some (id, q)) :
    v.Queries id q := by
  unfold fixQuery? at h
  split at h
  · rename_i id' params hi
    obtain ⟨q', hq, heq⟩ := Option.map_eq_some_iff.mp h
    cases heq
    obtain ⟨requests, hparams⟩ := requests_of_ofJson? hi
    rw [hparams, toOption_eq_some_iff] at hq
    exact ⟨requests, hq⟩
  · cases h

/-- The frame sets the diagnostics of a document. -/
def setsDiagnostics (v : Json) (uri : String) : Bool :=
  match v.field? "method", (v.field? "params").bind (·.field? "uri") with
  | some (.string method), some (.string u) =>
    method = "textDocument/publishDiagnostics" && u = uri
  | _, _ => false

end Json

namespace Move

/-- What a move means for a document. The lint runs are those on `jobs`. -/
def concern? (jobs : List LintJob) (uri : String) : Move → Option Concern
  | received v => v.concern? uri
  | ended k report => jobs[k]?.bind fun job =>
    if job.uri = uri then some (.outcome job.document report) else none
  | disconnected => none

end Move

/-- The fixes of the document are asked for. -/
def Concern.isQuery : Concern → Bool
  | query _ _ => true
  | text _ | closing | outcome _ _ => false

/-- What a reaction tells the editor about a document: its diagnostics, and any reply at all if
the reaction is to a request for its fixes. -/
def Reaction.told (r : Reaction) (c : Option Concern) (uri : String) : List Json :=
  r.frames.filter fun v => c.any Concern.isQuery || v.setsDiagnostics uri

namespace Log

/-- The texts of all lint runs that have been started. -/
def jobs (log : Log) : List LintJob := log.flatMap (·.2.started)

/-- What happens to a document and what the editor is then told, in a log behind the start of
the lint runs on `jobs`. -/
def courseFrom (uri : String) (jobs : List LintJob) : Log → List (Option Concern × List Json)
  | [] => []
  | (m, r) :: log => (m.concern? jobs uri, r.told (m.concern? jobs uri) uri) ::
    courseFrom uri (jobs ++ r.started) log

/-- What happens to a document, in order. -/
def about (log : Log) (uri : String) : List Concern := (courseFrom uri [] log).filterMap (·.1)

/-- What the editor is told about a document, in order: its diagnostics, and the replies to the
requests for its fixes. -/
def told (log : Log) (uri : String) : List Json := (courseFrom uri [] log).flatMap (·.2)

theorem jobs_append (log : Log) (m : Move) (r : Reaction) :
    jobs (log ++ [(m, r)]) = jobs log ++ r.started := by
  simp [jobs, List.flatMap_append]

theorem courseFrom_append (uri : String) (js : List LintJob) (log : Log) (m : Move) (r : Reaction) :
    courseFrom uri js (log ++ [(m, r)]) = courseFrom uri js log ++
      [(m.concern? (js ++ jobs log) uri, r.told (m.concern? (js ++ jobs log) uri) uri)] := by
  induction log generalizing js with
  | nil => simp [courseFrom, jobs]
  | cons e log ih =>
      have hjobs : jobs (e :: log) = e.2.started ++ jobs log := rfl
      rw [List.cons_append, courseFrom, ih, courseFrom, hjobs]
      simp only [List.append_assoc, List.cons_append]

theorem about_append (uri : String) (log : Log) (m : Move) (r : Reaction) :
    about (log ++ [(m, r)]) uri = about log uri ++ (m.concern? log.jobs uri).toList := by
  rw [about, courseFrom_append, List.filterMap_append, List.nil_append]
  cases m.concern? log.jobs uri <;> rfl

theorem told_append (uri : String) (log : Log) (m : Move) (r : Reaction) :
    told (log ++ [(m, r)]) uri = told log uri ++ r.told (m.concern? log.jobs uri) uri := by
  rw [told, courseFrom_append, List.flatMap_append, List.nil_append]
  simp [told]

end Log

/-! ## The machine of a document -/

/-- What the server holds on a document. -/
structure Aspect where
  document : Option Document := none
  entries : List RegisteredViolation := []

namespace Aspect

/-- The fixes at a range. -/
def fixes (directives : DirectiveSyntax) (uri : String) (x : Aspect) (range : Range) :
    List QuickFix :=
  let es := x.entries.filter (·.violation.range.overlaps range)
  es.map (Registry.lineFix uri) ++ es.map (Registry.fileFix directives uri)

/-- Takes one thing that happens to the document, and says what the editor is told. -/
def step (source : String) (directives : DirectiveSyntax) (uri : String) (x : Aspect) :
    Concern → Aspect × List Json
  | .text d => (if DocumentStore.isNewer x.document d.version then x
      else { x with document := some d }, [])
  | .closing => ({ x with document := none },
      x.document.toList.map fun d => (Outgoing.diagnostics uri d.version []).toJson)
  | .query id range => (x,
      [(Outgoing.result id (.array ((x.fixes directives uri range).map QuickFix.toJson))).toJson])
  | .outcome d report =>
    if x.document.all fun stored => d.version < stored.version then (x, [])
    else ({ x with entries := LintJob.entries directives ⟨uri, d⟩ report },
      [(Outgoing.diagnostics uri d.version
        ((LintJob.violations ⟨uri, d⟩ report).map (.ofViolation source))).toJson])

/-- Takes everything that happens to the document from the start of a session on. -/
def run (source : String) (directives : DirectiveSyntax) (uri : String) (cs : List Concern) :
    Aspect × List Json :=
  cs.foldl (fun p c => ((p.1.step source directives uri c).1,
    p.2 ++ (p.1.step source directives uri c).2)) ({}, [])

theorem run_concat (source : String) (directives : DirectiveSyntax) (uri : String)
    (cs : List Concern) (c : Concern) :
    run source directives uri (cs ++ [c]) =
      (((run source directives uri cs).1.step source directives uri c).1,
        (run source directives uri cs).2 ++
          ((run source directives uri cs).1.step source directives uri c).2) := by
  rw [run, List.foldl_append]
  rfl

end Aspect

/-! ## One event -/

theorem Outgoing.setsDiagnostics_toJson (m : Outgoing) (uri : String) :
    m.toJson.setsDiagnostics uri = (m.shownFor? uri).isSome := by
  cases m with
  | result id value => rfl
  | refusal id why => rfl
  | applyEdits id edits => rfl
  | diagnostics u version list =>
      have hsets : (diagnostics u version list).toJson.setsDiagnostics uri = decide (u = uri) := rfl
      rw [hsets, shownFor?]
      by_cases hu : u = uri <;> simp [hu]

namespace Reaction

variable {r : Reaction} {c : Option Concern} {uri : String}

theorem told_of_shown_nil (hc : c.any Concern.isQuery = false) (h : r.shown uri = []) :
    r.told c uri = [] := by
  rw [told, hc, List.filter_eq_nil_iff]
  intro v hv
  obtain ⟨m, hm, rfl⟩ := List.mem_map.mp hv
  rw [Bool.false_or, Outgoing.setsDiagnostics_toJson, List.filterMap_eq_nil_iff.mp h m hm]
  exact Bool.false_ne_true

theorem told_diagnostics (hc : c.any Concern.isQuery = false) (u uri : String) (version : Int32)
    (list : List Diagnostic) : told { sent := [.diagnostics u version list] } c uri =
      if u = uri then [(Outgoing.diagnostics u version list).toJson] else [] := by
  show List.filter _ [(Outgoing.diagnostics u version list).toJson] = _
  rw [hc]
  simp only [List.filter_cons, Bool.false_or, Outgoing.setsDiagnostics_toJson, Outgoing.shownFor?,
    List.filter_nil]
  by_cases hu : u = uri <;> simp [hu]

theorem told_of_query (hc : c.any Concern.isQuery = true) : r.told c uri = r.frames := by
  rw [told, hc]
  exact List.filter_eq_self.mpr fun v _ => rfl

end Reaction

/-- What the server holds on a document. -/
def Server.aspect (s : Server) (uri : String) : Aspect :=
  ⟨s.documents.get? uri, s.registry.entries uri⟩

/-- To the document, the outcome `p` is what its machine does about `c`, or nothing at all. -/
structure Server.Follows (s : Server) (uri : String) (c : Option Concern) (p : Server × Reaction) :
    Prop where
  aspect : p.1.aspect uri =
    c.elim (s.aspect uri) fun c => ((s.aspect uri).step s.source s.registry.directives uri c).1
  told : p.2.told c uri =
    c.elim [] fun c => ((s.aspect uri).step s.source s.registry.directives uri c).2

namespace Server

variable {s : Server} {v : Json}

private theorem follows_of_text {t : DocumentText} (uri : String) (ht : v.documentText? = some t) :
    s.Follows uri (v.concern? uri) (s.receive v) := by
  have hconcern : v.concern? uri = if t.uri = uri then some (.text t.document) else none := by
    simp only [Json.concern?, ht]
  rw [receive_of_text ht, hconcern]
  cases hn : DocumentStore.isNewer (s.documents.get? t.uri) t.document.version with
  | true =>
      rw [recordText_refused hn]
      by_cases hu : t.uri = uri
      · subst hu
        rw [if_pos rfl]
        refine ⟨?_, Reaction.told_of_shown_nil rfl rfl⟩
        simp only [Option.elim_some, Aspect.step, aspect, hn, if_true]
      · rw [if_neg hu]
        exact ⟨rfl, Reaction.told_of_shown_nil rfl rfl⟩
  | false =>
      rw [recordText_accepted hn]
      by_cases hu : t.uri = uri
      · subst hu
        rw [if_pos rfl]
        refine ⟨?_, Reaction.told_of_shown_nil rfl rfl⟩
        simp [Aspect.step, aspect, hn, UriMap.get?_insert]
      · rw [if_neg hu]
        refine ⟨?_, Reaction.told_of_shown_nil rfl rfl⟩
        simp [aspect, UriMap.get?_insert, hu]

private theorem follows_of_closing {u : String} (uri : String) (ht : v.documentText? = none)
    (hc : v.closedDocument? = some u) : s.Follows uri (v.concern? uri) (s.receive v) := by
  have hconcern : v.concern? uri = if u = uri then some .closing else none := by
    simp only [Json.concern?, ht, hc]
  rw [receive_of_closing hc, hconcern]
  cases hd : s.documents.get? u with
  | none =>
      rw [closeDocument_unknown hd]
      by_cases hu : u = uri
      · subst hu
        rw [if_pos rfl]
        refine ⟨?_, ?_⟩
        · simp [Aspect.step, aspect, hd]
        · simp [Aspect.step, aspect, hd, Reaction.told, Reaction.frames]
      · rw [if_neg hu]
        exact ⟨rfl, Reaction.told_of_shown_nil rfl rfl⟩
  | some d =>
      rw [closeDocument_open hd]
      by_cases hu : u = uri
      · subst hu
        rw [if_pos rfl]
        refine ⟨?_, ?_⟩
        · simp [Aspect.step, aspect, UriMap.get?_erase]
        · rw [Reaction.told_diagnostics rfl, if_pos rfl]
          simp [Aspect.step, aspect, hd]
      · rw [if_neg hu]
        refine ⟨?_, ?_⟩
        · simp [aspect, UriMap.get?_erase, hu]
        · rw [Reaction.told_diagnostics rfl, if_neg hu]
          rfl

private theorem follows_of_query {id : Json} {q : FixQuery} (uri : String)
    (ht : v.documentText? = none) (hc : v.closedDocument? = none)
    (hq : v.fixQuery? = some (id, q)) : s.Follows uri (v.concern? uri) (s.receive v) := by
  have hconcern : v.concern? uri = if q.uri = uri then some (.query id q.range) else none := by
    simp only [Json.concern?, ht, hc, hq]
  have hquiet := receive_quiet (s := s) ht hc
  rw [receive_of_queries (Json.queries_of_fixQuery? hq)] at hquiet ⊢
  rw [hconcern]
  by_cases hu : q.uri = uri
  · rw [if_pos hu, ← hu]
    exact ⟨rfl, Reaction.told_of_query rfl⟩
  · rw [if_neg hu]
    exact ⟨rfl, Reaction.told_of_shown_nil rfl (hquiet.shown uri)⟩

/-- A value from the editor is to each document what it means for it. -/
theorem receive_follows (s : Server) (v : Json) (uri : String) :
    s.Follows uri (v.concern? uri) (s.receive v) := by
  cases ht : v.documentText? with
  | some t => exact follows_of_text uri ht
  | none =>
      cases hc : v.closedDocument? with
      | some u => exact follows_of_closing uri ht hc
      | none =>
          cases hq : v.fixQuery? with
          | some p => exact follows_of_query uri ht hc hq
          | none =>
              have hquiet := receive_quiet (s := s) ht hc
              have hconcern : v.concern? uri = none := by simp only [Json.concern?, ht, hc, hq]
              rw [hconcern]
              refine ⟨?_, Reaction.told_of_shown_nil rfl (hquiet.shown uri)⟩
              rw [aspect, hquiet.documents, hquiet.registry]
              rfl

/-- The outcome of a lint run is dropped if its document is closed or stored in a newer
version. -/
theorem not_accepts_iff {job : LintJob} : ¬ s.Accepts job ↔
    (s.documents.get? job.uri).all (fun d => job.document.version < d.version) = true := by
  unfold Accepts
  cases s.documents.get? job.uri with
  | none => simp
  | some d => simp [Int32.not_le]

/-- So is the end of a lint run. -/
theorem applyLint_follows (s : Server) (job : LintJob) (report : Option (List String))
    (uri : String) :
    s.Follows uri (if job.uri = uri then some (.outcome job.document report) else none)
      (s.applyLint job report) := by
  by_cases ha : s.Accepts job
  · have hall : ¬ (s.documents.get? job.uri).all (fun d => job.document.version < d.version) :=
      fun h => not_accepts_iff.mpr h ha
    rw [applyLint_accepted ha]
    by_cases hu : job.uri = uri
    · subst hu
      rw [if_pos rfl]
      refine ⟨?_, ?_⟩
      · simp only [Option.elim_some, Aspect.step, aspect, hall, Registry.entries_register,
          if_pos]
        rfl
      · rw [Reaction.told_diagnostics rfl, if_pos rfl]
        simp only [Option.elim_some, Aspect.step, aspect, hall]
        rfl
    · rw [if_neg hu]
      refine ⟨?_, ?_⟩
      · simp only [Option.elim_none, aspect, Registry.entries_register, if_neg hu]
      · rw [Reaction.told_diagnostics rfl, if_neg hu]
        rfl
  · have hall := not_accepts_iff.mp ha
    rw [applyLint_dropped ha]
    by_cases hu : job.uri = uri
    · subst hu
      rw [if_pos rfl]
      refine ⟨?_, Reaction.told_of_shown_nil rfl rfl |>.trans ?_⟩
      · simp only [Option.elim_some, Aspect.step, aspect, hall, if_true]
      · simp only [Option.elim_some, Aspect.step, aspect, hall, if_true]
    · rw [if_neg hu]
      exact ⟨rfl, Reaction.told_of_shown_nil rfl rfl⟩

end Server

namespace Session

variable {source : String} {directives : DirectiveSyntax} {log log' : Log} {s s' : Session}

/-! ## Every run -/

/-- The lint run that ends keeps its job. -/
theorem map_job_set {runs : List LintRun} {k : Nat} {job : LintJob} {ended : Bool}
    (hk : runs[k]? = some ⟨job, ended⟩) :
    (runs.set k ⟨job, true⟩).map (·.job) = runs.map (·.job) := by
  obtain ⟨hlt, hrun⟩ := List.getElem?_eq_some_iff.mp hk
  have hlt' : k < (runs.map (·.job)).length := by rwa [List.length_map]
  have hjob : (runs.map (·.job))[k] = job := by rw [List.getElem_map, hrun]
  rw [List.map_set]
  show (runs.map (·.job)).set k job = _
  rw [← hjob, List.set_getElem_self]

/-- The lint runs are on the texts for which the log says that they were started. -/
theorem Reached.jobs_eq (h : Reached source directives log s) :
    s.runs.map (·.job) = log.jobs := by
  induction h with
  | start => rfl
  | buffered bytes h ih => exact ih
  | @step log s m h ready ih =>
      have hx := ready.running
      have hstarted (js : List LintJob) :
          (js.map fun job => ({ job } : LintRun)).map (·.job) = js := by
        rw [List.map_map]
        exact List.map_id js
      rw [Log.jobs_append, ← ih]
      cases m with
      | received v => simp only [move, react_running hx, List.map_append, hstarted]
      | disconnected => simp only [move, react_running hx, List.map_append, hstarted]
      | ended k report =>
          obtain ⟨job, hk⟩ := ready.pending k report rfl
          simp only [move_ended hx hk, List.map_append, hstarted, map_job_set hk]

/-- A move is to each document what it means for it. -/
theorem move_follows {m : Move} (ready : s.Ready m) (uri : String) :
    s.server.Follows uri (m.concern? (s.runs.map (·.job)) uri)
      ((s.move m).1.server, (s.move m).2) := by
  have hx := ready.running
  cases m with
  | received v =>
      simp only [move, react_running hx]
      exact s.server.receive_follows v uri
  | disconnected =>
      simp only [move, react_running hx]
      exact ⟨rfl, Reaction.told_of_shown_nil rfl rfl⟩
  | ended k report =>
      obtain ⟨job, hk⟩ := ready.pending k report rfl
      have hconcern : Move.concern? (s.runs.map (·.job)) uri (.ended k report) =
          if job.uri = uri then some (.outcome job.document report) else none := by
        simp [Move.concern?, hk]
      rw [hconcern, move_ended hx hk]
      exact s.server.applyLint_follows job report uri

/-- **A session as a document sees it.** What the server holds on a document and what the editor
is told about it come from nothing but what happens to the document. -/
theorem Reached.run_about (h : Reached source directives log s) (uri : String) :
    Aspect.run source directives uri (log.about uri) = (s.server.aspect uri, log.told uri) := by
  induction h with
  | start => rfl
  | buffered bytes h ih => exact ih
  | @step log s m h ready ih =>
      have hfollows := move_follows ready uri
      rw [h.jobs_eq] at hfollows
      rw [Log.about_append, Log.told_append, hfollows.aspect, hfollows.told, h.settings.1,
        h.settings.2]
      cases m.concern? log.jobs uri with
      | none => simpa using ih
      | some c =>
          rw [Option.toList_some, Aspect.run_concat, ih]
          rfl

/-- **Documents do not interfere.** If the same happens to a document in two sessions with the
same settings, then the editor is told the same about it, its diagnostics and the replies to
the requests for its fixes, and at the end the server holds the same on it. Whatever else is
received, and whatever happens to other documents, makes no difference. -/
theorem documents_do_not_interfere (h : Reached source directives log s)
    (h' : Reached source directives log' s') {uri : String} (heq : log.about uri = log'.about uri) :
    log.told uri = log'.told uri ∧ s.document? uri = s'.document? uri ∧
      s.entries uri = s'.entries uri := by
  have hrun := h.run_about uri
  have hrun' := h'.run_about uri
  rw [heq, hrun'] at hrun
  obtain ⟨haspect, htold⟩ := Prod.mk.inj hrun
  obtain ⟨hdocument, hentries⟩ := Aspect.mk.inj haspect
  exact ⟨htold.symm, hdocument.symm, hentries.symm⟩

/-- A document is opened and linted, its fixes are asked for, and it is closed. -/
def alone : List Move :=
  [.received (.opening ⟨"file:///w/a.sql", ⟨1, "a"⟩⟩), .ended 0 (some ["(1,1): error r : m"]),
    .received (.asking (.int 1) ⟨"file:///w/a.sql", .point .origin⟩),
    .received (.closing "file:///w/a.sql")]

/-- The same, among frames that say nothing and moves for another document. -/
def among : List Move :=
  [.received (.opening ⟨"file:///w/b.sql", ⟨7, "b"⟩⟩),
    .received (.opening ⟨"file:///w/a.sql", ⟨1, "a"⟩⟩), .received .null,
    .ended 1 (some ["(1,1): error r : m"]), .ended 0 none,
    .received (.asking (.int 1) ⟨"file:///w/a.sql", .point .origin⟩),
    .received (.closing "file:///w/b.sql"), .received (.closing "file:///w/a.sql")]

/-- Three things are told about the document: what the lint run found, the reply with the fixes,
and that there is nothing to be shown any more. -/
theorem documents_do_not_interfere_among :
    let p := (init "TSQLLint" {}).play alone
    let p' := (init "TSQLLint" {}).play among
    Reached "TSQLLint" {} p.1 p.2 ∧ Reached "TSQLLint" {} p'.1 p'.2 ∧
      p.1.about "file:///w/a.sql" = p'.1.about "file:///w/a.sql" ∧
      (p.1.told "file:///w/a.sql").length = 3 ∧
      p.1.told "file:///w/a.sql" = p'.1.told "file:///w/a.sql" ∧
      p.2.document? "file:///w/a.sql" = p'.2.document? "file:///w/a.sql" ∧
      p.2.entries "file:///w/a.sql" = p'.2.entries "file:///w/a.sql" := by
  intro p p'
  have halone : (init "TSQLLint" {}).CanPlay alone := by decide +kernel
  have hamong : (init "TSQLLint" {}).CanPlay among := by decide +kernel
  have habout : p.1.about "file:///w/a.sql" = p'.1.about "file:///w/a.sql" := rfl
  have htold : (p.1.told "file:///w/a.sql").length = 3 := by decide +kernel
  have h : Reached "TSQLLint" {} p.1 p.2 := Reached.start.play halone
  have h' : Reached "TSQLLint" {} p'.1 p'.2 := Reached.start.play hamong
  exact ⟨h, h', habout, htold, documents_do_not_interfere h h' habout⟩

end Session

end LintBridge
