import LintBridge.Server.Basic

set_option autoImplicit false

/-! # What one event does to the documents

Of all that the editor sends, two things concern documents: a text of a document
(`Json.documentText?`) and the closing of one (`Json.closedDocument?`). Everything else is
*quiet*: it changes neither the open documents nor the registry, starts no lint run and shows
no diagnostics (`Server.receive_quiet`). For the other events the reaction is an equation,
with one lemma for the case in which the event counts and one for the case in which it does
not. Later modules use these lemmas and never look into the server again.
-/

namespace LintBridge

/-! ## Messages about documents -/

namespace Incoming

/-- The document text that a message brings. -/
def documentText? : Incoming → Option DocumentText
  | .notification "textDocument/didOpen" params =>
    (DocumentText.opened (params.getD .null)).toOption
  | .notification "textDocument/didChange" params =>
    (DocumentText.changed (params.getD .null)).toOption.join
  | _ => none

/-- The document that a message closes. -/
def closedDocument? : Incoming → Option String
  | .notification "textDocument/didClose" params => (closedUri (params.getD .null)).toOption
  | _ => none

end Incoming

namespace Json

/-- The document text that a value from the editor brings: it is a well-formed notification
that a document has been opened, or that it has been changed at least once. -/
def documentText? (v : Json) : Option DocumentText :=
  (Incoming.ofJson? v).bind Incoming.documentText?

/-- The document that a value from the editor closes. -/
def closedDocument? (v : Json) : Option String :=
  (Incoming.ofJson? v).bind Incoming.closedDocument?

/-- The notification that a document has been opened. -/
def opening (t : DocumentText) : Json :=
  .object [("method", .string "textDocument/didOpen"), ("params", .object [("textDocument",
    .object [("text", .string t.document.text), ("uri", .string t.uri),
      ("version", .int t.document.version.toInt)])])]

/-- The notification that a document has been closed. -/
def closing (uri : String) : Json :=
  .object [("method", .string "textDocument/didClose"), ("params", .object [("textDocument",
    .object [("uri", .string uri)])])]

theorem documentText?_opening (t : DocumentText) : (opening t).documentText? = some t := by
  have hle : -2147483648 ≤ t.document.version.toInt := Int32.le_toInt _
  have hlt : t.document.version.toInt < 2147483648 := Int32.toInt_lt _
  -- The bounds are what the reader checks of a version.
  have hread : DocumentText.opened (.object [("textDocument", .object [
      ("text", .string t.document.text), ("uri", .string t.uri),
      ("version", .int t.document.version.toInt)])]) = .ok t := by
    simp [DocumentText.opened, DocumentText.openedShape, Shape.read, Fields.check,
      Fields.readObject, Fields.get?, int, hle, hlt, Int32.ofInt_toInt, bind, Except.bind,
      Except.map, pure, Except.pure]
  exact congrArg Except.toOption hread

theorem closedDocument?_closing (uri : String) : (closing uri).closedDocument? = some uri := by
  have hread : closedUri (.object [("textDocument", .object [("uri", .string uri)])]) =
      .ok uri := by
    simp [closedUri, closedShape, documentShape, Shape.read, Fields.check, Fields.readObject,
      Fields.get?, bind, Except.bind, Except.map, pure, Except.pure]
  exact congrArg Except.toOption hread

end Json

/-- The version and the diagnostics that a message makes the editor show for a document. -/
def Outgoing.shownFor? (uri : String) : Outgoing → Option (Int32 × List Diagnostic)
  | .diagnostics u version list => if u = uri then some (version, list) else none
  | _ => none

/-- What a reaction makes the editor show for a document. -/
def Reaction.shown (r : Reaction) (uri : String) : List (Int32 × List Diagnostic) :=
  r.sent.filterMap (Outgoing.shownFor? uri)

@[simp] theorem Reaction.shown_of_sent_nil {r : Reaction} (h : r.sent = []) (uri : String) :
    r.shown uri = [] := by
  simp [Reaction.shown, h]

theorem Reaction.shown_diagnostics (u uri : String) (version : Int32) (list : List Diagnostic)
    (started : List LintJob) (exit : Option ExitReason) :
    Reaction.shown ⟨[.diagnostics u version list], started, exit⟩ uri =
      if u = uri then [(version, list)] else [] := by
  by_cases h : u = uri <;> simp [Reaction.shown, Outgoing.shownFor?, h]

namespace Server

variable {s : Server}

/-! ## Quiet events -/

/-- The outcome `p` leaves alone what `s` holds on documents, and the editor sees no change
of the diagnostics. -/
structure Quiet (s : Server) (p : Server × Reaction) : Prop where
  documents : p.1.documents = s.documents
  registry : p.1.registry = s.registry
  source : p.1.source = s.source
  started : p.2.started = []
  shown : ∀ uri, p.2.shown uri = []

/-- Replies and requests to the editor show no diagnostics. -/
private theorem quiet_of_sent {p : Server × Reaction} (hd : p.1.documents = s.documents)
    (hr : p.1.registry = s.registry) (hs : p.1.source = s.source) (hj : p.2.started = [])
    (hm : ∀ m ∈ p.2.sent, ∀ uri, m.shownFor? uri = none) : s.Quiet p :=
  ⟨hd, hr, hs, hj, fun uri => List.filterMap_eq_nil_iff.mpr fun m h => hm m h uri⟩

/-- Nothing happens, or the server just stops. -/
private theorem quiet_of_idle (s : Server) (exit : Option ExitReason) :
    s.Quiet (s, { exit := exit }) :=
  quiet_of_sent rfl rfl rfl rfl (by simp)

theorem execute_quiet (s : Server) (id params : Json) : s.Quiet (s.execute id params) := by
  unfold execute
  split
  · exact quiet_of_sent rfl rfl rfl rfl (by simp [Outgoing.shownFor?])
  · split
    · exact quiet_of_sent rfl rfl rfl rfl (by simp [Outgoing.shownFor?])
    · split <;> exact quiet_of_sent rfl rfl rfl rfl (by simp [Outgoing.shownFor?])

theorem offer_shows_nothing (s : Server) (id params : Json) (uri : String) :
    (s.offer id params).shownFor? uri = none := by
  unfold offer
  split <;> rfl

theorem request_quiet (s : Server) (id : Json) (method : String) (params : Option Json) :
    s.Quiet (s.request id method params) := by
  unfold request
  dsimp only
  split
  · exact quiet_of_sent rfl rfl rfl rfl (by simp [Outgoing.shownFor?])
  · exact quiet_of_sent rfl rfl rfl rfl (by simp [Outgoing.shownFor?])
  · exact quiet_of_sent rfl rfl rfl rfl (by simp [offer_shows_nothing])
  · exact execute_quiet s id _
  · exact quiet_of_sent rfl rfl rfl rfl (by simp [Outgoing.shownFor?])

/-! ## Texts and closings -/

theorem recordText_refused {t : DocumentText}
    (h : DocumentStore.isNewer (s.documents.get? t.uri) t.document.version = true) :
    s.recordText t = (s, {}) := by
  simp [recordText, DocumentStore.update, h]

theorem recordText_accepted {t : DocumentText}
    (h : DocumentStore.isNewer (s.documents.get? t.uri) t.document.version = false) :
    s.recordText t = ({ s with documents := s.documents.insert t.uri t.document },
      { started := [⟨t.uri, t.document⟩] }) := by
  simp [recordText, DocumentStore.update, h]

theorem closeDocument_unknown {uri : String} (h : s.documents.get? uri = none) :
    s.closeDocument uri = (s, {}) := by
  simp [closeDocument, DocumentStore.close, h]

theorem closeDocument_open {uri : String} {d : Document}
    (h : s.documents.get? uri = some d) :
    s.closeDocument uri = ({ s with documents := s.documents.erase uri },
      { sent := [.diagnostics uri d.version []] }) := by
  simp [closeDocument, DocumentStore.close, h]

theorem notification_of_text {method : String} {params : Option Json} {t : DocumentText}
    (h : (Incoming.notification method params).documentText? = some t) :
    s.notification method params = s.recordText t := by
  unfold Incoming.documentText? at h
  split at h
  · rename_i heq
    cases heq
    cases ho : DocumentText.opened (params.getD .null) <;> simp_all [notification, Except.toOption]
  · rename_i heq
    cases heq
    cases ho : DocumentText.changed (params.getD .null) with
    | error e => simp [ho, Except.toOption] at h
    | ok o => simp_all [notification, Except.toOption]
  · cases h

theorem notification_of_closing {method : String} {params : Option Json} {uri : String}
    (h : (Incoming.notification method params).closedDocument? = some uri) :
    s.notification method params = s.closeDocument uri := by
  unfold Incoming.closedDocument? at h
  split at h
  · rename_i heq
    cases heq
    cases ho : closedUri (params.getD .null) <;> simp_all [notification, Except.toOption]
  · cases h

/-- A notification that neither brings a text nor closes a document does nothing, except that
it may stop the server. -/
theorem notification_idle {method : String} {params : Option Json}
    (ht : (Incoming.notification method params).documentText? = none)
    (hc : (Incoming.notification method params).closedDocument? = none) :
    ∃ exit, s.notification method params = (s, { exit := exit }) := by
  unfold notification
  dsimp only
  split
  · exact ⟨_, rfl⟩
  · split
    · rename_i ho
      simp [Incoming.documentText?, ho, Except.toOption] at ht
    · exact ⟨none, rfl⟩
  · split
    · rename_i ho
      simp [Incoming.documentText?, ho, Except.toOption] at ht
    · exact ⟨none, rfl⟩
  · split
    · rename_i ho
      simp [Incoming.closedDocument?, ho, Except.toOption] at hc
    · exact ⟨none, rfl⟩
  · exact ⟨none, rfl⟩

theorem notification_quiet {method : String} {params : Option Json}
    (ht : (Incoming.notification method params).documentText? = none)
    (hc : (Incoming.notification method params).closedDocument? = none) :
    s.Quiet (s.notification method params) := by
  obtain ⟨exit, hidle⟩ := notification_idle ht hc
  rw [hidle]
  exact quiet_of_idle s exit

/-! ## Values from the editor -/

theorem receive_of_text {v : Json} {t : DocumentText} (h : v.documentText? = some t) :
    s.receive v = s.recordText t := by
  obtain ⟨i, hi, ht⟩ := Option.bind_eq_some_iff.mp h
  cases i with
  | request id method params => simp [Incoming.documentText?] at ht
  | notification method params =>
      simp only [receive, hi]
      exact notification_of_text ht
  | response id body => simp [Incoming.documentText?] at ht

theorem receive_of_closing {v : Json} {uri : String} (h : v.closedDocument? = some uri) :
    s.receive v = s.closeDocument uri := by
  obtain ⟨i, hi, hc⟩ := Option.bind_eq_some_iff.mp h
  cases i with
  | request id method params => simp [Incoming.closedDocument?] at hc
  | notification method params =>
      simp only [receive, hi]
      exact notification_of_closing hc
  | response id body => simp [Incoming.closedDocument?] at hc

/-- Whatever neither brings a text nor closes a document is quiet. -/
theorem receive_quiet {v : Json} (ht : v.documentText? = none) (hc : v.closedDocument? = none) :
    s.Quiet (s.receive v) := by
  cases hi : Incoming.ofJson? v with
  | none => simpa only [receive, hi] using quiet_of_idle s none
  | some i =>
      simp only [Json.documentText?, Json.closedDocument?, hi, Option.bind_some] at ht hc
      cases i with
      | request id method params => simpa only [receive, hi] using request_quiet s id method params
      | notification method params => simpa only [receive, hi] using notification_quiet ht hc
      | response id body => simpa only [receive, hi] using quiet_of_idle s none

/-- No value from the editor changes the registry, or the name of the linter. -/
theorem receive_registry_source (s : Server) (v : Json) :
    (s.receive v).1.registry = s.registry ∧ (s.receive v).1.source = s.source := by
  cases ht : v.documentText? with
  | some t =>
      rw [receive_of_text ht]
      cases hn : DocumentStore.isNewer (s.documents.get? t.uri) t.document.version with
      | true => rw [recordText_refused hn]; exact ⟨rfl, rfl⟩
      | false => rw [recordText_accepted hn]; exact ⟨rfl, rfl⟩
  | none =>
      cases hc : v.closedDocument? with
      | some uri =>
          rw [receive_of_closing hc]
          cases hd : s.documents.get? uri with
          | none => rw [closeDocument_unknown hd]; exact ⟨rfl, rfl⟩
          | some d => rw [closeDocument_open hd]; exact ⟨rfl, rfl⟩
      | none => exact ⟨(receive_quiet ht hc).registry, (receive_quiet ht hc).source⟩

/-- One value does not both bring a text and close a document. -/
theorem closedDocument?_of_text {v : Json} {t : DocumentText} (h : v.documentText? = some t) :
    v.closedDocument? = none := by
  obtain ⟨i, hi, ht⟩ := Option.bind_eq_some_iff.mp h
  simp only [Json.closedDocument?, hi, Option.bind_some]
  unfold Incoming.documentText? at ht
  split at ht <;> simp_all [Incoming.closedDocument?]

end Server

/-! ## Lint runs -/

/-- The violations that the report on a lint run states. A run without success states none. -/
def LintJob.violations (job : LintJob) (report : Option (List String)) : List Violation :=
  Violation.ofReport job.document.text (report.getD [])

/-- What the registry holds for a document after a lint run. -/
def LintJob.entries (directives : DirectiveSyntax) (job : LintJob)
    (report : Option (List String)) : List RegisteredViolation :=
  (job.violations report).map
    (Registry.enter directives job.document.version (Text.lines job.document.text.toList))

theorem Registry.entries_register (r : Registry) (uri u : String) (version : Int32)
    (text : String) (violations : List Violation) :
    (r.register uri version text violations).entries u =
      if uri = u then violations.map (enter r.directives version (Text.lines text.toList))
      else r.entries u := by
  by_cases h : uri = u <;> simp [entries, register, UriMap.get?_insert, h]

namespace Server

variable {s : Server}

/-- The outcome of a lint run counts: its document is open, and not in a newer version. -/
def Accepts (s : Server) (job : LintJob) : Prop :=
  ∃ d, s.documents.get? job.uri = some d ∧ d.version ≤ job.document.version

theorem applyLint_dropped {job : LintJob} (h : ¬ s.Accepts job) (report : Option (List String)) :
    s.applyLint job report = (s, {}) := by
  cases hd : s.documents.get? job.uri with
  | none => simp [applyLint, hd]
  | some d =>
      -- The document is open, so it can only be its version that is newer.
      have hlt : job.document.version < d.version := by
        rw [← Int32.not_le]
        exact fun hle => h ⟨d, hd, hle⟩
      simp [applyLint, hd, hlt]

theorem applyLint_accepted {job : LintJob} (h : s.Accepts job) (report : Option (List String)) :
    s.applyLint job report =
      ({ s with
          registry := s.registry.register job.uri job.document.version job.document.text
            (job.violations report) },
        { sent := [.diagnostics job.uri job.document.version
          ((job.violations report).map (.ofViolation s.source))] }) := by
  obtain ⟨d, hd, hle⟩ := h
  have hlt : ¬ job.document.version < d.version := Int32.not_lt.mpr hle
  simp [applyLint, hd, hlt, LintJob.violations]

/-- The directives and the name of the linter are those of the start. -/
theorem step_settings (s : Server) (e : Event) :
    (s.step e).1.registry.directives = s.registry.directives ∧ (s.step e).1.source = s.source := by
  cases e with
  | received v =>
      obtain ⟨hr, hs⟩ := receive_registry_source s v
      exact ⟨congrArg Registry.directives hr, hs⟩
  | linted job report =>
      show (s.applyLint job report).1.registry.directives = _ ∧ (s.applyLint job report).1.source = _
      by_cases h : s.Accepts job
      · rw [applyLint_accepted h]; exact ⟨rfl, rfl⟩
      · rw [applyLint_dropped h]; exact ⟨rfl, rfl⟩
  | disconnected => exact ⟨rfl, rfl⟩

end Server

end LintBridge
