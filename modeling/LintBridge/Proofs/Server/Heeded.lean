import LintBridge.Proofs.Protocol.Arguments
import LintBridge.Proofs.Server.Exchange

set_option autoImplicit false

/-! # Which frames the server heeds

Four kinds of frames change the state of the server: the text of a document, the closing of an
open document, the request for a shutdown, and the command that applies edits. They are told
from their fields and parameters (`Server.Heeds`). Each of them changes one part of the state,
and a text or a closing changes one document only; the registry belongs to none of them. The
main statement is `receive_changes_only_heeded`. It adds what becomes of every other frame,
whatever is wrong with it: the server stays as it was, and a request is still replied to once.
-/

namespace LintBridge

/-! ## What a frame says -/

namespace Json

/-- The parameters of a frame. Absent ones count as `null`. -/
def params (v : Json) : Json := (v.field? "params").getD .null

/-- The frame is a request. -/
structure Requests (v id : Json) (method : String) : Prop where
  id : v.field? "id" = some id
  method : v.field? "method" = some (.string method)

/-- The frame is a notification. -/
structure Notifies (v : Json) (method : String) : Prop where
  noId : v.field? "id" = none
  method : v.field? "method" = some (.string method)

/-- The frame brings a text: a document has been opened, or it has been changed at least once
and the last change holds its text. -/
inductive Brings (v : Json) (t : DocumentText) : Prop
  | opened (notifies : v.Notifies "textDocument/didOpen")
      (fits : DocumentText.openedShape.read v.params =
        .ok ((t.uri, t.document.version, t.document.text, ()), ()))
  | changed {changes : List (String × Unit)} (notifies : v.Notifies "textDocument/didChange")
      (fits : DocumentText.changedShape.read v.params =
        .ok ((t.uri, t.document.version, ()), changes, ()))
      (last : changes.getLast? = some (t.document.text, ()))

/-- The frame closes a document. -/
structure Closes (v : Json) (uri : String) : Prop where
  notifies : v.Notifies "textDocument/didClose"
  fits : closedShape.read v.params = .ok ((uri, ()), ())

/-- The frame is the command to apply edits, with arguments that say which. -/
structure Commands (v id : Json) (edits : DocumentEdits) : Prop where
  requests : v.Requests id "workspace/executeCommand"
  fits : ∃ arguments, CommandCall.read v.params = .ok ⟨QuickFix.command, arguments⟩ ∧
    DocumentEdits.ofArguments arguments = .ok edits

/-- The frame asks for the fixes at a range of a document. -/
structure Queries (v id : Json) (q : FixQuery) : Prop where
  requests : v.Requests id "textDocument/codeAction"
  fits : FixQuery.read v.params = .ok q

variable {v id : Json} {method : String}

theorem Requests.requestId? (h : v.Requests id method) : v.requestId? = some id := by
  rw [Json.requestId?, h.id, h.method]

theorem Notifies.requestId? (h : v.Notifies method) : v.requestId? = none := by
  rw [Json.requestId?, h.noId, h.method]

theorem Requests.ofJson? (h : v.Requests id method) :
    Incoming.ofJson? v = some (.request id method (v.field? "params")) :=
  Incoming.ofJson?_of_request h.id h.method

theorem Notifies.ofJson? (h : v.Notifies method) :
    Incoming.ofJson? v = some (.notification method (v.field? "params")) :=
  Incoming.ofJson?_of_notification h.noId h.method

/-- A frame is a request, a notification, or neither for want of a method. -/
theorem request_or_notification (v : Json) :
    (∃ id method, v.Requests id method) ∨ (∃ method, v.Notifies method) ∨
      ∀ method, v.field? "method" ≠ some (.string method) := by
  by_cases hmethod : ∃ method, v.field? "method" = some (.string method)
  · obtain ⟨method, hmethod⟩ := hmethod
    cases hid : v.field? "id" with
    | some id => exact .inl ⟨id, method, hid, hmethod⟩
    | none => exact .inr (.inl ⟨method, hid, hmethod⟩)
  · exact .inr (.inr (not_exists.mp hmethod))

/-- What is understood as a request is one. -/
theorem requests_of_ofJson? {params : Option Json}
    (h : Incoming.ofJson? v = some (.request id method params)) :
    v.Requests id method ∧ params.getD .null = v.params := by
  rcases v.request_or_notification with ⟨i, m, hr⟩ | ⟨m, hn⟩ | hnone
  · cases hr.ofJson?.symm.trans h
    exact ⟨hr, rfl⟩
  · cases hn.ofJson?.symm.trans h
  · rcases Incoming.ofJson?_of_no_method hnone with ⟨i, body, hresponse⟩ | hnone
    · cases hresponse.symm.trans h
    · cases hnone.symm.trans h

/-- What is understood as a notification is one. -/
theorem notifies_of_ofJson? {params : Option Json}
    (h : Incoming.ofJson? v = some (.notification method params)) :
    v.Notifies method ∧ params.getD .null = v.params := by
  rcases v.request_or_notification with ⟨id, m, hr⟩ | ⟨m, hn⟩ | hnone
  · cases hr.ofJson?.symm.trans h
  · cases hn.ofJson?.symm.trans h
    exact ⟨hn, rfl⟩
  · rcases Incoming.ofJson?_of_no_method hnone with ⟨id, body, hresponse⟩ | hnone
    · cases hresponse.symm.trans h
    · cases hnone.symm.trans h

end Json

theorem toOption_eq_some_iff {α : Type} {e : Except Misfit α} {a : α} :
    e.toOption = some a ↔ e = .ok a := by
  cases e with
  | error why => exact ⟨nofun, nofun⟩
  | ok b => exact ⟨fun h => congrArg Except.ok (Option.some.inj h), fun h => h ▸ rfl⟩

theorem DocumentText.opened_eq_ok_iff {v : Json} {t : DocumentText} :
    opened v = .ok t ↔
      openedShape.read v = .ok ((t.uri, t.document.version, t.document.text, ()), ()) := by
  unfold opened
  cases openedShape.read v with
  | error why => exact ⟨nofun, nofun⟩
  | ok fields =>
      obtain ⟨⟨uri, version, text, _⟩, _⟩ := fields
      constructor
      · intro h
        cases h
        rfl
      · intro h
        cases h
        rfl

theorem DocumentText.changed_eq_ok_iff {v : Json} {t : DocumentText} :
    changed v = .ok (some t) ↔ ∃ changes, changedShape.read v =
        .ok ((t.uri, t.document.version, ()), changes, ()) ∧
      changes.getLast? = some (t.document.text, ()) := by
  unfold changed
  cases changedShape.read v with
  | error why => exact ⟨nofun, nofun⟩
  | ok fields =>
      obtain ⟨⟨uri, version, _⟩, changes, _⟩ := fields
      constructor
      · intro h
        obtain ⟨⟨text, _⟩, hlast, heq⟩ := Option.map_eq_some_iff.mp (Except.ok.inj h)
        cases heq
        exact ⟨changes, rfl, hlast⟩
      · rintro ⟨changes', hfields, hlast⟩
        cases hfields
        simp [Except.map, hlast]

theorem closedUri_eq_ok_iff {v : Json} {uri : String} :
    closedUri v = .ok uri ↔ closedShape.read v = .ok ((uri, ()), ()) := by
  unfold closedUri
  cases closedShape.read v with
  | error why => exact ⟨nofun, nofun⟩
  | ok fields =>
      obtain ⟨⟨uri', _⟩, _⟩ := fields
      constructor
      · intro h
        cases h
        rfl
      · intro h
        cases h
        rfl

namespace Json

variable {v : Json}

theorem documentText?_eq_some_iff {t : DocumentText} : v.documentText? = some t ↔ v.Brings t := by
  constructor
  · intro h
    obtain ⟨i, hi, ht⟩ := Option.bind_eq_some_iff.mp h
    unfold Incoming.documentText? at ht
    split at ht
    · obtain ⟨notifies, hparams⟩ := notifies_of_ofJson? hi
      rw [hparams, toOption_eq_some_iff] at ht
      exact .opened notifies (DocumentText.opened_eq_ok_iff.mp ht)
    · obtain ⟨notifies, hparams⟩ := notifies_of_ofJson? hi
      rw [hparams, Option.join_eq_some_iff, toOption_eq_some_iff] at ht
      obtain ⟨changes, fits, last⟩ := DocumentText.changed_eq_ok_iff.mp ht
      exact .changed notifies fits last
    · cases ht
  · intro h
    cases h with
    | opened notifies fits =>
        rw [documentText?, notifies.ofJson?]
        show (DocumentText.opened v.params).toOption = _
        rw [DocumentText.opened_eq_ok_iff.mpr fits]
        rfl
    | changed notifies fits last =>
        rw [documentText?, notifies.ofJson?]
        show (DocumentText.changed v.params).toOption.join = _
        rw [DocumentText.changed_eq_ok_iff.mpr ⟨_, fits, last⟩]
        rfl

theorem closedDocument?_eq_some_iff {uri : String} :
    v.closedDocument? = some uri ↔ v.Closes uri := by
  constructor
  · intro h
    obtain ⟨i, hi, hc⟩ := Option.bind_eq_some_iff.mp h
    unfold Incoming.closedDocument? at hc
    split at hc
    · obtain ⟨notifies, hparams⟩ := notifies_of_ofJson? hi
      rw [hparams, toOption_eq_some_iff] at hc
      exact ⟨notifies, closedUri_eq_ok_iff.mp hc⟩
    · cases hc
  · rintro ⟨notifies, fits⟩
    rw [closedDocument?, notifies.ofJson?]
    show (closedUri v.params).toOption = _
    rw [closedUri_eq_ok_iff.mpr fits]
    rfl

/-- The frame of an editor that asks for the fixes at a range of a document. -/
def asking (id : Json) (q : FixQuery) : Json :=
  .object [("id", id), ("method", .string "textDocument/codeAction"),
    ("params", .object [("range", q.range.toJson),
      ("textDocument", .object [("uri", .string q.uri)])])]

theorem queries_asking (id : Json) (q : FixQuery) : (asking id q).Queries id q := by
  have hdocument : documentShape.read (.object [("uri", .string q.uri)]) = .ok (q.uri, ()) := rfl
  have hread : FixQuery.shape.read (.object [("range", q.range.toJson),
      ("textDocument", .object [("uri", .string q.uri)])]) =
        .ok ((q.uri, ()), q.range.fields, ()) :=
    Shape.read_pair (by decide) hdocument q.range.read_toJson
  refine ⟨⟨rfl, rfl⟩, ?_⟩
  show FixQuery.read (.object _) = _
  rw [FixQuery.read, hread]
  rfl

end Json

namespace Server

variable {s : Server} {v : Json}

/-! ## Frames that are heeded -/

/-- A text is admitted unless its document is stored in a newer version. -/
def Admits (s : Server) (t : DocumentText) : Prop :=
  ∀ d, s.documents.get? t.uri = some d → d.version ≤ t.document.version

/-- The frames by which the editor changes the state of the server. -/
inductive Heeds (s : Server) (v : Json) : Prop
  | text {t : DocumentText} (brings : v.Brings t) (admitted : s.Admits t)
  | closing {uri : String} {d : Document} (closes : v.Closes uri)
      (opened : s.documents.get? uri = some d)
  | shutdown {id : Json} (requests : v.Requests id "shutdown")
  | command {id : Json} {edits : DocumentEdits} (commands : v.Commands id edits)

theorem isNewer_eq_false_iff {t : DocumentText} :
    DocumentStore.isNewer (s.documents.get? t.uri) t.document.version = false ↔ s.Admits t := by
  unfold Admits
  cases s.documents.get? t.uri with
  | none => simp [DocumentStore.isNewer]
  | some d => simp [DocumentStore.isNewer, Int32.not_lt]

theorem receive_of_brings {t : DocumentText} (brings : v.Brings t) (admitted : s.Admits t) :
    s.receive v = ({ s with documents := s.documents.insert t.uri t.document },
      { started := [⟨t.uri, t.document⟩] }) := by
  rw [receive_of_text (Json.documentText?_eq_some_iff.mpr brings),
    recordText_accepted (isNewer_eq_false_iff.mpr admitted)]

theorem receive_of_closes {uri : String} {d : Document} (closes : v.Closes uri)
    (opened : s.documents.get? uri = some d) :
    s.receive v = ({ s with documents := s.documents.erase uri },
      { sent := [.diagnostics uri d.version []] }) := by
  rw [receive_of_closing (Json.closedDocument?_eq_some_iff.mpr closes), closeDocument_open opened]

theorem receive_of_shutdown {id : Json} (requests : v.Requests id "shutdown") :
    s.receive v = ({ s with shutdownRequested := true }, { sent := [.result id .null] }) := by
  rw [receive, requests.ofJson?]
  rfl

/-- The fixes that are asked for are offered. -/
theorem receive_of_queries {id : Json} {q : FixQuery} (queries : v.Queries id q) :
    s.receive v = (s, { sent :=
      [.result id (.array ((s.registry.fixes q.uri q.range).map QuickFix.toJson))] }) := by
  rw [receive, queries.requests.ofJson?]
  show (s, ({ sent := [s.offer id v.params] } : Reaction)) = _
  rw [offer, queries.fits]

theorem execute_of_fit {id params : Json} {arguments : List Json} {edits : DocumentEdits}
    (hcall : CommandCall.read params = .ok ⟨QuickFix.command, arguments⟩)
    (hedits : DocumentEdits.ofArguments arguments = .ok edits) :
    s.execute id params = ({ s with nextId := s.nextId + 1 },
      { sent := [.applyEdits s.nextId edits, .result id .null] }) := by
  unfold execute
  rw [hcall]
  dsimp only
  rw [if_neg (not_not_intro rfl), hedits]

theorem receive_of_commands {id : Json} {edits : DocumentEdits} (commands : v.Commands id edits) :
    s.receive v = ({ s with nextId := s.nextId + 1 },
      { sent := [.applyEdits s.nextId edits, .result id .null] }) := by
  obtain ⟨arguments, hcall, hedits⟩ := commands.fits
  rw [receive, commands.requests.ofJson?]
  exact execute_of_fit hcall hedits

/-! ## Frames that are not heeded -/

/-- A command that cannot be carried out is refused. -/
theorem execute_of_unfit {id params : Json}
    (h : ∀ arguments edits, CommandCall.read params = .ok ⟨QuickFix.command, arguments⟩ →
      DocumentEdits.ofArguments arguments ≠ .ok edits) :
    ∃ m, s.execute id params = (s, { sent := [m] }) := by
  unfold execute
  split
  · exact ⟨_, rfl⟩
  · rename_i call hcall
    split
    · exact ⟨_, rfl⟩
    · rename_i hcommand
      split
      · exact ⟨_, rfl⟩
      · rename_i edits hedits
        obtain ⟨command, arguments⟩ := call
        obtain rfl : command = QuickFix.command := Decidable.not_not.mp hcommand
        exact absurd hedits (h arguments edits hcall)

/-- A request that is not heeded is replied to, and that is all. -/
theorem receive_of_unheeded_request {id : Json} {method : String} (requests : v.Requests id method)
    (h : ¬ s.Heeds v) : ∃ m, s.receive v = (s, { sent := [m] }) := by
  rw [receive, requests.ofJson?]
  show ∃ m, s.request id method (v.field? "params") = _
  unfold request
  dsimp only
  split
  · exact ⟨_, rfl⟩
  · exact absurd (.shutdown requests) h
  · exact ⟨_, rfl⟩
  · refine execute_of_unfit fun arguments edits hcall hedits => h ?_
    exact .command ⟨requests, arguments, hcall, hedits⟩
  · exact ⟨_, rfl⟩

/-- A notification that is not heeded does nothing, except that it may stop the server. -/
theorem receive_of_unheeded_notification {method : String} (notifies : v.Notifies method)
    (h : ¬ s.Heeds v) : ∃ exit, s.receive v = (s, { exit := exit }) := by
  cases ht : v.documentText? with
  | some t =>
      have hnewer : DocumentStore.isNewer (s.documents.get? t.uri) t.document.version = true := by
        rw [← Bool.not_eq_false, isNewer_eq_false_iff]
        exact fun admitted => h (.text (Json.documentText?_eq_some_iff.mp ht) admitted)
      exact ⟨none, by rw [receive_of_text ht, recordText_refused hnewer]⟩
  | none =>
      cases hc : v.closedDocument? with
      | some uri =>
          cases hd : s.documents.get? uri with
          | some d => exact absurd (.closing (Json.closedDocument?_eq_some_iff.mp hc) hd) h
          | none => exact ⟨none, by rw [receive_of_closing hc, closeDocument_unknown hd]⟩
      | none =>
          rw [Json.documentText?, notifies.ofJson?] at ht
          rw [Json.closedDocument?, notifies.ofJson?] at hc
          rw [receive, notifies.ofJson?]
          exact notification_idle ht hc

/-- A request is replied to once, and nothing else is sent, unless the server numbers a request
of its own. -/
theorem single_reply_of_exchange {id : Json} {next next' : Nat} {sent : List Json}
    (h : Exchange (some v) next next' sent) (hnext : next' = next) (hid : v.requestId? = some id) :
    ∃ reply : Json, sent = [reply] ∧ reply.RepliesTo id := by
  cases h with
  | answered request replies =>
      cases request.symm.trans hid
      exact ⟨_, rfl, replies⟩
  | commanded request command numbered notReply replies empty => omega
  | unanswered noRequest silent => cases noRequest.symm.trans hid

/-- A frame that is not heeded changes nothing and starts nothing. If it is a request it gets
one reply, and otherwise nothing is sent. -/
theorem receive_of_unheeded (h : ¬ s.Heeds v) :
    (s.receive v).1 = s ∧ (s.receive v).2.started = [] ∧
      (v.requestId? = none → (s.receive v).2.frames = []) ∧
      ∀ id, v.requestId? = some id →
        ∃ reply : Json, (s.receive v).2.frames = [reply] ∧ reply.RepliesTo id := by
  rcases v.request_or_notification with ⟨id, method, requests⟩ | ⟨method, notifies⟩ | hnone
  · obtain ⟨m, hm⟩ := receive_of_unheeded_request requests h
    have hnext : (s.receive v).1.nextId = s.nextId := by rw [hm]
    refine ⟨by rw [hm], by rw [hm], fun hno => ?_, fun id' hid => ?_⟩
    · cases requests.requestId?.symm.trans hno
    · exact single_reply_of_exchange (receive_exchange s v) hnext hid
  · obtain ⟨exit, hexit⟩ := receive_of_unheeded_notification notifies h
    rw [hexit]
    refine ⟨rfl, rfl, fun _ => rfl, fun id hid => ?_⟩
    cases notifies.requestId?.symm.trans hid
  · rw [receive_of_no_method s hnone]
    refine ⟨rfl, rfl, fun _ => rfl, fun id hid => ?_⟩
    cases (Json.requestId?_of_no_method hnone).symm.trans hid

/-! ## What a frame changes -/

/-- What the server does about a frame: one of the four things that frames are heeded for, or
nothing. -/
inductive Outcome (s : Server) (v : Json) : Server × Reaction → Prop
  | stored {t : DocumentText} (brings : v.Brings t) (admitted : s.Admits t) :
      Outcome s v ({ s with documents := s.documents.insert t.uri t.document },
        { started := [⟨t.uri, t.document⟩] })
  | closed {uri : String} {d : Document} (closes : v.Closes uri)
      (opened : s.documents.get? uri = some d) :
      Outcome s v ({ s with documents := s.documents.erase uri },
        { sent := [.diagnostics uri d.version []] })
  | shutDown {id : Json} (requests : v.Requests id "shutdown") :
      Outcome s v ({ s with shutdownRequested := true }, { sent := [.result id .null] })
  | commanded {id : Json} {edits : DocumentEdits} (commands : v.Commands id edits) :
      Outcome s v ({ s with nextId := s.nextId + 1 },
        { sent := [.applyEdits s.nextId edits, .result id .null] })
  | unheeded {r : Reaction} (unheeded : ¬ s.Heeds v) : Outcome s v (s, r)

theorem receive_outcome (s : Server) (v : Json) : Outcome s v (s.receive v) := by
  by_cases h : s.Heeds v
  · cases h with
    | text brings admitted =>
        rw [receive_of_brings brings admitted]
        exact .stored brings admitted
    | closing closes opened =>
        rw [receive_of_closes closes opened]
        exact .closed closes opened
    | shutdown requests =>
        rw [receive_of_shutdown requests]
        exact .shutDown requests
    | command commands =>
        rw [receive_of_commands commands]
        exact .commanded commands
  · have hstate : s.receive v = (s, (s.receive v).2) := Prod.ext (receive_of_unheeded h).1 rfl
    rw [hstate]
    exact .unheeded h

namespace Outcome

variable {p : Server × Reaction} (h : Outcome s v p)

include h

/-- The document under a URI changes by its closing and by its texts. -/
theorem document {uri : String} (hne : p.1.documents.get? uri ≠ s.documents.get? uri) :
    (v.Closes uri ∧ (s.documents.get? uri).isSome) ∨
      ∃ d, v.Brings ⟨uri, d⟩ ∧ s.Admits ⟨uri, d⟩ := by
  cases h with
  | @stored t brings admitted =>
      by_cases hu : t.uri = uri
      · subst hu
        exact .inr ⟨t.document, brings, admitted⟩
      · exact absurd (by rw [UriMap.get?_insert, if_neg hu]) hne
  | @closed u d closes opened =>
      by_cases hu : u = uri
      · subst hu
        exact .inl ⟨closes, by rw [opened]; rfl⟩
      · exact absurd (by rw [UriMap.get?_erase, if_neg hu]) hne
  | shutDown requests => exact absurd rfl hne
  | commanded commands => exact absurd rfl hne
  | unheeded unheeded => exact absurd rfl hne

theorem shutdownRequested (hne : p.1.shutdownRequested ≠ s.shutdownRequested) :
    ∃ id, v.Requests id "shutdown" := by
  cases h with
  | stored brings admitted => exact absurd rfl hne
  | closed closes opened => exact absurd rfl hne
  | shutDown requests => exact ⟨_, requests⟩
  | commanded commands => exact absurd rfl hne
  | unheeded unheeded => exact absurd rfl hne

theorem nextId (hne : p.1.nextId ≠ s.nextId) : ∃ id edits, v.Commands id edits := by
  cases h with
  | stored brings admitted => exact absurd rfl hne
  | closed closes opened => exact absurd rfl hne
  | shutDown requests => exact absurd rfl hne
  | commanded commands => exact ⟨_, _, commands⟩
  | unheeded unheeded => exact absurd rfl hne

end Outcome

/-- **Only heeded frames leave a trace.** The document under a URI changes only when it is
closed, or when a text of it arrives that is not older than the stored one. No frame changes
the registry, only the request for a shutdown the flag, and only a command that applies edits
the number of the next request; all of these do so. Every other frame leaves the server exactly
as it was and starts no lint run, and nothing is sent but the one reply to it if it is a
request. -/
theorem receive_changes_only_heeded (s : Server) (v : Json) :
    let s' := (s.receive v).1
    let r := (s.receive v).2
    -- Which frames change which part of the state.
    (∀ uri, s'.documents.get? uri ≠ s.documents.get? uri →
      (v.Closes uri ∧ (s.documents.get? uri).isSome) ∨
        ∃ d, v.Brings ⟨uri, d⟩ ∧ s.Admits ⟨uri, d⟩) ∧
    s'.registry = s.registry ∧
    (s'.shutdownRequested ≠ s.shutdownRequested → ∃ id, v.Requests id "shutdown") ∧
    (s'.nextId ≠ s.nextId → ∃ id edits, v.Commands id edits) ∧
    -- What is heeded has its effect.
    (∀ uri, v.Closes uri → s'.documents.get? uri = none) ∧
    (∀ t, v.Brings t → s.Admits t →
      s'.documents.get? t.uri = some t.document ∧ r.started = [⟨t.uri, t.document⟩]) ∧
    (∀ id, v.Requests id "shutdown" → s'.shutdownRequested = true) ∧
    (∀ id edits, v.Commands id edits → s'.nextId = s.nextId + 1) ∧
    -- What is not heeded has none, but a request is replied to.
    (¬ s.Heeds v → s' = s ∧ r.started = [] ∧ (v.requestId? = none → r.frames = []) ∧
      ∀ id, v.requestId? = some id → ∃ reply : Json, r.frames = [reply] ∧ reply.RepliesTo id) := by
  intro s' r
  have houtcome := receive_outcome s v
  refine ⟨fun uri => houtcome.document, (receive_registry_source s v).1, houtcome.shutdownRequested,
    houtcome.nextId, ?_, ?_, ?_, ?_, receive_of_unheeded⟩
  · intro uri closes
    cases hd : s.documents.get? uri with
    | some d =>
        simp only [s', receive_of_closes closes hd, UriMap.get?_erase, if_pos]
    | none =>
        have hclosing := receive_of_closing (s := s) (Json.closedDocument?_eq_some_iff.mpr closes)
        simp only [s', hclosing, closeDocument_unknown hd, hd]
  · intro t brings admitted
    simp only [s', r, receive_of_brings brings admitted, UriMap.get?_insert, if_pos, and_self]
  · intro id requests
    simp only [s', receive_of_shutdown requests]
  · intro id edits commands
    simp only [s', receive_of_commands commands]

end Server

end LintBridge
