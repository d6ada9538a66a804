import LintBridge.Proofs.Server.Step

set_option autoImplicit false

/-! # Requests and replies

Whether a frame is a request or a reply can be seen from its fields, in both directions. What
the server sends in reaction to one frame is one of three things (`Exchange`): the one reply to
a request; a request of its own and the empty reply to the command that called for it; or, if
the frame is no request, nothing that is a reply or a request. `Server.receive_exchange` says
so of every frame, whatever the state of the server. Which frames stop the server can be seen
from their fields as well (`Server.receive_exit`).
-/

namespace LintBridge

/-! ## Frames -/

namespace Json

/-- The field of an object. -/
def field? (v : Json) (key : String) : Option Json :=
  match v with
  | .object fields => Fields.get? fields key
  | _ => none

/-- The id of a request. Any id will do, but the method has to be a text. -/
def requestId? (v : Json) : Option Json :=
  match v.field? "id", v.field? "method" with
  | some id, some (.string _) => some id
  | _, _ => none

/-- A reply carries a result or an error. -/
def isReply (v : Json) : Bool := (v.field? "result").isSome || (v.field? "error").isSome

/-- The notification by which the editor stops the server. -/
def isExit (v : Json) : Bool :=
  match v.field? "id", v.field? "method" with
  | none, some (.string method) => method = "exit"
  | _, _ => false

section

variable {v : Json} (h : ∀ method, v.field? "method" ≠ some (.string method))

include h

theorem requestId?_of_no_method : v.requestId? = none := by
  unfold requestId?
  split
  · rename_i id method hid hmethod
    exact absurd hmethod (h method)
  · rfl

theorem isExit_of_no_method : v.isExit = false := by
  unfold isExit
  split
  · rename_i method hid hmethod
    exact absurd hmethod (h method)
  · rfl

end

/-- The frame is a reply that repeats the id of a request, and carries either a result or an
error. -/
structure RepliesTo (v id : Json) : Prop where
  sameId : v.field? "id" = some id
  exactlyOne : (v.field? "result").isSome = !(v.field? "error").isSome
  notRequest : v.requestId? = none

theorem RepliesTo.isReply {v id : Json} (h : v.RepliesTo id) : v.isReply = true := by
  rw [Json.isReply, h.exactlyOne, Bool.not_or_self]

end Json

namespace Outgoing

theorem repliesTo_result (id value : Json) : (result id value).toJson.RepliesTo id :=
  ⟨rfl, rfl, rfl⟩

theorem repliesTo_refusal (id : Json) (why : Refusal) : (refusal id why).toJson.RepliesTo id :=
  ⟨rfl, rfl, rfl⟩

theorem request_applyEdits (n : Nat) (edits : DocumentEdits) :
    (applyEdits n edits).toJson.requestId? = some (.int n) ∧
      (applyEdits n edits).toJson.isReply = false := ⟨rfl, rfl⟩

theorem silent_diagnostics (uri : String) (version : Int32) (list : List Diagnostic) :
    (diagnostics uri version list).toJson.requestId? = none ∧
      (diagnostics uri version list).toJson.isReply = false := ⟨rfl, rfl⟩

end Outgoing

/-- The frames sent in a reaction, in order. -/
def Reaction.frames (r : Reaction) : List Json := r.sent.map Outgoing.toJson

/-! ## Received frames -/

namespace Incoming

theorem method?_eq_some_iff {fields : List (String × Json)} {method : String} :
    method? fields = some method ↔
      (Json.object fields).field? "method" = some (.string method) := by
  show method? fields = some method ↔ Json.Fields.get? fields "method" = _
  unfold method?
  split
  · rename_i text heq
    rw [heq, Option.some.injEq, Option.some.injEq, Json.string.injEq]
  · rename_i hne
    constructor
    · intro h
      cases h
    · intro h
      exact absurd h (hne method)

theorem ofJson?_of_request {v id : Json} {method : String} (hid : v.field? "id" = some id)
    (hmethod : v.field? "method" = some (.string method)) :
    ofJson? v = some (.request id method (v.field? "params")) := by
  cases v with
  | object fields =>
      have hid : Json.Fields.get? fields "id" = some id := hid
      rw [ofJson?, hid, method?_eq_some_iff.mpr hmethod]
      rfl
  | null => cases hid
  | bool b => cases hid
  | number n => cases hid
  | string s => cases hid
  | array items => cases hid

theorem ofJson?_of_notification {v : Json} {method : String} (hid : v.field? "id" = none)
    (hmethod : v.field? "method" = some (.string method)) :
    ofJson? v = some (.notification method (v.field? "params")) := by
  cases v with
  | object fields =>
      have hid : Json.Fields.get? fields "id" = none := hid
      rw [ofJson?, hid, method?_eq_some_iff.mpr hmethod]
      rfl
  | null => cases hmethod
  | bool b => cases hmethod
  | number n => cases hmethod
  | string s => cases hmethod
  | array items => cases hmethod

/-- Without a method that is a text, a frame is at most a reply. -/
theorem ofJson?_of_no_method {v : Json} (h : ∀ method, v.field? "method" ≠ some (.string method)) :
    (∃ id body, ofJson? v = some (.response id body)) ∨ ofJson? v = none := by
  cases v with
  | object fields =>
      have hmethod : method? fields = none := by
        rw [Option.eq_none_iff_forall_ne_some]
        exact fun method hmethod => h method (method?_eq_some_iff.mp hmethod)
      rw [ofJson?, hmethod]
      cases Json.Fields.get? fields "id" with
      | none => exact .inr rfl
      | some id =>
          -- With an id it may be a reply, if it carries a result or an error.
          dsimp only
          split
          · exact .inl ⟨id, _, rfl⟩
          · exact .inr rfl
  | null => exact .inr rfl
  | bool b => exact .inr rfl
  | number n => exact .inr rfl
  | string s => exact .inr rfl
  | array items => exact .inr rfl

end Incoming

/-! ## What is sent in reaction to a frame -/

namespace Event

/-- The frame that an event brings. -/
def frame? : Event → Option Json
  | received v => some v
  | linted _ _ | disconnected => none

/-- The event stops the server: it brings the exit notification, or the input ends. -/
def stops : Event → Bool
  | received v => v.isExit
  | linted _ _ => false
  | disconnected => true

end Event

/-- What may be sent in reaction to a frame that has been received, or to something else. The
numbers are those of the server's next request, before and after it. -/
inductive Exchange : (received : Option Json) → (next next' : Nat) → (sent : List Json) → Prop
  /-- The one reply to a request. -/
  | answered {v id reply : Json} {next : Nat} (request : v.requestId? = some id)
      (replies : reply.RepliesTo id) : Exchange (some v) next next [reply]
  /-- A request of the server, and the empty reply to the command that called for it. -/
  | commanded {v id own reply : Json} {next : Nat} (request : v.requestId? = some id)
      (command : v.field? "method" = some (.string "workspace/executeCommand"))
      (numbered : own.requestId? = some (.int next)) (notReply : own.isReply = false)
      (replies : reply.RepliesTo id) (empty : reply.field? "result" = some .null) :
      Exchange (some v) next (next + 1) [own, reply]
  /-- Neither replies nor requests, since there was no request. -/
  | unanswered {received : Option Json} {next : Nat} {sent : List Json}
      (noRequest : received.bind Json.requestId? = none)
      (silent : ∀ v ∈ sent, v.requestId? = none ∧ v.isReply = false) :
      Exchange received next next sent

namespace Server

variable {s : Server}

/-- The server shows diagnostics, or sends nothing at all. The flag says whether it stops. -/
structure Silent (s : Server) (stops : Bool) (p : Server × Reaction) : Prop where
  nextId : p.1.nextId = s.nextId
  sent : ∀ m ∈ p.2.sent, ∃ uri version list, m = .diagnostics uri version list
  exit : p.2.exit.isSome = stops

theorem Silent.exchange {stops : Bool} {p : Server × Reaction} (h : s.Silent stops p)
    {received : Option Json} (noRequest : received.bind Json.requestId? = none) :
    Exchange received s.nextId p.1.nextId p.2.frames := by
  rw [h.nextId]
  refine .unanswered noRequest fun v hv => ?_
  obtain ⟨m, hm, rfl⟩ := List.mem_map.mp hv
  obtain ⟨uri, version, list, rfl⟩ := h.sent m hm
  exact Outgoing.silent_diagnostics uri version list

theorem recordText_silent (s : Server) (t : DocumentText) : s.Silent false (s.recordText t) := by
  cases hn : DocumentStore.isNewer (s.documents.get? t.uri) t.document.version with
  | true => rw [recordText_refused hn]; exact ⟨rfl, nofun, rfl⟩
  | false => rw [recordText_accepted hn]; exact ⟨rfl, nofun, rfl⟩

theorem closeDocument_silent (s : Server) (uri : String) :
    s.Silent false (s.closeDocument uri) := by
  cases hd : s.documents.get? uri with
  | none => rw [closeDocument_unknown hd]; exact ⟨rfl, nofun, rfl⟩
  | some d =>
      rw [closeDocument_open hd]
      refine ⟨rfl, fun m hm => ?_, rfl⟩
      rw [List.mem_singleton.mp hm]
      exact ⟨uri, d.version, [], rfl⟩

theorem applyLint_silent (s : Server) (job : LintJob) (report : Option (List String)) :
    s.Silent false (s.applyLint job report) := by
  by_cases h : s.Accepts job
  · rw [applyLint_accepted h]
    refine ⟨rfl, fun m hm => ?_, rfl⟩
    rw [List.mem_singleton.mp hm]
    exact ⟨job.uri, job.document.version, _, rfl⟩
  · rw [applyLint_dropped h]
    exact ⟨rfl, nofun, rfl⟩

theorem notification_silent (s : Server) (method : String) (params : Option Json) :
    s.Silent (method = "exit") (s.notification method params) := by
  unfold notification
  dsimp only
  split
  · exact ⟨rfl, nofun, rfl⟩
  · split
    · exact recordText_silent s _
    · exact ⟨rfl, nofun, rfl⟩
  · split
    · exact recordText_silent s _
    · exact ⟨rfl, nofun, rfl⟩
  · split
    · exact closeDocument_silent s _
    · exact ⟨rfl, nofun, rfl⟩
  · rename_i hexit _ _ _
    exact ⟨rfl, nofun, (decide_eq_false hexit).symm⟩

/-- What the server does about a request. -/
inductive Answer (s : Server) (id : Json) (method : String) : Server × Reaction → Prop
  /-- It sends one reply, whatever else it does. -/
  | reply {s' : Server} {m : Outgoing} (nextId : s'.nextId = s.nextId)
      (replies : m.toJson.RepliesTo id) : Answer s id method (s', { sent := [m] })
  /-- It asks the editor to apply edits, and replies that this is done. -/
  | edits {edits : DocumentEdits} (command : method = "workspace/executeCommand") :
      Answer s id method ({ s with nextId := s.nextId + 1 },
        { sent := [.applyEdits s.nextId edits, .result id .null] })

/-- A command is answered, in whatever way it fails or succeeds. -/
theorem execute_answer (s : Server) (id params : Json) :
    s.Answer id "workspace/executeCommand" (s.execute id params) := by
  unfold execute
  split
  · exact .reply rfl (Outgoing.repliesTo_refusal id _)
  · split
    · exact .reply rfl (Outgoing.repliesTo_refusal id _)
    · split
      · exact .reply rfl (Outgoing.repliesTo_refusal id _)
      · exact .edits rfl

theorem offer_repliesTo (s : Server) (id params : Json) :
    (s.offer id params).toJson.RepliesTo id := by
  unfold offer
  split
  · exact Outgoing.repliesTo_refusal id _
  · exact Outgoing.repliesTo_result id _

/-- Every request is answered. -/
theorem request_answer (s : Server) (id : Json) (method : String) (params : Option Json) :
    s.Answer id method (s.request id method params) := by
  unfold request
  dsimp only
  split
  · exact .reply rfl (Outgoing.repliesTo_result id _)
  · exact .reply rfl (Outgoing.repliesTo_result id _)
  · exact .reply rfl (offer_repliesTo s id _)
  · exact execute_answer s id _
  · exact .reply rfl (Outgoing.repliesTo_refusal id _)

section

variable {id : Json} {method : String} {p : Server × Reaction}

theorem Answer.exchange (h : s.Answer id method p) {v : Json} (request : v.requestId? = some id)
    (hmethod : v.field? "method" = some (.string method)) :
    Exchange (some v) s.nextId p.1.nextId p.2.frames := by
  cases h with
  | reply nextId replies =>
      rw [nextId]
      exact .answered request replies
  | @edits edits command =>
      obtain ⟨numbered, notReply⟩ := Outgoing.request_applyEdits s.nextId edits
      rw [command] at hmethod
      exact .commanded request hmethod numbered notReply (Outgoing.repliesTo_result id .null) rfl

theorem Answer.exit (h : s.Answer id method p) : p.2.exit = none := by
  cases h with
  | reply nextId replies => rfl
  | edits command => rfl

end

/-- Neither a request nor a notification has any effect on the server. -/
theorem receive_of_no_method (s : Server) {v : Json}
    (h : ∀ method, v.field? "method" ≠ some (.string method)) : s.receive v = (s, {}) := by
  rcases Incoming.ofJson?_of_no_method h with ⟨id, body, hresponse⟩ | hnone
  · rw [receive, hresponse]
  · rw [receive, hnone]

/-- **Every frame is treated as what it is.** A request is answered once, whatever is wrong
with it, and nothing else is. -/
theorem receive_exchange (s : Server) (v : Json) :
    Exchange (some v) s.nextId (s.receive v).1.nextId (s.receive v).2.frames := by
  by_cases hmethod : ∃ method, v.field? "method" = some (.string method)
  · obtain ⟨method, hmethod⟩ := hmethod
    cases hid : v.field? "id" with
    | some id =>
        have request : v.requestId? = some id := by rw [Json.requestId?, hid, hmethod]
        rw [receive, Incoming.ofJson?_of_request hid hmethod]
        exact (request_answer s id method _).exchange request hmethod
    | none =>
        have noRequest : v.requestId? = none := by rw [Json.requestId?, hid, hmethod]
        rw [receive, Incoming.ofJson?_of_notification hid hmethod]
        exact (notification_silent s method _).exchange noRequest
  · -- A method of another kind counts as absent, so an id alone makes no request.
    have hnone : ∀ method, v.field? "method" ≠ some (.string method) := not_exists.mp hmethod
    rw [receive_of_no_method s hnone]
    exact Exchange.unanswered (Json.requestId?_of_no_method hnone) (by simp [Reaction.frames])

/-! ## The stop of the server -/

/-- The exit notification stops the server, and no other frame does. -/
theorem receive_exit (s : Server) (v : Json) : (s.receive v).2.exit.isSome = v.isExit := by
  by_cases hmethod : ∃ method, v.field? "method" = some (.string method)
  · obtain ⟨method, hmethod⟩ := hmethod
    cases hid : v.field? "id" with
    | some id =>
        rw [receive, Incoming.ofJson?_of_request hid hmethod, Json.isExit, hid, hmethod]
        dsimp only
        rw [(request_answer s id method _).exit]
        rfl
    | none =>
        rw [receive, Incoming.ofJson?_of_notification hid hmethod, Json.isExit, hid, hmethod]
        exact (notification_silent s method _).exit
  · have hnone : ∀ method, v.field? "method" ≠ some (.string method) := not_exists.mp hmethod
    rw [receive_of_no_method s hnone, Json.isExit_of_no_method hnone]
    rfl

/-! ## Events -/

/-- What is sent in reaction to an event. -/
theorem step_exchange (s : Server) (e : Event) :
    Exchange e.frame? s.nextId (s.step e).1.nextId (s.step e).2.frames := by
  cases e with
  | received v => exact receive_exchange s v
  | linted job report => exact (applyLint_silent s job report).exchange rfl
  | disconnected => exact .unanswered rfl nofun

/-- Which events stop the server. -/
theorem step_exit (s : Server) (e : Event) : (s.step e).2.exit.isSome = e.stops := by
  cases e with
  | received v => exact receive_exit s v
  | linted job report => exact (applyLint_silent s job report).exit
  | disconnected => rfl

end Server

end LintBridge
