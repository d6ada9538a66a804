import LintBridge.Proofs.Server.Exchange
import LintBridge.Proofs.Session.Run

set_option autoImplicit false

/-! # Requests and replies of a session

A session is given here by any moves at all, those included that come after the server has
stopped; every run is one of these (`Reached.eq_play`). The moves before the stop are *heard*:
each of them is an `Exchange` (`move_exchange`), so the log of a session is a chain of exchanges
and then a rest in which nothing is said (`play_conversation`). The main statement is
`replies_match_requests`. It puts the replies beside the requests that were heard, and the
server's own requests beside the numbers from one on.
-/

namespace LintBridge

/-! ## Heard moves -/

namespace Move

/-- The frame that a move brings. -/
def frame? : Move → Option Json
  | received v => some v
  | ended _ _ | disconnected => none

/-- The id of the request that a move brings. -/
def requestId? (m : Move) : Option Json := m.frame?.bind Json.requestId?

/-- The move stops the server: it brings the exit notification, or the input ends. -/
def stops : Move → Bool
  | received v => v.isExit
  | ended _ _ => false
  | disconnected => true

/-- The moves before the one that stops the server. -/
def heard (ms : List Move) : List Move := ms.takeWhile (!·.stops)

theorem eq_received_of_frame? {m : Move} {v : Json} (h : m.frame? = some v) : m = .received v := by
  cases m with
  | received w => exact congrArg received (Option.some.inj h)
  | ended k report => cases h
  | disconnected => cases h

/-- What stops the server is no request. -/
theorem requestId?_of_stops {m : Move} (h : m.stops = true) : m.requestId? = none := by
  cases m with
  | received v =>
      have hexit : v.isExit = true := h
      unfold Json.isExit at hexit
      split at hexit
      · rename_i method hid hmethod
        show v.requestId? = none
        rw [Json.requestId?, hid, hmethod]
      · cases hexit
  | ended k report => cases h
  | disconnected => rfl

end Move

theorem Json.field?_id_of_request {v id : Json} (h : v.requestId? = some id) :
    v.field? "id" = some id := by
  unfold requestId? at h
  split at h
  · rename_i hid hmethod
    rw [hid, h]
  · cases h

/-- The frames sent in a log, in order. -/
def Log.frames (log : Log) : List Json := log.flatMap (·.2.frames)

/-! ## One exchange -/

theorem noReplies_of_silent {sent : List Json}
    (h : ∀ v ∈ sent, v.requestId? = none ∧ v.isReply = false) :
    sent.filter Json.isReply = [] := by
  rw [List.filter_eq_nil_iff]
  intro v hv
  rw [(h v hv).2]
  exact Bool.false_ne_true

namespace Exchange

variable {received : Option Json} {next next' : Nat} {sent : List Json}

theorem silent (h : Exchange received next next' sent)
    (noRequest : received.bind Json.requestId? = none) :
    ∀ v ∈ sent, v.requestId? = none ∧ v.isReply = false := by
  cases h with
  | answered request replies => cases request.symm.trans noRequest
  | commanded request command numbered notReply replies empty => cases request.symm.trans noRequest
  | unanswered noRequest silent => exact silent

/-- A request is replied to once, and nothing else is. -/
theorem replies (h : Exchange received next next' sent) :
    (sent.filter Json.isReply).map (·.field? "id") =
      (received.bind Json.requestId?).toList.map some := by
  cases h with
  | @answered v id reply _ request replies =>
      have hreply : [reply].filter Json.isReply = [reply] := by simp [replies.isReply]
      rw [hreply, Option.bind_some, request]
      exact congrArg ([·]) replies.sameId
  | @commanded v id own reply _ request command numbered notReply replies empty =>
      have hreply : [own, reply].filter Json.isReply = [reply] := by
        simp [replies.isReply, notReply]
      rw [hreply, Option.bind_some, request]
      exact congrArg ([·]) replies.sameId
  | unanswered noRequest silent =>
      rw [noReplies_of_silent silent, noRequest]
      rfl

/-- The server numbers its own requests one after the other. -/
theorem numbers (h : Exchange received next next' sent) :
    ∃ count, next' = next + count ∧
      sent.filterMap Json.requestId? = (List.range' next count).map fun k : Nat => Json.int k := by
  cases h with
  | answered request replies => exact ⟨0, rfl, by simp [replies.notRequest]⟩
  | commanded request command numbered notReply replies empty =>
      exact ⟨1, rfl, by simp [numbered, replies.notRequest]⟩
  | unanswered noRequest silent =>
      refine ⟨0, rfl, ?_⟩
      rw [List.filterMap_eq_nil_iff.mpr fun v hv => (silent v hv).1]
      rfl

theorem exactlyOne (h : Exchange received next next' sent) {v : Json} (hv : v ∈ sent)
    (hreply : v.isReply = true) : (v.field? "result").isSome = !(v.field? "error").isSome := by
  cases h with
  | answered request replies =>
      rw [List.mem_singleton.mp hv]
      exact replies.exactlyOne
  | commanded request command numbered notReply replies empty =>
      rcases List.mem_cons.mp hv with rfl | hv
      · rw [notReply] at hreply
        cases hreply
      · rw [List.mem_singleton.mp hv]
        exact replies.exactlyOne
  | unanswered noRequest silent =>
      rw [(silent v hv).2] at hreply
      cases hreply

/-- A request of the server stands before the empty reply to a command, and nothing else stands
beside the two. -/
theorem own (h : Exchange received next next' sent) {v : Json} (hv : v ∈ sent)
    (hrequest : v.requestId? ≠ none) :
    ∃ command reply, received = some command ∧ command.requestId? ≠ none ∧
      command.field? "method" = some (.string "workspace/executeCommand") ∧
      sent = [v, reply] ∧ reply.field? "id" = command.field? "id" ∧
      reply.field? "result" = some .null := by
  cases h with
  | answered request replies =>
      rw [List.mem_singleton.mp hv] at hrequest
      exact absurd replies.notRequest hrequest
  | @commanded w id own reply _ request command numbered notReply replies empty =>
      rcases List.mem_cons.mp hv with rfl | hv
      · refine ⟨w, reply, rfl, by rw [request]; exact Option.some_ne_none id, command, rfl, ?_,
          empty⟩
        rw [replies.sameId, Json.field?_id_of_request request]
      · rw [List.mem_singleton.mp hv] at hrequest
        exact absurd replies.notRequest hrequest
  | unanswered noRequest silent => exact absurd (silent v hv).1 hrequest

end Exchange

/-! ## Chains of exchanges -/

/-- Each entry of the log is an exchange, and the numbers of the server's requests go on from
one to the next. -/
inductive Exchanges : (next : Nat) → Log → Prop
  | nil {next : Nat} : Exchanges next []
  | cons {next next' : Nat} {m : Move} {r : Reaction} {log : Log}
      (first : Exchange m.frame? next next' r.frames) (rest : Exchanges next' log) :
      Exchanges next ((m, r) :: log)

namespace Exchanges

variable {next : Nat} {log : Log}

theorem replies (h : Exchanges next log) :
    (log.frames.filter Json.isReply).map (·.field? "id") =
      ((log.map (·.1)).filterMap Move.requestId?).map some := by
  induction h with
  | nil => rfl
  | @cons _ _ m r log first rest ih =>
      have hframes : Log.frames ((m, r) :: log) = r.frames ++ Log.frames log := rfl
      rw [hframes, List.filter_append, List.map_append, first.replies, ih, List.map_cons]
      cases hm : m.requestId? with
      | none =>
          rw [List.filterMap_cons_none hm, show m.frame?.bind Json.requestId? = none from hm]
          rfl
      | some id =>
          rw [List.filterMap_cons_some hm, show m.frame?.bind Json.requestId? = some id from hm]
          rfl

theorem numbers (h : Exchanges next log) :
    ∃ count, log.frames.filterMap Json.requestId? =
      (List.range' next count).map fun k : Nat => Json.int k := by
  induction h with
  | nil => exact ⟨0, rfl⟩
  | @cons next _ m r log first rest ih =>
      obtain ⟨count, rfl, hfirst⟩ := first.numbers
      obtain ⟨count', hrest⟩ := ih
      have hframes : Log.frames ((m, r) :: log) = r.frames ++ Log.frames log := rfl
      -- The numbers of the rest start where those of the first entry end.
      refine ⟨count + count', ?_⟩
      rw [hframes, List.filterMap_append, hfirst, hrest, ← List.map_append,
        List.range'_append_1]

theorem of_mem (h : Exchanges next log) {m : Move} {r : Reaction} (hmem : (m, r) ∈ log) :
    ∃ n n', Exchange m.frame? n n' r.frames := by
  induction h with
  | nil => cases hmem
  | cons first rest ih =>
      rcases List.mem_cons.mp hmem with heq | hmem
      · cases heq
        exact ⟨_, _, first⟩
      · exact ih hmem

end Exchanges

/-- The log of some moves: a chain of exchanges over those that are heard, and then a rest
without replies and requests. -/
structure Conversation (next : Nat) (ms : List Move) (log spoken rest : Log) : Prop where
  parts : log = spoken ++ rest
  moves : log.map (·.1) = ms
  heard : spoken.map (·.1) = Move.heard ms
  chain : Exchanges next spoken
  silent : ∀ e ∈ rest, ∀ v ∈ e.2.frames, v.requestId? = none ∧ v.isReply = false

namespace Conversation

variable {next : Nat} {ms : List Move} {log spoken rest : Log}

theorem frames_eq (h : Conversation next ms log spoken rest) :
    log.frames = spoken.frames ++ rest.frames := by
  rw [h.parts]
  exact List.flatMap_append

theorem silent_frames (h : Conversation next ms log spoken rest) :
    ∀ v ∈ rest.frames, v.requestId? = none ∧ v.isReply = false := by
  intro v hv
  obtain ⟨e, he, hv⟩ := List.mem_flatMap.mp hv
  exact h.silent e he v hv

theorem replies (h : Conversation next ms log spoken rest) :
    (log.frames.filter Json.isReply).map (·.field? "id") =
      ((Move.heard ms).filterMap Move.requestId?).map some := by
  rw [h.frames_eq, List.filter_append, noReplies_of_silent h.silent_frames, List.append_nil,
    h.chain.replies, h.heard]

theorem numbers (h : Conversation next ms log spoken rest) :
    ∃ count, log.frames.filterMap Json.requestId? =
      (List.range' next count).map fun k : Nat => Json.int k := by
  have hrest : rest.frames.filterMap Json.requestId? = [] :=
    List.filterMap_eq_nil_iff.mpr fun v hv => (h.silent_frames v hv).1
  rw [h.frames_eq, List.filterMap_append, hrest, List.append_nil]
  exact h.chain.numbers

/-- An entry of the log is an exchange, or nothing is said in it. -/
theorem entry_cases (h : Conversation next ms log spoken rest) {m : Move} {r : Reaction}
    (hmem : (m, r) ∈ log) : (∃ n n', Exchange m.frame? n n' r.frames) ∨
      ∀ v ∈ r.frames, v.requestId? = none ∧ v.isReply = false := by
  rw [h.parts] at hmem
  rcases List.mem_append.mp hmem with hspoken | hrest
  · exact .inl (h.chain.of_mem hspoken)
  · exact .inr (h.silent _ hrest)

/-- A move that is heard is answered as it asks to be, and no other is. -/
theorem answers (h : Conversation next ms log spoken rest) {i : Nat} {m : Move} {r : Reaction}
    (hi : log[i]? = some (m, r)) :
    (r.frames.filter Json.isReply).map (·.field? "id") =
      if i < (Move.heard ms).length then m.requestId?.toList.map some else [] := by
  -- The heard moves are those of the first part, so their number tells the parts apart.
  have hlength : (Move.heard ms).length = spoken.length := by
    rw [← h.heard, List.length_map]
  rw [h.parts, List.getElem?_append] at hi
  rw [hlength]
  split at hi
  · rename_i hlt
    obtain ⟨n, n', hexchange⟩ := h.chain.of_mem (List.mem_of_getElem? hi)
    rw [if_pos hlt]
    exact hexchange.replies
  · rename_i hge
    have hsilent := h.silent _ (List.mem_of_getElem? hi)
    rw [if_neg hge, noReplies_of_silent hsilent, List.map_nil]

end Conversation

/-! ## Sessions -/

namespace Session

variable {s : Session}

/-- A move is an event of the server, unless it ends a lint run that is not under way. -/
theorem move_cases (s : Session) (m : Move) :
    (s.move m = (s, {}) ∧ m.frame? = none ∧ m.stops = false) ∨
      ∃ runs e, s.move m = react { s with runs } e ∧ e.frame? = m.frame? ∧ e.stops = m.stops := by
  cases m with
  | received v => exact .inr ⟨s.runs, .received v, rfl, rfl, rfl⟩
  | ended k report =>
      simp only [move]
      split
      · exact .inr ⟨_, _, rfl, rfl, rfl⟩
      · exact .inl ⟨rfl, rfl, rfl⟩
  | disconnected => exact .inr ⟨s.runs, .disconnected, rfl, rfl, rfl⟩

/-- What a session says to one move, while it goes on. -/
theorem move_exchange (hx : s.exit = none) (m : Move) :
    Exchange m.frame? s.server.nextId (s.move m).1.server.nextId (s.move m).2.frames := by
  rcases move_cases s m with ⟨hmove, hframe, -⟩ | ⟨runs, e, hmove, hframe, -⟩
  · rw [hmove, hframe]
    exact .unanswered rfl nofun
  · have hrunning : ({ s with runs } : Session).exit = none := hx
    rw [hmove, react_running hrunning, ← hframe]
    exact Server.step_exchange s.server e

theorem move_exit (hx : s.exit = none) (m : Move) : (s.move m).1.exit.isSome = m.stops := by
  rcases move_cases s m with ⟨hmove, -, hstops⟩ | ⟨runs, e, hmove, -, hstops⟩
  · rw [hmove, hstops, hx]
    rfl
  · have hrunning : ({ s with runs } : Session).exit = none := hx
    rw [hmove, react_running hrunning, ← hstops]
    exact Server.step_exit s.server e

/-- A move of a session that has stopped has no effect on the server. -/
theorem move_stopped {x : ExitReason} (hx : s.exit = some x) (m : Move) :
    (s.move m).2 = {} ∧ (s.move m).1.exit = some x ∧ (s.move m).1.server = s.server := by
  rcases move_cases s m with ⟨hmove, -, -⟩ | ⟨runs, e, hmove, -, -⟩
  · rw [hmove]
    exact ⟨rfl, hx, rfl⟩
  · have hstopped : ({ s with runs } : Session).exit = some x := hx
    rw [hmove, react_stopped hstopped]
    exact ⟨rfl, hx, rfl⟩

/-- Nothing happens any more once the session has stopped. -/
theorem play_stopped {x : ExitReason} (hx : s.exit = some x) (ms : List Move) :
    (s.play ms).1 = ms.map (·, {}) ∧ (s.play ms).2.exit = some x ∧
      (s.play ms).2.server = s.server := by
  induction ms generalizing s with
  | nil => exact ⟨rfl, hx, rfl⟩
  | cons m ms ih =>
      obtain ⟨hreaction, hexit, hserver⟩ := move_stopped hx m
      obtain ⟨hlog, hexit', hserver'⟩ := ih hexit
      refine ⟨?_, hexit', hserver'.trans hserver⟩
      rw [play, hlog, hreaction, List.map_cons]

theorem play_moves (s : Session) (ms : List Move) : (s.play ms).1.map (·.1) = ms := by
  induction ms generalizing s with
  | nil => rfl
  | cons m ms ih => exact congrArg (m :: ·) (ih (s.move m).1)

/-- The log of a session is a conversation. -/
theorem play_conversation (hx : s.exit = none) (ms : List Move) :
    ∃ spoken rest, Conversation s.server.nextId ms (s.play ms).1 spoken rest := by
  induction ms generalizing s with
  | nil => exact ⟨[], [], rfl, rfl, rfl, .nil, nofun⟩
  | cons m ms ih =>
      have hfirst := move_exchange hx m
      have hmoves := play_moves s (m :: ms)
      cases hstops : m.stops with
      | true =>
          -- The move that stops the session is not answered, and none that follows is.
          have hheard : Move.heard (m :: ms) = [] := by simp [Move.heard, hstops]
          obtain ⟨x, hexit⟩ := Option.isSome_iff_exists.mp ((move_exit hx m).trans hstops)
          refine ⟨[], (s.play (m :: ms)).1, rfl, hmoves, hheard.symm, .nil, ?_⟩
          intro e he
          rcases List.mem_cons.mp he with rfl | he
          · exact hfirst.silent (Move.requestId?_of_stops hstops)
          · rw [(play_stopped hexit ms).1] at he
            obtain ⟨m', -, rfl⟩ := List.mem_map.mp he
            exact nofun
      | false =>
          have hexit : (s.move m).1.exit = none := by
            rw [← Option.not_isSome_iff_eq_none, move_exit hx m, hstops]
            exact Bool.false_ne_true
          obtain ⟨spoken, rest, h⟩ := ih hexit
          have hheard : Move.heard (m :: ms) = m :: Move.heard ms := by
            simp [Move.heard, hstops]
          refine ⟨(m, (s.move m).2) :: spoken, rest, ?_, hmoves, ?_, .cons hfirst h.chain,
            h.silent⟩
          · exact congrArg ((m, (s.move m).2) :: ·) h.parts
          · rw [hheard, List.map_cons, h.heard]

/-- **Replies match requests.** Whatever is moved in a session, its replies are those to the
requests that come before its stop: one for each, in the same order, with the same id, and with
either a result or an error. Nothing else is replied to. The server numbers its own requests
from one on, and sends each of them right before the empty reply to the command that has called
for it. -/
theorem replies_match_requests (source : String) (directives : DirectiveSyntax)
    (ms : List Move) :
    let log := ((init source directives).play ms).1
    -- The replies are those to the requests before the stop, in order.
    (log.frames.filter Json.isReply).map (·.field? "id") =
        ((Move.heard ms).filterMap Move.requestId?).map some ∧
      -- Each carries either a result or an error.
      (∀ v ∈ log.frames, v.isReply = true →
        (v.field? "result").isSome = !(v.field? "error").isSome) ∧
      -- Each is sent in reaction to its request, and nothing else is replied to.
      (∀ i m r, log[i]? = some (m, r) → ms[i]? = some m ∧
        (r.frames.filter Json.isReply).map (·.field? "id") =
          if i < (Move.heard ms).length then m.requestId?.toList.map some else []) ∧
      -- The server's own requests are numbered from one on.
      (∃ count, log.frames.filterMap Json.requestId? =
        (List.range' 1 count).map fun k : Nat => Json.int k) ∧
      -- Each stands right before the empty reply to the command that has called for it.
      ∀ m r, (m, r) ∈ log → ∀ v ∈ r.frames, v.requestId? ≠ none →
        ∃ command reply, m = .received command ∧ command.requestId? ≠ none ∧
          command.field? "method" = some (.string "workspace/executeCommand") ∧
          r.frames = [v, reply] ∧ reply.field? "id" = command.field? "id" ∧
          reply.field? "result" = some .null := by
  intro log
  obtain ⟨spoken, rest, h⟩ := play_conversation (s := init source directives) rfl ms
  refine ⟨h.replies, ?_, ?_, h.numbers, ?_⟩
  · intro v hv hreply
    obtain ⟨⟨m, r⟩, hmem, hv⟩ := List.mem_flatMap.mp hv
    rcases h.entry_cases hmem with ⟨n, n', hexchange⟩ | hsilent
    · exact hexchange.exactlyOne hv hreply
    · rw [(hsilent v hv).2] at hreply
      cases hreply
  · intro i m r hi
    refine ⟨?_, h.answers hi⟩
    rw [← h.moves, List.getElem?_map, hi]
    rfl
  · intro m r hmem v hv hrequest
    rcases h.entry_cases hmem with ⟨n, n', hexchange⟩ | hsilent
    · obtain ⟨command, reply, hframe, hown⟩ := hexchange.own hv hrequest
      exact ⟨command, reply, Move.eq_received_of_frame? hframe, hown⟩
    · exact absurd (hsilent v hv).1 hrequest

end Session

end LintBridge
