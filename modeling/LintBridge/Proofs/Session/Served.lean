import LintBridge.Proofs.Frame.Pieces
import LintBridge.Proofs.Session.Replies

set_option autoImplicit false

/-! # Sessions on an input

A session on an input is made of what the reader of the input hands on, its frames and then its
end, and of lint runs that end anywhere between (`Move.Serve`). The bytes of the input arrive in
pieces of any size. The main statement is `serve_play`: however the input is cut, the session
makes the moves that serve the input as a whole.
-/

namespace LintBridge

/-! ## Moves on an input -/

namespace Move

/-- The move comes from the input, and not from a lint run. -/
def isInput : Move → Bool
  | received _ | disconnected => true
  | ended _ _ => false

/-- The moves serve an input: they hand on its frames in order and then its end, and lint runs
end anywhere between. -/
def Serve (bytes : List UInt8) (ms : List Move) : Prop :=
  ms.filter isInput = (Frame.decode bytes).1.map received ++ [disconnected]

/-- The frames that some moves hand on. -/
def frames (ms : List Move) : List Json := ms.filterMap frame?

theorem mem_frames {ms : List Move} {v : Json} : v ∈ frames ms ↔ received v ∈ ms := by
  rw [frames, List.mem_filterMap]
  constructor
  · rintro ⟨m, hm, hv⟩
    rwa [← eq_received_of_frame? hv]
  · intro h
    exact ⟨received v, h, rfl⟩

theorem frames_filter (ms : List Move) : frames (ms.filter isInput) = frames ms := by
  induction ms with
  | nil => rfl
  | cons m ms ih =>
      cases m with
      | received v => exact congrArg (v :: ·) ih
      | ended k report => exact ih
      | disconnected => exact ih

theorem frames_map_received (vs : List Json) : frames (vs.map received) = vs := by
  induction vs with
  | nil => rfl
  | cons v vs ih => exact congrArg (v :: ·) ih

theorem filter_map_received (vs : List Json) :
    (vs.map received).filter isInput = vs.map received := by
  rw [List.filter_eq_self]
  intro m hm
  obtain ⟨v, -, rfl⟩ := List.mem_map.mp hm
  rfl

/-- Without lint runs, the input itself is handed on. -/
theorem serve_handedOn (bytes : List UInt8) :
    Serve bytes ((Frame.decode bytes).1.map received ++ [disconnected]) := by
  rw [Serve, List.filter_append, filter_map_received]
  rfl

namespace Serve

variable {bytes : List UInt8} {ms ms' : List Move}

theorem frames_eq (h : Serve bytes ms) : frames ms = (Frame.decode bytes).1 := by
  rw [← frames_filter, show ms.filter isInput = _ from h, frames, List.filterMap_append]
  exact (List.append_nil _).trans (frames_map_received _)

theorem disconnected_mem (h : Serve bytes ms) : disconnected ∈ ms := by
  have hmem : disconnected ∈ ms.filter isInput := by
    rw [show ms.filter isInput = _ from h]
    simp
  exact (List.mem_filter.mp hmem).1

/-- Nothing of the input comes behind its end. -/
theorem frames_of_disconnected (h : Serve bytes (ms ++ disconnected :: ms')) :
    frames ms = (Frame.decode bytes).1 := by
  have hfilter : ms.filter isInput ++ disconnected :: ms'.filter isInput =
      (Frame.decode bytes).1.map received ++ [disconnected] := by
    rw [← show (ms ++ disconnected :: ms').filter isInput = _ from h, List.filter_append]
    rfl
  rcases List.eq_nil_or_concat (ms'.filter isInput) with hnil | ⟨xs, x, hxs⟩
  · rw [hnil] at hfilter
    rw [← frames_filter, List.append_cancel_right hfilter, frames_map_received]
  · -- The last move would be another one, and the end of the input a frame.
    rw [hxs, List.concat_eq_append, ← List.cons_append, ← List.append_assoc] at hfilter
    have hmem : disconnected ∈ (Frame.decode bytes).1.map received := by
      rw [← (List.append_inj' hfilter rfl).1]
      simp
    simp at hmem

end Serve

end Move

/-! ## Bytes in pieces -/

/-- What reaches a session. -/
inductive Input
  /-- Bytes of the input arrive. -/
  | bytes (piece : List UInt8)
  /-- A lint run, given by its number, ends. -/
  | ended (k : Nat) (report : Option (List String))

/-- The bytes that arrive, put together. -/
def Input.stream : List Input → List UInt8
  | [] => []
  | bytes piece :: inputs => piece ++ stream inputs
  | ended _ _ :: inputs => stream inputs

/-- The lint runs started in a log, in order. -/
def Log.started (log : Log) : List LintJob := log.flatMap (·.2.started)

namespace Session

/-- Takes what reaches the session. -/
def take (s : Session) : Input → Session × List Reaction
  | .bytes piece => s.receive piece
  | .ended k report => s.finish k report

/-- Takes everything that reaches the session until the input ends. -/
def serve (s : Session) : List Input → Session × List Reaction
  | [] => s.close
  | input :: inputs =>
    (serve (s.take input).1 inputs |>.1, (s.take input).2 ++ (serve (s.take input).1 inputs).2)

/-- Two ways to go on with a session come to the same: the server ends up in the same state and
stops for the same reason, and the same messages are sent and lint runs started. -/
structure SameEffect (p : Session × List Reaction) (q : Log × Session) : Prop where
  server : p.1.server = q.2.server
  exit : p.1.exit = q.2.exit
  sent : Reaction.allSent p.2 = q.1.sent
  started : Reaction.allStarted p.2 = q.1.started

theorem play_append (s : Session) (ms ms' : List Move) :
    s.play (ms ++ ms') =
      ((s.play ms).1 ++ ((s.play ms).2.play ms').1, ((s.play ms).2.play ms').2) := by
  induction ms generalizing s with
  | nil => rfl
  | cons m ms ih =>
      rw [List.cons_append, play, ih]
      rfl

theorem play_buffer (s : Session) (bytes : List UInt8) (ms : List Move) :
    (s.buffer bytes).play ms = ((s.play ms).1, (s.play ms).2.buffer bytes) := by
  induction ms generalizing s with
  | nil => rfl
  | cons m ms ih => rw [play, play, move_buffer, ih]

/-- To react to frames of the input is to make moves. -/
theorem reactAll_received (s : Session) (vs : List Json) (es : List Event) :
    s.reactAll (vs.map .received ++ es) =
      (((s.play (vs.map .received)).2.reactAll es).1,
        (s.play (vs.map .received)).1.map (·.2) ++
          ((s.play (vs.map .received)).2.reactAll es).2) := by
  induction vs generalizing s with
  | nil => rfl
  | cons v vs ih =>
      rw [List.map_cons, List.cons_append, reactAll_cons, ih]
      rfl

theorem reactAll_stopped {s : Session} {x : ExitReason} (hx : s.exit = some x) (es : List Event) :
    (s.reactAll es).1 = s ∧ Reaction.allSent (s.reactAll es).2 = [] ∧
      Reaction.allStarted (s.reactAll es).2 = [] := by
  induction es with
  | nil => exact ⟨rfl, rfl, rfl⟩
  | cons e es ih =>
      rw [reactAll_cons, react_stopped hx]
      exact ih

theorem move_pending (s : Session) (m : Move) : (s.move m).1.pending = s.pending := by
  rcases move_cases s m with ⟨hmove, -, -⟩ | ⟨runs, e, hmove, -, -⟩
  · rw [hmove]
  · rw [hmove, react]
    split <;> rfl

theorem allSent_map (log : Log) : Reaction.allSent (log.map (·.2)) = log.sent := by
  rw [Reaction.allSent, List.flatMap_map]
  rfl

theorem allStarted_map (log : Log) : Reaction.allStarted (log.map (·.2)) = log.started := by
  rw [Reaction.allStarted, List.flatMap_map]
  rfl

/-- What comes to the same comes to the same behind the same beginning. -/
theorem SameEffect.append {p : Session × List Reaction} {q : Log × Session} {rs : List Reaction}
    {log : Log} (h : SameEffect p q) (hsent : Reaction.allSent rs = log.sent)
    (hstarted : Reaction.allStarted rs = log.started) :
    SameEffect (p.1, rs ++ p.2) (log ++ q.1, q.2) where
  server := h.server
  exit := h.exit
  sent := by
    rw [Log.sent, List.flatMap_append, ← Log.sent, ← Log.sent, ← hsent, ← h.sent]
    exact List.flatMap_append
  started := by
    rw [Log.started, List.flatMap_append, ← Log.started, ← Log.started, ← hstarted, ← h.started]
    exact List.flatMap_append

/-- Bytes that wait make no difference to the effect. -/
theorem SameEffect.of_buffer {s : Session} {b : List UInt8} {ms : List Move}
    {p : Session × List Reaction} (h : SameEffect p ((s.buffer b).play ms)) :
    SameEffect p (s.play ms) := by
  rw [play_buffer] at h
  exact ⟨h.server, h.exit, h.sent, h.started⟩

/-- Frames are handed on, and then the end of the input. -/
theorem sameEffect_handedOn (s : Session) (bytes : List UInt8) (vs : List Json) :
    SameEffect ((s.buffer bytes).reactAll (vs.map .received ++ [.disconnected]))
      (s.play (vs.map .received ++ [.disconnected])) := by
  refine SameEffect.of_buffer (b := bytes) ?_
  rw [reactAll_received, play_append]
  have hlast : ∀ t : Session, SameEffect (t.reactAll [.disconnected]) (t.play [.disconnected]) :=
    fun t => ⟨rfl, rfl, rfl, rfl⟩
  exact (hlast _).append (allSent_map _) (allStarted_map _)

/-- The end of a lint run is a move. -/
theorem finish_eq_move (s : Session) (k : Nat) (report : Option (List String)) :
    (s.finish k report).1 = (s.move (.ended k report)).1 ∧
      Reaction.allSent (s.finish k report).2 = (s.move (.ended k report)).2.sent ∧
      Reaction.allStarted (s.finish k report).2 = (s.move (.ended k report)).2.started := by
  by_cases hrun : ∃ job, s.runs[k]? = some ⟨job, false⟩
  · obtain ⟨job, hrun⟩ := hrun
    have hfinish : s.finish k report =
        reactAll { s with runs := s.runs.set k ⟨job, true⟩ } [.linted job report] := by
      simp only [finish, hrun]
    have hmove : s.move (.ended k report) =
        react { s with runs := s.runs.set k ⟨job, true⟩ } (.linted job report) := by
      simp only [move, hrun]
    rw [hfinish, hmove, reactAll_cons, reactAll_nil]
    exact ⟨rfl, List.append_nil _, List.append_nil _⟩
  · -- Without a lint run to end nothing happens.
    have hfinish : s.finish k report = (s, []) := by
      unfold finish
      split
      · rename_i job hjob
        exact absurd ⟨job, hjob⟩ hrun
      · rfl
    have hmove : s.move (.ended k report) = (s, {}) := by
      simp only [move]
      split
      · rename_i job hjob
        exact absurd ⟨job, hjob⟩ hrun
      · rfl
    rw [hfinish, hmove]
    exact ⟨rfl, rfl, rfl⟩

theorem take_stopped {s : Session} {x : ExitReason} (hx : s.exit = some x) (input : Input) :
    SameEffect (s.take input) ([], s) := by
  have hreact : ∀ (bytes : List UInt8) (es : List Event),
      SameEffect ((s.buffer bytes).reactAll es) ([], s) := by
    intro bytes es
    have hbuffer : (s.buffer bytes).exit = some x := hx
    obtain ⟨hstate, hsent, hstarted⟩ := reactAll_stopped hbuffer es
    exact ⟨by rw [hstate]; rfl, by rw [hstate]; rfl, hsent, hstarted⟩
  cases input with
  | bytes piece =>
      rw [take, receive]
      split
      · exact hreact _ _
      · exact hreact _ _
      · exact hreact _ _
  | ended k report =>
      obtain ⟨hstate, hsent, hstarted⟩ := s.finish_eq_move k report
      obtain ⟨hreaction, hexit, hserver⟩ := move_stopped hx (.ended k report)
      rw [hreaction] at hsent hstarted
      exact ⟨by rw [take, hstate]; exact hserver, by rw [take, hstate, hexit, hx], hsent, hstarted⟩

/-- What has no effect any more can be left out. -/
theorem SameEffect.of_rest {p r : Session × List Reaction} {q : Log × Session}
    (h : SameEffect p q) (hrest : SameEffect r ([], p.1)) : SameEffect (r.1, p.2 ++ r.2) q where
  server := hrest.server.trans h.server
  exit := hrest.exit.trans h.exit
  sent := by
    rw [← h.sent, Reaction.allSent, List.flatMap_append, ← Reaction.allSent, ← Reaction.allSent,
      hrest.sent]
    exact List.append_nil _
  started := by
    rw [← h.started, Reaction.allStarted, List.flatMap_append, ← Reaction.allStarted,
      ← Reaction.allStarted, hrest.started]
    exact List.append_nil _

/-- Once a session has stopped, what reaches it has no effect. -/
theorem serve_stopped {s : Session} {x : ExitReason} (hx : s.exit = some x)
    (inputs : List Input) : SameEffect (s.serve inputs) ([], s) := by
  induction inputs generalizing s with
  | nil =>
      have hbuffer : (s.buffer []).exit = some x := hx
      obtain ⟨hstate, hsent, hstarted⟩ := reactAll_stopped hbuffer
        ((Frame.decode s.pending).1.map .received ++ [.disconnected])
      have hserver := congrArg Session.server hstate
      have hexit := congrArg Session.exit hstate
      exact ⟨hserver, hexit, hsent, hstarted⟩
  | cons input inputs ih =>
      have hfirst := take_stopped hx input
      exact hfirst.of_rest (ih (hfirst.exit.trans hx))

/-- A move that stops a session leaves it stopped, if nothing else has stopped it before. -/
theorem exists_exit_of_stops (s : Session) (ms : List Move) {m : Move} (h : m.stops = true) :
    ∃ x, (s.play (ms ++ [m])).2.exit = some x := by
  rw [play_concat]
  cases hx : (s.play ms).2.exit with
  | some x => exact ⟨x, (move_stopped hx m).2.1⟩
  | none => exact Option.isSome_iff_exists.mp ((move_exit hx m).trans h)

section

variable {s : Session} {piece rest : List UInt8} {vs : List Json}

theorem receive_of_pending (h : Frame.drain false (s.pending ++ piece) = (vs, .pending rest)) :
    s.receive piece = (((s.play (vs.map .received)).2).buffer rest,
      (s.play (vs.map .received)).1.map (·.2)) := by
  have hreceive : s.receive piece = (s.buffer rest).reactAll (vs.map .received ++ []) := by
    rw [receive, h, List.append_nil]
    rfl
  rw [hreceive, reactAll_received, play_buffer, reactAll_nil, List.append_nil]

theorem receive_of_fault {f : Frame.Fault}
    (h : Frame.drain false (s.pending ++ piece) = (vs, .fault f)) :
    s.receive piece = (s.buffer []).reactAll (vs.map .received ++ [.disconnected]) := by
  rw [receive, h]
  rfl

end

/-- **It does not matter how the input is cut.** A session whose input arrives in pieces, with
lint runs that end in between, makes the moves that serve the input. -/
theorem serve_play (s : Session) (inputs : List Input) :
    ∃ ms, Move.Serve (s.pending ++ Input.stream inputs) ms ∧
      SameEffect (s.serve inputs) (s.play ms) := by
  induction inputs generalizing s with
  | nil =>
      rw [Input.stream, List.append_nil]
      exact ⟨_, Move.serve_handedOn _, s.sameEffect_handedOn [] (Frame.decode s.pending).1⟩
  | cons input inputs ih =>
      cases input with
      | bytes piece =>
          rw [Input.stream, ← List.append_assoc]
          cases hfound : Frame.drain false (s.pending ++ piece) with
          | mk vs stop =>
              cases stop with
              | finished => exact absurd (congrArg Prod.snd hfound) (Frame.drain_ne_finished _)
              | pending rest =>
                  have hfirst := receive_of_pending hfound
                  obtain ⟨ms, hserve, hsame⟩ := ih ((s.play (vs.map .received)).2.buffer rest)
                  refine ⟨vs.map .received ++ ms, ?_, ?_⟩
                  · rw [Move.Serve, Frame.decode_of_pending hfound, List.filter_append,
                      Move.filter_map_received, List.map_append, List.append_assoc]
                    exact congrArg (vs.map Move.received ++ ·) hserve
                  · rw [serve, take, hfirst, play_append]
                    exact hsame.of_buffer.append (allSent_map _) (allStarted_map _)
              | fault f =>
                  -- The session has stopped, so what comes behind the fault has no effect.
                  have hfirst := s.sameEffect_handedOn [] vs
                  rw [← receive_of_fault hfound] at hfirst
                  obtain ⟨x, hx⟩ :=
                    s.exists_exit_of_stops (vs.map .received) (m := .disconnected) rfl
                  have hserve := Move.serve_handedOn (s.pending ++ piece ++ Input.stream inputs)
                  rw [Frame.decode_of_fault hfound] at hserve
                  exact ⟨_, hserve, hfirst.of_rest (serve_stopped (hfirst.exit.trans hx) inputs)⟩
      | ended k report =>
          obtain ⟨hstate, hsent, hstarted⟩ := s.finish_eq_move k report
          obtain ⟨ms, hserve, hsame⟩ := ih (s.finish k report).1
          rw [hstate, move_pending] at hserve
          refine ⟨.ended k report :: ms, hserve, ?_⟩
          have hplay : (s.finish k report).1.play ms = (s.move (.ended k report)).1.play ms := by
            rw [hstate]
          have hlog : ∀ r : Reaction, Log.sent [(.ended k report, r)] = r.sent ∧
              Log.started [(.ended k report, r)] = r.started := fun r =>
            ⟨List.append_nil _, List.append_nil _⟩
          rw [hplay] at hsame
          exact hsame.append (hsent.trans (hlog _).1.symm) (hstarted.trans (hlog _).2.symm)

end Session

end LintBridge
