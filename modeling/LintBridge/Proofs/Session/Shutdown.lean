import LintBridge.Proofs.Frame.RoundTrip
import LintBridge.Proofs.Server.Heeded
import LintBridge.Proofs.Session.Served

set_option autoImplicit false

/-! # The end of a session

A session stops at the first exit notification of its input, or else where the input ends or
cannot be read any further. Its exit code says whether a shutdown had been requested by then. The
main statement is `exit_code_of_orderly_end`.
-/

namespace LintBridge

/-! ## Orderly ends -/

namespace Json

theorem isExit_iff {v : Json} : v.isExit = true ↔ v.Notifies "exit" := by
  unfold isExit
  constructor
  · intro h
    split at h
    · rename_i method hid hmethod
      obtain rfl := of_decide_eq_true h
      exact ⟨hid, hmethod⟩
    · cases h
  · intro h
    rw [h.noId, h.method]
    rfl

/-- Some frames hold an exit notification, and before the first one a request for a shutdown. -/
def EndOrderly (frames : List Json) : Prop :=
  ∃ before last after, frames = before ++ last :: after ∧ last.Notifies "exit" ∧
    (∀ v ∈ before, ¬ v.Notifies "exit") ∧ ∃ v ∈ before, ∃ id, v.Requests id "shutdown"

/-- There is only one first exit notification, so what comes before it decides. -/
theorem endOrderly_iff {before after : List Json} {last : Json} (hlast : last.Notifies "exit")
    (hbefore : ∀ v ∈ before, ¬ v.Notifies "exit") :
    EndOrderly (before ++ last :: after) ↔ ∃ v ∈ before, ∃ id, v.Requests id "shutdown" := by
  have hfirst : ∀ {xs : List Json} {x : Json} (ys : List Json), x.Notifies "exit" →
      (∀ v ∈ xs, ¬ v.Notifies "exit") → (xs ++ x :: ys).takeWhile (!·.isExit) = xs := by
    intro xs x ys hx hxs
    have hnone : ∀ v ∈ xs, (!v.isExit) = true := fun v hv => by
      rw [Bool.not_eq_true', ← Bool.not_eq_true, isExit_iff]
      exact hxs v hv
    rw [List.takeWhile_append_of_pos hnone, List.takeWhile_cons_of_neg, List.append_nil]
    rw [isExit_iff.mpr hx]
    exact Bool.false_ne_true
  constructor
  · rintro ⟨before', last', after', heq, hlast', hbefore', hshutdown⟩
    have htake := hfirst after hlast hbefore
    rw [heq, hfirst after' hlast' hbefore'] at htake
    rwa [← htake]
  · intro hshutdown
    exact ⟨before, last, after, rfl, hlast, hbefore, hshutdown⟩

theorem not_endOrderly {frames : List Json} (h : ∀ v ∈ frames, ¬ v.Notifies "exit") :
    ¬ EndOrderly frames := by
  rintro ⟨before, last, after, rfl, hlast, -, -⟩
  exact h last (by simp) hlast

end Json

/-! ## The shutdown flag -/

namespace Server

/-- A frame sets the flag if it asks for a shutdown, and no frame clears it. -/
theorem receive_shutdownRequested (s : Server) (v : Json) :
    (s.receive v).1.shutdownRequested = true ↔
      s.shutdownRequested = true ∨ ∃ id, v.Requests id "shutdown" := by
  by_cases h : ∃ id, v.Requests id "shutdown"
  · obtain ⟨id, requests⟩ := h
    rw [receive_of_shutdown requests]
    exact ⟨fun _ => .inr ⟨id, requests⟩, fun _ => rfl⟩
  · have hkept : (s.receive v).1.shutdownRequested = s.shutdownRequested := by
      by_contra hne
      exact h ((receive_outcome s v).shutdownRequested hne)
    rw [hkept, or_iff_left h]

theorem step_shutdownRequested (s : Server) (e : Event) :
    (s.step e).1.shutdownRequested = true ↔
      s.shutdownRequested = true ∨ ∃ v id, e.frame? = some v ∧ v.Requests id "shutdown" := by
  have hnone : e.frame? = none → ¬ ∃ v id, e.frame? = some v ∧ v.Requests id "shutdown" := by
    rintro hframe ⟨v, id, hv, -⟩
    cases hframe.symm.trans hv
  cases e with
  | received v =>
      rw [show (s.step (.received v)).1 = (s.receive v).1 from rfl, receive_shutdownRequested]
      simp [Event.frame?]
  | linted job report =>
      rw [or_iff_left (hnone rfl)]
      show (s.applyLint job report).1.shutdownRequested = true ↔ _
      by_cases h : s.Accepts job
      · rw [applyLint_accepted h]
      · rw [applyLint_dropped h]
  | disconnected => rw [or_iff_left (hnone rfl)]; rfl

/-- Why the server stops at an exit notification. -/
theorem receive_of_exit (s : Server) {v : Json} (notifies : v.Notifies "exit") :
    s.receive v = (s, { exit := some (.exit s.shutdownRequested) }) := by
  rw [receive, notifies.ofJson?]
  rfl

end Server

/-! ## Where a session stops -/

namespace Session

variable {s : Session}

theorem move_shutdownRequested (hx : s.exit = none) (m : Move) :
    (s.move m).1.server.shutdownRequested = true ↔
      s.server.shutdownRequested = true ∨ ∃ v id, m.frame? = some v ∧ v.Requests id "shutdown" := by
  rcases move_cases s m with ⟨hmove, hframe, -⟩ | ⟨runs, e, hmove, hframe, -⟩
  · rw [hmove, hframe]
    simp
  · have hrunning : ({ s with runs } : Session).exit = none := hx
    rw [hmove, react_running hrunning, ← hframe]
    exact Server.step_shutdownRequested s.server e

/-- Until it is stopped a session goes on, and the flag says whether a shutdown has been asked
for. -/
theorem play_running (hx : s.exit = none) {ms : List Move} (hms : ∀ m ∈ ms, m.stops = false) :
    (s.play ms).2.exit = none ∧
      ((s.play ms).2.server.shutdownRequested = true ↔ s.server.shutdownRequested = true ∨
        ∃ v ∈ Move.frames ms, ∃ id, v.Requests id "shutdown") := by
  induction ms generalizing s with
  | nil => exact ⟨hx, by simp [play, Move.frames]⟩
  | cons m ms ih =>
      have hexit : (s.move m).1.exit = none := by
        rw [← Option.not_isSome_iff_eq_none, move_exit hx m, hms m List.mem_cons_self]
        exact Bool.false_ne_true
      obtain ⟨hgoes, hflag⟩ := ih hexit fun m' hm' => hms m' (List.mem_cons_of_mem _ hm')
      refine ⟨hgoes, ?_⟩
      rw [show (s.play (m :: ms)).2 = ((s.move m).1.play ms).2 from rfl, hflag,
        move_shutdownRequested hx m, or_assoc]
      refine or_congr_right ?_
      cases hframe : m.frame? with
      | none => simp [Move.frames, hframe]
      | some w => simp [Move.frames, hframe]

/-- Where and why a session stops that serves an input. -/
theorem play_serve (hx : s.exit = none) {bytes : List UInt8} {ms : List Move}
    (h : Move.Serve bytes ms) :
    ∃ before m after, ms = before ++ m :: after ∧ (∀ m ∈ before, m.stops = false) ∧
      (s.play ms).2.exit = ((s.play before).2.move m).1.exit ∧
      ((m = .disconnected ∧ Move.frames before = (Frame.decode bytes).1) ∨
        ∃ v, m = .received v ∧ v.Notifies "exit" ∧
          (Frame.decode bytes).1 = Move.frames before ++ v :: Move.frames after) := by
  obtain ⟨m, hfind⟩ : ∃ m, ms.find? Move.stops = some m :=
    Option.isSome_iff_exists.mp (List.find?_isSome.mpr ⟨_, h.disconnected_mem, rfl⟩)
  obtain ⟨hstops, before, after, rfl, hbefore⟩ := List.find?_eq_some_iff_append.mp hfind
  have hgoes : ∀ m ∈ before, m.stops = false := fun m hm => by simpa using hbefore m hm
  refine ⟨before, m, after, rfl, hgoes, ?_, ?_⟩
  · obtain ⟨x, hexit⟩ := Option.isSome_iff_exists.mp
      ((move_exit (play_running hx hgoes).1 m).trans hstops)
    rw [play_append, hexit]
    exact (play_stopped hexit after).2.1
  · cases m with
    | received v =>
        refine .inr ⟨v, rfl, Json.isExit_iff.mp hstops, ?_⟩
        rw [← h.frames_eq, Move.frames, List.filterMap_append]
        rfl
    | ended k report => cases hstops
    | disconnected => exact .inl ⟨rfl, h.frames_of_disconnected⟩

/-- The exit code of a session that serves an input. -/
theorem exit_code_of_serve (source : String) (directives : DirectiveSyntax) {bytes : List UInt8}
    {ms : List Move} (h : Move.Serve bytes ms) :
    ∃ reason, ((init source directives).play ms).2.exit = some reason ∧
      (reason.code = 0 ↔ Json.EndOrderly (Frame.decode bytes).1) ∧
      (reason.code = 1 ↔ ¬ Json.EndOrderly (Frame.decode bytes).1) := by
  obtain ⟨before, m, after, -, hgoes, hexit, hstop⟩ :=
    play_serve (s := init source directives) rfl h
  obtain ⟨hrunning, hflag⟩ := play_running (s := init source directives) rfl hgoes
  have hbefore : ∀ v ∈ Move.frames before, ¬ v.Notifies "exit" := by
    intro v hv hnotifies
    have hstops := hgoes _ (Move.mem_frames.mp hv)
    rw [show (Move.received v).stops = v.isExit from rfl, Json.isExit_iff.mpr hnotifies] at hstops
    cases hstops
  rcases hstop with ⟨rfl, hframes⟩ | ⟨v, rfl, hnotifies, hframes⟩
  · refine ⟨.disconnected, ?_, ?_⟩
    · rw [hexit, move, react_running hrunning]
      rfl
    · rw [← hframes]
      have hnot := Json.not_endOrderly hbefore
      exact ⟨⟨fun h => absurd h Nat.one_ne_zero, fun h => absurd h hnot⟩,
        ⟨fun _ => hnot, fun _ => rfl⟩⟩
  · refine ⟨.exit ((init source directives).play before).2.server.shutdownRequested, ?_, ?_⟩
    · rw [hexit, move, react_running hrunning]
      exact congrArg (·.2.exit) (Server.receive_of_exit _ hnotifies)
    · -- At the start no shutdown has been asked for, so the flag tells what the frames have done.
      have horderly : ((init source directives).play before).2.server.shutdownRequested = true ↔
          Json.EndOrderly (Frame.decode bytes).1 := by
        rw [hframes, Json.endOrderly_iff hnotifies hbefore, hflag]
        exact or_iff_right Bool.false_ne_true
      rw [← horderly]
      cases ((init source directives).play before).2.server.shutdownRequested with
      | true =>
          exact ⟨⟨fun _ => rfl, fun _ => rfl⟩,
            ⟨fun h => absurd h Nat.zero_ne_one, fun h => absurd rfl h⟩⟩
      | false =>
          exact ⟨⟨fun h => absurd h Nat.one_ne_zero, fun h => absurd h Bool.false_ne_true⟩,
            ⟨fun _ => Bool.false_ne_true, fun _ => rfl⟩⟩

/-- Nothing behind an exit notification has any effect. -/
theorem play_behind_exit (s : Session) (before after : List Move) {v : Json}
    (h : v.Notifies "exit") :
    let stopped := s.play (before ++ [.received v])
    (s.play (before ++ .received v :: after)).1 = stopped.1 ++ after.map (·, ({} : Reaction)) ∧
      (s.play (before ++ .received v :: after)).2.server = stopped.2.server ∧
      (s.play (before ++ .received v :: after)).2.exit = stopped.2.exit := by
  intro stopped
  obtain ⟨x, hx⟩ := s.exists_exit_of_stops before (m := .received v) (Json.isExit_iff.mpr h)
  obtain ⟨hlog, hexit, hserver⟩ := play_stopped hx after
  rw [List.append_cons, play_append, hlog]
  exact ⟨rfl, hserver, hexit.trans hx.symm⟩

/-- **Code 0 is for an orderly end.** However lint runs end between the frames of an input, the
session on it stops. The exit code is 0 if among its frames there is an exit notification and
before the first one a request for a shutdown, and it is 1 otherwise. Nothing behind an exit
notification has any effect. This is so in whatever pieces the input arrives. -/
theorem exit_code_of_orderly_end (source : String) (directives : DirectiveSyntax) :
    (∀ bytes ms, Move.Serve bytes ms →
      (∃ reason, ((init source directives).play ms).2.exit = some reason ∧
        (reason.code = 0 ↔ Json.EndOrderly (Frame.decode bytes).1) ∧
        (reason.code = 1 ↔ ¬ Json.EndOrderly (Frame.decode bytes).1)) ∧
      ∀ before v after, ms = before ++ .received v :: after → v.Notifies "exit" →
        let stopped := (init source directives).play (before ++ [.received v])
        ((init source directives).play ms).1 = stopped.1 ++ after.map (·, ({} : Reaction)) ∧
          ((init source directives).play ms).2.server = stopped.2.server ∧
          ((init source directives).play ms).2.exit = stopped.2.exit) ∧
    -- The pieces in which the input arrives, and the lint runs between them, make such moves.
    ∀ inputs, ∃ ms, Move.Serve (Input.stream inputs) ms ∧
      SameEffect ((init source directives).serve inputs) ((init source directives).play ms) := by
  refine ⟨fun bytes ms h => ⟨exit_code_of_serve source directives h, ?_⟩, fun inputs => ?_⟩
  · rintro before v after rfl hnotifies
    exact play_behind_exit _ before after hnotifies
  · exact serve_play (init source directives) inputs

/-- An exit that is sent as a request, the request for a shutdown, the exit notification, and one
frame more. -/
def orderlyFrames : List Json :=
  [.object [("id", .int 1), ("method", .string "exit")],
    .object [("id", .int 2), ("method", .string "shutdown")],
    .object [("method", .string "exit")], .null]

theorem decode_orderlyFrames :
    Frame.decode (orderlyFrames.flatMap Frame.encode) = (orderlyFrames, .finished) := by
  have hrequest : ∀ {id : Json} (method : String), Json.Plain 126 id →
      Json.Plain Json.maxDepth (.object [("id", id), ("method", .string method)]) := by
    intro id method hid
    have hordered : "id" < "method" := by decide
    refine .object (List.pairwise_pair.mpr hordered) ?_
    simp only [List.forall_mem_cons, List.not_mem_nil, false_implies, implies_true, and_true]
    exact ⟨hid, .string method⟩
  have hexit : Json.Plain Json.maxDepth (.object [("method", .string "exit")]) :=
    .object (List.pairwise_singleton _ _) (List.forall_mem_singleton.mpr (.string _))
  have hplain : ∀ v ∈ orderlyFrames, Json.Plain Json.maxDepth v := by
    simp only [orderlyFrames, List.forall_mem_cons, List.not_mem_nil, false_implies, implies_true,
      and_true]
    exact ⟨hrequest _ (.int (by decide) (by decide)), hrequest _ (.int (by decide) (by decide)),
      hexit, .null⟩
  have hshort : ∀ v ∈ orderlyFrames, (Text.Utf8.encode v.print).length ≤ Frame.maxLength := by
    decide +kernel
  rw [Frame.decode_flatMap fun v hv rest => Frame.next_encode true (hplain v hv) (hshort v hv) rest,
    List.filterMap_some]

theorem exit_code_of_orderly_end_zero :
    ∃ bytes ms, Move.Serve bytes ms ∧ Json.EndOrderly (Frame.decode bytes).1 ∧
      ∃ reason, ((init "TSQLLint" {}).play ms).2.exit = some reason ∧ reason.code = 0 := by
  have hserve : Move.Serve (orderlyFrames.flatMap Frame.encode)
      (.ended 0 none :: orderlyFrames.map .received ++ [.ended 0 none, .disconnected]) := by
    rw [Move.Serve, decode_orderlyFrames]
    rfl
  have hend : Json.EndOrderly (Frame.decode (orderlyFrames.flatMap Frame.encode)).1 := by
    rw [decode_orderlyFrames]
    refine ⟨orderlyFrames.take 2, .object [("method", .string "exit")], [.null], rfl, ⟨rfl, rfl⟩,
      ?_, .object [("id", .int 2), ("method", .string "shutdown")], by simp [orderlyFrames], .int 2,
      ⟨rfl, rfl⟩⟩
    -- What stands before the exit notification are requests.
    have hfirst : ∀ v ∈ orderlyFrames.take 2, ∃ id, v.field? "id" = some id :=
      List.forall_mem_cons.mpr ⟨⟨.int 1, rfl⟩, List.forall_mem_singleton.mpr ⟨.int 2, rfl⟩⟩
    intro v hv hnotifies
    obtain ⟨id, hid⟩ := hfirst v hv
    cases hid.symm.trans hnotifies.noId
  obtain ⟨reason, hexit, hzero, -⟩ := ((exit_code_of_orderly_end "TSQLLint" {}).1 _ _ hserve).1
  exact ⟨_, _, hserve, hend, reason, hexit, hzero.mpr hend⟩

end Session

end LintBridge
