import LintBridge.Proofs.Server.Step
import LintBridge.Server.Session

set_option autoImplicit false

/-! # Runs of a session

A *move* is one thing that happens to a session: a value arrives whole, a lint run that is
under way ends, or the input ends. The moves that lead to a session are kept in a *log*, each
with the reaction of the server, and `Reached source directives log s` says that the server,
started with these settings, gets to `s` by the moves of `log`. Lint runs end in any order,
each at most once, and nothing happens any more after the server has stopped.

Two facts make up the theory of runs. What the operations of a session do is a run
(`Reached.receive`, `Reached.finish`, `Reached.close`), and a run is no more than its moves
(`Reached.eq_play`). And what a move does to one document is one of the five cases of `Effect`
(`move_effect`), whatever else it does; every invariant of a run is an induction on `Reached`
with these five cases.
-/

namespace LintBridge

/-! ## Moves and logs -/

/-- What can happen to a session. -/
inductive Move
  /-- A value from the editor has arrived. -/
  | received (v : Json)
  /-- A lint run, given by its number, ends. -/
  | ended (k : Nat) (report : Option (List String))
  /-- The input has ended or cannot be read any further. -/
  | disconnected

namespace Move

/-- The document text that a move brings. -/
def documentText? : Move → Option DocumentText
  | received v => v.documentText?
  | ended _ _ | disconnected => none

/-- The lint run that a move ends. -/
def endedRun? : Move → Option Nat
  | ended k _ => some k
  | received _ | disconnected => none

/-- The move closes a document. -/
def Closes (uri : String) : Move → Prop
  | received v => v.closedDocument? = some uri
  | ended _ _ | disconnected => False

end Move

/-- Moves with the reactions to them, in order. -/
abbrev Log := List (Move × Reaction)

namespace Log

/-- All messages sent. -/
def sent (log : Log) : List Outgoing := log.flatMap (·.2.sent)

/-- The document texts that the editor has sent, in order. -/
def texts (log : Log) : List DocumentText := log.filterMap (·.1.documentText?)

/-- What the editor has been told to show for a document, each time with the move that was
the reason for it. -/
def shown (log : Log) (uri : String) : List (Move × Int32 × List Diagnostic) :=
  log.flatMap fun e => (e.2.shown uri).map (e.1, ·)

@[simp] theorem texts_append (log : Log) (m : Move) (r : Reaction) :
    texts (log ++ [(m, r)]) = texts log ++ m.documentText?.toList := by
  cases h : m.documentText? <;> simp [texts, List.filterMap_append, h]

end Log

/-! ## Runs -/

namespace Session

/-- A session at its start. -/
def init (source : String) (directives : DirectiveSyntax) : Session :=
  { server := .init source directives }

/-- The text that is stored for a document. -/
abbrev document? (s : Session) (uri : String) : Option Document := s.server.documents.get? uri

/-- What the registry holds for a document. -/
abbrev entries (s : Session) (uri : String) : List RegisteredViolation :=
  s.server.registry.entries uri

/-- Makes a move. The end of a lint run that is not under way has no effect. -/
def move (s : Session) : Move → Session × Reaction
  | .received v => s.react (.received v)
  | .ended k report => match s.runs[k]? with
    | some ⟨job, false⟩ => react { s with runs := s.runs.set k ⟨job, true⟩ } (.linted job report)
    | _ => (s, {})
  | .disconnected => s.react .disconnected

/-- A move can be made: the server has not stopped, and a lint run that ends is under way. -/
structure Ready (s : Session) (m : Move) : Prop where
  running : s.exit = none
  pending : ∀ k report, m = .ended k report → ∃ job, s.runs[k]? = some ⟨job, false⟩

/-- The session `s` comes about by the moves of `log`. -/
inductive Reached (source : String) (directives : DirectiveSyntax) : Log → Session → Prop
  | start : Reached source directives [] (init source directives)
  /-- Bytes wait that do not make up a whole frame. -/
  | buffered {log : Log} {s : Session} (bytes : List UInt8) (h : Reached source directives log s) :
      Reached source directives log { s with pending := bytes }
  /-- A move is made. -/
  | step {log : Log} {s : Session} (m : Move) (h : Reached source directives log s)
      (ready : s.Ready m) :
      Reached source directives (log ++ [(m, (s.move m).2)]) (s.move m).1

theorem react_running {s : Session} (h : s.exit = none) (e : Event) :
    s.react e = ({ s with
      server := (s.server.step e).1
      runs := s.runs ++ (s.server.step e).2.started.map ({ job := · })
      exit := (s.server.step e).2.exit }, (s.server.step e).2) := by
  simp [react, h]

theorem react_stopped {s : Session} {e : ExitReason} (h : s.exit = some e) (e : Event) :
    s.react e = (s, {}) := by
  simp [react, h]

theorem move_ended {s : Session} {k : Nat} {job : LintJob} (hx : s.exit = none)
    (hk : s.runs[k]? = some ⟨job, false⟩) (report : Option (List String)) :
    s.move (.ended k report) = ({ s with
      server := (s.server.applyLint job report).1
      runs := s.runs.set k ⟨job, true⟩ ++
        (s.server.applyLint job report).2.started.map ({ job := · })
      exit := (s.server.applyLint job report).2.exit }, (s.server.applyLint job report).2) := by
  simp [move, hk, react, hx, Server.step]

/-! ## The operations of a session are runs -/

theorem reactOnto_eq (done : List Reaction) (s : Session) (es : List Event) :
    reactOnto done s es = ((reactAll s es).1, done.reverse ++ (reactAll s es).2) := by
  induction es generalizing done s with
  | nil => simp [reactAll, reactOnto]
  | cons e es ih =>
      simp only [reactAll, reactOnto]
      rw [ih, ih [(s.react e).2]]
      simp

theorem reactAll_nil (s : Session) : s.reactAll [] = (s, []) := rfl

theorem reactAll_cons (s : Session) (e : Event) (es : List Event) :
    s.reactAll (e :: es) =
      (((s.react e).1.reactAll es).1, (s.react e).2 :: ((s.react e).1.reactAll es).2) := by
  show reactOnto [(s.react e).2] (s.react e).1 es = _
  rw [reactOnto_eq]
  rfl

section

variable {source : String} {directives : DirectiveSyntax} {log : Log} {s : Session}

/-- Events that are moves by themselves make up a run, up to the one at which the server
stops. -/
private theorem Reached.reactAll {es : List Event} (h : Reached source directives log s)
    (hes : ∀ e ∈ es, ∃ m, ∀ t : Session, t.move m = t.react e ∧ (t.exit = none → t.Ready m)) :
    ∃ log', Reached source directives (log ++ log') (s.reactAll es).1 ∧
      Log.sent log' = Reaction.allSent (s.reactAll es).2 := by
  induction es generalizing log s with
  | nil => exact ⟨[], by simpa [reactAll_nil] using h, rfl⟩
  | cons e es ih =>
      have hrest := fun e' he' => hes e' (List.mem_cons_of_mem _ he')
      rw [reactAll_cons]
      cases hx : s.exit with
      | some x =>
          -- After the stop no event is a move any more, and none has an effect.
          rw [react_stopped hx]
          obtain ⟨log', hr, hsent⟩ := ih h hrest
          exact ⟨log', hr, by simpa [Reaction.allSent] using hsent⟩
      | none =>
          obtain ⟨m, hm⟩ := hes e List.mem_cons_self
          have hstep := h.step m ((hm s).2 hx)
          rw [(hm s).1] at hstep
          obtain ⟨log', hr, hsent⟩ := ih hstep hrest
          refine ⟨(m, (s.react e).2) :: log', by simpa using hr, ?_⟩
          simp only [Log.sent, Reaction.allSent, List.flatMap_cons] at hsent ⊢
          rw [hsent]

private theorem received_move (vs : List Json) :
    ∀ e ∈ vs.map Event.received, ∃ m, ∀ t : Session,
      t.move m = t.react e ∧ (t.exit = none → t.Ready m) := by
  intro e he
  obtain ⟨v, -, rfl⟩ := List.mem_map.mp he
  exact ⟨.received v, fun t => ⟨rfl, fun hx => ⟨hx, by simp⟩⟩⟩

private theorem input_move (vs : List Json) :
    ∀ e ∈ vs.map Event.received ++ [.disconnected], ∃ m, ∀ t : Session,
      t.move m = t.react e ∧ (t.exit = none → t.Ready m) := by
  intro e he
  rcases List.mem_append.mp he with he | he
  · exact received_move vs e he
  · obtain rfl := List.mem_singleton.mp he
    exact ⟨.disconnected, fun t => ⟨rfl, fun hx => ⟨hx, by simp⟩⟩⟩

/-- The arrival of bytes is a run. -/
theorem Reached.receive (h : Reached source directives log s) (bytes : List UInt8) :
    ∃ log', Reached source directives (log ++ log') (s.receive bytes).1 ∧
      Log.sent log' = Reaction.allSent (s.receive bytes).2 := by
  unfold Session.receive
  -- Putting bytes aside is no move; the values and a fault in the framing are.
  split
  · exact (h.buffered _).reactAll (received_move _)
  · exact (h.buffered _).reactAll (received_move _)
  · exact (h.buffered _).reactAll (input_move _)

/-- The end of the input is a run. -/
theorem Reached.close (h : Reached source directives log s) :
    ∃ log', Reached source directives (log ++ log') s.close.1 ∧
      Log.sent log' = Reaction.allSent s.close.2 :=
  (h.buffered []).reactAll (input_move _)

/-- The end of a lint run is a run, while the server has not stopped. -/
theorem Reached.finish (h : Reached source directives log s) (hx : s.exit = none) (k : Nat)
    (report : Option (List String)) :
    ∃ log', Reached source directives (log ++ log') (s.finish k report).1 ∧
      Log.sent log' = Reaction.allSent (s.finish k report).2 := by
  unfold Session.finish
  split
  · rename_i job hk
    have hmove : s.move (.ended k report) =
        react { s with runs := s.runs.set k ⟨job, true⟩ } (.linted job report) := by
      simp [move, hk]
    rw [reactAll_cons, reactAll_nil, ← hmove]
    refine ⟨[(.ended k report, (s.move (.ended k report)).2)], h.step _ ⟨hx, ?_⟩, by
      simp [Log.sent, Reaction.allSent]⟩
    rintro j report' heq
    cases heq
    exact ⟨job, hk⟩
  · exact ⟨[], by simpa using h, rfl⟩

/-! ## Given moves -/

theorem ready_iff (s : Session) (m : Move) : s.Ready m ↔
    s.exit = none ∧ ∀ k ∈ m.endedRun?, s.runs[k]?.map (·.ended) = some false := by
  constructor
  · rintro ⟨hx, hm⟩
    refine ⟨hx, fun k hk => ?_⟩
    cases m with
    | ended k' report =>
        obtain rfl : k' = k := by simpa [Move.endedRun?] using hk
        obtain ⟨job, hjob⟩ := hm k' report rfl
        simp [hjob]
    | received v => cases hk
    | disconnected => cases hk
  · rintro ⟨hx, hm⟩
    refine ⟨hx, ?_⟩
    rintro k report rfl
    obtain ⟨⟨job, ended⟩, hk, rfl⟩ := Option.map_eq_some_iff.mp (hm k rfl)
    exact ⟨job, hk⟩

instance (s : Session) (m : Move) : Decidable (s.Ready m) := decidable_of_iff _ (ready_iff s m).symm

/-- The moves can be made one after the other. -/
def CanPlay : Session → List Move → Prop
  | _, [] => True
  | s, m :: ms => s.Ready m ∧ CanPlay (s.move m).1 ms

instance decidableCanPlay : (s : Session) → (ms : List Move) → Decidable (s.CanPlay ms)
  | _, [] => inferInstanceAs (Decidable True)
  | s, m :: ms =>
    have := decidableCanPlay (s.move m).1 ms
    inferInstanceAs (Decidable (s.Ready m ∧ CanPlay (s.move m).1 ms))

/-- Makes moves one after the other and keeps the log. -/
def play (s : Session) : List Move → Log × Session
  | [] => ([], s)
  | m :: ms => ((m, (s.move m).2) :: (play (s.move m).1 ms).1, (play (s.move m).1 ms).2)

/-- Moves that can be made one after the other are a run. -/
theorem Reached.play (h : Reached source directives log s) {ms : List Move} (hms : s.CanPlay ms) :
    Reached source directives (log ++ (s.play ms).1) (s.play ms).2 := by
  induction ms generalizing log s with
  | nil => simpa [Session.play] using h
  | cons m ms ih =>
      have := ih (h.step m hms.1) hms.2
      simpa [Session.play] using this

theorem play_concat (s : Session) (ms : List Move) (m : Move) :
    s.play (ms ++ [m]) = ((s.play ms).1 ++ [(m, ((s.play ms).2.move m).2)],
      ((s.play ms).2.move m).1) := by
  induction ms generalizing s with
  | nil => rfl
  | cons m' ms ih =>
      rw [List.cons_append, Session.play, ih]
      rfl

/-- The session with other bytes that wait. -/
def buffer (s : Session) (bytes : List UInt8) : Session := { s with pending := bytes }

theorem react_buffer (s : Session) (bytes : List UInt8) (e : Event) :
    (s.buffer bytes).react e = ((s.react e).1.buffer bytes, (s.react e).2) := by
  cases hx : s.exit with
  | none =>
      have hbuffer : (s.buffer bytes).exit = none := hx
      rw [react_running hx, react_running hbuffer]
      rfl
  | some x =>
      have hbuffer : (s.buffer bytes).exit = some x := hx
      rw [react_stopped hx, react_stopped hbuffer]

/-- Bytes that wait make no difference to a move. -/
theorem move_buffer (s : Session) (bytes : List UInt8) (m : Move) :
    (s.buffer bytes).move m = ((s.move m).1.buffer bytes, (s.move m).2) := by
  have hruns : (s.buffer bytes).runs = s.runs := rfl
  cases m with
  | received v => exact react_buffer s bytes (.received v)
  | ended k report =>
      simp only [move, hruns]
      split
      · rename_i job _
        exact react_buffer { s with runs := s.runs.set k ⟨job, true⟩ } bytes (.linted job report)
      · rfl
  | disconnected => exact react_buffer s bytes .disconnected

/-- A run is made of its moves: making them anew gives its log. -/
theorem Reached.eq_play (h : Reached source directives log s) :
    ∃ bytes, (init source directives).play (log.map (·.1)) = (log, s.buffer bytes) := by
  induction h with
  | start => exact ⟨[], rfl⟩
  | buffered bytes h ih => exact ih
  | @step log s m h ready ih =>
      obtain ⟨bytes, hplay⟩ := ih
      refine ⟨bytes, ?_⟩
      rw [List.map_append, List.map_singleton, play_concat, hplay]
      dsimp only
      rw [move_buffer]

/-! ## What a move does to one document -/

/-- What the move `m` of the session `s`, with the outcome `s'` and the reaction `r`, does to
one document. -/
inductive Effect (uri : String) (s : Session) : (m : Move) → (s' : Session) → (r : Reaction) → Prop
  /-- A text is stored, and a lint run on it is started. -/
  | recorded {v : Json} {d : Document} {s' : Session} {r : Reaction}
      (text : v.documentText? = some ⟨uri, d⟩)
      (newest : DocumentStore.isNewer (s.document? uri) d.version = false)
      (document : s'.document? uri = some d) (entries : s'.entries uri = s.entries uri)
      (runs : s'.runs = s.runs ++ [{ job := ⟨uri, d⟩ }]) (started : r.started = [⟨uri, d⟩])
      (shown : r.shown uri = []) : Effect uri s (.received v) s' r
  /-- The document is closed. -/
  | closed {v : Json} {d : Document} {s' : Session} {r : Reaction}
      (closing : v.closedDocument? = some uri) (opened : s.document? uri = some d)
      (document : s'.document? uri = none) (entries : s'.entries uri = s.entries uri)
      (runs : s'.runs = s.runs) (shown : r.shown uri = [(d.version, [])]) :
      Effect uri s (.received v) s' r
  /-- The outcome of a lint run is shown and registered. -/
  | linted {k : Nat} {job : LintJob} {report : Option (List String)} {s' : Session}
      {r : Reaction} (about : job.uri = uri) (pending : s.runs[k]? = some ⟨job, false⟩)
      (accepted : s.server.Accepts job) (document : s'.document? uri = s.document? uri)
      (entries : s'.entries uri = job.entries s.server.registry.directives report)
      (runs : s'.runs = s.runs.set k ⟨job, true⟩)
      (shown : r.shown uri = [(job.document.version,
        (job.violations report).map (.ofViolation s.server.source))]) :
      Effect uri s (.ended k report) s' r
  /-- The outcome of a lint run is dropped. -/
  | dropped {k : Nat} {job : LintJob} {report : Option (List String)} {s' : Session}
      {r : Reaction} (about : job.uri = uri) (pending : s.runs[k]? = some ⟨job, false⟩)
      (refused : ¬ s.server.Accepts job) (document : s'.document? uri = s.document? uri)
      (entries : s'.entries uri = s.entries uri) (runs : s'.runs = s.runs.set k ⟨job, true⟩)
      (shown : r.shown uri = []) : Effect uri s (.ended k report) s' r
  /-- Nothing happens to the document. -/
  | other {m : Move} {s' : Session} {r : Reaction}
      (text : ∀ d, m.documentText? = some ⟨uri, d⟩ →
        DocumentStore.isNewer (s.document? uri) d.version = true)
      (closing : m.Closes uri → s.document? uri = none)
      (ended : ∀ k report job, m = .ended k report → s.runs[k]? = some ⟨job, false⟩ →
        job.uri ≠ uri)
      (document : s'.document? uri = s.document? uri) (entries : s'.entries uri = s.entries uri)
      (runs : ∀ (k : Nat) (run : LintRun), run.job.uri = uri →
        (s'.runs[k]? = some run ↔ s.runs[k]? = some run))
      (shown : r.shown uri = []) : Effect uri s m s' r

/-- The lint runs of other documents come and go without those of this one. -/
private theorem getElem?_append_other {runs : List LintRun} {job : LintJob} {uri : String}
    (h : job.uri ≠ uri) (k : Nat) (run : LintRun) (hrun : run.job.uri = uri) :
    (runs ++ [{ job := job }])[k]? = some run ↔ runs[k]? = some run := by
  rw [List.getElem?_append]
  split
  · exact Iff.rfl
  · rename_i hk
    rw [List.getElem?_eq_none (Nat.le_of_not_lt hk), List.getElem?_singleton]
    split
    · refine ⟨fun heq => ?_, nofun⟩
      cases heq
      exact absurd hrun h
    · exact Iff.rfl

/-- Of all lint runs, only the one that ends changes. -/
private theorem getElem?_set_ended {runs : List LintRun} {job : LintJob} {j : Nat}
    (hj : runs[j]? = some ⟨job, false⟩) (k : Nat) :
    (runs.set j ⟨job, true⟩)[k]? = if j = k then some ⟨job, true⟩ else runs[k]? := by
  have hlt : j < runs.length := (List.getElem?_eq_some_iff.mp hj).1
  rw [List.getElem?_set, if_pos hlt]

private theorem getElem?_set_other {runs : List LintRun} {job : LintJob} {uri : String} {j : Nat}
    (hj : runs[j]? = some ⟨job, false⟩) (h : job.uri ≠ uri) (k : Nat) (run : LintRun)
    (hrun : run.job.uri = uri) :
    (runs.set j ⟨job, true⟩)[k]? = some run ↔ runs[k]? = some run := by
  rw [getElem?_set_ended hj]
  split
  · rename_i hjk
    subst hjk
    rw [hj]
    constructor
    · intro heq
      cases heq
      exact absurd hrun h
    · intro heq
      cases heq
      exact absurd hrun h
  · exact Iff.rfl

/-- A text of a document: it is stored and linted, or it is out of order. -/
private theorem effect_of_text {v : Json} {t : DocumentText} (uri : String) (hx : s.exit = none)
    (ht : v.documentText? = some t) :
    Effect uri s (.received v) (s.move (.received v)).1 (s.move (.received v)).2 := by
  have hv : s.server.step (.received v) = s.server.recordText t := Server.receive_of_text ht
  have hc : ¬ (Move.received v).Closes uri := by
    simp [Move.Closes, Server.closedDocument?_of_text ht]
  simp only [move, react_running hx, hv]
  cases hn : DocumentStore.isNewer (s.document? t.uri) t.document.version with
  | true =>
      -- A text that is out of order changes no document, not even its own.
      rw [Server.recordText_refused hn]
      refine .other ?_ (absurd · hc) nofun rfl rfl (by simp) (by simp)
      intro d hd
      obtain rfl : t = ⟨uri, d⟩ := Option.some.inj (ht.symm.trans hd)
      exact hn
  | false =>
      rw [Server.recordText_accepted hn]
      by_cases hu : t.uri = uri
      · subst hu
        exact .recorded ht hn (by simp [document?, UriMap.get?_insert]) rfl rfl rfl (by simp)
      · refine .other ?_ (absurd · hc) nofun (by simp [document?, UriMap.get?_insert, hu]) rfl
          (getElem?_append_other hu) (by simp)
        intro d hd
        obtain rfl : t = ⟨uri, d⟩ := Option.some.inj (ht.symm.trans hd)
        exact absurd rfl hu

/-- The closing of a document, which may not be open. -/
private theorem effect_of_closing {v : Json} {u : String} (uri : String) (hx : s.exit = none)
    (ht : v.documentText? = none) (hc : v.closedDocument? = some u) :
    Effect uri s (.received v) (s.move (.received v)).1 (s.move (.received v)).2 := by
  have hv : s.server.step (.received v) = s.server.closeDocument u := Server.receive_of_closing hc
  have htext : ∀ d, (Move.received v).documentText? = some ⟨uri, d⟩ →
      DocumentStore.isNewer (s.document? uri) d.version = true := by
    simp [Move.documentText?, ht]
  simp only [move, react_running hx, hv]
  cases hd : s.document? u with
  | none =>
      rw [Server.closeDocument_unknown hd]
      refine .other htext ?_ nofun rfl rfl (by simp) (by simp)
      intro hclose
      obtain rfl : u = uri := Option.some.inj (hc.symm.trans hclose)
      exact hd
  | some d =>
      rw [Server.closeDocument_open hd]
      by_cases hu : u = uri
      · subst hu
        exact .closed hc hd (by simp [document?, UriMap.get?_erase]) rfl (by simp)
          (by simp [Reaction.shown_diagnostics])
      · refine .other htext ?_ nofun (by simp [document?, UriMap.get?_erase, hu]) rfl (by simp)
          (by simp [Reaction.shown_diagnostics, hu])
        intro hclose
        exact absurd (Option.some.inj (hc.symm.trans hclose)) hu

/-- Everything else that the editor sends. -/
private theorem effect_of_quiet {v : Json} (uri : String) (hx : s.exit = none)
    (ht : v.documentText? = none) (hc : v.closedDocument? = none) :
    Effect uri s (.received v) (s.move (.received v)).1 (s.move (.received v)).2 := by
  have hq : s.server.Quiet (s.server.step (.received v)) := Server.receive_quiet ht hc
  simp only [move, react_running hx]
  refine .other (by simp [Move.documentText?, ht]) (by simp [Move.Closes, hc]) nofun ?_ ?_ ?_
    (hq.shown uri)
  · exact congrArg (UriMap.get? · uri) hq.documents
  · exact congrArg (Registry.entries · uri) hq.registry
  · simp [hq.started]

/-- The end of a lint run, whose outcome counts or does not. -/
private theorem effect_of_ended {k : Nat} {job : LintJob} (uri : String) (hx : s.exit = none)
    (hk : s.runs[k]? = some ⟨job, false⟩) (report : Option (List String)) :
    Effect uri s (.ended k report) (s.move (.ended k report)).1 (s.move (.ended k report)).2 := by
  -- For another document this end is one of the things that do not concern it.
  have hended : job.uri ≠ uri → ∀ k' report' job', Move.ended k report = .ended k' report' →
      s.runs[k']? = some ⟨job', false⟩ → job'.uri ≠ uri := by
    rintro hu k' report' job' heq hk'
    cases heq
    cases hk.symm.trans hk'
    exact hu
  rw [move_ended hx hk]
  by_cases ha : s.server.Accepts job
  · rw [Server.applyLint_accepted ha]
    by_cases hu : job.uri = uri
    · refine .linted hu hk ha rfl ?_ (by simp) (by simp [Reaction.shown_diagnostics, hu])
      rw [entries, Registry.entries_register, if_pos hu]
      rfl
    · refine .other nofun nofun (hended hu) rfl ?_ ?_ (by simp [Reaction.shown_diagnostics, hu])
      · rw [entries, Registry.entries_register, if_neg hu]
      · simpa using getElem?_set_other hk hu
  · rw [Server.applyLint_dropped ha]
    by_cases hu : job.uri = uri
    · exact .dropped hu hk ha rfl rfl (by simp) (by simp)
    · exact .other nofun nofun (hended hu) rfl rfl (by simpa using getElem?_set_other hk hu)
        (by simp)

/-- **What a move does to a document** is one of the five cases of `Effect`. -/
theorem move_effect {m : Move} (ready : s.Ready m) (uri : String) :
    Effect uri s m (s.move m).1 (s.move m).2 := by
  have hx := ready.running
  cases m with
  | received v =>
      cases ht : v.documentText? with
      | some t => exact effect_of_text uri hx ht
      | none =>
          cases hc : v.closedDocument? with
          | some u => exact effect_of_closing uri hx ht hc
          | none => exact effect_of_quiet uri hx ht hc
  | ended k report =>
      obtain ⟨job, hk⟩ := ready.pending k report rfl
      exact effect_of_ended uri hx hk report
  | disconnected =>
      simp only [move, react_running hx]
      exact .other nofun nofun nofun rfl rfl (by simp [Server.step]) (by simp [Server.step])

/-! ## Lint runs of one document -/

namespace Effect

variable {uri : String} {m : Move} {s' : Session} {r : Reaction} {k : Nat} {run : LintRun}

/-- A lint run keeps its number and its job, and one that has ended stays so. -/
theorem run_kept (h : Effect uri s m s' r) (hu : run.job.uri = uri)
    (hrun : s.runs[k]? = some run) :
    ∃ ended, s'.runs[k]? = some ⟨run.job, ended⟩ ∧ (run.ended = true → ended = true) := by
  have hset : ∀ (j : Nat) (job : LintJob), s.runs[j]? = some ⟨job, false⟩ →
      ∃ ended, (s.runs.set j ⟨job, true⟩)[k]? = some ⟨run.job, ended⟩ ∧
        (run.ended = true → ended = true) := by
    intro j job hj
    rw [getElem?_set_ended hj]
    split
    · rename_i hjk
      subst hjk
      obtain rfl : run = ⟨job, false⟩ := Option.some.inj (hrun.symm.trans hj)
      exact ⟨true, rfl, nofun⟩
    · exact ⟨run.ended, hrun, id⟩
  cases h with
  | recorded text newest document entries runs started shown =>
      have hlt : k < s.runs.length := (List.getElem?_eq_some_iff.mp hrun).1
      refine ⟨run.ended, ?_, id⟩
      rw [runs, List.getElem?_append_left hlt]
      exact hrun
  | closed closing opened document entries runs shown =>
      exact ⟨run.ended, by rw [runs]; exact hrun, id⟩
  | linted about pending accepted document entries runs shown =>
      rw [runs]
      exact hset _ _ pending
  | dropped about pending refused document entries runs shown =>
      rw [runs]
      exact hset _ _ pending
  | other text closing ended document entries runs shown =>
      exact ⟨run.ended, (runs k run hu).mpr hrun, id⟩

/-- The lint run that a move ends has ended after it. -/
theorem run_ended {report : Option (List String)} {job : LintJob}
    (h : Effect uri s (.ended k report) s' r) (hu : job.uri = uri)
    (hk : s.runs[k]? = some ⟨job, false⟩) : s'.runs[k]? = some ⟨job, true⟩ := by
  cases h with
  | linted about pending accepted document entries runs shown =>
      cases hk.symm.trans pending
      rw [runs, getElem?_set_ended hk, if_pos rfl]
  | dropped about pending refused document entries runs shown =>
      cases hk.symm.trans pending
      rw [runs, getElem?_set_ended hk, if_pos rfl]
  | other text closing ended document entries runs shown =>
      exact absurd hu (ended k report job rfl hk)

/-- A lint run was there before the move, or has just ended, or is the one on the text that
has just been stored. -/
theorem run_cases (h : Effect uri s m s' r) (hu : run.job.uri = uri)
    (hrun : s'.runs[k]? = some run) :
    s.runs[k]? = some run ∨
    (∃ report, m = .ended k report ∧ s.runs[k]? = some ⟨run.job, false⟩) ∨
    (k = s.runs.length ∧ run.ended = false ∧ s'.document? uri = some run.job.document ∧
      m.documentText? = some ⟨uri, run.job.document⟩) := by
  have hset : ∀ (j : Nat) (job : LintJob) (report : Option (List String)),
      s.runs[j]? = some ⟨job, false⟩ → (s.runs.set j ⟨job, true⟩)[k]? = some run →
      s.runs[k]? = some run ∨ ∃ report', Move.ended j report = .ended k report' ∧
        s.runs[k]? = some ⟨run.job, false⟩ := by
    intro j job report hj hk
    rw [getElem?_set_ended hj] at hk
    split at hk
    · rename_i hjk
      subst hjk
      cases hk
      exact Or.inr ⟨report, rfl, hj⟩
    · exact Or.inl hk
  cases h with
  | recorded text newest document entries runs started shown =>
      rw [runs, List.getElem?_append] at hrun
      split at hrun
      · exact Or.inl hrun
      · rename_i hge
        rw [List.getElem?_singleton] at hrun
        split at hrun
        · cases hrun
          exact Or.inr (Or.inr ⟨by omega, rfl, document, text⟩)
        · cases hrun
  | closed closing opened document entries runs shown =>
      rw [runs] at hrun
      exact Or.inl hrun
  | linted about pending accepted document entries runs shown =>
      rw [runs] at hrun
      exact (hset _ _ _ pending hrun).imp_right Or.inl
  | dropped about pending refused document entries runs shown =>
      rw [runs] at hrun
      exact (hset _ _ _ pending hrun).imp_right Or.inl
  | other text closing ended document entries runs shown =>
      exact Or.inl ((runs k run hu).mp hrun)

/-- A lint run was there before the move, or the move has brought the text that it works on. -/
theorem run_origin (h : Effect uri s m s' r) (hu : run.job.uri = uri)
    (hrun : s'.runs[k]? = some run) :
    (∃ old : Bool, s.runs[k]? = some ⟨run.job, old⟩) ∨
    (k = s.runs.length ∧ m.documentText? = some ⟨uri, run.job.document⟩) := by
  rcases h.run_cases hu hrun with hold | ⟨report, -, hold⟩ | ⟨hlen, -, -, htext⟩
  · exact Or.inl ⟨run.ended, hold⟩
  · exact Or.inl ⟨false, hold⟩
  · exact Or.inr ⟨hlen, htext⟩

/-- The text of an open document was stored before the move, or the move has brought it and
a lint run on it is the last one. -/
theorem document_cases {d : Document} (h : Effect uri s m s' r)
    (hd : s'.document? uri = some d) :
    s.document? uri = some d ∨
    (m.documentText? = some ⟨uri, d⟩ ∧ s'.runs = s.runs ++ [{ job := ⟨uri, d⟩ }]) := by
  cases h with
  | recorded text newest document entries runs started shown =>
      cases hd.symm.trans document
      exact Or.inr ⟨text, runs⟩
  | closed closing opened document entries runs shown => cases hd.symm.trans document
  | linted about pending accepted document entries runs shown =>
      exact Or.inl (document.symm.trans hd)
  | dropped about pending refused document entries runs shown =>
      exact Or.inl (document.symm.trans hd)
  | other text closing ended document entries runs shown =>
      exact Or.inl (document.symm.trans hd)

/-- The registry keeps what it holds for the document, or the move has brought the outcome of
a lint run on it. -/
theorem entries_cases (h : Effect uri s m s' r) :
    s'.entries uri = s.entries uri ∨ ∃ k report job, m = .ended k report ∧
      s.runs[k]? = some ⟨job, false⟩ ∧ job.uri = uri ∧
        s'.entries uri = job.entries s.server.registry.directives report := by
  cases h with
  | recorded text newest document entries runs started shown => exact Or.inl entries
  | closed closing opened document entries runs shown => exact Or.inl entries
  | linted about pending accepted document entries runs shown =>
      exact Or.inr ⟨_, _, _, rfl, pending, about, entries⟩
  | dropped about pending refused document entries runs shown => exact Or.inl entries
  | other text closing ended document entries runs shown => exact Or.inl entries

end Effect

/-! ## The settings -/

/-- A move that can be made is one step of the server. -/
theorem move_server {m : Move} (ready : s.Ready m) :
    ∃ e, (s.move m).1.server = (s.server.step e).1 := by
  have hx := ready.running
  cases m with
  | received v => exact ⟨.received v, by simp only [move, react_running hx]⟩
  | ended k report =>
      obtain ⟨job, hk⟩ := ready.pending k report rfl
      exact ⟨.linted job report, by rw [move_ended hx hk]; rfl⟩
  | disconnected => exact ⟨.disconnected, by simp only [move, react_running hx]⟩

/-- A run keeps the settings with which the server was started. -/
theorem Reached.settings (h : Reached source directives log s) :
    s.server.registry.directives = directives ∧ s.server.source = source := by
  induction h with
  | start => exact ⟨rfl, rfl⟩
  | buffered bytes h ih => exact ih
  | step m h ready ih =>
      obtain ⟨e, he⟩ := move_server ready
      rw [he, (Server.step_settings _ e).1, (Server.step_settings _ e).2]
      exact ih

end

end Session

end LintBridge
