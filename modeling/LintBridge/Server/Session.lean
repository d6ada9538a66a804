import LintBridge.Protocol.Frame
import LintBridge.Server.Basic

set_option autoImplicit false

/-! # Sessions

A session joins a server to its surroundings: bytes arrive in pieces of any size and are cut
into frames, and the lint runs that the server has started end one by one in any order. Lint
runs are numbered from zero in the order in which they start. Once the server has stopped,
nothing has any effect.
-/

namespace LintBridge

/-- A lint run of a session. -/
structure LintRun where
  job : LintJob
  /-- Whether its outcome has reached the server. -/
  ended : Bool := false
  deriving DecidableEq

/-- A server in its surroundings. -/
structure Session where
  server : Server
  /-- Bytes of a frame that has not arrived whole. -/
  pending : List UInt8 := []
  /-- All lint runs, in the order in which they were started. -/
  runs : List LintRun := []
  /-- Why the server has stopped, if it has. -/
  exit : Option ExitReason := none

namespace Session

/-- Lets an event happen to the server. -/
def react (s : Session) (e : Event) : Session × Reaction :=
  if s.exit.isSome then (s, {})
  else
    let (server, r) := s.server.step e
    ({ s with server, runs := s.runs ++ r.started.map ({ job := · }), exit := r.exit }, r)

/-- Lets events happen in order, behind reactions that are given in reverse order. -/
def reactOnto (done : List Reaction) (s : Session) : List Event → Session × List Reaction
  | [] => (s, done.reverse)
  | e :: es =>
    let (s, r) := s.react e
    reactOnto (r :: done) s es

/-- Lets events happen in order. -/
def reactAll (s : Session) (es : List Event) : Session × List Reaction := reactOnto [] s es

/-- Bytes arrive. -/
def receive (s : Session) (bytes : List UInt8) : Session × List Reaction :=
  match Frame.drain false (s.pending ++ bytes) with
  | (values, .pending rest) => reactAll { s with pending := rest } (values.map .received)
  | (values, .finished) => reactAll { s with pending := [] } (values.map .received)
  | (values, .fault _) =>
    reactAll { s with pending := [] } (values.map .received ++ [.disconnected])

/-- The input ends. -/
def close (s : Session) : Session × List Reaction :=
  reactAll { s with pending := [] }
    ((Frame.decode s.pending).1.map .received ++ [.disconnected])

/-- A lint run ends. A number that stands for no run or for one that has ended has no
effect. -/
def finish (s : Session) (k : Nat) (report : Option (List String)) : Session × List Reaction :=
  match s.runs[k]? with
  | some ⟨job, false⟩ => reactAll { s with runs := s.runs.set k ⟨job, true⟩ } [.linted job report]
  | _ => (s, [])

/-- The first lint run that has not ended. -/
def firstRunning? (s : Session) : Option (Nat × LintJob) :=
  (s.runs.findIdx? (!·.ended)).bind fun k => s.runs[k]?.map fun run => (k, run.job)

end Session

/-- All messages sent in some reactions. -/
def Reaction.allSent (rs : List Reaction) : List Outgoing := rs.flatMap (·.sent)

/-- All lint runs started in some reactions. -/
def Reaction.allStarted (rs : List Reaction) : List LintJob := rs.flatMap (·.started)

end LintBridge
