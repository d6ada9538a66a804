import LintBridge.Proofs.Frame.Recognition

set_option autoImplicit false

/-! # Input that arrives in pieces

While more bytes may come, a frame is taken off the front of what has arrived, or a fault is
found there, only if no byte that is still to come can change it (`next_append`). So it does not
matter how an input is cut into pieces: to read two pieces together is to read the first one, and
then what it leaves together with the second one (`drain_append`).

Once the input is closed, what it leaves is read differently: a part of a header may become a
fault, and a blank line may end without its line feed. But no value is found there any more
(`decode_fst_eq_drain`), so that reading an input to its end yields nothing that more bytes could
take back (`decode_append_keeps_frames`).
-/

namespace LintBridge.Frame

/-! ## What is settled -/

/-- What has been found in a piece of the input, seen from the input with more bytes behind. -/
def Header.extend (more : List UInt8) : Header → Header
  | complete length rest => complete length (rest ++ more)
  | pending => pending
  | none => none
  | fault f => fault f

/-- What has been found in a piece of the input, seen from the input with more bytes behind. -/
def Next.extend (more : List UInt8) : Next → Next
  | frame body rest => frame body (rest ++ more)
  | pending => pending
  | finished => finished
  | fault f => fault f

section

variable {started : Bool} {length : Option Nat} {line bytes : List UInt8}

/-- Header lines that have arrived whole are read in the same way whatever follows. -/
theorem readLines_extend (closed : Bool)
    (h : readLines false started length line bytes ≠ .pending) (more : List UInt8) :
    readLines closed started length line (bytes ++ more) =
      (readLines false started length line bytes).extend more := by
  induction bytes generalizing started length line with
  | nil => exact absurd rfl h
  | cons b bytes ih =>
      rw [List.cons_append, readLines, readLines]
      rw [readLines] at h
      by_cases hb : b = 10
      · rw [if_pos hb] at h ⊢
        rw [if_pos hb]
        cases hread : readHeaderBytes (b :: line).reverse with
        | error f => rfl
        | ok said =>
            rw [hread] at h
            cases said with
            | blank => rfl
            | length n => exact ih h
            | other => exact ih h
      · rw [if_neg hb] at h ⊢
        rw [if_neg hb]
        exact ih h

/-- While more may come, there is no end of the input. -/
theorem readLines_ne_none : readLines false started length line bytes ≠ .none := by
  induction bytes generalizing started length line with
  | nil =>
      intro h
      cases h
  | cons b bytes ih =>
      rw [readLines]
      split
      · split
        · intro h
          cases h
        · intro h
          cases h
        · exact ih
        · exact ih
      · exact ih

/-- While more may come, the input does not end between frames. -/
theorem next_ne_finished : next false bytes ≠ .finished := by
  intro h
  unfold next at h
  split at h
  · cases h
  · rename_i hnone
    exact readLines_ne_none hnone
  · cases h
  · cases h
  · split at h
    · cases h
    · split at h <;> cases h

theorem takeBody_extend {taken body rest : List UInt8} {n : Nat}
    (h : takeBody taken n bytes = some (body, rest)) (more : List UInt8) :
    takeBody taken n (bytes ++ more) = some (body, rest ++ more) := by
  obtain ⟨front, rfl, rfl, rfl⟩ := eq_append_of_takeBody h
  rw [List.append_assoc]
  exact takeBody_append taken front (rest ++ more)

/-- A frame or a fault in what has arrived is there whatever follows. -/
theorem next_append (closed : Bool) (h : next false bytes ≠ .pending) (more : List UInt8) :
    next closed (bytes ++ more) = (next false bytes).extend more := by
  have hheader : readHeaders false bytes ≠ .pending := by
    intro hpending
    rw [next, hpending] at h
    exact h rfl
  rw [next, readHeaders, readLines_extend closed hheader more, next, readHeaders]
  rw [next] at h
  cases hread : readLines false false none [] bytes with
  | pending => exact absurd hread hheader
  | none => exact absurd hread readLines_ne_none
  | fault f => rfl
  | complete length rest =>
      rw [readHeaders, hread] at h
      cases length with
      | none => rfl
      | some n =>
          simp only [Header.extend]
          by_cases hlong : maxLength < n
          · rw [if_pos hlong, if_pos hlong]
            rfl
          · rw [if_neg hlong, if_neg hlong]
            simp only [if_neg hlong] at h
            cases htake : takeBody [] n rest with
            | none =>
                rw [htake] at h
                exact absurd rfl h
            | some taken =>
                obtain ⟨body, behind⟩ := taken
                rw [takeBody_extend htake more]
                rfl

end

/-! ## Reading piece by piece -/

/-- Reading goes on with more bytes where it has stopped before a part of a frame. Behind a fault
it does not go on. -/
def Stop.resume (closed : Bool) (more : List UInt8) : Stop → List Json × Stop
  | pending rest => drain closed (rest ++ more)
  | finished => ([], finished)
  | fault f => ([], fault f)

/-- While more may come, reading does not stop at the end of the input. -/
theorem drain_ne_finished (bytes : List UInt8) : (drain false bytes).2 ≠ .finished := by
  induction hsize : bytes.length using Nat.strongRecOn generalizing bytes with
  | _ size ih =>
      rw [drain_eq]
      cases hnext : next false bytes with
      | pending =>
          intro h
          cases h
      | fault f =>
          intro h
          cases h
      | finished => exact absurd hnext next_ne_finished
      | frame v rest => exact ih rest.length (hsize ▸ length_lt_of_next hnext) rest rfl

/-- **It does not matter how an input is cut.** Two pieces are read together by reading the first
one, and then what it leaves together with the second one. -/
theorem drain_append (closed : Bool) (bytes more : List UInt8) :
    drain closed (bytes ++ more) =
      ((drain false bytes).1 ++ ((drain false bytes).2.resume closed more).1,
        ((drain false bytes).2.resume closed more).2) := by
  induction hsize : bytes.length using Nat.strongRecOn generalizing bytes with
  | _ size ih =>
      by_cases hpending : next false bytes = .pending
      · have hdrain : drain false bytes = ([], .pending bytes) := by rw [drain_eq, hpending]
        rw [hdrain]
        rfl
      · have hnext := next_append closed hpending more
        rw [drain_eq closed, hnext, drain_eq false]
        cases hfound : next false bytes with
        | pending => exact absurd hfound hpending
        | finished => rfl
        | fault f => rfl
        | frame v rest =>
            have hlt : rest.length < size := hsize ▸ length_lt_of_next hfound
            simp only [Next.extend]
            rw [ih rest.length hlt rest rfl, List.append_assoc]

section

variable {bytes rest : List UInt8} {vs : List Json}

theorem decode_of_pending (h : drain false bytes = (vs, .pending rest)) (more : List UInt8) :
    decode (bytes ++ more) = (vs ++ (decode (rest ++ more)).1, (decode (rest ++ more)).2) := by
  rw [decode, drain_append, h]
  rfl

/-- Nothing behind a fault is read. -/
theorem decode_of_fault {f : Fault} (h : drain false bytes = (vs, .fault f))
    (more : List UInt8) : decode (bytes ++ more) = (vs, .fault f) := by
  rw [decode, drain_append, h]
  exact Prod.ext (List.append_nil vs) rfl

end

/-! ## What has been read -/

/-- Where reading stops to wait for more, there is a part of a frame. -/
theorem next_of_drain_pending {bytes rest : List UInt8}
    (h : (drain false bytes).2 = .pending rest) : next false rest = .pending := by
  induction hsize : bytes.length using Nat.strongRecOn generalizing bytes with
  | _ size ih =>
      rw [drain_eq] at h
      cases hnext : next false bytes with
      | pending =>
          rw [hnext] at h
          cases h
          exact hnext
      | finished =>
          rw [hnext] at h
          cases h
      | fault f =>
          rw [hnext] at h
          cases h
      | frame v behind =>
          rw [hnext] at h
          exact ih behind.length (hsize ▸ length_lt_of_next hnext) h rfl

/-- When the input ends in a part of a frame, no value is read from this part. -/
theorem decode_of_next_pending {bytes : List UInt8} (h : next false bytes = .pending) :
    (decode bytes).1 = [] := by
  rw [decode, drain_eq]
  cases hnext : next true bytes with
  | pending => rfl
  | finished => rfl
  | fault f => rfl
  | frame v rest =>
      rcases next_eq_frame_iff.mp hnext with ⟨f, rfl, -⟩ | ⟨-, rfl, rfl, -⟩
      · -- A whole frame would have been taken before the end of the input.
        rw [next_written] at h
        cases h
      · -- Only the last line feed of an empty body's header is missing, and nothing follows.
        have hnil : drain true [] = ([], .finished) := drain_of_finished rfl
        exact congrArg Prod.fst hnil

/-- All values of an input are read before its end is known. -/
theorem decode_fst_eq_drain (bytes : List UInt8) : (decode bytes).1 = (drain false bytes).1 := by
  have hclosed := drain_append true bytes []
  rw [List.append_nil] at hclosed
  have hrest : ((drain false bytes).2.resume true []).1 = [] := by
    cases hstop : (drain false bytes).2 with
    | pending rest =>
        have hnone := decode_of_next_pending (next_of_drain_pending hstop)
        rwa [← List.append_nil rest] at hnone
    | finished => rfl
    | fault f => rfl
  rw [decode, hclosed, hrest, List.append_nil]

/-- **Later bytes do not take back what has been read.** Wherever an input is cut off, the values
that have been read from it up to its end or its first fault are the first ones that are read
from the input with more bytes behind it. -/
theorem decode_append_keeps_frames (bytes more : List UInt8) :
    (decode bytes).1 <+: (decode (bytes ++ more)).1 := by
  rw [decode_fst_eq_drain, decode, drain_append]
  exact List.prefix_append _ _

end LintBridge.Frame
