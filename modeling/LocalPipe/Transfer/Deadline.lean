import LocalPipe.Host.Action
import LocalPipe.Host.Waiting
import LocalPipe.Transfer.Transport

namespace LocalPipe

namespace Transport

/-- Writes while the host takes bytes, waiting for it up to a moment. The
answer is how many bytes are left. -/
def transmitUntil (d : Descriptor) (moment : Nat) (data : Bytes) (h : Host) :
    Except IoError Nat × Host :=
  if data = [] then (.ok 0, h)
  else
    match _answer : h.write d data with
    | (.ok 0, h') => (.error .wroteNothing, h')
    | (.ok (n + 1), h') => transmitUntil d moment (data.drop (n + 1)) h'
    | (.error .eagain, h') =>
      if moment ≤ h'.now then (.ok data.length, h')
      else
        match _wait : h'.waitReady [.handle ⟨d, .writable⟩] (some ⟨moment - h'.now⟩) with
        | (.ok 0, h'') => (.ok data.length, h'')
        | (.ok (_ + 1), h'') => transmitUntil d moment data h''
        | (.error e, h'') => (.error (.os e), h'')
    | (.error .eintr, h') => transmitUntil d moment data h'
    | (.error e, h') => (.error (.os e), h')
termination_by (h.patience, data.length + (h.faults d.endId .write).length)
decreasing_by
  · rename_i some_left
    have same := h.patience_write d data
    have fewer := h.faults_write_le d data
    simp only [_answer] at same fewer
    have := List.length_pos_iff.mpr some_left
    rw [same]
    apply Prod.Lex.right
    simp only [List.length_drop]
    omega
  · have same := h.patience_write d data
    have cost := h'.patience_waitReady [.handle ⟨d, .writable⟩] (some ⟨moment - h'.now⟩)
    simp only [_answer] at same
    simp only [_wait, reduceCtorEq, false_or] at cost
    apply Prod.Lex.left
    omega
  · have same := h.patience_write d data
    have fewer := h.faults_write_lt d data (by rw [_answer])
    simp only [_answer] at same fewer
    rw [same]
    apply Prod.Lex.right
    omega

/-- Writes at once, for no longer than the timeout. The answer is how many
bytes were written, which are fewer than asked only when the time is up. -/
def writeBlocking (t : Transport) (data : Bytes) (timeout : Duration) :
    Action (Except IoError Nat) := do
  let moment ← Action.deadline timeout
  let left ← Action.call (transmitUntil t.descriptor moment data)
  return left.map (data.length - ·)

end Transport

/-- Waits up to a moment for a peer to connect to a listener. -/
def acceptUntil (listener : Nat) (moment : Nat) (h : Host) : Except IoError Descriptor × Host :=
  match _answer : h.accept listener with
  | (.ok d, h') => (.ok d, h')
  | (.error .eagain, h') =>
    if moment ≤ h'.now then (.error .noPeer, h')
    else
      match _wait : h'.waitReady [.listener listener] (some ⟨moment - h'.now⟩) with
      | (.ok 0, h'') => (.error .noPeer, h'')
      | (.ok (_ + 1), h'') => acceptUntil listener moment h''
      | (.error e, h'') => (.error (.os e), h'')
  | (.error .eintr, h') => acceptUntil listener moment h'
  | (.error e, h') => (.error (.os e), h')
termination_by (h.patience, (h.outcomesAhead .accept).length)
decreasing_by
  · have same := h.patience_accept listener
    have cost := h'.patience_waitReady [.listener listener] (some ⟨moment - h'.now⟩)
    simp only [_answer] at same
    simp only [_wait, reduceCtorEq, false_or] at cost
    apply Prod.Lex.left
    omega
  · have same := h.patience_accept listener
    have fewer := h.outcomes_accept_lt listener (by rw [_answer])
    simp only [_answer] at same fewer
    rw [same]
    exact Prod.Lex.right _ fewer

/-- Waits for no longer than the timeout for a peer to connect to a
listener. -/
def acceptWithin (listener : Nat) (timeout : Duration) : Action (Except IoError Descriptor) := do
  match ← Action.call Host.setListenerMode with
  | .error e => return .error (.os e)
  | .ok () =>
    let moment ← Action.deadline timeout
    Action.call (acceptUntil listener moment)

end LocalPipe
