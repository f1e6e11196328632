import LocalPipe.Proofs.Traffic
import LocalPipe.Transfer.Worker

namespace LocalPipe

open Host

/-- The bytes of a receive that is complete. -/
@[simp] def Outcome.bytes : Outcome Bytes → Bytes
  | .complete data => data
  | .pending | .failed _ => []

theorem reads_receive (d : Descriptor) (n : Nat) (h : Host) :
    h.Reads d (receive d n h).2 := by
  fun_induction receive d n h with
  | case1 h h' answer => exact .of_read answer
  | case2 h data h' nonempty answer => exact .of_read answer
  | case3 h h' answer => exact .of_read answer
  | case4 h h' answer ih => exact (Reads.of_read answer).trans ih
  | case5 h e h' _ _ answer => exact .of_read answer

/-- A receive returns exactly what its reads brought in. -/
theorem inbound_receive (d : Descriptor) (n : Nat) (h : Host) :
    inbound d (receive d n h).2.calls = inbound d h.calls ++ (receive d n h).1.bytes := by
  fun_induction receive d n h with
  | case1 h h' answer => exact inbound_read answer
  | case2 h data h' nonempty answer => exact inbound_read answer
  | case3 h h' answer => exact inbound_read answer
  | case4 h h' answer ih => rw [ih, inbound_read answer, answered, List.append_nil]
  | case5 h e h' _ _ answer => exact inbound_read answer

theorem Host.Reads.of_receive {d : Descriptor} {n : Nat} {h h' : Host} {outcome : Outcome Bytes}
    (answer : receive d n h = (outcome, h')) : h.Reads d h' := by
  have reads := reads_receive d n h
  rwa [answer] at reads

theorem inbound_of_receive {d : Descriptor} {n : Nat} {h h' : Host} {outcome : Outcome Bytes}
    (answer : receive d n h = (outcome, h')) :
    inbound d h'.calls = inbound d h.calls ++ outcome.bytes := by
  have grown := inbound_receive d n h
  rwa [answer] at grown

theorem writes_transmit (d : Descriptor) (data : Bytes) (h : Host) :
    h.Writes d (transmit d data h).2.2 := by
  fun_induction transmit d data h with
  | case1 => exact .start
  | case2 data h _ h' answer => exact .of_write answer
  | case3 data h _ n h' answer ih => exact (Writes.of_write answer).trans ih
  | case4 data h _ h' answer => exact .of_write answer
  | case5 data h _ h' answer ih => exact (Writes.of_write answer).trans ih
  | case6 data h _ e h' _ _ answer => exact .of_write answer

/-- A transmission places a first part of its bytes, and what is left is the
rest. -/
theorem outbound_transmit (d : Descriptor) (data : Bytes) (h : Host) :
    ∃ sent, sent ++ (transmit d data h).2.1 = data ∧
      outbound d (transmit d data h).2.2.calls = outbound d h.calls ++ sent := by
  fun_induction transmit d data h with
  | case1 => exact ⟨[], rfl, by simp⟩
  | case2 data h _ h' answer => exact ⟨[], rfl, outbound_write answer⟩
  | case3 data h _ n h' answer ih =>
    obtain ⟨sent, split, placed⟩ := ih
    refine ⟨data.take (n + 1) ++ sent, ?_, ?_⟩
    · rw [List.append_assoc, split, List.take_append_drop]
    · rw [placed, outbound_write answer, acceptedOf, List.append_assoc]
  | case4 data h _ h' answer => exact ⟨[], rfl, outbound_write answer⟩
  | case5 data h _ h' answer ih =>
    obtain ⟨sent, split, placed⟩ := ih
    exact ⟨sent, split, by rw [placed, outbound_write answer, acceptedOf, List.append_nil]⟩
  | case6 data h _ e h' _ _ answer => exact ⟨[], rfl, outbound_write answer⟩

theorem Host.Writes.of_transmit {d : Descriptor} {data left : Bytes} {h h' : Host}
    {outcome : Outcome Unit} (answer : transmit d data h = (outcome, left, h')) :
    h.Writes d h' := by
  have writes := writes_transmit d data h
  rwa [answer] at writes

theorem outbound_of_transmit {d : Descriptor} {data left : Bytes} {h h' : Host}
    {outcome : Outcome Unit} (answer : transmit d data h = (outcome, left, h')) :
    ∃ sent, sent ++ left = data ∧ outbound d h'.calls = outbound d h.calls ++ sent := by
  have sent := outbound_transmit d data h
  rwa [answer] at sent

/-- Nothing is left of a transmission only when it is complete. -/
theorem transmit_complete_iff (d : Descriptor) (data : Bytes) (h : Host) :
    (transmit d data h).1 = .complete () ↔ (transmit d data h).2.1 = [] := by
  fun_induction transmit d data h with
  | case1 => simp
  | case2 data h some_left h' answer => simp [some_left]
  | case3 data h _ n h' answer ih => exact ih
  | case4 data h some_left h' answer => simp [some_left]
  | case5 data h _ h' answer ih => exact ih
  | case6 data h some_left e h' _ _ answer => simp [some_left]

end LocalPipe
