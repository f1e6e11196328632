import LocalPipe.Proofs.Releases
import LocalPipe.Proofs.Ticks

namespace LocalPipe

/-- The bytes of a write that were not accepted, all if it failed. -/
@[simp] def refusedOf (data : Bytes) : Except Errno Nat → Bytes
  | .ok n => data.drop n
  | .error _ => data

/-- What a write on a descriptor has left, if a call is one. -/
def Call.refused? (d : Descriptor) : Call → Option Bytes
  | .write d' data result => if d' = d then some (refusedOf data result) else none
  | _ => none

/-- What the latest write on a descriptor has left, if there was one. -/
def refused? (d : Descriptor) (calls : List Call) : Option Bytes :=
  calls.findSome? (Call.refused? d)

@[simp] theorem refused?_nil (d : Descriptor) : refused? d [] = none :=
  rfl

@[simp] theorem refused?_append (d : Descriptor) (later earlier : List Call) :
    refused? d (later ++ earlier) = (refused? d later).or (refused? d earlier) :=
  List.findSome?_append

theorem refused?_write (d : Descriptor) (data : Bytes) (result : Except Errno Nat) :
    refused? d [.write d data result] = some (refusedOf data result) := by
  simp [refused?, Call.refused?]

namespace Host

/-- Nothing was written in between. -/
def WritesNothing (h h' : Host) : Prop :=
  ∃ later, h'.calls = later ++ h.calls ∧ ∀ call ∈ later, ∀ d, call.refused? d = none

variable {h h' h'' : Host} {d : Descriptor} {data left : Bytes}

theorem WritesNothing.of_calls (same : h'.calls = h.calls) : h.WritesNothing h' :=
  Makes.of_calls same

theorem Reads.writesNothing (reads : h.Reads d h') : h.WritesNothing h' := by
  induction reads with
  | start => exact .of_calls rfl
  | @read mid n _ ih =>
    exact Makes.trans ih (.of_record (.read d n (mid.read d n).1) (fun _ => rfl) (calls_read ..))
  | log event _ ih => exact ih

theorem Quiet.writesNothing (quiet : h.Quiet h') : h.WritesNothing h' := by
  refine Makes.mono quiet fun call still d => ?_
  cases call <;> simp_all [Call.isTransfer, Call.refused?]

theorem outbound_of_nothing {later : List Call}
    (nothing : ∀ call ∈ later, ∀ d, call.refused? d = none) (d : Descriptor) :
    outbound d later = [] ∧ refused? d later = none := by
  constructor
  · simp only [outbound, List.flatMap_eq_nil_iff, List.mem_reverse]
    intro call member
    have := nothing call member d
    cases call <;> simp_all [Call.refused?, Call.outbound]
  · exact List.findSome?_eq_none_iff.mpr fun call member => nothing call member d

end Host

open Host

variable {d : Descriptor} {data left : Bytes} {h h' : Host}

/-- What a write adds to what comes after it. -/
theorem refused_of_write {result : Except Errno Nat} {mid : Host} {later : List Call}
    (answer : h.write d data = (result, mid)) (calls : h'.calls = later ++ mid.calls) :
    h'.calls = (later ++ [.write d data result]) ++ h.calls ∧
      outbound d (later ++ [.write d data result]) = acceptedOf data result ++ outbound d later ∧
      refused? d (later ++ [.write d data result]) =
        (refused? d later).or (some (refusedOf data result)) := by
  have written := h.calls_write d data
  rw [answer] at written
  refine ⟨by rw [calls, written]; simp, by simp [Call.outbound], ?_⟩
  rw [refused?_append, refused?_write]

/-- The writes of a transmission place a first part of its bytes, and the last of
them leaves the rest. -/
theorem transmit_refused (d : Descriptor) (data : Bytes) (h : Host) :
    ∃ later, (transmit d data h).2.2.calls = later ++ h.calls ∧
      outbound d later ++ (transmit d data h).2.1 = data ∧
      (data = [] ∧ later = [] ∨ refused? d later = some (transmit d data h).2.1) := by
  fun_induction transmit d data h with
  | case1 => exact ⟨[], rfl, rfl, Or.inl ⟨rfl, rfl⟩⟩
  | case2 data h _ h' answer =>
    obtain ⟨calls, placed, left⟩ := refused_of_write answer (List.nil_append h'.calls).symm
    exact ⟨_, calls, by rw [placed]; rfl, Or.inr left⟩
  | case3 data h _ n h' answer ih =>
    obtain ⟨later, calls, split, ends⟩ := ih
    obtain ⟨calls', placed, left⟩ := refused_of_write answer calls
    refine ⟨_, calls', ?_, Or.inr ?_⟩
    · rw [placed, List.append_assoc, split, acceptedOf, List.take_append_drop]
    · rw [left]
      rcases ends with ⟨all, rfl⟩ | last
      · have nothing : (transmit d (data.drop (n + 1)) h').2.1 = [] := by rw [all, transmit]; rfl
        rw [nothing, refusedOf, all]
        rfl
      · rw [last]
        rfl
  | case4 data h _ h' answer =>
    obtain ⟨calls, placed, left⟩ := refused_of_write answer (List.nil_append h'.calls).symm
    exact ⟨_, calls, by rw [placed]; rfl, Or.inr left⟩
  | case5 data h some_data h' answer ih =>
    obtain ⟨later, calls, split, ends⟩ := ih
    obtain ⟨calls', placed, left⟩ := refused_of_write answer calls
    refine ⟨_, calls', by rw [placed]; exact split, Or.inr ?_⟩
    rw [left, ends.resolve_left fun both => some_data both.1]
    rfl
  | case6 data h _ e h' _ _ answer =>
    obtain ⟨calls, placed, left⟩ := refused_of_write answer (List.nil_append h'.calls).symm
    exact ⟨_, calls, by rw [placed]; rfl, Or.inr left⟩

theorem refused_of_transmit {outcome : Outcome Unit} (some_data : data ≠ [])
    (answer : transmit d data h = (outcome, left, h')) :
    ∃ later, h'.calls = later ++ h.calls ∧ outbound d later ++ left = data ∧
      refused? d later = some left := by
  obtain ⟨later, calls, split, ends⟩ := transmit_refused d data h
  rw [answer] at calls split ends
  exact ⟨later, calls, split, ends.resolve_left fun both => some_data both.1⟩

/-- The rest of the outstanding send of a lane. -/
def Lane.unaccepted (lane : Lane) : Bytes :=
  lane.worker.unaccepted lane.transport.sending

namespace Writer

/-- What the calls of an advance show of the bytes that were unsent: first those
that were placed, then what the latest write has left, or what was outstanding
before if there was none, and last those that are queued still. What is left belongs
to one send. It is outstanding unless the advance has failed. -/
structure Shown (before : Lane) (result : Except SendFailure Nat) (after : Lane)
    (later : List Call) (rest : Bytes) : Prop where
  calls : after.host.calls = later ++ before.host.calls
  rest_eq : rest = (refused? before.transport.descriptor later).getD before.unaccepted
  unsent : before.unsent = outbound before.transport.descriptor later ++ rest ++ after.queues.output
  small : rest.length ≤ before.worker.capacity
  kept : ∀ total, result = .ok total → rest = after.unaccepted

variable {lane : Lane} {moved : Nat}

theorem unaccepted_of_free (free : lane.transport.sending = none) : lane.unaccepted = [] := by
  rw [Lane.unaccepted, free]
  rfl

/-- An advance may begin with a chunk that goes through whole. -/
theorem Shown.prepend {before next after : Lane} {result : Except SendFailure Nat}
    {first later : List Call} {rest : Bytes} (shown : Shown next result after later rest)
    (calls : next.host.calls = first ++ before.host.calls)
    (finished : refused? before.transport.descriptor first = some [])
    (free : next.transport.sending = none)
    (unsent : before.unsent = outbound before.transport.descriptor first ++ next.unsent)
    (descriptor : next.transport.descriptor = before.transport.descriptor)
    (capacity : next.worker.capacity = before.worker.capacity) :
    Shown before result after (later ++ first) rest where
  calls := by rw [shown.calls, calls, List.append_assoc]
  rest_eq := by
    rw [shown.rest_eq, unaccepted_of_free free, descriptor, refused?_append, finished]
    cases refused? before.transport.descriptor later <;> rfl
  unsent := by
    rw [unsent, shown.unsent, descriptor, outbound_append]
    simp only [List.append_assoc]
  small := by
    rw [← capacity]
    exact shown.small
  kept := shown.kept

/-- An advance may end with a chunk that does not go through whole. -/
theorem Shown.of_transmit {before after : Lane} {result : Except SendFailure Nat}
    {outcome : Outcome Unit} (some_data : data ≠ [])
    (transmitted : transmit before.transport.descriptor data before.host =
      (outcome, left, after.host))
    (unsent : before.unsent = data ++ after.queues.output)
    (within : data.length ≤ before.worker.capacity)
    (kept : ∀ total, result = .ok total → left = after.unaccepted) :
    ∃ later rest, Shown before result after later rest := by
  obtain ⟨later, calls, split, last⟩ := refused_of_transmit some_data transmitted
  refine ⟨later, left, calls, by rw [last]; rfl, by rw [unsent, split], ?_, kept⟩
  rw [← split, List.length_append] at within
  omega

theorem Issues.shown {answer : Except SendFailure Nat × Lane} (issues : Issues lane moved answer)
    (free : lane.transport.sending = none) :
    ∃ later rest, Shown lane answer.1 answer.2 later rest := by
  -- along the chunks, each goes through whole but for the last one
  induction issues with
  | @done lane moved nothing =>
    refine ⟨[], lane.unaccepted, rfl, rfl, rfl, ?_, fun _ _ => rfl⟩
    rw [unaccepted_of_free free]
    exact Nat.zero_le _
  | next next transmitted _ ih =>
    obtain ⟨rfl, _⟩ := outbound_of_complete transmitted
    obtain ⟨first, calls, placed, finished⟩ := refused_of_transmit next.nonempty transmitted
    obtain ⟨later, rest, shown⟩ := ih rfl
    refine ⟨_, rest, shown.prepend calls finished rfl ?_ rfl rfl⟩
    rw [List.append_nil] at placed
    rw [unsent_of_free free, unsent_of_free rfl, placed, next.split]
  | pending next transmitted =>
    obtain ⟨_, sent, parts⟩ := left_of_pending transmitted
    refine Shown.of_transmit next.nonempty transmitted ?_ next.within
      fun _ _ => (drop_of_left parts).symm
    rw [unsent_of_free free, next.split]
  | failed next transmitted =>
    refine Shown.of_transmit next.nonempty transmitted ?_ next.within (by simp)
    rw [unsent_of_free free, next.split]

theorem Holds.left_le {op : Operation} (holds : Holds lane op) :
    (lane.worker.chunk.drop op.sent).length ≤ lane.worker.capacity := by
  have := holds.within
  have := holds.whole
  rw [List.length_drop]
  omega

/-- The calls of every advance show what becomes of the bytes that were unsent. -/
theorem advance_shown (lane : Lane) (sends : lane.worker.Sends lane.transport.sending) :
    ∃ later rest, Shown lane (advance lane).1 (advance lane).2 later rest := by
  have run := advance_run lane sends
  generalize advance lane = answer at run
  cases run with
  | idle _ free issues => exact issues.shown free
  | pending holds transmitted =>
    exact Shown.of_transmit holds.left_ne_nil transmitted holds.unsent holds.left_le
      fun _ _ => (holds.drop_left transmitted).symm
  | complete holds transmitted issues =>
    obtain ⟨rfl, _⟩ := outbound_of_complete transmitted
    obtain ⟨first, calls, placed, finished⟩ := refused_of_transmit holds.left_ne_nil transmitted
    obtain ⟨later, rest, shown⟩ := issues.shown rfl
    refine ⟨_, rest, shown.prepend calls finished rfl ?_ rfl rfl⟩
    rw [List.append_nil] at placed
    rw [holds.unsent, unsent_of_free rfl, placed]
  | failed holds transmitted =>
    exact Shown.of_transmit holds.left_ne_nil transmitted holds.unsent holds.left_le (by simp)

end Writer

namespace Connection

/-- What the calls of a tick show of the bytes that were unsent, as for the worker
that sends. -/
structure Shown (c : Connection) (q : Queues) (h : Host) (t : Tick) (later : List Call)
    (rest : Bytes) : Prop where
  calls : t.host.calls = later ++ h.calls
  rest_eq : rest = (refused? c.transport.descriptor later).getD c.unaccepted
  unsent : c.unsent q = outbound c.transport.descriptor later ++ rest ++ t.queues.output
  kept : ∀ total, t.written = .ok total → rest = t.connection.unaccepted
  small : ∀ w, c.writer = some w → rest.length ≤ w.capacity
  unwritten : c.writer = none → rest = [] ∧ outbound c.transport.descriptor later = []

variable {c : Connection} {q : Queues} {h : Host}

theorem sendHalf_shown (sends : ∀ w, c.writer = some w → w.Sends c.transport.sending) :
    ∃ later rest, c.Shown q h (c.sendHalf q h) later rest := by
  unfold sendHalf
  cases present : c.writer with
  | some w =>
    obtain ⟨later, rest, shown⟩ := Writer.advance_shown ⟨w, q, c.transport, h⟩ (sends w present)
    have before : c.unaccepted = w.unaccepted c.transport.sending := by rw [unaccepted, present]
    refine ⟨later, rest, shown.calls, ?_, ?_, shown.kept, ?_, by simp [present]⟩
    · rw [before]
      exact shown.rest_eq
    · rw [Connection.unsent, before]
      exact shown.unsent
    · intro w' present'
      rw [present] at present'
      cases present'
      exact shown.small
  | none =>
    have nothing : c.unaccepted = [] := by rw [unaccepted, present]
    refine ⟨[], [], rfl, by rw [nothing]; rfl, ?_, fun _ _ => nothing.symm, by simp [present],
      fun _ => ⟨rfl, rfl⟩⟩
    rw [Connection.unsent, nothing]
    rfl

/-- The calls of every tick show what becomes of the bytes that were unsent. -/
theorem tick_shown (sound : c.Sound) : ∃ later rest, c.Shown q h (c.tick q h) later rest := by
  rw [tick_eq]
  dsimp only
  obtain ⟨queues, transport, writer, _⟩ := receiveHalf_frame (q := q) (h := h) sound
  have received := received_receiveHalf (q := q) (h := h) sound
  obtain ⟨sends, _⟩ := sends_receiveHalf (q := q) (h := h) sound
  generalize c.receiveHalf q h = first at *
  obtain ⟨reads, calls, nothing⟩ := received.reads.writesNothing
  obtain ⟨placed, refused⟩ := outbound_of_nothing nothing c.transport.descriptor
  obtain ⟨later, rest, shown⟩ := sendHalf_shown (q := first.queues) (h := first.host) sends
  have descriptor : first.connection.transport.descriptor = c.transport.descriptor := by
    rw [transport]
  have unaccepted : first.connection.unaccepted = c.unaccepted := by
    rw [Connection.unaccepted, Connection.unaccepted, writer, transport]
  have unsent : first.connection.unsent first.queues = c.unsent q := by
    rw [Connection.unsent, Connection.unsent, unaccepted, queues]
  refine ⟨later ++ reads, rest, ?_, ?_, ?_, shown.kept, ?_, fun missing => ?_⟩
  · rw [shown.calls, calls, List.append_assoc]
  · rw [shown.rest_eq, descriptor, unaccepted, refused?_append, refused, Option.or_none]
  · rw [← unsent, shown.unsent, descriptor, outbound_append, placed, List.nil_append]
  · rw [← writer]
    exact shown.small
  · obtain ⟨none_left, none_placed⟩ := shown.unwritten (by rw [writer, missing])
    rw [descriptor] at none_placed
    exact ⟨none_left, by rw [outbound_append, placed, none_placed, List.nil_append]⟩

end Connection

end LocalPipe
