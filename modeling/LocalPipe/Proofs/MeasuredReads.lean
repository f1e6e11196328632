import LocalPipe.Proofs.Serving

namespace LocalPipe

/-- Whether a call is a read. -/
def Call.isRead : Call → Bool
  | .read _ _ _ => true
  | _ => false

/-- What a call brought in, through whatever descriptor. -/
def Call.received : Call → Bytes
  | .read _ _ result => answered result
  | _ => []

/-- All bytes that reads have returned, on whatever descriptors. The calls are
given with the latest first, as a host keeps them. -/
def received (calls : List Call) : Bytes :=
  calls.reverse.flatMap Call.received

@[simp] theorem received_nil : received [] = [] :=
  rfl

@[simp] theorem received_cons (call : Call) (calls : List Call) :
    received (call :: calls) = received calls ++ call.received := by
  simp [received]

@[simp] theorem received_append (later earlier : List Call) :
    received (later ++ earlier) = received earlier ++ received later := by
  simp [received]

theorem Call.received_of_not_read {call : Call} (other : call.isRead = false) :
    call.received = [] := by
  cases call <;> simp_all [isRead, received]

/-- The calls of one who holds some bytes and reads from one inlet. Each read is for
at least one byte, for no more than a transfer carries, and for no more than there is
room for up to the limit beside what is held and what the reads before it brought
in. The calls are given with the latest first. -/
inductive Measured (inlet : Option Descriptor) (size limit held : Nat) : List Call → Prop
  | nil : Measured inlet size limit held []
  | read {d : Descriptor} {n : Nat} {result : Except Errno Bytes} {earlier : List Call} :
      Measured inlet size limit held earlier → inlet = some d → 0 < n → n ≤ size →
      held + (received earlier).length + n ≤ limit → (answered result).length ≤ n →
      Measured inlet size limit held (.read d n result :: earlier)
  | other {call : Call} {earlier : List Call} : Measured inlet size limit held earlier →
      call.isRead = false → Measured inlet size limit held (call :: earlier)

namespace Measured

variable {inlet : Option Descriptor} {size limit held : Nat} {later earlier calls : List Call}

theorem of_others (others : ∀ call ∈ calls, call.isRead = false) :
    Measured inlet size limit held calls ∧ received calls = [] := by
  induction calls with
  | nil => exact ⟨.nil, rfl⟩
  | cons call rest ih =>
    obtain ⟨measured, nothing⟩ := ih fun call' member => others call' (List.mem_cons_of_mem _ member)
    have other := others call List.mem_cons_self
    exact ⟨.other measured other, by
      rw [received_cons, nothing, Call.received_of_not_read other, List.append_nil]⟩

/-- What earlier reads brought in is held by the time of the later ones. -/
theorem append (first : Measured inlet size limit held earlier)
    (second : Measured inlet size limit (held + (received earlier).length) later) :
    Measured inlet size limit held (later ++ earlier) := by
  induction second with
  | nil => exact first
  | @read d n result calls _ source positive small roomy brought ih =>
    have room_then : held + (received (calls ++ earlier)).length + n ≤ limit := by
      rw [received_append, List.length_append]
      omega
    exact .read ih source positive small room_then brought
  | other _ other ih => exact .other ih other

/-- Whatever came before a call was measured as well. -/
theorem of_append {after : List Call} (measured : Measured inlet size limit held (after ++ calls)) :
    Measured inlet size limit held calls := by
  induction after with
  | nil => exact measured
  | cons call rest ih =>
    cases measured with
    | read before => exact ih before
    | other before => exact ih before

/-- All reads are on the inlet. -/
theorem reads {d : Descriptor} {n : Nat} {result : Except Errno Bytes}
    (measured : Measured inlet size limit held calls) (member : .read d n result ∈ calls) :
    inlet = some d := by
  induction measured with
  | nil => cases member
  | read _ source _ _ _ _ ih =>
    rcases List.mem_cons.mp member with same | before
    · cases same
      exact source
    · exact ih before
  | other _ other ih =>
    rcases List.mem_cons.mp member with same | before
    · rw [← same] at other
      cases other
    · exact ih before

/-- Measured reads bring in no more than up to the limit. -/
theorem length_le (measured : Measured inlet size limit held calls) :
    held + (received calls).length ≤ max held limit := by
  induction measured with
  | nil => exact Nat.le_max_left _ _
  | @read d n result earlier _ _ _ _ roomy brought ih =>
    rw [received_cons, List.length_append, Call.received]
    omega
  | other _ other ih =>
    rw [received_cons, Call.received_of_not_read other, List.append_nil]
    exact ih

end Measured

/-- A read returns no more than it asks for. -/
theorem Link.length_read (l : Link) (s : Side) (n : Nat) :
    (answered (l.read s n).1).length ≤ n := by
  have within (l : Link) (k : Nat) : (answered (l.receive s k).1).length ≤ k := by
    unfold receive
    dsimp only
    split
    · exact Nat.zero_le _
    split
    · split <;> exact Nat.zero_le _
    · exact List.length_take_le k _
  unfold read
  split
  · exact within _ n
  · exact Nat.zero_le _
  · exact Nat.zero_le _
  · exact Nat.le_trans (within _ _) (Nat.min_le_left _ _)

theorem Host.length_read (h : Host) (d : Descriptor) (n : Nat) :
    (answered (h.read d n).1).length ≤ n := by
  unfold read
  split
  · exact Link.length_read _ _ n
  · exact Nat.zero_le _

variable {d : Descriptor} {size limit held n : Nat} {h h' : Host}

theorem measured_of_read {result : Except Errno Bytes} (positive : 0 < n) (small : n ≤ size)
    (roomy : held + n ≤ limit) (answer : h.read d n = (result, h')) :
    Measured (some d) size limit held [.read d n result] ∧
      h'.calls = [.read d n result] ++ h.calls := by
  have brought := h.length_read d n
  have calls := h.calls_read d n
  rw [answer] at brought calls
  exact ⟨.read .nil rfl positive small (by simpa using roomy) brought, calls⟩

/-- A receive tries one and the same read until it is not interrupted. -/
theorem measured_receive (d : Descriptor) (h : Host) (positive : 0 < n) (small : n ≤ size)
    (roomy : held + n ≤ limit) :
    ∃ later, (receive d n h).2.calls = later ++ h.calls ∧
      Measured (some d) size limit held later ∧ received later = (receive d n h).1.bytes := by
  fun_induction receive d n h with
  | case1 h h' answer =>
    obtain ⟨measured, calls⟩ := measured_of_read positive small roomy answer
    exact ⟨_, calls, measured, rfl⟩
  | case2 h data h' _ answer =>
    obtain ⟨measured, calls⟩ := measured_of_read positive small roomy answer
    exact ⟨_, calls, measured, by simp [Call.received]⟩
  | case3 h h' answer =>
    obtain ⟨measured, calls⟩ := measured_of_read positive small roomy answer
    exact ⟨_, calls, measured, rfl⟩
  | case4 h h' answer ih =>
    obtain ⟨measured, calls⟩ := measured_of_read positive small roomy answer
    obtain ⟨later, calls', measured', brought⟩ := ih
    refine ⟨later ++ [.read d n (.error .eintr)], ?_, measured.append measured', ?_⟩
    · rw [calls', calls, List.append_assoc]
    · rw [received_append, brought]
      rfl
  | case5 h e h' _ _ answer =>
    obtain ⟨measured, calls⟩ := measured_of_read positive small roomy answer
    exact ⟨_, calls, measured, rfl⟩

/-- A lane comes to another by some calls, measured by what the lane holds, and what
they bring in goes behind its input. -/
structure Lane.Fills (before after : Lane) (later : List Call) : Prop where
  calls : after.host.calls = later ++ before.host.calls
  measured : Measured (some before.transport.descriptor) before.worker.capacity
    before.queues.readCapacity before.queues.input.length later
  queues : after.queues = Reader.complete before.queues (received later)

namespace Lane.Fills

variable {before mid after : Lane} {early late : List Call}

theorem trans (first : before.Fills mid early) (second : mid.Fills after late)
    (descriptor : mid.transport.descriptor = before.transport.descriptor)
    (capacity : mid.worker.capacity = before.worker.capacity) :
    before.Fills after (late ++ early) := by
  have held : mid.queues.input.length =
      before.queues.input.length + (received early).length := by
    rw [first.queues, Reader.complete, List.length_append]
  have limit : mid.queues.readCapacity = before.queues.readCapacity := by
    rw [first.queues, Reader.complete]
  refine ⟨by rw [second.calls, first.calls, List.append_assoc], ?_, ?_⟩
  · have later := second.measured
    rw [descriptor, capacity, held, limit] at later
    exact first.measured.append later
  · rw [second.queues, first.queues, received_append]
    simp [Reader.complete]

/-- One receive for what there is room for. -/
theorem of_receive {lane after : Lane} {outcome : Outcome Bytes} {h' : Host} (positive : n ≠ 0)
    (small : n ≤ lane.worker.capacity) (roomy : n ≤ lane.queues.room)
    (received : receive lane.transport.descriptor n lane.host = (outcome, h'))
    (host : after.host = h')
    (queues : after.queues = Reader.complete lane.queues outcome.bytes) :
    ∃ later, lane.Fills after later := by
  have fits : lane.queues.input.length + n ≤ lane.queues.readCapacity := by
    rw [Queues.room] at roomy
    omega
  obtain ⟨later, calls, measured, brought⟩ := measured_receive lane.transport.descriptor lane.host
    (Nat.pos_of_ne_zero positive) small fits
  rw [received] at calls brought
  exact ⟨later, by rw [host, calls], measured, by rw [queues, brought]⟩

end Lane.Fills

namespace Reader

variable {lane : Lane} {moved : Nat} {answer : Except IoError Nat × Lane}

theorem complete_nil (q : Queues) : complete q [] = q := by
  simp [complete]

theorem Issues.fills (issues : Issues lane moved answer) : ∃ later, lane.Fills answer.2 later := by
  have room {lane : Lane} (room : lane.queues.room ≠ 0) :
      min lane.queues.room lane.worker.capacity ≠ 0 := Nat.ne_of_gt (min_room_pos room)
  induction issues with
  | full => exact ⟨[], rfl, .nil, (complete_nil _).symm⟩
  | @next lane moved data host answer some_room received _ ih =>
    let next : Lane := ⟨lane.worker, complete lane.queues data,
      { lane.transport with receiving := none }, host⟩
    have begins : ∃ early, lane.Fills next early :=
      Lane.Fills.of_receive (room some_room) (Nat.min_le_right _ _) (Nat.min_le_left _ _) received
        rfl rfl
    obtain ⟨early, first⟩ := begins
    obtain ⟨late, second⟩ := ih
    exact ⟨_, first.trans second rfl rfl⟩
  | pending some_room received =>
    exact Lane.Fills.of_receive (room some_room) (Nat.min_le_right _ _) (Nat.min_le_left _ _) received rfl
      (complete_nil _).symm
  | failed some_room received =>
    exact Lane.Fills.of_receive (room some_room) (Nat.min_le_right _ _) (Nat.min_le_left _ _) received rfl
      (complete_nil _).symm

/-- However the limit has changed since a receive began, an advance asks for no more
than it allows now. -/
theorem advance_fills (lane : Lane) (receives : lane.worker.Receives lane.transport.receiving) :
    ∃ later, lane.Fills (advance lane).2 later := by
  have within {op : Operation} (holds : Holds lane op) :
      outstanding lane.queues op.length ≤ lane.worker.capacity :=
    Nat.le_trans (Nat.min_le_left _ _) holds.within
  have run := advance_run lane receives
  generalize advance lane = answer at run
  cases run with
  | idle _ _ issues => exact issues.fills
  | withdrawn _ _ issues =>
    obtain ⟨later, fills⟩ := issues.fills
    exact ⟨later, fills.calls, fills.measured, fills.queues⟩
  | pending holds some_room received =>
    exact Lane.Fills.of_receive some_room (within holds) (Nat.min_le_right _ _) received rfl
      (complete_nil _).symm
  | @complete op data host answer holds some_room received issues =>
    let next : Lane := ⟨lane.worker.idle, complete lane.queues data,
      { lane.transport with receiving := none }, host⟩
    have begins : ∃ early, lane.Fills next early :=
      Lane.Fills.of_receive some_room (within holds) (Nat.min_le_right _ _) received rfl rfl
    obtain ⟨early, first⟩ := begins
    obtain ⟨late, second⟩ := issues.fills
    exact ⟨_, first.trans second rfl rfl⟩
  | failed holds some_room received =>
    exact Lane.Fills.of_receive some_room (within holds) (Nat.min_le_right _ _) received rfl
      (complete_nil _).symm

end Reader

namespace Host

/-- Nothing was read in between. -/
def ReadsNothing (h h' : Host) : Prop :=
  ∃ later, h'.calls = later ++ h.calls ∧ ∀ call ∈ later, call.isRead = false

variable {h h' h'' : Host}

theorem ReadsNothing.of_calls (same : h'.calls = h.calls) : h.ReadsNothing h' :=
  Makes.of_calls same

theorem ReadsNothing.of_record (call : Call) (other : call.isRead = false)
    (calls : h'.calls = call :: h.calls) : h.ReadsNothing h' :=
  Makes.of_record call other calls

theorem ReadsNothing.trans (first : h.ReadsNothing h') (second : h'.ReadsNothing h'') :
    h.ReadsNothing h'' :=
  Makes.trans first second

theorem Quiet.readsNothing (quiet : h.Quiet h') : h.ReadsNothing h' := by
  refine Makes.mono quiet fun call still => ?_
  cases call <;> simp_all [Call.isTransfer, Call.isRead]

theorem readsNothing_write (h : Host) (d : Descriptor) (data : Bytes) :
    h.ReadsNothing (h.write d data).2 :=
  .of_record (.write d data (h.write d data).1) rfl (h.calls_write d data)

theorem Writes.readsNothing {d : Descriptor} (writes : h.Writes d h') : h.ReadsNothing h' := by
  induction writes with
  | start => exact .of_calls rfl
  | @write mid data _ ih => exact ih.trans (mid.readsNothing_write d data)
  | log event _ ih => exact ih

end Host

open Host

/-- The descriptor that a connection receives on, if it receives at all. -/
def Connection.inlet? (c : Connection) : Option Descriptor :=
  c.reader.map fun _ => c.transport.descriptor

/-- The calls of a tick are measured by what the queues hold before it, and what they
bring in goes behind the input. -/
theorem Connection.tick_fills {c : Connection} {q : Queues} {h : Host} (sound : c.Sound)
    (buffers : ∀ w, c.reader = some w → w.capacity = size) :
    ∃ later, (c.tick q h).host.calls = later ++ h.calls ∧
      Measured c.inlet? size q.readCapacity q.input.length later ∧
      (c.tick q h).queues.input = q.input ++ received later := by
  have first : ∃ later, (c.receiveHalf q h).host.calls = later ++ h.calls ∧
      Measured c.inlet? size q.readCapacity q.input.length later ∧
      (c.receiveHalf q h).queues.input = q.input ++ received later := by
    unfold receiveHalf
    split
    · rename_i w present
      obtain ⟨later, fills⟩ :=
        Reader.advance_fills ⟨w, q, c.transport, h⟩ (sound.reader w present)
      have measured := fills.measured
      rw [buffers w present] at measured
      have inlet : c.inlet? = some c.transport.descriptor := by rw [inlet?, present]; rfl
      exact ⟨later, fills.calls, by rw [inlet]; exact measured, congrArg Queues.input fills.queues⟩
    · exact ⟨[], rfl, .nil, by simp⟩
  obtain ⟨sends, _⟩ := sends_receiveHalf (q := q) (h := h) sound
  rw [tick_eq]
  dsimp only
  generalize c.receiveHalf q h = half at *
  obtain ⟨early, calls, measured, input⟩ := first
  have sent := sent_sendHalf (q := half.queues) (h := half.host) sends
  obtain ⟨queues, _⟩ := sendHalf_frame (q := half.queues) (h := half.host) sends
  obtain ⟨late, calls', others⟩ := sent.writes.readsNothing
  obtain ⟨unread, nothing⟩ := Measured.of_others others
  refine ⟨late ++ early, by rw [calls', calls, List.append_assoc], measured.append unread, ?_⟩
  rw [queues, input, received_append, nothing, List.append_nil]

/-- The descriptor that an endpoint receives on, if it is connected and receives at
all. -/
def Endpoint.inlet? (ep : Endpoint) : Option Descriptor :=
  ep.connection.bind (·.inlet?)

/-- The calls of a service are measured by what the endpoint holds before it. What
they bring in goes behind the input, even if the service ends with a failure. -/
theorem Endpoint.service_fills {ep ep' : Endpoint} {waits waits' : WaitSet} {moved : Bool}
    (sound : ∀ c, ep.connection = some c → c.Sound)
    (buffers : ∀ c w, ep.connection = some c → c.reader = some w → w.capacity = size)
    (run : ep.service waits h = .ok (moved, waits', ep') h') :
    ∃ later, h'.calls = later ++ h.calls ∧
      Measured ep.inlet? size ep.queues.readCapacity ep.queues.input.length later ∧
      ep'.queues.input = ep.queues.input ++ received later ∧
      ep'.queues.readCapacity = ep.queues.readCapacity := by
  cases connected : ep.connection with
  | none =>
    rw [service_closed waits connected] at run
    cases run
    exact ⟨[], rfl, .nil, by simp, rfl⟩
  | some c =>
    have ticked := c.ticked (q := ep.queues) (h := h) (sound c connected)
    have served := served_of_run connected (sound c connected) run
    obtain ⟨later, calls, measured, input⟩ :=
      c.tick_fills (q := ep.queues) (h := h) (sound c connected) fun w => buffers c w connected
    have inlet : ep.inlet? = c.inlet? := by rw [Endpoint.inlet?, connected]; rfl
    rw [inlet]
    cases served with
    | kept => exact ⟨later, calls, measured, input, ticked.readCapacity⟩
    | failed errors _ =>
      obtain ⟨released, calls', others⟩ :=
        ((ep.ticked (c.tick ep.queues h)).releases_giveUp errors _).quiet.readsNothing
      obtain ⟨unread, nothing⟩ := Measured.of_others others
      refine ⟨released ++ later, by rw [calls', calls, List.append_assoc],
        measured.append unread, ?_, ?_⟩
      · rw [giveUp_fst, received_append, nothing, List.append_nil]
        exact input
      · rw [giveUp_fst]
        exact ticked.readCapacity

end LocalPipe
