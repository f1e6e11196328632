import LocalPipe.Proofs.Agreement
import LocalPipe.Proofs.Operations

namespace LocalPipe.Reader

/-- What an advance of the receiving worker may do. It reads on the descriptor,
and what comes in goes behind the input. It stops with the input full, with a
read that would block, or with a read that fails. -/
structure Advance (before : Lane) (moved : Nat) (result : Except IoError Nat) (after : Lane) :
    Prop where
  reads : before.host.Reads before.transport.descriptor after.host
  queues : ∃ data, after.queues = complete before.queues data ∧
    inbound before.transport.descriptor after.host.calls =
      inbound before.transport.descriptor before.host.calls ++ data ∧
    ∀ total, result = .ok total → total = moved + data.length
  transport : after.transport = { before.transport with receiving := after.transport.receiving }
  capacity : after.worker.capacity = before.worker.capacity
  agrees : ∀ total, result = .ok total → after.worker.Receives after.transport.receiving
  paused : ∀ total, result = .ok total → after.queues.room = 0 ∨ ∃ mid n, 0 < n ∧
    before.host.Reads before.transport.descriptor mid ∧
      receive before.transport.descriptor n mid = (.pending, after.host)
  failed : ∀ e, result = .error e → ∃ mid n, 0 < n ∧ n ≤ before.queues.readCapacity ∧
    before.host.Reads before.transport.descriptor mid ∧
      receive before.transport.descriptor n mid = (.failed e, after.host)

variable {lane : Lane} {moved n : Nat} {data : Bytes} {t : Transport} {h h' : Host}

/-- What a poll of an outstanding receive comes to. -/
theorem pollReceive_eq {op : Operation} {outcome : Outcome Bytes} {t' : Transport}
    (outstanding : t.receiving = some op) (answer : t.pollReceive n h = (outcome, t', h')) :
    receive t.descriptor n h = (outcome, h') ∧
      t' = { t with
        receiving := if outcome = .pending then some { op with length := n } else none } := by
  unfold Transport.pollReceive at answer
  simp only [outstanding] at answer
  split at answer
  · rename_i received
    cases answer
    exact ⟨received, rfl⟩
  · rename_i other received
    cases answer
    exact ⟨received, by rw [if_neg other]⟩

theorem startReceive_eq {outcome : Outcome Bytes} {t' : Transport}
    (answer : t.startReceive n h = (outcome, t', h')) :
    receive t.descriptor n h = (outcome, h') ∧
      t' = { t with receiving := if outcome = .pending then some { length := n } else none } :=
  pollReceive_eq (t := { t with receiving := some { length := n } }) rfl answer

theorem withdraw_read (h : Host) {op : Operation} (outstanding : t.receiving = some op) :
    t.withdraw .read h =
      ({ t with receiving := none }, h.log (.drained .read op.length op.sent)) := by
  simp [Transport.withdraw, Transport.drain, Transport.setOperation, Transport.operation,
    Transport.markCanceled, outstanding]

/-- What it comes to that a lane fills its input: it receives again and again, until
the input is full, a receive would block, or one fails. -/
inductive Issues : Lane → Nat → Except IoError Nat × Lane → Prop
  | full {lane : Lane} {moved : Nat} : lane.queues.room = 0 → Issues lane moved (.ok moved, lane)
  | next {lane moved data host answer} : lane.queues.room ≠ 0 →
      receive lane.transport.descriptor (min lane.queues.room lane.worker.capacity) lane.host =
        (.complete data, host) →
      Issues ⟨lane.worker, complete lane.queues data, { lane.transport with receiving := none },
        host⟩ (moved + data.length) answer →
      Issues lane moved answer
  | pending {lane moved host} : lane.queues.room ≠ 0 →
      receive lane.transport.descriptor (min lane.queues.room lane.worker.capacity) lane.host =
        (.pending, host) →
      Issues lane moved (.ok moved,
        ⟨lane.worker.await (min lane.queues.room lane.worker.capacity) [], lane.queues,
          { lane.transport with
            receiving := some { length := min lane.queues.room lane.worker.capacity } }, host⟩)
  | failed {lane moved e host} : lane.queues.room ≠ 0 →
      receive lane.transport.descriptor (min lane.queues.room lane.worker.capacity) lane.host =
        (.failed e, host) →
      Issues lane moved (.error e, ⟨lane.worker.fail, lane.queues,
        { lane.transport with receiving := none }, host⟩)

theorem issueAll_issues (lane : Lane) (moved : Nat) : Issues lane moved (issueAll lane moved) := by
  fun_induction issueAll lane moved with
  | case1 lane moved full => exact .full full
  | case2 lane moved room size data transport host answer ih =>
    obtain ⟨received, rfl⟩ := startReceive_eq answer
    exact .next room received ih
  | case3 lane moved room size transport host answer =>
    obtain ⟨received, rfl⟩ := startReceive_eq answer
    exact .pending room received
  | case4 lane moved room size e transport host answer =>
    obtain ⟨received, rfl⟩ := startReceive_eq answer
    exact .failed room received

/-- A receive is outstanding in a lane. -/
structure Holds (lane : Lane) (op : Operation) : Prop where
  outstanding : lane.transport.receiving = some op
  within : op.length ≤ lane.worker.capacity
  live : op.canceled = false
  unsent : op.sent = 0

/-- What an advance of a lane comes to. An outstanding receive is withdrawn if no room
is left for it, and else goes on for as much as there is room for. Only once it has
ended, more is received. -/
inductive Run (lane : Lane) : Except IoError Nat × Lane → Prop
  | idle {answer} : lane.worker.state = .idle → lane.transport.receiving = none →
      Issues lane 0 answer → Run lane answer
  | withdrawn {op answer} : Holds lane op → outstanding lane.queues op.length = 0 →
      Issues ⟨lane.worker.idle, lane.queues, { lane.transport with receiving := none },
        lane.host.log (.drained .read op.length op.sent)⟩ 0 answer →
      Run lane answer
  | pending {op host} : Holds lane op → outstanding lane.queues op.length ≠ 0 →
      receive lane.transport.descriptor (outstanding lane.queues op.length) lane.host =
        (.pending, host) →
      Run lane (.ok 0, ⟨lane.worker.await (outstanding lane.queues op.length) [], lane.queues,
        { lane.transport with
          receiving := some { op with length := outstanding lane.queues op.length } }, host⟩)
  | complete {op data host answer} : Holds lane op → outstanding lane.queues op.length ≠ 0 →
      receive lane.transport.descriptor (outstanding lane.queues op.length) lane.host =
        (.complete data, host) →
      Issues ⟨lane.worker.idle, complete lane.queues data,
        { lane.transport with receiving := none }, host⟩ data.length answer →
      Run lane answer
  | failed {op e host} : Holds lane op → outstanding lane.queues op.length ≠ 0 →
      receive lane.transport.descriptor (outstanding lane.queues op.length) lane.host =
        (.failed e, host) →
      Run lane (.error e, ⟨lane.worker.fail, lane.queues,
        { lane.transport with receiving := none }, host⟩)

theorem advance_run (lane : Lane) (receives : lane.worker.Receives lane.transport.receiving) :
    Run lane (advance lane) := by
  unfold advance
  split
  · rename_i failed
    exact absurd failed receives.agrees.state_ne_failed
  · rename_i idle
    exact .idle idle (receives.agrees.slot_of_idle idle) (issueAll_issues lane 0)
  · rename_i size pending
    obtain ⟨op, outstanding, rfl, _, within, live⟩ := receives.agrees.slot_of_pending pending
    have holds : Holds lane op := ⟨outstanding, within, live, receives.unsent op outstanding⟩
    dsimp only
    split
    · rename_i full
      rw [withdraw_read lane.host outstanding]
      exact .withdrawn holds full (issueAll_issues _ _)
    · rename_i some_room
      split
      · rename_i transport host answer
        obtain ⟨received, rfl⟩ := pollReceive_eq outstanding answer
        exact .pending holds some_room received
      · rename_i data transport host answer
        obtain ⟨received, rfl⟩ := pollReceive_eq outstanding answer
        exact .complete holds some_room received (issueAll_issues _ _)
      · rename_i e transport host answer
        obtain ⟨received, rfl⟩ := pollReceive_eq outstanding answer
        exact .failed holds some_room received

/-- An advance may begin with some reads and what they bring in. -/
theorem Advance.prepend {before next after : Lane} {result : Except IoError Nat} (data : Bytes)
    (rest : Advance next (moved + data.length) result after)
    (reads : before.host.Reads before.transport.descriptor next.host)
    (queues : next.queues = complete before.queues data)
    (grown : inbound before.transport.descriptor next.host.calls =
      inbound before.transport.descriptor before.host.calls ++ data)
    (transport : next.transport = { before.transport with receiving := next.transport.receiving })
    (capacity : next.worker.capacity = before.worker.capacity) :
    Advance before moved result after := by
  have descriptor : next.transport.descriptor = before.transport.descriptor := by rw [transport]
  obtain ⟨more, queues', later, count⟩ := rest.queues
  have further := rest.reads
  rw [descriptor] at further later
  refine ⟨reads.trans further, ⟨data ++ more, ?_, ?_, ?_⟩, ?_, rest.capacity.trans capacity,
    rest.agrees, ?_, ?_⟩
  · rw [queues', queues]
    simp [complete]
  · rw [later, grown, List.append_assoc]
  · intro total ok
    have := count total ok
    simp only [List.length_append]
    omega
  · rw [rest.transport, transport]
  · intro total ok
    rcases rest.paused total ok with full | ⟨mid, k, positive, before', pending⟩
    · exact Or.inl full
    · rw [descriptor] at before' pending
      exact Or.inr ⟨mid, k, positive, reads.trans before', pending⟩
  · intro e fails
    obtain ⟨mid, k, positive, within, before', failed⟩ := rest.failed e fails
    rw [descriptor] at before' failed
    rw [queues] at within
    exact ⟨mid, k, positive, within, reads.trans before', failed⟩

/-- A receive that would block ends an advance. -/
theorem Advance.of_pending {before : Lane} {w : Worker} (op : Operation) {h' : Host}
    (positive : 0 < op.length)
    (received : receive before.transport.descriptor op.length before.host = (.pending, h'))
    (capacity : w.capacity = before.worker.capacity)
    (receives : w.Receives (some op)) :
    Advance before moved (.ok moved) ⟨w, before.queues,
      { before.transport with receiving := some op }, h'⟩ := by
  refine ⟨.of_receive received, ⟨[], by simp [complete], inbound_of_receive received, by simp⟩,
    rfl, capacity, fun _ _ => receives, ?_, by simp⟩
  intro total _
  exact Or.inr ⟨before.host, op.length, positive, .start, received⟩

/-- A receive that fails ends an advance. -/
theorem Advance.of_failed {before : Lane} {w : Worker} {e : IoError} {h' : Host}
    (positive : 0 < n) (within : n ≤ before.queues.readCapacity)
    (received : receive before.transport.descriptor n before.host = (.failed e, h'))
    (capacity : w.capacity = before.worker.capacity) :
    Advance before moved (.error e) ⟨w, before.queues,
      { before.transport with receiving := none }, h'⟩ := by
  refine ⟨.of_receive received, ⟨[], by simp [complete], inbound_of_receive received, by simp⟩,
    rfl, capacity, by simp, by simp, ?_⟩
  intro e' same
  cases same
  exact ⟨before.host, n, positive, within, .start, received⟩

theorem min_room_pos (room : lane.queues.room ≠ 0) :
    0 < min lane.queues.room lane.worker.capacity := by
  have := lane.worker.capacity_pos
  omega

theorem Issues.advance {answer : Except IoError Nat × Lane} (issues : Issues lane moved answer)
    (idle : lane.worker.state = .idle) (free : lane.transport.receiving = none) :
    Advance lane moved answer.1 answer.2 := by
  induction issues with
  | full full =>
    refine ⟨.start, ⟨[], by simp [complete], by simp, by simp⟩, rfl, rfl, ?_, ?_, by simp⟩
    · intro total _
      exact ⟨by rw [free]; exact .idle idle, by simp [free]⟩
    · intro total _
      exact Or.inl full
  | next room received _ ih =>
    exact .prepend _ (ih idle rfl) (.of_receive received) rfl (inbound_of_receive received) rfl rfl
  | @pending lane moved host room received =>
    exact .of_pending { length := min lane.queues.room lane.worker.capacity } (min_room_pos room)
      received rfl ⟨.pending rfl (min_room_pos room) (Nat.min_le_right _ _) rfl, by simp⟩
  | @failed lane moved e host room received =>
    have within : min lane.queues.room lane.worker.capacity ≤ lane.queues.readCapacity :=
      Nat.le_trans (Nat.min_le_left _ _) (Nat.sub_le _ _)
    exact .of_failed (min_room_pos room) within received rfl

/-- Every advance of a worker that agrees with its slot is as described. -/
theorem advance_spec (lane : Lane) (receives : lane.worker.Receives lane.transport.receiving) :
    Advance lane 0 (advance lane).1 (advance lane).2 := by
  have run := advance_run lane receives
  generalize advance lane = answer at run
  cases run with
  | idle idle free issues => exact issues.advance idle free
  | withdrawn holds full issues =>
    -- the receive had brought in nothing
    exact .prepend [] (issues.advance rfl rfl) (.log _ .start) (by simp [complete]) (by simp) rfl
      rfl
  | @pending op host holds some_room received =>
    have positive := Nat.pos_of_ne_zero some_room
    have clamped : outstanding lane.queues op.length ≤ lane.worker.capacity :=
      Nat.le_trans (Nat.min_le_left _ _) holds.within
    exact .of_pending { op with length := outstanding lane.queues op.length } positive received rfl
      ⟨.pending rfl (by rw [holds.unsent]; exact positive) clamped holds.live,
        by simp [holds.unsent]⟩
  | @complete op data host answer holds some_room received issues =>
    have rest := issues.advance rfl rfl
    rw [← Nat.zero_add data.length] at rest
    exact .prepend data rest (.of_receive received) rfl (inbound_of_receive received) rfl rfl
  | @failed op e host holds some_room received =>
    have asked : outstanding lane.queues op.length ≤ lane.queues.readCapacity :=
      Nat.le_trans (Nat.min_le_right _ _) (Nat.sub_le _ _)
    exact .of_failed (Nat.pos_of_ne_zero some_room) asked received rfl

end LocalPipe.Reader
