import LocalPipe.Proofs.LoopWaits
import LocalPipe.Proofs.RelayFlush

namespace LocalPipe

open Host EventLoop

namespace Trio

variable {config : PipeConfig} {t t' : Trio} {h h' : Host} {waits : WaitSet} {place limit : Nat}
  {moved : Bool} {origin destination : Endpoint}

/-- A relay has nothing to do: no received byte could go on, and there is something
left to wait for. -/
structure Idle (config : PipeConfig) (t : Trio) : Prop where
  upward : t.source.queues.input = [] ∨ t.conn.isClosed = true ∨
    config.readBufferSize ≤ t.conn.bytesToSend
  downward : t.conn.queues.input = [] ∨ config.readBufferSize ≤ t.sink.bytesToSend
  unfinished : t.isFinished config = false

/-- The workers that a relay needs, as long as its endpoints are connected, and
the source's limit. -/
structure Equipped (config : PipeConfig) (t : Trio) : Prop where
  conn : ∀ c, t.conn.connection = some c → c.writer.isSome = true
  source : ∀ c, t.source.connection = some c → c.reader.isSome = true
  sink : ∀ c, t.sink.connection = some c → c.writer.isSome = true
  readCapacity : t.source.queues.readCapacity = config.readBufferSize

theorem isFinished_iff (config : PipeConfig) : t.isFinished config = true ↔ t.sink.isClosed = true ∨
    t.sink.bytesToSend = 0 ∧ (t.conn.isClosed = true ∧ t.conn.queues.input = [] ∨
      (t.source.isClosed = true ∧ t.source.queues.input = []) ∧ t.conn.bytesToSend = 0) := by
  have check : t.isFinished config = (if t.sink.isClosed then true else
      decide (t.sink.bytesToSend = 0 ∧ (t.conn.isClosed ∧ t.conn.bytesAvailable = 0 ∨
        (t.source.isClosed ∧ t.source.bytesAvailable = 0) ∧ t.conn.bytesToSend = 0))) := rfl
  rw [check]
  simp only [Endpoint.bytesAvailable, List.length_eq_zero_iff]
  split
  · rename_i closed
    simp [closed]
  · rename_i opened
    simp [opened]

/-- After a handing over nothing is left to hand over, or there is no room for it. -/
theorem handOver_idle (limit : Nat) (origin destination : Endpoint) :
    (handOver limit origin destination).1.queues.input = [] ∨ destination.isClosed = true ∨
      limit ≤ (handOver limit origin destination).2.bytesToSend := by
  cases closed : destination.isClosed with
  | true => exact Or.inr (Or.inl rfl)
  | false =>
    let room := Relay.roomAt limit (some destination)
    have room_eq : room = limit - destination.bytesToSend := by simp [room, Relay.roomAt, closed]
    have left : (handOver limit origin destination).1.queues.input =
        origin.queues.input.drop room := rfl
    have toSend : (handOver limit origin destination).2.bytesToSend =
        destination.bytesToSend + (origin.queues.input.take room).length := by
      have output : (handOver limit origin destination).2.queues.output =
        destination.queues.output ++ origin.queues.input.take room := rfl
      rw [Endpoint.bytesToSend, output, List.length_append, Nat.add_right_comm]
      rfl
    by_cases fits : origin.queues.input.length ≤ room
    · left
      rw [left, List.drop_eq_nil_iff]
      exact fits
    · right
      right
      rw [toSend, List.length_take]
      omega

/-- A relay that goes on after a forwarding has nothing to do. -/
theorem idle_forwarded (t : Trio)
    (goes_on : (t.forwarded config.readBufferSize).isFinished config = false) :
    (t.forwarded config.readBufferSize).Idle config where
  upward := handOver_idle config.readBufferSize t.source t.conn
  downward := by
    let conn := (handOver config.readBufferSize t.source t.conn).2
    rcases handOver_idle config.readBufferSize conn t.sink with drained | closed | full
    · exact Or.inl drained
    · have finished : (t.forwarded config.readBufferSize).isFinished config = true :=
        (isFinished_iff _).mpr (Or.inl closed)
      rw [goes_on] at finished
      cases finished
    · exact Or.inr full
  unfinished := goes_on

/-- A relay that goes on with nothing to do waits for something, if it takes in
anything at all. -/
theorem Idle.due_ne_nil (idle : t.Idle config) (equipped : t.Equipped config)
    (some_room : 1 ≤ config.readBufferSize) : (t.toLoop false).due ≠ [] := by
  intro nothing
  have each : t.conn.due = [] ∧ t.source.due = [] ∧ t.sink.due = [] := by
    simpa [EventLoop.due, toLoop, Relay.eventLoop, dueAt] using nothing
  obtain ⟨conn, source, sink⟩ := each
  have going : ¬ (t.sink.isClosed = true ∨
    t.sink.bytesToSend = 0 ∧ (t.conn.isClosed = true ∧ t.conn.queues.input = [] ∨
      (t.source.isClosed = true ∧ t.source.queues.input = []) ∧ t.conn.bytesToSend = 0)) := by
    rw [← isFinished_iff config, idle.unfinished]
    simp
  -- the sink is open and has sent everything, so nothing is left to send it
  have sinkOpen : t.sink.isClosed = false := by
    simpa using fun closed => going (Or.inl closed)
  have flushed := Endpoint.bytesToSend_of_due equipped.sink sinkOpen sink
  have drained : t.conn.queues.input = [] := idle.downward.resolve_right (by omega)
  -- so the connection is open and has sent everything, too
  have connOpen : t.conn.isClosed = false := by
    simpa using fun closed => going (Or.inr ⟨flushed, Or.inl ⟨closed, drained⟩⟩)
  have sent := Endpoint.bytesToSend_of_due equipped.conn connOpen conn
  have unread : t.source.queues.input = [] := by
    rcases idle.upward with empty | closed | full
    · exact empty
    · rw [connOpen] at closed
      cases closed
    · omega
  -- then the source is open, and has room
  have sourceOpen : t.source.isClosed = false := by
    simpa using fun closed => going (Or.inr ⟨flushed, Or.inr ⟨⟨closed, unread⟩, sent⟩⟩)
  have full := Endpoint.readBufferSize_of_due equipped.source sourceOpen source
  rw [Endpoint.readBufferSize, equipped.readCapacity, Endpoint.bytesAvailable, unread] at full
  simp only [List.length_nil] at full
  omega

theorem Idle.of_unmoved (idle : t.Idle config) (conn : t.conn.Unmoved t'.conn)
    (source : t.source.Unmoved t'.source) (sink : t.sink.Unmoved t'.sink) : t'.Idle config where
  upward := by
    rw [source.input, conn.isClosed, conn.bytesToSend]
    exact idle.upward
  downward := by
    rw [conn.input, sink.bytesToSend]
    exact idle.downward
  unfinished := by
    rw [← idle.unfinished, Bool.eq_iff_iff, isFinished_iff, isFinished_iff, sink.isClosed,
      sink.bytesToSend, conn.isClosed, conn.input, source.isClosed, source.input, conn.bytesToSend]

/-- A service that reports no movement leaves a relay nothing to do. -/
theorem Idle.serves (idle : t.Idle config) (sound : t.Sound)
    (serves : t.Serves waits place h false t' h') : t'.Idle config := by
  cases serves with
  | conn run =>
    exact idle.of_unmoved (Endpoint.service_unmoved sound.conn run) (.refl _) (.refl _)
  | source run =>
    exact idle.of_unmoved (.refl _) (Endpoint.service_unmoved sound.source run) (.refl _)
  | sink run =>
    exact idle.of_unmoved (.refl _) (.refl _) (Endpoint.service_unmoved sound.sink run)

theorem Equipped.serves (equipped : t.Equipped config) (sound : t.Sound)
    (serves : t.Serves waits place h moved t' h') : t'.Equipped config := by
  cases serves with
  | conn run =>
    refine { equipped with conn := fun c' present => ?_ }
    have equips := Endpoint.service_equipped sound.conn run
    obtain ⟨c, connected, _, writer⟩ := equips.workers c' present
    exact writer.trans (equipped.conn c connected)
  | source run =>
    have kept := Endpoint.service_equipped sound.source run
    refine { equipped with
      source := fun c' present => ?_
      readCapacity := kept.readCapacity.trans equipped.readCapacity }
    obtain ⟨c, connected, reader, _⟩ := kept.workers c' present
    exact reader.trans (equipped.source c connected)
  | sink run =>
    refine { equipped with sink := fun c' present => ?_ }
    have equips := Endpoint.service_equipped sound.sink run
    obtain ⟨c, connected, _, writer⟩ := equips.workers c' present
    exact writer.trans (equipped.sink c connected)

theorem Equipped.forwarded (equipped : t.Equipped config) (limit : Nat) :
    (t.forwarded limit).Equipped config :=
  ⟨equipped.conn, equipped.source, equipped.sink, equipped.readCapacity⟩

end Trio

namespace RelayReach

variable {config : PipeConfig} {first t : Trio} {h₀ h : Host} {place : Nat} {exiting : Bool}

theorem equipped (reach : RelayReach config first h₀ place exiting t h) (sound : first.Sound)
    (equipped : first.Equipped config) : t.Equipped config := by
  induction reach with
  | start => exact equipped
  | rest before serves ih => exact ih.serves (before.sound sound) serves
  | move _ before serves ih => exact (ih.serves (before.sound sound) serves).forwarded _
  | turn _ _ ih => exact ih

/-- A relay that was not told to stop has nothing to do once it was serviced. -/
theorem idle (reach : RelayReach config first h₀ place exiting t h) (sound : first.Sound)
    (idle : first.Idle config) (goes_on : exiting = false) : t.Idle config := by
  induction reach with
  | start => exact idle
  | rest before serves ih => exact (ih goes_on).serves (before.sound sound) serves
  | move _ before serves ih =>
    exact Trio.idle_forwarded _ (Bool.or_eq_false_iff.mp goes_on).2
  | turn _ _ ih => exact ih rfl

/-- Every state that the loop of a relay visits is one that the relay comes to. -/
theorem of_visits {run : Running Unit} (sound : first.Sound)
    (visits : Visits (Relay.ofConfig config).handler (first.toLoop false) () h₀ run h) :
    ∃ place exiting t waits acted lastTimeout,
      run = t.running exiting place waits acted lastTimeout ∧
        RelayReach config first h₀ place exiting t h := by
  induction visits with
  | start begun =>
    cases begun
    exact ⟨0, false, first, {}, false, h₀.now, rfl, .start⟩
  | step _ stepped ih =>
    obtain ⟨place, exiting, t, waits, acted, lastTimeout, rfl, reach⟩ := ih
    have steps := reach.stepped sound waits acted lastTimeout
    rw [stepped] at steps
    cases steps with
    | running reach' => exact ⟨_, _, _, _, _, _, rfl, reach'⟩

end RelayReach

namespace Relay

variable {config : PipeConfig} {conn source sink : Endpoint} {d : Descriptor} {h h₁ h₂ : Host}

theorem forward_returns (limit : Nat) (origin destination : PipeId) (lp : EventLoop) (h : Host) :
    ∃ lp' h', forward limit origin destination lp h = .ok lp' h' := by
  unfold forward
  cases lp.get? origin with
  | none => exact ⟨_, _, rfl⟩
  | some src =>
    cases lp.get? destination with
    | none => exact ⟨_, _, rfl⟩
    | some dst =>
      dsimp only
      by_cases nothing : (src.read (roomAt limit (some dst))).1 = []
      · rw [if_pos nothing]
        exact ⟨_, _, rfl⟩
      · rw [if_neg nothing]
        exact ⟨_, _, rfl⟩

/-- The handler of a relay never ends the program. -/
theorem not_raises (r : Relay) (condition : Fatal) (h' : Host) :
    ¬ r.handler.Raises condition h' := by
  rintro (⟨id, lp, state, h, raised⟩ | ⟨lp, state, h, raised⟩)
  · obtain ⟨lp₁, mid₁, up⟩ := forward_returns r.limit r.source r.conn lp h
    obtain ⟨lp₂, mid₂, down⟩ := forward_returns r.limit r.conn r.sink lp₁ mid₁
    unfold handler at raised
    dsimp only at raised
    rw [Action.bind_of_ok up, Action.bind_of_ok down] at raised
    cases raised
  · cases raised

theorem adopted {direction : Direction} {name : String} {ep : Endpoint} {h' : Host}
    (run : (Endpoint.ofConfig config).adopt d direction name h = .ok (.ok (), ep) h') :
    ∃ c, ep = { Endpoint.ofConfig config with name, connection := some c } ∧ c.Fresh ∧
      c.reader.isSome = decide (direction = .read) ∧
      c.writer.isSome = decide (direction = .write) := by
  obtain ⟨answer, h₁, ran, _, taken⟩ := Endpoint.adopt_run config d direction name h
  rw [run] at ran
  cases ran
  obtain ⟨⟨c, made, fresh, _, reads, writes⟩, _⟩ := taken rfl
  exact ⟨c, made, fresh, reads, writes⟩

/-- The three endpoints that a relay begins with agree with their workers. -/
theorem begins_sound (fresh : conn.FreshOn d) {input output : Descriptor}
    (madeSource : (Endpoint.ofConfig config).adopt input .read "stdin" h = .ok (.ok (), source) h₁)
    (madeSink :
      (Endpoint.ofConfig config).adopt output .write "stdout" h₁ = .ok (.ok (), sink) h₂) :
    (Trio.mk conn source sink).Sound := by
  obtain ⟨c₁, rfl, begun₁, _⟩ := adopted madeSource
  obtain ⟨c₂, rfl, begun₂, _⟩ := adopted madeSink
  refine ⟨fun c' present => (fresh.holds c' present).1, ?_, ?_⟩
  · rintro c' ⟨⟩
    exact begun₁.sound
  · rintro c' ⟨⟩
    exact begun₂.sound

/-- What a relay needs is there, and there is nothing to do yet. -/
theorem begins_idle (fresh : conn.FreshOn d)
    (writes : ∀ c, conn.connection = some c → c.writer.isSome = true) {input output : Descriptor}
    (madeSource : (Endpoint.ofConfig config).adopt input .read "stdin" h = .ok (.ok (), source) h₁)
    (madeSink :
      (Endpoint.ofConfig config).adopt output .write "stdout" h₁ = .ok (.ok (), sink) h₂) :
    (Trio.mk conn source sink).Sound ∧ (Trio.mk conn source sink).Idle config ∧
      (Trio.mk conn source sink).Equipped config := by
  have sound := begins_sound fresh madeSource madeSink
  obtain ⟨c, connected, begun, _⟩ := fresh.connected
  obtain ⟨c₁, rfl, begun₁, reads, _⟩ := adopted madeSource
  obtain ⟨c₂, rfl, begun₂, _, writes₂⟩ := adopted madeSink
  refine ⟨sound, ⟨Or.inl rfl, Or.inl fresh.input, ?_⟩, ⟨writes, ?_, ?_, rfl⟩⟩
  · rw [← Bool.not_eq_true, Trio.isFinished_iff]
    simp [Endpoint.isClosed, connected]
  · rintro c' ⟨⟩
    exact reads
  · rintro c' ⟨⟩
    exact writes₂

theorem visits_sound {first : Trio} {run : Running Unit} (sound : first.Sound)
    (visits : Visits (ofConfig config).handler (first.toLoop false) () h₁ run h) :
    ∀ ep, some ep ∈ run.eventLoop.pipes → ∀ c, ep.connection = some c → c.Sound := by
  obtain ⟨place, exiting, t, _, _, _, rfl, reach⟩ := RelayReach.of_visits sound visits
  have now := reach.sound sound
  intro ep member
  simp only [Trio.running, Trio.toLoop, eventLoop, List.mem_cons, Option.some.injEq,
    List.not_mem_nil, or_false] at member
  rcases member with rfl | rfl | rfl
  · exact now.conn
  · exact now.source
  · exact now.sink

/-- Each time a relay's loop waits, the relay has nothing to do, and waits for
something. -/
theorem visits_idle {first : Trio} {run : Running Unit} (sound : first.Sound)
    (idle : first.Idle config) (equipped : first.Equipped config)
    (some_room : 1 ≤ config.readBufferSize)
    (visits : Visits (ofConfig config).handler (first.toLoop false) () h₁ run h)
    (waits : run.AtWait h) :
    ∃ t : Trio, run.eventLoop = t.toLoop false ∧ t.Idle config ∧
      run.waits.handles = run.eventLoop.due ∧ run.waits.handles ≠ [] := by
  have gathered := visits.gathered fun _ _ before => visits_sound sound before
  have exact_handles := gathered.handles_eq waits
  obtain ⟨place, exiting, t, _, _, _, rfl, reach⟩ := RelayReach.of_visits sound visits
  obtain rfl : exiting = false := waits.going
  have idle := reach.idle sound idle rfl
  have due := idle.due_ne_nil (reach.equipped sound equipped) some_room
  refine ⟨t, rfl, idle, exact_handles, ?_⟩
  rw [exact_handles]
  exact due

/-- A relay's loop is never stranded. -/
theorem runLoop_not_stranded {fuel : Nat} {h' : Host} (sound : (Trio.mk conn source sink).Sound)
    (idle : (Trio.mk conn source sink).Idle config)
    (equipped : (Trio.mk conn source sink).Equipped config)
    (some_room : 1 ≤ config.readBufferSize) :
    runLoop config fuel conn source sink h ≠ .error .nothingToWaitFor h' := by
  intro ended
  unfold runLoop at ended
  rcases Action.bind_error ended with ended | ⟨result, mid, _, last⟩
  · obtain ⟨run, atWait, visits, stepped⟩ := Visits.of_run_error ended
    rcases Running.step_error (visits_sound sound visits) stepped with raised | ⟨waits, empty, _⟩
    · exact not_raises _ _ _ raised
    · obtain ⟨_, _, _, _, something⟩ := visits_idle sound idle equipped some_room visits waits
      exact something empty
  · rcases result with _ | ⟨_ | _, _, _⟩
    all_goals cases last

/-- A relay that takes over its descriptors comes to its loop. -/
theorem runDescriptors_eq {input output : Descriptor} (fuel : Nat)
    (madeSource : (Endpoint.ofConfig config).adopt input .read "stdin" h = .ok (.ok (), source) h₁)
    (madeSink :
      (Endpoint.ofConfig config).adopt output .write "stdout" h₁ = .ok (.ok (), sink) h₂) :
    runDescriptors config fuel conn input output h = runLoop config fuel conn source sink h₂ := by
  unfold runDescriptors
  rw [Action.bind_of_ok madeSource]
  dsimp only
  rw [Action.bind_of_ok madeSink]

/-- A relay that cannot take over its descriptors returns an error, so one that is cut
short is cut short in its loop. -/
theorem runDescriptors_error {input output : Descriptor} {fuel : Nat} {h' : Host}
    {condition : Fatal}
    (ended : runDescriptors config fuel conn input output h = .error condition h') :
    ∃ source sink h₁ h₂,
      (Endpoint.ofConfig config).adopt input .read "stdin" h = .ok (.ok (), source) h₁ ∧
      (Endpoint.ofConfig config).adopt output .write "stdout" h₁ = .ok (.ok (), sink) h₂ ∧
      runLoop config fuel conn source sink h₂ = .error condition h' := by
  obtain ⟨⟨made, source⟩, h₁, madeSource, _⟩ := Endpoint.adopt_run config input .read "stdin" h
  obtain ⟨⟨made', sink⟩, h₂, madeSink, _⟩ := Endpoint.adopt_run config output .write "stdout" h₁
  unfold runDescriptors at ended
  rw [Action.bind_of_ok madeSource] at ended
  cases made with
  | error e => cases ended
  | ok =>
    dsimp only at ended
    rw [Action.bind_of_ok madeSink] at ended
    cases made' with
    | error e => cases ended
    | ok => exact ⟨source, sink, h₁, h₂, madeSource, madeSink, ended⟩

/-- Each time a relay waits, it has nothing that it could do: nothing could be
handed over, and it is not finished. It then always waits for something. Its
connection works in both directions, as each one does that was made by connecting to
a path or by accepting a peer. -/
theorem runDescriptors_waits_idle (some_room : 1 ≤ config.readBufferSize) (fresh : conn.FreshOn d)
    (writes : ∀ c, conn.connection = some c → c.writer.isSome = true)
    (input output : Descriptor) (h : Host) :
    (∀ source sink h₁ h₂,
      (Endpoint.ofConfig config).adopt input .read "stdin" h = .ok (.ok (), source) h₁ →
      (Endpoint.ofConfig config).adopt output .write "stdout" h₁ = .ok (.ok (), sink) h₂ →
      (∀ fuel, runDescriptors config fuel conn input output h =
        runLoop config fuel conn source sink h₂) ∧
      ∀ run atWait,
        Visits (ofConfig config).handler (eventLoop conn source sink) () h₂ run atWait →
        run.AtWait atWait → ∃ t : Trio, run.eventLoop = t.toLoop false ∧ t.Idle config ∧
          run.waits.handles = run.eventLoop.due ∧ run.waits.handles ≠ []) ∧
    ∀ fuel h', runDescriptors config fuel conn input output h ≠ .error .nothingToWaitFor h' := by
  refine ⟨fun source sink h₁ h₂ madeSource madeSink =>
    ⟨fun fuel => runDescriptors_eq fuel madeSource madeSink, fun run atWait => ?_⟩,
    fun fuel h' ended => ?_⟩
  · obtain ⟨sound, idle, equipped⟩ := begins_idle fresh writes madeSource madeSink
    exact visits_idle sound idle equipped some_room
  · obtain ⟨source, sink, h₁, h₂, madeSource, madeSink, loops⟩ := runDescriptors_error ended
    obtain ⟨sound, idle, equipped⟩ := begins_idle fresh writes madeSource madeSink
    exact runLoop_not_stranded sound idle equipped some_room loops

/-- A relay's three links, where the peer has not taken the only byte that it has
room for, and three bytes were typed. -/
def crowded : Host :=
  { links := ⟨[("stdin", { capacity := 16, endA := { buffer := [104, 105, 33] } }),
      ("stdout", { capacity := 16 }),
      ("peer", { capacity := 1, endA := { nonblocking := true }, endB := { buffer := [46] } })]⟩
    descriptors := [⟨0, ⟨"peer", .a⟩⟩, ⟨1, ⟨"stdin", .a⟩⟩, ⟨2, ⟨"stdout", .a⟩⟩]
    nextDescriptor := 3 }

/-- An endpoint that has just come to be connected to the peer. -/
def crowdedConn : Endpoint :=
  ((Endpoint.ofConfig default).attach ⟨0, ⟨"peer", .a⟩⟩ true true crowded).2.1

/-- The state in which a relay over these waits first, taking in one byte at a
time. -/
def crowdedWait : Option (Running Unit × Host) :=
  match (Endpoint.ofConfig (.withReadBufferSize default 1)).adopt ⟨1, ⟨"stdin", .a⟩⟩ .read
      "stdin" crowded with
  | .ok (.ok (), source) h₁ =>
    match (Endpoint.ofConfig (.withReadBufferSize default 1)).adopt ⟨2, ⟨"stdout", .a⟩⟩ .write
        "stdout" h₁ with
    | .ok (.ok (), sink) h₂ =>
      after (ofConfig (.withReadBufferSize default 1)).handler 11
        ⟨eventLoop crowdedConn source sink, (), 0, {}, false, h₂.now⟩ h₂
    | _ => none
  | _ => none

/-- A relay with a crowded peer waits only for the peer. One byte waits to be sent,
and one was received that could not be handed over. -/
theorem runDescriptors_waits_idle_crowded : ∃ (t : Trio) (run : Running Unit) (h : Host),
    crowdedWait = some (run, h) ∧ run.AtWait h ∧ run.eventLoop = t.toLoop false ∧
      t.Idle { readBufferSize := 1 } ∧ t.source.bytesAvailable = 1 ∧ t.conn.bytesToSend = 1 ∧
      run.waits.handles =
        [⟨⟨0, ⟨"peer", .a⟩⟩, .readable⟩, ⟨⟨0, ⟨"peer", .a⟩⟩, .writable⟩] := by
  have waits_for : crowdedWait.map (fun s => (decide (s.1.AtWait s.2), s.1.waits.handles)) =
      some (true, [⟨⟨0, ⟨"peer", .a⟩⟩, .readable⟩, ⟨⟨0, ⟨"peer", .a⟩⟩, .writable⟩]) := by
    decide +kernel
  have queued : crowdedWait.map (fun s => s.1.eventLoop.pipes.map
      (Option.map fun ep => (ep.bytesAvailable, ep.bytesToSend))) =
      some [some (0, 1), some (1, 0), some (0, 0)] := by
    decide +kernel
  obtain ⟨⟨run, h⟩, comes, shown⟩ := Option.map_eq_some_iff.mp waits_for
  simp only [Prod.mk.injEq, decide_eq_true_eq] at shown
  obtain ⟨waits, handles⟩ := shown
  have fresh : crowdedConn.FreshOn ⟨0, ⟨"peer", .a⟩⟩ := Endpoint.freshOn_attach rfl
  have writes : ∀ c, crowdedConn.connection = some c → c.writer.isSome = true := by
    rintro c ⟨⟩
    rfl
  have some_room : 1 ≤ ({ readBufferSize := 1 } : PipeConfig).readBufferSize := Nat.le_refl 1
  obtain ⟨each, _⟩ := runDescriptors_waits_idle some_room fresh writes
    ⟨1, ⟨"stdin", .a⟩⟩ ⟨2, ⟨"stdout", .a⟩⟩ crowded
  have begins := comes
  unfold crowdedWait at begins
  split at begins
  · rename_i source h₁ madeSource
    split at begins
    · rename_i sink h₂ madeSink
      have visits : Visits (ofConfig { readBufferSize := 1 }).handler
          (eventLoop crowdedConn source sink) () h₂ run h := (Visits.start rfl).of_after begins
      obtain ⟨_, idles⟩ := each source sink h₁ h₂ madeSource madeSink
      obtain ⟨t, loop, idle, _⟩ := idles run h visits waits
      rw [comes, Option.map_some, loop] at queued
      simp only [Trio.toLoop, eventLoop, List.map_cons, Option.map_some, List.map_nil,
        Option.some.injEq, List.cons.injEq, Prod.mk.injEq] at queued
      exact ⟨t, run, h, comes, waits, loop, idle, queued.2.1.1, queued.1.2, handles⟩
    · cases begins
  · cases begins

end Relay

end LocalPipe
