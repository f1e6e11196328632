import LocalPipe.Proofs.RelayWaits
import LocalPipe.Proofs.Uses

namespace LocalPipe

open Host EventLoop

theorem Reader.advance_full {lane : Lane} (idle : lane.worker.state = .idle)
    (full : lane.queues.room = 0) : advance lane = (.ok 0, lane) := by
  unfold advance
  rw [idle]
  dsimp only
  unfold issueAll
  rw [if_pos full]

theorem Writer.advance_empty {lane : Lane} (idle : lane.worker.state = .idle)
    (empty : lane.queues.output = []) : advance lane = (.ok 0, lane) := by
  have nothing : issue? lane.queues lane.worker.capacity = none := by
    rw [issue?, if_pos empty]
  unfold advance
  rw [idle]
  dsimp only
  unfold issueAll
  split
  · rfl
  · rename_i some_chunk
    rw [nothing] at some_chunk
    cases some_chunk

/-- A fresh connection that has no room to receive into and nothing to send does
nothing in a tick. -/
theorem Connection.Fresh.tick_stalled {c : Connection} {q : Queues} (fresh : c.Fresh)
    (full : q.room = 0) (empty : q.output = []) (h : Host) :
    c.tick q h = ⟨.ok 0, .ok 0, c, q, h⟩ := by
  have first : c.receiveHalf q h = ⟨.ok 0, .ok 0, c, q, h⟩ := by
    unfold receiveHalf
    split
    · rename_i w present
      rw [Reader.advance_full (fresh.reader w present).1 full]
      dsimp only
      rw [← present]
    · rfl
  rw [tick_eq, first]
  dsimp only
  unfold sendHalf
  split
  · rename_i w present
    rw [Writer.advance_empty (fresh.writer w present).1 empty]
    dsimp only
    rw [← present]
  · rfl

/-- An endpoint that is connected, but takes in nothing and has nothing to send. -/
structure Endpoint.Stalled (ep : Endpoint) : Prop where
  connected : ∃ c, ep.connection = some c ∧ c.Fresh
  full : ep.queues.room = 0
  empty : ep.queues.output = []

theorem Endpoint.Stalled.service_eq {ep : Endpoint} (stalled : ep.Stalled) (waits : WaitSet)
    (h : Host) : ep.service waits h = .ok (false, waits, ep) h := by
  obtain ⟨c, connected, fresh⟩ := stalled.connected
  have none_waits : c.waitHandles = [] := by
    have still {w : Worker} {d : Direction} {t : Transport} (idle : w.state = .idle) :
        w.waitHandle? d t = none := by simp [Worker.waitHandle?, Worker.isPending, idle]
    rw [Connection.waitHandles]
    cases reads : c.reader with
    | none =>
      cases writes : c.writer with
      | none => rfl
      | some w => simp [still (fresh.writer w writes).1]
    | some w =>
      cases writes : c.writer with
      | none => simp [still (fresh.reader w reads).1]
      | some w' => simp [still (fresh.reader w reads).1, still (fresh.writer w' writes).1]
  have same : ep.ticked (c.tick ep.queues h) = ep := by
    rw [fresh.tick_stalled stalled.full stalled.empty h, Endpoint.ticked, ← connected]
  rw [service_settle waits connected, settle, same]
  rw [fresh.tick_stalled stalled.full stalled.empty h]
  dsimp only
  rw [none_waits, WaitSet.extend, List.append_nil]
  rfl

/-- Three endpoints that take in nothing and have nothing to send. -/
structure Trio.Stalled (t : Trio) : Prop where
  conn : t.conn.Stalled
  source : t.source.Stalled
  sink : t.sink.Stalled

namespace Relay

variable {config : PipeConfig} {t : Trio} {conn source sink : Endpoint} {fuel : Nat} {h : Host}
  {lastTimeout : Nat}

theorem step_stalled (stalled : t.Stalled) {place : Nat} (here : place < 3) :
    (t.running false place {} false lastTimeout).step (ofConfig config).handler h =
      .ok (.running (t.running false (place + 1) {} false lastTimeout)) h := by
  have passes {ep : Endpoint} (still : ep.Stalled)
      (present : (t.toLoop false).pipes[place]? = some (some ep))
      (same : (t.toLoop false).set ⟨place⟩ ep = t.toLoop false) :
      (t.running false place {} false lastTimeout).step (ofConfig config).handler h =
        .ok (.running (t.running false (place + 1) {} false lastTimeout)) h := by
    have served : (t.running false place {} false lastTimeout).servicePlace
        (ofConfig config).handler ep h =
          .ok (t.running false (place + 1) {} false lastTimeout) h := by
      unfold Running.servicePlace
      rw [Action.bind_of_ok (still.service_eq _ h)]
      dsimp only [Trio.running]
      rw [same]
      rfl
    unfold Running.step
    dsimp only [Trio.running]
    rw [present]
    exact Action.bind_of_ok served
  match place with
  | 0 => exact passes stalled.conn rfl rfl
  | 1 => exact passes stalled.source rfl rfl
  | 2 => exact passes stalled.sink rfl rfl

/-- A stalled relay comes past its three endpoints and then finds nothing to wait
for, which ends the program. -/
theorem runLoop_stalled (stalled : (Trio.mk conn source sink).Stalled) :
    runLoop config fuel conn source sink h = if fuel < 4 then .ok none h else
      .error .nothingToWaitFor (h.log (.fatal .nothingToWaitFor)) := by
  let t : Trio := ⟨conn, source, sink⟩
  let at_place (place : Nat) : Running Unit := t.running false place {} false h.now
  have goes_on {place : Nat} (n : Nat) (here : place < 3) :
      iterate (ofConfig config).handler (n + 1) (.running (at_place place)) h =
        iterate (ofConfig config).handler n (.running (at_place (place + 1))) h :=
    Action.bind_of_ok (step_stalled stalled here)
  have waits : (at_place 3).AtWait h := ⟨rfl, rfl, rfl, rfl⟩
  have ends : (at_place 3).step (ofConfig config).handler h =
      .error .nothingToWaitFor (h.log (.fatal .nothingToWaitFor)) := by
    rw [waits.step_eq]
    exact Running.wait_nothing rfl rfl
  have runs : (eventLoop conn source sink).run (ofConfig config).handler fuel () h =
      iterate (ofConfig config).handler fuel (.running (at_place 0)) h := rfl
  have outcome : (eventLoop conn source sink).run (ofConfig config).handler fuel () h =
      if fuel < 4 then .ok none h else
        .error .nothingToWaitFor (h.log (.fatal .nothingToWaitFor)) := by
    rw [runs]
    match fuel with
    | 0 => rfl
    | 1 => rw [goes_on 0 (by decide)]; rfl
    | 2 => rw [goes_on 1 (by decide), goes_on 0 (by decide)]; rfl
    | 3 => rw [goes_on 2 (by decide), goes_on 1 (by decide), goes_on 0 (by decide)]; rfl
    | n + 4 =>
      rw [goes_on (n + 3) (by decide), goes_on (n + 2) (by decide), goes_on (n + 1) (by decide),
        if_neg (by omega)]
      unfold iterate
      simp only [bind, EStateM.bind, ends]
  unfold runLoop
  simp only [bind, EStateM.bind, outcome]
  by_cases short : fuel < 4
  · rw [if_pos short, if_pos short]
    rfl
  · rw [if_neg short, if_neg short]

end Relay

namespace Endpoint

variable {ep ep' : Endpoint} {h h' : Host}

/-- An endpoint that has connected works in both directions. -/
theorem duplex_of_connect {path : Bytes} (run : ep.connect path h = .ok (.ok (), ep') h') :
    ∃ c, ep'.connection = some c ∧ c.writer.isSome = true := by
  obtain ⟨_, connecting⟩ := connecting_of_ok run
  generalize succeeds : (.ok () : Except SetupError Unit) = result at connecting
  cases connecting with
  | refused => cases succeeds
  | @opened _ _ answer _ _ _ attached =>
    cases answer with
    | error e => cases succeeds
    | ok =>
      obtain ⟨⟨c, made, _, _, _, writes⟩, _⟩ := attach_fresh attached
      exact ⟨c, by rw [made], writes⟩

/-- An endpoint that has accepted a peer works in both directions. -/
theorem duplex_of_accept (run : ep.accept h = .ok ep' h') :
    ∃ c, ep'.connection = some c ∧ c.writer.isSome = true := by
  obtain ⟨_, _, _, _, _, _, attached⟩ := attach_of_accept run
  obtain ⟨⟨c, made, _, _, _, writes⟩, _⟩ := attach_fresh attached
  exact ⟨c, by rw [made], writes⟩

end Endpoint

namespace Relay

/-- The endpoint with which a command line enters the relay: it has connected to the
path, or it was bound to the path and has accepted a peer there. -/
inductive Entered (arguments : List String) : PipeConfig → Endpoint → Prop
  | connect {i conn h h'} : CommandLine.parse arguments = .ok i → i.command = .connect →
      (Endpoint.ofConfig i.config).connect i.path.toUTF8.toList h = .ok (.ok (), conn) h' →
      Entered arguments i.config conn
  | listen {i ep conn h mid later h'} : CommandLine.parse arguments = .ok i →
      i.command = .listen →
      (Endpoint.ofConfig i.config).bind i.path.toUTF8.toList h = .ok (.ok (), ep) mid →
      ep.accept later = .ok conn h' → Entered arguments i.config conn

/-- Both descriptors of a relay are taken over. -/
def TakesOver (config : PipeConfig) (input output : Descriptor) (h : Host) : Prop :=
  ∃ source sink h₁ h₂,
    (Endpoint.ofConfig config).adopt input .read "stdin" h = .ok (.ok (), source) h₁ ∧
    (Endpoint.ofConfig config).adopt output .write "stdout" h₁ = .ok (.ok (), sink) h₂

variable {arguments : List String} {config : PipeConfig} {conn source sink : Endpoint}
  {input output : Descriptor} {fuel : Nat} {h h' h₁ h₂ : Host} {condition : Fatal}

/-- What a relay is entered with: a connection on which nothing was moved yet, and that
works in both directions. -/
structure Ready (config : PipeConfig) (conn : Endpoint) : Prop where
  fresh : ∃ d, conn.FreshOn d
  writes : ∀ c, conn.connection = some c → c.writer.isSome = true
  readCapacity : conn.queues.readCapacity = config.readBufferSize

theorem Ready.of_setUp (setUp : (Endpoint.ofConfig config).SetUp conn)
    (duplex : ∃ c, conn.connection = some c ∧ c.writer.isSome = true) : Ready config conn := by
  obtain ⟨c, connected, writes⟩ := duplex
  refine ⟨⟨_, ⟨c, connected, (setUp.fresh c connected).1, rfl⟩, ?_, ?_⟩, fun c' present => ?_, ?_⟩
  · rw [setUp.queues]
    rfl
  · rw [setUp.queues]
    rfl
  · rw [connected] at present
    cases present
    exact writes
  · rw [setUp.queues]
    rfl

theorem Entered.ready (entered : Entered arguments config conn) : Ready config conn := by
  cases entered with
  | connect _ _ connects =>
    exact .of_setUp (Endpoint.setUp_connect connects) (Endpoint.duplex_of_connect connects)
  | listen _ _ binds accepts =>
    exact .of_setUp ((Endpoint.setUp_bind binds).trans (Endpoint.setUp_accept accepts))
      (Endpoint.duplex_of_accept accepts)

/-- A relay that takes in nothing begins stalled. -/
theorem Ready.stalled (ready : Ready config conn) (no_room : config.readBufferSize = 0)
    (madeSource : (Endpoint.ofConfig config).adopt input .read "stdin" h = .ok (.ok (), source) h₁)
    (madeSink :
      (Endpoint.ofConfig config).adopt output .write "stdout" h₁ = .ok (.ok (), sink) h₂) :
    (Trio.mk conn source sink).Stalled := by
  obtain ⟨d, fresh⟩ := ready.fresh
  obtain ⟨c, connected, begun, _⟩ := fresh.connected
  obtain ⟨c₁, rfl, begun₁, _⟩ := adopted madeSource
  obtain ⟨c₂, rfl, begun₂, _⟩ := adopted madeSink
  have full : config.readBufferSize - 0 = 0 := no_room
  refine ⟨⟨⟨c, connected, begun⟩, ?_, fresh.output⟩, ⟨⟨c₁, rfl, begun₁⟩, full, rfl⟩,
    ⟨⟨c₂, rfl, begun₂⟩, full, rfl⟩⟩
  rw [Queues.room, ready.readCapacity, no_room, Nat.zero_sub]

/-- The loop of a relay is cut short for no other reason than that it has nothing to
wait for. -/
theorem runLoop_error (sound : (Trio.mk conn source sink).Sound)
    (ended : runLoop config fuel conn source sink h = .error condition h') :
    condition = .nothingToWaitFor := by
  unfold runLoop at ended
  rcases Action.bind_error ended with ended | ⟨result, mid, _, last⟩
  · obtain ⟨run, atWait, visits, stepped⟩ := Visits.of_run_error ended
    rcases Running.step_error (visits_sound sound visits) stepped with
      raised | ⟨waits, empty, ever⟩
    · exact absurd raised (not_raises _ _ _)
    · rw [waits.step_eq, Running.wait_nothing empty ever] at stepped
      cases stepped
      rfl
  · rcases result with _ | ⟨_ | _, _, _⟩
    all_goals cases last

/-- A relay that takes in nothing ends the program in its first tick. -/
theorem Ready.runDescriptors_stalled (ready : Ready config conn)
    (no_room : config.readBufferSize = 0) (takes : TakesOver config input output h)
    (enough : 4 ≤ fuel) :
    ∃ h', runDescriptors config fuel conn input output h = .error .nothingToWaitFor h' := by
  obtain ⟨source, sink, h₁, h₂, madeSource, madeSink⟩ := takes
  have stalled := ready.stalled no_room madeSource madeSink
  have ended : runLoop config fuel conn source sink h₂ =
      .error .nothingToWaitFor (h₂.log (.fatal .nothingToWaitFor)) := by
    rw [runLoop_stalled stalled, if_neg (by omega)]
  refine ⟨h₂.log (.fatal .nothingToWaitFor), ?_⟩
  rw [runDescriptors_eq fuel madeSource madeSink]
  exact ended

/-- Once a relay was entered with its connected endpoint, it is cut short only if it
was told to read nothing ahead: it then finds nothing to wait for in its first tick,
and always does. With any other limit it goes on, or returns, whatever its peer, its
input and its output do. -/
theorem runDescriptors_aborts_iff (entered : Entered arguments config conn) (fuel : Nat)
    (input output : Descriptor) (h : Host) (condition : Fatal) :
    (∃ h', runDescriptors config fuel conn input output h = .error condition h') ↔
      condition = .nothingToWaitFor ∧ config.readBufferSize = 0 ∧ 4 ≤ fuel ∧
        TakesOver config input output h := by
  have ready := entered.ready
  constructor
  · rintro ⟨h', ended⟩
    obtain ⟨source, sink, h₁, h₂, madeSource, madeSink, loops⟩ := runDescriptors_error ended
    obtain ⟨d, fresh⟩ := ready.fresh
    obtain ⟨sound, idle, equipped⟩ := begins_idle fresh ready.writes madeSource madeSink
    obtain rfl := runLoop_error sound loops
    have no_room : config.readBufferSize = 0 := Nat.eq_zero_of_not_pos fun some_room =>
      runLoop_not_stranded sound idle equipped some_room loops
    have enough : 4 ≤ fuel := Nat.le_of_not_lt fun short => by
      rw [runLoop_stalled (ready.stalled no_room madeSource madeSink), if_pos short] at loops
      cases loops
    exact ⟨rfl, no_room, enough, source, sink, h₁, h₂, madeSource, madeSink⟩
  · rintro ⟨rfl, no_room, enough, takes⟩
    exact ready.runDescriptors_stalled no_room takes enough

/-- A host with the standard streams and with a listener at a path. -/
def awaited : Host :=
  { links := ⟨[("stdin", { capacity := 16, endA := { buffer := [104, 105] } }),
      ("stdout", { capacity := 16 })]⟩
    descriptors := [⟨0, ⟨"stdin", .a⟩⟩, ⟨1, ⟨"stdout", .a⟩⟩]
    nextDescriptor := 2
    listeners := ⟨[(0, [])]⟩
    nextListener := 1
    files := ⟨⟨[([[], [115]], .socket 0)]⟩⟩
    linkPlan := ⟨"peer", 16⟩ }

/-- A command line that asks for nothing to be read ahead. -/
def readsNothingAhead : List String :=
  ["connect", "s", "--read-buffer-size", "0"]

/-- The endpoint that it connects and those that take over the standard streams, with
the host after each. -/
def readsNothingTrio : Option (Trio × Host × Host × Host) :=
  let config := PipeConfig.withReadBufferSize default 0
  match (Endpoint.ofConfig config).connect [115] awaited with
  | .ok (.ok (), conn) h =>
    match (Endpoint.ofConfig config).adopt ⟨0, ⟨"stdin", .a⟩⟩ .read "stdin" h with
    | .ok (.ok (), source) h₁ =>
      match (Endpoint.ofConfig config).adopt ⟨1, ⟨"stdout", .a⟩⟩ .write "stdout" h₁ with
      | .ok (.ok (), sink) h₂ => some (⟨conn, source, sink⟩, h, h₁, h₂)
      | _ => none
    | _ => none
  | _ => none

theorem entered_readsNothingAhead : ∃ conn h,
    Entered readsNothingAhead (PipeConfig.withReadBufferSize default 0) conn ∧
      TakesOver (PipeConfig.withReadBufferSize default 0) ⟨0, ⟨"stdin", .a⟩⟩
        ⟨1, ⟨"stdout", .a⟩⟩ h := by
  have parsed : CommandLine.parse readsNothingAhead =
      .ok ⟨.connect, "s", PipeConfig.withReadBufferSize default 0, "warn"⟩ := rfl
  have path : "s".toUTF8.toList = [115] := by decide +kernel
  obtain ⟨⟨⟨conn, source, sink⟩, h, h₁, h₂⟩, made⟩ : ∃ s, readsNothingTrio = some s :=
    Option.isSome_iff_exists.mp (by decide +kernel)
  unfold readsNothingTrio at made
  dsimp only at made
  split at made
  · rename_i connects
    split at made
    · rename_i madeSource
      split at made
      · rename_i madeSink
        cases made
        rw [← path] at connects
        exact ⟨conn, h, .connect parsed rfl connects, source, sink, h₁, h₂, madeSource, madeSink⟩
      · cases made
    · cases made
  · cases made

/-- A relay that was told to read nothing ahead ends the program, whatever there is to
relay. -/
theorem runDescriptors_aborts_readsNothingAhead : ∃ conn h h',
    Entered readsNothingAhead (PipeConfig.withReadBufferSize default 0) conn ∧
      runDescriptors (PipeConfig.withReadBufferSize default 0) 4 conn ⟨0, ⟨"stdin", .a⟩⟩
        ⟨1, ⟨"stdout", .a⟩⟩ h = .error .nothingToWaitFor h' := by
  obtain ⟨conn, h, entered, takes⟩ := entered_readsNothingAhead
  obtain ⟨h', ended⟩ := (runDescriptors_aborts_iff entered 4 _ _ h .nothingToWaitFor).mpr
    ⟨rfl, rfl, Nat.le_refl 4, takes⟩
  exact ⟨conn, h, h', entered, ended⟩

/-- So not every command line that is accepted keeps the relay from ending the
program. -/
theorem not_never_aborts : ¬ ∀ arguments config conn fuel input output h condition h',
    Entered arguments config conn →
      runDescriptors config fuel conn input output h ≠ .error condition h' := by
  intro never
  obtain ⟨conn, h, entered, takes⟩ := entered_readsNothingAhead
  obtain ⟨h', ended⟩ := entered.ready.runDescriptors_stalled rfl takes (Nat.le_refl 4)
  exact never _ _ _ _ _ _ _ _ _ entered ended

end Relay

end LocalPipe
