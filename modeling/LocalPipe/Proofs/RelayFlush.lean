import LocalPipe.Proofs.RelayExit
import LocalPipe.Proofs.Setups

namespace LocalPipe

open Host

/-- An endpoint that was connected to a descriptor just now. -/
structure Endpoint.FreshOn (ep : Endpoint) (d : Descriptor) : Prop where
  connected : ∃ c, ep.connection = some c ∧ c.Fresh ∧ c.transport.descriptor = d
  input : ep.queues.input = []
  output : ep.queues.output = []

/-- The endpoint in some place is closed. -/
def EventLoop.HasClosed (lp : EventLoop) (id : PipeId) : Prop :=
  ∃ ep, lp.get? id = some ep ∧ ep.isClosed = true

/-- Nothing is stuck in a relay that has stopped: unless its sink is closed, all
that has come in over the connection was placed on the output, and either the
connection is closed or the source is, and all that it has read was placed on
the connection. -/
def Wiring.Flushed (w : Wiring) (r : Relay) (lp : EventLoop) (calls : List Call) : Prop :=
  lp.HasClosed r.sink ∨ outbound w.output calls = inbound w.conn calls ∧
    (lp.HasClosed r.conn ∨
      lp.HasClosed r.source ∧ outbound w.conn calls = inbound w.input calls)

namespace Endpoint

variable {ep : Endpoint} {d : Descriptor}

theorem FreshOn.holds (fresh : ep.FreshOn d) : ep.Holds d := by
  obtain ⟨c, connected, begun, descriptor⟩ := fresh.connected
  intro c' present
  rw [connected] at present
  cases present
  exact ⟨begun.sound, descriptor⟩

theorem FreshOn.unsent_eq (fresh : ep.FreshOn d) : ep.unsent = [] := by
  obtain ⟨c, connected, begun, _⟩ := fresh.connected
  rw [unsent, unaccepted, connected, fresh.output, List.append_nil]
  exact begun.unaccepted_eq

/-- Connecting to a descriptor leaves an endpoint with empty queues and a fresh
connection, unless it fails. -/
theorem freshOn_attach {config : PipeConfig} {reads writes : Bool} {h : Host}
    (attached : ((ofConfig config).attach d reads writes h).1 = .ok ()) :
    ((ofConfig config).attach d reads writes h).2.1.FreshOn d := by
  generalize run : (ofConfig config).attach d reads writes h = step at attached
  obtain ⟨answer, ep, h'⟩ := step
  cases attached
  obtain ⟨⟨c, rfl, begun, descriptor, _⟩, _⟩ := attach_fresh run
  exact ⟨⟨c, rfl, begun, descriptor⟩, rfl, rfl⟩

end Endpoint

theorem EventLoop.letsGo_close (lp : EventLoop) (h : Host) : h.LetsGo (lp.close h) := by
  obtain ⟨pipes, exiting, pollInterval⟩ := lp
  induction pipes generalizing h with
  | nil => exact .of_calls rfl
  | cons slot rest ih =>
    cases slot with
    | none => exact ih h
    | some ep => exact (ep.releases_close h).calls.trans (ih _)

namespace Wiring

variable {w : Wiring} {config : PipeConfig} {first t : Trio} {h₀ h h' : Host} {earlier : List Call}

/-- Where nothing is read and nothing written, all is in order. -/
theorem inOrder_of_quiet {later : List Call} (quiet : h.Quiet h')
    (within : later ++ h.calls <:+ h'.calls) : w.InOrder later := by
  obtain ⟨all, calls, still⟩ := quiet
  rw [calls] at within
  obtain ⟨rest, split⟩ := within
  rw [← List.append_assoc] at split
  have parts : rest ++ later = all := List.append_cancel_right split
  have between : h.Quiet { h with calls := later ++ h.calls } :=
    ⟨later, rfl, fun call member => still call (by rw [← parts]; exact List.mem_append_right _ member)⟩
  have sent (d : Descriptor) : outbound d later = [] := by
    have same := between.outbound_eq d
    rw [outbound_append] at same
    exact List.append_right_eq_self.mp same
  exact ⟨by rw [sent]; exact List.nil_prefix, by rw [sent]; exact List.nil_prefix⟩

/-- A relay over fresh endpoints has carried nothing yet. -/
theorem Carries.of_fresh (conn : first.conn.FreshOn w.conn) (source : first.source.FreshOn w.input)
    (sink : first.sink.FreshOn w.output) : w.Carries h.calls first h := by
  have nothing : h.since h.calls = [] := since_eq (List.nil_append h.calls).symm
  refine ⟨conn.holds, source.holds, sink.holds, List.suffix_rfl, ?_, ?_, fun later within => ?_⟩
  · rw [nothing]
    exact ⟨[], by simp [source.input, inbound], by simp [outbound], fun _ => by
      simp [conn.unsent_eq, outbound]⟩
  · rw [nothing]
    exact ⟨[], by simp [conn.input, inbound], by simp [outbound], fun _ => by
      simp [sink.unsent_eq, outbound]⟩
  · have longer := within.length_le
    rw [List.length_append] at longer
    have empty : later = [] := List.eq_nil_of_length_eq_zero (by omega)
    subst empty
    exact ⟨List.nil_prefix, List.nil_prefix⟩

/-- When nothing waits for an open sink, all that has come in is placed. -/
theorem Carries.sunk (carries : w.Carries earlier t h) (opened : t.sink.connection ≠ none)
    (empty : t.conn.queues.input = []) (sunk : t.sink.unsent = []) :
    outbound w.output (h.since earlier) = inbound w.conn (h.since earlier) := by
  obtain ⟨passed, taken, _, placed⟩ := carries.downward.carried
  rw [taken, empty, List.append_nil, placed opened, sunk, List.append_nil]

/-- What a settled relay has carried is all of it. -/
theorem Carries.flushed (carries : w.Carries earlier t h) (settled : t.Settled) :
    w.Flushed (Relay.ofConfig config) (t.toLoop true) (h.since earlier) := by
  rcases settled with closed | ⟨empty, sunk, rest⟩
  · exact Or.inl ⟨t.sink, rfl, by rw [Endpoint.isClosed, closed]; rfl⟩
  · by_cases opened : t.sink.connection = none
    · exact Or.inl ⟨t.sink, rfl, by rw [Endpoint.isClosed, opened]; rfl⟩
    · refine Or.inr ⟨carries.sunk opened empty sunk, ?_⟩
      by_cases ended : t.conn.connection = none
      · exact Or.inl ⟨t.conn, rfl, by rw [Endpoint.isClosed, ended]; rfl⟩
      · rcases rest with closed | ⟨closed, unread, unsent⟩
        · exact absurd closed ended
        · obtain ⟨passed, taken, _, placed⟩ := carries.upward.carried
          refine Or.inr ⟨⟨t.source, rfl, by rw [Endpoint.isClosed, closed]; rfl⟩, ?_⟩
          rw [taken, unread, List.append_nil, placed ended, unsent, List.append_nil]

end Wiring

namespace Relay

variable {w : Wiring} {config : PipeConfig} {conn source sink : Endpoint} {h h' : Host}
  {earlier : List Call}

theorem letsGo_finish (lp : EventLoop) (h : Host) : h.LetsGo (lp.close (h.log .relayFinished)) :=
  .trans (.of_calls rfl) (EventLoop.letsGo_close _ _)

/-- All that a relay's loop does is in order, however long it runs and however
it ends. -/
theorem runLoop_inOrder (fuel : Nat) (sound : (Trio.mk conn source sink).Sound)
    (start : w.Carries earlier ⟨conn, source, sink⟩ h) :
    ∀ later, later ++ earlier <:+ (Action.left (runLoop config fuel conn source sink h)).calls →
      w.InOrder later := by
  have ended : RelayReach.Ended config _ h _ := RelayReach.run fuel sound
  unfold runLoop
  simp only [bind, EStateM.bind]
  change RelayReach.Ended config _ h
    ((eventLoop conn source sink).run (ofConfig config).handler fuel () h) at ended
  generalize (eventLoop conn source sink).run (ofConfig config).handler fuel () h = result at *
  cases ended with
  | running reach => exact (reach.carries start).inOrder
  | finished reach => exact ((reach.carries start).quiet (letsGo_finish _ _).quiet).inOrder
  | refused reach waits =>
    exact ((reach.carries start).quiet (waits.quiet.trans (EventLoop.letsGo_close _ _).quiet)).inOrder
  | fatal reach quiet => exact ((reach.carries start).quiet quiet).inOrder

/-- A relay's loop returns without an error only in a tick that it was told to
stop in, and then closes its endpoints. -/
theorem runLoop_finished {fuel : Nat} (sound : (Trio.mk conn source sink).Sound)
    (run : runLoop config fuel conn source sink h = .ok (some (.ok ())) h') :
    ∃ t atExit, RelayReach config ⟨conn, source, sink⟩ h 3 true t atExit ∧
      (eventLoop conn source sink).run (ofConfig config).handler fuel () h =
        .ok (some (.ok (), t.toLoop true, ())) atExit ∧
      h' = (t.toLoop true).close (atExit.log .relayFinished) := by
  have ended : RelayReach.Ended config _ h _ := RelayReach.run fuel sound
  change RelayReach.Ended config _ h
    ((eventLoop conn source sink).run (ofConfig config).handler fuel () h) at ended
  unfold runLoop at run
  simp only [bind, EStateM.bind] at run
  generalize (eventLoop conn source sink).run (ofConfig config).handler fuel () h = result at *
  cases ended with
  | running => cases run
  | finished reach =>
    cases run
    exact ⟨_, _, reach, rfl, rfl⟩
  | refused => cases run
  | fatal => cases run

/-- A relay has taken over its input and its output. -/
structure Began (config : PipeConfig) (w : Wiring) (h : Host) (source sink : Endpoint)
    (h₁ h₂ : Host) : Prop where
  input : (Endpoint.ofConfig config).adopt w.input .read "stdin" h = .ok (.ok (), source) h₁
  output : (Endpoint.ofConfig config).adopt w.output .write "stdout" h₁ = .ok (.ok (), sink) h₂
  freshSource : source.FreshOn w.input
  freshSink : sink.FreshOn w.output
  sourceUnbound : source.listener = none
  sinkUnbound : sink.listener = none
  readCapacity : source.queues.readCapacity = config.readBufferSize
  receives : ∀ c, source.connection = some c → c.writer = none
  inputReleased : h.Releases (· = w.input.endId) h₁
  outputReleased : h₁.Releases (· = w.output.endId) h₂
  inputMode : h₁.linkEnd? w.input.endId =
    (h.linkEnd? w.input.endId).map fun e => { e with nonblocking := true }
  outputMode : h₂.linkEnd? w.output.endId =
    (h₁.linkEnd? w.output.endId).map fun e => { e with nonblocking := true }

variable {h₁ h₂ : Host}

theorem Began.carries (began : Began config w h source sink h₁ h₂) (fresh : conn.FreshOn w.conn) :
    w.Carries h.calls ⟨conn, source, sink⟩ h₂ :=
  (Wiring.Carries.of_fresh fresh began.freshSource began.freshSink).quiet
    (began.inputReleased.quiet.trans began.outputReleased.quiet)

theorem Began.sound (began : Began config w h source sink h₁ h₂) (fresh : conn.FreshOn w.conn) :
    (Trio.mk conn source sink).Sound :=
  ⟨fun c present => (fresh.holds c present).1, fun c present => (began.freshSource.holds c present).1,
    fun c present => (began.freshSink.holds c present).1⟩

theorem Began.fed (began : Began config w h source sink h₁ h₂) :
    (Trio.mk conn source sink).Fed config := by
  refine ⟨began.readCapacity, began.receives, fun _ closed => ?_⟩
  obtain ⟨c, connected, _⟩ := began.freshSource.connected
  rw [connected] at closed
  cases closed

/-- A relay either fails before its loop, and has moved nothing, or comes to its
loop. -/
theorem runDescriptors_begins (config : PipeConfig) (fuel : Nat) (conn : Endpoint) (w : Wiring)
    (h : Host) :
    (∃ e h', runDescriptors config fuel conn w.input w.output h = .ok (some (.error e)) h' ∧
      h.Quiet h') ∨
    ∃ source sink h₁ h₂, Began config w h source sink h₁ h₂ ∧
      runDescriptors config fuel conn w.input w.output h =
        runLoop config fuel conn source sink h₂ := by
  obtain ⟨⟨input, source⟩, h₁, adopted, released, taken⟩ :=
    Endpoint.adopt_run config w.input .read "stdin" h
  obtain ⟨⟨output, sink⟩, h₂, adopted', released', taken'⟩ :=
    Endpoint.adopt_run config w.output .write "stdout" h₁
  unfold runDescriptors
  rw [Action.bind_of_ok adopted]
  cases input with
  | error e =>
    have closes : h.Quiet (conn.close (h₁.close w.output)).2 :=
      (released.quiet.trans (releases_close h₁ w.output).quiet).trans (conn.releases_close _).quiet
    exact Or.inl ⟨_, _, rfl, closes⟩
  | ok =>
    dsimp only
    rw [Action.bind_of_ok adopted']
    cases output with
    | error e =>
      have closes : h.Quiet (conn.close (source.close h₂).2).2 :=
        ((released.quiet.trans released'.quiet).trans (source.releases_close h₂).quiet).trans
          (conn.releases_close _).quiet
      exact Or.inl ⟨_, _, rfl, closes⟩
    | ok =>
      obtain ⟨⟨c, madeSource, begun, reads, _, writer⟩, mode⟩ := taken rfl
      obtain ⟨⟨c', madeSink, begun', writes, _⟩, mode'⟩ := taken' rfl
      dsimp only at madeSource madeSink
      refine Or.inr ⟨source, sink, h₁, h₂, ⟨adopted, adopted', ?_, ?_,
        congrArg Endpoint.listener madeSource, congrArg Endpoint.listener madeSink,
        congrArg (·.queues.readCapacity) madeSource, fun c present => ?_, released, released',
        mode, mode'⟩, rfl⟩
      · rw [madeSource]
        exact ⟨⟨c, rfl, begun, reads⟩, rfl, rfl⟩
      · rw [madeSink]
        exact ⟨⟨c', rfl, begun', writes⟩, rfl, rfl⟩
      · rw [madeSource] at present
        cases present
        exact Option.isNone_iff_eq_none.mp (Option.isSome_eq_false_iff.mp writer)

/-- Every run of a relay carries bytes in order, both ways and at every moment.
One that returns without an error leaves nothing stuck. -/
theorem runDescriptors_streams (config : PipeConfig) (fuel : Nat) (fresh : conn.FreshOn w.conn)
    (h : Host) :
    (∀ later, later ++ h.calls <:+
        (Action.left (runDescriptors config fuel conn w.input w.output h)).calls →
      w.InOrder later) ∧
    ∀ h', runDescriptors config fuel conn w.input w.output h = .ok (some (.ok ())) h' →
      ∃ source sink h₁ h₂ lp atExit,
        (Endpoint.ofConfig config).adopt w.input .read "stdin" h = .ok (.ok (), source) h₁ ∧
        (Endpoint.ofConfig config).adopt w.output .write "stdout" h₁ = .ok (.ok (), sink) h₂ ∧
        (eventLoop conn source sink).run (ofConfig config).handler fuel () h₂ =
          .ok (some (.ok (), lp, ())) atExit ∧
        h' = lp.close (atExit.log .relayFinished) ∧
        w.Flushed (ofConfig config) lp (h'.since h.calls) := by
  rcases runDescriptors_begins config fuel conn w h with
    ⟨e, h', failed, quiet⟩ | ⟨source, sink, h₁, h₂, began, loops⟩
  · rw [failed]
    exact ⟨fun later within => Wiring.inOrder_of_quiet quiet within, fun h' run => by cases run⟩
  · have start := began.carries fresh
    have sound := began.sound fresh
    rw [loops]
    refine ⟨runLoop_inOrder fuel sound start, fun h' run => ?_⟩
    obtain ⟨t, atExit, reach, ran, rfl⟩ := runLoop_finished sound run
    have carries := (reach.carries start).quiet (letsGo_finish (t.toLoop true) atExit).quiet
    exact ⟨source, sink, h₁, h₂, _, atExit, began.input, began.output, ran, rfl,
      carries.flushed (reach.settled start began.fed rfl).2⟩

/-- A relay's three links, with some bytes typed at the input, and a peer that has
sent some and closed. -/
def afterPeer (sent typed : Bytes) : Host :=
  { links := ⟨[("stdin", { capacity := 16, endA := { buffer := typed } }),
      ("stdout", { capacity := 16 }),
      ("peer", { capacity := 16, endA := { buffer := sent, nonblocking := true },
                 endB := { isOpen := false } })]⟩
    descriptors := [⟨0, ⟨"peer", .a⟩⟩, ⟨1, ⟨"stdin", .a⟩⟩, ⟨2, ⟨"stdout", .a⟩⟩]
    nextDescriptor := 3 }

def afterPeerWiring : Wiring where
  conn := ⟨0, ⟨"peer", .a⟩⟩
  input := ⟨1, ⟨"stdin", .a⟩⟩
  output := ⟨2, ⟨"stdout", .a⟩⟩
  input_ne_conn := by decide
  output_ne_conn := by decide
  output_ne_input := by decide

/-- An endpoint that has just come to be connected to the peer. -/
def afterPeerConn (config : PipeConfig) (sent typed : Bytes) : Endpoint :=
  ((Endpoint.ofConfig config).attach afterPeerWiring.conn true true (afterPeer sent typed)).2.1

theorem freshOn_afterPeerConn (config : PipeConfig) (sent typed : Bytes) :
    (afterPeerConn config sent typed).FreshOn afterPeerWiring.conn :=
  Endpoint.freshOn_attach rfl

/-- What has come from the peer in all, and what is on the output, once a relay
over these returns without an error. -/
def afterPeerTraffic (config : PipeConfig) (sent typed : Bytes) : Option (Bytes × Bytes) :=
  match runDescriptors config 30 (afterPeerConn config sent typed) afterPeerWiring.input
    afterPeerWiring.output (afterPeer sent typed) with
  | .ok (some (.ok ())) h' =>
    some (sent ++ posted afterPeerWiring.conn.endId.other h'.calls,
      outbound afterPeerWiring.output h'.calls)
  | _ => none

theorem run_of_afterPeerTraffic {config : PipeConfig} {sent typed all placed : Bytes}
    (returns : afterPeerTraffic config sent typed = some (all, placed)) :
    ∃ h', runDescriptors config 30 (afterPeerConn config sent typed) afterPeerWiring.input
        afterPeerWiring.output (afterPeer sent typed) = .ok (some (.ok ())) h' ∧
      sent ++ posted afterPeerWiring.conn.endId.other (h'.since (afterPeer sent typed).calls) =
        all ∧
      outbound afterPeerWiring.output (h'.since (afterPeer sent typed).calls) = placed := by
  unfold afterPeerTraffic at returns
  split at returns
  · rename_i h' run
    have later : h'.since (afterPeer sent typed).calls = h'.calls :=
      since_eq (List.append_nil h'.calls).symm
    cases returns
    exact ⟨h', run, by rw [later], by rw [later]⟩
  · cases returns

/-- A relay returns without an error once its peer is gone, and all that the peer
has sent is on the output then. -/
theorem runDescriptors_streams_afterPeer : ∃ h' lp,
    (afterPeerConn {} [104, 105] []).FreshOn afterPeerWiring.conn ∧
    runDescriptors {} 30 (afterPeerConn {} [104, 105] []) afterPeerWiring.input
      afterPeerWiring.output (afterPeer [104, 105] []) = .ok (some (.ok ())) h' ∧
    outbound afterPeerWiring.output (h'.since (afterPeer [104, 105] []).calls) = [104, 105] ∧
    afterPeerWiring.Flushed (ofConfig {}) lp (h'.since (afterPeer [104, 105] []).calls) := by
  have fresh := freshOn_afterPeerConn {} [104, 105] []
  have returns : afterPeerTraffic {} [104, 105] [] = some ([104, 105], [104, 105]) := by
    decide +kernel
  obtain ⟨h', run, _, placed⟩ := run_of_afterPeerTraffic returns
  obtain ⟨_, exits⟩ := runDescriptors_streams {} 30 fresh (afterPeer [104, 105] [])
  obtain ⟨_, _, _, _, lp, _, _, _, _, _, flushed⟩ := exits h' run
  exact ⟨h', lp, fresh, run, placed, flushed⟩

end Relay

end LocalPipe
