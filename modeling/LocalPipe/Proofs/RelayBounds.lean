import LocalPipe.Proofs.RelayWaits
import LocalPipe.Proofs.ServiceMoments

namespace LocalPipe

open Host EventLoop

namespace Trio

/-- Each queue of a relay is within its limit. -/
structure Within (limit intake : Nat) (t : Trio) : Prop where
  source : t.source.bytesAvailable ≤ limit
  conn : t.conn.bytesAvailable ≤ intake
  toPeer : t.conn.bytesToSend ≤ limit
  toSink : t.sink.bytesToSend ≤ limit

/-- All the bytes that a relay holds. -/
def held (t : Trio) : Nat :=
  t.source.bytesAvailable + t.source.bytesToSend + (t.conn.bytesAvailable + t.conn.bytesToSend) +
    (t.sink.bytesAvailable + t.sink.bytesToSend)

/-- What keeps the queues of a relay within their limits: its endpoints stop receiving
there, nothing is sent to its source, and nothing is received from its sink. -/
structure Bounded (limit intake : Nat) (t : Trio) : Prop extends t.Within limit intake where
  sourceLimit : t.source.readBufferSize = limit
  connLimit : t.conn.readBufferSize = intake
  unwritten : t.source.bytesToSend = 0
  unread : t.sink.Unread
  unfilled : t.sink.bytesAvailable = 0

variable {limit intake place : Nat} {t t' : Trio} {h h' : Host} {ep mid : Endpoint}
  {exiting moved : Bool} {waits : WaitSet}

theorem Bounded.held_le (bounded : t.Bounded limit intake) : t.held ≤ 3 * limit + intake := by
  have source := bounded.source
  have conn := bounded.conn
  have toPeer := bounded.toPeer
  have toSink := bounded.toSink
  rw [held, bounded.unwritten, bounded.unfilled]
  omega

theorem Bounded.of_contains (bounded : t.Bounded limit intake) (conn : t.conn.Contains t'.conn)
    (source : t.source.Contains t'.source) (sink : t.sink.Contains t'.sink) :
    t'.Bounded limit intake := by
  obtain ⟨unread, fewer⟩ := sink.unread bounded.unread
  have received := source.available
  rw [bounded.sourceLimit, Nat.max_eq_right bounded.source] at received
  have received' := conn.available
  rw [bounded.connLimit, Nat.max_eq_right bounded.conn] at received'
  have unwritten := source.toSend
  rw [bounded.unwritten] at unwritten
  rw [bounded.unfilled] at fewer
  exact ⟨⟨received, received', Nat.le_trans conn.toSend bounded.toPeer,
    Nat.le_trans sink.toSend bounded.toSink⟩, source.limit.trans bounded.sourceLimit,
    conn.limit.trans bounded.connLimit, Nat.le_zero.mp unwritten, unread, Nat.le_zero.mp fewer⟩

/-- No more is handed over than the destination has room for. -/
theorem toSend_handOver (origin : Endpoint) {destination : Endpoint}
    (within : destination.bytesToSend ≤ limit) :
    (handOver limit origin destination).2.bytesToSend ≤ limit := by
  have queued : (handOver limit origin destination).2.bytesToSend =
      destination.bytesToSend + (origin.peek (Relay.roomAt limit (some destination))).length := by
    simp only [handOver, Endpoint.read, Endpoint.write, Endpoint.bytesToSend, List.length_append]
    omega
  have fits : (origin.peek (Relay.roomAt limit (some destination))).length ≤
      Relay.roomAt limit (some destination) := List.length_take_le ..
  have room : Relay.roomAt limit (some destination) ≤ limit - destination.bytesToSend := by
    rw [Relay.roomAt]
    split
    · exact Nat.zero_le _
    · exact Nat.le_refl _
  omega

/-- The endpoints once bytes were forwarded to the peer, and not yet to the sink. -/
def forwardedUp (limit : Nat) (t : Trio) : Trio :=
  let (source, conn) := handOver limit t.source t.conn
  { t with conn, source }

theorem Bounded.takenUp (bounded : t.Bounded limit intake) :
    Trio.Bounded limit intake { t with source := (handOver limit t.source t.conn).1 } :=
  bounded.of_contains (.refl _) (.read _ _) (.refl _)

theorem Bounded.takenDown (bounded : t.Bounded limit intake) :
    Trio.Bounded limit intake { t with conn := (handOver limit t.conn t.sink).1 } :=
  bounded.of_contains (.read _ _) (.refl _) (.refl _)

theorem Bounded.forwardedUp (bounded : t.Bounded limit intake) :
    (t.forwardedUp limit).Bounded limit intake :=
  { bounded.takenUp with conn := bounded.conn, toPeer := toSend_handOver _ bounded.toPeer }

theorem Bounded.forwarded (bounded : t.Bounded limit intake) :
    (t.forwarded limit).Bounded limit intake :=
  { bounded.forwardedUp.takenDown with
    toSink := toSend_handOver _ bounded.toSink
    unread := bounded.unread
    unfilled := bounded.unfilled }

/-- A moment of a service changes one of the three endpoints. -/
theorem Bounded.during (bounded : t.Bounded limit intake) (sound : t.Sound)
    (here : (t.toLoop exiting).pipes[place]? = some (some ep)) (during : ep.During h mid) :
    ∃ t' : Trio, (t.toLoop exiting).set ⟨place⟩ mid = t'.toLoop exiting ∧
      t'.Bounded limit intake := by
  match place, here with
  | 0, here =>
    cases here
    exact ⟨{ t with conn := mid }, rfl,
      bounded.of_contains (during.contains sound.conn) (.refl _) (.refl _)⟩
  | 1, here =>
    cases here
    exact ⟨{ t with source := mid }, rfl,
      bounded.of_contains (.refl _) (during.contains sound.source) (.refl _)⟩
  | 2, here =>
    cases here
    exact ⟨{ t with sink := mid }, rfl,
      bounded.of_contains (.refl _) (.refl _) (during.contains sound.sink)⟩

theorem Bounded.serves (bounded : t.Bounded limit intake) (sound : t.Sound)
    (serves : t.Serves waits place h moved t' h') : t'.Bounded limit intake := by
  cases serves with
  | conn run =>
    exact bounded.of_contains ((Endpoint.During.after run).contains sound.conn) (.refl _) (.refl _)
  | source run =>
    exact bounded.of_contains (.refl _) ((Endpoint.During.after run).contains sound.source)
      (.refl _)
  | sink run =>
    exact bounded.of_contains (.refl _) (.refl _) ((Endpoint.During.after run).contains sound.sink)

end Trio

theorem RelayReach.bounded {config : PipeConfig} {first t : Trio} {h₀ h : Host} {place intake : Nat}
    {exiting : Bool} (reach : RelayReach config first h₀ place exiting t h) (sound : first.Sound)
    (bounded : first.Bounded config.readBufferSize intake) :
    t.Bounded config.readBufferSize intake := by
  induction reach with
  | start => exact bounded
  | rest before serves ih => exact ih.serves (before.sound sound) serves
  | move _ before serves ih => exact (ih.serves (before.sound sound) serves).forwarded
  | turn _ _ ih => exact ih

theorem Connection.Fresh.toSend_eq {c : Connection} (fresh : c.Fresh) (q : Queues) :
    c.toSend q = q.output.length := by
  rw [Connection.toSend]
  cases writes : c.writer with
  | none => rfl
  | some w => simp [Worker.pendingSize, (fresh.writer w writes).1]

namespace Relay

/-- A loop at some moment of a forwarding: before it, once bytes were taken from the
origin, and after it. -/
inductive Forwards (limit : Nat) (origin destination : PipeId) (lp : EventLoop) : EventLoop → Prop
  | before : Forwards limit origin destination lp lp
  | taken {src dst} : lp.get? origin = some src → lp.get? destination = some dst →
      Forwards limit origin destination lp
        (lp.set origin (src.read (roomAt limit (some dst))).2)
  | after {lp' h h'} : forward limit origin destination lp h = .ok lp' h' →
      Forwards limit origin destination lp lp'

/-- A loop at some moment of a callback, which forwards one way, and then the other. -/
inductive Calls (r : Relay) (lp : EventLoop) : EventLoop → Prop
  | up {mid} : Forwards r.limit r.source r.conn lp mid → Calls r lp mid
  | down {lp' mid h h'} : forward r.limit r.source r.conn lp h = .ok lp' h' →
      Forwards r.limit r.conn r.sink lp' mid → Calls r lp mid
  | done {id lp' h h'} : r.handler.onPipe id lp () h = .ok (lp', ()) h' → Calls r lp lp'

/-- A loop at some moment of a step: as it was, while an endpoint is serviced, and in
the callback after that. -/
inductive Moment (r : Relay) (run : Running Unit) (h : Host) : EventLoop → Prop
  | still : Moment r run h run.eventLoop
  | serving {ep mid} : run.eventLoop.pipes[run.place]? = some (some ep) → ep.During h mid →
      Moment r run h (run.eventLoop.set ⟨run.place⟩ mid)
  | calling {ep ep' waits h' lp} : run.eventLoop.pipes[run.place]? = some (some ep) →
      ep.service run.waits h = .ok (true, waits, ep') h' →
      r.Calls (run.eventLoop.set ⟨run.place⟩ ep') lp → Moment r run h lp

variable {config : PipeConfig} {conn source sink : Endpoint} {d : Descriptor} {h h₁ h₂ : Host}
  {intake : Nat} {first t : Trio} {lp : EventLoop} {exiting : Bool} {run : Running Unit}

theorem Calls.bounded (calls : (ofConfig config).Calls (t.toLoop exiting) lp)
    (bounded : t.Bounded config.readBufferSize intake) :
    ∃ (t' : Trio) (exiting' : Bool), lp = t'.toLoop exiting' ∧
      t'.Bounded config.readBufferSize intake := by
  have goes_up {lp' : EventLoop} {h h' : Host}
      (ran : forward config.readBufferSize ⟨1⟩ ⟨0⟩ (t.toLoop exiting) h = .ok lp' h') :
      lp' = (t.forwardedUp config.readBufferSize).toLoop exiting := by
    obtain ⟨_, up⟩ := @forward_run h (t.toLoop exiting) ⟨1⟩ ⟨0⟩ t.source t.conn
      config.readBufferSize rfl rfl rfl
    rw [ran] at up
    cases up
    rfl
  cases calls with
  | up forwards =>
    cases forwards with
    | before => exact ⟨t, exiting, rfl, bounded⟩
    | taken from_source to_conn =>
      cases from_source
      cases to_conn
      exact ⟨_, exiting, rfl, bounded.takenUp⟩
    | after ran => exact ⟨_, exiting, goes_up ran, bounded.forwardedUp⟩
  | down ran forwards =>
    rw [goes_up ran] at forwards
    cases forwards with
    | before => exact ⟨_, exiting, rfl, bounded.forwardedUp⟩
    | taken from_conn to_sink =>
      cases from_conn
      cases to_sink
      exact ⟨_, exiting, rfl, bounded.forwardedUp.takenDown⟩
    | @after _ h _ ran' =>
      obtain ⟨_, down⟩ := @forward_run h ((t.forwardedUp config.readBufferSize).toLoop exiting)
        ⟨0⟩ ⟨2⟩ (t.forwardedUp config.readBufferSize).conn t.sink config.readBufferSize
        rfl rfl rfl
      refine ⟨t.forwarded config.readBufferSize, exiting, ?_, bounded.forwarded⟩
      have same := ran'.symm.trans down
      cases same
      rfl
  | @done id _ h _ ran =>
    obtain ⟨_, handled⟩ := handler_run config t exiting id h
    rw [ran] at handled
    cases handled
    exact ⟨_, _, rfl, bounded.forwarded⟩

/-- At each moment of a loop's run, the loop holds three endpoints that are within their
limits. -/
theorem Moment.bounded {h₀ : Host} (moment : (ofConfig config).Moment run h lp)
    (sound : first.Sound) (bounded : first.Bounded config.readBufferSize intake)
    (visits : Visits (ofConfig config).handler (first.toLoop false) () h₀ run h) :
    ∃ (t : Trio) (exiting : Bool), lp = t.toLoop exiting ∧
      t.Bounded config.readBufferSize intake := by
  obtain ⟨place, exiting, t, waits, acted, lastTimeout, rfl, reach⟩ :=
    RelayReach.of_visits sound visits
  have now := reach.bounded sound bounded
  cases moment with
  | still => exact ⟨t, exiting, rfl, now⟩
  | serving here during =>
    obtain ⟨t', same, within⟩ := now.during (reach.sound sound) here during
    exact ⟨t', exiting, same, within⟩
  | calling here served calls =>
    obtain ⟨t', same, within⟩ := now.during (reach.sound sound) here (.after served)
    rw [show ((t.running exiting place waits acted lastTimeout).eventLoop.set _ _) =
      t'.toLoop exiting from same] at calls
    exact calls.bounded within

/-- The three endpoints that a relay begins with are empty. -/
theorem begins_bounded (fresh : conn.FreshOn d) {input output : Descriptor}
    (madeSource : (Endpoint.ofConfig config).adopt input .read "stdin" h = .ok (.ok (), source) h₁)
    (madeSink :
      (Endpoint.ofConfig config).adopt output .write "stdout" h₁ = .ok (.ok (), sink) h₂) :
    (Trio.mk conn source sink).Bounded config.readBufferSize conn.readBufferSize := by
  obtain ⟨c, connected, begun, _⟩ := fresh.connected
  obtain ⟨c₁, rfl, begun₁, _⟩ := adopted madeSource
  obtain ⟨c₂, rfl, begun₂, reads, _⟩ := adopted madeSink
  have toPeer : conn.bytesToSend = 0 := by
    rw [Endpoint.bytesToSend_of_connected connected, begun.toSend_eq, fresh.output, List.length_nil]
  have toSource : Endpoint.bytesToSend { Endpoint.ofConfig config with
      name := "stdin", connection := some c₁ } = 0 :=
    begun₁.toSend_eq (Endpoint.ofConfig config).queues
  have toSink : Endpoint.bytesToSend { Endpoint.ofConfig config with
      name := "stdout", connection := some c₂ } = 0 :=
    begun₂.toSend_eq (Endpoint.ofConfig config).queues
  refine ⟨⟨Nat.zero_le _, ?_, ?_, ?_⟩, rfl, rfl, toSource, ?_, rfl⟩
  · rw [Endpoint.bytesAvailable, fresh.input]
    exact Nat.zero_le _
  · exact Nat.le_trans (Nat.le_of_eq toPeer) (Nat.zero_le _)
  · exact Nat.le_trans (Nat.le_of_eq toSink) (Nat.zero_le _)
  · rintro c' ⟨⟩
    simpa using reads

/-- A relay's buffering is bounded. At no moment of its run, whatever the host does, has
its source received more than the relay's limit, or its connection more than its own,
and at no moment has either destination more than the relay's limit to send. So with a
connection of the same limit the relay never holds more than four times that many
bytes. -/
theorem runDescriptors_bounded (fresh : conn.FreshOn d) {input output : Descriptor}
    (madeSource : (Endpoint.ofConfig config).adopt input .read "stdin" h = .ok (.ok (), source) h₁)
    (madeSink :
      (Endpoint.ofConfig config).adopt output .write "stdout" h₁ = .ok (.ok (), sink) h₂) :
    (∀ fuel, runDescriptors config fuel conn input output h =
      runLoop config fuel conn source sink h₂) ∧
    ∀ run now lp, Visits (ofConfig config).handler (eventLoop conn source sink) () h₂ run now →
      (ofConfig config).Moment run now lp → ∃ (t : Trio) (exiting : Bool), lp = t.toLoop exiting ∧
        t.Within config.readBufferSize conn.readBufferSize ∧
        t.held ≤ 3 * config.readBufferSize + conn.readBufferSize ∧
        (conn.readBufferSize = config.readBufferSize →
          t.Within config.readBufferSize config.readBufferSize ∧
            t.held ≤ 4 * config.readBufferSize) := by
  refine ⟨fun fuel => runDescriptors_eq fuel madeSource madeSink,
    fun run now lp visits moment => ?_⟩
  obtain ⟨t, exiting, rfl, bounded⟩ := moment.bounded (begins_sound fresh madeSource madeSink)
    (begins_bounded fresh madeSource madeSink) visits
  have within := bounded.toWithin
  have held := bounded.held_le
  refine ⟨t, exiting, rfl, within, held, fun same => ?_⟩
  rw [same] at within held
  exact ⟨within, by omega⟩

/-- A relay's three links. The peer and the output take nothing more in, and bytes come
from both sides. -/
def brimful : Host :=
  { links := ⟨[("stdin", { capacity := 4, endA := { buffer := [104, 105, 33] } }),
      ("stdout", { capacity := 1, endB := { buffer := [46] } }),
      ("peer", {
        capacity := 4
        endA := { buffer := [106, 97, 33], nonblocking := true }
        endB := { buffer := [46, 46, 46, 46] } })]⟩
    descriptors := [⟨0, ⟨"peer", .a⟩⟩, ⟨1, ⟨"stdin", .a⟩⟩, ⟨2, ⟨"stdout", .a⟩⟩]
    nextDescriptor := 3 }

/-- An endpoint that has just come to be connected to the peer, and holds one byte at a
time. -/
def brimfulConn : Endpoint :=
  ((Endpoint.ofConfig (.withReadBufferSize default 1)).attach ⟨0, ⟨"peer", .a⟩⟩ true true
    brimful).2.1

/-- A relay over these with the same limit, in its second tick. -/
def brimfulRun : Option (Running Unit × Host) :=
  match (Endpoint.ofConfig (.withReadBufferSize default 1)).adopt ⟨1, ⟨"stdin", .a⟩⟩ .read
      "stdin" brimful with
  | .ok (.ok (), source) h₁ =>
    match (Endpoint.ofConfig (.withReadBufferSize default 1)).adopt ⟨2, ⟨"stdout", .a⟩⟩ .write
        "stdout" h₁ with
    | .ok (.ok (), sink) h₂ =>
      after (ofConfig (.withReadBufferSize default 1)).handler 6
        ⟨eventLoop brimfulConn source sink, (), 0, {}, false, h₂.now⟩ h₂
    | _ => none
  | _ => none

/-- The relay then holds just as many bytes as it may, one in each of four queues. -/
theorem runDescriptors_bounded_brimful : ∃ (t : Trio) (run : Running Unit) (h : Host),
    brimfulRun = some (run, h) ∧ run.eventLoop = t.toLoop false ∧ t.Within 1 1 ∧ t.held = 4 ∧
      t.source.bytesAvailable = 1 ∧ t.conn.bytesAvailable = 1 ∧ t.conn.bytesToSend = 1 ∧
      t.sink.bytesToSend = 1 := by
  have queued : brimfulRun.map (fun s => (s.1.eventLoop.exiting, s.1.eventLoop.pipes.map
      (Option.map fun ep => (ep.bytesAvailable, ep.bytesToSend)))) =
      some (false, [some (1, 1), some (1, 0), some (0, 1)]) := by
    decide +kernel
  obtain ⟨⟨run, h⟩, comes, shown⟩ := Option.map_eq_some_iff.mp queued
  have fresh : brimfulConn.FreshOn ⟨0, ⟨"peer", .a⟩⟩ := Endpoint.freshOn_attach rfl
  have begins := comes
  unfold brimfulRun at begins
  split at begins
  · rename_i source h₁ madeSource
    split at begins
    · rename_i sink h₂ madeSink
      have visits : Visits (ofConfig { readBufferSize := 1 }).handler
          (eventLoop brimfulConn source sink) () h₂ run h := (Visits.start rfl).of_after begins
      obtain ⟨_, bounds⟩ := runDescriptors_bounded fresh madeSource madeSink
      obtain ⟨t, exiting, loop, _, _, same⟩ := bounds run h run.eventLoop visits .still
      obtain ⟨within, _⟩ := same rfl
      simp only [loop, Trio.toLoop, eventLoop, List.map_cons, Option.map_some, List.map_nil,
        Prod.mk.injEq, List.cons.injEq, Option.some.injEq] at shown
      obtain ⟨rfl, ⟨conn, toPeer⟩, ⟨source, unwritten⟩, ⟨unfilled, toSink⟩, _⟩ := shown
      refine ⟨t, run, h, comes, loop, within, ?_, source, conn, toPeer, toSink⟩
      rw [Trio.held, source, unwritten, conn, toPeer, unfilled, toSink]
    · cases begins
  · cases begins

end Relay

end LocalPipe
