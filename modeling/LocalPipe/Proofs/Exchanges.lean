import LocalPipe.Proofs.LaneExchanges
import LocalPipe.Proofs.Quiescence
import LocalPipe.Proofs.Unrecorded

namespace LocalPipe

open Host

/-- A link once up to `n` bytes were taken out of an end's buffer, and other bytes were
placed towards the other end, as many as fit. -/
def Link.exchanged (l : Link) (s : Side) (n : Nat) (data : Bytes) : Link :=
  (l.taken s n).filled s data

namespace Connection

/-- How many bytes a connection may still receive, none without a reader. -/
def inroom (c : Connection) (q : Queues) : Nat :=
  if c.reader.isSome then q.room else 0

/-- The bytes that a connection has to send, none without a writer. -/
def outgoing (c : Connection) (q : Queues) : Bytes :=
  if c.writer.isSome then c.unsent q else []

variable {c : Connection} {q : Queues} {h : Host} {l : Link}

/-- What a tick on a calm end moves, in whatever pieces. -/
structure Exchanges (c : Connection) (q : Queues) (h : Host) (l : Link) (t : Tick) : Prop where
  input : t.queues.input =
    q.input ++ (l.endAt c.transport.descriptor.endId.side).buffer.take (c.inroom q)
  links : t.host.links = h.links.set c.transport.descriptor.endId.link
    (l.exchanged c.transport.descriptor.endId.side (c.inroom q) (c.outgoing q))
  outgoing : ∀ w, t.written = .ok w →
    t.connection.outgoing t.queues =
      (c.outgoing q).drop (l.room c.transport.descriptor.endId.side)
  readFails : (∃ e, t.read = .error e) ↔
    (l.endAt c.transport.descriptor.endId.side.other).isOpen = false ∧
      (l.endAt c.transport.descriptor.endId.side).buffer.length < c.inroom q
  writeFails : (∃ failure, t.written = .error failure) ↔
    (l.endAt c.transport.descriptor.endId.side.other).isOpen = false ∧ c.outgoing q ≠ []

theorem receiveHalf_draws (sound : c.Sound)
    (present : h.links.get? c.transport.descriptor.endId.link = some l)
    (calm : l.Calm c.transport.descriptor.endId.side) :
    (c.receiveHalf q h).queues.input =
      q.input ++ (l.endAt c.transport.descriptor.endId.side).buffer.take (c.inroom q) ∧
    (c.receiveHalf q h).host.links = h.links.set c.transport.descriptor.endId.link
      (l.taken c.transport.descriptor.endId.side (c.inroom q)) ∧
    ((∃ e, (c.receiveHalf q h).read = .error e) ↔
      (l.endAt c.transport.descriptor.endId.side.other).isOpen = false ∧
        (l.endAt c.transport.descriptor.endId.side).buffer.length < c.inroom q) := by
  unfold receiveHalf inroom
  split
  · rename_i w reads
    have run := Reader.advance_run ⟨w, q, c.transport, h⟩ (sound.reader w reads)
    obtain ⟨input, links, fails⟩ := run.draws present calm
    rw [reads]
    exact ⟨input, links, fails⟩
  · rename_i missing
    rw [missing]
    refine ⟨by simp, ?_, by simp⟩
    rw [if_neg (by simp), Link.taken_zero, Table.set_of_get? present]

theorem outgoing_of_writer {w : Worker} (writes : c.writer = some w) :
    c.outgoing q = w.unaccepted c.transport.sending ++ q.output := by
  simp [outgoing, unsent, unaccepted, writes]

theorem sendHalf_places (sends : ∀ w, c.writer = some w → w.Sends c.transport.sending)
    (present : h.links.get? c.transport.descriptor.endId.link = some l)
    (calm : l.Calm c.transport.descriptor.endId.side) :
    (c.sendHalf q h).host.links = h.links.set c.transport.descriptor.endId.link
      (l.filled c.transport.descriptor.endId.side (c.outgoing q)) ∧
    (∀ total, (c.sendHalf q h).written = .ok total →
      (c.sendHalf q h).connection.outgoing (c.sendHalf q h).queues =
        (c.outgoing q).drop (l.room c.transport.descriptor.endId.side)) ∧
    ((∃ failure, (c.sendHalf q h).written = .error failure) ↔
      (l.endAt c.transport.descriptor.endId.side.other).isOpen = false ∧ c.outgoing q ≠ []) := by
  unfold sendHalf
  split
  · rename_i w writes
    have run := Writer.advance_run ⟨w, q, c.transport, h⟩ (sends w writes)
    obtain ⟨links, unsent, fails⟩ := run.places present calm
    rw [outgoing_of_writer writes]
    refine ⟨links, fun total ok => ?_, fails⟩
    rw [outgoing_of_writer rfl]
    exact unsent total ok
  · rename_i missing
    have nothing : c.outgoing q = [] := by simp [outgoing, missing]
    rw [nothing]
    refine ⟨?_, by simp, by simp⟩
    rw [Link.filled_nil, Table.set_of_get? present]

theorem tick_exchanges (sound : c.Sound)
    (present : h.links.get? c.transport.descriptor.endId.link = some l)
    (calm : l.Calm c.transport.descriptor.endId.side) : c.Exchanges q h l (c.tick q h) := by
  obtain ⟨input, links, readFails⟩ := receiveHalf_draws (q := q) sound present calm
  obtain ⟨queues, transport, writer, _⟩ := receiveHalf_frame (q := q) (h := h) sound
  obtain ⟨sends, _⟩ := sends_receiveHalf (q := q) (h := h) sound
  rw [tick_eq]
  dsimp only
  generalize c.receiveHalf q h = first at *
  have descriptor : first.connection.transport.descriptor = c.transport.descriptor := by
    rw [transport]
  have outgoing : first.connection.outgoing first.queues = c.outgoing q := by
    rw [Connection.outgoing, Connection.outgoing, writer, Connection.unsent, Connection.unsent,
      unaccepted, unaccepted, writer, transport, queues]
  have there : first.host.links.get? first.connection.transport.descriptor.endId.link =
      some (l.taken c.transport.descriptor.endId.side (c.inroom q)) := by
    rw [links, descriptor]
    exact Table.get?_set_self ..
  have still : (l.taken c.transport.descriptor.endId.side (c.inroom q)).Calm
      first.connection.transport.descriptor.endId.side := by
    rw [descriptor]
    exact calm.taken _
  obtain ⟨links', unsent, writeFails⟩ := sendHalf_places (q := first.queues) sends there still
  obtain ⟨queues', _⟩ := sendHalf_frame (q := first.queues) (h := first.host) sends
  rw [descriptor, outgoing] at links' unsent writeFails
  rw [Link.room_taken] at unsent
  rw [Link.far_taken] at writeFails
  refine ⟨?_, ?_, unsent, readFails, writeFails⟩
  · rw [queues']
    exact input
  · rw [links', links, Table.set_set, Link.exchanged]

end Connection

namespace Endpoint

/-- How many bytes an endpoint may still receive. -/
def inroom (ep : Endpoint) : Nat :=
  match ep.connection with
  | some c => c.inroom ep.queues
  | none => 0

/-- The bytes that an endpoint has to send: the rest of an outstanding send, and then
its output. -/
def outgoing (ep : Endpoint) : Bytes :=
  match ep.connection with
  | some c => c.outgoing ep.queues
  | none => []

/-- What a service on a calm end comes to. As many bytes come in as wait and as there is
room for, and as many go out as there are and as the other end has room for. Only a
closed peer closes the endpoint, if it has nothing more to receive from there, or
something to send. -/
structure Exchanges (ep : Endpoint) (p : EndId) (l : Link) (h : Host) (ep' : Endpoint)
    (h' : Host) : Prop where
  input : ep'.queues.input = ep.queues.input ++ (l.endAt p.side).buffer.take ep.inroom
  isClosed : ep'.isClosed = true ↔ (l.endAt p.side.other).isOpen = false ∧
    ((l.endAt p.side).buffer.length < ep.inroom ∨ ep.outgoing ≠ [])
  links : ep'.isClosed = false →
    h'.links = h.links.set p.link (l.exchanged p.side ep.inroom ep.outgoing)
  outgoing : ep'.isClosed = false → ep'.outgoing = ep.outgoing.drop (l.room p.side)
  released : ep'.isClosed = true → h'.links =
    (ep.close { h with
      links := h.links.set p.link (l.exchanged p.side ep.inroom ep.outgoing) }).2.links

/-- How an endpoint stands to its peer and to the host: what it holds, what it may
receive and has to send, and what it lets go of when it closes. The size of one transfer
is no part of it, nor is the size of an outstanding one. -/
structure Standing where
  input : Bytes
  inroom : Nat
  outgoing : Bytes
  listener : Option Bound
  handle : Option (Descriptor × Bool)
deriving DecidableEq

def standing (ep : Endpoint) : Standing where
  input := ep.queues.input
  inroom := ep.inroom
  outgoing := ep.outgoing
  listener := ep.listener
  handle := ep.connection.map fun c => (c.transport.descriptor, c.transport.restores)

variable {ep ep' : Endpoint} {c : Connection} {h h' : Host} {l : Link} {waits waits' : WaitSet}
  {moved : Bool}

/-- A tick changes nothing on a host but its links and its records. -/
theorem matches_ticked {t : Connection.Tick} (ticked : c.Ticked ep.queues h t) :
    Host.Matches { h with links := t.host.links } t.host := by
  obtain ⟨mid, received, sent⟩ := ticked.halves
  have reads := received.reads.rest
  have writes := sent.writes.rest
  rw [reads] at writes
  exact ⟨_, _, writes⟩

theorem matches_giveUp {t : Connection.Tick} (errors : List IoError)
    (connected : ep.connection = some c) (ticked : c.Ticked ep.queues h t) :
    (ep.close { h with links := t.host.links }).2.Matches
      ((ep.ticked t).giveUp errors t.host).2 := by
  obtain ⟨calls, _, still⟩ := matches_ticked ticked
  obtain ⟨events, logged⟩ := logAll_eq errors (.transferFailed (ep.ticked t).name) t.host
  rw [giveUp, logged, still]
  exact close_matches connected rfl rfl ticked.descriptor ticked.restores ⟨calls, events, rfl⟩

theorem service_exchanges (connected : ep.connection = some c) (sound : c.Sound)
    (present : h.links.get? c.transport.descriptor.endId.link = some l)
    (calm : l.Calm c.transport.descriptor.endId.side)
    (run : ep.service waits h = .ok (moved, waits', ep') h') :
    ep.Exchanges c.transport.descriptor.endId l h ep' h' := by
  have ticked := c.ticked (q := ep.queues) (h := h) sound
  have exchanges := Connection.tick_exchanges (q := ep.queues) sound present calm
  have served := served_of_run connected sound run
  have inroom : ep.inroom = c.inroom ep.queues := by rw [Endpoint.inroom, connected]
  have outgoing : ep.outgoing = c.outgoing ep.queues := by rw [Endpoint.outgoing, connected]
  generalize c.tick ep.queues h = t at *
  obtain ⟨input, links, rest, readFails, writeFails⟩ := exchanges
  rw [← inroom, ← outgoing] at links
  rw [← inroom] at input readFails
  rw [← outgoing] at rest writeFails
  generalize finishes : (moved, waits', ep') = outcome at served
  cases served with
  | @kept r w read written =>
    cases finishes
    have unread : ¬ ∃ e, t.read = .error e := by simp [read]
    have unwritten : ¬ ∃ failure, t.written = .error failure := by simp [written]
    rw [readFails] at unread
    rw [writeFails] at unwritten
    refine ⟨input, ⟨nofun, fun ⟨closed, stops⟩ => ?_⟩, fun _ => links, fun _ => rest w written,
      nofun⟩
    rcases stops with ended | some_left
    · exact absurd ⟨closed, ended⟩ unread
    · exact absurd ⟨closed, some_left⟩ unwritten
  | failed errors fails =>
    cases finishes
    have disconnected : ((ep.ticked t).giveUp errors t.host).1.isClosed = true := by
      rw [giveUp_fst]
      rfl
    refine ⟨?_, ⟨fun _ => ?_, fun _ => disconnected⟩, ?_, ?_, fun _ => ?_⟩
    · rw [giveUp_fst]
      exact input
    · rcases fails with fails | fails
      · obtain ⟨closed, ended⟩ := readFails.mp fails
        exact ⟨closed, Or.inl ended⟩
      · obtain ⟨closed, some_left⟩ := writeFails.mp fails
        exact ⟨closed, Or.inr some_left⟩
    · rw [disconnected]
      nofun
    · rw [disconnected]
      nofun
    · have released := matches_giveUp errors connected ticked
      rw [links] at released
      exact released.links

theorem handle_of_standing {other : Endpoint} (alike : other.standing = ep.standing)
    (connected : ep.connection = some c) : ∃ c', other.connection = some c' ∧
      c'.transport.descriptor = c.transport.descriptor ∧
        c'.transport.restores = c.transport.restores := by
  have handles := congrArg Standing.handle alike
  simp only [standing, connected, Option.map_some, Option.map_eq_some_iff, Prod.mk.injEq] at handles
  exact handles

/-- What a service comes to depends on nothing but how the endpoint stands. -/
theorem Exchanges.same {other other' : Endpoint} {p : EndId} {h₂ h₂' : Host}
    (alike : other.standing = ep.standing) (connected : ep.connection = some c)
    (same : h.Matches h₂) (first : ep.Exchanges p l h ep' h')
    (second : other.Exchanges p l h₂ other' h₂') :
    other'.queues.input = ep'.queues.input ∧ other'.isClosed = ep'.isClosed ∧
      h₂'.links = h'.links ∧ (ep'.isClosed = false → other'.outgoing = ep'.outgoing) := by
  have input : other.queues.input = ep.queues.input := congrArg Standing.input alike
  have inroom : other.inroom = ep.inroom := congrArg Standing.inroom alike
  have outgoing : other.outgoing = ep.outgoing := congrArg Standing.outgoing alike
  have closed : other'.isClosed = ep'.isClosed := by
    rw [Bool.eq_iff_iff, second.isClosed, first.isClosed, inroom, outgoing]
  refine ⟨by rw [second.input, first.input, input, inroom], closed, ?_, fun opened => ?_⟩
  · cases opened : ep'.isClosed with
    | false =>
      rw [second.links (closed.trans opened), first.links opened, same.links, inroom, outgoing]
    | true =>
      obtain ⟨c', connected', descriptor, restores⟩ := handle_of_standing alike connected
      have listener : other.listener = ep.listener := congrArg Standing.listener alike
      rw [second.released (closed.trans opened), first.released opened, inroom, outgoing,
        same.links]
      exact (close_matches connected connected' listener descriptor restores
        (same.withLinks _)).links
  · rw [second.outgoing (closed.trans opened), first.outgoing opened, outgoing]

end Endpoint

/-- One tick refines a plain transfer, on an end in non-blocking mode that meets no
faults. Service returns, and moves as many bytes as there are and as there is room for,
in each direction at once. This is all that matters: an endpoint with other settings and
another history that stands alike moves the same bytes, and leaves the same behind. -/
theorem EndpointReach.exchanges {config : PipeConfig} {ep : Endpoint} {c : Connection} {h : Host}
    {l : Link} (reach : EndpointReach config ep) (connected : ep.connection = some c)
    (present : h.links.get? c.transport.descriptor.endId.link = some l)
    (calm : l.Calm c.transport.descriptor.endId.side) (waits : WaitSet) :
    ∃ moved waits' ep' h', ep.service waits h = .ok (moved, waits', ep') h' ∧
      ep.Exchanges c.transport.descriptor.endId l h ep' h' ∧
      ∀ config₂ other h₂ waits₂, EndpointReach config₂ other → other.standing = ep.standing →
        h.Matches h₂ → ∃ moved₂ waits₂' other' h₂',
          other.service waits₂ h₂ = .ok (moved₂, waits₂', other') h₂' ∧
            other'.queues.input = ep'.queues.input ∧ other'.isClosed = ep'.isClosed ∧
            h₂'.links = h'.links ∧ (ep'.isClosed = false → other'.outgoing = ep'.outgoing) := by
  have sound := reach.orderly.sound
  obtain ⟨moved, waits', ep', h', run, _⟩ := ep.service_sound waits h sound
  have exchanges := Endpoint.service_exchanges connected (sound c connected) present calm run
  refine ⟨moved, waits', ep', h', run, exchanges,
    fun config₂ other h₂ waits₂ reach₂ alike same => ?_⟩
  have sound₂ := reach₂.orderly.sound
  obtain ⟨moved₂, waits₂', other', h₂', run₂, _⟩ := other.service_sound waits₂ h₂ sound₂
  obtain ⟨c₂, connected₂, descriptor, _⟩ := Endpoint.handle_of_standing alike connected
  rw [← descriptor] at present calm
  rw [← same.links] at present
  have exchanges₂ := Endpoint.service_exchanges connected₂ (sound₂ c₂ connected₂) present calm run₂
  rw [descriptor] at exchanges₂
  exact ⟨moved₂, waits₂', other', h₂', run₂, exchanges.same alike connected same exchanges₂⟩

/-- A link where three bytes wait at one end, and two more fit towards the other. -/
def quayLink : Link where
  capacity := 3
  endA := { buffer := [104, 105, 33], nonblocking := true }
  endB := { buffer := [46] }

def quay : Host :=
  { links := ⟨[("peer", quayLink)]⟩
    descriptors := [⟨0, ⟨"peer", .a⟩⟩]
    nextDescriptor := 1 }

/-- What leads to an endpoint with a send that was cut short, with a receive that is
larger than the room that is left for it, or not, and with three bytes to send. -/
def quayUses : List Endpoint.Use :=
  [.connect [115], .write [1, 2, 3], .service {}, .write [4, 5], .setReadBufferSize 2]

/-- How the endpoint then stands, whatever the size of a transfer is. -/
def quayStanding : Endpoint.Standing :=
  { input := [], inroom := 2, outgoing := [3, 4, 5], listener := none,
    handle := some (⟨0, ⟨"peer", .a⟩⟩, true) }

/-- With transfers of two bytes, one byte was outstanding. With larger ones the last one
of three was, and so was a receive of many more bytes than two. Both endpoints then
receive two bytes, send two, and have one left. -/
theorem EndpointReach.exchanges_quay :
    ∃ first second moved waits first' h moved₂ waits₂ second' h₂,
      EndpointReach { ioSize := 2 } first ∧ EndpointReach {} second ∧
        first.service {} quay = .ok (moved, waits, first') h ∧
        second.service {} quay = .ok (moved₂, waits₂, second') h₂ ∧
        first'.isClosed = false ∧ first'.queues.input = [104, 105] ∧ first'.outgoing = [5] ∧
        second'.isClosed = false ∧ second'.queues.input = [104, 105] ∧ second'.outgoing = [5] ∧
        h.links = quay.links.set "peer" (quayLink.exchanged .a 2 [3, 4, 5]) ∧
        h₂.links = h.links := by
  have stands : (Endpoint.performAll quayUses (.ofConfig { ioSize := 2 }) cramped).map
      (·.1.standing) = some quayStanding := by decide +kernel
  have stands₂ : (Endpoint.performAll quayUses (.ofConfig {}) cramped).map
      (·.1.standing) = some quayStanding := by decide +kernel
  obtain ⟨⟨first, mid⟩, performed, standing⟩ := Option.map_eq_some_iff.mp stands
  obtain ⟨⟨second, mid₂⟩, performed₂, standing₂⟩ := Option.map_eq_some_iff.mp stands₂
  dsimp only at standing standing₂
  have reach : EndpointReach { ioSize := 2 } first := EndpointReach.start.performAll performed
  have reach₂ : EndpointReach {} second := EndpointReach.start.performAll performed₂
  have handle : first.standing.handle = some (⟨0, ⟨"peer", .a⟩⟩, true) := by rw [standing]; rfl
  obtain ⟨c, connected, handled⟩ := Option.map_eq_some_iff.mp handle
  obtain ⟨descriptor, _⟩ := Prod.mk.inj handled
  have calm : quayLink.Calm .a := ⟨rfl, rfl, rfl⟩
  obtain ⟨moved, waits, first', h, run, exchanges, same⟩ := EndpointReach.exchanges (h := quay)
    (l := quayLink) reach connected (by rw [descriptor]; rfl) (by rw [descriptor]; exact calm) {}
  obtain ⟨moved₂, waits₂, second', h₂, run₂, input₂, closed₂, links₂, outgoing₂⟩ :=
    same {} second quay {} reach₂ (standing₂.trans standing.symm) ⟨_, _, rfl⟩
  have input : first.queues.input = [] := congrArg Endpoint.Standing.input standing
  have inroom : first.inroom = 2 := congrArg Endpoint.Standing.inroom standing
  have outgoing : first.outgoing = [3, 4, 5] := congrArg Endpoint.Standing.outgoing standing
  have opened : first'.isClosed = false := by
    rw [← Bool.not_eq_true, exchanges.isClosed, descriptor]
    exact fun ⟨closed, _⟩ => absurd closed (by decide)
  have brought := exchanges.input
  have left := exchanges.outgoing opened
  have links := exchanges.links opened
  rw [descriptor] at brought left links
  rw [input, inroom] at brought
  rw [outgoing] at left
  rw [inroom, outgoing] at links
  exact ⟨first, second, moved, waits, first', h, moved₂, waits₂, second', h₂, reach, reach₂, run,
    run₂, opened, brought, left, closed₂.trans opened, input₂.trans brought,
    (outgoing₂ opened).trans left, links, links₂⟩

end LocalPipe
