import LocalPipe.Proofs.Releases
import LocalPipe.Proofs.Ticks

namespace LocalPipe

open Host

namespace Connection

variable {c : Connection} {q : Queues} {h mid : Host} {t : Tick}

/-- What a tick receives comes from the front of its end's buffer. -/
theorem Received.buffer_eq (received : c.Received q h t mid) :
    ∃ data, t.queues.input = q.input ++ data ∧
      h.buffer c.transport.descriptor.endId = data ++ mid.buffer c.transport.descriptor.endId := by
  obtain ⟨data, input, grown⟩ := received.input
  obtain ⟨data', near, grown'⟩ := received.reads.buffer_eq
  have same : data = data' := List.append_cancel_left (grown.symm.trans grown')
  subst same
  exact ⟨data, input, near⟩

/-- What a tick sends goes behind what waits at the other end. -/
theorem Sent.buffer_eq (sent : c.Sent q mid t) :
    ∃ data dropped, c.unsent q = data ++ dropped ++ t.connection.unsent t.queues ∧
      t.host.buffer c.transport.descriptor.endId.other =
        mid.buffer c.transport.descriptor.endId.other ++ data ∧
      ∀ total, t.written = .ok total → dropped = [] := by
  obtain ⟨data, dropped, split, grown, kept⟩ := sent.output
  obtain ⟨data', far, grown'⟩ := sent.writes.buffer_eq
  have same : data = data' := List.append_cancel_left (grown.symm.trans grown')
  subst same
  exact ⟨data, dropped, split, far, kept⟩

/-- How a tick moves bytes through both ends' buffers. -/
theorem Ticked.buffers (ticked : c.Ticked q h t) :
    (∃ data, t.queues.input = q.input ++ data ∧
      h.buffer c.transport.descriptor.endId =
        data ++ t.host.buffer c.transport.descriptor.endId) ∧
    ∃ data dropped, c.unsent q = data ++ dropped ++ t.connection.unsent t.queues ∧
      t.host.buffer c.transport.descriptor.endId.other =
        h.buffer c.transport.descriptor.endId.other ++ data ∧
      ∀ total, t.written = .ok total → dropped = [] := by
  obtain ⟨mid, received, sent⟩ := ticked.halves
  have near := sent.writes.buffer_of_ne (EndId.ne_other _)
  have far := received.reads.buffer_of_ne (EndId.other_ne _)
  obtain ⟨data, input, taken⟩ := received.buffer_eq
  refine ⟨⟨data, input, by rw [near, taken]⟩, ?_⟩
  rw [← far]
  exact sent.buffer_eq

/-- What stops a writer is never that the sizes of a finished send differ. -/
theorem Ticked.sizes_match (ticked : c.Ticked q h t) (n issued : Nat) :
    t.written ≠ .error (.sizeMismatch n issued) := by
  obtain ⟨mid, _, sent⟩ := ticked.halves
  intro mismatch
  obtain ⟨e, _, _, _, io, _⟩ := sent.failed _ mismatch
  cases io

theorem Ticked.listeners (ticked : c.Ticked q h t) : t.host.listeners = h.listeners := by
  obtain ⟨mid, received, sent⟩ := ticked.halves
  rw [sent.writes.rest, received.reads.rest]

end Connection

namespace Endpoint

/-- What is left to be accepted of the send that an endpoint has outstanding. -/
def unaccepted (ep : Endpoint) : Bytes :=
  match ep.connection with
  | some c => c.unaccepted
  | none => []

/-- What was written to an endpoint and is still to be accepted. -/
def unsent (ep : Endpoint) : Bytes :=
  ep.unaccepted ++ ep.queues.output

/-- An endpoint after a tick of its connection, before any failure counts. -/
def ticked (ep : Endpoint) (t : Connection.Tick) : Endpoint :=
  { ep with connection := some t.connection, queues := t.queues }

/-- What a tick comes to for the endpoint, which is closed if either direction
has failed. -/
inductive Served (ep : Endpoint) (waits : WaitSet) (t : Connection.Tick) :
    Bool × WaitSet × Endpoint → Host → Prop
  | kept {r w : Nat} : t.read = .ok r → t.written = .ok w →
      Served ep waits t
        (0 < r || 0 < w, waits.extend t.connection.waitHandles, ep.ticked t) t.host
  | failed (errors : List IoError) :
      ((∃ e, t.read = .error e) ∨ ∃ failure, t.written = .error failure) →
      Served ep waits t (true, waits, ((ep.ticked t).giveUp errors t.host).1)
        ((ep.ticked t).giveUp errors t.host).2

variable {ep : Endpoint} {c : Connection} {h : Host}

theorem service_closed (waits : WaitSet) (disconnected : ep.connection = none) :
    ep.service waits h = .ok (false, waits, ep) h := by
  unfold service
  rw [disconnected]
  rfl

/-- What service comes to once a tick was made. -/
def settle (ep : Endpoint) (waits : WaitSet) (t : Connection.Tick) :
    Action (Bool × WaitSet × Endpoint) :=
  match t.read, t.written with
  | _, .error (.sizeMismatch sent issued) => Action.fatal (.sizeMismatch sent issued)
  | .ok r, .ok w =>
    pure (0 < r || 0 < w, waits.extend t.connection.waitHandles, ep.ticked t)
  | .error e, .ok _ => do
    return (true, waits, ← Action.call ((ep.ticked t).giveUp [e]))
  | .ok _, .error (.io e) => do
    return (true, waits, ← Action.call ((ep.ticked t).giveUp [e]))
  | .error e, .error (.io e') => do
    return (true, waits, ← Action.call ((ep.ticked t).giveUp [e, e']))

theorem service_settle (waits : WaitSet) (connected : ep.connection = some c) :
    ep.service waits h =
      ep.settle waits (c.tick ep.queues h) (c.tick ep.queues h).host := by
  unfold service
  rw [connected]
  rfl

/-- Service never ends the program, since the sizes of a finished send
match. -/
theorem service_served (waits : WaitSet) (connected : ep.connection = some c) (sound : c.Sound) :
    ∃ answer h', ep.service waits h = .ok answer h' ∧
      ep.Served waits (c.tick ep.queues h) answer h' := by
  have matched := (c.ticked (q := ep.queues) (h := h) sound).sizes_match
  have run := service_settle (h := h) waits connected
  unfold settle at run
  cases written : (c.tick ep.queues h).written with
  | ok w =>
    cases read : (c.tick ep.queues h).read with
    | ok r =>
      refine ⟨_, _, ?_, .kept read written⟩
      rw [run, read, written]
      rfl
    | error e =>
      refine ⟨_, _, ?_, .failed [e] (Or.inl ⟨e, read⟩)⟩
      rw [run, read, written]
      rfl
  | error failure =>
    cases failure with
    | sizeMismatch sent issued => exact absurd written (matched sent issued)
    | io e' =>
      cases read : (c.tick ep.queues h).read with
      | ok r =>
        refine ⟨_, _, ?_, .failed [e'] (Or.inr ⟨_, written⟩)⟩
        rw [run, read, written]
        rfl
      | error e =>
        refine ⟨_, _, ?_, .failed [e, e'] (Or.inl ⟨e, read⟩)⟩
        rw [run, read, written]
        rfl

/-- What a service of a connected endpoint has come to, once it has returned. -/
theorem served_of_run {waits : WaitSet} {answer : Bool × WaitSet × Endpoint} {h' : Host}
    (connected : ep.connection = some c) (sound : c.Sound)
    (run : ep.service waits h = .ok answer h') :
    ep.Served waits (c.tick ep.queues h) answer h' := by
  obtain ⟨answer', h₁, ran, served⟩ := service_served (h := h) waits connected sound
  rw [run] at ran
  cases ran
  exact served

/-- Service returns, and keeps what it works on sound. -/
theorem service_sound {ep : Endpoint} (waits : WaitSet) (h : Host)
    (sound : ∀ c, ep.connection = some c → c.Sound) :
    ∃ moved waits' ep' h', ep.service waits h = .ok (moved, waits', ep') h' ∧
      ∀ c, ep'.connection = some c → c.Sound := by
  cases connected : ep.connection with
  | none => exact ⟨_, _, _, _, service_closed waits connected, sound⟩
  | some c =>
    have ticked := c.ticked (q := ep.queues) (h := h) (sound c connected)
    obtain ⟨⟨moved, waits', ep'⟩, h', run, served⟩ :=
      service_served (h := h) waits connected (sound c connected)
    refine ⟨moved, waits', ep', h', run, fun c' present => ?_⟩
    cases served with
    | kept read written =>
      cases present
      exact ticked.sound _ _ read written
    | failed errors _ =>
      rw [giveUp_fst] at present
      cases present

end Endpoint

end LocalPipe
