import LocalPipe.Proofs.Outsiders
import LocalPipe.Proofs.RelayLines

namespace LocalPipe

open Host

namespace Connection

variable {c : Connection} {q : Queues} {h mid : Host} {t : Tick} {p : EndId}

theorem Ticked.survives (ticked : c.Ticked q h t) (p : EndId) : h.Survives t.host p := by
  obtain ⟨mid, received, sent⟩ := ticked.halves
  exact (received.reads.survives p).trans (sent.writes.survives p)

theorem Ticked.appointments (ticked : c.Ticked q h t) : t.host.appointments = h.appointments := by
  obtain ⟨mid, received, sent⟩ := ticked.halves
  rw [sent.writes.rest, received.reads.rest]

theorem Ticked.buffer_of_ne (ticked : c.Ticked q h t)
    (other : p.link ≠ c.transport.descriptor.endId.link) : t.host.buffer p = h.buffer p := by
  obtain ⟨mid, received, sent⟩ := ticked.halves
  rw [sent.writes.buffer_of_ne fun same => other (by rw [same]; rfl),
    received.reads.buffer_of_ne fun same => other (by rw [same])]

theorem Ticked.posted_eq (ticked : c.Ticked q h t) (p : EndId) :
    posted p t.host.calls = posted p h.calls := by
  obtain ⟨mid, received, sent⟩ := ticked.halves
  rw [sent.writes.posted_eq, received.reads.posted_eq]

/-- What an undisturbed connection fails at: its far end is closed. If something
is left unread, then the input has no room for it, unless nobody reads, and there
was something to send that was refused. -/
structure HungUp (c : Connection) (q : Queues) (t : Tick) : Prop where
  far : t.host.isOpen c.transport.descriptor.endId.other = false
  refused : t.host.buffer c.transport.descriptor.endId ≠ [] →
    (c.reader = none ∨ t.queues.room = 0) ∧ c.unsent q ≠ [] ∧
      t.written = .error (.io (.os .epipe))

/-- A tick of an undisturbed connection fails only once the far end is
closed. -/
theorem Ticked.hungUp (ticked : c.Ticked q h t)
    (undisturbed : h.Undisturbed c.transport.descriptor.endId)
    (fails : (∃ e, t.read = .error e) ∨ ∃ failure, t.written = .error failure) : c.HungUp q t := by
  obtain ⟨mid, received, sent⟩ := ticked.halves
  have undisturbed' := undisturbed.survives (received.reads.survives _)
  cases read : t.read with
  | error e =>
    obtain ⟨before, n, positive, _, reads, answer⟩ := received.failed e read
    obtain ⟨empty, closed⟩ :=
      receive_failed (undisturbed.survives (reads.survives _)) positive answer
    refine ⟨(sent.writes.survives _).isOpen_eq.trans closed, fun unread => ?_⟩
    rw [sent.writes.buffer_of_ne (EndId.ne_other _), empty] at unread
    exact absurd rfl unread
  | ok r =>
    rcases fails with ⟨e, failed⟩ | ⟨failure, written⟩
    · rw [read] at failed
      cases failed
    · obtain ⟨e, before, data, left, rfl, writes, answer⟩ := sent.failed failure written
      obtain ⟨rfl, closed⟩ :=
        transmit_failed (undisturbed'.survives (writes.survives _)) answer
      refine ⟨closed, fun unread => ⟨?_, fun nothing => ?_, written⟩⟩
      · rcases received.paused r read with unused | full | ⟨before, n, _, reads, pending⟩
        · exact Or.inl unused
        · exact Or.inr full
        · have empty := receive_pending (undisturbed.survives (reads.survives _)) pending
          rw [sent.writes.buffer_of_ne (EndId.ne_other _), empty] at unread
          exact absurd rfl unread
      · rw [sent.idle nothing] at written
        cases written

end Connection

namespace Endpoint

/-- What service leaves alone if the endpoint does not listen. -/
structure Spares (d : Descriptor) (h : Host) (ep' : Endpoint) (h' : Host) : Prop where
  survives : ∀ p, p ≠ d.endId ∨ ep'.connection ≠ none → h.Survives h' p
  buffer_eq : ∀ p, p.link ≠ d.endId.link → h'.buffer p = h.buffer p
  appointments : h'.appointments = h.appointments
  posted_eq : ∀ p, posted p h'.calls = posted p h.calls
  listener : ep'.listener = none

variable {ep ep' : Endpoint} {d : Descriptor} {h h' : Host} {waits waits' : WaitSet} {moved : Bool}
  {c : Connection}

theorem spares (holds : ep.Holds d) (unbound : ep.listener = none)
    (run : ep.service waits h = .ok (moved, waits', ep') h') : Spares d h ep' h' := by
  cases connected : ep.connection with
  | none =>
    rw [service_closed waits connected] at run
    cases run
    exact ⟨fun _ _ => .of_eq rfl, fun _ _ => rfl, rfl, fun _ => rfl, unbound⟩
  | some c =>
    obtain ⟨sound, rfl⟩ := holds c connected
    have ticked := c.ticked (q := ep.queues) (h := h) sound
    have served := served_of_run connected sound run
    cases served with
    | kept =>
      exact ⟨fun p _ => ticked.survives p, fun p => ticked.buffer_of_ne, ticked.appointments,
        ticked.posted_eq, unbound⟩
    | failed errors _ =>
      have released := (ep.ticked (c.tick ep.queues h)).releases_giveUp errors (c.tick ep.queues h).host
      have ends : ∀ p, p ≠ c.transport.descriptor.endId → _ := fun p away => released.ends p (by
        rintro (⟨c', present, near⟩ | ⟨listening, _⟩)
        · cases present
          exact away (near.trans (congrArg Descriptor.endId ticked.descriptor))
        · exact listening unbound)
      refine ⟨fun p other => ?_, fun p other => ?_, released.appointments.trans ticked.appointments,
        fun p => ?_, ?_⟩
      · rcases other with away | opened
        · exact (ticked.survives p).trans (.of_eq (ends p away))
        · rw [giveUp_fst] at opened
          exact absurd rfl opened
      · have away : p ≠ c.transport.descriptor.endId := fun same => other (by rw [same])
        exact (buffer_congr (ends p away)).trans (ticked.buffer_of_ne other)
      · rw [released.calls.posted_eq, ticked.posted_eq]
      · rw [giveUp_fst]

/-- What one service of a connected endpoint brings in, and what it leaves
unread. -/
theorem service_unread (holds : ep.Holds d) (connected : ep.connection = some c)
    (run : ep.service waits h = .ok (moved, waits', ep') h') :
    (∃ data, inbound d h'.calls = inbound d h.calls ++ data ∧
      h.buffer d.endId = data ++ (c.tick ep.queues h).host.buffer d.endId) ∧
    (ep'.connection ≠ none → h' = (c.tick ep.queues h).host) ∧
    (ep'.connection = none → h.Undisturbed d.endId → c.HungUp ep.queues (c.tick ep.queues h)) := by
  obtain ⟨sound, rfl⟩ := holds c connected
  have ticked := c.ticked (q := ep.queues) (h := h) sound
  obtain ⟨mid, received, sent⟩ := ticked.halves
  obtain ⟨data, near, grown⟩ := received.reads.buffer_eq
  rw [← sent.writes.buffer_of_ne (EndId.ne_other _)] at near
  rw [← sent.writes.inbound_eq] at grown
  have served := served_of_run connected sound run
  cases served with
  | kept => exact ⟨⟨data, grown, near⟩, fun _ => rfl, by simp [Endpoint.ticked]⟩
  | failed errors fails =>
    have quiet := ((ep.ticked (c.tick ep.queues h)).releases_giveUp errors
      (c.tick ep.queues h).host).quiet
    refine ⟨⟨data, by rw [quiet.inbound_eq, grown], near⟩, fun opened => ?_,
      fun _ undisturbed => ticked.hungUp undisturbed fails⟩
    rw [giveUp_fst] at opened
    exact absurd rfl opened

/-- An undisturbed endpoint stays connected as long as its far end is open. -/
theorem service_connected (holds : ep.Holds d) (opened : ep.connection ≠ none)
    (undisturbed : h.Undisturbed d.endId) (far : h.isOpen d.endId.other = true)
    (run : ep.service waits h = .ok (moved, waits', ep') h') : ep'.connection ≠ none := by
  obtain ⟨c, connected⟩ := Option.ne_none_iff_exists'.mp opened
  obtain ⟨sound, descriptor⟩ := holds c connected
  have ticked := c.ticked (q := ep.queues) (h := h) sound
  obtain ⟨_, _, hangsUp⟩ := service_unread holds connected run
  intro closed
  have hungUp := (hangsUp closed undisturbed).far
  rw [descriptor, (ticked.survives _).isOpen_eq, far] at hungUp
  cases hungUp

end Endpoint

end LocalPipe
