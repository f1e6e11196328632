import LocalPipe.Proofs.Handles
import LocalPipe.Proofs.Outstanding
import LocalPipe.Proofs.Uses

namespace LocalPipe

/-- A worker waits exactly while its slot holds an operation. -/
theorem Worker.Agrees.isSome_slot {w : Worker} {slot : Option Operation} (agrees : w.Agrees slot) :
    slot.isSome = w.isPending := by
  cases agrees with
  | idle idle => simp [isPending, idle]
  | pending pending => simp [isPending, pending]

/-- The handles of the operations that the slots of a connection hold, that of the
receive first. -/
def Connection.outstandingHandles (c : Connection) : List WaitHandle :=
  (if c.transport.receiving.isSome then [⟨c.transport.descriptor, .readable⟩] else []) ++
    (if c.transport.sending.isSome then [⟨c.transport.descriptor, .writable⟩] else [])

namespace Endpoint

/-- A connected endpoint has outstanding what it can make use of, and nothing else: a
receive while there is room for what it brings, and a send while there is something
to send. -/
structure Quiescent (ep : Endpoint) (c : Connection) : Prop where
  receiving : c.reader.isSome = true →
    (c.transport.receiving.isSome = true ↔ ep.bytesAvailable < ep.readBufferSize)
  sending : c.writer.isSome = true → (c.transport.sending.isSome = true ↔ 0 < ep.bytesToSend)
  matched : c.Matched

variable {ep ep' : Endpoint} {c : Connection} {h h' : Host} {waits waits' : WaitSet} {moved : Bool}

/-- What a quiescent endpoint has outstanding is what is due. -/
theorem Quiescent.due_eq (quiescent : ep.Quiescent c) (connected : ep.connection = some c) :
    ep.due = c.outstandingHandles := by
  have reading : (c.reader.isSome ∧ ep.bytesAvailable < ep.readBufferSize) ↔
      c.transport.receiving.isSome = true := by
    cases present : c.reader with
    | none => simp [quiescent.matched.unread present]
    | some w =>
      have waiting := quiescent.receiving (by rw [present]; rfl)
      simpa using waiting.symm
  have writing : (c.writer.isSome ∧ 0 < ep.bytesToSend) ↔ c.transport.sending.isSome = true := by
    cases present : c.writer with
    | none => simp [quiescent.matched.unwritten present]
    | some w =>
      have waiting := quiescent.sending (by rw [present]; rfl)
      simpa using waiting.symm
  rw [due, connected]
  simp only [reading, writing, Connection.outstandingHandles]

/-- A tick in which nothing failed leaves the endpoint quiescent. -/
theorem quiescent_ticked {t : Connection.Tick} {q : Queues} {r w : Nat} (ep : Endpoint)
    (rested : c.Rested q t r w) (sound : t.connection.Sound) :
    (ep.ticked t).Quiescent t.connection := by
  refine ⟨fun reads => ?_, fun writes => ?_, sound.matched⟩
  · obtain ⟨worker, present⟩ := Option.isSome_iff_exists.mp reads
    have roomy : 0 < t.queues.room ↔
        (ep.ticked t).bytesAvailable < (ep.ticked t).readBufferSize := Nat.sub_pos_iff_lt
    rw [(sound.reader worker present).agrees.isSome_slot, rested.reading worker present, roomy]
  · obtain ⟨worker, present⟩ := Option.isSome_iff_exists.mp writes
    rw [(sound.writer worker present).agrees.isSome_slot, rested.writing worker present,
      bytesToSend_ticked]

/-- Service leaves an endpoint that it does not close quiescent. -/
theorem service_quiescent (sound : ∀ c, ep.connection = some c → c.Sound)
    (run : ep.service waits h = .ok (moved, waits', ep') h')
    (connected' : ep'.connection = some c) : ep'.Quiescent c := by
  cases connected : ep.connection with
  | none =>
    rw [service_closed waits connected] at run
    cases run
    rw [connected] at connected'
    cases connected'
  | some before =>
    have ticked := before.ticked (q := ep.queues) (h := h) (sound before connected)
    have served := served_of_run connected (sound before connected) run
    cases served with
    | kept read written =>
      have rested := Connection.rested (sound before connected) read written
      cases connected'
      exact quiescent_ticked ep rested (ticked.sound _ _ read written)
    | failed errors _ =>
      rw [giveUp_fst] at connected'
      cases connected'

end Endpoint

/-- Whatever was done with an endpoint and whatever its host answers, service returns,
and if the endpoint is connected then, it is quiescent, and the caller waits for what is
outstanding and for nothing else. A closed endpoint has nothing waited for. If service
reports no movement, no byte has come in and none is taken off those to send. -/
theorem EndpointReach.quiescent {config : PipeConfig} {ep : Endpoint}
    (reach : EndpointReach config ep) (waits : WaitSet) (h : Host) :
    ∃ moved waits' ep' h', ep.service waits h = .ok (moved, waits', ep') h' ∧
      (∀ c, ep'.connection = some c →
        ep'.Quiescent c ∧ waits'.handles = waits.handles ++ c.outstandingHandles) ∧
      (ep'.connection = none → waits' = waits) ∧
      (moved = false → ep'.queues.input = ep.queues.input ∧ ep'.bytesToSend = ep.bytesToSend) := by
  have sound := reach.orderly.sound
  obtain ⟨moved, waits', ep', h', run, _⟩ := ep.service_sound waits h sound
  have handles := Endpoint.service_due sound run
  refine ⟨moved, waits', ep', h', run, fun c connected => ?_, fun closed => ?_, fun still => ?_⟩
  · have quiescent := Endpoint.service_quiescent sound run connected
    refine ⟨quiescent, ?_⟩
    rw [handles, quiescent.due_eq connected]
  · rw [Endpoint.due_of_closed closed, List.append_nil] at handles
    obtain ⟨collected⟩ := waits
    obtain ⟨collected'⟩ := waits'
    exact congrArg WaitSet.mk handles
  · subst still
    have unmoved := Endpoint.service_unmoved sound run
    exact ⟨unmoved.input, unmoved.bytesToSend⟩

/-- A host with a listener at a path, where two bytes fit into the link that the next
connect makes. -/
def cramped : Host :=
  { listeners := ⟨[(0, [])]⟩
    nextListener := 1
    files := ⟨⟨[([[], [115]], .socket 0)]⟩⟩
    linkPlan := ⟨"peer", 2⟩ }

/-- What a look at an endpoint shows when it is serviced on the cramped host, once it was put
to some uses there and others have acted. -/
def Endpoint.servedCramped {α : Type} (config : PipeConfig) (uses : List Use)
    (others : Host → Host) (look : Endpoint → Host → Bool → Endpoint → Host → α) : Option α :=
  (performAll uses (.ofConfig config) cramped).bind fun (ep, h) =>
    match ep.service {} (others h) with
    | .ok (moved, _, ep') h' => some (look ep (others h) moved ep' h')
    | .error _ _ => none

theorem Endpoint.of_servedCramped {α : Type} {config : PipeConfig} {uses : List Use}
    {others : Host → Host} {look : Endpoint → Host → Bool → Endpoint → Host → α} {shown : α}
    (served : servedCramped config uses others look = some shown) :
    ∃ ep h moved waits ep' h', EndpointReach config ep ∧
      ep.service {} h = .ok (moved, waits, ep') h' ∧ look ep h moved ep' h' = shown := by
  obtain ⟨⟨ep, h⟩, performed, serviced⟩ := Option.bind_eq_some_iff.mp served
  have reach : EndpointReach config ep := EndpointReach.start.performAll performed
  dsimp only at serviced
  split at serviced
  · rename_i moved waits ep' h' run
    exact ⟨ep, others h, moved, waits, ep', h', reach, run, Option.some.inj serviced⟩
  · cases serviced

/-- An endpoint that has connected, that nothing has come in for, and that has more to
send than fits waits for both. -/
theorem EndpointReach.quiescent_cramped : ∃ ep h, EndpointReach {} ep ∧
    ∃ moved waits' ep' h' c, ep.service {} h = .ok (moved, waits', ep') h' ∧
      ep'.connection = some c ∧ ep'.Quiescent c ∧ waits'.handles =
        [⟨c.transport.descriptor, .readable⟩, ⟨c.transport.descriptor, .writable⟩] := by
  have served : Endpoint.servedCramped {} [.connect [115], .write [1, 2, 3]] id
      (fun _ _ _ ep' _ => ep'.connection.map fun c =>
        (c.transport.receiving.isSome, c.transport.sending)) =
      some (some (true, some { length := 3, sent := 2 })) := by
    decide +kernel
  obtain ⟨ep, h, moved, waits', ep', h', reach, run, shown⟩ := Endpoint.of_servedCramped served
  obtain ⟨_, _, _, _, run', open_, _, _⟩ := EndpointReach.quiescent reach {} h
  cases run.symm.trans run'
  obtain ⟨c, connected, outstanding⟩ := Option.map_eq_some_iff.mp shown
  obtain ⟨receiving, sending⟩ := Prod.mk.inj outstanding
  obtain ⟨quiescent, handles⟩ := open_ c connected
  refine ⟨ep, h, reach, moved, waits', ep', h', c, run, connected, quiescent, ?_⟩
  simpa [Connection.outstandingHandles, receiving, sending] using handles

end LocalPipe
