import LocalPipe.Proofs.RelayReach

namespace LocalPipe

open Host

namespace Endpoint

/-- What a connected endpoint works with: a sound connection on one
descriptor. -/
def Holds (ep : Endpoint) (d : Descriptor) : Prop :=
  ∀ c, ep.connection = some c → c.Sound ∧ c.transport.descriptor = d

/-- What service does to an endpoint that holds a descriptor, as the calls that
are made show it. -/
structure Serviced (d : Descriptor) (ep : Endpoint) (h : Host) (ep' : Endpoint) (h' : Host) :
    Prop where
  holds : ep'.Holds d
  stays : ep.connection = none → ep' = ep ∧ h' = h
  suffix : h.calls <:+ h'.calls
  incoming : ∃ data, ep'.queues.input = ep.queues.input ++ data ∧
    inbound d h'.calls = inbound d h.calls ++ data
  outgoing : ∃ sent dropped, ep.unsent = sent ++ dropped ++ ep'.unsent ∧
    outbound d h'.calls = outbound d h.calls ++ sent ∧ (ep'.connection ≠ none → dropped = [])
  others : ∀ d', d' ≠ d → inbound d' h'.calls = inbound d' h.calls ∧
    outbound d' h'.calls = outbound d' h.calls
  readCapacity : ep'.queues.readCapacity = ep.queues.readCapacity

variable {ep ep' : Endpoint} {d : Descriptor} {h h' : Host} {waits waits' : WaitSet} {moved : Bool}

theorem serviced (holds : ep.Holds d) (run : ep.service waits h = .ok (moved, waits', ep') h') :
    ep.Serviced d h ep' h' := by
  cases connected : ep.connection with
  | none =>
    rw [service_closed waits connected] at run
    cases run
    exact ⟨holds, fun _ => ⟨rfl, rfl⟩, List.suffix_rfl, ⟨[], by simp, by simp⟩,
      ⟨[], [], by simp, by simp, fun _ => rfl⟩, fun _ _ => ⟨rfl, rfl⟩, rfl⟩
  | some c =>
    obtain ⟨sound, rfl⟩ := holds c connected
    have ticked := c.ticked (q := ep.queues) (h := h) sound
    have served := served_of_run connected sound run
    obtain ⟨mid, received, sent⟩ := ticked.halves
    obtain ⟨data, input, taken⟩ := received.input
    obtain ⟨bytes, dropped, split, placed, kept⟩ := sent.output
    have unsent_eq : ep.unsent = c.unsent ep.queues := by
      simp [unsent, unaccepted, connected, Connection.unsent]
    rw [← sent.writes.inbound_eq] at taken
    rw [received.reads.outbound_eq] at placed
    have others : ∀ d', d' ≠ c.transport.descriptor →
        inbound d' (c.tick ep.queues h).host.calls = inbound d' h.calls ∧
          outbound d' (c.tick ep.queues h).host.calls = outbound d' h.calls := by
      intro d' other
      rw [sent.writes.inbound_eq, received.reads.inbound_of_ne (Ne.symm other),
        sent.writes.outbound_of_ne (Ne.symm other), received.reads.outbound_eq]
      exact ⟨rfl, rfl⟩
    have suffix := received.reads.calls_suffix.trans sent.writes.calls_suffix
    generalize c.tick ep.queues h = t at *
    cases served with
    | kept read written =>
      refine ⟨?_, by simp [connected], suffix, ⟨data, input, taken⟩,
        ⟨bytes, dropped, by rw [unsent_eq, split]; rfl, placed, fun _ => kept _ written⟩, others,
        ticked.readCapacity⟩
      intro c' present
      cases present
      exact ⟨ticked.sound _ _ read written, ticked.descriptor⟩
    | failed errors _ =>
      have quiet := ((ep.ticked t).releases_giveUp errors t.host).quiet
      have closed := (ep.ticked t).giveUp_fst errors t.host
      refine ⟨?_, by simp [connected], suffix.trans quiet.calls_suffix, ⟨data, ?_, ?_⟩,
        ⟨bytes, dropped ++ t.connection.unaccepted, ?_, ?_, ?_⟩, fun d' other => ?_, ?_⟩
      · rw [closed]
        simp [Holds]
      · rw [closed]
        exact input
      · rw [quiet.inbound_eq, taken]
      · rw [unsent_eq, split, closed]
        simp [unsent, unaccepted, Endpoint.ticked, Connection.unsent]
      · rw [quiet.outbound_eq, placed]
      · rw [closed]
        simp
      · rw [quiet.inbound_eq, quiet.outbound_eq]
        exact others d' other
      · rw [closed]
        exact ticked.readCapacity

end Endpoint

/-- What has come in at one endpoint has gone on to another, or waits at the
first. What has gone on is accepted there, or is unsent while that endpoint is
connected. -/
structure Line (taken placed : Bytes) (origin destination : Endpoint) : Prop where
  carried : ∃ passed, taken = passed ++ origin.queues.input ∧ placed <+: passed ∧
    (destination.connection ≠ none → passed = placed ++ destination.unsent)

namespace Line

variable {taken placed : Bytes} {origin origin' destination destination' : Endpoint}

theorem placed_prefix (line : Line taken placed origin destination) : placed <+: taken := by
  obtain ⟨passed, all, within, _⟩ := line.carried
  rw [all]
  exact within.trans (List.prefix_append _ _)

theorem congr (line : Line taken placed origin destination)
    (input : origin'.queues.input = origin.queues.input)
    (connection : destination'.connection = destination.connection)
    (output : destination'.queues.output = destination.queues.output) :
    Line taken placed origin' destination' := by
  refine ⟨?_⟩
  rw [input, Endpoint.unsent, Endpoint.unaccepted, connection, output]
  exact line.carried

theorem receive {data : Bytes} (line : Line taken placed origin destination)
    (input : origin'.queues.input = origin.queues.input ++ data) :
    Line (taken ++ data) placed origin' destination := by
  obtain ⟨passed, all, within, whole⟩ := line.carried
  exact ⟨passed, by rw [all, input, List.append_assoc], within, whole⟩

/-- What the service of a destination sends stays on the line. -/
theorem serviced {d : Descriptor} {h h' : Host} (line : Line taken placed origin destination)
    (serviced : destination.Serviced d h destination' h') :
    ∃ sent, Line taken (placed ++ sent) origin destination' ∧
      outbound d h'.calls = outbound d h.calls ++ sent := by
  obtain ⟨passed, all, within, whole⟩ := line.carried
  obtain ⟨sent, dropped, split, grown, kept⟩ := serviced.outgoing
  by_cases before : destination.connection = none
  · obtain ⟨rfl, rfl⟩ := serviced.stays before
    exact ⟨[], by rw [List.append_nil]; exact line, by simp⟩
  · refine ⟨sent, ⟨passed, all, ?_, fun present => ?_⟩, grown⟩
    · rw [whole before, split]
      refine ⟨dropped ++ destination'.unsent, ?_⟩
      simp only [List.append_assoc]
    · rw [whole before, split, kept present, List.append_nil, List.append_assoc]

/-- Handing bytes over keeps a line whole. -/
theorem handOver (line : Line taken placed origin destination) (limit : Nat) :
    Line taken placed (Trio.handOver limit origin destination).1
      (Trio.handOver limit origin destination).2 := by
  obtain ⟨passed, all, within, whole⟩ := line.carried
  let room := Relay.roomAt limit (some destination)
  have input : (Trio.handOver limit origin destination).1.queues.input =
      origin.queues.input.drop room := rfl
  have unsent : (Trio.handOver limit origin destination).2.unsent =
      destination.unsent ++ origin.queues.input.take room := by
    rw [Endpoint.unsent, Endpoint.unsent, List.append_assoc]
    rfl
  refine ⟨passed ++ origin.queues.input.take room, ?_, within.trans (List.prefix_append _ _),
    fun present => ?_⟩
  · rw [input, List.append_assoc, List.take_append_drop, all]
  · rw [unsent, whole present, List.append_assoc]

end Line

end LocalPipe
