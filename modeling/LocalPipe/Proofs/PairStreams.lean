import LocalPipe.Proofs.PairRuns
import LocalPipe.Proofs.Setups

namespace LocalPipe

open Host

namespace Party

/-- What a connected party works with: a sound connection on its own end. -/
def On (p : Party) (own : EndId) : Prop :=
  ∀ c, p.endpoint.connection = some c → c.Sound ∧ c.transport.descriptor.endId = own

/-- What one use does to a party on an end, and to the bytes in its link. Some
bytes come out of its own end's buffer, some go into the other end's. Bytes are
lost only when the party closes. -/
structure Acted (own : EndId) (p : Party) (h : Host) (p' : Party) (h' : Host) : Prop where
  on : p'.On own
  stays : p.endpoint.connection = none → p'.endpoint.connection = none
  waiting : ∀ name, h'.IsWaiting name → h.IsWaiting name
  incoming : ∃ data, p'.received = p.received ++ data ∧ data <+: h.buffer own ∧
    (p.endpoint.connection = none → data = []) ∧
    (p'.endpoint.connection ≠ none → h.buffer own = data ++ h'.buffer own)
  outgoing : ∃ new sent lost, p'.written = p.written ++ new ∧
    h'.buffer own.other = h.buffer own.other ++ sent ∧
    p.endpoint.unsent ++ new = sent ++ lost ++ p'.endpoint.unsent ∧
    (p.endpoint.connection = none → sent = []) ∧
    (p'.endpoint.connection ≠ none → lost = [])

variable {p : Party} {own : EndId} {h : Host}

/-- A use that only works on the queues leaves the host alone. -/
theorem Acted.of_queues {p' : Party} (new : Bytes) (on : p.On own)
    (connection : p'.endpoint.connection = p.endpoint.connection)
    (received : p'.received = p.received) (written : p'.written = p.written ++ new)
    (output : p'.endpoint.queues.output = p.endpoint.queues.output ++ new) :
    Acted own p h p' h := by
  refine ⟨?_, by rw [connection]; exact id, fun _ waits => waits,
    ⟨[], by simp [received], List.nil_prefix, fun _ => rfl, fun _ => rfl⟩,
    ⟨new, [], [], written, by simp, ?_, fun _ => rfl, fun _ => rfl⟩⟩
  · intro c present
    exact on c (by rw [← connection, present])
  · simp [Endpoint.unsent, Endpoint.unaccepted, connection, output]

/-- An endpoint that closes leaves the far end's buffer alone, unless its link
waits to be accepted. -/
theorem far_of_releases {ep : Endpoint} {h' : Host} (accepted : ¬ h.IsWaiting own.link)
    (on : ∀ c, ep.connection = some c → c.transport.descriptor.endId = own)
    (releases : h.Releases (ep.Owns h) h') : h'.buffer own.other = h.buffer own.other := by
  refine buffer_congr (releases.ends own.other ?_)
  rintro (⟨c, connected, near⟩ | ⟨_, waits⟩)
  · rw [on c connected] at near
    exact EndId.other_ne own near
  · exact accepted waits

theorem acted_close (on : p.On own) (accepted : ¬ h.IsWaiting own.link) :
    Acted own p h { p with endpoint := (p.endpoint.close h).1 } (p.endpoint.close h).2 := by
  have releases := p.endpoint.releases_close h
  have far := far_of_releases accepted (fun c present => (on c present).2) releases
  rw [Endpoint.close_fst]
  refine ⟨by simp [On], fun _ => rfl, releases.waiting,
    ⟨[], by simp [received], List.nil_prefix, fun _ => rfl, by simp⟩,
    ⟨[], [], p.endpoint.unaccepted, by simp, by simp [far], ?_, fun _ => rfl, by simp⟩⟩
  simp [Endpoint.unsent, Endpoint.unaccepted]

theorem acted_service (waits : WaitSet) (on : p.On own) (accepted : ¬ h.IsWaiting own.link) :
    ∃ moved waits' endpoint h', p.endpoint.service waits h = .ok (moved, waits', endpoint) h' ∧
      Acted own p h { p with endpoint } h' := by
  cases connected : p.endpoint.connection with
  | none =>
    refine ⟨_, _, _, _, Endpoint.service_closed waits connected, ?_⟩
    exact .of_queues [] on rfl rfl (by simp) (by simp)
  | some c =>
    obtain ⟨sound, near⟩ := on c connected
    have ticked := c.ticked (q := p.endpoint.queues) (h := h) sound
    obtain ⟨⟨moved, waits', endpoint⟩, h', run, served⟩ :=
      Endpoint.service_served (h := h) waits connected sound
    refine ⟨moved, waits', endpoint, h', run, ?_⟩
    obtain ⟨⟨data, input, taken⟩, sent, dropped, split, placed, kept⟩ := ticked.buffers
    rw [near] at taken placed
    have unsent_eq : p.endpoint.unsent = c.unsent p.endpoint.queues := by
      simp [Endpoint.unsent, Endpoint.unaccepted, connected, Connection.unsent]
    have listeners := ticked.listeners
    generalize c.tick p.endpoint.queues h = t at *
    cases served with
    | @kept r w read written =>
      refine ⟨?_, by simp [connected], ?_, ⟨data, ?_, ?_, by simp [connected], fun _ => taken⟩,
        ⟨[], sent, dropped, by simp, placed, ?_, by simp [connected], fun _ => kept w written⟩⟩
      · intro c' present
        cases present
        exact ⟨ticked.sound r w read written, by rw [ticked.descriptor, near]⟩
      · intro name waits
        rwa [IsWaiting, listeners] at waits
      · simp [received, Endpoint.ticked, input]
      · rw [taken]
        exact List.prefix_append _ _
      · rw [List.append_nil, unsent_eq, split]
        rfl
    | failed errors some_error =>
      have releases := (p.endpoint.ticked t).releases_giveUp errors t.host
      have still : ¬ t.host.IsWaiting own.link := by
        rwa [IsWaiting, listeners]
      have far := far_of_releases still (fun c' present => by
        cases present
        rw [ticked.descriptor, near]) releases
      rw [Endpoint.giveUp_fst]
      refine ⟨by simp [On], fun _ => rfl, ?_, ⟨data, ?_, ?_, by simp [connected], by simp⟩,
        ⟨[], sent, dropped ++ t.connection.unaccepted, by simp, by rw [far, placed], ?_,
          by simp [connected], by simp⟩⟩
      · intro name waits
        have before := releases.waiting name waits
        rwa [IsWaiting, listeners] at before
      · simp [received, Endpoint.ticked, input]
      · rw [taken]
        exact List.prefix_append _ _
      · rw [List.append_nil, unsent_eq, split]
        simp [Endpoint.unsent, Endpoint.unaccepted, Endpoint.ticked, Connection.unsent]

/-- Every use of a party returns, and acts as described. -/
theorem perform_acted (use : Use) (on : p.On own) (accepted : ¬ h.IsWaiting own.link) :
    ∃ p' h', p.perform use h = .ok p' h' ∧ Acted own p h p' h' := by
  cases use with
  | write data => exact ⟨_, _, rfl, .of_queues data on rfl rfl rfl rfl⟩
  | read max =>
    refine ⟨_, _, rfl, .of_queues [] on rfl ?_ (by simp) (by simp)⟩
    simp [received, Endpoint.peek]
  | readAll =>
    refine ⟨_, _, rfl, .of_queues [] on rfl ?_ (by simp) (by simp)⟩
    simp [received]
  | peek max => exact ⟨_, _, rfl, .of_queues [] on rfl rfl (by simp) (by simp)⟩
  | setReadBufferSize bytes =>
    exact ⟨_, _, rfl, .of_queues [] on rfl rfl (by simp)
      (by simp [Endpoint.setReadBufferSize])⟩
  | service waits =>
    obtain ⟨moved, waits', endpoint, h', run, acted⟩ := acted_service waits on accepted
    refine ⟨_, h', ?_, acted⟩
    simp only [perform, bind, EStateM.bind, run]
    rfl
  | close => exact ⟨_, _, rfl, acted_close on accepted⟩

end Party

end LocalPipe
