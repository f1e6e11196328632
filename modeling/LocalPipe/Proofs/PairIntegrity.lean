import LocalPipe.Proofs.PairStreams

namespace LocalPipe.Pair

open Host

/-- Whether neither endpoint has closed. -/
def BothOpen (pair : Pair) : Prop :=
  ∀ s, (pair.party s).endpoint.isClosed = false

/-- What one party has written and the other has not received yet: what waits
at the other end, what is left of the outstanding send, and what is queued. -/
def onTheWay (pair : Pair) (link : String) (s : Side) (h : Host) : Bytes :=
  h.buffer ⟨link, s.other⟩ ++ (pair.party s).endpoint.unsent

/-- Two endpoints that have just been set up on the ends of a link. Their users
may have written already. -/
structure Joined (pair : Pair) (link : String) (h : Host) : Prop where
  connected (s : Side) : ∃ c, (pair.party s).endpoint.connection = some c ∧ c.Fresh ∧
    c.transport.descriptor.endId = ⟨link, s⟩
  accepted : ¬ h.IsWaiting link
  empty (s : Side) : h.buffer ⟨link, s⟩ = []
  written (s : Side) : (pair.party s).written = (pair.party s).endpoint.queues.output
  received (s : Side) : (pair.party s).received = []

/-- What holds at every moment of the bytes that one party writes to the
other. -/
structure Flows (pair : Pair) (link : String) (s : Side) (h : Host) : Prop where
  delivered : (pair.party s.other).received <+: (pair.party s).written
  arriving : (pair.party s.other).endpoint.connection ≠ none →
    (pair.party s.other).received ++ h.buffer ⟨link, s.other⟩ <+: (pair.party s).written
  whole : (pair.party s).endpoint.connection ≠ none →
    (pair.party s.other).endpoint.connection ≠ none →
    (pair.party s.other).received ++ pair.onTheWay link s h = (pair.party s).written

structure Sound (pair : Pair) (link : String) (h : Host) : Prop where
  on (s : Side) : (pair.party s).On ⟨link, s⟩
  accepted : ¬ h.IsWaiting link
  flows (s : Side) : pair.Flows link s h

variable {pair : Pair} {link : String} {h h' : Host}

theorem Joined.sound (joined : pair.Joined link h) : pair.Sound link h := by
  refine ⟨fun s c present => ?_, joined.accepted, fun s => ?_⟩
  · obtain ⟨c', connected, fresh, near⟩ := joined.connected s
    rw [connected] at present
    cases present
    exact ⟨fresh.sound, near⟩
  · obtain ⟨c, connected, fresh, _⟩ := joined.connected s
    have nothing := joined.received s.other
    have empty := joined.empty s.other
    refine ⟨by rw [nothing]; exact List.nil_prefix, fun _ => ?_, fun _ _ => ?_⟩
    · rw [nothing, empty]
      exact List.nil_prefix
    · rw [onTheWay, nothing, empty, joined.written]
      simp [Endpoint.unsent, Endpoint.unaccepted, connected, fresh.unaccepted_eq]

variable {s : Side} {p' : Party}

/-- The bytes towards the one who waits flow on when the other one acts. -/
theorem Flows.of_sender (flows : pair.Flows link s h)
    (acted : (pair.party s).Acted ⟨link, s⟩ h p' h') : (pair.set p' s).Flows link s h' := by
  obtain ⟨new, sent, lost, written, placed, split, closed, kept⟩ := acted.outgoing
  have far : (pair.set p' s).party s.other = pair.party s.other := by
    rw [party_set, if_neg (Side.other_ne s)]
  have near : (pair.set p' s).party s = p' := by rw [party_set, if_pos rfl]
  have placed' : h'.buffer ⟨link, s.other⟩ = h.buffer ⟨link, s.other⟩ ++ sent := placed
  refine ⟨?_, fun opened => ?_, fun opened opened' => ?_⟩
  · rw [far, near, written]
    exact flows.delivered.trans (List.prefix_append _ _)
  · rw [far] at opened
    rw [far, near, written, placed', ← List.append_assoc]
    by_cases before : (pair.party s).endpoint.connection = none
    · rw [closed before, List.append_nil]
      exact (flows.arriving opened).trans (List.prefix_append _ _)
    · refine ⟨lost ++ p'.endpoint.unsent, ?_⟩
      rw [← flows.whole before opened, onTheWay]
      simp only [List.append_assoc] at split ⊢
      rw [split]
  · rw [near] at opened
    rw [far] at opened'
    have before : (pair.party s).endpoint.connection ≠ none := fun missing =>
      opened (acted.stays missing)
    rw [kept opened, List.append_nil] at split
    rw [onTheWay, far, near, written, placed', ← flows.whole before opened', onTheWay]
    simp only [List.append_assoc] at split ⊢
    rw [split]

/-- The bytes towards the one who acts flow on. -/
theorem Flows.of_receiver (flows : pair.Flows link s.other h)
    (acted : (pair.party s).Acted ⟨link, s⟩ h p' h') : (pair.set p' s).Flows link s.other h' := by
  obtain ⟨data, received, within, closed, taken⟩ := acted.incoming
  obtain ⟨delivered, arriving, whole⟩ := flows
  have far : (pair.set p' s).party s.other = pair.party s.other := by
    rw [party_set, if_neg (Side.other_ne s)]
  have near : (pair.set p' s).party s = p' := by rw [party_set, if_pos rfl]
  rw [Side.other_other] at delivered arriving whole
  have opens : p'.endpoint.connection ≠ none → (pair.party s).endpoint.connection ≠ none :=
    fun opened missing => opened (acted.stays missing)
  refine ⟨?_, ?_, ?_⟩
  · rw [Side.other_other, far, near, received]
    by_cases before : (pair.party s).endpoint.connection = none
    · rw [closed before, List.append_nil]
      exact delivered
    · exact ((List.prefix_append_right_inj _).mpr within).trans (arriving before)
  · rw [Side.other_other, far, near, received]
    intro opened
    rw [List.append_assoc, ← taken opened]
    exact arriving (opens opened)
  · rw [onTheWay, Side.other_other, far, near, received]
    intro opened' opened
    have before := whole opened' (opens opened)
    rw [onTheWay, Side.other_other, taken opened] at before
    rw [← before]
    simp only [List.append_assoc]

/-- Settling how coming calls go moves no bytes. -/
theorem releases_failTransfers (h : Host) (p : EndId) (d : Direction) (faults : List Fault) :
    (∀ p', (h.failTransfers p d faults).2.buffer p' = h.buffer p') ∧
      (h.failTransfers p d faults).2.listeners = h.listeners := by
  unfold failTransfers
  split
  · exact ⟨fun _ => rfl, rfl⟩
  · rename_i linkEnd present
    refine ⟨fun p' => ?_, by simp⟩
    by_cases same : p' = p
    · subst same
      rw [buffer, buffer, linkEnd?_setEnd, if_pos rfl, present]
      cases d <;> rfl
    · exact buffer_congr (by rw [linkEnd?_setEnd, if_neg same])

theorem Flows.congr (flows : pair.Flows link s h)
    (same : h'.buffer ⟨link, s.other⟩ = h.buffer ⟨link, s.other⟩) : pair.Flows link s h' := by
  refine ⟨flows.delivered, ?_, ?_⟩
  · rw [same]
    exact flows.arriving
  · rw [onTheWay, same]
    exact flows.whole

/-- Every event is possible, and all stays sound. -/
theorem Sound.step (sound : pair.Sound link h) (event : Event) :
    ∃ pair' h', pair.step link event h = .ok pair' h' ∧ pair'.Sound link h' := by
  cases event with
  | use s use =>
    obtain ⟨p', h', run, acted⟩ := Party.perform_acted use (sound.on s) sound.accepted
    refine ⟨pair.set p' s, h', ?_, fun s' => ?_, fun waits => ?_, fun s' => ?_⟩
    · simp only [Pair.step, bind, EStateM.bind, run]
      rfl
    · rw [party_set]
      split
      · rename_i same
        subst same
        exact acted.on
      · exact sound.on s'
    · exact sound.accepted (acted.waiting link waits)
    · by_cases same : s' = s
      · subst same
        exact (sound.flows s').of_sender acted
      · have other : s' = s.other := by
          cases s <;> cases s' <;> first | rfl | exact absurd rfl same
        subst other
        exact (sound.flows s.other).of_receiver acted
  | fail s d faults =>
    obtain ⟨buffers, listeners⟩ := releases_failTransfers h ⟨link, s⟩ d faults
    refine ⟨pair, (h.failTransfers ⟨link, s⟩ d faults).2, rfl, sound.on, ?_, fun s' => ?_⟩
    · rw [IsWaiting, listeners]
      exact sound.accepted
    · exact (sound.flows s').congr (buffers _)

/-- Every run goes to its end, and all stays sound. -/
theorem Sound.run (sound : pair.Sound link h) (events : List Event) :
    ∃ pair' h', pair.run link events h = .ok pair' h' ∧ pair'.Sound link h' := by
  induction events generalizing pair h with
  | nil => exact ⟨pair, h, rfl, sound⟩
  | cons event rest ih =>
    obtain ⟨pair', h', step, sound'⟩ := sound.step event
    obtain ⟨pair'', h'', run, sound''⟩ := ih sound'
    refine ⟨pair'', h'', ?_, sound''⟩
    simp only [Pair.run, bind, EStateM.bind, step, run]

/-- What one party writes in the course of some events. -/
def writes (s : Side) : List Event → Bytes
  | [] => []
  | .use s' (.write data) :: rest => (if s' = s then data else []) ++ writes s rest
  | _ :: rest => writes s rest

theorem written_step {event : Event} {pair' : Pair} (s : Side)
    (step : pair.step link event h = .ok pair' h') :
    (pair'.party s).written = (pair.party s).written ++ writes s [event] := by
  cases event with
  | fail s' d faults =>
    cases step
    simp [writes]
  | use s' use =>
    simp only [Pair.step, bind, EStateM.bind] at step
    split at step
    · rename_i p' _ performed
      cases step
      rw [party_set]
      cases use with
      | service waits =>
        simp only [Party.perform, bind, EStateM.bind] at performed
        split at performed
        · cases performed
          by_cases same : s = s' <;> simp [writes, same]
        · cases performed
      | _ =>
        cases performed
        by_cases same : s = s' <;> simp [writes, same, Ne.symm]
    · cases step

theorem written_run {pair' : Pair} (s : Side) (events : List Event)
    (run : pair.run link events h = .ok pair' h') :
    (pair'.party s).written = (pair.party s).written ++ writes s events := by
  induction events generalizing pair h with
  | nil =>
    cases run
    simp [writes]
  | cons event rest ih =>
    simp only [Pair.run, bind, EStateM.bind] at run
    split at run
    · rename_i next _ step
      rw [ih run, written_step s step, List.append_assoc]
      congr 1
      cases event with
      | fail => rfl
      | use s' use => cases use <;> simp [writes]
    · cases run

/-- Two endpoints that take over the ends of an empty link, one after the
other, are joined by it. -/
theorem joined_of_attach {a b a' b' : Endpoint} {dA dB : Descriptor} {readsA writesA readsB writesB : Bool}
    {h₀ h₁ h₂ : Host} (first : a.attach dA readsA writesA h₀ = (.ok (), a', h₁))
    (second : b.attach dB readsB writesB h₁ = (.ok (), b', h₂))
    (nearA : dA.endId = ⟨link, .a⟩) (nearB : dB.endId = ⟨link, .b⟩)
    (empty : ∀ s, h₀.buffer ⟨link, s⟩ = []) (accepted : ¬ h₀.IsWaiting link)
    (unreadA : a.queues.input = []) (unreadB : b.queues.input = []) :
    Pair.Joined ⟨⟨a', a.queues.output, []⟩, ⟨b', b.queues.output, []⟩⟩ link h₂ := by
  obtain ⟨⟨cA, rfl, freshA, descriptorA, _⟩, releasesA, buffersA⟩ := Endpoint.attach_fresh first
  obtain ⟨⟨cB, rfl, freshB, descriptorB, _⟩, releasesB, buffersB⟩ := Endpoint.attach_fresh second
  refine ⟨fun s => ?_, fun waits => ?_, fun s => ?_, fun s => ?_, fun s => ?_⟩
  · cases s with
    | a => exact ⟨cA, rfl, freshA, by rw [descriptorA, nearA]⟩
    | b => exact ⟨cB, rfl, freshB, by rw [descriptorB, nearB]⟩
  · exact accepted (releasesA.waiting link (releasesB.waiting link waits))
  · rw [buffersB, buffersA, empty]
  · cases s <;> rfl
  · cases s with
    | a => exact unreadA
    | b => exact unreadB

/-- Whatever happens to a joined pair, in each direction what the receiver has
taken out and what waits in its input are the beginning of what the sender has
written. While both are open, what waits at the receiver's end, the rest of the
outstanding chunk and the output queue make up all that is missing. -/
theorem run_streams (joined : pair.Joined link h) (events : List Event) :
    ∃ pair' h', pair.run link events h = .ok pair' h' ∧ ∀ s,
      let sender := pair'.party s
      let receiver := pair'.party s.other
      let stream := (pair.party s).written ++ writes s events
      receiver.consumed ++ receiver.endpoint.queues.input <+: stream ∧
        (pair'.BothOpen → receiver.consumed ++ receiver.endpoint.queues.input ++
          h'.buffer ⟨link, s.other⟩ ++ sender.endpoint.unaccepted ++ sender.endpoint.queues.output =
            stream) := by
  obtain ⟨pair', h', run, sound⟩ := joined.sound.run events
  refine ⟨pair', h', run, fun s => ?_⟩
  obtain ⟨delivered, _, whole⟩ := sound.flows s
  have written := written_run s events run
  dsimp only
  rw [← written]
  refine ⟨delivered, fun bothOpen => ?_⟩
  have opened (s : Side) : (pair'.party s).endpoint.connection ≠ none := by
    intro missing
    have closed := bothOpen s
    rw [Endpoint.isClosed, missing] at closed
    cases closed
  rw [← whole (opened s) (opened s.other)]
  simp [Party.received, onTheWay, Endpoint.unsent]

/-- A link of four bytes between two endpoints, with a write that is cut short
and a read that is interrupted. -/
theorem run_streams_over_small_link :
    ∃ (pair : Pair) (h : Host), pair.Joined "link" h ∧ ∃ pair' h',
      pair.run "link" [.fail .a .write [.limit 2], .fail .b .read [.error .eintr],
        .use .a (.write [1, 2, 3]), .use .a (.service {}), .use .b (.service {}),
        .use .b (.read 2)] h = .ok pair' h' ∧
      (pair'.party .b).consumed ++ (pair'.party .b).endpoint.queues.input <+: [1, 2, 3] := by
  let host : Host := { links := ⟨[("link", { capacity := 4 })]⟩ }
  let ep : Endpoint := .ofConfig {}
  let near := ep.attach ⟨0, ⟨"link", .a⟩⟩ true true host
  let far := ep.attach ⟨1, ⟨"link", .b⟩⟩ true true near.2.2
  have first : ep.attach ⟨0, ⟨"link", .a⟩⟩ true true host = (.ok (), near.2.1, near.2.2) := rfl
  have second : ep.attach ⟨1, ⟨"link", .b⟩⟩ true true near.2.2 = (.ok (), far.2.1, far.2.2) := rfl
  have empty (s : Side) : host.buffer ⟨"link", s⟩ = [] := by
    cases s <;> rfl
  have accepted : ¬ host.IsWaiting "link" := by
    rintro ⟨listener, names, waits, _⟩
    cases waits
  have joined := joined_of_attach first second rfl rfl empty accepted rfl rfl
  obtain ⟨pair', h', run, streams⟩ := run_streams joined [.fail .a .write [.limit 2],
    .fail .b .read [.error .eintr], .use .a (.write [1, 2, 3]), .use .a (.service {}),
    .use .b (.service {}), .use .b (.read 2)]
  exact ⟨_, _, joined, pair', h', run, (streams .a).1⟩

end LocalPipe.Pair
