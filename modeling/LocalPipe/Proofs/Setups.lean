import LocalPipe.Proofs.Actions
import LocalPipe.Proofs.Agreement
import LocalPipe.Proofs.Releases

namespace LocalPipe

/-- Nothing is outstanding on a connection that was just set up. -/
structure Connection.Fresh (c : Connection) : Prop where
  receiving : c.transport.receiving = none
  sending : c.transport.sending = none
  reader : ∀ w, c.reader = some w → w.state = .idle ∧ w.chunk = []
  writer : ∀ w, c.writer = some w → w.state = .idle ∧ w.chunk = []

theorem Connection.Fresh.sound {c : Connection} (fresh : c.Fresh) : c.Sound := by
  refine ⟨fun w present => ⟨?_, ?_⟩, fun w present => ⟨?_, ?_⟩, fun _ => fresh.receiving,
    fun _ => fresh.sending⟩
  · rw [fresh.receiving]
    exact .idle (fresh.reader w present).1
  · simp [fresh.receiving]
  · rw [fresh.sending]
    exact .idle (fresh.writer w present).1
  · obtain ⟨idle, empty⟩ := fresh.writer w present
    simp [Worker.pendingSize, idle, empty]

theorem Connection.Fresh.unaccepted_eq {c : Connection} (fresh : c.Fresh) : c.unaccepted = [] := by
  unfold Connection.unaccepted
  split
  · rw [fresh.sending]
    rfl
  · rfl

namespace Host

theorem releases_getMode (h : Host) (d : Descriptor) (own : EndId → Prop) :
    h.Releases own (h.getMode d).2 := by
  have taken := h.releases_takeFault own .getFlags
  unfold getMode
  split
  · rename_i e h' fault
    rw [fault] at taken
    exact taken.trans (.of_frame (.of_record (.modeFault .getFlags d e) rfl rfl) rfl rfl rfl rfl)
  · rename_i h' fault
    rw [fault] at taken
    exact taken

end Host

theorem Transport.releases_adopt (d : Descriptor) (h : Host) :
    h.Releases (· = d.endId) (Transport.adopt d h).2 := by
  have asked := h.releases_getMode d (· = d.endId)
  unfold Transport.adopt
  split
  · rename_i e h₁ answer
    rw [answer] at asked
    exact asked.trans (h₁.releases_close d)
  · rename_i h₁ answer
    rw [answer] at asked
    exact asked
  · rename_i h₁ answer
    rw [answer] at asked
    have changed := h₁.releases_setMode d true
    split
    · rename_i e h₂ answer'
      rw [answer'] at changed
      exact (asked.trans changed).trans (h₂.releases_close d)
    · rename_i h₂ answer'
      rw [answer'] at changed
      exact asked.trans changed

/-- A transport that is set up has its end in non-blocking mode, and has changed
nothing else about it. -/
theorem Transport.linkEnd?_adopt {d : Descriptor} {h h' : Host} {t : Transport}
    (adopted : Transport.adopt d h = (.ok t, h')) :
    h'.linkEnd? d.endId = (h.linkEnd? d.endId).map fun e => { e with nonblocking := true } := by
  have same := (h.releases_getMode d fun _ => False).ends d.endId id
  have mode : ∀ asked, (h.getMode d).1 = .ok asked → (h.getMode d).2.isNonblocking d.endId = asked := by
    intro asked answer
    unfold Host.getMode at answer ⊢
    split at answer
    · cases answer
    · exact Except.ok.inj answer
  unfold Transport.adopt at adopted
  split at adopted
  · cases adopted
  · rename_i h₁ answer
    rw [answer] at same
    have already := mode true (by rw [answer])
    rw [answer, Host.isNonblocking] at already
    cases adopted
    rw [← same]
    dsimp only at already ⊢
    cases present : h'.linkEnd? d.endId with
    | none => rfl
    | some e =>
      rw [present] at already
      dsimp only at already
      rw [Option.map_some, ← already]
  · rename_i h₁ answer
    rw [answer] at same
    have changed := h₁.linkEnd?_setMode d true d.endId
    split at adopted
    · cases adopted
    · rename_i h₂ answer'
      rw [answer', if_pos ⟨rfl, rfl⟩] at changed
      cases adopted
      rw [← same]
      exact changed

/-- A transport that is set up has taken over its descriptor with nothing
outstanding, and no bytes have moved. -/
theorem Transport.adopt_ok {d : Descriptor} {h h' : Host} {t : Transport}
    (adopted : Transport.adopt d h = (.ok t, h')) :
    (∃ restores, t = { descriptor := d, restores }) ∧ h.Releases (· = d.endId) h' ∧
      ∀ p, h'.buffer p = h.buffer p := by
  have releases := releases_adopt d h
  rw [adopted] at releases
  have same (p : EndId) : (h.getMode d).2.buffer p = h.buffer p :=
    Host.buffer_congr ((h.releases_getMode d fun _ => False).ends p id)
  unfold Transport.adopt at adopted
  split at adopted
  · cases adopted
  · rename_i h₁ answer
    rw [answer] at same
    cases adopted
    exact ⟨⟨false, rfl⟩, releases, same⟩
  · rename_i h₁ answer
    rw [answer] at same
    have same' := h₁.buffer_setMode d true
    split at adopted
    · cases adopted
    · rename_i h₂ answer'
      rw [answer'] at same'
      cases adopted
      exact ⟨⟨true, rfl⟩, releases, fun p => (same' p).trans (same p)⟩

theorem Endpoint.releases_attach (ep : Endpoint) (d : Descriptor) (reads writes : Bool) (h : Host) :
    h.Releases (· = d.endId) (ep.attach d reads writes h).2.2 := by
  have releases := Transport.releases_adopt d h
  unfold Endpoint.attach
  split
  · rename_i e h₁ answer
    rw [answer] at releases
    exact releases
  · rename_i t h₁ answer
    rw [answer] at releases
    exact releases

theorem Endpoint.linkEnd?_attach {ep ep' : Endpoint} {d : Descriptor} {reads writes : Bool}
    {h h' : Host} (attached : ep.attach d reads writes h = (.ok (), ep', h')) :
    h'.linkEnd? d.endId = (h.linkEnd? d.endId).map fun e => { e with nonblocking := true } := by
  unfold Endpoint.attach at attached
  split at attached
  · cases attached
  · rename_i adopted
    cases attached
    exact Transport.linkEnd?_adopt adopted

/-- Every connection begins fresh, whether it comes from connecting, from
accepting or from a descriptor that was open already. -/
theorem Endpoint.attach_fresh {ep ep' : Endpoint} {d : Descriptor} {reads writes : Bool}
    {h h' : Host} (attached : ep.attach d reads writes h = (.ok (), ep', h')) :
    (∃ c, ep' = { ep with connection := some c } ∧ c.Fresh ∧ c.transport.descriptor = d ∧
        c.reader.isSome = reads ∧ c.writer.isSome = writes) ∧
      h.Releases (· = d.endId) h' ∧ ∀ p, h'.buffer p = h.buffer p := by
  unfold Endpoint.attach at attached
  split at attached
  · cases attached
  · rename_i t _ adopted
    obtain ⟨⟨restores, rfl⟩, releases, buffers⟩ := Transport.adopt_ok adopted
    cases attached
    refine ⟨⟨_, rfl, ⟨rfl, rfl, ?_, ?_⟩, rfl, ?_, ?_⟩, releases, buffers⟩
    · intro w present
      cases reads <;> cases present
      exact ⟨rfl, rfl⟩
    · intro w present
      cases writes <;> cases present
      exact ⟨rfl, rfl⟩
    · cases reads <;> rfl
    · cases writes <;> rfl

theorem Endpoint.disconnected_of_ok {ep : Endpoint} {h h' : Host} {call : SetupCall} {a : Unit}
    (run : ep.requireDisconnected call h = .ok a h') : ep.connection = none ∧ h' = h := by
  unfold requireDisconnected at run
  split at run
  · cases run
  · rename_i disconnected
    cases run
    exact ⟨by simpa using disconnected, rfl⟩

theorem Endpoint.requireDisconnected_of_none {ep : Endpoint} {h : Host} {call : SetupCall}
    (disconnected : ep.connection = none) : ep.requireDisconnected call h = .ok () h := by
  rw [requireDisconnected, disconnected]
  rfl

namespace Endpoint

variable {ep ep' : Endpoint} {path : Bytes} {h h' : Host} {result : Except SetupError Unit}

/-- What connecting comes to when it returns: the host refuses, or it opens a descriptor, which
is then taken over. -/
inductive Connecting (ep : Endpoint) (path : Bytes) (h : Host) :
    Except SetupError Unit → Endpoint → Host → Prop
  | refused {e : IoError} {h' : Host} : h.connect path = (.error e, h') →
      Connecting ep path h (.error (.connect (Text.lossy path) e)) ep h'
  | opened {d : Descriptor} {mid : Host} {answer : Except IoError Unit} {ep' : Endpoint}
      {h' : Host} : h.connect path = (.ok d, mid) →
      { ep with name := Text.lossy path }.attach d true true
        (mid.log (.connected (Text.lossy path))) = (answer, ep', h') →
      Connecting ep path h (answer.mapError .failed) ep' h'

/-- What binding comes to when it returns, once the endpoint has given up the name that it had:
the new name cannot be cleared, or nobody can listen there, or the endpoint does. -/
inductive Binding (ep : Endpoint) (path : Bytes) (h : Host) :
    Except SetupError Unit → Endpoint → Host → Prop
  | uncleared {e : IoError} {h' : Host} :
      removeStaleSocket path (ep.unbind h).2 = (.error e, h') →
      Binding ep path h (.error (.bind (Text.lossy path) e)) { ep with listener := none } h'
  | refused {e : IoError} {mid h' : Host} :
      removeStaleSocket path (ep.unbind h).2 = (.ok (), mid) → mid.listen path = (.error e, h') →
      Binding ep path h (.error (.bind (Text.lossy path) e)) { ep with listener := none } h'
  | listens {number : Nat} {mid last : Host} :
      removeStaleSocket path (ep.unbind h).2 = (.ok (), mid) →
      mid.listen path = (.ok number, last) →
      Binding ep path h (.ok ())
        { ep with name := Text.lossy path, listener := some ⟨number, path⟩ }
        (last.log (.listening (Text.lossy path)))

theorem attach_of_call {d : Descriptor} {reads writes : Bool} {answer : Except IoError Unit}
    (run : Action.call (fun h =>
      let (answer, ep, h) := ep.attach d reads writes h
      ((answer, ep), h)) h = .ok (answer, ep') h') :
    ep.attach d reads writes h = (answer, ep', h') := by
  rw [Action.call_ok] at run
  dsimp only at run
  generalize ep.attach d reads writes h = step at run
  cases run
  rfl

theorem connecting_of_ok (run : ep.connect path h = .ok (result, ep') h') :
    ep.connection = none ∧ ep.Connecting path h result ep' h' := by
  unfold connect at run
  obtain ⟨_, h₁, required, setup⟩ := Action.bind_ok.mp run
  obtain ⟨disconnected, rfl⟩ := disconnected_of_ok required
  obtain ⟨answer, h₂, connects, rest⟩ := Action.bind_ok.mp setup
  rw [Action.call_ok] at connects
  cases answer with
  | error e =>
    cases rest
    exact ⟨disconnected, .refused connects⟩
  | ok d =>
    obtain ⟨_, h₃, logged, takeover⟩ := Action.bind_ok.mp rest
    cases logged
    obtain ⟨⟨outcome, made⟩, h₄, attaches, last⟩ := Action.bind_ok.mp takeover
    cases last
    exact ⟨disconnected, .opened connects (attach_of_call attaches)⟩

theorem attach_of_adopt {d : Descriptor} {direction : Direction} {name : String}
    (run : ep.adopt d direction name h = .ok (result, ep') h') :
    ep.connection = none ∧ ∃ answer, result = answer.mapError .failed ∧
      { ep with name }.attach d (direction = Direction.read) (direction = Direction.write)
        (h.log (.adopted name direction)) = (answer, ep', h') := by
  unfold adopt at run
  obtain ⟨_, h₁, required, setup⟩ := Action.bind_ok.mp run
  obtain ⟨disconnected, rfl⟩ := disconnected_of_ok required
  obtain ⟨_, h₂, logged, takeover⟩ := Action.bind_ok.mp setup
  cases logged
  obtain ⟨⟨answer, made⟩, h₃, attaches, last⟩ := Action.bind_ok.mp takeover
  cases last
  exact ⟨disconnected, answer, rfl, attach_of_call attaches⟩

theorem binding_of_ok (run : ep.bind path h = .ok (result, ep') h') :
    ep.connection = none ∧ ep.Binding path h result ep' h' := by
  unfold bind at run
  obtain ⟨_, h₁, required, setup⟩ := Action.bind_ok.mp run
  obtain ⟨disconnected, rfl⟩ := disconnected_of_ok required
  refine ⟨disconnected, ?_⟩
  obtain ⟨mid, h₂, unbinds, rest⟩ := Action.bind_ok.mp setup
  have unbound := Prod.ext_iff.mp (Action.call_ok.mp unbinds)
  rw [ep.unbind_fst] at unbound
  obtain ⟨rfl, rfl⟩ := unbound
  obtain ⟨cleared, h₃, clears, rest'⟩ := Action.bind_ok.mp rest
  rw [Action.call_ok] at clears
  cases cleared with
  | error e =>
    cases rest'
    exact .uncleared clears
  | ok =>
    obtain ⟨listener, h₄, listens, rest''⟩ := Action.bind_ok.mp rest'
    rw [Action.call_ok] at listens
    cases listener with
    | error e =>
      cases rest''
      exact .refused clears listens
    | ok number =>
      obtain ⟨_, h₅, logged, last⟩ := Action.bind_ok.mp rest''
      cases logged
      cases last
      exact .listens clears listens

/-- An endpoint that has accepted a peer was bound, has given up its name, and has taken over
the descriptor of the peer's link. -/
theorem attach_of_accept (run : ep.accept h = .ok ep' h') :
    ep.connection = none ∧ ∃ bound d mid, ep.listener = some bound ∧
      acceptWithin bound.listener ep.config.acceptTimeout h = .ok (.ok d) mid ∧
      { ep with listener := none }.attach d true true
        ((ep.unbind mid).2.log (.acceptedPeer ep.name)) = (.ok (), ep', h') := by
  unfold accept at run
  obtain ⟨_, h₁, required, setup⟩ := Action.bind_ok.mp run
  obtain ⟨disconnected, rfl⟩ := disconnected_of_ok required
  refine ⟨disconnected, ?_⟩
  cases listening : ep.listener with
  | none =>
    rw [listening] at setup
    cases setup
  | some bound =>
    rw [listening] at setup
    obtain ⟨answer, mid, accepts, rest⟩ := Action.bind_ok.mp setup
    cases answer with
    | error e => cases rest
    | ok d =>
      refine ⟨bound, d, mid, rfl, accepts, ?_⟩
      obtain ⟨silent, h₂, unbinds, rest'⟩ := Action.bind_ok.mp rest
      have unbound := Prod.ext_iff.mp (Action.call_ok.mp unbinds)
      rw [ep.unbind_fst] at unbound
      obtain ⟨rfl, rfl⟩ := unbound
      obtain ⟨_, h₃, logged, rest''⟩ := Action.bind_ok.mp rest'
      cases logged
      obtain ⟨⟨outcome, made⟩, h₄, attaches, last⟩ := Action.bind_ok.mp rest''
      cases outcome with
      | error e => cases last
      | ok =>
        cases last
        exact attach_of_call attaches

end Endpoint

/-- Taking over a descriptor lets go of nothing but that, if it fails. Else it
leaves an endpoint with empty queues and a fresh connection for one direction,
and the end in non-blocking mode. -/
theorem Endpoint.adopt_run (config : PipeConfig) (d : Descriptor) (direction : Direction)
    (name : String) (h : Host) :
    ∃ answer h', (Endpoint.ofConfig config).adopt d direction name h = .ok answer h' ∧
      h.Releases (· = d.endId) h' ∧ (answer.1 = .ok () →
        (∃ c, answer.2 = { Endpoint.ofConfig config with name, connection := some c } ∧ c.Fresh ∧
          c.transport.descriptor = d ∧ c.reader.isSome = decide (direction = .read) ∧
          c.writer.isSome = decide (direction = .write)) ∧
        h'.linkEnd? d.endId = (h.linkEnd? d.endId).map fun e => { e with nonblocking := true }) := by
  let ep : Endpoint := { Endpoint.ofConfig config with name }
  let logged := h.log (.adopted name direction)
  let step := ep.attach d (direction = Direction.read) (direction = Direction.write) logged
  have run : (Endpoint.ofConfig config).adopt d direction name h =
      .ok (step.1.mapError .failed, step.2.1) step.2.2 := rfl
  have released : h.Releases (· = d.endId) step.2.2 :=
    (h.releases_log _ _).trans (ep.releases_attach d _ _ logged)
  refine ⟨_, _, run, released, fun taken => ?_⟩
  have attached : step = (.ok (), step.2.1, step.2.2) := by
    dsimp only at taken
    generalize step = answer at *
    obtain ⟨result, ep', h'⟩ := answer
    cases result with
    | error e => cases taken
    | ok => rfl
  obtain ⟨⟨c, set_up, fresh, descriptor, reads, writes⟩, _⟩ := Endpoint.attach_fresh attached
  have mode : step.2.2.linkEnd? d.endId = (logged.linkEnd? d.endId).map _ :=
    Endpoint.linkEnd?_attach attached
  exact ⟨⟨c, set_up, fresh, descriptor, reads, writes⟩, mode⟩

end LocalPipe
