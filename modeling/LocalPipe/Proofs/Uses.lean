import LocalPipe.Proofs.Actions
import LocalPipe.Proofs.Serving
import LocalPipe.Proofs.Setups

namespace LocalPipe

open Host

namespace Endpoint

/-- What can be done with an endpoint, as long as it is not dropped. -/
inductive Use where
  | write (data : Bytes)
  | writeImmediately (data : Bytes)
  | read (max : Nat)
  | readAll
  | peek (max : Nat)
  | setReadBufferSize (bytes : Nat)
  | service (waits : WaitSet)
  | close
  | connect (path : Bytes)
  | bind (path : Bytes)
  | accept
  | adopt (d : Descriptor) (direction : Direction) (name : String)

/-- The endpoint after a use. A setup that fails without ending the program
leaves an endpoint, too. -/
def perform (ep : Endpoint) : Use → Action Endpoint
  | .write data => return ep.write data
  | .writeImmediately data => do
    ep.writeImmediately data
    return ep
  | .read max => return (ep.read max).2
  | .readAll => return ep.readAll.2
  | .peek _ => return ep
  | .setReadBufferSize bytes => return ep.setReadBufferSize bytes
  | .service waits => do
    let (_, _, ep) ← ep.service waits
    return ep
  | .close => Action.call ep.close
  | .connect path => do
    let (_, ep) ← ep.connect path
    return ep
  | .bind path => do
    let (_, ep) ← ep.bind path
    return ep
  | .accept => ep.accept
  | .adopt d direction name => do
    let (_, ep) ← ep.adopt d direction name
    return ep

/-- The endpoint after some uses in a row, if none of them ends the program. -/
def performAll : List Use → Endpoint → Host → Option (Endpoint × Host)
  | [], ep, h => some (ep, h)
  | use :: rest, ep, h =>
    match ep.perform use h with
    | .ok ep' h' => performAll rest ep' h'
    | .error _ _ => none

end Endpoint

/-- The states of an endpoint that its uses lead to, in any order and as many as
there are. Between two of them anything may have happened to the host. -/
inductive EndpointReach (config : PipeConfig) : Endpoint → Prop
  | start : EndpointReach config (.ofConfig config)
  | use {ep ep' h h'} (use : Endpoint.Use) : EndpointReach config ep →
      ep.perform use h = .ok ep' h' → EndpointReach config ep'

/-- The workers of a connection have a buffer of some size. -/
structure Connection.Sized (c : Connection) (size : Nat) : Prop where
  reader : ∀ w, c.reader = some w → w.capacity = size
  writer : ∀ w, c.writer = some w → w.capacity = size

/-- A tick leaves the buffers of the workers as large as they were. -/
theorem Connection.Sized.tick {c : Connection} {size : Nat} (sized : c.Sized size) (sound : c.Sound)
    (q : Queues) (h : Host) : (c.tick q h).connection.Sized size := by
  have first : (c.receiveHalf q h).connection.Sized size := by
    unfold receiveHalf
    split
    · rename_i w present
      have advance := Reader.advance_spec ⟨w, q, c.transport, h⟩ (sound.reader w present)
      refine ⟨fun w' same => ?_, sized.writer⟩
      cases same
      exact advance.capacity.trans (sized.reader w present)
    · exact sized
  obtain ⟨sends, _⟩ := sends_receiveHalf (q := q) (h := h) sound
  rw [tick_eq]
  dsimp only
  generalize c.receiveHalf q h = half at *
  unfold sendHalf
  split
  · rename_i w present
    have advance := Writer.advance_spec ⟨w, half.queues, half.connection.transport, half.host⟩
      (sends w present)
    refine ⟨first.reader, fun w' same => ?_⟩
    cases same
    exact advance.capacity.trans (first.writer w present)
  · exact first

namespace Endpoint

variable {ep ep' : Endpoint} {h h' : Host}

/-- What setting up an endpoint comes to. It was disconnected, and whatever it
is connected to now is fresh. -/
structure SetUp (ep ep' : Endpoint) : Prop where
  disconnected : ep.connection = none
  queues : ep'.queues = ep.queues
  config : ep'.config = ep.config
  fresh : ∀ c, ep'.connection = some c → c.Fresh ∧ c.Sized ep.config.ioSize

theorem SetUp.of_unconnected (disconnected : ep.connection = none)
    (still : ep'.connection = none) (queues : ep'.queues = ep.queues)
    (config : ep'.config = ep.config) : ep.SetUp ep' :=
  ⟨disconnected, queues, config, by simp [still]⟩

theorem setUp_attach (ep : Endpoint) {d : Descriptor} {reads writes : Bool}
    {result : Except IoError Unit} (disconnected : ep.connection = none)
    (attached : ep.attach d reads writes h = (result, ep', h')) : ep.SetUp ep' := by
  cases result with
  | error e =>
    unfold attach at attached
    split at attached
    · cases attached
      exact .of_unconnected disconnected disconnected rfl rfl
    · cases attached
  | ok =>
    obtain ⟨⟨c, made, fresh, _⟩, _⟩ := attach_fresh attached
    have buffers : c.Sized ep.config.ioSize := by
      have size : (Worker.ofSize ep.config.ioSize).capacity = ep.config.ioSize :=
        Nat.max_eq_left ep.config.ioSize_pos
      unfold attach at attached
      split at attached
      · cases attached
      · rw [made] at attached
        cases attached
        refine ⟨fun w present => ?_, fun w present => ?_⟩
        · cases reads <;> cases present
          exact size
        · cases writes <;> cases present
          exact size
    refine ⟨disconnected, by rw [made], by rw [made], fun c' connected => ?_⟩
    rw [made] at connected
    cases connected
    exact ⟨fresh, buffers⟩

theorem SetUp.trans {mid : Endpoint} (first : ep.SetUp mid) (second : mid.SetUp ep') :
    ep.SetUp ep' where
  disconnected := first.disconnected
  queues := second.queues.trans first.queues
  config := second.config.trans first.config
  fresh c connected := by
    rw [← first.config]
    exact second.fresh c connected

/-- An endpoint is set up all the same if it is given another name first. -/
theorem SetUp.of_name {name : String} (setUp : { ep with name }.SetUp ep') : ep.SetUp ep' :=
  ⟨setUp.disconnected, setUp.queues, setUp.config, setUp.fresh⟩

theorem setUp_connect {path : Bytes} {result : Except SetupError Unit}
    (run : ep.connect path h = .ok (result, ep') h') : ep.SetUp ep' := by
  obtain ⟨disconnected, connecting⟩ := connecting_of_ok run
  cases connecting with
  | refused => exact .of_unconnected disconnected disconnected rfl rfl
  | opened _ attached =>
    exact (setUp_attach { ep with name := Text.lossy path } disconnected attached).of_name

theorem setUp_adopt {d : Descriptor} {direction : Direction} {name : String}
    {result : Except SetupError Unit}
    (run : ep.adopt d direction name h = .ok (result, ep') h') : ep.SetUp ep' := by
  obtain ⟨disconnected, _, _, attached⟩ := attach_of_adopt run
  exact (setUp_attach { ep with name } disconnected attached).of_name

theorem setUp_bind {path : Bytes} {result : Except SetupError Unit}
    (run : ep.bind path h = .ok (result, ep') h') : ep.SetUp ep' := by
  obtain ⟨disconnected, binding⟩ := binding_of_ok run
  cases binding <;> exact .of_unconnected disconnected disconnected rfl rfl

theorem setUp_accept (run : ep.accept h = .ok ep' h') : ep.SetUp ep' := by
  obtain ⟨disconnected, bound, d, mid, _, _, attached⟩ := attach_of_accept run
  have unbound : ep.SetUp { ep with listener := none } :=
    .of_unconnected disconnected disconnected rfl rfl
  exact unbound.trans (setUp_attach { ep with listener := none } disconnected attached)

/-- What every use of an endpoint keeps to: workers and slots agree, and the
buffers are as large as one transfer may be. -/
structure Orderly (config : PipeConfig) (ep : Endpoint) : Prop where
  settings : ep.config = config
  sound : ∀ c, ep.connection = some c → c.Sound
  sized : ∀ c, ep.connection = some c → c.Sized config.ioSize

namespace Orderly

variable {config : PipeConfig}

theorem congr (orderly : ep.Orderly config) (connection : ep'.connection = ep.connection)
    (same : ep'.config = ep.config) : ep'.Orderly config where
  settings := same.trans orderly.settings
  sound c connected := orderly.sound c (by rw [← connection, connected])
  sized c connected := orderly.sized c (by rw [← connection, connected])

theorem of_closed (orderly : ep.Orderly config) (closed : ep'.connection = none)
    (same : ep'.config = ep.config) : ep'.Orderly config where
  settings := same.trans orderly.settings
  sound := by simp [closed]
  sized := by simp [closed]

theorem setUp (orderly : ep.Orderly config) (setUp : ep.SetUp ep') : ep'.Orderly config where
  settings := setUp.config.trans orderly.settings
  sound c connected := (setUp.fresh c connected).1.sound
  sized c connected := by
    rw [← orderly.settings]
    exact (setUp.fresh c connected).2

theorem service {waits waits' : WaitSet} {moved : Bool} (orderly : ep.Orderly config)
    (run : ep.service waits h = .ok (moved, waits', ep') h') : ep'.Orderly config := by
  cases connected : ep.connection with
  | none =>
    rw [service_closed waits connected] at run
    cases run
    exact orderly
  | some c =>
    have sound := orderly.sound c connected
    have sized := (orderly.sized c connected).tick sound ep.queues h
    have ticked := c.ticked (q := ep.queues) (h := h) sound
    have served := served_of_run connected sound run
    cases served with
    | kept read written =>
      refine ⟨orderly.settings, fun c' present => ?_, fun c' present => ?_⟩
      · cases present
        exact ticked.sound _ _ read written
      · cases present
        exact sized
    | failed errors _ =>
      rw [giveUp_fst]
      exact orderly.of_closed rfl rfl

theorem perform (orderly : ep.Orderly config) (use : Use)
    (run : ep.perform use h = .ok ep' h') : ep'.Orderly config := by
  cases use with
  | write | read | readAll | peek | setReadBufferSize =>
    cases run
    exact orderly.congr rfl rfl
  | writeImmediately data =>
    obtain ⟨_, mid, _, last⟩ := Action.bind_ok.mp run
    cases last
    exact orderly
  | service waits =>
    obtain ⟨⟨moved, waits', served⟩, mid, run, last⟩ := Action.bind_ok.mp run
    cases last
    exact orderly.service run
  | close =>
    have closed := ep.close_fst h
    rw [Action.call_ok.mp run] at closed
    dsimp only at closed
    rw [closed]
    exact orderly.of_closed rfl rfl
  | connect path =>
    obtain ⟨⟨result, made⟩, mid, run, last⟩ := Action.bind_ok.mp run
    cases last
    exact orderly.setUp (setUp_connect run)
  | bind path =>
    obtain ⟨⟨result, made⟩, mid, run, last⟩ := Action.bind_ok.mp run
    cases last
    exact orderly.setUp (setUp_bind run)
  | accept => exact orderly.setUp (setUp_accept run)
  | adopt d direction name =>
    obtain ⟨⟨result, made⟩, mid, run, last⟩ := Action.bind_ok.mp run
    cases last
    exact orderly.setUp (setUp_adopt run)

end Orderly

end Endpoint

/-- Every endpoint that its uses lead to is in order. -/
theorem EndpointReach.orderly {config : PipeConfig} {ep : Endpoint}
    (reach : EndpointReach config ep) : ep.Orderly config := by
  induction reach with
  | start => exact ⟨rfl, by simp [Endpoint.ofConfig], by simp [Endpoint.ofConfig]⟩
  | use use _ run ih => exact ih.perform use run

theorem EndpointReach.performAll {config : PipeConfig} {ep ep' : Endpoint}
    {uses : List Endpoint.Use} {h h' : Host} (reach : EndpointReach config ep)
    (performed : Endpoint.performAll uses ep h = some (ep', h')) : EndpointReach config ep' := by
  induction uses generalizing ep h with
  | nil =>
    cases performed
    exact reach
  | cons use rest ih =>
    unfold Endpoint.performAll at performed
    split at performed
    · rename_i done
      exact ih (.use use reach done) performed
    · cases performed

end LocalPipe
