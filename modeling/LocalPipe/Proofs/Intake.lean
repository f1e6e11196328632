import LocalPipe.Proofs.Frames
import LocalPipe.Proofs.MeasuredReads
import LocalPipe.Proofs.Uses
import LocalPipe.Proofs.Waits

namespace LocalPipe

namespace Host

theorem readsNothing_takeFault (h : Host) (point : FaultPoint) :
    h.ReadsNothing (h.takeFault point).2 :=
  (h.releases_takeFault (fun _ => False) point).quiet.readsNothing

theorem readsNothing_connect (h : Host) (path : Bytes) : h.ReadsNothing (h.connect path).2 := by
  have taken := h.readsNothing_takeFault .connect
  unfold connect
  split
  · exact .of_calls rfl
  · split
    · rename_i e h₁ fault
      rw [fault] at taken
      exact taken.trans (.of_record (.connect (.error e)) rfl rfl)
    · rename_i h₁ fault
      rw [fault] at taken
      split
      · rename_i e _
        exact taken.trans (.of_record (.connect (.error e)) rfl rfl)
      · exact taken.trans (.of_record (.connect (.ok _)) rfl rfl)

theorem readsNothing_accept (h : Host) (listener : Nat) :
    h.ReadsNothing (h.accept listener).2 := by
  have taken := h.readsNothing_takeFault .accept
  unfold accept
  split
  · rename_i e h₁ fault
    rw [fault] at taken
    exact taken.trans (.of_record (.accept (.error e)) rfl rfl)
  · rename_i h₁ fault
    rw [fault] at taken
    split
    · exact taken.trans (.of_record (.accept (.ok _)) rfl rfl)
    · exact taken.trans (.of_record (.accept (.error .eagain)) rfl rfl)

theorem readsNothing_setListenerMode (h : Host) : h.ReadsNothing h.setListenerMode.2 := by
  have taken := h.readsNothing_takeFault .listenerMode
  unfold setListenerMode
  split
  · rename_i e h₁ fault
    rw [fault] at taken
    exact taken.trans (.of_record (.listenerFault e) rfl rfl)
  · rename_i h₁ fault
    rw [fault] at taken
    exact taken

/-- Of all calls only reads read. -/
theorem readsNothing_frame : Frame ReadsNothing where
  refl _ := .of_calls rfl
  trans := .trans
  events _ _ := .of_calls rfl
  write h d data := h.readsNothing_write d data
  waitReady h watched timeout := (h.waits_waitReady watched timeout).quiet.readsNothing
  connect h path := h.readsNothing_connect path
  accept h listener := h.readsNothing_accept listener
  setListenerMode h := h.readsNothing_setListenerMode
  getMode h d := (h.releases_getMode d fun _ => False).quiet.readsNothing
  setMode h d nonblocking := (h.releases_setMode d nonblocking).quiet.readsNothing
  close h d := (h.releases_close d).quiet.readsNothing

theorem readsNothing_stat (h : Host) (path : Bytes) : h.ReadsNothing (h.stat path).2 := by
  rw [stat_frame]
  exact .of_calls rfl

theorem readsNothing_listen (h : Host) (path : Bytes) : h.ReadsNothing (h.listen path).2 := by
  rw [listen_frame]
  exact .of_calls rfl

theorem readsNothing_unlink (h : Host) (path : Bytes) : h.ReadsNothing (h.unlink path).2 := by
  rw [unlink_frame]
  exact .of_calls rfl

end Host

open Host

namespace Endpoint

theorem readsNothing_unbind (ep : Endpoint) (h : Host) : h.ReadsNothing (ep.unbind h).2 :=
  (ep.releases_unbind h).quiet.readsNothing

theorem readsNothing_removeStaleSocket (path : Bytes) (h : Host) :
    h.ReadsNothing (removeStaleSocket path h).2 := by
  have looked := h.readsNothing_stat path
  unfold removeStaleSocket
  split
  · exact .of_calls rfl
  · generalize h.stat path = step at looked
    obtain ⟨answer, mid⟩ := step
    have unlinked := looked.trans (mid.readsNothing_unlink path)
    split <;> (rename_i there; cases there)
    case h_3 => split <;> (rename_i removed; rw [removed] at unlinked; exact unlinked)
    all_goals exact looked

theorem readsNothing_bind (ep : Endpoint) (path : Bytes) : (ep.bind path).Within ReadsNothing := by
  have frame := readsNothing_frame
  refine frame.bind (frame.requireDisconnected ep _) fun _ =>
    frame.bind (CallFrame.call ep.readsNothing_unbind) fun ep =>
      frame.bind (CallFrame.call (readsNothing_removeStaleSocket path)) fun cleared => ?_
  cases cleared with
  | error e => exact frame.pure _
  | ok =>
    refine frame.bind (CallFrame.call fun h => h.readsNothing_listen path) fun listener => ?_
    cases listener with
    | error e => exact frame.pure _
    | ok number => exact frame.bind (frame.logged _) fun _ => frame.pure _

/-- Of all uses only service reads. -/
theorem readsNothing_perform (ep : Endpoint) (use : Use) (other : ∀ waits, use ≠ .service waits) :
    (ep.perform use).Within ReadsNothing := by
  have frame := readsNothing_frame
  cases use with
  | write | read | readAll | peek | setReadBufferSize => exact frame.pure _
  | writeImmediately data => exact frame.bind (frame.writeImmediately ep data) fun _ => frame.pure ep
  | service waits => exact absurd rfl (other waits)
  | close => exact CallFrame.call (frame.endpoint_close ep readsNothing_unbind)
  | connect path => exact frame.bind (frame.endpoint_connect ep path) fun _ => frame.pure _
  | bind path => exact frame.bind (ep.readsNothing_bind path) fun _ => frame.pure _
  | accept => exact frame.endpoint_accept ep readsNothing_unbind
  | adopt d direction name =>
    exact frame.bind (frame.endpoint_adopt ep d direction name) fun _ => frame.pure _

/-- What a use hands over from the input and takes away. -/
def handed (ep : Endpoint) : Use → Bytes
  | .read max => (ep.read max).1
  | .readAll => ep.readAll.1
  | _ => []

/-- The limit after a use. -/
def limitAfter (ep : Endpoint) : Use → Nat
  | .setReadBufferSize bytes => bytes
  | _ => ep.readBufferSize

variable {config : PipeConfig} {ep ep' : Endpoint} {h h' : Host}

/-- Uses that do not read only take away what they hand over. -/
theorem input_perform (use : Use) (other : ∀ waits, use ≠ .service waits)
    (run : ep.perform use h = .ok ep' h') :
    ep.handed use ++ ep'.queues.input = ep.queues.input ∧ ep'.readBufferSize = ep.limitAfter use := by
  have kept {ep' : Endpoint} (queues : ep'.queues = ep.queues) :
      [] ++ ep'.queues.input = ep.queues.input ∧ ep'.readBufferSize = ep.readBufferSize := by
    rw [readBufferSize, queues]
    exact ⟨rfl, rfl⟩
  cases use with
  | write | peek | setReadBufferSize =>
    cases run
    exact ⟨rfl, rfl⟩
  | writeImmediately data =>
    obtain ⟨_, mid, _, last⟩ := Action.bind_ok.mp run
    cases last
    exact ⟨rfl, rfl⟩
  | read max =>
    cases run
    exact ⟨List.take_append_drop max _, rfl⟩
  | readAll =>
    cases run
    exact ⟨List.append_nil _, rfl⟩
  | service waits => exact absurd rfl (other waits)
  | close =>
    have closed := ep.close_fst h
    rw [Action.call_ok.mp run] at closed
    dsimp only at closed
    exact kept (by rw [closed])
  | connect path =>
    obtain ⟨⟨result, made⟩, mid, run, last⟩ := Action.bind_ok.mp run
    cases last
    exact kept (setUp_connect run).queues
  | bind path =>
    obtain ⟨⟨result, made⟩, mid, run, last⟩ := Action.bind_ok.mp run
    cases last
    exact kept (setUp_bind run).queues
  | accept => exact kept (setUp_accept run).queues
  | adopt d direction name =>
    obtain ⟨⟨result, made⟩, mid, run, last⟩ := Action.bind_ok.mp run
    cases last
    exact kept (setUp_adopt run).queues

/-- What a use does to the input, and by which calls. They are measured by what the
endpoint holds before. What the use hands over was at the front of the input, and what
its reads bring in goes behind. -/
structure Draws (ep : Endpoint) (size : Nat) (use : Use) (h : Host) (later : List Call) : Prop where
  calls : (Action.left (ep.perform use h)).calls = later ++ h.calls
  measured : Measured ep.inlet? size ep.readBufferSize ep.bytesAvailable later
  input : ∀ ep' h', ep.perform use h = .ok ep' h' →
    ep.handed use ++ ep'.queues.input = ep.queues.input ++ received later
  limit : ∀ ep' h', ep.perform use h = .ok ep' h' → ep'.readBufferSize = ep.limitAfter use

/-- Every use of an endpoint in order is as described, also one that ends the
program. -/
theorem Orderly.draws (orderly : ep.Orderly config) (use : Use) (h : Host) :
    ∃ later, ep.Draws config.ioSize use h later := by
  by_cases service : ∃ waits, use = .service waits
  · obtain ⟨waits, rfl⟩ := service
    obtain ⟨moved, waits', served, mid, run, _⟩ := ep.service_sound waits h orderly.sound
    have performed : ep.perform (.service waits) h = .ok served mid :=
      Action.bind_of_ok run
    obtain ⟨later, calls, measured, input, limit⟩ := service_fills orderly.sound
      (fun c w connected => (orderly.sized c connected).reader w) run
    refine ⟨later, ?_, measured, fun ep' h' same => ?_, fun ep' h' same => ?_⟩
    · rw [performed, Action.left, calls]
    · rw [performed] at same
      cases same
      exact input
    · rw [performed] at same
      cases same
      exact limit
  · have other (waits : WaitSet) : use ≠ .service waits := fun same => service ⟨waits, same⟩
    obtain ⟨later, calls, others⟩ := ep.readsNothing_perform use other h
    obtain ⟨measured, nothing⟩ := Measured.of_others others
    refine ⟨later, calls, measured, fun ep' h' run => ?_, fun ep' h' run => ?_⟩
    · rw [nothing, List.append_nil]
      exact (input_perform use other run).1
    · exact (input_perform use other run).2

theorem Draws.since {use : Use} {size : Nat} {later : List Call} (draws : ep.Draws size use h later) :
    (Action.left (ep.perform use h)).since h.calls = later :=
  since_eq draws.calls

end Endpoint

/-- What was done with an endpoint from some moment on: the bytes that it has handed
over, and the calls that its uses have made, with the latest first. -/
structure Intake where
  handed : Bytes := []
  calls : List Call := []

/-- A use is entered with the calls that it has made. -/
def Intake.enter (i : Intake) (ep : Endpoint) (use : Endpoint.Use) (later : List Call) : Intake :=
  { handed := i.handed ++ ep.handed use, calls := later ++ i.calls }

/-- The states of an endpoint that its uses lead to from some state, each with what is
entered on the way. Between two uses anything may have happened to the host. -/
inductive IntakeReach (start : Endpoint) : Intake → Endpoint → Prop
  | start : IntakeReach start {} start
  | use {i ep ep' h h'} (use : Endpoint.Use) : IntakeReach start i ep →
      ep.perform use h = .ok ep' h' →
      IntakeReach start (i.enter ep use (h'.since h.calls)) ep'

namespace IntakeReach

variable {config : PipeConfig} {start ep : Endpoint} {i : Intake}

theorem endpointReach (run : IntakeReach start i ep) (reach : EndpointReach config start) :
    EndpointReach config ep := by
  induction run with
  | start => exact reach
  | use use _ performed ih => exact .use use ih performed

/-- Along all uses, what is handed over comes from the front of what was held at the
start and has been received since. -/
theorem balance (run : IntakeReach start i ep) (reach : EndpointReach config start) :
    i.handed ++ ep.queues.input = start.queues.input ++ received i.calls := by
  induction run with
  | start => simp
  | @use i ep ep' h h' use before performed ih =>
    obtain ⟨later, draws⟩ := (before.endpointReach reach).orderly.draws use h
    have since := draws.since
    rw [performed, Action.left] at since
    simp only [Intake.enter, since, received_append, List.append_assoc]
    rw [draws.input _ _ performed, ← List.append_assoc, ih, List.append_assoc]

/-- What is peeked at comes next, whatever is done from then on. -/
theorem peeked (run : IntakeReach start i ep) (reach : EndpointReach config start) (max : Nat) :
    start.peek max <+: i.handed ++ ep.queues.input ∧
      (start.peek max).length = min max start.bytesAvailable := by
  refine ⟨?_, List.length_take⟩
  rw [run.balance reach]
  exact (List.take_prefix _ _).trans (List.prefix_append _ _)

end IntakeReach

/-- What becomes of the bytes that an endpoint receives. All that the reads of its
descriptors have brought in was handed over in order, or waits in the input. No use
reads from another descriptor than that of the present connection. What is peeked at
is as much as was asked for and is there, and is handed over next, whatever is done
with the endpoint from then on. -/
structure Intake.Conserves (i : Intake) (ep : Endpoint) : Prop where
  whole : i.handed ++ ep.queues.input = received i.calls
  own : ∀ use h, ∃ later, (Action.left (ep.perform use h)).calls = later ++ h.calls ∧
    ∀ d n result, .read d n result ∈ later → ep.inlet? = some d
  peek : ∀ later ep' max, IntakeReach ep later ep' →
    ep.peek max <+: later.handed ++ ep'.queues.input ∧
      (ep.peek max).length = min max ep.bytesAvailable
  peekInto : ∀ later ep' buffer, IntakeReach ep later ep' →
    (ep.peekInto buffer).2.take (ep.peekInto buffer).1 <+: later.handed ++ ep'.queues.input ∧
      (ep.peekInto buffer).1 = min buffer.length ep.bytesAvailable

/-- No byte that was received is lost, whatever is done with an endpoint: not by a
tick that fails, nor by a receive that is shortened or withdrawn, nor with a
connection. -/
theorem IntakeReach.conserves {config : PipeConfig} {i : Intake} {ep : Endpoint}
    (run : IntakeReach (.ofConfig config) i ep) : i.Conserves ep := by
  have reach := run.endpointReach .start
  refine ⟨by rw [run.balance .start]; rfl, fun use h => ?_,
    fun later ep' max further => further.peeked reach max, fun later ep' buffer further => ?_⟩
  · obtain ⟨later, draws⟩ := reach.orderly.draws use h
    exact ⟨later, draws.calls, fun d n result => draws.measured.reads⟩
  · have copied : (ep.peekInto buffer).2.take (ep.peekInto buffer).1 = ep.peek buffer.length :=
      List.take_left
    rw [copied]
    exact further.peeked reach buffer.length

/-- The intake and the endpoint after some uses in a row, if none of them ends the
program. -/
def Intake.enterAll : List Endpoint.Use → Intake → Endpoint → Host →
    Option (Intake × Endpoint × Host)
  | [], i, ep, h => some (i, ep, h)
  | use :: rest, i, ep, h =>
    match ep.perform use h with
    | .ok ep' h' => enterAll rest (i.enter ep use (h'.since h.calls)) ep' h'
    | .error _ _ => none

theorem IntakeReach.enterAll {start ep ep' : Endpoint} {i i' : Intake}
    {uses : List Endpoint.Use} {h h' : Host} (run : IntakeReach start i ep)
    (entered : Intake.enterAll uses i ep h = some (i', ep', h')) : IntakeReach start i' ep' := by
  induction uses generalizing i ep h with
  | nil =>
    cases entered
    exact run
  | cons use rest ih =>
    unfold Intake.enterAll at entered
    split at entered
    · rename_i done
      exact ih (.use use run done) entered
    · cases entered

/-- A host with two links, on which three and two bytes wait. The first has been
closed at its other end. -/
def twoInlets : Host :=
  { links := ⟨[("ended", ⟨8, { buffer := [1, 2, 3] }, { isOpen := false }⟩),
      ("open", ⟨8, { buffer := [4, 5] }, {}⟩)]⟩
    descriptors := [⟨0, ⟨"ended", .a⟩⟩, ⟨1, ⟨"open", .a⟩⟩]
    nextDescriptor := 2 }

/-- A service that takes three bytes and then fails at the end of the stream, and
another one on the next connection. -/
def twoInletUses : List Endpoint.Use :=
  [.adopt ⟨0, ⟨"ended", .a⟩⟩ .read "ended", .service {}, .read 1, .peek 1,
    .adopt ⟨1, ⟨"open", .a⟩⟩ .read "open", .service {}, .read 3]

theorem IntakeReach.conserves_twoInlets : ∃ i ep h,
    Intake.enterAll twoInletUses {} (.ofConfig {}) twoInlets = some (i, ep, h) ∧
      i.handed = [1, 2, 3, 4] ∧ ep.queues.input = [5] ∧
      i.handed ++ ep.queues.input = received i.calls := by
  have shown : (Intake.enterAll twoInletUses {} (.ofConfig {}) twoInlets).map (fun s =>
      (s.1.handed, s.2.1.queues.input)) = some ([1, 2, 3, 4], [5]) := by
    decide +kernel
  obtain ⟨⟨i, ep, h⟩, entered, shown⟩ := Option.map_eq_some_iff.mp shown
  simp only [Prod.mk.injEq] at shown
  obtain ⟨handed, input⟩ := shown
  have conserves := (IntakeReach.start.enterAll entered).conserves
  exact ⟨i, ep, h, entered, handed, input, conserves.whole⟩

end LocalPipe
