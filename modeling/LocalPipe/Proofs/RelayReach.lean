import LocalPipe.Proofs.Actions
import LocalPipe.Proofs.Serving
import LocalPipe.Proofs.Waits
import LocalPipe.Relay

namespace LocalPipe

open Host

/-- The three endpoints of a relay. -/
structure Trio where
  conn : Endpoint
  source : Endpoint
  sink : Endpoint

namespace Trio

/-- The loop of a relay, with its endpoints in their places. -/
def toLoop (t : Trio) (exiting : Bool) : EventLoop :=
  { Relay.eventLoop t.conn t.source t.sink with exiting }

/-- Bytes go from one endpoint to another, as many as there is room for. -/
def handOver (limit : Nat) (origin destination : Endpoint) : Endpoint × Endpoint :=
  let (data, origin) := origin.read (Relay.roomAt limit (some destination))
  (origin, destination.write data)

/-- The endpoints once bytes were forwarded both ways. -/
def forwarded (limit : Nat) (t : Trio) : Trio :=
  let (source, conn) := handOver limit t.source t.conn
  let (conn, sink) := handOver limit conn t.sink
  { conn, source, sink }

/-- Whether a relay has nothing more to do. -/
def isFinished (config : PipeConfig) (t : Trio) : Bool :=
  (Relay.ofConfig config).isFinished (t.toLoop false)

/-- The endpoint in a place is serviced. -/
inductive Serves (waits : WaitSet) : Nat → Trio → Host → Bool → Trio → Host → Prop
  | conn {t h moved waits' ep h'} : t.conn.service waits h = .ok (moved, waits', ep) h' →
      Serves waits 0 t h moved { t with conn := ep } h'
  | source {t h moved waits' ep h'} : t.source.service waits h = .ok (moved, waits', ep) h' →
      Serves waits 1 t h moved { t with source := ep } h'
  | sink {t h moved waits' ep h'} : t.sink.service waits h = .ok (moved, waits', ep) h' →
      Serves waits 2 t h moved { t with sink := ep } h'

end Trio

/-- The states that a relay comes to, each with the place that is next and
whether the loop was told to stop. -/
inductive RelayReach (config : PipeConfig) (first : Trio) (h₀ : Host) :
    Nat → Bool → Trio → Host → Prop
  | start : RelayReach config first h₀ 0 false first h₀
  | rest {place exiting t t' h h' waits} : RelayReach config first h₀ place exiting t h →
      t.Serves waits place h false t' h' → RelayReach config first h₀ (place + 1) exiting t' h'
  | move {place exiting t t' h h' waits} (events : List LogEvent) :
      RelayReach config first h₀ place exiting t h → t.Serves waits place h true t' h' →
      RelayReach config first h₀ (place + 1)
        (exiting || (t'.forwarded config.readBufferSize).isFinished config)
        (t'.forwarded config.readBufferSize) { h' with events }
  | turn {t h h'} : RelayReach config first h₀ 3 false t h → h.Waits h' →
      RelayReach config first h₀ 0 false t h'

namespace Trio

theorem handOver_nothing {limit : Nat} {origin destination : Endpoint}
    (nothing : origin.peek (Relay.roomAt limit (some destination)) = []) :
    handOver limit origin destination = (origin, destination) := by
  have kept : origin.queues.input.drop (Relay.roomAt limit (some destination)) =
      origin.queues.input := by
    rcases List.take_eq_nil_iff.mp nothing with full | empty
    · rw [full, List.drop_zero]
    · rw [empty, List.drop_nil]
  simp only [handOver, Endpoint.read, nothing, kept, Endpoint.write, List.append_nil]

end Trio

namespace Relay

variable {config : PipeConfig} {t : Trio} {h h' : Host} {exiting : Bool}

theorem forward_run {lp : EventLoop} {origin destination : PipeId} {src dst : Endpoint}
    (limit : Nat) (from_origin : lp.get? origin = some src)
    (to_destination : lp.get? destination = some dst)
    (kept : (lp.set origin src).set destination dst = lp) :
    ∃ events, forward limit origin destination lp h =
      .ok ((lp.set origin (Trio.handOver limit src dst).1).set destination
        (Trio.handOver limit src dst).2) { h with events } := by
  unfold forward
  simp only [from_origin, to_destination]
  by_cases nothing : (src.read (roomAt limit (some dst))).1 = []
  · rw [if_pos nothing, Trio.handOver_nothing nothing, kept]
    exact ⟨h.events, rfl⟩
  · rw [if_neg nothing]
    exact ⟨_, rfl⟩

/-- The handler forwards both ways, logs that, and may tell the loop to
stop. -/
theorem handler_run (config : PipeConfig) (t : Trio) (exiting : Bool) (id : PipeId) (h : Host) :
    ∃ events, (ofConfig config).handler.onPipe id (t.toLoop exiting) () h =
      .ok ((t.forwarded config.readBufferSize).toLoop
        (exiting || (t.forwarded config.readBufferSize).isFinished config), ())
        { h with events } := by
  obtain ⟨events, up⟩ := @forward_run h (t.toLoop exiting) ⟨1⟩ ⟨0⟩ t.source t.conn
    config.readBufferSize rfl rfl rfl
  let up' := Trio.handOver config.readBufferSize t.source t.conn
  let between : Trio := { t with conn := up'.2, source := up'.1 }
  obtain ⟨events', down⟩ := @forward_run { h with events } (between.toLoop exiting) ⟨0⟩ ⟨2⟩
    between.conn between.sink config.readBufferSize rfl rfl rfl
  refine ⟨events', ?_⟩
  have ran : (ofConfig config).handler.onPipe id (t.toLoop exiting) () h =
      .ok (if (ofConfig config).isFinished ((t.forwarded config.readBufferSize).toLoop exiting) then
        ((t.forwarded config.readBufferSize).toLoop exiting).shutdown else
        (t.forwarded config.readBufferSize).toLoop exiting, ()) { h with events := events' } := by
    simp only [handler, ofConfig]
    rw [Action.bind_of_ok up]
    refine (Action.bind_of_ok down).trans ?_
    rfl
  rw [ran, show (ofConfig config).isFinished ((t.forwarded config.readBufferSize).toLoop exiting) =
    (t.forwarded config.readBufferSize).isFinished config from rfl]
  cases (t.forwarded config.readBufferSize).isFinished config with
  | true =>
    rw [if_pos rfl, Bool.or_true]
    rfl
  | false =>
    rw [if_neg (by simp), Bool.or_false]

end Relay

open EventLoop

/-- A loop over the three endpoints at some place of a tick. -/
def Trio.running (t : Trio) (exiting : Bool) (place : Nat) (waits : WaitSet) (acted : Bool)
    (lastTimeout : Nat) : Running Unit :=
  { eventLoop := t.toLoop exiting, state := (), place, waits, acted, lastTimeout }

/-- The connections of three endpoints agree with their workers. -/
structure Trio.Sound (t : Trio) : Prop where
  conn : ∀ c, t.conn.connection = some c → c.Sound
  source : ∀ c, t.source.connection = some c → c.Sound
  sink : ∀ c, t.sink.connection = some c → c.Sound

theorem Trio.Sound.forwarded {t : Trio} (sound : t.Sound) (limit : Nat) :
    (t.forwarded limit).Sound :=
  ⟨sound.conn, sound.source, sound.sink⟩

theorem Trio.Serves.sound {waits : WaitSet} {place : Nat} {t t' : Trio} {h h' : Host} {moved : Bool}
    (serves : t.Serves waits place h moved t' h') (sound : t.Sound) : t'.Sound := by
  cases serves with
  | conn run =>
    obtain ⟨_, _, _, _, run', kept⟩ := t.conn.service_sound waits h sound.conn
    rw [run] at run'
    cases run'
    exact ⟨kept, sound.source, sound.sink⟩
  | source run =>
    obtain ⟨_, _, _, _, run', kept⟩ := t.source.service_sound waits h sound.source
    rw [run] at run'
    cases run'
    exact ⟨sound.conn, kept, sound.sink⟩
  | sink run =>
    obtain ⟨_, _, _, _, run', kept⟩ := t.sink.service_sound waits h sound.sink
    rw [run] at run'
    cases run'
    exact ⟨sound.conn, sound.source, kept⟩

variable {config : PipeConfig} {first : Trio} {h₀ : Host}

theorem RelayReach.sound {place : Nat} {exiting : Bool} {t : Trio} {h : Host}
    (reach : RelayReach config first h₀ place exiting t h) (sound : first.Sound) : t.Sound := by
  induction reach with
  | start => exact sound
  | rest _ serves ih => exact serves.sound ih
  | move _ _ serves ih => exact (serves.sound ih).forwarded _
  | turn _ _ ih => exact ih

theorem RelayReach.place_le {place : Nat} {exiting : Bool} {t : Trio} {h : Host}
    (reach : RelayReach config first h₀ place exiting t h) : place ≤ 3 := by
  cases reach with
  | start => omega
  | rest _ serves => cases serves <;> omega
  | move _ _ serves => cases serves <;> omega
  | turn => omega

/-- How a step of a relay's loop may end: it goes on, it stops after a tick in
which the loop was told to, or it ends in a wait that fails. -/
inductive RelayReach.Stepped (config : PipeConfig) (first : Trio) (h₀ : Host) (place : Nat)
    (exiting : Bool) (t : Trio) (h : Host) : EStateM.Result Fatal Host (Progress Unit) → Prop
  | running {place' exiting' t' waits acted lastTimeout h'} :
      RelayReach config first h₀ place' exiting' t' h' → Stepped config first h₀ place exiting t h
        (.ok (.running (t'.running exiting' place' waits acted lastTimeout)) h')
  | finished : place = 3 → exiting = true →
      Stepped config first h₀ place exiting t h (.ok (.finished (.ok ()) (t.toLoop true) ()) h)
  | refused {e h'} : h.Waits h' → Stepped config first h₀ place exiting t h
      (.ok (.finished (.error e) (t.toLoop exiting) ()) h')
  | fatal {condition h'} : h.Quiet h' → Stepped config first h₀ place exiting t h
      (.error condition h')

theorem servicePlace_run {t t' : Trio} {ep ep' : Endpoint} {exiting moved : Bool} {place : Nat}
    {waits waits' : WaitSet} {h h' : Host} (acted : Bool) (lastTimeout : Nat)
    (run : ep.service waits h = .ok (moved, waits', ep') h')
    (changed : (t.toLoop exiting).set ⟨place⟩ ep' = t'.toLoop exiting) :
    ∃ events, (t.running exiting place waits acted lastTimeout).servicePlace
        (Relay.ofConfig config).handler ep h =
      if moved then
        .ok ((t'.forwarded config.readBufferSize).running
          (exiting || (t'.forwarded config.readBufferSize).isFinished config) (place + 1) waits'
          true lastTimeout) { h' with events }
      else .ok (t'.running exiting (place + 1) waits' acted lastTimeout) h' := by
  obtain ⟨events, handled⟩ := Relay.handler_run config t' exiting ⟨place⟩ h'
  refine ⟨events, ?_⟩
  refine (Action.bind_of_ok run).trans ?_
  dsimp only [Trio.running]
  rw [changed]
  cases moved with
  | true =>
    rw [if_pos rfl, if_pos rfl]
    exact Action.bind_of_ok handled
  | false => rfl

theorem RelayReach.stepped_serve {t t' : Trio} {ep ep' : Endpoint} {exiting moved : Bool}
    {place : Nat} {waits waits' : WaitSet} {h h' : Host} (acted : Bool) (lastTimeout : Nat)
    (reach : RelayReach config first h₀ place exiting t h)
    (here : (t.toLoop exiting).pipes[place]? = some (some ep))
    (run : ep.service waits h = .ok (moved, waits', ep') h')
    (changed : (t.toLoop exiting).set ⟨place⟩ ep' = t'.toLoop exiting)
    (serves : t.Serves waits place h moved t' h') :
    RelayReach.Stepped config first h₀ place exiting t h
      ((t.running exiting place waits acted lastTimeout).step (Relay.ofConfig config).handler h) := by
  obtain ⟨events, served⟩ := @servicePlace_run config _ _ _ _ exiting moved _ _ _ _ _ acted
    lastTimeout run changed
  have step : (t.running exiting place waits acted lastTimeout).step
      (Relay.ofConfig config).handler h =
      ((t.running exiting place waits acted lastTimeout).servicePlace
        (Relay.ofConfig config).handler ep >>= fun run => pure (.running run)) h := by
    unfold Running.step
    rw [show (t.running exiting place waits acted lastTimeout).eventLoop.pipes[
      (t.running exiting place waits acted lastTimeout).place]? = some (some ep) from here]
  rw [step]
  cases moved with
  | true =>
    rw [if_pos rfl] at served
    rw [Action.bind_of_ok served]
    exact .running (.move events reach serves)
  | false =>
    rw [if_neg (by simp)] at served
    rw [Action.bind_of_ok served]
    exact .running (.rest reach serves)

theorem wait_run (t : Trio) (handle : WaitHandle) (rest : List WaitHandle) (lastTimeout : Nat)
    (h : Host) :
    (t.running false 3 ⟨handle :: rest⟩ false lastTimeout).wait h =
      (match (WaitSet.wait ⟨handle :: rest⟩ none
          (h.log (.waiting (handle :: rest).length none))).1 with
      | .error e => pure (.finished (.error e) (t.toLoop false) ())
      | .ok _ => pure (.running (t.running false 0 {} false lastTimeout)) :
        Action (Progress Unit)) (WaitSet.wait ⟨handle :: rest⟩ none
          (h.log (.waiting (handle :: rest).length none))).2 :=
  rfl

/-- The end of a tick: the next one begins, or the loop stops, or it waits
first. -/
theorem RelayReach.stepped_end {t : Trio} {exiting : Bool} {h : Host} (waits : WaitSet)
    (acted : Bool) (lastTimeout : Nat) (reach : RelayReach config first h₀ 3 exiting t h) :
    RelayReach.Stepped config first h₀ 3 exiting t h
      ((t.running exiting 3 waits acted lastTimeout).step (Relay.ofConfig config).handler h) := by
  have step : (t.running exiting 3 waits acted lastTimeout).step (Relay.ofConfig config).handler h =
      (if acted || exiting then pure (t.running exiting 3 waits acted lastTimeout).beginTick
        else (t.running exiting 3 waits acted lastTimeout).wait : Action (Progress Unit)) h := rfl
  rw [step]
  cases exiting with
  | true =>
    rw [if_pos (by simp)]
    exact .finished rfl rfl
  | false =>
    cases acted with
    | true => exact .running (.turn reach .start)
    | false =>
      rw [if_neg (by simp)]
      obtain ⟨handles⟩ := waits
      cases handles with
      | nil =>
        have ends : (t.running false 3 ⟨[]⟩ false lastTimeout).wait h =
            .error .nothingToWaitFor (h.log (.fatal .nothingToWaitFor)) := rfl
        rw [ends]
        exact .fatal (.of_calls rfl)
      | cons handle rest =>
        let logged := h.log (.waiting (handle :: rest).length none)
        have idle : h.Waits logged := .of_idles (.of_frame rfl rfl rfl rfl (List.Subset.refl _))
        have waits := idle.trans (waits_wait logged ⟨handle :: rest⟩ none)
        rw [wait_run]
        cases (WaitSet.wait ⟨handle :: rest⟩ none logged).1 with
        | error e => exact .refused waits
        | ok n => exact .running (.turn reach waits)

/-- Every step of a relay's loop is as described. -/
theorem RelayReach.stepped {place : Nat} {exiting : Bool} {t : Trio} {h : Host}
    (reach : RelayReach config first h₀ place exiting t h) (sound : first.Sound) (waits : WaitSet)
    (acted : Bool) (lastTimeout : Nat) :
    RelayReach.Stepped config first h₀ place exiting t h
      ((t.running exiting place waits acted lastTimeout).step
        (Relay.ofConfig config).handler h) := by
  have now := reach.sound sound
  have within := reach.place_le
  match place, within with
  | 0, _ =>
    obtain ⟨_, _, _, _, run, _⟩ := t.conn.service_sound waits h now.conn
    exact reach.stepped_serve acted lastTimeout rfl run rfl (.conn run)
  | 1, _ =>
    obtain ⟨_, _, _, _, run, _⟩ := t.source.service_sound waits h now.source
    exact reach.stepped_serve acted lastTimeout rfl run rfl (.source run)
  | 2, _ =>
    obtain ⟨_, _, _, _, run, _⟩ := t.sink.service_sound waits h now.sink
    exact reach.stepped_serve acted lastTimeout rfl run rfl (.sink run)
  | 3, _ => exact reach.stepped_end waits acted lastTimeout

/-- What a run of a relay's loop comes to, from a state that it reaches. -/
inductive RelayReach.Ended (config : PipeConfig) (first : Trio) (h₀ : Host) :
    EStateM.Result Fatal Host (Option (Except IoError Unit × EventLoop × Unit)) → Prop
  | running {place exiting t h} : RelayReach config first h₀ place exiting t h →
      Ended config first h₀ (.ok none h)
  | finished {t h} : RelayReach config first h₀ 3 true t h →
      Ended config first h₀ (.ok (some (.ok (), t.toLoop true, ())) h)
  | refused {place exiting t h e h'} : RelayReach config first h₀ place exiting t h → h.Waits h' →
      Ended config first h₀ (.ok (some (.error e, t.toLoop exiting, ())) h')
  | fatal {place exiting t h condition h'} : RelayReach config first h₀ place exiting t h →
      h.Quiet h' → Ended config first h₀ (.error condition h')

theorem RelayReach.iterate {place : Nat} {exiting : Bool} {t : Trio} {h : Host} (fuel : Nat)
    (reach : RelayReach config first h₀ place exiting t h) (sound : first.Sound) (waits : WaitSet)
    (acted : Bool) (lastTimeout : Nat) :
    RelayReach.Ended config first h₀ (EventLoop.iterate (Relay.ofConfig config).handler fuel
      (.running (t.running exiting place waits acted lastTimeout)) h) := by
  induction fuel generalizing place exiting acted t h waits lastTimeout with
  | zero => exact .running reach
  | succ fuel ih =>
    have stepped := reach.stepped sound waits acted lastTimeout
    unfold EventLoop.iterate
    simp only [bind, EStateM.bind]
    generalize (t.running exiting place waits acted lastTimeout).step
      (Relay.ofConfig config).handler h = result at *
    cases stepped with
    | running reach' => exact ih reach' _ _ _
    | finished last told =>
      subst last
      subst told
      -- a loop that has stopped takes no further steps, whatever fuel is left
      cases fuel <;> exact .finished reach
    | refused waited => cases fuel <;> exact .refused reach waited
    | fatal quiet => exact .fatal reach quiet

/-- Every run of a relay's loop, with whatever fuel, ends in a state as
described. -/
theorem RelayReach.run (fuel : Nat) (sound : first.Sound) :
    RelayReach.Ended config first h₀
      ((first.toLoop false).run (Relay.ofConfig config).handler fuel () h₀) :=
  RelayReach.iterate fuel .start sound {} false h₀.now

end LocalPipe
