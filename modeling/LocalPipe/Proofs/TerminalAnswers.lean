import LocalPipe.Proofs.Answers
import LocalPipe.Proofs.Lifecycles
import LocalPipe.Proofs.ModeAccounts
import LocalPipe.Proofs.Quiescence

namespace LocalPipe

open Host

namespace Connection

/-- The failures of a tick, that of the receiving worker first. -/
def Tick.failures (t : Tick) : List (Direction × IoError) :=
  ((Reader.failure? t.read).map (Direction.read, ·)).toList ++
    ((Writer.failure? t.written).map (Direction.write, ·)).toList

/-- What the calls of a tick come to, up to some host. Each transfer asks for at least one
byte, and those that fail are what the tick has failed of. Each direction goes on until there
is no room, or nothing left, or until it is told that nothing goes for now, whatever becomes
of the other one. -/
structure Tried (c : Connection) (q : Queues) (h : Host) (t : Tick) (after : Host)
    (made : List Call) : Prop where
  calls : after.calls = made ++ h.calls
  asks : ∀ call ∈ made, ∀ dir, call.direction? = some dir → call.Asks dir c.transport.descriptor
  failures : LocalPipe.failures made = t.failures
  received : t.queues.input = q.input ++ inbound c.transport.descriptor made
  placed : ∃ dropped, c.unsent q = outbound c.transport.descriptor made ++ dropped ++
    t.connection.unsent t.queues ∧ ∀ w, t.written = .ok w → dropped = []
  receives : ∀ r, t.read = .ok r → c.reader = none ∨ t.queues.room = 0 ∨ Blocked .read made
  sends : ∀ w, t.written = .ok w →
    c.writer = none ∨ t.connection.unsent t.queues = [] ∨ Blocked .write made

/-- Each direction fails at most once in a tick. -/
theorem Tick.failures_once (t : Tick) : (t.failures.map Prod.fst).Nodup := by
  unfold failures
  cases Reader.failure? t.read <;> cases Writer.failure? t.written <;> simp

theorem Tick.read_or_fails (t : Tick) :
    (∃ r, t.read = .ok r) ∨ ∃ e, (Direction.read, e) ∈ t.failures := by
  cases read : t.read with
  | ok r => exact Or.inl ⟨r, rfl⟩
  | error e => exact Or.inr ⟨e, by simp [failures, read, Reader.failure?]⟩

theorem Tick.written_or_fails {t : Tick}
    (matched : ∀ sent issued, t.written ≠ .error (.sizeMismatch sent issued)) :
    (∃ w, t.written = .ok w) ∨ ∃ e, (Direction.write, e) ∈ t.failures := by
  cases written : t.written with
  | ok w => exact Or.inl ⟨w, rfl⟩
  | error failure =>
    cases failure with
    | sizeMismatch sent issued => exact absurd written (matched sent issued)
    | io e => exact Or.inr ⟨e, by simp [failures, written, Writer.failure?]⟩

variable {c : Connection} {q : Queues} {h : Host}

theorem tries_receiveHalf (sound : c.Sound) :
    h.Tries .read c.transport.descriptor (Reader.failure? (c.receiveHalf q h).read)
      (c.receiveHalf q h).host := by
  unfold receiveHalf
  split
  · rename_i w present
    exact (Reader.advance_run ⟨w, q, c.transport, h⟩ (sound.reader w present)).tries
  · exact .refl _

theorem tries_sendHalf (sends : ∀ w, c.writer = some w → w.Sends c.transport.sending) :
    h.Tries .write c.transport.descriptor (Writer.failure? (c.sendHalf q h).written)
      (c.sendHalf q h).host := by
  unfold sendHalf
  split
  · rename_i w present
    exact (Writer.advance_run ⟨w, q, c.transport, h⟩ (sends w present)).tries
  · exact .refl _

theorem paused_receiveHalf (sound : c.Sound) {r : Nat} (ok : (c.receiveHalf q h).read = .ok r) :
    c.reader = none ∨ (c.receiveHalf q h).queues.room = 0 ∨
      ∃ later, (c.receiveHalf q h).host.calls = later ++ h.calls ∧ Blocked .read later := by
  rcases (received_receiveHalf (q := q) (h := h) sound).paused r ok with
    missing | full | ⟨before, n, _, reads, waits⟩
  · exact Or.inl missing
  · exact Or.inr (Or.inl full)
  · obtain ⟨during, calls⟩ := reads.calls_suffix
    obtain ⟨later, calls', blocked⟩ := blocked_of_receive waits
    exact Or.inr (Or.inr ⟨later ++ during, by rw [calls', ← calls, List.append_assoc],
      blocked.before during⟩)

theorem paused_sendHalf (sends : ∀ w, c.writer = some w → w.Sends c.transport.sending) {w : Nat}
    (ok : (c.sendHalf q h).written = .ok w) :
    c.writer = none ∨ (c.sendHalf q h).connection.unsent (c.sendHalf q h).queues = [] ∨
      ∃ later, (c.sendHalf q h).host.calls = later ++ h.calls ∧ Blocked .write later := by
  unfold sendHalf at ok ⊢
  split at ok
  · rename_i worker present
    have advance := Writer.advance_spec ⟨worker, q, c.transport, h⟩ (sends worker present)
    rcases advance.paused w ok with nothing | ⟨mid, data, left, writes, waits⟩
    · exact Or.inr (Or.inl nothing)
    · obtain ⟨during, calls⟩ := writes.calls_suffix
      obtain ⟨later, calls', blocked⟩ := blocked_of_transmit waits
      exact Or.inr (Or.inr ⟨later ++ during, by rw [calls', ← calls, List.append_assoc],
        blocked.before during⟩)
  · rename_i missing
    exact Or.inl missing

/-- A tick receives, then sends, and each of its halves asks and fails for itself. -/
theorem tick_asks (sound : c.Sound) : ∃ early late : List Call,
    (c.tick q h).host.calls = late ++ (early ++ h.calls) ∧
      (∀ call ∈ early, call.Asks .read c.transport.descriptor) ∧
      (∀ call ∈ late, call.Asks .write c.transport.descriptor) ∧
      LocalPipe.failures (late ++ early) = (c.tick q h).failures ∧
      complaints (c.tick q h).host.events = complaints h.events ∧
      (∀ r, (c.tick q h).read = .ok r →
        c.reader = none ∨ (c.tick q h).queues.room = 0 ∨ Blocked .read early) ∧
      ∀ w, (c.tick q h).written = .ok w → c.writer = none ∨
        (c.tick q h).connection.unsent (c.tick q h).queues = [] ∨ Blocked .write late := by
  rw [tick_eq]
  dsimp only
  obtain ⟨_, transport, writer, _⟩ := receiveHalf_frame (q := q) (h := h) sound
  obtain ⟨sends, _⟩ := sends_receiveHalf (q := q) (h := h) sound
  have reading := tries_receiveHalf (q := q) (h := h) sound
  have receives := fun r ok => paused_receiveHalf (q := q) (h := h) (r := r) sound ok
  generalize c.receiveHalf q h = first at *
  have writing := tries_sendHalf (q := first.queues) (h := first.host) sends
  have placing := fun w ok =>
    paused_sendHalf (q := first.queues) (h := first.host) (w := w) sends ok
  obtain ⟨queues, _⟩ := sendHalf_frame (q := first.queues) (h := first.host) sends
  generalize first.connection.sendHalf first.queues first.host = second at *
  obtain ⟨early, calls, asks, fails⟩ := reading.calls
  obtain ⟨late, calls', asks', fails'⟩ := writing.calls
  have room : second.queues.room = first.queues.room := by rw [queues, Queues.room, Queues.room]
  rw [transport] at asks'
  refine ⟨early, late, by rw [calls', calls], asks, asks', ?_,
    writing.complaints.trans reading.complaints, fun r ok => ?_, fun w ok => ?_⟩
  · rw [failures_append, fails, fails']
    rfl
  · rcases receives r ok with missing | full | ⟨later, split, blocked⟩
    · exact Or.inl missing
    · exact Or.inr (Or.inl (room.trans full))
    · have same : early = later := List.append_cancel_right (calls.symm.trans split)
      exact Or.inr (Or.inr (same ▸ blocked))
  · rcases placing w ok with missing | nothing | ⟨later, split, blocked⟩
    · exact Or.inl (writer.symm.trans missing)
    · exact Or.inr (Or.inl nothing)
    · have same : late = later := List.append_cancel_right (calls'.symm.trans split)
      exact Or.inr (Or.inr (same ▸ blocked))

theorem tick_tried (sound : c.Sound) :
    (∃ made, c.Tried q h (c.tick q h) (c.tick q h).host made) ∧
      complaints (c.tick q h).host.events = complaints h.events := by
  have ticked := c.ticked (q := q) (h := h) sound
  obtain ⟨early, late, calls, asks, asks', fails, logged, receives, sends⟩ :=
    tick_asks (q := q) (h := h) sound
  generalize c.tick q h = t at *
  obtain ⟨mid, received, sent⟩ := ticked.halves
  obtain ⟨brought, input, grown⟩ := received.input
  obtain ⟨placed, dropped, split, grown', kept⟩ := sent.output
  rw [← List.append_assoc] at calls
  rw [← sent.writes.inbound_eq, calls, inbound_append, List.append_cancel_left_eq] at grown
  rw [received.reads.outbound_eq, calls, outbound_append, List.append_cancel_left_eq] at grown'
  refine ⟨⟨late ++ early, calls, fun call member dir way => ?_, fails, by rw [grown, input],
    ⟨dropped, by rw [grown', split], kept⟩, fun r ok => ?_, fun w ok => ?_⟩, logged⟩
  · rcases List.mem_append.mp member with latter | former
    · exact (asks' call latter).of_direction way
    · exact (asks call former).of_direction way
  · refine (receives r ok).imp_right (Or.imp_right fun blocked => blocked.after ?_)
    intro call member
    rw [(asks' call member).direction?]
    nofun
  · exact (sends w ok).imp_right (Or.imp_right fun blocked => blocked.before early)

/-- To let go of things afterwards moves no bytes, and fails of none. -/
theorem Tried.released {t : Tick} {after : Host} {made later : List Call}
    (tried : c.Tried q h t t.host made) (calls : after.calls = later ++ t.host.calls)
    (releases : ∀ call ∈ later, call.isRelease = true) :
    c.Tried q h t after (later ++ made) := by
  have still : ∀ call ∈ later, call.direction? = none ∧ call.failure? = none := by
    intro call member
    have release := releases call member
    cases call <;> first | exact ⟨rfl, rfl⟩ | cases release
  have quiet : t.host.Quiet after := LetsGo.quiet ⟨later, calls, releases⟩
  have came := quiet.inbound_eq c.transport.descriptor
  have went := quiet.outbound_eq c.transport.descriptor
  rw [calls, inbound_append, List.append_right_eq_self] at came
  rw [calls, outbound_append, List.append_right_eq_self] at went
  have none_failed : LocalPipe.failures later = [] := by
    rw [LocalPipe.failures, List.filterMap_eq_nil_iff]
    exact fun call member => (still call (List.mem_reverse.mp member)).2
  have apart (dir : Direction) : ∀ call ∈ later, call.direction? ≠ some dir := by
    intro call member
    rw [(still call member).1]
    exact (Option.some_ne_none dir).symm
  refine ⟨by rw [calls, tried.calls, List.append_assoc], fun call member dir way => ?_, ?_, ?_, ?_,
    fun r ok => ?_, fun w ok => ?_⟩
  · rcases List.mem_append.mp member with latter | former
    · exact absurd way (apart dir call latter)
    · exact tried.asks call former dir way
  · rw [failures_append, none_failed, List.append_nil, tried.failures]
  · rw [inbound_append, came, List.append_nil, tried.received]
  · rw [outbound_append, went, List.append_nil]
    exact tried.placed
  · exact (tried.receives r ok).imp_right (Or.imp_right fun blocked => blocked.after (apart .read))
  · exact (tried.sends w ok).imp_right (Or.imp_right fun blocked => blocked.after (apart .write))

end Connection

/-- What a closing transport lets go of last is its descriptor. -/
theorem Transport.calls_close (t : Transport) (h : Host) :
    ∃ mid : Host, h.LetsGo mid ∧ (t.close h).calls = .close t.descriptor :: mid.calls := by
  have mode := (h.releases_setMode t.descriptor false).calls
  unfold Transport.close
  split
  · split
    · rename_i answer
      rw [answer] at mode
      exact ⟨_, mode.trans (.of_calls rfl), Host.calls_close ..⟩
    · rename_i answer
      rw [answer] at mode
      exact ⟨_, mode, Host.calls_close ..⟩
  · exact ⟨h, .of_calls rfl, Host.calls_close ..⟩

namespace Endpoint

/-- An endpoint that is given up only lets go of things, among them its descriptor. -/
theorem calls_giveUp {ep : Endpoint} {c : Connection} (connected : ep.connection = some c)
    (errors : List IoError) (h : Host) :
    ∃ later, (ep.giveUp errors h).2.calls = later ++ h.calls ∧
      (∀ call ∈ later, call.isRelease = true) ∧ .close c.transport.descriptor ∈ later := by
  obtain ⟨events, logged⟩ := logAll_eq errors (.transferFailed ep.name) h
  obtain ⟨events', shut⟩ := close_connected connected { h with events }
  obtain ⟨mid, letsGo, calls⟩ :=
    c.transport.calls_close { (ep.unbind { h with events }).2 with events := events' }
  have unbound : Host.LetsGo h { (ep.unbind { h with events }).2 with events := events' } :=
    (ep.releases_unbind { h with events }).calls
  obtain ⟨later, calls', releases⟩ := unbound.trans letsGo
  refine ⟨.close c.transport.descriptor :: later, ?_, fun call member => ?_, List.mem_cons_self ..⟩
  · rw [giveUp, logged, shut, calls_log, calls, calls', List.cons_append]
  · rcases List.mem_cons.mp member with rfl | member
    · rfl
    · exact releases call member

/-- Service closes the endpoint if its tick has failed in some direction, with all that it
has failed of, and only then. -/
inductive Settled (ep : Endpoint) (t : Connection.Tick) : Bool × WaitSet × Endpoint → Host → Prop
  | kept {answer} {r w : Nat} : t.read = .ok r → t.written = .ok w → answer.2.2 = ep.ticked t →
      Settled ep t answer t.host
  | failed {waits} : t.failures ≠ [] → Settled ep t
      (true, waits, ((ep.ticked t).giveUp (t.failures.map Prod.snd) t.host).1)
      ((ep.ticked t).giveUp (t.failures.map Prod.snd) t.host).2

variable {ep ep' : Endpoint} {c : Connection} {h h' : Host} {waits waits' : WaitSet} {moved : Bool}

theorem Settled.of_failures {t : Connection.Tick} {errors : List IoError} (waits : WaitSet)
    (fails : t.failures.map Prod.snd = errors) (some_failed : errors ≠ []) :
    ep.Settled t (true, waits, ((ep.ticked t).giveUp errors t.host).1)
      ((ep.ticked t).giveUp errors t.host).2 := by
  subst fails
  exact .failed fun nothing => some_failed (by rw [nothing]; rfl)

theorem settled_of_run {answer : Bool × WaitSet × Endpoint} (connected : ep.connection = some c)
    (sound : c.Sound) (run : ep.service waits h = .ok answer h') :
    ep.Settled (c.tick ep.queues h) answer h' := by
  have matched := (c.ticked (q := ep.queues) (h := h) sound).sizes_match
  rw [service_settle waits connected] at run
  unfold settle at run
  generalize c.tick ep.queues h = t at *
  cases written : t.written with
  | ok w =>
    cases read : t.read with
    | ok r =>
      rw [read, written] at run
      cases run
      exact .kept read written rfl
    | error e =>
      rw [read, written] at run
      cases run
      exact .of_failures waits (by rw [Connection.Tick.failures, read, written]; rfl) (by simp)
  | error failure =>
    cases failure with
    | sizeMismatch sent issued => exact absurd written (matched sent issued)
    | io e' =>
      cases read : t.read with
      | ok r =>
        rw [read, written] at run
        cases run
        exact .of_failures waits (by rw [Connection.Tick.failures, read, written]; rfl) (by simp)
      | error e =>
        rw [read, written] at run
        cases run
        exact .of_failures waits (by rw [Connection.Tick.failures, read, written]; rfl) (by simp)

/-- What a service of a connected endpoint comes to by the answers to its calls. It closes
the endpoint if an answer to a transfer is a failure, and only then. Each transfer asks for at
least one byte, so that no byte is never the answer to an empty request. Each direction fails
at most once, which is logged, and a failure in one direction keeps nothing from the other. -/
structure Concludes (ep : Endpoint) (c : Connection) (h : Host) (moved : Bool) (ep' : Endpoint)
    (h' : Host) (made : List Call) : Prop where
  asks : ∀ call ∈ made, ∀ dir, call.direction? = some dir → call.Asks dir c.transport.descriptor
  closed_iff : ep'.connection = none ↔ ∃ call ∈ made, call.failure?.isSome = true
  once : ((failures made).map Prod.fst).Nodup
  logged : complaints h'.events =
    complaints h.events ++ (failures made).map fun failure => (ep.name, failure.2)
  received : ep'.queues.input = ep.queues.input ++ inbound c.transport.descriptor made
  receives : c.reader.isSome = true →
    ep'.queues.room = 0 ∨ Blocked .read made ∨ ∃ e, (.read, e) ∈ failures made
  placed : outbound c.transport.descriptor made <+: ep.unsent
  sends : c.writer.isSome = true → outbound c.transport.descriptor made = ep.unsent ∨
    Blocked .write made ∨ ∃ e, (.write, e) ∈ failures made
  closes : ep'.connection = none → moved = true ∧ .close c.transport.descriptor ∈ made

/-- The parts of it that do not depend on what the failures of a tick lead to. -/
theorem Concludes.of_tried {t : Connection.Tick} {made : List Call}
    (connected : ep.connection = some c) (tried : c.Tried ep.queues h t h' made)
    (matched : ∀ sent issued, t.written ≠ .error (.sizeMismatch sent issued))
    (queues : ep'.queues = t.queues)
    (closed_iff : ep'.connection = none ↔ t.failures ≠ [])
    (logged : complaints h'.events = complaints h.events ++ t.failures.map fun f => (ep.name, f.2))
    (closes : ep'.connection = none → moved = true ∧ .close c.transport.descriptor ∈ made) :
    ep.Concludes c h moved ep' h' made := by
  obtain ⟨dropped, split, kept⟩ := tried.placed
  have unsent : ep.unsent = c.unsent ep.queues := by
    rw [Endpoint.unsent, Endpoint.unaccepted, connected]
    rfl
  have failed : failures made ≠ [] ↔ ∃ call ∈ made, call.failure?.isSome = true := by
    simp [failures, List.filterMap_eq_nil_iff, Option.isSome_iff_ne_none]
  refine ⟨tried.asks, ?_, ?_, ?_, ?_, fun reads => ?_, ?_, fun writes => ?_, closes⟩
  · rw [closed_iff, ← tried.failures, failed]
  · rw [tried.failures]
    exact t.failures_once
  · rw [tried.failures]
    exact logged
  · rw [queues]
    exact tried.received
  · rw [queues, tried.failures]
    rcases t.read_or_fails with ⟨r, ok⟩ | fails
    · rcases tried.receives r ok with missing | stops
      · simp [missing] at reads
      · exact stops.imp_right Or.inl
    · exact Or.inr (Or.inr fails)
  · rw [unsent, split, List.append_assoc]
    exact List.prefix_append ..
  · rw [tried.failures, unsent]
    rcases Connection.Tick.written_or_fails matched with ⟨w, ok⟩ | fails
    · rcases tried.sends w ok with missing | nothing | blocked
      · simp [missing] at writes
      · left
        rw [split, kept w ok, nothing, List.append_nil, List.append_nil]
      · exact Or.inr (Or.inl blocked)
    · exact Or.inr (Or.inr fails)

theorem service_concludes (connected : ep.connection = some c) (sound : c.Sound)
    (run : ep.service waits h = .ok (moved, waits', ep') h') :
    ep.Concludes c h moved ep' h' (h'.since h.calls) := by
  have matched := (c.ticked (q := ep.queues) (h := h) sound).sizes_match
  have descriptor := (c.ticked (q := ep.queues) (h := h) sound).descriptor
  obtain ⟨⟨made, tried⟩, logged⟩ := Connection.tick_tried (q := ep.queues) (h := h) sound
  have settled := settled_of_run connected sound run
  generalize c.tick ep.queues h = t at *
  generalize finishes : (moved, waits', ep') = answer at settled
  cases settled with
  | @kept answer r w read written same =>
    subst finishes
    dsimp only at same
    subst same
    have unfailed : t.failures = [] := by rw [Connection.Tick.failures, read, written]; rfl
    rw [since_eq tried.calls]
    refine .of_tried connected tried matched rfl ?_ ?_ nofun
    · rw [unfailed]
      exact ⟨nofun, fun some_failed => absurd rfl some_failed⟩
    · rw [unfailed, logged]
      exact (List.append_nil _).symm
  | failed some_failed =>
    cases finishes
    have released := calls_giveUp (show (ep.ticked t).connection = _ from rfl)
      (t.failures.map Prod.snd) t.host
    have reported := (ep.ticked t).complaints_giveUp (t.failures.map Prod.snd) t.host
    have closed := (ep.ticked t).giveUp_fst (t.failures.map Prod.snd) t.host
    generalize (ep.ticked t).giveUp (t.failures.map Prod.snd) t.host = done at *
    obtain ⟨later, calls, releases, close⟩ := released
    rw [descriptor] at close
    have tried' := tried.released calls releases
    rw [since_eq tried'.calls]
    refine .of_tried connected tried' matched (by rw [closed]; rfl) ?_ ?_ fun _ =>
      ⟨rfl, List.mem_append_left _ close⟩
    · rw [closed]
      exact ⟨fun _ => some_failed, fun _ => rfl⟩
    · rw [reported, logged, List.map_map]
      rfl

/-- Uses that connect an endpoint, if they do not fail. -/
def Use.connects : Use → Bool
  | .connect _ | .accept | .adopt _ _ _ => true
  | _ => false

/-- The states that uses lead an endpoint to as long as none of them connects it. Between two
of them anything may have happened to the host. -/
inductive Unjoined (ep : Endpoint) : Endpoint → Prop
  | start : Unjoined ep ep
  | use {mid after : Endpoint} {h h' : Host} (use : Use) : Unjoined ep mid →
      mid.perform use h = .ok after h' → (use.connects = true → after.connection = none) →
      Unjoined ep after

theorem disconnected_of_early (early : ep.stage = .disconnected ∨ ep.stage = .bound) :
    ep.connection = none := by
  cases connected : ep.connection with
  | none => rfl
  | some c =>
    have late := late_of_connected (show ep.connection.isSome = true by rw [connected]; rfl)
    rcases early with first | first <;> simp [first] at late

theorem Stage.Leads.early {before after : Stage} {use : Use} (leads : before.Leads after use)
    (first : before = .disconnected ∨ before = .bound) (other : use.connects = false) :
    after = .disconnected ∨ after = .bound := by
  cases use with
  | connect | accept | adopt => cases other
  | bind => exact leads.2
  | close => exact Or.inl leads
  | service =>
    rcases leads with same | ⟨_, same⟩
    · rwa [same]
    · exact Or.inl same
  | write | writeImmediately | read | readAll | peek | setReadBufferSize =>
    rwa [show after = before from leads]

/-- A disconnected endpoint stays so as long as no use connects it. -/
theorem Unjoined.disconnected {after : Endpoint} (unjoined : ep.Unjoined after)
    (closed : ep.connection = none) : after.connection = none := by
  induction unjoined with
  | start => exact closed
  | use use _ run unconnected ih =>
    cases connects : use.connects with
    | true => exact unconnected connects
    | false =>
      have leads := leads_perform use (by simp [ih]) run
      exact disconnected_of_early (leads.early (early_of_disconnected ih) connects)

end Endpoint

/-- Whatever was done with a connected endpoint and whatever its host answers, service
returns and comes to what the answers to its transfers tell. Once it has closed the endpoint,
every later service reports no movement, makes no call and changes nothing, until the
endpoint is connected again. -/
theorem EndpointReach.concludes {config : PipeConfig} {ep : Endpoint} {c : Connection}
    (reach : EndpointReach config ep) (connected : ep.connection = some c) (waits : WaitSet)
    (h : Host) : ∃ moved waits' ep' h', ep.service waits h = .ok (moved, waits', ep') h' ∧
      ep.Concludes c h moved ep' h' (h'.since h.calls) ∧
      (ep'.connection = none → ∀ after, ep'.Unjoined after → ∀ waits₂ h₂,
        after.service waits₂ h₂ = .ok (false, waits₂, after) h₂) := by
  have sound := reach.orderly.sound
  obtain ⟨moved, waits', ep', h', run, _⟩ := ep.service_sound waits h sound
  exact ⟨moved, waits', ep', h', run, Endpoint.service_concludes connected (sound c connected) run,
    fun closed after unjoined waits₂ h₂ =>
      Endpoint.service_closed waits₂ (unjoined.disconnected closed)⟩

/-- The host once the peer has sent two bytes and closed its end. -/
def Host.abandoned (h : Host) : Host :=
  ((h.act (.send ⟨"peer", .b⟩ [104, 105])).2.act (.close ⟨"peer", .b⟩)).2

/-- A peer sends two bytes and closes its end while there is a byte to send. Both directions
fail, after the two bytes came in. Then nothing is served any more, whatever is written. -/
theorem EndpointReach.concludes_abandoned : ∃ ep c h waits ep' h', EndpointReach {} ep ∧
    ep.connection = some c ∧ ep.service {} h = .ok (true, waits, ep') h' ∧
    ep'.connection = none ∧ ep'.queues.input = [104, 105] ∧
    complaints h'.events = complaints h.events ++
      [(ep.name, .closedByPeer), (ep.name, .os .epipe)] ∧
    (ep'.write [2]).service {} h' = .ok (false, {}, ep'.write [2]) h' := by
  have served : Endpoint.servedCramped {} [.connect [115], .write [1]] Host.abandoned
      (fun ep h _ _ h' => ep.connection.map fun c =>
        ((h'.since h.calls).any (·.failure?.isSome), failures (h'.since h.calls),
          ep.queues.input ++ inbound c.transport.descriptor (h'.since h.calls))) =
      some (some (true, [(.read, .closedByPeer), (.write, .os .epipe)], [104, 105])) := by
    decide +kernel
  obtain ⟨ep, h, moved, waits, ep', h', reach, run, shown⟩ := Endpoint.of_servedCramped served
  obtain ⟨c, connected, shown⟩ := Option.map_eq_some_iff.mp shown
  obtain ⟨_, _, _, _, run', concludes, afterwards⟩ :=
    EndpointReach.concludes reach connected {} h
  cases run.symm.trans run'
  simp only [Prod.mk.injEq] at shown
  obtain ⟨fails, failed, came⟩ := shown
  have closed : ep'.connection = none := concludes.closed_iff.mpr (List.any_eq_true.mp fails)
  obtain ⟨rfl, _⟩ := concludes.closes closed
  have input := concludes.received
  have logged := concludes.logged
  rw [came] at input
  rw [failed] at logged
  have written : ep'.Unjoined (ep'.write [2]) :=
    .use (.write [2]) .start (show ep'.perform (.write [2]) h' = _ from rfl) nofun
  exact ⟨ep, c, h, waits, ep', h', reach, connected, run, closed, input, logged,
    afterwards closed _ written {} h'⟩

end LocalPipe
