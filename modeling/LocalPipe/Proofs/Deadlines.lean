import LocalPipe.CommandLine.Reading
import LocalPipe.Proofs.BoundedWaits
import LocalPipe.Proofs.Lifecycles
import LocalPipe.Proofs.Modes

namespace LocalPipe

namespace Duration

variable {d : Duration} {now : Nat}

/-- The clock can hold the end of a wait that begins now. -/
def Fits (d : Duration) (now : Nat) : Prop :=
  now + d.nanos < 9223372036854775808 * 1000000000

instance (d : Duration) (now : Nat) : Decidable (d.Fits now) :=
  inferInstanceAs (Decidable (_ < _))

theorem fits_iff : d.Fits now ↔ ∃ moment, d.deadline? now = some moment := by
  rw [Fits, ← Nat.div_lt_iff_lt_mul (by decide)]
  unfold deadline?
  split
  · rename_i within
    exact ⟨fun _ => ⟨_, rfl⟩, fun _ => within⟩
  · rename_i beyond
    exact ⟨fun within => absurd within beyond, nofun⟩

theorem not_fits_iff : ¬ d.Fits now ↔ d.deadline? now = none := by
  rw [fits_iff, ← Option.isSome_iff_exists, Option.not_isSome_iff_eq_none]

/-- Whole seconds fit if those that the clock shows leave room for them. -/
theorem fits_ofSeconds_iff (seconds : Nat) :
    (ofSeconds seconds).Fits now ↔ now / 1000000000 + seconds < 9223372036854775808 := by
  simp only [Fits, ofSeconds, ofParts]
  omega

end Duration

open Host

variable {h h' : Host} {ep ep' : Endpoint} {data : Bytes}

/-- A listener is made non-blocking, and the clock can hold the moment up to which an accept
then waits. -/
structure Host.BeginsWait (h : Host) (timeout : Duration) (moment : Nat) (mid : Host) : Prop where
  made : h.setListenerMode = (.ok (), mid)
  representable : timeout.deadline? mid.now = some moment

/-- A peer waits at a listener, and no call that it takes to attach it fails, but that accepts
may be interrupted. -/
structure Host.Admits (h : Host) (listener : Nat) : Prop where
  waits : h.hasPeer listener = true
  modes : ∀ outcome ∈ h.outcomesAhead .listenerMode, outcome = none
  accepts : ∀ e, some e ∈ h.outcomesAhead .accept → e = .eintr
  free : h.ModesFree

/-- A peer that waits is taken, by a descriptor that can be taken over. -/
theorem Host.Admits.taken {listener moment : Nat} {timeout : Duration} {mid : Host}
    (admits : h.Admits listener) (begins : h.BeginsWait timeout moment mid) :
    ∃ d last, acceptUntil listener moment mid = (.ok d, last) ∧ last.ModesFree := by
  obtain ⟨_, makes, tarries, _⟩ := setListenerMode_of_free admits.modes
  rw [begins.made] at makes
  cases makes
  have waits := (hasPeer_congr tarries.doors).trans admits.waits
  have ahead e member := admits.accepts e ((tarries.outcomes .accept).subset member)
  obtain ⟨d, last, taken, outcomes⟩ := acceptUntil_hasPeer waits ahead
  have free : last.ModesFree :=
    admits.free.of_suffix fun point => (outcomes point).trans (tarries.outcomes point)
  exact ⟨d, last, taken, free⟩

/-- A descriptor is taken over if no call about its mode fails. -/
theorem Transport.adopt_of_free (free : h.ModesFree) (d : Descriptor) :
    ∃ t, (Transport.adopt d h).1 = .ok t := by
  have asks := getMode_ok free d
  have asked := (h.releases_getMode d fun _ => False).outcomes
  unfold Transport.adopt
  split
  · rename_i answer
    rw [answer] at asks
    cases asks
  · exact ⟨_, rfl⟩
  · rename_i answer
    rw [answer] at asked
    have sets := setMode_ok (free.of_suffix asked) d true
    split
    · rename_i answer'
      rw [answer'] at sets
      cases sets
    · exact ⟨_, rfl⟩

/-- Bytes that go through without a wait go through before any deadline. -/
theorem Transport.transmitUntil_of_complete {d : Descriptor} {moment : Nat}
    (done : (transmit d data h).1 = .complete ()) :
    (transmitUntil d moment data h).1 = .ok 0 := by
  fun_induction transmit d data h with
  | case1 h => rw [transmitUntil, if_pos rfl]
  | case3 data h some_left n h' answer ih =>
    rw [transmitUntil, if_neg some_left]
    split <;> (rename_i answer'; rw [answer] at answer'; cases answer')
    exact ih done
  | case5 data h some_left h' answer ih =>
    rw [transmitUntil, if_neg some_left]
    split <;> (rename_i answer'; rw [answer] at answer'; cases answer')
    · exact ih done
    · rename_i uninterrupted
      exact (uninterrupted rfl).elim
  | case2 | case4 | case6 => cases done

namespace Endpoint

/-- An accept by a bound endpoint returns once it has taken over a peer, or it is fatal. -/
inductive AcceptEnds (ep : Endpoint) (listener : Nat) (h : Host) :
    EStateM.Result Fatal Host Endpoint → Prop
  | overflow {mid : Host} : h.setListenerMode = (.ok (), mid) →
      ep.config.acceptTimeout.deadline? mid.now = none →
      AcceptEnds ep listener h (.error .deadlineOverflow mid)
  | blocking {e : Errno} {mid last : Host} : h.setListenerMode = (.error e, mid) →
      AcceptEnds ep listener h (.error (.acceptFailed ep.name (.os e)) last)
  | refused {moment : Nat} {e : IoError} {mid h' last : Host} :
      h.BeginsWait ep.config.acceptTimeout moment mid →
      acceptUntil listener moment mid = (.error e, h') →
      AcceptEnds ep listener h (.error (.acceptFailed ep.name e) last)
  | dropped {moment : Nat} {d : Descriptor} {e : IoError} {mid h' last : Host} :
      h.BeginsWait ep.config.acceptTimeout moment mid →
      acceptUntil listener moment mid = (.ok d, h') →
      (Transport.adopt d ((ep.unbind h').2.log (.acceptedPeer ep.name))).1 = .error e →
      AcceptEnds ep listener h (.error (.acceptFailed ep.name e) last)
  | connected {moment : Nat} {d : Descriptor} {mid h' last : Host} {ep' : Endpoint} :
      h.BeginsWait ep.config.acceptTimeout moment mid →
      acceptUntil listener moment mid = (.ok d, h') →
      ep'.connection.isSome = true → ep'.listener = none → AcceptEnds ep listener h (.ok ep' last)

/-- A write at once returns once it is whole, or it is fatal. -/
inductive WriteEnds (ep : Endpoint) (d : Descriptor) (data : Bytes) (h : Host) :
    EStateM.Result Fatal Host Unit → Prop
  | overflow : ep.config.writeTimeout.deadline? h.now = none →
      WriteEnds ep d data h (.error .deadlineOverflow h)
  | failed {moment : Nat} {e : IoError} {h' last : Host} :
      ep.config.writeTimeout.deadline? h.now = some moment →
      Transport.transmitUntil d moment data h = (.error e, h') →
      WriteEnds ep d data h (.error (.writeFailed ep.name e) last)
  | short {moment left : Nat} {h' last : Host} :
      ep.config.writeTimeout.deadline? h.now = some moment →
      Transport.transmitUntil d moment data h = (.ok left, h') →
      data.length - left < data.length →
      WriteEnds ep d data h (.error (.writeCutShort ep.name (data.length - left) data.length) last)
  | whole {moment left : Nat} {h' : Host} :
      ep.config.writeTimeout.deadline? h.now = some moment →
      Transport.transmitUntil d moment data h = (.ok left, h') →
      data.length - left = data.length → WriteEnds ep d data h (.ok () h')

section Accept

variable {bound : Bound} (disconnected : ep.connection = none) (listens : ep.listener = some bound)

include disconnected listens

theorem accept_of_fatal {condition : Fatal}
    (waits : acceptWithin bound.listener ep.config.acceptTimeout h = .error condition h') :
    ep.accept h = .error condition h' := by
  rw [accept, Action.bind_of_ok (requireDisconnected_of_none disconnected), listens]
  exact Action.bind_of_error waits

theorem accept_of_error {e : IoError}
    (waits : acceptWithin bound.listener ep.config.acceptTimeout h = .ok (.error e) h') :
    ∃ last, ep.accept h = .error (.acceptFailed ep.name e) last := by
  rw [accept, Action.bind_of_ok (requireDisconnected_of_none disconnected), listens]
  exact ⟨_, (Action.bind_of_ok waits).trans rfl⟩

/-- What is left to do once a peer is accepted is to take it over. -/
theorem accept_of_ok {d : Descriptor} {last : Host}
    (waits : acceptWithin bound.listener ep.config.acceptTimeout h = .ok (.ok d) last) :
    ep.accept h =
      match (ep.unbind last).1.attach d true true
          ((ep.unbind last).2.log (.acceptedPeer (ep.unbind last).1.name)) with
      | (.error e, ep', h') => Action.fatal (.acceptFailed ep'.name e) h'
      | (.ok (), ep', h') => .ok ep' h' := by
  rw [accept, Action.bind_of_ok (requireDisconnected_of_none disconnected), listens]
  refine (Action.bind_of_ok waits).trans ?_
  refine (Action.bind_of_ok (x := Action.call ep.unbind) rfl).trans ?_
  refine (Action.bind_of_ok (x := Action.log _) rfl).trans ?_
  refine (Action.bind_of_ok (x := Action.call _) rfl).trans ?_
  dsimp only
  generalize (ep.unbind last).1.attach d true true _ = step
  obtain ⟨answer, ep', h'⟩ := step
  cases answer <;> rfl

theorem accept_ends (h : Host) : ep.AcceptEnds bound.listener h (ep.accept h) := by
  obtain ⟨answer, mid, made⟩ : ∃ answer mid, h.setListenerMode = (answer, mid) := ⟨_, _, rfl⟩
  cases answer with
  | error e =>
    have waits : acceptWithin bound.listener ep.config.acceptTimeout h =
        .ok (.error (.os e)) mid := by
      rw [acceptWithin, Action.bind_of_ok (Action.call_ok.mpr made)]
      rfl
    obtain ⟨last, run⟩ := accept_of_error disconnected listens waits
    rw [run]
    exact .blocking made
  | ok =>
    cases representable : ep.config.acceptTimeout.deadline? mid.now with
    | none =>
      have waits : acceptWithin bound.listener ep.config.acceptTimeout h =
          .error .deadlineOverflow mid := by
        rw [acceptWithin, Action.bind_of_ok (Action.call_ok.mpr made)]
        exact Action.bind_of_error (Action.deadline_of_none representable)
      rw [accept_of_fatal disconnected listens waits]
      exact .overflow made representable
    | some moment =>
      have waits := acceptWithin_of_some bound.listener made representable
      obtain ⟨answer, last, until_then⟩ :
        ∃ answer last, acceptUntil bound.listener moment mid = (answer, last) := ⟨_, _, rfl⟩
      rw [until_then] at waits
      cases answer with
      | error e =>
        obtain ⟨_, run⟩ := accept_of_error disconnected listens waits
        rw [run]
        exact .refused ⟨made, representable⟩ until_then
      | ok d =>
        rw [accept_of_ok disconnected listens waits, ep.unbind_fst last]
        generalize attached : attach _ d true true _ = step
        obtain ⟨answer, ep', h'⟩ := step
        cases answer with
        | error e =>
          unfold attach at attached
          split at attached
          · rename_i adopted
            cases attached
            exact .dropped ⟨made, representable⟩ until_then (by rw [adopted])
          · cases attached
        | ok =>
          obtain ⟨⟨c, rfl, _⟩, _⟩ := attach_fresh attached
          exact .connected ⟨made, representable⟩ until_then rfl rfl

end Accept

theorem write_ends {c : Connection} {w : Worker} (connected : ep.connection = some c)
    (present : c.writer = some w) (idle : w.isPending = false) (data : Bytes) (h : Host) :
    ep.WriteEnds c.transport.descriptor data h (ep.writeImmediately data h) := by
  simp only [writeImmediately, connected, present]
  rw [if_neg (by rw [idle]; decide)]
  cases representable : ep.config.writeTimeout.deadline? h.now with
  | none =>
    have waits : c.transport.writeBlocking data ep.config.writeTimeout h =
        .error .deadlineOverflow h :=
      Action.bind_of_error (Action.deadline_of_none representable)
    rw [Action.bind_of_error waits]
    exact .overflow representable
  | some moment =>
    have waits := c.transport.writeBlocking_of_some data representable
    obtain ⟨answer, last, until_then⟩ : ∃ answer last,
      Transport.transmitUntil c.transport.descriptor moment data h = (answer, last) := ⟨_, _, rfl⟩
    rw [until_then] at waits
    rw [Action.bind_of_ok waits]
    cases answer with
    | error e => exact .failed representable until_then
    | ok left =>
      by_cases whole : data.length - left = data.length
      · simp only [Except.map, if_neg (not_not_intro whole)]
        exact .whole representable until_then whole
      · simp only [Except.map, if_pos whole]
        exact .short representable until_then (by omega)

/-- An accept is given up for the range of the clock alone just if the end of its timeout is
beyond that. Else it takes a peer that waits, and it ends only as accepts may. -/
structure AcceptsInRange (ep : Endpoint) (listener : Nat) (h : Host) : Prop where
  overflows_iff : (∃ h', ep.accept h = .error .deadlineOverflow h') ↔
    h.setListenerMode.1 = .ok () ∧ ¬ ep.config.acceptTimeout.Fits h.now
  takes : ep.config.acceptTimeout.Fits h.now → h.Admits listener →
    ∃ ep' h', ep.accept h = .ok ep' h' ∧ ep'.connection.isSome = true ∧ ep'.listener = none
  fails : ∀ condition h', ep.accept h = .error condition h' →
    condition = .deadlineOverflow ∨ ∃ e, condition = .acceptFailed ep.name e

/-- A write at once is given up for the range of the clock alone just if the end of its timeout
is beyond that. Else it writes what can be written without a wait, and it ends only as writes
may. -/
structure WritesInRange (ep : Endpoint) (d : Descriptor) (data : Bytes) (h : Host) : Prop where
  overflows_iff : (∃ h', ep.writeImmediately data h = .error .deadlineOverflow h') ↔
    ¬ ep.config.writeTimeout.Fits h.now
  writes : ep.config.writeTimeout.Fits h.now → (transmit d data h).1 = .complete () →
    ∃ h', ep.writeImmediately data h = .ok () h'
  fails : ∀ condition h', ep.writeImmediately data h = .error condition h' →
    condition = .deadlineOverflow ∨ (∃ e, condition = .writeFailed ep.name e) ∨
      ∃ n, n < data.length ∧ condition = .writeCutShort ep.name n data.length

theorem AcceptEnds.of_admits {listener : Nat} {answer : EStateM.Result Fatal Host Endpoint}
    (ends : ep.AcceptEnds listener h answer) (fits : ep.config.acceptTimeout.Fits h.now)
    (admits : h.Admits listener) :
    ∃ ep' h', answer = .ok ep' h' ∧ ep'.connection.isSome = true ∧ ep'.listener = none := by
  cases ends with
  | @overflow mid made beyond =>
    have time := h.now_setListenerMode
    rw [made] at time
    rw [← time, Duration.fits_iff, beyond] at fits
    obtain ⟨_, representable⟩ := fits
    cases representable
  | blocking failed =>
    obtain ⟨_, makes, _⟩ := setListenerMode_of_free admits.modes
    rw [makes] at failed
    cases failed
  | refused begins refuses =>
    obtain ⟨_, _, taken, _⟩ := admits.taken begins
    rw [taken] at refuses
    cases refuses
  | @dropped _ d _ _ h' _ begins takes drops =>
    obtain ⟨_, _, taken, free⟩ := admits.taken begins
    rw [taken] at takes
    cases takes
    have unbound := free.of_suffix (ep.releases_unbind h').outcomes
    obtain ⟨t, adopted⟩ := Transport.adopt_of_free (h := (ep.unbind h').2.log _) unbound d
    rw [adopted] at drops
    cases drops
  | connected _ _ joined silent => exact ⟨_, _, rfl, joined, silent⟩

theorem AcceptEnds.inRange {listener : Nat} (ends : ep.AcceptEnds listener h (ep.accept h)) :
    ep.AcceptsInRange listener h := by
  refine ⟨⟨?_, ?_⟩, ends.of_admits, ?_⟩
  · rintro ⟨h', run⟩
    rw [run] at ends
    cases ends with
    | overflow made beyond =>
      rw [Duration.not_fits_iff, ← h.now_setListenerMode, made]
      exact ⟨rfl, beyond⟩
  · rintro ⟨makes, beyond⟩
    rw [Duration.not_fits_iff, ← h.now_setListenerMode] at beyond
    generalize ep.accept h = answer at ends
    cases ends with
    | overflow => exact ⟨_, rfl⟩
    | blocking failed =>
      rw [failed] at makes
      cases makes
    | refused begins | dropped begins | connected begins =>
      rw [begins.made, begins.representable] at beyond
      cases beyond
  · rintro condition h' run
    rw [run] at ends
    cases ends with
    | overflow => exact Or.inl rfl
    | blocking | refused | dropped => exact Or.inr ⟨_, rfl⟩

theorem WriteEnds.of_complete {d : Descriptor} {answer : EStateM.Result Fatal Host Unit}
    (ends : ep.WriteEnds d data h answer) (fits : ep.config.writeTimeout.Fits h.now)
    (done : (transmit d data h).1 = .complete ()) : ∃ h', answer = .ok () h' := by
  cases ends with
  | overflow beyond => exact absurd fits (Duration.not_fits_iff.mpr beyond)
  | failed _ failed =>
    have whole := congrArg Prod.fst failed
    rw [Transport.transmitUntil_of_complete done] at whole
    cases whole
  | short _ cut fewer =>
    have whole := congrArg Prod.fst cut
    rw [Transport.transmitUntil_of_complete done] at whole
    cases whole
    exact absurd fewer (Nat.lt_irrefl _)
  | whole => exact ⟨_, rfl⟩

theorem WriteEnds.inRange {d : Descriptor}
    (ends : ep.WriteEnds d data h (ep.writeImmediately data h)) :
    ep.WritesInRange d data h := by
  refine ⟨⟨?_, ?_⟩, ends.of_complete, ?_⟩
  · rintro ⟨h', run⟩
    rw [run] at ends
    cases ends with
    | overflow beyond => exact Duration.not_fits_iff.mpr beyond
  · intro beyond
    rw [Duration.not_fits_iff] at beyond
    generalize ep.writeImmediately data h = answer at ends
    cases ends with
    | overflow => exact ⟨_, rfl⟩
    | failed representable | short representable | whole representable =>
      rw [representable] at beyond
      cases beyond
  · intro condition h' run
    rw [run] at ends
    cases ends with
    | overflow => exact Or.inl rfl
    | failed => exact Or.inr (Or.inl ⟨_, rfl⟩)
    | short _ _ fewer => exact Or.inr (Or.inr ⟨_, fewer, rfl⟩)

/-- The deadline of an accept by a bound endpoint, or of a write while no send is outstanding,
ends the program just if the clock cannot hold it, however little there is to wait for. -/
theorem overflows_iff_beyond_clock (ep : Endpoint) (h : Host) :
    (∀ bound, ep.connection = none → ep.listener = some bound →
      ep.AcceptsInRange bound.listener h) ∧
    ∀ c w data, ep.connection = some c → c.writer = some w → w.isPending = false →
      ep.WritesInRange c.transport.descriptor data h :=
  ⟨fun _ disconnected listens => (accept_ends disconnected listens h).inRange,
    fun _ _ data connected present idle => (write_ends connected present idle data h).inRange⟩

end Endpoint

/-- Timeouts of more seconds than a signed clock can count, which a command line may ask for. -/
def endless : PipeConfig :=
  PipeConfig.withReadBufferSize default 65536
    |>.withAcceptTimeout (.ofSeconds 9223372036854775808)
    |>.withWriteTimeout (.ofSeconds 9223372036854775808)

theorem not_fits_endless (now : Nat) :
    ¬ (Duration.ofSeconds 9223372036854775808).Fits now := by
  rw [Duration.fits_ofSeconds_iff]
  omega

/-- An endpoint that writes, with nothing outstanding. -/
def idling : Endpoint :=
  { Endpoint.ofConfig endless with
    connection := some {
      transport := { descriptor := ⟨0, ⟨"link", .a⟩⟩, restores := false }
      reader := none
      writer := some (Worker.ofSize 16) } }

open HistoryReach (awaiting visited)

/-- An endpoint that is bound, and would wait for a peer for so long. -/
def dallying : Endpoint :=
  { awaiting with config := endless }

theorem admits_visited : visited.Admits 0 :=
  ⟨rfl, by decide, nofun, fun _ _ => nofun⟩

/-- A peer that waits is taken with a timeout of half a minute, and not with one that the
clock cannot hold. With that one not even an empty write returns. -/
theorem Endpoint.overflows_iff_beyond_clock_visited :
    (∃ ep h', awaiting.accept visited = .ok ep h' ∧ ep.connection.isSome = true) ∧
    (∃ h', dallying.accept visited = .error .deadlineOverflow h') ∧
    ∃ h', idling.writeImmediately [] visited = .error .deadlineOverflow h' := by
  obtain ⟨accepts, _⟩ := Endpoint.overflows_iff_beyond_clock awaiting visited
  obtain ⟨ep, h', run, joined, _⟩ :=
    (accepts ⟨0, [115]⟩ rfl rfl).takes (by decide) admits_visited
  obtain ⟨waits, _⟩ := Endpoint.overflows_iff_beyond_clock dallying visited
  obtain ⟨_, writes⟩ := Endpoint.overflows_iff_beyond_clock idling visited
  exact ⟨⟨ep, h', run, joined⟩,
    (waits ⟨0, [115]⟩ rfl rfl).overflows_iff.mpr ⟨rfl, not_fits_endless _⟩,
    (writes _ _ [] rfl rfl rfl).overflows_iff.mpr (not_fits_endless _)⟩

/-- A command line may ask for a timeout with which no accept takes the peer that waits. -/
theorem Endpoint.not_always_within_clock : ¬ ∀ (arguments : List String)
    (invocation : CommandLine.Invocation) (ep : Endpoint) (bound : Bound) (h : Host),
    CommandLine.parse arguments = .ok invocation → EndpointReach invocation.config ep →
      ep.connection = none → ep.listener = some bound → h.Admits bound.listener →
        ∃ ep' h', ep.accept h = .ok ep' h' := by
  intro always
  have parsed : CommandLine.parse ["listen", "s", "--accept-timeout-secs", "9223372036854775808",
      "--write-timeout-secs", "9223372036854775808"] = .ok ⟨.listen, "s", endless, "warn"⟩ := rfl
  have reach : EndpointReach endless dallying :=
    EndpointReach.start.use (h := {}) (.bind [115]) rfl
  obtain ⟨ep, h', run⟩ := always _ _ _ ⟨0, [115]⟩ visited parsed reach rfl rfl admits_visited
  have ends := @Endpoint.accept_ends dallying ⟨0, [115]⟩ rfl rfl visited
  obtain ⟨last, overflow⟩ := ends.inRange.overflows_iff.mpr ⟨rfl, not_fits_endless _⟩
  rw [overflow] at run
  cases run

end LocalPipe
