import LocalPipe.Proofs.Answers
import LocalPipe.Proofs.ImmediateWrites
import LocalPipe.Proofs.Interruptions

namespace LocalPipe

open Host

/-- The last call was answered with a failure, of a transfer or of a wait. -/
def Host.EndsWith (h : Host) (e : IoError) : Prop :=
  ∃ call earlier, h.calls = call :: earlier ∧ ((∃ dir, call.failure? = some (dir, e)) ∨
    ∃ watched millis errno, call = .poll watched millis (.error errno) ∧ errno ≠ .eintr ∧
      e = .os errno)

/-- A wait may begin now, or when others act. -/
def Host.Begins (h : Host) (begun : Nat) : Prop :=
  begun = h.now ∨ ∃ a ∈ h.appointments, begun = a.due

/-- Whenever a wait up to a moment begins, one poll can last for what is left. -/
def Host.TimelyUntil (h : Host) (moment : Nat) : Prop :=
  ∀ begun, h.Begins begun → begun < moment → (⟨moment - begun⟩ : Duration).Timely

/-- Nothing about accepting fails, but that accepts and waits for peers may be interrupted,
as often as the host has patience for. -/
structure Host.AcceptsUnhindered (h : Host) : Prop where
  modes : ∀ outcome ∈ h.outcomesAhead .listenerMode, outcome = none
  accepts : h.OnlyInterrupted .accept
  polls : h.OnlyInterrupted .poll
  patient : h.interruptions < h.patience

/-- What an accept that waits for some time comes to. Its wait is over at the end of that time
in whole milliseconds, which begins anew with each signal that comes in the meantime. It takes a
peer just if one waits or comes by then, and else it gives up at that moment. -/
structure AcceptsInTime (h : Host) (listener : Nat) (timeout : Duration) (last : Nat)
    (answer : Except IoError Descriptor) (h' : Host) : Prop where
  lasts : h.LastsUntil (timeout.wholeMillis * 1000000) last
  undisturbed : h.QuietUntil (h.now + timeout.wholeMillis * 1000000) →
    last = h.now + timeout.wholeMillis * 1000000
  ends : h.EndsInTime timeout last
  takes_iff : (∃ d, answer = .ok d) ↔ h.HasPeerBy listener last
  expires : ∀ e, answer = .error e → e = .noPeer ∧ h'.now = last

/-- What a write that waits for some time comes to. It is whole, or it is short and the time
is up, or its last call failed. -/
structure WritesInTime (h : Host) (asked : Nat) (timeout : Duration) (answer : Except IoError Nat)
    (h' : Host) : Prop where
  short : ∀ n, answer = .ok n → n = asked ∨ n < asked ∧ h.EndsInTime timeout h'.now
  failed : ∀ e, answer = .error e → h'.EndsWith e

/-- What a write that waits up to a moment comes to. If it is cut short, then not before that
moment if its waits were timely, and much later only with signals. -/
inductive Transport.Ends (h : Host) (moment span : Nat) : Except IoError Nat × Host → Prop
  | whole {h' : Host} : Ends h moment span (.ok 0, h')
  | late {left : Nat} {h' : Host} : h.Prolonged span (moment + 999999) h'.now →
      (h.TimelyUntil moment → moment ≤ h'.now) → Ends h moment span (.ok left, h')
  | failed {e : IoError} {h' : Host} : h'.EndsWith e → Ends h moment span (.error e, h')

variable {h h' : Host} {listener moment last : Nat} {d : Descriptor} {timeout : Duration}

/-- Once a peer waits, an accept that is no more than interrupted takes it. -/
theorem acceptUntil_hasPeer (waits : h.hasPeer listener = true)
    (ahead : ∀ e, some e ∈ h.outcomesAhead .accept → e = .eintr) :
    ∃ d h', acceptUntil listener moment h = (.ok d, h') ∧
      ∀ point, h'.outcomesAhead point <:+ h.outcomesAhead point := by
  have accepts := accept_accepts ahead listener
  fun_induction acceptUntil listener moment h with
  | case1 h d h' answer =>
    rw [answer] at accepts
    cases accepts with
    | taken _ outcomes => exact ⟨d, h', rfl, outcomes⟩
  | case6 h h' answer ih =>
    rw [answer] at accepts
    obtain ⟨tarries, _⟩ := accepts.of_eintr
    have ahead' := fun e member => ahead e ((tarries.outcomes .accept).subset member)
    obtain ⟨d, last, taken, outcomes⟩ :=
      ih ((hasPeer_congr tarries.doors).trans waits) ahead' (accept_accepts ahead' listener)
    exact ⟨d, last, taken, fun point => (outcomes point).trans (tarries.outcomes point)⟩
  | case2 h h' answer | case3 h h' answer | case4 h h' answer | case5 h h' answer =>
    rw [answer] at accepts
    rw [accepts.of_eagain.2.2] at waits
    cases waits
  | case7 h e h' unblocked uninterrupted answer =>
    rw [answer] at accepts
    cases accepts with
    | interrupted => exact absurd rfl uninterrupted
    | nobody => exact absurd rfl unblocked

/-- A wait for a peer up to a moment takes one if one waits or comes before the wait that is
made for it is over, and gives up once that is over if none does. -/
theorem acceptUntil_ends (listener : Nat) (accepts : h.OnlyInterrupted .accept)
    (polls : h.OnlyInterrupted .poll) (patient : h.interruptions < h.patience)
    (timely : (⟨moment - h.now⟩ : Duration).Timely)
    (lasts : h.LastsUntil ((⟨moment - h.now⟩ : Duration).pollMillis * 1000000) last) :
    (∃ d h', acceptUntil listener moment h = (.ok d, h') ∧ h.HasPeerBy listener last) ∨
    ∃ h', acceptUntil listener moment h = (.error .noPeer, h') ∧ ¬ h.HasPeerBy listener last ∧
      h'.now = last := by
  have answered := accept_accepts accepts.ahead listener
  -- A run waits once at most, since whoever has come stays until accepted. So the end of that
  -- one wait bounds the run, and only interrupted accepts go by the induction hypothesis.
  fun_induction acceptUntil listener moment h with
  | case1 h d h' answer =>
    rw [answer] at answered
    cases answered with
    | taken waits _ => exact Or.inl ⟨d, h', rfl, Or.inl waits⟩
  | case2 h h' answer late =>
    rw [answer] at answered
    obtain ⟨tarries, _, missing⟩ := answered.of_eagain
    rw [tarries.now] at late
    have at_once : (⟨moment - h.now⟩ : Duration).pollMillis = 0 := by
      rw [Nat.sub_eq_zero_of_le late]
      rfl
    rw [at_once, Nat.zero_mul] at lasts
    obtain rfl := lasts.eq_now
    refine Or.inr ⟨h', rfl, ?_, tarries.now⟩
    rintro (waits | ⟨passes, _⟩)
    · rw [missing] at waits
      cases waits
    · exact absurd passes (Nat.lt_irrefl _)
  | case3 h h' answer early h'' wait =>
    rw [answer] at answered
    obtain ⟨tarries, patience, missing⟩ := answered.of_eagain
    rw [tarries.now] at wait
    have watches := tarries.watches patience polls patient listener lasts
    have awaits := waitReady_awaits (tarries.lastsUntil lasts) [.listener listener]
    rw [wait] at watches awaits
    cases watches with
    | nobody nobody =>
      cases awaits with
      | expired passed => exact Or.inr ⟨h'', rfl, not_hasPeerBy missing nobody, passed⟩
  | case4 h h' answer early n h'' wait _ =>
    rw [answer] at answered
    obtain ⟨tarries, patience, missing⟩ := answered.of_eagain
    rw [tarries.now] at early wait
    have watches := tarries.watches patience polls patient listener lasts
    rw [wait] at watches
    cases watches with
    | peer waits came uses =>
      have covers := Duration.timely_iff.mp timely
      have passes : h.now < last := by
        have later := lasts.covers
        dsimp only at covers
        omega
      obtain ⟨d, taken_at, taken, _⟩ :=
        acceptUntil_hasPeer waits (uses.onlyInterrupted accepts).ahead
      exact Or.inl ⟨d, taken_at, taken, Or.inr ⟨passes, came⟩⟩
  | case5 h h' answer early e h'' wait =>
    rw [answer] at answered
    obtain ⟨tarries, patience, _⟩ := answered.of_eagain
    rw [tarries.now] at wait
    have watches := tarries.watches patience polls patient listener lasts
    rw [wait] at watches
    cases watches
  | case6 h h' answer ih =>
    rw [answer] at answered
    obtain ⟨tarries, patience⟩ := answered.of_eintr
    have fewer := tarries.interruptions_le
    have accepts' := tarries.usesUp.onlyInterrupted accepts
    have again := ih accepts' (tarries.usesUp.onlyInterrupted polls) (by omega)
      (by rwa [tarries.now]) (by rw [tarries.now]; exact tarries.lastsUntil lasts)
      (accept_accepts accepts'.ahead listener)
    simpa only [tarries.hasPeerBy_iff] using again
  | case7 h e h' unblocked uninterrupted answer =>
    rw [answer] at answered
    cases answered with
    | interrupted => exact absurd rfl uninterrupted
    | nobody => exact absurd rfl unblocked

theorem Host.TimelyUntil.later (timely : h.TimelyUntil moment) (begins : h.Begins h'.now)
    (fewer : h'.appointments ⊆ h.appointments) : h'.TimelyUntil moment := by
  rintro begun (rfl | ⟨a, member, rfl⟩)
  · exact timely _ begins
  · exact timely _ (Or.inr ⟨a, fewer member, rfl⟩)

theorem Transport.Ends.after {answer : Except IoError Nat × Host} (begins : h.Begins h'.now)
    (fewer : h'.appointments ⊆ h.appointments) (signals : h'.signals = h.signals)
    (ends : Ends h' moment span answer) : Ends h moment span answer := by
  cases ends with
  | whole => exact .whole
  | late prolonged covers =>
    exact .late (prolonged.of_signals signals) fun timely => covers (timely.later begins fewer)
  | failed last => exact .failed last

theorem Host.frame_of_write {data : Bytes} {result : Except Errno Nat}
    (answer : h.write d data = (result, h')) :
    h'.now = h.now ∧ h'.appointments = h.appointments ∧ h'.signals = h.signals := by
  have rest := (Writes.of_write answer).rest
  exact ⟨by rw [rest], by rw [rest], by rw [rest]⟩

/-- A wait for what is left up to a moment is prolonged by signals alone, counting on each of
them for the whole time that was given. -/
theorem Host.prolonged_of_lastsUntil (now : h'.now = h.now) (signals : h'.signals = h.signals)
    (within : moment - h.now ≤ timeout.nanos) (early : ¬ moment ≤ h'.now)
    (lasts : h'.LastsUntil ((⟨moment - h'.now⟩ : Duration).pollMillis * 1000000) last) :
    h.Prolonged (timeout.wholeMillis * 1000000) (moment + 999999) last := by
  rw [← now] at within
  have rounded := Duration.pollMillis_le_wholeMillis (d := ⟨moment - h'.now⟩) within
  have less := Duration.pollMillis_lt ⟨moment - h'.now⟩
  dsimp only at less
  exact (lasts.prolonged.mono (Nat.mul_le_mul_right _ rounded) (by omega) (Nat.le_refl _)).of_signals
    signals

/-- A write that has been prolonged by signals alone so far ends so too. -/
theorem Transport.transmitUntil_ends (data : Bytes) (within : moment - h.now ≤ timeout.nanos)
    (sofar : h.Prolonged (timeout.wholeMillis * 1000000) (moment + 999999) h.now) :
    Transport.Ends h moment (timeout.wholeMillis * 1000000) (transmitUntil d moment data h) := by
  -- A run may wait many times. Each wait that ends early leaves the clock where it was or where
  -- others act, so what is timely for the first host is so for each later one. None is asked to
  -- last longer than the first, so that the signals before it ends are near enough.
  fun_induction transmitUntil d moment data h with
  | case1 => exact .whole
  | case2 data h _ h' answer =>
    exact .failed ⟨_, _, calls_of_write answer, Or.inl ⟨.write, rfl⟩⟩
  | case3 data h _ n h' answer ih =>
    obtain ⟨now, ahead, signals⟩ := frame_of_write answer
    refine (ih (by rwa [now]) ?_).after (Or.inl now) (by rw [ahead]; exact List.Subset.refl _)
      signals
    rw [now]
    exact sofar.of_signals signals.symm
  | case4 data h _ h' answer late =>
    obtain ⟨now, _⟩ := frame_of_write answer
    exact .late (by rwa [now]) fun _ => late
  | case5 data h _ h' answer early h'' wait =>
    obtain ⟨now, _, signals⟩ := frame_of_write answer
    obtain ⟨last, lasts⟩ :=
      h'.exists_lastsUntil ((⟨moment - h'.now⟩ : Duration).pollMillis * 1000000)
    have awaits := waitReady_awaits lasts [.handle ⟨d, .writable⟩]
    rw [wait] at awaits
    cases awaits with
    | expired ended =>
      refine .late ?_ fun timely => ?_
      · rw [ended]
        exact prolonged_of_lastsUntil now signals within early lasts
      · have covers := Duration.timely_iff.mp (timely h'.now (Or.inl now) (by omega))
        have later := lasts.covers
        dsimp only at covers
        omega
  | case6 data h _ h' answer early n h'' wait ih =>
    obtain ⟨now, ahead, signals⟩ := frame_of_write answer
    obtain ⟨last, lasts⟩ :=
      h'.exists_lastsUntil ((⟨moment - h'.now⟩ : Duration).pollMillis * 1000000)
    have awaits := waitReady_awaits lasts [.handle ⟨d, .writable⟩]
    rw [wait] at awaits
    cases awaits with
    | ready after before begins fewer same =>
      have prolonged := (prolonged_of_lastsUntil now signals within early lasts).mono
        (Nat.le_refl _) (Nat.le_refl _) before
      rw [ahead] at begins fewer
      refine (ih (by omega) (prolonged.of_signals (same.trans signals).symm)).after
        (begins.imp_left fun still => still.1.trans now) fewer (same.trans signals)
  | case7 data h _ h' answer early e h'' wait =>
    obtain ⟨last, lasts⟩ :=
      h'.exists_lastsUntil ((⟨moment - h'.now⟩ : Duration).pollMillis * 1000000)
    have awaits := waitReady_awaits lasts [.handle ⟨d, .writable⟩]
    rw [wait] at awaits
    cases awaits with
    | failed earlier final calls =>
      exact .failed ⟨_, _, calls, Or.inr ⟨_, _, e, rfl, final, rfl⟩⟩
  | case8 data h _ h' answer ih =>
    obtain ⟨now, ahead, signals⟩ := frame_of_write answer
    refine (ih (by rwa [now]) ?_).after (Or.inl now) (by rw [ahead]; exact List.Subset.refl _)
      signals
    rw [now]
    exact sofar.of_signals signals.symm
  | case9 data h _ e h' unblocked uninterrupted answer =>
    have final : ¬ (e = .eagain ∨ e = .eintr) := not_or.mpr ⟨unblocked, uninterrupted⟩
    exact .failed ⟨_, _, calls_of_write answer,
      Or.inl ⟨.write, by simp only [Call.failure?, if_neg final]⟩⟩

theorem Host.setListenerMode_of_free
    (free : ∀ outcome ∈ h.outcomesAhead .listenerMode, outcome = none) :
    ∃ h', h.setListenerMode = (.ok (), h') ∧ h.Tarries h' ∧ h'.patience = h.patience := by
  have tarries : h.Tarries (h.takeFault .listenerMode).2 := .of_takeFault h (by decide)
  have patience := h.patience_takeFault .listenerMode
  unfold Host.setListenerMode
  split
  · rename_i e mid fault
    obtain ⟨met, _⟩ := of_takeFault fault e rfl
    cases free _ met
  · rename_i mid fault
    rw [fault] at tarries patience
    exact ⟨mid, rfl, tarries, patience⟩

/-- Once the listener is made non-blocking, and the clock can hold the deadline, an accept is a
wait up to that deadline. -/
theorem acceptWithin_of_some (listener : Nat) (made : h.setListenerMode = (.ok (), h'))
    (representable : timeout.deadline? h'.now = some moment) :
    acceptWithin listener timeout h =
      .ok (acceptUntil listener moment h').1 (acceptUntil listener moment h').2 := by
  rw [acceptWithin, Action.bind_of_ok (Action.call_ok.mpr made)]
  exact Action.bind_of_ok (Action.deadline_of_some representable)

theorem Transport.writeBlocking_of_some (t : Transport) (data : Bytes)
    (representable : timeout.deadline? h.now = some moment) :
    t.writeBlocking data timeout h =
      .ok ((transmitUntil t.descriptor moment data h).1.map (data.length - ·))
        (transmitUntil t.descriptor moment data h).2 := by
  rw [writeBlocking, Action.bind_of_ok (Action.deadline_of_some representable)]
  rfl

/-- An accept that no more than interruptions hinder keeps to a time that one poll can last
for, beginning anew with each signal. -/
theorem acceptWithin_inTime (listener : Nat) (timely : timeout.Timely)
    (representable : timeout.deadline? h.now = some moment) (unhindered : h.AcceptsUnhindered) :
    ∃ last answer h', acceptWithin listener timeout h = .ok answer h' ∧
      AcceptsInTime h listener timeout last answer h' := by
  obtain ⟨last, lasts⟩ := h.exists_lastsUntil (timeout.wholeMillis * 1000000)
  obtain ⟨mid, made, tarries, patience⟩ := setListenerMode_of_free unhindered.modes
  rw [← tarries.now] at representable
  have time : moment - mid.now = timeout.nanos := by
    rw [Duration.deadline?_eq representable, Nat.add_sub_cancel_left]
  have fewer := tarries.interruptions_le
  have patient := unhindered.patient
  have ends := acceptUntil_ends listener (tarries.usesUp.onlyInterrupted unhindered.accepts)
    (tarries.usesUp.onlyInterrupted unhindered.polls) (by omega) (by rwa [time])
    (by rw [time, timely.pollMillis_eq]; exact tarries.lastsUntil lasts)
  rw [tarries.hasPeerBy_iff] at ends
  refine ⟨last, _, _, acceptWithin_of_some listener made representable, ?_⟩
  rcases ends with ⟨d, taken_at, taken, waits⟩ | ⟨ended, given_up, nobody, at_end⟩
  · rw [taken]
    exact ⟨lasts, lasts.eq_of_quiet, lasts.endsInTime, ⟨fun _ => waits, fun _ => ⟨d, rfl⟩⟩, nofun⟩
  · rw [given_up]
    refine ⟨lasts, lasts.eq_of_quiet, lasts.endsInTime,
      ⟨nofun, fun waits => absurd waits nobody⟩, ?_⟩
    rintro e ⟨⟩
    exact ⟨rfl, at_end⟩

/-- A write is cut short by the time alone, if each wait of it is for a time that one poll can
last for. -/
theorem Transport.writeBlocking_inTime (t : Transport) (data : Bytes)
    (representable : timeout.deadline? h.now = some moment) (timely : h.TimelyUntil moment) :
    ∃ answer h', t.writeBlocking data timeout h = .ok answer h' ∧
      WritesInTime h data.length timeout answer h' := by
  refine ⟨_, _, t.writeBlocking_of_some data representable, ?_⟩
  obtain rfl := Duration.deadline?_eq representable
  have ends := transmitUntil_ends (d := t.descriptor) data
    (show h.now + timeout.nanos - h.now ≤ timeout.nanos by omega)
    (fun moment later before => by omega)
  generalize transmitUntil t.descriptor (h.now + timeout.nanos) data h = last at *
  cases ends with
  | whole => exact ⟨by rintro n ⟨⟩; exact Or.inl rfl, nofun⟩
  | @late left h' prolonged covers =>
    refine ⟨?_, nofun⟩
    intro n counted
    obtain rfl : data.length - left = n := Except.ok.inj counted
    have at_end := covers timely
    by_cases short : data.length - left = data.length
    · exact Or.inl short
    · exact Or.inr ⟨by omega, .of_prolonged at_end prolonged⟩
  | failed last => exact ⟨nofun, by rintro e ⟨⟩; exact last⟩

/-- A host where a link has room for one byte and a peer is to come to a listener, and where
the first accept and the first wait are interrupted, and a wait is by a signal. -/
def expecting : Host :=
  { links := ⟨[("out", { capacity := 1, endA := { nonblocking := true } })]⟩
    descriptors := [⟨0, ⟨"out", .a⟩⟩]
    nextDescriptor := 1
    listeners := ⟨[(0, [])]⟩
    nextListener := 1
    files := ⟨⟨[([[], [115]], .socket 0)]⟩⟩
    callFaults := ⟨[(.accept, [some .eintr]), (.poll, [some .eintr])]⟩
    appointments := [⟨400000, [.connect [115] "peer" 16]⟩]
    signals := [200000] }

theorem expecting_onlyInterrupted {point : FaultPoint}
    (ahead : expecting.outcomesToCome point = [some .eintr]) :
    expecting.OnlyInterrupted point := by
  intro e member
  rw [ahead] at member
  simpa using member

theorem expecting_unhindered : expecting.AcceptsUnhindered where
  modes := by decide
  accepts := expecting_onlyInterrupted rfl
  polls := expecting_onlyInterrupted rfl
  patient := by decide

theorem expecting_timelyUntil : expecting.TimelyUntil 1000000 := by
  rintro begun (rfl | ⟨a, member, rfl⟩) _
  · exact ⟨by decide, Or.inl rfl⟩
  · obtain rfl := List.mem_singleton.mp member
    exact ⟨by decide, Or.inr (by decide)⟩

theorem expecting_hasPeerBy (later : 400000 ≤ last) : expecting.HasPeerBy 0 last :=
  Or.inr ⟨Nat.lt_of_lt_of_le (by decide) later, hasPeer_later later (by decide +kernel)⟩

/-- A host where nobody is to come to a listener, and a signal comes after a twentieth of a
second. -/
def disturbed : Host :=
  { listeners := ⟨[(0, [])]⟩
    nextListener := 1
    signals := [50000000] }

/-- Who waits for a tenth of a second gives up a twentieth later if a signal comes in between,
since the wait begins anew. -/
theorem Host.not_always_within_millisecond : ¬ ∀ (h : Host) (timeout : Duration)
    (moment listener : Nat) (e : IoError) (h' : Host),
    timeout.Timely → timeout.deadline? h.now = some moment → h.AcceptsUnhindered →
      acceptWithin listener timeout h = .ok (.error e) h' → h'.now < moment + 1000000 := by
  intro always
  have timely : (⟨100000000⟩ : Duration).Timely := ⟨by decide, Or.inl rfl⟩
  have representable : (⟨100000000⟩ : Duration).deadline? disturbed.now = some 100000000 := by
    decide +kernel
  have unhindered : disturbed.AcceptsUnhindered := by
    refine ⟨by decide, ?_, ?_, by decide⟩
    · rintro e ⟨⟩
    · rintro e ⟨⟩
  obtain ⟨last, answer, h', run, inTime⟩ := acceptWithin_inTime 0 timely representable unhindered
  have covers : 100000000 ≤ last := inTime.lasts.covers
  have later : 150000000 ≤ last :=
    inTime.lasts.settled 50000000 (List.mem_singleton_self _) (by omega)
  cases answer with
  | ok d =>
    obtain waits | ⟨_, waits⟩ := inTime.takes_iff.mp ⟨d, rfl⟩
    · cases waits
    · cases waits
  | error e =>
    have ended := (inTime.expires e rfl).2
    have early := always _ _ _ _ e h' timely representable unhindered run
    omega

end LocalPipe
