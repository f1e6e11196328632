import LocalPipe.Proofs.Waits

namespace LocalPipe

namespace Duration

/-- The whole milliseconds of a duration, rounded up. -/
def wholeMillis (d : Duration) : Nat :=
  (d.nanos + 999999) / 1000000

/-- A duration that one poll can wait for: it is none too long, and if it has a part of a
millisecond, that is a microsecond at least. -/
structure Timely (d : Duration) : Prop where
  short : d.nanos ≤ longestPoll * 1000000
  part : d.nanos % 1000000 = 0 ∨ 1000 ≤ d.nanos % 1000000

variable {d : Duration}

/-- A poll never lasts a millisecond longer than it should. -/
theorem pollMillis_lt (d : Duration) : d.pollMillis * 1000000 < d.nanos + 1000000 := by
  have rounded : d.pollMillis ≤ (d.nanos / 1000 + 999) / 1000 := Nat.min_le_left _ _
  omega

/-- Whole microseconds, rounded up to milliseconds, fall short only of a remainder of less
than a microsecond. -/
theorem rounds_up_iff (nanos : Nat) : nanos ≤ (nanos / 1000 + 999) / 1000 * 1000000 ↔
    nanos % 1000000 = 0 ∨ 1000 ≤ nanos % 1000000 := by
  have whole := Nat.div_add_mod nanos 1000000
  have below := Nat.mod_lt nanos (Nat.succ_pos 999999)
  generalize nanos / 1000000 = millis at *
  generalize nanos % 1000000 = rest at *
  subst whole
  omega

/-- A poll lasts as long as it should if the duration is timely, and only then. -/
theorem timely_iff : d.Timely ↔ d.nanos ≤ d.pollMillis * 1000000 := by
  have rounds := rounds_up_iff d.nanos
  rw [pollMillis]
  generalize (d.nanos / 1000 + 999) / 1000 = rounded at *
  constructor
  · rintro ⟨short, part⟩
    have covers := rounds.mpr part
    generalize longestPoll = limit at *
    rcases Nat.le_total rounded limit with within | beyond
    · simpa only [Nat.min_eq_left within] using covers
    · simpa only [Nat.min_eq_right beyond] using short
  · intro covers
    exact ⟨Nat.le_trans covers (Nat.mul_le_mul_right _ (Nat.min_le_right ..)),
      rounds.mp (Nat.le_trans covers (Nat.mul_le_mul_right _ (Nat.min_le_left ..)))⟩

theorem Timely.pollMillis_eq (timely : d.Timely) : d.pollMillis = d.wholeMillis := by
  have covers := timely_iff.mp timely
  have less := d.pollMillis_lt
  rw [wholeMillis]
  omega

theorem le_wholeMillis (d : Duration) : d.nanos ≤ d.wholeMillis * 1000000 := by
  rw [wholeMillis]
  omega

theorem wholeMillis_le (d : Duration) : d.wholeMillis * 1000000 ≤ d.nanos + 999999 := by
  rw [wholeMillis]
  omega

/-- A poll is asked for no more than the whole milliseconds of any longer time. -/
theorem pollMillis_le_wholeMillis {longer : Duration} (within : d.nanos ≤ longer.nanos) :
    d.pollMillis ≤ longer.wholeMillis := by
  have rounded : d.pollMillis ≤ (d.nanos / 1000 + 999) / 1000 := Nat.min_le_left _ _
  rw [wholeMillis]
  omega

theorem deadline?_eq {now moment : Nat} (representable : d.deadline? now = some moment) :
    moment = now + d.nanos := by
  unfold deadline? at representable
  split at representable <;> cases representable
  rfl

end Duration

namespace Host

/-- No signal comes from now on until a moment. -/
def QuietUntil (h : Host) (moment : Nat) : Prop :=
  ∀ signal ∈ h.signals, signal ≤ h.now ∨ moment < signal

/-- From a moment on and up to the end, there is always a signal in the span of time before. -/
def Prolonged (h : Host) (span begun last : Nat) : Prop :=
  ∀ moment, begun ≤ moment → moment < last →
    ∃ signal ∈ h.signals, signal ≤ moment ∧ moment < signal + span

/-- When a wait for some span of time is over, if it begins again with each signal: as soon as
there is no signal in the span before. -/
structure LastsUntil (h : Host) (span last : Nat) : Prop where
  covers : h.now + span ≤ last
  settled : ∀ signal ∈ h.signals, signal ≤ last → signal + span ≤ last
  prolonged : h.Prolonged span (h.now + span) last

/-- When a wait that is to last for some time gives up: once that time is over, and less than a
millisecond after. With signals it may last longer, but only while there is always one in the
time before, taken in whole milliseconds. -/
structure EndsInTime (h : Host) (timeout : Duration) (last : Nat) : Prop where
  covers : h.now + timeout.nanos ≤ last
  close : h.QuietUntil last → last < h.now + timeout.nanos + 1000000
  prolonged : h.Prolonged (timeout.wholeMillis * 1000000) (h.now + timeout.nanos + 999999) last

/-- How many signals are still to come. -/
def signalsAhead (h : Host) : Nat :=
  h.signals.countP (h.now < ·)

/-- Nothing watched is ready, and it is not time yet for the next appointment. -/
structure Rests (h : Host) (watched : List Watched) : Prop where
  nothing : h.readyCount watched = 0
  early : ∀ a ∈ h.appointments.head?, h.now < a.due

/-- What a wait up to some moment comes to. It ends there with nothing ready, or it ends before,
at once or when others act. -/
inductive EndsBy (h : Host) (watched : List Watched) (moment : Nat) :
    Except Errno Nat × Host → Prop
  | expired {h' : Host} : h'.now = moment → h'.Rests watched →
      h'.appointments ⊆ h.appointments → h'.signals = h.signals →
      EndsBy h watched moment (.ok 0, h')
  | ready {n : Nat} {h' : Host} : h.now ≤ h'.now → h'.now ≤ moment →
      (h'.now = h.now ∧ ¬ h.Rests watched ∨ ∃ a ∈ h.appointments, h'.now = a.due) →
      h'.appointments ⊆ h.appointments → h'.signals = h.signals →
      EndsBy h watched moment (.ok (n + 1), h')

/-- What a wait comes to that is over by itself at some moment, with all signals that interrupt
it. It ends at that moment, or it ends before, at once or when others act, or the call to wait
fails. -/
inductive Awaits (h : Host) (watched : List Watched) (d : Duration) (last : Nat) :
    Except Errno Nat × Host → Prop
  | expired {h' : Host} : h'.now = last → Awaits h watched d last (.ok 0, h')
  | ready {n : Nat} {h' : Host} : h.now ≤ h'.now → h'.now ≤ last →
      (h'.now = h.now ∧ ¬ h.Rests watched ∨ ∃ a ∈ h.appointments, h'.now = a.due) →
      h'.appointments ⊆ h.appointments → h'.signals = h.signals →
      Awaits h watched d last (.ok (n + 1), h')
  | failed {e : Errno} {h' : Host} (earlier : List Call) : e ≠ .eintr →
      h'.calls = .poll watched (some d.pollMillis) (.error e) :: earlier →
      Awaits h watched d last (.error e, h')

/-- A wait goes on: nothing has happened yet, or others have acted and a signal has come within
its time, and nothing is ready by then. -/
structure Dwells (h : Host) (watched : List Watched) (span : Nat) (h' : Host) : Prop where
  time : h'.now = h.now ∨ h'.now ∈ h.signals ∧ h.now < h'.now ∧ h'.now ≤ h.now + span
  rests : h.Rests watched ∨ h.now < h'.now → h'.Rests watched
  appointments : h'.appointments ⊆ h.appointments
  signals : h'.signals = h.signals

variable {h h' : Host} {watched : List Watched} {d : Duration} {span begun last moment : Nat}

theorem Prolonged.le_of_quiet (prolonged : h.Prolonged span begun last) (quiet : h.QuietUntil last)
    (later : h.now + span ≤ begun) : last ≤ begun := by
  refine Nat.le_of_not_lt fun more => ?_
  obtain ⟨signal, member, before, within⟩ := prolonged begun (Nat.le_refl _) more
  rcases quiet signal member with past | after <;> omega

theorem Prolonged.of_signals (prolonged : h'.Prolonged span begun last)
    (signals : h'.signals = h.signals) : h.Prolonged span begun last := by
  unfold Prolonged at prolonged ⊢
  rwa [← signals]

theorem Prolonged.mono {span' begun' last' : Nat} (prolonged : h.Prolonged span begun last)
    (wider : span ≤ span') (later : begun ≤ begun') (earlier : last' ≤ last) :
    h.Prolonged span' begun' last' := by
  intro moment from_ before
  obtain ⟨signal, member, past, within⟩ := prolonged moment (by omega) (by omega)
  exact ⟨signal, member, past, by omega⟩

/-- Whoever gives up once the time is over, and only with signals much later, is in time. -/
theorem EndsInTime.of_prolonged (covers : h.now + d.nanos ≤ last)
    (prolonged : h.Prolonged (d.wholeMillis * 1000000) (h.now + d.nanos + 999999) last) :
    h.EndsInTime d last := by
  refine ⟨covers, fun quiet => ?_, prolonged⟩
  have rounded := d.wholeMillis_le
  have early := prolonged.le_of_quiet quiet (by omega)
  omega

namespace LastsUntil

theorem endsInTime (lasts : h.LastsUntil (d.wholeMillis * 1000000) last) :
    h.EndsInTime d last := by
  have covers := lasts.covers
  have rounds := d.le_wholeMillis
  have rounded := d.wholeMillis_le
  exact .of_prolonged (by omega) (lasts.prolonged.mono (Nat.le_refl _) (by omega) (Nat.le_refl _))

theorem of_quiet (quiet : h.QuietUntil (h.now + span)) : h.LastsUntil span (h.now + span) where
  covers := Nat.le_refl _
  settled signal member before := by
    rcases quiet signal member with past | after <;> omega
  prolonged moment later before := by omega

/-- A wait is over as soon as it may be. -/
theorem le_of_settled {last' : Nat} (lasts : h.LastsUntil span last) (covers : h.now + span ≤ last')
    (settled : ∀ signal ∈ h.signals, signal ≤ last' → signal + span ≤ last') : last ≤ last' := by
  refine Nat.le_of_not_lt fun more => ?_
  obtain ⟨signal, member, before, within⟩ := lasts.prolonged last' covers more
  have := settled signal member before
  omega

/-- A wait is over at one moment only. -/
theorem unique {last' : Nat} (lasts : h.LastsUntil span last) (lasts' : h.LastsUntil span last') :
    last = last' :=
  Nat.le_antisymm (lasts.le_of_settled lasts'.covers lasts'.settled)
    (lasts'.le_of_settled lasts.covers lasts.settled)

theorem eq_of_quiet (lasts : h.LastsUntil span last) (quiet : h.QuietUntil (h.now + span)) :
    last = h.now + span :=
  lasts.unique (.of_quiet quiet)

/-- No time at all is not made longer by signals. -/
theorem eq_now (lasts : h.LastsUntil 0 last) : last = h.now :=
  lasts.eq_of_quiet fun signal _ => (Nat.lt_or_ge h.now signal).symm

theorem congr (lasts : h.LastsUntil span last) (now : h'.now = h.now)
    (signals : h'.signals = h.signals) : h'.LastsUntil span last := by
  obtain ⟨covers, settled, prolonged⟩ := lasts
  refine ⟨by omega, by rwa [signals], ?_⟩
  rw [now]
  exact prolonged.of_signals signals.symm

/-- A signal in the meantime does not change when a wait is over. -/
theorem signal_iff (signals : h'.signals = h.signals) (comes : h'.now ∈ h.signals)
    (passes : h.now < h'.now) (within : h'.now ≤ h.now + span) :
    h'.LastsUntil span last ↔ h.LastsUntil span last := by
  constructor
  · intro lasts
    have covers := lasts.covers
    refine ⟨by omega, by rw [← signals]; exact lasts.settled, fun moment later before => ?_⟩
    by_cases soon : moment < h'.now + span
    · exact ⟨h'.now, comes, by omega, soon⟩
    · rw [← signals]
      exact lasts.prolonged moment (by omega) before
  · intro lasts
    have covers := lasts.covers
    have settled := lasts.settled h'.now comes (by omega)
    refine ⟨settled, by rw [signals]; exact lasts.settled, fun moment later before => ?_⟩
    rw [signals]
    exact lasts.prolonged moment (by omega) before

end LastsUntil

theorem countP_lt {now signal : Nat} {signals : List Nat} (member : signal ∈ signals)
    (passes : now < signal) : signals.countP (signal < ·) < signals.countP (now < ·) := by
  induction signals with
  | nil => cases member
  | cons first rest ih =>
    have fewer : rest.countP (signal < ·) ≤ rest.countP (now < ·) := by
      refine List.countP_mono_left fun other _ later => ?_
      simp only [decide_eq_true_eq] at later ⊢
      omega
    simp only [List.countP_cons, decide_eq_true_eq]
    rcases List.mem_cons.mp member with rfl | later
    · rw [if_neg (Nat.lt_irrefl _), if_pos passes]
      omega
    · have less := ih later
      split <;> split <;> omega

theorem signalsAhead_lt (signals : h'.signals = h.signals) (comes : h'.now ∈ h.signals)
    (passes : h.now < h'.now) : h'.signalsAhead < h.signalsAhead := by
  rw [signalsAhead, signalsAhead, signals]
  exact countP_lt comes passes

/-- There are finitely many signals, so that every wait is over in the end. -/
theorem exists_lastsUntil (h : Host) (span : Nat) : ∃ last, h.LastsUntil span last := by
  generalize counted : h.signalsAhead = left
  induction left using Nat.strongRecOn generalizing h with
  | ind left ih =>
    by_cases quiet : h.QuietUntil (h.now + span)
    · exact ⟨_, .of_quiet quiet⟩
    · simp only [QuietUntil, Classical.not_forall, not_or, Nat.not_le, Nat.not_lt] at quiet
      obtain ⟨signal, member, passes, within⟩ := quiet
      let later : Host := { h with now := signal }
      have fewer : later.signalsAhead < h.signalsAhead := signalsAhead_lt rfl member passes
      have same (last : Nat) : later.LastsUntil span last ↔ h.LastsUntil span last :=
        LastsUntil.signal_iff rfl member passes within
      obtain ⟨last, lasts⟩ := ih _ (counted ▸ fewer) later rfl
      exact ⟨last, (same last).mp lasts⟩

theorem now_keep (h : Host) (a : Appointment) : (h.keep a).now = max h.now a.due := by
  suffices ∀ (actions : List PeerAction) (h : Host), (actions.foldl actRecorded h).now = h.now from
    this _ _
  intro actions
  induction actions with
  | nil => exact fun _ => rfl
  | cons action rest ih => exact fun h => (ih _).trans (h.now_act action)

theorem signals_keep (h : Host) (a : Appointment) : (h.keep a).signals = h.signals := by
  suffices ∀ (actions : List PeerAction) (h : Host),
      (actions.foldl actRecorded h).signals = h.signals from this _ _
  intro actions
  induction actions with
  | nil => exact fun _ => rfl
  | cons action rest ih => exact fun h => (ih _).trans (h.signals_act action)

/-- Without a signal up to a moment, none interrupts a wait that ends then. -/
theorem quiet_of_signal? (none_comes : h.signal? (some moment) = none) : h.QuietUntil moment := by
  intro signal member
  have missing := List.filter_eq_nil_iff.mp (List.min?_eq_none_iff.mp none_comes) signal member
  simp only [Option.all_some, Bool.and_eq_true, decide_eq_true_eq, not_and, Nat.not_le] at missing
  exact (Nat.lt_or_ge h.now signal).symm.imp_right missing

namespace EndsBy

theorem at_once (some_ready : 0 < h.readyCount watched) (early : h.now ≤ moment) :
    h.EndsBy watched moment (.ok (h.readyCount watched), h) := by
  obtain ⟨n, counted⟩ := Nat.exists_eq_add_one.mpr some_ready
  rw [counted]
  refine .ready (Nat.le_refl _) early (Or.inl ⟨rfl, fun rests => ?_⟩) (List.Subset.refl _) rfl
  rw [rests.nothing] at counted
  cases counted

theorem in_peace (none_ready : ¬ 0 < h.readyCount watched)
    (later : ∀ a ∈ h.appointments.head?, moment < a.due) :
    h.EndsBy watched moment (.ok 0, { h with now := moment }) :=
  .expired rfl ⟨Nat.eq_zero_of_not_pos none_ready, later⟩ (List.Subset.refl _) rfl

/-- To keep the first appointment changes nothing about when a wait ends. -/
theorem of_keep {a : Appointment} {rest : List Appointment} {answer : Except Errno Nat × Host}
    (ahead : h.appointments = a :: rest)
    (ends : ({ h with appointments := rest }.keep a).EndsBy watched moment answer) :
    h.EndsBy watched moment answer := by
  have kept := now_keep { h with appointments := rest } a
  have left := appointments_keep { h with appointments := rest } a
  have signals := signals_keep { h with appointments := rest } a
  have fewer : rest ⊆ h.appointments := ahead ▸ List.subset_cons_self a rest
  generalize ({ h with appointments := rest } : Host).keep a = next at *
  dsimp only at kept left signals
  rw [← left] at fewer
  cases ends with
  | expired ended rests fewer' same =>
    exact .expired ended rests (List.Subset.trans fewer' fewer) (same.trans signals)
  | ready after within at_ fewer' same =>
    have later : h.now ≤ next.now := kept ▸ Nat.le_max_left ..
    refine .ready (Nat.le_trans later after) within ?_ (List.Subset.trans fewer' fewer)
      (same.trans signals)
    rcases at_ with ⟨still, _⟩ | ⟨b, member, due⟩
    · rw [still, kept]
      rcases Nat.lt_or_ge h.now a.due with waits | overdue
      · exact Or.inr ⟨a, by simp [ahead], Nat.max_eq_right (Nat.le_of_lt waits)⟩
      · refine Or.inl ⟨Nat.max_eq_left overdue, fun rests => ?_⟩
        exact Nat.lt_irrefl _ (Nat.lt_of_lt_of_le (rests.early a (by simp [ahead])) overdue)
    · exact Or.inr ⟨b, fewer member, due⟩

end EndsBy

theorem await_ends (watched : List Watched) {h : Host} (early : h.now ≤ moment) :
    h.EndsBy watched moment (await watched (some moment) h.appointments h) := by
  generalize ahead : h.appointments = appointments
  induction appointments generalizing h with
  | nil =>
    unfold await
    split
    · rename_i some_ready
      exact .at_once some_ready early
    · rename_i none_ready
      exact .in_peace none_ready (by simp [ahead])
  | cons a rest ih =>
    unfold await
    split
    · rename_i some_ready
      exact .at_once some_ready early
    · rename_i none_ready
      dsimp only
      split
      · rename_i due
        refine .of_keep ahead (ih ?_ (appointments_keep { h with appointments := rest } a))
        rw [now_keep]
        exact Nat.max_le.mpr ⟨early, due⟩
      · rename_i later
        refine .in_peace none_ready ?_
        simp only [ahead, List.head?_cons, Option.mem_some_iff]
        rintro _ rfl
        exact Nat.lt_of_not_le later

theorem Awaits.after {answer : Except Errno Nat × Host} (dwells : h.Dwells watched span h')
    (awaits : h'.Awaits watched d last answer) : h.Awaits watched d last answer := by
  obtain ⟨time, rests, fewer, signals⟩ := dwells
  cases awaits with
  | expired ended => exact .expired ended
  | ready after within at_ fewer' signals' =>
    have passed : h.now ≤ h'.now := by
      rcases time with still | ⟨_, passes, _⟩ <;> omega
    refine .ready (Nat.le_trans passed after) within ?_ (List.Subset.trans fewer' fewer)
      (signals'.trans signals)
    rcases at_ with ⟨same, busy⟩ | ⟨a, member, due⟩
    · have stays : ¬ (h.Rests watched ∨ h.now < h'.now) := mt rests busy
      refine Or.inl ⟨?_, fun rested => stays (Or.inl rested)⟩
      rcases time with still | ⟨_, passes, _⟩
      · exact same.trans still
      · exact absurd (Or.inr passes) stays
    · exact Or.inr ⟨a, fewer member, due⟩
  | failed earlier final calls => exact .failed earlier final calls

/-- A wait that begins again is over when it would have been. -/
theorem Dwells.lastsUntil (dwells : h.Dwells watched span h')
    (lasts : h.LastsUntil span last) : h'.LastsUntil span last := by
  rcases dwells.time with still | ⟨comes, passes, within⟩
  · exact lasts.congr still dwells.signals
  · exact (LastsUntil.signal_iff dwells.signals comes passes within).mpr lasts

/-- Meeting an outcome that was set before takes no time. -/
theorem Dwells.of_outcome (h : Host) (watched : List Watched) (span patience : Nat)
    (callFaults : Table FaultPoint (List (Option Errno))) :
    h.Dwells watched span { h with patience, callFaults } := by
  refine ⟨Or.inl rfl, ?_, List.Subset.refl _, rfl⟩
  rintro (rests | passes)
  · exact ⟨rests.nothing, rests.early⟩
  · exact absurd passes (Nat.lt_irrefl _)

theorem waitOnce_awaits (lasts : h.LastsUntil (d.pollMillis * 1000000) last)
    (watched : List Watched) (call : Except Errno Nat → Call) :
    let answer := h.waitOnce watched (some (h.now + d.pollMillis * 1000000))
    (answer.1 = .error .eintr ∧
        h.Dwells watched (d.pollMillis * 1000000) (answer.2.record (call answer.1))) ∨
      h.Awaits watched d last (answer.1, answer.2.record (call answer.1)) := by
  have covers := lasts.covers
  rcases h.waitOnce_cases watched (some (h.now + d.pollMillis * 1000000)) with
    ⟨none_comes, waits⟩ | ⟨signal, comes, waits⟩
  · obtain rfl := lasts.eq_of_quiet (quiet_of_signal? none_comes)
    have ends := await_ends watched (Nat.le_add_right h.now (d.pollMillis * 1000000))
    dsimp only
    rw [waits]
    right
    generalize await watched _ h.appointments h = answer at *
    cases ends with
    | expired ended => exact .expired ended
    | ready after within at_ fewer signals => exact .ready after within at_ fewer signals
  · obtain ⟨member, passes, before⟩ := signal?_mem comes
    have within := before _ rfl
    have ends := await_ends watched (Nat.le_of_lt passes)
    dsimp only
    rcases waits with ⟨waits, early⟩ | ⟨h', expired, waits⟩
    · right
      rw [waits] at early ⊢
      generalize await watched _ h.appointments h = answer at *
      cases ends with
      | expired => exact absurd rfl early
      | ready after soon at_ fewer signals =>
        exact .ready after (by dsimp only [record]; omega) at_ fewer signals
    · left
      rw [waits]
      rw [expired] at ends
      cases ends with
      | expired ended rests fewer signals =>
        have time : (h'.record (call (.error .eintr))).now = signal := ended
        refine ⟨rfl, Or.inr ⟨?_, ?_, ?_⟩, fun _ => ⟨rests.nothing, rests.early⟩, fewer, signals⟩
        · rwa [time]
        · rwa [time]
        · rwa [time]

theorem poll_awaits (lasts : h.LastsUntil (d.pollMillis * 1000000) last) (watched : List Watched) :
    (∃ h', h.poll watched (some d.pollMillis) = (.error .eintr, h') ∧
      h.Dwells watched (d.pollMillis * 1000000) h') ∨
    h.Awaits watched d last (h.poll watched (some d.pollMillis)) := by
  unfold poll pollOnce
  dsimp only
  split
  · exact Or.inr (.failed _ (by simp) rfl)
  · rename_i patience _
    split
    · rename_i e mid fault
      obtain ⟨callFaults, rfl⟩ := frame_of_takeFault fault
      by_cases interrupted : e = .eintr
      · subst interrupted
        have dwells := Dwells.of_outcome h watched (d.pollMillis * 1000000) patience callFaults
        exact Or.inl ⟨_, rfl, dwells.time, fun rests => ⟨(dwells.rests rests).nothing,
          (dwells.rests rests).early⟩, dwells.appointments, dwells.signals⟩
      · exact Or.inr (.failed _ interrupted rfl)
    · rename_i mid fault
      obtain ⟨callFaults, rfl⟩ := frame_of_takeFault fault
      have dwells := Dwells.of_outcome h watched (d.pollMillis * 1000000) patience callFaults
      rcases waitOnce_awaits (dwells.lastsUntil lasts) watched (.poll watched (some d.pollMillis))
        with ⟨interrupted, again⟩ | awaits
      · refine Or.inl ⟨_, Prod.ext interrupted rfl, again.time, fun rests => ?_,
          again.appointments, again.signals⟩
        exact again.rests (rests.imp_left fun rests => dwells.rests (Or.inl rests))
      · exact Or.inr (awaits.after dwells)

/-- A wait that is interrupted begins again, for the same time, until no signal interrupts it. -/
theorem waitReady_awaits (lasts : h.LastsUntil (d.pollMillis * 1000000) last)
    (watched : List Watched) : h.Awaits watched d last (h.waitReady watched (some d)) := by
  generalize given : some d = timeout
  fun_induction waitReady h watched timeout with
  | case1 h h' answer ih =>
    subst given
    rw [Option.map_some] at answer
    rcases poll_awaits lasts watched with ⟨mid, polled, dwells⟩ | awaits
    · rw [polled] at answer
      cases answer
      exact (ih (dwells.lastsUntil lasts)).after dwells
    · rw [answer] at awaits
      cases awaits with
      | failed _ final _ => exact absurd rfl final
  | case2 h result h' other answer =>
    subst given
    rw [Option.map_some] at answer
    rcases poll_awaits lasts watched with ⟨mid, polled, _⟩ | awaits
    · rw [polled] at answer
      cases answer
      exact (other rfl).elim
    · rwa [answer] at awaits

end Host

end LocalPipe
