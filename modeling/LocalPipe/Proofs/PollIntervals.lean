import LocalPipe.Proofs.Wakeups

namespace LocalPipe

open Host

/-- A wait of no length, which comes back at once. -/
def Call.isEmptyWait : Call → Bool
  | .poll _ (some 0) _ | .sleep 0 => true
  | _ => false

namespace Duration

variable {d : Duration}

/-- A poll is asked for no time at all just if there is less than a microsecond. -/
theorem pollMillis_eq_zero_iff : d.pollMillis = 0 ↔ d.nanos < 1000 := by
  rw [pollMillis, longestPoll]
  omega

theorem Timely.le_nanos (timely : d.Timely) (some_time : 0 < d.nanos) : 1000 ≤ d.nanos := by
  have part := timely.part
  omega

theorem pos_of_sleepSeconds {seconds piece : Nat} (member : piece ∈ sleepSeconds seconds) :
    0 < piece := by
  rcases List.mem_append.mp member with whole | last
  · rw [List.eq_of_mem_replicate whole, longestSleep]
    exact Nat.succ_pos _
  · simpa using (List.mem_filter.mp last).2

/-- No part of a sleep is empty. -/
theorem pos_of_sleepParts {part : Duration} (member : part ∈ d.sleepParts) : 0 < part.nanos := by
  have pieces (piece : Nat) := @pos_of_sleepSeconds d.seconds piece
  unfold sleepParts at member
  split at member
  · split at member
    · cases member
    · rename_i some_rest
      rw [List.mem_singleton.mp member]
      rw [subsecond] at some_rest
      omega
  · rename_i first rest seconds
    rw [seconds] at pieces
    rcases List.mem_cons.mp member with rfl | later
    · have some_time := pieces first List.mem_cons_self
      rw [ofParts]
      dsimp only
      omega
    · obtain ⟨piece, within, rfl⟩ := List.mem_map.mp later
      have some_time := pieces piece (List.mem_cons_of_mem _ within)
      rw [ofSeconds, ofParts]
      dsimp only
      omega

end Duration

namespace Host

/-- What others do is no wait of the program. -/
theorem lasting_waitFrame : WaitFrame (fun call => call.isEmptyWait = false)
    (Makes fun call => call.isEmptyWait = false) where
  trans := Makes.trans
  passes _ _ _ _ _ _ := .of_calls rfl
  record h call lasts := .of_record call lasts rfl
  act h action := by
    have acts : Makes (fun call => call.isEmptyWait = false) h (h.act action).2 := by
      refine Makes.mono (h.letsGo_act action) fun call release => ?_
      cases call <;> simp_all [Call.isRelease, Call.isEmptyWait]
    exact acts.trans (.of_record (.outside action (h.act action).1) rfl rfl)

end Host

namespace WaitSet

variable {w : WaitSet} {d : Duration} {h h' : Host}

/-- A wait for some time asks for no wait of no length, if it is to last a microsecond at least
or has nothing to wait for. -/
theorem wait_lasts (w : WaitSet) (h : Host) (enough : w.handles = [] ∨ 1000 ≤ d.nanos) :
    Makes (fun call => call.isEmptyWait = false) h (w.wait (some d) h).2 := by
  refine lasting_waitFrame.wait h (fun some_handles result => ?_) fun d' _ part member => ?_
  · have some_millis : d.pollMillis ≠ 0 := by
      have some_time := enough.resolve_left some_handles
      rw [ne_eq, Duration.pollMillis_eq_zero_iff]
      omega
    cases millis : d.pollMillis with
    | zero => exact absurd millis some_millis
    | succ n => simp [millis, Call.isEmptyWait]
  · have some_time := Duration.pos_of_sleepParts member
    cases nanos : part.nanos with
    | zero => omega
    | succ n => rfl

/-- A wait that ends with nothing ready has lasted for as long as it should, and for less than a
millisecond more unless a signal came. -/
theorem wait_expired (expires : w.wait (some d) h = (.ok 0, h'))
    (timely : w.handles = [] ∨ d.Timely) : h.EndsInTime d h'.now := by
  unfold wait at expires
  split at expires
  · cases expires
    rw [now_sleep]
    exact .of_prolonged (Nat.le_refl _) fun moment later before => by omega
  · rename_i some_handles
    have timely' := timely.resolve_left (by simpa [isEmpty] using some_handles)
    obtain ⟨last, lasts⟩ := h.exists_lastsUntil (d.pollMillis * 1000000)
    have awaits := waitReady_awaits lasts (w.handles.map .handle)
    split at expires
    · rename_i answer
      cases expires
      rw [answer] at awaits
      cases awaits with
      | expired ended =>
        rw [ended]
        rw [timely'.pollMillis_eq] at lasts
        exact lasts.endsInTime
    · cases expires

end WaitSet

/-- A service that reports that nothing has moved has taken no time. -/
theorem Endpoint.now_service {ep ep' : Endpoint} {waits waits' : WaitSet} {h h' : Host}
    (sound : ∀ c, ep.connection = some c → c.Sound)
    (run : ep.service waits h = .ok (false, waits', ep') h') : h'.now = h.now := by
  cases connected : ep.connection with
  | none =>
    rw [service_closed waits connected] at run
    cases run
    rfl
  | some c =>
    obtain ⟨mid, received, sent⟩ :=
      (c.ticked (q := ep.queues) (h := h) (sound c connected)).halves
    have served := served_of_run connected (sound c connected) run
    generalize reports : (false, waits', ep') = outcome at served
    cases served with
    | kept => rw [sent.writes.rest, received.reads.rest]
    | failed => cases reports

namespace EventLoop

variable {σ : Type}

/-- A service that reports that something moved, or that the endpoint has failed. -/
def moving : Serving := fun _ _ moved _ _ =>
  moved = true

variable {handler : Handler σ} {own : σ → List Endpoint} {spare : σ → List Descriptor}
  {lp : EventLoop} {state : σ} {h₀ h h' : Host} {run run' : Running σ} {left : Duration}
  {now now' : Nat}

namespace Running

/-- The end of a tick when the poll interval has passed: the handler is called. -/
def timeout (handler : Handler σ) (run : Running σ) : Action (Progress σ) := do
  let (eventLoop, state) ← handler.onTimeout run.eventLoop run.state
  return beginTick { run with eventLoop, state, acted := true, lastTimeout := (← get).now }

/-- The loop comes, in the tick that it is in, to a callback: for an endpoint that moved, or,
with nothing else before, for the poll interval at the end of the tick. -/
def ComesToCallback (handler : Handler σ) (run : Running σ) (h : Host) : Prop :=
  run.ComesTo handler moving h ∨ ∃ places run' h', run.Passes handler h places run' h' ∧
    run'.eventLoop.pipes[run'.place]? = none ∧ run'.step handler h' = run'.timeout handler h'

/-- What the wait of a loop comes to when some time of the poll interval is left. It asks for no
wait of no length. If no handle is ready when it ends, all of that time has passed, and less
than a millisecond more unless a signal came, and the next tick comes to a callback; if one is,
the next tick comes to a service that works; and if the wait fails, the run ends. -/
structure WaitsOut (handler : Handler σ) (run : Running σ) (h : Host) (left : Duration) :
    Prop where
  some_left : 0 < left.nanos
  lasts : ∀ call ∈ (run.waited h).2.since h.calls, call.isEmptyWait = false
  expires : ∀ h', run.waited h = (.ok 0, h') →
    h.EndsInTime left h'.now ∧
    run.step handler h = .ok (.running run.again) h' ∧ run.again.ComesToCallback handler h'
  wakes : ∀ n h', run.waited h = (.ok (n + 1), h') → h'.Faultless →
    run.step handler h = .ok (.running run.again) h' ∧ run.again.ComesTo handler working h'
  fails : ∀ e h', run.waited h = (.error e, h') →
    run.step handler h = .ok (.finished (.error e) run.eventLoop run.state) h'

theorem step_timeout (through : run.eventLoop.pipes[run.place]? = none)
    (passed : run.intervalPassed h.now = true) : run.step handler h = run.timeout handler h := by
  have calls : run.callTimeout handler h = _ := callTimeout_passed passed
  rw [step_through through]
  unfold endTick timeout
  simp only [bind, EStateM.bind] at calls ⊢
  rw [calls]
  cases handler.onTimeout run.eventLoop run.state h <;> rfl

/-- Some time is left when a loop waits. -/
theorem left_pos (early : run.intervalPassed now = false)
    (remains : run.intervalLeft now = some left) : 0 < left.nanos := by
  unfold intervalPassed at early
  unfold intervalLeft at remains
  cases period : run.eventLoop.pollInterval with
  | none =>
    rw [period] at remains
    cases remains
  | some interval =>
    rw [period] at early remains
    cases remains
    simp only [decide_eq_false_iff_not] at early
    dsimp only
    omega

/-- When the time that was left has passed, the poll interval has. -/
theorem intervalPassed_of_left (remains : run.intervalLeft now = some left)
    (began : run.lastTimeout ≤ now) (passes : now + left.nanos ≤ now') :
    run.intervalPassed now' = true := by
  unfold intervalPassed
  unfold intervalLeft at remains
  cases period : run.eventLoop.pollInterval with
  | none =>
    rw [period] at remains
    cases remains
  | some interval =>
    rw [period] at remains
    cases remains
    dsimp only at passes ⊢
    rw [decide_eq_true_iff]
    omega

/-- When the poll interval has passed as a tick begins, the tick comes to a callback. -/
theorem comesToCallback (reached : run.eventLoop.Reached) (begins : run.place = 0)
    (passed : run.intervalPassed h.now = true) : run.ComesToCallback handler h := by
  have rests : RestsKeep moving fun h' => h'.now = h.now := by
    rintro ep waits waits' h₁ h₂ moved ep' sound same serves still
    have stays : moved = false := by simpa [moving] using still
    subst stays
    exact ⟨rfl, (Endpoint.now_service sound serves).trans same⟩
  have within : run.place + run.eventLoop.pipes.length ≤ run.eventLoop.pipes.length := by omega
  rcases comesTo_or_passes _ rests reached rfl within with comes | ⟨run', h', passes, same⟩
  · exact Or.inl comes
  · have through : run'.eventLoop.pipes[run'.place]? = none := by
      rw [List.getElem?_eq_none_iff, passes.length, passes.place]
      omega
    have passed' : run'.intervalPassed h'.now = true := by
      rw [intervalPassed, passes.pollInterval, passes.lastTimeout, same]
      exact passed
    exact Or.inr ⟨_, run', h', passes, through, step_timeout through passed'⟩

end Running

/-- The poll interval has begun by now in every state that is visited: time goes on. -/
theorem Visits.began (visits : Visits handler lp state h₀ run h)
    (tending : handler.Tending own spare)
    (household : Household (lp.endpoints ++ own state) (spare state) h₀) :
    run.lastTimeout ≤ h.now := by
  induction visits with
  | start begun =>
    obtain ⟨_, rfl⟩ := Running.beginTick_running begun
    exact Nat.le_refl _
  | @step run run' h h' before stepped ih =>
    have reached := before.reached_of_tending tending household
    have serving {ep ep' : Endpoint} {waits waits' : WaitSet} {moved : Bool} {mid : Host}
        (here : run.eventLoop.pipes[run.place]? = some (some ep))
        (serves : ep.service waits h = .ok (moved, waits', ep') mid) : h.now ≤ mid.now :=
      (Endpoint.minds_service (reached.sound (List.mem_of_getElem? here)) serves).secures.time
    cases Running.goes_of_step stepped with
    | rest here serves => exact Nat.le_trans ih (serving here serves)
    | move here serves calls =>
      have served := household_service (before.household tending household) here serves
      have called := (tending.onPipe calls).time served
      exact Nat.le_trans ih (Nat.le_trans (serving here serves) called)
    | skip => exact ih
    | timeout => exact Nat.le_refl _
    | turn _ _ ended =>
      rcases ended with rfl | ⟨n, waited⟩
      · exact ih
      · exact Nat.le_trans ih (secures_waited waited).time

/-- A poll interval keeps a loop from spinning, as far as one poll can be asked for the time that
is left: each of its waits lasts for that time unless a handle is ready before. -/
theorem Handler.Tending.waits_out (tending : handler.Tending own spare)
    (household : Household (lp.endpoints ++ own state) (spare state) h₀)
    (visits : Visits handler lp state h₀ run h) (waits : run.AtWait h)
    (remains : run.intervalLeft h.now = some left)
    (timely : run.waits.handles = [] ∨ left.Timely) : run.WaitsOut handler h left := by
  have some_left := Running.left_pos waits.early remains
  have reached := visits.reached_of_tending tending household
  have waited_eq : run.waited h =
      run.waits.wait (some left) (h.log (.waiting run.waits.length (some left))) := by
    rw [Running.waited, remains]
  refine ⟨some_left, ?_, fun h' expires => ?_, fun n h' wakes faultless => ?_, fun e h' fails => ?_⟩
  · have lasts := run.waits.wait_lasts (h.log (.waiting run.waits.length (some left)))
      (timely.imp_right fun timely => timely.le_nanos some_left)
    rw [waited_eq]
    exact lasts.of_since
  · rw [waited_eq] at expires
    have ends := WaitSet.wait_expired expires timely
    have passed : run.again.intervalPassed h'.now = true :=
      Running.intervalPassed_of_left remains (visits.began tending household) ends.covers
    rw [← waited_eq] at expires
    exact ⟨⟨ends.covers, ends.close, ends.prolonged⟩, waits.step_waited expires,
      Running.comesToCallback reached rfl passed⟩
  · exact ⟨waits.step_waited wakes, visits.comesToWork tending household waits wakes faultless⟩
  · rw [waits.step_eq, Running.wait_eq fun _ ever => ?_, fails]
    rw [Running.intervalLeft, ever] at remains
    cases remains

/-- Two and a half milliseconds are waited for as three. -/
theorem rotating_waits_out : ∃ run h h',
    Visits rotating ⟨[some listening], some ⟨2500000⟩, false⟩ () typed run h ∧ run.AtWait h ∧
      run.intervalLeft h.now = some ⟨2500000⟩ ∧ run.waited h = (.ok 0, h') ∧ h'.now = 3000000 ∧
      run.again.ComesToCallback rotating h' := by
  let start : Running Unit :=
    ⟨⟨[some listening], some ⟨2500000⟩, false⟩, (), 0, {}, false, typed.now⟩
  have comes : (after rotating 5 start typed).map (fun s =>
      (decide (s.1.AtWait s.2), s.1.intervalLeft s.2.now, decide ((s.1.waited s.2).1 = .ok 0),
        (s.1.waited s.2).2.now)) = some (true, some ⟨2500000⟩, true, 3000000) := by
    decide +kernel
  obtain ⟨⟨run, h⟩, reaches, shown⟩ := Option.map_eq_some_iff.mp comes
  simp only [Prod.mk.injEq, decide_eq_true_eq] at shown
  obtain ⟨waits, remains, expires, time⟩ := shown
  have visits : Visits rotating ⟨[some listening], some ⟨2500000⟩, false⟩ () typed run h :=
    (Visits.start rfl).of_after reaches
  have household : Household
      ((⟨[some listening], some ⟨2500000⟩, false⟩ : EventLoop).endpoints ++ []) [] typed :=
    household_listening
  have waited : run.waited h = (.ok 0, (run.waited h).2) := Prod.ext expires rfl
  have timely : (⟨2500000⟩ : Duration).Timely := ⟨by decide, Or.inr (by decide)⟩
  have waitsOut := tending_rotating.waits_out household visits waits remains (Or.inr timely)
  obtain ⟨_, _, callback⟩ := waitsOut.expires _ waited
  exact ⟨run, h, _, visits, waits, remains, waited, time, callback⟩

/-- With less than a microsecond left, a wait asks for no time at all, and the next tick comes
to the same wait, without a callback and at the same time. -/
theorem not_always_waited_out : ∃ run h h' run' h'',
    Visits rotating ⟨[some listening], some ⟨500⟩, false⟩ () typed run h ∧ run.AtWait h ∧
      run.intervalLeft h.now = some ⟨500⟩ ∧ run.waited h = (.ok 0, h') ∧ h'.now = h.now ∧
      (h'.since h.calls).any Call.isEmptyWait = true ∧
      after rotating 3 run h = some (run', h'') ∧ run'.AtWait h'' ∧ h''.now = h.now := by
  let start : Running Unit := ⟨⟨[some listening], some ⟨500⟩, false⟩, (), 0, {}, false, typed.now⟩
  have comes : (after rotating 5 start typed).map (fun s =>
      (decide (s.1.AtWait s.2 ∧ s.1.intervalLeft s.2.now = some ⟨500⟩),
      decide ((s.1.waited s.2).1 = .ok 0 ∧ (s.1.waited s.2).2.now = s.2.now ∧
        ((s.1.waited s.2).2.since s.2.calls).any Call.isEmptyWait = true),
      (after rotating 3 s.1 s.2).map fun s' => decide (s'.1.AtWait s'.2 ∧ s'.2.now = s.2.now))) =
      some (true, true, some true) := by
    decide +kernel
  obtain ⟨⟨run, h⟩, reaches, shown⟩ := Option.map_eq_some_iff.mp comes
  simp only [Prod.mk.injEq, decide_eq_true_eq] at shown
  obtain ⟨⟨waits, remains⟩, ⟨expires, still, empty⟩, next⟩ := shown
  obtain ⟨⟨run', h''⟩, again, shown'⟩ := Option.map_eq_some_iff.mp next
  obtain ⟨waits', still'⟩ := of_decide_eq_true shown'
  exact ⟨run, h, _, run', h'', (Visits.start rfl).of_after reaches, waits, remains,
    Prod.ext expires rfl, still, empty, again, waits', still'⟩

end EventLoop

end LocalPipe
