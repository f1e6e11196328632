import LocalPipe.EventLoop.Running
import LocalPipe.Proofs.Actions
import LocalPipe.Proofs.Handles

namespace LocalPipe.EventLoop

variable {σ : Type}

/-- The states that a running loop comes to, each with its host, however its
handler and the host behave. -/
inductive Visits (handler : Handler σ) (lp : EventLoop) (state : σ) (h₀ : Host) :
    Running σ → Host → Prop
  | start {run} : Running.beginTick ⟨lp, state, 0, {}, false, h₀.now⟩ = .running run →
      Visits handler lp state h₀ run h₀
  | step {run run' h h'} : Visits handler lp state h₀ run h →
      run.step handler h = .ok (.running run') h' → Visits handler lp state h₀ run' h'

/-- A callback of the handler ends the program with some condition. -/
def Handler.Raises (handler : Handler σ) (condition : Fatal) (h' : Host) : Prop :=
  (∃ id lp state h, handler.onPipe id lp state h = .error condition h') ∨
    ∃ lp state h, handler.onTimeout lp state h = .error condition h'

namespace Running

/-- A loop is about to wait: the tick has come past all places without a callback,
the poll interval has not passed, and the loop was not told to stop. -/
structure AtWait (run : Running σ) (h : Host) : Prop where
  through : run.eventLoop.pipes[run.place]? = none
  resting : run.acted = false
  early : run.intervalPassed h.now = false
  going : run.eventLoop.exiting = false

instance (run : Running σ) (h : Host) : Decidable (run.AtWait h) :=
  decidable_of_iff (run.eventLoop.pipes[run.place]? = none ∧ run.acted = false ∧
      run.intervalPassed h.now = false ∧ run.eventLoop.exiting = false)
    ⟨fun ⟨through, resting, early, going⟩ => ⟨through, resting, early, going⟩,
      fun waits => ⟨waits.through, waits.resting, waits.early, waits.going⟩⟩

/-- The next tick. -/
def again (run : Running σ) : Running σ :=
  { run with place := 0, waits := {}, acted := false }

/-- What the wait of a loop answers: the number of handles that are ready, after at most
what is left of the poll interval. -/
def waited (run : Running σ) (h : Host) : Except IoError Nat × Host :=
  run.waits.wait (run.intervalLeft h.now)
    (h.log (.waiting run.waits.length (run.intervalLeft h.now)))

/-- What a step comes to after which the loop goes on: an endpoint was serviced,
with a callback if it moved, an empty place was passed, or the next tick begins,
after a callback if the poll interval has passed, and else at once or after a wait. -/
inductive Goes (handler : Handler σ) (run : Running σ) (h : Host) : Running σ → Host → Prop
  | rest {ep waits ep' h'} : run.eventLoop.pipes[run.place]? = some (some ep) →
      ep.service run.waits h = .ok (false, waits, ep') h' →
      Goes handler run h { run with
        eventLoop := run.eventLoop.set ⟨run.place⟩ ep', waits, place := run.place + 1 } h'
  | move {ep waits ep' mid lp state h'} : run.eventLoop.pipes[run.place]? = some (some ep) →
      ep.service run.waits h = .ok (true, waits, ep') mid →
      handler.onPipe ⟨run.place⟩ (run.eventLoop.set ⟨run.place⟩ ep') run.state mid =
        .ok (lp, state) h' →
      Goes handler run h { run with
        eventLoop := lp, state, waits, place := run.place + 1, acted := true } h'
  | skip : run.eventLoop.pipes[run.place]? = some none →
      Goes handler run h { run with place := run.place + 1 } h
  | timeout {lp state h'} : run.eventLoop.pipes[run.place]? = none →
      handler.onTimeout run.eventLoop run.state h = .ok (lp, state) h' → lp.exiting = false →
      Goes handler run h { run with eventLoop := lp, state, lastTimeout := h'.now }.again h'
  | turn {h'} : run.eventLoop.pipes[run.place]? = none → run.eventLoop.exiting = false →
      (h' = h ∨ ∃ n, run.waited h = (.ok n, h')) → Goes handler run h run.again h'

end Running

variable {handler : Handler σ} {lp : EventLoop} {state : σ} {h₀ h h' : Host} {run run' : Running σ}

namespace Running

theorem beginTick_running (begun : run.beginTick = .running run') :
    run.eventLoop.exiting = false ∧ run' = run.again := by
  unfold beginTick at begun
  split at begun
  · cases begun
  · rename_i going
    cases begun
    exact ⟨by simpa using going, rfl⟩

theorem step_through (through : run.eventLoop.pipes[run.place]? = none) :
    run.step handler = run.endTick handler := by
  unfold step
  rw [through]

theorem callTimeout_passed (passed : run.intervalPassed h.now = true) :
    run.callTimeout handler h = (do
      let (eventLoop, state) ← handler.onTimeout run.eventLoop run.state
      return { run with eventLoop, state, acted := true, lastTimeout := (← get).now } :
      Action (Running σ)) h := by
  unfold callTimeout
  rw [Action.get_bind, if_pos passed]

theorem endTick_early (early : run.intervalPassed h.now = false) :
    run.endTick handler h =
      (if run.acted || run.eventLoop.exiting then pure run.beginTick else run.wait :
        Action (Progress σ)) h := by
  have rests : run.callTimeout handler h = .ok run h := by
    unfold callTimeout
    rw [Action.get_bind, if_neg (by simp [early])]
    rfl
  exact Action.bind_of_ok rests

/-- A loop that is about to wait does wait in its next step. -/
theorem AtWait.step_eq (waits : run.AtWait h) : run.step handler h = run.wait h := by
  rw [step_through waits.through, endTick_early waits.early, waits.resting, waits.going,
    if_neg (by simp)]

/-- With no handle and no poll interval there is nothing to wait for. -/
theorem wait_nothing (empty : run.waits.handles = []) (ever : run.eventLoop.pollInterval = none) :
    run.wait h = .error .nothingToWaitFor (h.log (.fatal .nothingToWaitFor)) := by
  obtain ⟨⟨pipes, interval, exiting⟩, state, place, ⟨handles⟩, acted, lastTimeout⟩ := run
  dsimp only at empty ever
  subst empty
  subst ever
  rfl

/-- Otherwise the run ends if its wait fails, and else the next tick begins. -/
theorem wait_eq (something : run.waits.handles = [] → run.eventLoop.pollInterval ≠ none) :
    run.wait h = match run.waited h with
      | (.error e, h') => .ok (.finished (.error e) run.eventLoop run.state) h'
      | (.ok _, h') => .ok run.beginTick h' := by
  have asks : (run.waits.isEmpty && (run.intervalLeft h.now).isNone) = false := by
    simpa [WaitSet.isEmpty, intervalLeft, Option.isSome_iff_ne_none] using something
  let logged := h.log (.waiting run.waits.length (run.intervalLeft h.now))
  have logs : Action.log (.waiting run.waits.length (run.intervalLeft h.now)) h =
      .ok () logged := rfl
  have waited : Action.call (run.waits.wait (run.intervalLeft h.now)) logged =
      .ok (run.waited h).1 (run.waited h).2 := rfl
  unfold wait
  rw [Action.get_bind]
  simp only [asks]
  rw [if_neg Bool.false_ne_true, Action.bind_of_ok logs, Action.bind_of_ok waited]
  generalize run.waited h = answer
  obtain ⟨result, h'⟩ := answer
  cases result <;> rfl

theorem goes_of_endTick (through : run.eventLoop.pipes[run.place]? = none)
    (ended : run.endTick handler h = .ok (.running run') h') : run.Goes handler h run' h' := by
  cases passed : run.intervalPassed h.now with
  | true =>
    obtain ⟨called, mid, calls, begun⟩ := Action.bind_ok.mp ended
    rw [callTimeout_passed passed] at calls
    obtain ⟨⟨lp, state⟩, mid', handled, last⟩ := Action.bind_ok.mp calls
    cases last
    simp only [Bool.true_or, if_true, Action.pure_ok] at begun
    obtain ⟨begun, rfl⟩ := begun
    obtain ⟨going, rfl⟩ := beginTick_running begun
    exact .timeout through handled going
  | false =>
    rw [endTick_early passed] at ended
    split at ended
    · obtain ⟨begun, rfl⟩ := Action.pure_ok.mp ended
      obtain ⟨going, rfl⟩ := beginTick_running begun
      exact .turn through going (Or.inl rfl)
    · by_cases nothing : run.waits.handles = [] ∧ run.eventLoop.pollInterval = none
      · rw [wait_nothing nothing.1 nothing.2] at ended
        cases ended
      · rw [wait_eq (not_and.mp nothing)] at ended
        split at ended
        · cases ended
        · rename_i n mid answer
          obtain ⟨begun, rfl⟩ := EStateM.Result.ok.inj ended
          obtain ⟨going, rfl⟩ := beginTick_running begun
          exact .turn through going (Or.inr ⟨n, answer⟩)

/-- Every step after which the loop goes on is as described. -/
theorem goes_of_step (stepped : run.step handler h = .ok (.running run') h') :
    run.Goes handler h run' h' := by
  cases here : run.eventLoop.pipes[run.place]? with
  | none =>
    rw [step_through here] at stepped
    exact goes_of_endTick here stepped
  | some slot =>
    unfold step at stepped
    rw [here] at stepped
    cases slot with
    | none =>
      cases stepped
      exact .skip here
    | some ep =>
      obtain ⟨served, mid, serves, last⟩ := Action.bind_ok.mp stepped
      cases last
      obtain ⟨⟨moved, waits, ep'⟩, mid', run_service, calls⟩ := Action.bind_ok.mp serves
      cases moved with
      | false =>
        cases calls
        exact .rest here run_service
      | true =>
        obtain ⟨⟨lp, state⟩, mid'', handled, last⟩ := Action.bind_ok.mp calls
        cases last
        exact .move here run_service handled

end Running

/-- The state after some steps, if the loop goes on for so long. -/
def after (handler : Handler σ) : Nat → Running σ → Host → Option (Running σ × Host)
  | 0, run, h => some (run, h)
  | steps + 1, run, h =>
    match run.step handler h with
    | .ok (.running run') h' => after handler steps run' h'
    | _ => none

theorem after_add (first more : Nat) (run : Running σ) (h : Host) :
    after handler (first + more) run h =
      (after handler first run h).bind fun s => after handler more s.1 s.2 := by
  induction first generalizing run h with
  | zero =>
    rw [Nat.zero_add]
    rfl
  | succ first ih =>
    rw [Nat.add_right_comm, after, after]
    split
    · exact ih _ _
    · rfl

namespace Visits

theorem of_after {steps : Nat} (visits : Visits handler lp state h₀ run h)
    (comes : after handler steps run h = some (run', h')) :
    Visits handler lp state h₀ run' h' := by
  induction steps generalizing run h with
  | zero =>
    cases comes
    exact visits
  | succ steps ih =>
    unfold after at comes
    split at comes
    · rename_i stepped
      exact ih (visits.step stepped) comes
    · cases comes

/-- A run comes to each state that is visited, if it has fuel enough, and goes on
from there. -/
theorem run_eq (visits : Visits handler lp state h₀ run h) :
    ∃ steps, ∀ fuel, lp.run handler (steps + fuel) state h₀ =
      iterate handler fuel (.running run) h := by
  induction visits with
  | @start run begun =>
    refine ⟨0, fun fuel => ?_⟩
    have starts : lp.run handler (0 + fuel) state h₀ = iterate handler (0 + fuel)
        (Running.beginTick ⟨lp, state, 0, {}, false, h₀.now⟩) h₀ := rfl
    rw [starts, begun, Nat.zero_add]
  | step _ stepped ih =>
    obtain ⟨steps, runs⟩ := ih
    refine ⟨steps + 1, fun fuel => ?_⟩
    rw [Nat.add_assoc, Nat.add_comm 1, runs, iterate]
    exact Action.bind_of_ok stepped

/-- A run that is cut short is cut short in a step from a state that it visits. -/
theorem of_iterate_error {fuel : Nat} {condition : Fatal}
    (visits : Visits handler lp state h₀ run h)
    (ended : iterate handler fuel (.running run) h = .error condition h') :
    ∃ run h, Visits handler lp state h₀ run h ∧ run.step handler h = .error condition h' := by
  induction fuel generalizing run h with
  | zero => cases ended
  | succ fuel ih =>
    unfold iterate at ended
    simp only [bind, EStateM.bind] at ended
    split at ended
    · rename_i progress mid stepped
      cases progress with
      | running run' => exact ih (visits.step stepped) ended
      | finished => cases fuel <;> cases ended
    · rename_i stepped
      cases ended
      exact ⟨run, h, visits, stepped⟩

theorem of_run_error {fuel : Nat} {condition : Fatal}
    (ended : lp.run handler fuel state h₀ = .error condition h') :
    ∃ run h, Visits handler lp state h₀ run h ∧ run.step handler h = .error condition h' := by
  have starts : lp.run handler fuel state h₀ = iterate handler fuel
      (Running.beginTick ⟨lp, state, 0, {}, false, h₀.now⟩) h₀ := rfl
  rw [starts] at ended
  cases begun : Running.beginTick (⟨lp, state, 0, {}, false, h₀.now⟩ : Running σ) with
  | running run =>
    rw [begun] at ended
    exact (start begun).of_iterate_error ended
  | finished =>
    rw [begun] at ended
    cases fuel <;> cases ended

end Visits

end LocalPipe.EventLoop
