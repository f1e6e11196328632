import LocalPipe.Proofs.LoopWaits

namespace LocalPipe.EventLoop

/-- What a callback does to the loop that it is given. A change is what a use has made of
the endpoint in a place. -/
inductive Edit where
  | add (ep : Endpoint)
  | remove (id : PipeId)
  | change (id : PipeId) (ep : Endpoint)
  | shutdown
deriving DecidableEq

def edit (lp : EventLoop) : Edit → EventLoop
  | .add ep => (lp.add ep).2
  | .remove id => (lp.remove id).2
  | .change id ep => lp.set id ep
  | .shutdown => lp.shutdown

/-- The edits that can be made of a loop. What is added is an endpoint that its uses lead
to, and an endpoint of the loop changes by being used. -/
inductive Allows (lp : EventLoop) : Edit → Prop
  | add {config : PipeConfig} {ep : Endpoint} : EndpointReach config ep → Allows lp (.add ep)
  | remove (id : PipeId) : Allows lp (.remove id)
  | change {id : PipeId} {ep ep' : Endpoint} {h h' : Host} (use : Endpoint.Use) :
      lp.get? id = some ep → ep.perform use h = .ok ep' h' → Allows lp (.change id ep')
  | shutdown : Allows lp .shutdown

/-- Edits that are made of a loop one after the other. -/
inductive Edited : EventLoop → List Edit → EventLoop → Prop
  | nil {lp : EventLoop} : Edited lp [] lp
  | cons {lp lp' : EventLoop} {edit : Edit} {rest : List Edit} : lp.Allows edit →
      Edited (lp.edit edit) rest lp' → Edited lp (edit :: rest) lp'

variable {σ : Type}

/-- Callbacks that add and remove endpoints, use those that they get from the loop, and
tell the loop to stop, in any order and as often as they like. `holds` is what the
handler's own state keeps to, which may hold endpoints that were removed. -/
structure Handler.Editing (handler : Handler σ) (holds : σ → Prop) : Prop where
  onPipe : ∀ {id lp state h lp' state' h'}, lp.Reached → holds state →
    handler.onPipe id lp state h = .ok (lp', state') h' →
    (∃ edits, lp.Edited edits lp') ∧ holds state'
  onTimeout : ∀ {lp state h lp' state' h'}, lp.Reached → holds state →
    handler.onTimeout lp state h = .ok (lp', state') h' →
    (∃ edits, lp.Edited edits lp') ∧ holds state'

/-- What a loop and its handler do: a tick begins, an empty place is passed, the endpoint
in a place is serviced and reports whether it moved, a callback begins and edits the loop,
and the loop waits. -/
inductive Deed where
  | tick
  | pass (place : Nat)
  | service (place : Nat) (ep : Endpoint) (moved : Bool)
  | call (id : PipeId)
  | timeout
  | edit (edit : Edit)
  | wait
deriving DecidableEq

/-- A loop after a deed. -/
def heed (lp : EventLoop) : Deed → EventLoop
  | .service place ep _ => lp.set ⟨place⟩ ep
  | .edit edit => lp.edit edit
  | _ => lp

/-- A loop after some deeds, the earliest first. -/
def follow (lp : EventLoop) (deeds : List Deed) : EventLoop :=
  deeds.foldl heed lp

def Progress.eventLoop : Progress σ → EventLoop
  | .running run => run.eventLoop
  | .finished _ lp _ => lp

/-- A loop that goes on after the end of a tick begins another one. -/
def Progress.begun : Progress σ → List Deed
  | .running _ => [.tick]
  | .finished _ _ _ => []

namespace Running

/-- What is done in one step of a loop, and what it leads to. -/
inductive Does (handler : Handler σ) (run : Running σ) (h : Host) :
    List Deed → Progress σ → Host → Prop
  | rest {ep waits ep' h'} : run.eventLoop.pipes[run.place]? = some (some ep) →
      ep.service run.waits h = .ok (false, waits, ep') h' →
      Does handler run h [.service run.place ep' false] (.running { run with
        eventLoop := run.eventLoop.set ⟨run.place⟩ ep', waits, place := run.place + 1 }) h'
  | move {ep waits ep' mid edits lp state h'} :
      run.eventLoop.pipes[run.place]? = some (some ep) →
      ep.service run.waits h = .ok (true, waits, ep') mid →
      handler.onPipe ⟨run.place⟩ (run.eventLoop.set ⟨run.place⟩ ep') run.state mid =
        .ok (lp, state) h' →
      (run.eventLoop.set ⟨run.place⟩ ep').Edited edits lp →
      Does handler run h (.service run.place ep' true :: .call ⟨run.place⟩ :: edits.map .edit)
        (.running { run with
          eventLoop := lp, state, waits, place := run.place + 1, acted := true }) h'
  | skip : run.eventLoop.pipes[run.place]? = some none →
      Does handler run h [.pass run.place] (.running { run with place := run.place + 1 }) h
  | timeout {edits lp state progress h'} : run.eventLoop.pipes[run.place]? = none →
      handler.onTimeout run.eventLoop run.state h = .ok (lp, state) h' →
      run.eventLoop.Edited edits lp →
      progress = beginTick
        { run with eventLoop := lp, state, acted := true, lastTimeout := h'.now } →
      Does handler run h (.timeout :: edits.map .edit ++ progress.begun) progress h'
  | turn {progress} : run.eventLoop.pipes[run.place]? = none →
      (run.acted = true ∨ run.eventLoop.exiting = true) → progress = run.beginTick →
      Does handler run h progress.begun progress h
  | wait {progress h'} : run.AtWait h → run.wait h = .ok progress h' →
      Does handler run h (.wait :: progress.begun) progress h'

end Running

/-- All that is done in a run until it comes to a state, or to its end. -/
inductive Chronicle (handler : Handler σ) (lp : EventLoop) (state : σ) (h₀ : Host) :
    List Deed → Progress σ → Host → Prop
  | start {progress} : progress = Running.beginTick ⟨lp, state, 0, {}, false, h₀.now⟩ →
      Chronicle handler lp state h₀ progress.begun progress h₀
  | step {deeds more run progress h h'} : Chronicle handler lp state h₀ deeds (.running run) h →
      run.step handler h = .ok progress h' → run.Does handler h more progress h' →
      Chronicle handler lp state h₀ (deeds ++ more) progress h'

variable {handler : Handler σ} {holds : σ → Prop} {lp lp' : EventLoop} {state : σ}
  {h₀ h h' : Host} {run : Running σ} {progress : Progress σ} {deeds : List Deed}

theorem Allows.reached {edit : Edit} (allows : lp.Allows edit) (reached : lp.Reached) :
    (lp.edit edit).Reached := by
  cases allows with
  | add here => exact reached.add here
  | remove id => exact reached.remove id
  | change use present performed =>
    obtain ⟨config, before⟩ := reached.get? present
    exact reached.set _ (.use use before performed)
  | shutdown => exact reached

theorem Edited.reached {edits : List Edit} (edited : lp.Edited edits lp') (reached : lp.Reached) :
    lp'.Reached := by
  induction edited with
  | nil => exact reached
  | cons allows _ ih => exact ih (allows.reached reached)

/-- Whoever only edits a loop does with its endpoints what can be done with them. -/
theorem Handler.Editing.lawful (editing : handler.Editing holds) : handler.Lawful holds where
  onPipe reached held handled := by
    obtain ⟨⟨_, edited⟩, held'⟩ := editing.onPipe reached held handled
    exact ⟨edited.reached reached, held'⟩
  onTimeout reached held handled := by
    obtain ⟨⟨_, edited⟩, held'⟩ := editing.onTimeout reached held handled
    exact ⟨edited.reached reached, held'⟩

namespace Running

/-- After a wait the next tick begins, or the run ends with an error. -/
theorem wait_ok (waited : run.wait h = .ok progress h') :
    progress = run.beginTick ∨ ∃ e, progress = .finished (.error e) run.eventLoop run.state := by
  unfold wait at waited
  rw [Action.get_bind] at waited
  split at waited
  · obtain ⟨_, _, ends, _⟩ := Action.bind_ok.mp waited
    cases ends
  · obtain ⟨_, mid, _, rest⟩ := Action.bind_ok.mp waited
    obtain ⟨answer, mid', _, last⟩ := Action.bind_ok.mp rest
    cases answer with
    | error e =>
      cases last
      exact Or.inr ⟨e, rfl⟩
    | ok n =>
      cases last
      exact Or.inl rfl

theorem does_of_endTick (editing : handler.Editing holds) (reached : run.eventLoop.Reached)
    (held : holds run.state) (through : run.eventLoop.pipes[run.place]? = none)
    (ended : run.endTick handler h = .ok progress h') :
    ∃ more, run.Does handler h more progress h' := by
  cases passed : run.intervalPassed h.now with
  | true =>
    obtain ⟨called, mid, calls, begun⟩ := Action.bind_ok.mp ended
    rw [callTimeout_passed passed] at calls
    obtain ⟨⟨lp, state⟩, mid', handled, last⟩ := Action.bind_ok.mp calls
    cases last
    simp only [Bool.true_or, if_true, Action.pure_ok] at begun
    obtain ⟨begun, rfl⟩ := begun
    obtain ⟨⟨edits, edited⟩, _⟩ := editing.onTimeout reached held handled
    exact ⟨_, .timeout through handled edited begun.symm⟩
  | false =>
    rw [endTick_early passed] at ended
    split at ended
    · rename_i stops
      obtain ⟨begun, rfl⟩ := Action.pure_ok.mp ended
      exact ⟨_, .turn through (by simpa using stops) begun.symm⟩
    · rename_i resting
      simp only [Bool.or_eq_true, not_or, Bool.not_eq_true] at resting
      exact ⟨_, .wait ⟨through, resting.1, passed, resting.2⟩ ended⟩

/-- Every step does one of these things. -/
theorem does_of_step (editing : handler.Editing holds) (reached : run.eventLoop.Reached)
    (held : holds run.state) (stepped : run.step handler h = .ok progress h') :
    ∃ more, run.Does handler h more progress h' := by
  cases here : run.eventLoop.pipes[run.place]? with
  | none =>
    rw [step_through here] at stepped
    exact does_of_endTick editing reached held here stepped
  | some slot =>
    unfold step at stepped
    rw [here] at stepped
    cases slot with
    | none =>
      cases stepped
      exact ⟨_, .skip here⟩
    | some ep =>
      obtain ⟨served, mid, serves, last⟩ := Action.bind_ok.mp stepped
      cases last
      obtain ⟨⟨moved, waits, ep'⟩, mid', run_service, calls⟩ := Action.bind_ok.mp serves
      cases moved with
      | false =>
        cases calls
        exact ⟨_, .rest here run_service⟩
      | true =>
        obtain ⟨⟨lp, state⟩, mid'', handled, last⟩ := Action.bind_ok.mp calls
        cases last
        obtain ⟨⟨edits, edited⟩, _⟩ :=
          editing.onPipe (reached.service here run_service) held handled
        exact ⟨_, .move here run_service handled edited⟩

end Running

namespace Chronicle

/-- What is told of leads to states that the run visits. -/
theorem visits (chronicle : Chronicle handler lp state h₀ deeds (.running run) h) :
    Visits handler lp state h₀ run h := by
  generalize comes : (Progress.running run : Progress σ) = progress at chronicle
  induction chronicle generalizing run with
  | start begun => exact .start (begun.symm.trans comes.symm)
  | step _ stepped _ ih =>
    subst comes
    exact .step (ih rfl) stepped

end Chronicle

/-- A chronicle can be kept of whatever a run comes to. -/
theorem Visits.chronicled (visits : Visits handler lp state h₀ run h)
    (editing : handler.Editing holds) (reached : lp.Reached) (held : holds state) :
    ∃ deeds, Chronicle handler lp state h₀ deeds (.running run) h := by
  induction visits with
  | start begun => exact ⟨_, .start begun.symm⟩
  | step before stepped ih =>
    obtain ⟨deeds, chronicle⟩ := ih
    obtain ⟨reached', held'⟩ := before.reached editing.lawful reached held
    obtain ⟨more, does⟩ := Running.does_of_step editing reached' held' stepped
    exact ⟨_, chronicle.step stepped does⟩

theorem Chronicle.of_iterate {fuel : Nat} {result : Except IoError Unit} {state' : σ}
    (chronicle : Chronicle handler lp state h₀ deeds progress h)
    (editing : handler.Editing holds) (reached : lp.Reached) (held : holds state)
    (ended : iterate handler fuel progress h = .ok (some (result, lp', state')) h') :
    ∃ deeds, Chronicle handler lp state h₀ deeds (.finished result lp' state') h' := by
  induction fuel generalizing deeds progress h with
  | zero =>
    cases progress with
    | running run => cases ended
    | finished =>
      cases ended
      exact ⟨deeds, chronicle⟩
  | succ fuel ih =>
    cases progress with
    | running run =>
      unfold iterate at ended
      obtain ⟨progress, mid, stepped, rest⟩ := Action.bind_ok.mp ended
      obtain ⟨reached', held'⟩ := chronicle.visits.reached editing.lawful reached held
      obtain ⟨more, does⟩ := Running.does_of_step editing reached' held' stepped
      exact ih (chronicle.step stepped does) rest
    | finished =>
      cases ended
      exact ⟨deeds, chronicle⟩

/-- A chronicle can be kept of a run to its end. -/
theorem Chronicle.of_run {fuel : Nat} {result : Except IoError Unit} {state' : σ}
    (editing : handler.Editing holds) (reached : lp.Reached) (held : holds state)
    (ended : lp.run handler fuel state h₀ = .ok (some (result, lp', state')) h') :
    ∃ deeds, Chronicle handler lp state h₀ deeds (.finished result lp' state') h' := by
  have starts : lp.run handler fuel state h₀ = iterate handler fuel
      (Running.beginTick ⟨lp, state, 0, {}, false, h₀.now⟩) h₀ := rfl
  rw [starts] at ended
  exact (Chronicle.start rfl).of_iterate editing reached held ended

end LocalPipe.EventLoop
