import LocalPipe.Proofs.LoopWaits

namespace LocalPipe.EventLoop

variable {σ : Type}

/-- What a service of an endpoint may be: the endpoint and the host before it, whether it
reports that something moved, and the endpoint and the host after it. -/
abbrev Serving :=
  Endpoint → Host → Bool → Endpoint → Host → Prop

namespace Running

/-- The loop past an empty place. -/
def skipped (run : Running σ) : Running σ :=
  { run with place := run.place + 1 }

/-- The loop past an endpoint that was serviced, with what that has left of it. -/
def rested (run : Running σ) (ep : Endpoint) (waits : WaitSet) : Running σ :=
  { run with eventLoop := run.eventLoop.set ⟨run.place⟩ ep, waits, place := run.place + 1 }

/-- A loop passes some places of a tick, where nothing is called. -/
structure Passes (handler : Handler σ) (run : Running σ) (h : Host) (places : Nat)
    (run' : Running σ) (h' : Host) : Prop where
  reaches : after handler places run h = some (run', h')
  place : run'.place = run.place + places
  acted : run'.acted = run.acted
  lastTimeout : run'.lastTimeout = run.lastTimeout
  pollInterval : run'.eventLoop.pollInterval = run.eventLoop.pollInterval
  length : run'.eventLoop.pipes.length = run.eventLoop.pipes.length
  ahead : ∀ place, run'.place ≤ place →
    run'.eventLoop.pipes[place]? = run.eventLoop.pipes[place]?
  reached : run.eventLoop.Reached → run'.eventLoop.Reached

/-- A loop comes, in the tick that it is in, to a service of some kind. Nothing is called
before. -/
def ComesTo (handler : Handler σ) (kind : Serving) (run : Running σ) (h : Host) : Prop :=
  ∃ places run' h' ep moved waits ep' h'', run.Passes handler h places run' h' ∧
    run'.eventLoop.pipes[run'.place]? = some (some ep) ∧
    ep.service run'.waits h' = .ok (moved, waits, ep') h'' ∧ kind ep h' moved ep' h''

variable {handler : Handler σ} {h h' h'' : Host} {run run' run'' : Running σ} {ep ep' : Endpoint}
  {waits : WaitSet} {places more : Nat}

/-- The answer of a wait without an error begins the next tick. -/
theorem AtWait.step_waited {n : Nat} (waits : run.AtWait h) (waited : run.waited h = (.ok n, h')) :
    run.step handler h = .ok (.running run.again) h' := by
  have something : run.waits.handles = [] → run.eventLoop.pollInterval ≠ none := by
    intro empty ever
    unfold Running.waited WaitSet.wait at waited
    rw [WaitSet.isEmpty, empty, intervalLeft, ever] at waited
    cases waited
  rw [waits.step_eq, wait_eq something, waited]
  dsimp only
  rw [beginTick, if_neg (by simp [waits.going])]
  rfl

theorem step_skip (here : run.eventLoop.pipes[run.place]? = some none) :
    run.step handler h = .ok (.running run.skipped) h := by
  unfold step
  rw [here]
  rfl

theorem step_rest (here : run.eventLoop.pipes[run.place]? = some (some ep))
    (serves : ep.service run.waits h = .ok (false, waits, ep') h') :
    run.step handler h = .ok (.running (run.rested ep' waits)) h' := by
  unfold step
  rw [here]
  exact Action.bind_of_ok (Action.bind_of_ok serves)

namespace Passes

theorem start : run.Passes handler h 0 run h :=
  ⟨rfl, rfl, rfl, rfl, rfl, rfl, fun _ _ => rfl, id⟩

theorem skip (here : run.eventLoop.pipes[run.place]? = some none) :
    run.Passes handler h 1 run.skipped h := by
  refine ⟨?_, rfl, rfl, rfl, rfl, rfl, fun _ _ => rfl, id⟩
  rw [after, step_skip here]
  rfl

theorem rest (here : run.eventLoop.pipes[run.place]? = some (some ep))
    (serves : ep.service run.waits h = .ok (false, waits, ep') h') :
    run.Passes handler h 1 (run.rested ep' waits) h' := by
  refine ⟨?_, rfl, rfl, rfl, rfl, List.length_set, fun place later => ?_,
    fun before => before.service here serves⟩
  · rw [after, step_rest here serves]
    rfl
  · exact List.getElem?_set_ne (Nat.ne_of_lt later)

theorem trans (first : run.Passes handler h places run' h')
    (second : run'.Passes handler h' more run'' h'') :
    run.Passes handler h (places + more) run'' h'' where
  reaches := by rw [after_add, first.reaches, Option.bind_some, second.reaches]
  place := by rw [second.place, first.place, Nat.add_assoc]
  acted := second.acted.trans first.acted
  lastTimeout := second.lastTimeout.trans first.lastTimeout
  pollInterval := second.pollInterval.trans first.pollInterval
  length := second.length.trans first.length
  ahead place later := by
    have on : run'.place ≤ run''.place := by
      rw [second.place]
      exact Nat.le_add_right _ _
    exact (second.ahead place later).trans (first.ahead place (Nat.le_trans on later))
  reached before := second.reached (first.reached before)

end Passes

theorem ComesTo.after {kind : Serving} (first : run.Passes handler h places run' h')
    (comes : run'.ComesTo handler kind h') : run.ComesTo handler kind h := by
  obtain ⟨more, last, h₂, ep, moved, waits, ep', h₃, second, serving⟩ := comes
  exact ⟨places + more, last, h₂, ep, moved, waits, ep', h₃, first.trans second, serving⟩

/-- What services of all other kinds keep of a host, none of which reports that something
moved. -/
def RestsKeep (kind : Serving) (keeps : Host → Prop) : Prop :=
  ∀ {ep : Endpoint} {waits waits' : WaitSet} {h h' : Host} {moved : Bool} {ep' : Endpoint},
    (∀ c, ep.connection = some c → c.Sound) → keeps h →
    ep.service waits h = .ok (moved, waits', ep') h' → ¬ kind ep h moved ep' h' →
    moved = false ∧ keeps h'

variable {kind : Serving} {keeps : Host → Prop}

/-- A loop whose endpoints are used as they can be comes past its next place, or it comes to a
service of some kind there. -/
theorem comesTo_or_passes_one (rests : RestsKeep kind keeps) (reached : run.eventLoop.Reached)
    (kept : keeps h) (within : run.place < run.eventLoop.pipes.length) :
    run.ComesTo handler kind h ∨ ∃ run' h', run.Passes handler h 1 run' h' ∧ keeps h' := by
  cases here : run.eventLoop.pipes[run.place] with
  | none =>
    have empty : run.eventLoop.pipes[run.place]? = some none :=
      List.getElem?_eq_some_iff.mpr ⟨within, here⟩
    exact Or.inr ⟨_, h, .skip empty, kept⟩
  | some ep =>
    have present : run.eventLoop.pipes[run.place]? = some (some ep) :=
      List.getElem?_eq_some_iff.mpr ⟨within, here⟩
    have sound := reached.sound (List.mem_of_getElem? present)
    obtain ⟨moved, waits, ep', mid, serves, _⟩ := ep.service_sound run.waits h sound
    by_cases found : kind ep h moved ep' mid
    · exact Or.inl ⟨0, run, h, ep, moved, waits, ep', mid, .start, present, serves, found⟩
    · obtain ⟨rfl, kept'⟩ := rests sound kept serves found
      exact Or.inr ⟨_, mid, .rest present serves, kept'⟩

/-- So it comes past any number of them that there are, or to such a service before. -/
theorem comesTo_or_passes (places : Nat) (rests : RestsKeep kind keeps)
    (reached : run.eventLoop.Reached) (kept : keeps h)
    (within : run.place + places ≤ run.eventLoop.pipes.length) :
    run.ComesTo handler kind h ∨ ∃ run' h', run.Passes handler h places run' h' ∧ keeps h' := by
  induction places with
  | zero => exact Or.inr ⟨run, h, .start, kept⟩
  | succ places ih =>
    rcases ih (Nat.le_of_succ_le within) with comes | ⟨run', h', passes, kept'⟩
    · exact Or.inl comes
    · have here : run'.place < run'.eventLoop.pipes.length := by
        rw [passes.place, passes.length]
        exact within
      rcases comesTo_or_passes_one rests (passes.reached reached) kept' here with
        comes | ⟨run'', h'', passes', kept''⟩
      · exact Or.inl (comes.after passes)
      · exact Or.inr ⟨run'', h'', passes.trans passes', kept''⟩

end Running

end LocalPipe.EventLoop
