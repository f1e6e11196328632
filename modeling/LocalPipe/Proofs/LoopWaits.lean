import LocalPipe.Proofs.LoopVisits
import LocalPipe.Proofs.Uses
import LocalPipe.Relay

namespace LocalPipe.EventLoop

/-- What the endpoint in a place has to wait for. -/
def dueAt : Option Endpoint → List WaitHandle
  | some ep => ep.due
  | none => []

/-- What the endpoints of a loop have to wait for, in the order of their places. -/
def due (lp : EventLoop) : List WaitHandle :=
  lp.pipes.flatMap dueAt

/-- Each endpoint in a loop is one that its uses lead to. -/
def Reached (lp : EventLoop) : Prop :=
  ∀ ep, some ep ∈ lp.pipes → ∃ config, EndpointReach config ep

variable {σ : Type}

/-- Callbacks that do with endpoints what can be done with them. `holds` is what
the handler's own state keeps to, which may hold endpoints that were removed. -/
structure Handler.Lawful (handler : Handler σ) (holds : σ → Prop) : Prop where
  onPipe : ∀ {id lp state h lp' state' h'}, lp.Reached → holds state →
    handler.onPipe id lp state h = .ok (lp', state') h' → lp'.Reached ∧ holds state'
  onTimeout : ∀ {lp state h lp' state' h'}, lp.Reached → holds state →
    handler.onTimeout lp state h = .ok (lp', state') h' → lp'.Reached ∧ holds state'

variable {handler : Handler σ} {holds : σ → Prop} {lp : EventLoop} {state : σ} {h₀ h h' : Host}
  {run run' : Running σ} {ep ep' : Endpoint} {id : PipeId}

theorem mem_of_get? (present : lp.get? id = some ep) : some ep ∈ lp.pipes := by
  unfold get? at present
  exact List.mem_of_getElem? (Option.join_eq_some_iff.mp present)

namespace Reached

theorem get? (reached : lp.Reached) (present : lp.get? id = some ep) :
    ∃ config, EndpointReach config ep :=
  reached ep (mem_of_get? present)

theorem set {config : PipeConfig} (reached : lp.Reached) (id : PipeId)
    (here : EndpointReach config ep) : (lp.set id ep).Reached := by
  intro other member
  rcases List.mem_or_eq_of_mem_set member with before | same
  · exact reached other before
  · cases same
    exact ⟨config, here⟩

theorem add {config : PipeConfig} (reached : lp.Reached) (here : EndpointReach config ep) :
    (lp.add ep).2.Reached := by
  intro other member
  rcases List.mem_append.mp member with before | same
  · exact reached other before
  · cases List.mem_singleton.mp same
    exact ⟨config, here⟩

theorem remove (reached : lp.Reached) (id : PipeId) : (lp.remove id).2.Reached := by
  intro other member
  rcases List.mem_or_eq_of_mem_set member with before | same
  · exact reached other before
  · cases same

/-- An endpoint that is serviced in its place stays one that its uses lead to. -/
theorem service {place : Nat} {waits waits' : WaitSet} {moved : Bool} (reached : lp.Reached)
    (here : lp.pipes[place]? = some (some ep))
    (run : ep.service waits h = .ok (moved, waits', ep') h') : (lp.set ⟨place⟩ ep').Reached := by
  obtain ⟨config, before⟩ := reached ep (List.mem_of_getElem? here)
  have performed : ep.perform (.service waits) h = .ok ep' h' := Action.bind_of_ok run
  exact reached.set ⟨place⟩ (.use (.service waits) before performed)

theorem sound (reached : lp.Reached) (member : some ep ∈ lp.pipes) :
    ∀ c, ep.connection = some c → c.Sound := by
  obtain ⟨config, here⟩ := reached ep member
  exact here.orderly.sound

end Reached

namespace Visits

/-- A lawful handler keeps to what can be done with endpoints in every state that
is visited. -/
theorem reached (lawful : handler.Lawful holds) (reached : lp.Reached) (held : holds state)
    (visits : Visits handler lp state h₀ run h) : run.eventLoop.Reached ∧ holds run.state := by
  induction visits with
  | start begun =>
    obtain ⟨_, rfl⟩ := Running.beginTick_running begun
    exact ⟨reached, held⟩
  | step _ stepped ih =>
    obtain ⟨reached, held⟩ := ih
    cases Running.goes_of_step stepped with
    | rest here serves => exact ⟨reached.service here serves, held⟩
    | move here serves calls => exact lawful.onPipe (reached.service here serves) held calls
    | skip => exact ⟨reached, held⟩
    | timeout _ calls => exact lawful.onTimeout reached held calls
    | turn => exact ⟨reached, held⟩

end Visits

/-- Unless the handler was called in this tick, the handles collected so far are
those that are due at the places that the tick has come past. -/
def Running.Gathered (run : Running σ) : Prop :=
  run.acted = false →
    run.waits.handles = (run.eventLoop.pipes.take run.place).flatMap dueAt

theorem Running.Goes.gathered (goes : run.Goes handler h run' h')
    (sound : ∀ ep, some ep ∈ run.eventLoop.pipes → ∀ c, ep.connection = some c → c.Sound)
    (gathered : run.Gathered) : run'.Gathered := by
  cases goes with
  | @rest ep waits ep' h' here serves =>
    intro resting
    have before := gathered resting
    have now := Endpoint.service_due (sound ep (List.mem_of_getElem? here)) serves
    have within : run.place < run.eventLoop.pipes.length := (List.getElem?_eq_some_iff.mp here).1
    dsimp only [EventLoop.set]
    rw [List.take_add_one, List.getElem?_set_self within, List.take_set_of_le (Nat.le_refl _),
      List.flatMap_append, now, before]
    simp [dueAt]
  | move => simp [Gathered]
  | skip here =>
    intro resting
    have before := gathered resting
    dsimp only
    rw [List.take_add_one, here, List.flatMap_append, before]
    simp [dueAt]
  | timeout => simp [Gathered, again]
  | turn => simp [Gathered, again]

/-- Of sound endpoints, just those handles are waited for that are due. -/
theorem Visits.gathered (visits : Visits handler lp state h₀ run h)
    (sound : ∀ run h, Visits handler lp state h₀ run h → ∀ ep, some ep ∈ run.eventLoop.pipes →
      ∀ c, ep.connection = some c → c.Sound) : run.Gathered := by
  induction visits with
  | start begun =>
    obtain ⟨_, rfl⟩ := Running.beginTick_running begun
    simp [Running.Gathered, Running.again]
  | step before stepped ih =>
    exact (Running.goes_of_step stepped).gathered (sound _ _ before) ih

theorem Running.Gathered.handles_eq (gathered : run.Gathered) (waits : run.AtWait h) :
    run.waits.handles = run.eventLoop.due := by
  have past : run.eventLoop.pipes.length ≤ run.place := List.getElem?_eq_none_iff.mp waits.through
  rw [gathered waits.resting, List.take_of_length_le past, due]

/-- A step of sound endpoints that is cut short is so by the handler, or by a wait
for nothing. -/
theorem Running.step_error {condition : Fatal}
    (sound : ∀ ep, some ep ∈ run.eventLoop.pipes → ∀ c, ep.connection = some c → c.Sound)
    (stepped : run.step handler h = .error condition h') :
    handler.Raises condition h' ∨
      run.AtWait h ∧ run.waits.handles = [] ∧ run.eventLoop.pollInterval = none := by
  cases here : run.eventLoop.pipes[run.place]? with
  | some slot =>
    unfold step at stepped
    rw [here] at stepped
    cases slot with
    | none => cases stepped
    | some ep =>
      obtain ⟨moved, waits, ep', mid, serves, _⟩ :=
        ep.service_sound run.waits h (sound ep (List.mem_of_getElem? here))
      rcases Action.bind_error stepped with cut | ⟨_, _, _, goes⟩
      · unfold servicePlace at cut
        rw [Action.bind_of_ok serves] at cut
        cases moved with
        | false => cases cut
        | true =>
          rcases Action.bind_error cut with raised | ⟨_, _, _, goes⟩
          · exact Or.inl (Or.inl ⟨_, _, _, _, raised⟩)
          · cases goes
      · cases goes
  | none =>
    rw [step_through here] at stepped
    cases passed : run.intervalPassed h.now with
    | true =>
      rcases Action.bind_error stepped with cut | ⟨called, mid, calls, goes⟩
      · rw [callTimeout_passed passed] at cut
        rcases Action.bind_error cut with raised | ⟨_, _, _, goes⟩
        · exact Or.inl (Or.inr ⟨_, _, _, raised⟩)
        · cases goes
      · rw [callTimeout_passed passed] at calls
        obtain ⟨_, _, _, last⟩ := Action.bind_ok.mp calls
        cases last
        cases goes
    | false =>
      rw [endTick_early passed] at stepped
      split at stepped
      · cases stepped
      · rename_i resting
        simp only [Bool.or_eq_true, not_or, Bool.not_eq_true] at resting
        refine Or.inr ⟨⟨here, resting.1, passed, resting.2⟩, ?_⟩
        refine Decidable.byContradiction fun lives => ?_
        rw [wait_eq (not_and.mp lives)] at stepped
        split at stepped <;> cases stepped

/-- A loop that is about to wait has nothing to wait for, and would never wake up. -/
structure Running.Stranded (run : Running σ) (h : Host) : Prop where
  atWait : run.AtWait h
  idle : run.eventLoop.due = []
  ever : run.eventLoop.pollInterval = none

/-- What is due is so for the present connection of an endpoint of the loop. -/
theorem mem_due {handle : WaitHandle} (member : handle ∈ lp.due) :
    ∃ ep c, some ep ∈ lp.pipes ∧ ep.connection = some c ∧
      handle.descriptor = c.transport.descriptor := by
  obtain ⟨slot, here, waits⟩ := List.mem_flatMap.mp member
  cases slot with
  | none => cases waits
  | some ep =>
    rw [dueAt] at waits
    cases connected : ep.connection with
    | none =>
      rw [Endpoint.due_of_closed connected] at waits
      cases waits
    | some c =>
      refine ⟨ep, c, here, connected, ?_⟩
      rcases Endpoint.due_cases connected waits with ⟨rfl, _⟩ | ⟨rfl, _⟩ <;> rfl

/-- Each time a loop waits, it waits for just what is due to the endpoints that
it has then, whatever its handler did to them before. It ends the program for want
of something to wait for only if it is stranded, and always then. -/
theorem Handler.Lawful.waits_for_due (lawful : handler.Lawful holds) (reached : lp.Reached)
    (held : holds state) (h₀ : Host) :
    (∀ run h, Visits handler lp state h₀ run h → run.AtWait h →
      run.step handler h = run.wait h ∧ run.waits.handles = run.eventLoop.due ∧
      ∀ handle ∈ run.waits.handles, ∃ ep c, some ep ∈ run.eventLoop.pipes ∧
        ep.connection = some c ∧ handle.descriptor = c.transport.descriptor) ∧
    (∀ run h, Visits handler lp state h₀ run h → run.Stranded h → ∃ fuel,
      lp.run handler fuel state h₀ =
        .error .nothingToWaitFor (h.log (.fatal .nothingToWaitFor))) ∧
    ∀ fuel h', lp.run handler fuel state h₀ = .error .nothingToWaitFor h' →
      handler.Raises .nothingToWaitFor h' ∨
        ∃ run h, Visits handler lp state h₀ run h ∧ run.Stranded h ∧
          h' = h.log (.fatal .nothingToWaitFor) := by
  have sound : ∀ run h, Visits handler lp state h₀ run h → ∀ ep, some ep ∈ run.eventLoop.pipes →
      ∀ c, ep.connection = some c → c.Sound :=
    fun run h visits ep member => (visits.reached lawful reached held).1.sound member
  have exact_handles : ∀ run h, Visits handler lp state h₀ run h → run.AtWait h →
      run.waits.handles = run.eventLoop.due :=
    fun run h visits waits => (visits.gathered sound).handles_eq waits
  refine ⟨fun run h visits waits => ?_, fun run h visits stranded => ?_, fun fuel h' ended => ?_⟩
  · have same := exact_handles run h visits waits
    refine ⟨waits.step_eq, same, fun handle member => ?_⟩
    rw [same] at member
    exact mem_due member
  · obtain ⟨steps, runs⟩ := visits.run_eq
    have empty := (exact_handles run h visits stranded.atWait).trans stranded.idle
    have stepped : run.step handler h =
        .error .nothingToWaitFor (h.log (.fatal .nothingToWaitFor)) := by
      rw [stranded.atWait.step_eq, Running.wait_nothing empty stranded.ever]
    refine ⟨steps + 1, ?_⟩
    rw [runs, iterate]
    simp only [bind, EStateM.bind, stepped]
  · obtain ⟨run, h, visits, stepped⟩ := Visits.of_run_error ended
    rcases Running.step_error (sound run h visits) stepped with raised | ⟨waits, empty, ever⟩
    · exact Or.inl raised
    · have idle := (exact_handles run h visits waits).symm.trans empty
      rw [waits.step_eq, Running.wait_nothing empty ever] at stepped
      cases stepped
      exact Or.inr ⟨run, h, visits, ⟨waits, idle, ever⟩, rfl⟩

/-- Gives an endpoint that has moved a new place, behind all others. -/
def rotating : Handler Unit where
  onPipe id lp _ :=
    match lp.get? id with
    | some ep => return (((lp.remove id).2.add ep).2, ())
    | none => return (lp, ())

theorem lawful_rotating : rotating.Lawful fun _ => True where
  onPipe {id lp state h lp' state' h'} reached _ run := by
    unfold rotating at run
    cases present : lp.get? id with
    | some ep =>
      simp only [present] at run
      cases run
      obtain ⟨config, here⟩ := reached.get? present
      exact ⟨(reached.remove id).add here, trivial⟩
    | none =>
      simp only [present] at run
      cases run
      exact ⟨reached, trivial⟩
  onTimeout reached _ run := by
    cases run
    exact ⟨reached, trivial⟩

/-- A host where two bytes were typed. -/
def typed : Host :=
  { links := ⟨[("in", { capacity := 16, endA := { buffer := [104, 105], nonblocking := true } })]⟩
    descriptors := [⟨0, ⟨"in", .a⟩⟩]
    nextDescriptor := 1 }

/-- An endpoint that was set up to receive what is typed. -/
def listening : Endpoint :=
  { Endpoint.ofConfig default with
    name := "in"
    connection := some
      { transport := { descriptor := ⟨0, ⟨"in", .a⟩⟩, restores := false }
        reader := some (.ofSize 65536)
        writer := none } }

theorem reached_listening : (EventLoop.mk [some listening] none false).Reached := by
  intro ep member
  cases List.mem_singleton.mp member
  exact ⟨{}, .use (.adopt ⟨0, ⟨"in", .a⟩⟩ .read "in") .start (h := typed) rfl⟩

/-- An endpoint that was moved while its tick went on is waited for once, at its
new place. -/
theorem rotating_waits_for_due : ∃ run h,
    Visits rotating ⟨[some listening], none, false⟩ () typed run h ∧ run.AtWait h ∧
      run.eventLoop.pipes.map Option.isSome = [false, true] ∧
      run.waits.handles = [⟨⟨0, ⟨"in", .a⟩⟩, .readable⟩] := by
  let start : Running Unit := ⟨⟨[some listening], none, false⟩, (), 0, {}, false, typed.now⟩
  have comes : (after rotating 5 start typed).map (fun s =>
      (decide (s.1.AtWait s.2), s.1.eventLoop.pipes.map Option.isSome, s.1.eventLoop.due)) =
      some (true, [false, true], [⟨⟨0, ⟨"in", .a⟩⟩, .readable⟩]) := by
    decide +kernel
  obtain ⟨⟨run, h⟩, reaches, shown⟩ := Option.map_eq_some_iff.mp comes
  simp only [Prod.mk.injEq, decide_eq_true_eq] at shown
  obtain ⟨waits, places, due⟩ := shown
  have visits : Visits rotating ⟨[some listening], none, false⟩ () typed run h :=
    (Visits.start rfl).of_after reaches
  obtain ⟨exact_handles, _⟩ := lawful_rotating.waits_for_due reached_listening trivial typed
  obtain ⟨_, same, _⟩ := exact_handles run h visits waits
  exact ⟨run, h, visits, waits, places, same.trans due⟩

end LocalPipe.EventLoop
