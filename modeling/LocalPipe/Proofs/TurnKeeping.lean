import LocalPipe.Proofs.LoopTurns

namespace LocalPipe.EventLoop

/-- What a deed makes of the endpoint that an id stands for: none if it is taken out. -/
def Deed.upon (id : PipeId) (ep : Endpoint) : Deed → Option Endpoint
  | .service place ep' _ => if place = id.index then some ep' else some ep
  | .edit (.change id' ep') => if id' = id then some ep' else some ep
  | .edit (.remove id') => if id' = id then none else some ep
  | _ => some ep

/-- What becomes of an endpoint by what is done to it under its id. -/
def fate (id : PipeId) (deeds : List Deed) (ep : Endpoint) : Option Endpoint :=
  deeds.foldlM (Deed.upon id) ep

/-- An id that was given out stands for the endpoint that got it, as it is by what was done
to it under that id since, until it is removed, and then for nothing. No id is given out
twice. -/
structure KeepsIds (lp : EventLoop) (deeds : List Deed) : Prop where
  stands : ∀ past rest id, deeds = past ++ rest → id.index < (lp.follow past).pipes.length →
    (lp.follow deeds).get? id = ((lp.follow past).get? id).bind (fate id rest)
  added : ∀ past ep rest, deeds = past ++ .edit (.add ep) :: rest →
    (lp.follow deeds).get? ((lp.follow past).add ep).1 = fate ((lp.follow past).add ep).1 rest ep
  once : ∀ past ep between ep' rest,
    deeds = past ++ .edit (.add ep) :: (between ++ .edit (.add ep') :: rest) →
    ((lp.follow past).add ep).1 ≠
      ((lp.follow (past ++ .edit (.add ep) :: between)).add ep').1

variable {σ : Type} {handler : Handler σ} {holds : σ → Prop} {lp lp' : EventLoop} {state : σ}
  {h₀ h h' : Host} {run : Running σ} {progress : Progress σ} {deeds past more rest : List Deed}
  {deed : Deed} {id : PipeId}

section Ids

theorem index_ne {id id' : PipeId} (other : id ≠ id') : id.index ≠ id'.index := by
  intro same
  cases id
  cases id'
  exact other (congrArg PipeId.mk same)

theorem get?_set (present : (lp.get? id).isSome) (id' : PipeId) (ep' : Endpoint) :
    (lp.set id ep').get? id' = if id.index = id'.index then some ep' else lp.get? id' := by
  have within : id.index < lp.pipes.length := by
    refine Decidable.byContradiction fun beyond => ?_
    rw [get?, List.getElem?_eq_none (Nat.le_of_not_lt beyond)] at present
    cases present
  simp only [get?, EventLoop.set, List.getElem?_set]
  by_cases same : id.index = id'.index
  · rw [if_pos same, if_pos same, if_pos (same ▸ within)]
    rfl
  · rw [if_neg same, if_neg same]

/-- Of what is done, only that which is done under an id touches what the id stands for. -/
theorem Fits.get?_heed (fits : lp.Fits past deed)
    (given : id.index < (lp.follow past).pipes.length) :
    ((lp.follow past).heed deed).get? id =
      ((lp.follow past).get? id).bind fun ep => deed.upon id ep := by
  have same : ((lp.follow past).get? id).bind some = (lp.follow past).get? id :=
    Option.bind_fun_some _
  cases fits with
  | tick | pass | call | timeout | wait => exact same.symm
  | @service place ep ep' moved _ _ _ _ _ _ here _ =>
    have present : (lp.follow past).get? ⟨place⟩ = some ep := by rw [get?, here]; rfl
    rw [heed, get?_set (by simp [present])]
    by_cases own : place = id.index
    · subst own
      rw [if_pos rfl, present]
      simp [Deed.upon]
    · rw [if_neg own, ← same]
      simp [Deed.upon, own]
  | @edit edit _ allows =>
    cases allows with
    | add =>
      simp only [heed, EventLoop.edit, add, get?, List.getElem?_append_left given]
      exact same.symm
    | remove id' =>
      simp only [heed, EventLoop.edit, remove, get?, List.getElem?_set]
      by_cases own : id' = id
      · subst own
        simp [Deed.upon, given]
      · have other := index_ne own
        rw [if_neg other]
        simp [Deed.upon, own]
    | @change id' ep ep' _ _ _ present _ =>
      rw [heed, EventLoop.edit, get?_set (by simp [present])]
      by_cases own : id' = id
      · subst own
        rw [if_pos rfl, present]
        simp [Deed.upon]
      · have other := index_ne own
        rw [if_neg other, ← same]
        simp [Deed.upon, own]
    | shutdown => exact same.symm

namespace Disciplined

theorem get?_follow (disciplined : lp.Disciplined (past ++ rest))
    (given : id.index < (lp.follow past).pipes.length) :
    (lp.follow (past ++ rest)).get? id = ((lp.follow past).get? id).bind (fate id rest) := by
  induction rest generalizing past with
  | nil =>
    rw [List.append_nil]
    exact (Option.bind_fun_some _).symm
  | cons deed rest ih =>
    have fits := disciplined past deed rest rfl
    have now := fits.get?_heed given
    have later := @ih (past ++ [deed])
    rw [List.append_assoc, List.singleton_append, follow_append lp past [deed]] at later
    rw [later disciplined (Nat.lt_of_lt_of_le given (length_follow _ _)), follow_cons,
      follow_nil, now, Option.bind_assoc]
    rfl

theorem keepsIds (disciplined : lp.Disciplined deeds) : lp.KeepsIds deeds where
  stands past rest id split given := by
    subst split
    exact disciplined.get?_follow given
  added past ep rest split := by
    subst split
    have grown := @get?_follow lp (past ++ [.edit (.add ep)]) rest ((lp.follow past).add ep).1
    rw [List.append_assoc, List.singleton_append] at grown
    have new : (lp.follow (past ++ [.edit (.add ep)])).get? ((lp.follow past).add ep).1 =
        some ep := by
      simp [heed, EventLoop.edit, add, get?]
    rw [grown disciplined (by simp [heed, EventLoop.edit, add]), new]
    rfl
  once past ep between ep' rest _ same := by
    have grown := length_follow ((lp.follow past).add ep).2 between
    have indices := congrArg PipeId.index same
    simp only [add, follow_append, follow_cons, heed, EventLoop.edit, List.length_append,
      List.length_singleton] at grown indices
    omega

/-- Once a loop was told to stop, it neither waits nor begins a tick. -/
theorem quits (disciplined : lp.Disciplined (past ++ rest))
    (exiting : (lp.follow past).exiting = true) : .wait ∉ rest ∧ .tick ∉ rest := by
  have told : ∀ first deed second, rest = first ++ deed :: second →
      (lp.follow (past ++ first)).exiting = true := by
    intro first deed second _
    rw [follow_append]
    exact exiting_follow exiting first
  refine ⟨fun waits => ?_, fun ticks => ?_⟩
  · obtain ⟨first, second, split⟩ := List.append_of_mem waits
    have fits := disciplined (past ++ first) .wait second (by rw [split, List.append_assoc])
    cases fits with
    | wait _ _ _ going =>
      rw [told first _ second split] at going
      cases going
  · obtain ⟨first, second, split⟩ := List.append_of_mem ticks
    have fits := disciplined (past ++ first) .tick second (by rw [split, List.append_assoc])
    cases fits with
    | tick _ _ going =>
      rw [told first _ second split] at going
      cases going

end Disciplined

end Ids

namespace Chronicle

/-- A run comes to what is told of, if it has fuel enough, and goes on from there. -/
theorem run_eq (chronicle : Chronicle handler lp state h₀ deeds progress h) :
    ∃ steps, ∀ fuel, lp.run handler (steps + fuel) state h₀ = iterate handler fuel progress h := by
  induction chronicle with
  | start begun =>
    refine ⟨0, fun fuel => ?_⟩
    rw [begun, Nat.zero_add]
    rfl
  | step _ stepped _ ih =>
    obtain ⟨steps, runs⟩ := ih
    refine ⟨steps + 1, fun fuel => ?_⟩
    rw [Nat.add_assoc, Nat.add_comm 1, runs, iterate]
    exact Action.bind_of_ok stepped

end Chronicle

/-- Within a tick each step is a turn. -/
theorem Running.Does.place_eq {run' : Running σ}
    (does : run.Does handler h more (.running run') h') (going : .tick ∉ more) :
    run'.place = run.place + 1 := by
  generalize leads : (Progress.running run' : Progress σ) = progress at does
  cases does with
  | rest | move | skip =>
    cases leads
    rfl
  | timeout | turn | wait =>
    subst leads
    simp [Progress.begun] at going

/-- A run ends without an error. -/
def Succeeds (handler : Handler σ) (lp : EventLoop) (state : σ) (h₀ : Host) : Prop :=
  ∃ fuel lp' state' h', lp.run handler fuel state h₀ = .ok (some (.ok (), lp', state')) h'

/-- A callback ends the program in a run. -/
def CutShort (handler : Handler σ) (lp : EventLoop) (state : σ) (h₀ : Host) : Prop :=
  ∃ fuel condition h', lp.run handler fuel state h₀ = .error condition h' ∧
    handler.Raises condition h'

/-- After some deeds a loop comes to have more endpoints than any number, as its callbacks
add one after the other. -/
def Swells (handler : Handler σ) (lp : EventLoop) (state : σ) (h₀ : Host) (deeds : List Deed) :
    Prop :=
  ∀ places, ∃ more run h, Chronicle handler lp state h₀ (deeds ++ more) (.running run) h ∧
    places < run.eventLoop.pipes.length

/-- What has come to an end comes to the same with more fuel. -/
theorem iterate_more {fuel : Nat}
    {answer : EStateM.Result Fatal Host (Option (Except IoError Unit × EventLoop × σ))}
    (comes : iterate handler fuel progress h = answer) (ended : ∀ h', answer ≠ .ok none h')
    (more : Nat) : iterate handler (fuel + more) progress h = answer := by
  induction fuel generalizing progress h with
  | zero =>
    cases progress with
    | running run => exact absurd comes.symm (ended h)
    | finished => cases more <;> exact comes
  | succ fuel ih =>
    cases progress with
    | finished => rw [Nat.succ_add]; exact comes
    | running run =>
      rw [Nat.succ_add]
      rw [iterate] at comes ⊢
      cases stepped : run.step handler h with
      | ok progress h' =>
        rw [Action.bind_of_ok stepped] at comes ⊢
        exact ih comes
      | error condition h' =>
        rw [Action.bind_of_error stepped] at comes ⊢
        exact comes

/-- A run that ends without an error is not ended by a callback. -/
theorem Succeeds.not_cutShort (succeeds : Succeeds handler lp state h₀) :
    ¬ CutShort handler lp state h₀ := by
  rintro ⟨fuel, condition, h, cut, _⟩
  obtain ⟨fuel', lp', state', h', returned⟩ := succeeds
  have further := iterate_more returned nofun fuel
  have further' := iterate_more cut nofun fuel'
  rw [Nat.add_comm, further'] at further
  cases further

/-- A run that ends the program is cut short by a callback, unless there was nothing to wait
for. -/
theorem CutShort.of_run {fuel : Nat} {condition : Fatal} (editing : handler.Editing holds)
    (reached : lp.Reached) (held : holds state)
    (ended : lp.run handler fuel state h₀ = .error condition h)
    (other : condition ≠ .nothingToWaitFor) : CutShort handler lp state h₀ := by
  obtain ⟨run, mid, visits, stepped⟩ := Visits.of_run_error ended
  obtain ⟨reached', _⟩ := visits.reached editing.lawful reached held
  rcases Running.step_error (fun _ => reached'.sound) stepped with raised | ⟨waits, empty, ever⟩
  · exact ⟨fuel, condition, h, ended, raised⟩
  · rw [waits.step_eq, Running.wait_nothing empty ever] at stepped
    cases stepped
    exact absurd rfl other

namespace Chronicle

theorem succeeds {state' : σ}
    (chronicle : Chronicle handler lp state h₀ deeds (.finished (.ok ()) lp' state') h) :
    Succeeds handler lp state h₀ := by
  obtain ⟨steps, runs⟩ := chronicle.run_eq
  exact ⟨steps + 0, lp', state', h, runs 0⟩

/-- A loop that was told to stop goes through the places that are left and returns, unless
a callback ends the program or there come to be too many places. -/
theorem quits_within {left places : Nat} (editing : handler.Editing holds)
    (reached : lp.Reached) (held : holds state)
    (chronicle : Chronicle handler lp state h₀ deeds (.running run) h)
    (exiting : (lp.follow deeds).exiting = true) (few : places < run.place + left) :
    Succeeds handler lp state h₀ ∨ CutShort handler lp state h₀ ∨
      ∃ more run h, Chronicle handler lp state h₀ (deeds ++ more) (.running run) h ∧
        places < run.eventLoop.pipes.length := by
  induction left generalizing deeds run h with
  | zero =>
    have within := chronicle.disciplined.2.within
    exact Or.inr (Or.inr ⟨[], run, h, by rwa [List.append_nil], by omega⟩)
  | succ left ih =>
    obtain ⟨steps, runs⟩ := chronicle.run_eq
    obtain ⟨_, kept⟩ := chronicle.disciplined
    have visits := chronicle.visits
    obtain ⟨reached', held'⟩ := visits.reached editing.lawful reached held
    cases stepped : run.step handler h with
    | error condition h' =>
      refine Or.inr (Or.inl ⟨steps + 1, condition, h', ?_, ?_⟩)
      · rw [runs, iterate]
        simp only [bind, EStateM.bind, stepped]
      · rcases Running.step_error (fun _ => reached'.sound) stepped with raised | ⟨waits, _⟩
        · exact raised
        · rw [← kept.loop, waits.going] at exiting
          cases exiting
    | ok progress h' =>
      obtain ⟨more, does⟩ := Running.does_of_step editing reached' held' stepped
      have next := chronicle.step stepped does
      obtain ⟨disciplined, accords⟩ := next.disciplined
      obtain ⟨_, going⟩ := disciplined.quits exiting
      have exiting' : (lp.follow (deeds ++ more)).exiting = true := by
        rw [follow_append]
        exact exiting_follow exiting more
      cases progress with
      | finished result lp' state' =>
        obtain ⟨loop, _, _, well⟩ := accords
        obtain rfl := well.mpr (loop ▸ exiting')
        exact Or.inl next.succeeds
      | running run' =>
        have place := does.place_eq going
        rcases ih next exiting' (by omega) with succeeds | cut | ⟨more', run'', h'', later, many⟩
        · exact Or.inl succeeds
        · exact Or.inr (Or.inl cut)
        · exact Or.inr (Or.inr ⟨more ++ more', run'', h'', by rwa [← List.append_assoc], many⟩)

end Chronicle

/-- A run in which everything is done in its turn. A chronicle can be kept of it, whatever
it comes to, and what is told there is so for the loop itself: each deed fits in with those
before it, no call is left out, and ids keep standing for what they were given out for. Once
the loop was told to stop, the turns that are left are the last thing that happens, and the
run returns well. -/
structure KeepsTurns (handler : Handler σ) (lp : EventLoop) (state : σ) (h₀ : Host) : Prop where
  visits : ∀ run h, Visits handler lp state h₀ run h →
    ∃ deeds, Chronicle handler lp state h₀ deeds (.running run) h
  returns : ∀ fuel result lp' state' h,
    lp.run handler fuel state h₀ = .ok (some (result, lp', state')) h →
    ∃ deeds, Chronicle handler lp state h₀ deeds (.finished result lp' state') h
  tells : ∀ deeds progress h, Chronicle handler lp state h₀ deeds progress h →
    progress.eventLoop = lp.follow deeds
  disciplined : ∀ deeds progress h, Chronicle handler lp state h₀ deeds progress h →
    lp.Disciplined deeds ∧ awaited? deeds = none
  keepsIds : ∀ deeds progress h, Chronicle handler lp state h₀ deeds progress h →
    lp.KeepsIds deeds
  ends : ∀ deeds result lp' state' h,
    Chronicle handler lp state h₀ deeds (.finished result lp' state') h →
    (deeds ≠ [] → lp.TurnsOver deeds) ∧ (result = .ok () ↔ lp'.exiting = true)
  quits : ∀ past rest progress h, Chronicle handler lp state h₀ (past ++ rest) progress h →
    (lp.follow past).exiting = true → .wait ∉ rest ∧ .tick ∉ rest ∧
      (Succeeds handler lp state h₀ ∨ CutShort handler lp state h₀ ∨
        Swells handler lp state h₀ (past ++ rest))

theorem Chronicle.eventLoop_eq (chronicle : Chronicle handler lp state h₀ deeds progress h) :
    progress.eventLoop = lp.follow deeds := by
  cases progress with
  | running run => exact chronicle.disciplined.2.loop
  | finished => exact chronicle.disciplined.2.1

/-- What becomes of a run once its loop was told to stop. -/
theorem Chronicle.quits (editing : handler.Editing holds) (reached : lp.Reached)
    (held : holds state) (chronicle : Chronicle handler lp state h₀ deeds progress h)
    (exiting : (lp.follow deeds).exiting = true) :
    Succeeds handler lp state h₀ ∨ CutShort handler lp state h₀ ∨
      Swells handler lp state h₀ deeds := by
  cases progress with
  | finished result lp' state' =>
    obtain ⟨_, loop, _, _, well⟩ := chronicle.disciplined
    obtain rfl := well.mpr (loop ▸ exiting)
    exact Or.inl chronicle.succeeds
  | running run =>
    by_cases succeeds : Succeeds handler lp state h₀
    · exact Or.inl succeeds
    by_cases cut : CutShort handler lp state h₀
    · exact Or.inr (Or.inl cut)
    refine Or.inr (Or.inr fun places => ?_)
    have few : places < run.place + (places + 1) := by omega
    have ends := chronicle.quits_within editing reached held exiting few
    exact (ends.resolve_left succeeds).resolve_left cut

/-- Gives an endpoint that has moved a new place, behind all others, and tells the loop to
stop. -/
def retiring : Handler Unit where
  onPipe id lp _ :=
    match lp.get? id with
    | some ep => return ((((lp.remove id).2.add ep).2).shutdown, ())
    | none => return (lp, ())

theorem editing_retiring : retiring.Editing fun _ => True where
  onPipe {id lp state h lp' state' h'} reached _ run := by
    unfold retiring at run
    cases present : lp.get? id with
    | some ep =>
      simp only [present] at run
      cases run
      obtain ⟨config, here⟩ := reached.get? present
      exact ⟨⟨[.remove id, .add ep, .shutdown],
        .cons (.remove id) (.cons (.add here) (.cons .shutdown .nil))⟩, trivial⟩
    | none =>
      simp only [present] at run
      cases run
      exact ⟨⟨[], .nil⟩, trivial⟩
  onTimeout _ _ run := by
    cases run
    exact ⟨⟨[], .nil⟩, trivial⟩

/-- The loop as a run of so many steps leaves it, if it returns without an error. -/
def returnedLoop {σ : Type} (handler : Handler σ) (fuel : Nat) (lp : EventLoop) (state : σ)
    (h : Host) : Option EventLoop :=
  match lp.run handler fuel state h with
  | .ok (some (.ok (), lp', _)) _ => some lp'
  | _ => none

theorem of_returnedLoop {σ : Type} {handler : Handler σ} {fuel : Nat} {lp lp' : EventLoop}
    {state : σ} {h : Host} (returned : returnedLoop handler fuel lp state h = some lp') :
    ∃ state' h', lp.run handler fuel state h = .ok (some (.ok (), lp', state')) h' := by
  unfold returnedLoop at returned
  split at returned
  · rename_i lp' state' h' ended
    cases returned
    exact ⟨state', h', ended⟩
  · cases returned

theorem reach_listening : EndpointReach {} listening :=
  .use (.adopt ⟨0, ⟨"in", .a⟩⟩ .read "in") .start (h := typed) rfl

/-- Tells the loop to stop, and adds another endpoint like the one that it began with. -/
def crowding : Handler Unit where
  onPipe _ lp _ := return ((lp.add listening).2.shutdown, ())

theorem editing_crowding : crowding.Editing fun _ => True where
  onPipe _ _ run := by
    cases run
    exact ⟨⟨[.add listening, .shutdown], .cons (.add reach_listening) (.cons .shutdown .nil)⟩,
      trivial⟩
  onTimeout _ _ run := by
    cases run
    exact ⟨⟨[], .nil⟩, trivial⟩

section Lost

variable {d : Descriptor} {c : Connection} {w : Worker} {q : Queues}

/-- A receive over a link that is lost fails, whenever it is tried. -/
theorem receive_lost (lost : h.links.get? d.endId.link = none) (n : Nat) :
    receive d n h = (.failed (.os .ebadf), h.record (.read d n (.error .ebadf))) := by
  have answer : h.read d n = (.error .ebadf, h.record (.read d n (.error .ebadf))) := by
    simp only [Host.read, lost]
  unfold receive
  split <;> (rename_i answer'; rw [answer] at answer'; cases answer')
  rfl

theorem close_lost (lost : h.links.get? d.endId.link = none) :
    (h.close d).links.get? d.endId.link = none := by
  have ends : Host.linkEnd? { h.record (.close d) with descriptors := h.descriptors.erase d }
      d.endId = none := Option.map_eq_none_iff.mpr lost
  unfold Host.close
  dsimp only
  split
  · exact lost
  · rw [Host.closeEnd, ends]
    exact lost

theorem advance_lost {lane : Lane} (idle : lane.worker.state = .idle) (room : lane.queues.room ≠ 0)
    (lost : lane.host.links.get? lane.transport.descriptor.endId.link = none) :
    ∃ n, Reader.advance lane = (.error (.os .ebadf), ⟨lane.worker.fail, lane.queues,
      { lane.transport with receiving := none },
      lane.host.record (.read lane.transport.descriptor n (.error .ebadf))⟩) := by
  have issues := Reader.issueAll_issues lane 0
  have receives := receive_lost lost
  unfold Reader.advance
  rw [idle]
  dsimp only
  generalize Reader.issueAll lane 0 = answer at *
  cases issues with
  | full none => exact absurd none room
  | next _ received | pending _ received =>
    rw [receives] at received
    cases received
  | failed _ received =>
    rw [receives] at received
    cases received
    exact ⟨_, rfl⟩

/-- An endpoint that is to receive over a link that is lost fails when it is serviced. -/
theorem service_lost {ep : Endpoint} (connected : ep.connection = some c)
    (unbound : ep.listener = none) (reader : c.reader = some w) (writer : c.writer = none)
    (idle : w.state = .idle) (room : ep.queues.room ≠ 0) (kept : c.transport.restores = false)
    (lost : h.links.get? c.transport.descriptor.endId.link = none) (waits : WaitSet) :
    ∃ ep' h', ep.service waits h = .ok (true, waits, ep') h' ∧
      h'.links.get? c.transport.descriptor.endId.link = none := by
  obtain ⟨n, advances⟩ := @advance_lost ⟨w, ep.queues, c.transport, h⟩ idle room lost
  have ticks : c.tick ep.queues h = ⟨.error (.os .ebadf), .ok 0,
      ⟨{ c.transport with receiving := none }, some w.fail, none⟩, ep.queues,
      h.record (.read c.transport.descriptor n (.error .ebadf))⟩ := by
    unfold Connection.tick
    rw [reader, writer]
    dsimp only
    rw [advances]
  have serves := Endpoint.service_settle (h := h) waits connected
  rw [ticks] at serves
  refine ⟨_, _, serves, ?_⟩
  unfold Endpoint.giveUp Endpoint.close Endpoint.unbind
  dsimp only [Endpoint.ticked]
  rw [unbound]
  dsimp only
  obtain ⟨events, shut⟩ := Connection.shutdown_eq
    ⟨{ c.transport with receiving := none }, some w.fail, none⟩
    (List.foldl (fun h e => h.log (.transferFailed ep.name e))
      (h.record (.read c.transport.descriptor n (.error .ebadf))) [.os .ebadf])
  rw [shut]
  unfold Transport.close
  rw [if_neg (by rw [kept]; decide)]
  exact close_lost (h := { h with events, calls := _ }) lost

end Lost

/-- A loop has come to its last place, where there is an endpoint whose link is lost. -/
structure Crowded (run : Running Unit) (h : Host) : Prop where
  last : run.eventLoop.pipes.length = run.place + 1
  here : run.eventLoop.pipes[run.place]? = some (some listening)
  lost : h.links.get? "in" = none

/-- The callback for it makes another place, so that the tick goes on. -/
theorem Crowded.step {run : Running Unit} (crowded : Crowded run h) :
    ∃ run' h', run.step crowding h = .ok (.running run') h' ∧ Crowded run' h' ∧
      run'.eventLoop.exiting = true := by
  obtain ⟨last, here, lost⟩ := crowded
  have room : listening.queues.room ≠ 0 := by decide +kernel
  obtain ⟨ep, h', serves, lost'⟩ :=
    service_lost (show listening.connection = some _ from rfl) rfl rfl rfl rfl room rfl lost
      run.waits
  let run' : Running Unit :=
    { run with
      eventLoop := ((run.eventLoop.set ⟨run.place⟩ ep).add listening).2.shutdown
      place := run.place + 1
      acted := true }
  have served : run.servicePlace crowding listening h = .ok run' h' := by
    unfold Running.servicePlace
    rw [Action.bind_of_ok serves]
    rfl
  refine ⟨run', h', ?_, ⟨?_, ?_, lost'⟩, rfl⟩
  · unfold Running.step
    rw [here]
    dsimp only
    rw [Action.bind_of_ok served]
    rfl
  · simp [run', EventLoop.add, EventLoop.shutdown, EventLoop.set, last]
  · simp [run', EventLoop.add, EventLoop.shutdown, EventLoop.set, last]

theorem Crowded.iterate_eq {run : Running Unit} (crowded : Crowded run h) (fuel : Nat) :
    ∃ h', iterate crowding fuel (.running run) h = .ok none h' := by
  induction fuel generalizing run h with
  | zero => exact ⟨h, rfl⟩
  | succ fuel ih =>
    obtain ⟨run', h', stepped, crowded', _⟩ := crowded.step
    rw [iterate, Action.bind_of_ok stepped]
    exact ih crowded'

theorem run_crowding (fuel : Nat) :
    ∃ h', EventLoop.run crowding fuel ⟨[some listening], none, false⟩ () {} = .ok none h' :=
  Crowded.iterate_eq ⟨rfl, rfl, rfl⟩ fuel

/-- A loop that was told to stop never comes to the end of its tick if each callback adds an
endpoint that has something to report at once. -/
theorem crowding_swells : ∃ deeds progress h,
    Chronicle crowding ⟨[some listening], none, false⟩ () {} deeds progress h ∧
      (EventLoop.mk [some listening] none false |>.follow deeds).exiting = true ∧
      Swells crowding ⟨[some listening], none, false⟩ () {} deeds ∧
      ¬ Succeeds crowding ⟨[some listening], none, false⟩ () {} := by
  have crowded : Crowded ⟨⟨[some listening], none, false⟩, (), 0, {}, false, 0⟩ {} :=
    ⟨rfl, rfl, rfl⟩
  obtain ⟨run, h, stepped, _, exiting⟩ := crowded.step
  have visits : Visits crowding ⟨[some listening], none, false⟩ () {} run h :=
    (Visits.start rfl).step stepped
  obtain ⟨deeds, chronicle⟩ := visits.chronicled editing_crowding reached_listening trivial
  have told := exiting
  rw [show run.eventLoop = _ from chronicle.eventLoop_eq] at told
  have endless : ¬ Succeeds crowding ⟨[some listening], none, false⟩ () {} := by
    rintro ⟨fuel, _, _, _, returned⟩
    obtain ⟨_, runs⟩ := run_crowding fuel
    rw [runs] at returned
    cases returned
  have uncut : ¬ CutShort crowding ⟨[some listening], none, false⟩ () {} := by
    rintro ⟨fuel, _, _, cut, _⟩
    obtain ⟨_, runs⟩ := run_crowding fuel
    rw [runs] at cut
    cases cut
  have ends := chronicle.quits editing_crowding reached_listening trivial told
  exact ⟨deeds, _, h, chronicle, told, (ends.resolve_left endless).resolve_left uncut, endless⟩

/-- Tells the loop to stop, and then has an endpoint wait for a peer, whether or not it is
bound. -/
def plunging : Handler Unit where
  onPipe id lp _ := do
    if lp.exiting then
      match lp.get? id with
      | some ep => return (lp.set id (← ep.accept), ())
      | none => return (lp, ())
    else return (lp.shutdown, ())

theorem editing_plunging : plunging.Editing fun _ => True where
  onPipe {id lp state h lp' state' h'} _ _ run := by
    unfold plunging at run
    cases told : lp.exiting with
    | false =>
      simp only [told] at run
      cases run
      exact ⟨⟨[.shutdown], .cons .shutdown .nil⟩, trivial⟩
    | true =>
      cases present : lp.get? id with
      | some ep =>
        simp only [told, present] at run
        obtain ⟨ep', mid, accepts, last⟩ := Action.bind_ok.mp run
        cases last
        exact ⟨⟨[.change id ep'], .cons (.change .accept present accepts) .nil⟩, trivial⟩
      | none =>
        simp only [told, present] at run
        cases run
        exact ⟨⟨[], .nil⟩, trivial⟩
  onTimeout _ _ run := by
    cases run
    exact ⟨⟨[], .nil⟩, trivial⟩

theorem reached_both : (EventLoop.mk [some listening, some listening] none false).Reached := by
  intro ep member
  simp only [List.mem_cons, Option.some.injEq, List.not_mem_nil, or_false, or_self] at member
  subst member
  exact ⟨{}, reach_listening⟩

/-- The condition with which a run of so many steps ends the program. -/
def raised? {σ : Type} (handler : Handler σ) (fuel : Nat) (lp : EventLoop) (state : σ) (h : Host) :
    Option Fatal :=
  match lp.run handler fuel state h with
  | .error condition _ => some condition
  | _ => none

theorem of_raised? {σ : Type} {handler : Handler σ} {fuel : Nat} {lp : EventLoop} {state : σ}
    {h : Host} {condition : Fatal} (raised : raised? handler fuel lp state h = some condition) :
    ∃ h', lp.run handler fuel state h = .error condition h' := by
  unfold raised? at raised
  split at raised
  · rename_i condition h' ended
    cases raised
    exact ⟨h', ended⟩
  · cases raised

/-- A loop that was told to stop does not return if a later callback of the tick ends the
program. -/
theorem plunging_cutShort : ∃ deeds progress h,
    Chronicle plunging ⟨[some listening, some listening], none, false⟩ () {} deeds progress h ∧
      (EventLoop.mk [some listening, some listening] none false |>.follow deeds).exiting = true ∧
      CutShort plunging ⟨[some listening, some listening], none, false⟩ () {} ∧
      ¬ Succeeds plunging ⟨[some listening, some listening], none, false⟩ () {} := by
  let start : Running Unit :=
    ⟨⟨[some listening, some listening], none, false⟩, (), 0, {}, false, 0⟩
  have comes : (after plunging 1 start {}).map (·.1.eventLoop.exiting) = some true := by
    decide +kernel
  obtain ⟨⟨run, h⟩, reaches, exiting⟩ := Option.map_eq_some_iff.mp comes
  have visits : Visits plunging ⟨[some listening, some listening], none, false⟩ () {} run h :=
    (Visits.start rfl).of_after reaches
  obtain ⟨deeds, chronicle⟩ := visits.chronicled editing_plunging reached_both trivial
  have told := exiting
  rw [show run.eventLoop = _ from chronicle.eventLoop_eq] at told
  have raises : raised? plunging 2 ⟨[some listening, some listening], none, false⟩ () {} =
      some (.notBound "in") := by
    decide +kernel
  obtain ⟨last, ended⟩ := of_raised? raises
  have cut : CutShort plunging ⟨[some listening, some listening], none, false⟩ () {} :=
    .of_run editing_plunging reached_both trivial ended nofun
  exact ⟨deeds, _, h, chronicle, told, cut, fun succeeds => succeeds.not_cutShort cut⟩

end LocalPipe.EventLoop
