import LocalPipe.Proofs.LoopChronicles

namespace LocalPipe.EventLoop

/-- The place that has its turn with a deed. -/
def Deed.turn? : Deed → Option Nat
  | .pass place => some place
  | .service place _ _ => some place
  | _ => none

/-- Whether the handler is called with a deed. -/
def Deed.isCallback : Deed → Bool
  | .call _ => true
  | .timeout => true
  | _ => false

/-- What was done since the last tick began. -/
def thisTick (deeds : List Deed) : List Deed :=
  deeds.foldl (fun tick deed => if deed = .tick then [] else tick ++ [deed]) []

/-- The places that had their turn since the last tick began. -/
def turns (deeds : List Deed) : List Nat :=
  (thisTick deeds).filterMap Deed.turn?

/-- Whom the handler is to be called for next: an endpoint that was just serviced and has
moved. -/
def awaited? (deeds : List Deed) : Option PipeId :=
  match deeds.getLast? with
  | some (.service place _ true) => some ⟨place⟩
  | _ => none

/-- At some moment of this tick each place that there was had had its turn, and no place has
had one since. -/
def TurnsOver (lp : EventLoop) (past : List Deed) : Prop :=
  ∃ before closing, past = before ++ closing ∧
    turns before = List.range (lp.follow before).pipes.length ∧
    ∀ deed ∈ closing, deed ≠ .tick ∧ deed.turn? = none

/-- What can come next when a loop has done some things. The places have their turns in
increasing order, and an endpoint that is there is serviced. The handler is called for an
endpoint that has moved before anything else is done. A tick ends when all places have had
their turns. After a callback the loop does not wait, and once it was told to stop it
neither waits nor begins a tick. -/
inductive Fits (lp : EventLoop) (past : List Deed) : Deed → Prop
  | tick : awaited? past = none → (past ≠ [] → lp.TurnsOver past) →
      (lp.follow past).exiting = false → Fits lp past .tick
  | pass {place : Nat} : awaited? past = none → turns past = List.range place →
      (lp.follow past).pipes[place]? = some none → Fits lp past (.pass place)
  | service {place : Nat} {ep ep' : Endpoint} {moved : Bool} {waits waits' : WaitSet}
      {h h' : Host} : awaited? past = none → turns past = List.range place →
      (lp.follow past).pipes[place]? = some (some ep) →
      ep.service waits h = .ok (moved, waits', ep') h' → Fits lp past (.service place ep' moved)
  | call {id : PipeId} : awaited? past = some id → Fits lp past (.call id)
  | timeout : awaited? past = none → lp.TurnsOver past → Fits lp past .timeout
  | edit {edit : Edit} : awaited? past = none → (lp.follow past).Allows edit →
      Fits lp past (.edit edit)
  | wait : awaited? past = none → lp.TurnsOver past →
      (∀ deed ∈ thisTick past, deed.isCallback = false) → (lp.follow past).exiting = false →
      Fits lp past .wait

/-- Everything is done in its turn. -/
def Disciplined (lp : EventLoop) (deeds : List Deed) : Prop :=
  ∀ past deed rest, deeds = past ++ deed :: rest → lp.Fits past deed

variable {σ : Type} {handler : Handler σ} {holds : σ → Prop} {lp lp' : EventLoop} {state : σ}
  {h₀ h h' : Host} {run : Running σ} {progress : Progress σ} {deeds past more rest : List Deed}
  {deed : Deed} {id : PipeId}

section Lists

@[simp] theorem follow_append (lp : EventLoop) (first second : List Deed) :
    lp.follow (first ++ second) = (lp.follow first).follow second :=
  List.foldl_append

@[simp] theorem follow_cons (lp : EventLoop) (deed : Deed) (rest : List Deed) :
    lp.follow (deed :: rest) = (lp.heed deed).follow rest :=
  rfl

@[simp] theorem follow_nil (lp : EventLoop) : lp.follow [] = lp :=
  rfl

theorem thisTick_tick (deeds : List Deed) : thisTick (deeds ++ [.tick]) = [] := by
  simp [thisTick]

theorem thisTick_append (going : .tick ∉ more) :
    thisTick (deeds ++ more) = thisTick deeds ++ more := by
  induction more generalizing deeds with
  | nil => simp
  | cons deed rest ih =>
    obtain ⟨goes, going'⟩ := not_or.mp (mt List.mem_cons.mpr going)
    have one : thisTick (deeds ++ [deed]) = thisTick deeds ++ [deed] := by
      simp [thisTick, Ne.symm goes]
    rw [List.append_cons, ih going', one, List.append_assoc, List.singleton_append]

theorem turns_append (going : .tick ∉ more) :
    turns (deeds ++ more) = turns deeds ++ more.filterMap Deed.turn? := by
  rw [turns, thisTick_append going, List.filterMap_append, turns]

theorem awaited?_append (deeds : List Deed) (deed : Deed) :
    awaited? (deeds ++ [deed]) = awaited? [deed] := by
  simp [awaited?]

/-- What is done makes no loop smaller. -/
theorem length_heed (lp : EventLoop) (deed : Deed) :
    lp.pipes.length ≤ (lp.heed deed).pipes.length := by
  cases deed with
  | service => simp [heed, EventLoop.set]
  | edit edit => cases edit <;> simp [heed, EventLoop.edit, add, remove, EventLoop.set, shutdown]
  | tick | pass | call | timeout | wait => exact Nat.le_refl _

theorem length_follow (lp : EventLoop) (deeds : List Deed) :
    lp.pipes.length ≤ (lp.follow deeds).pipes.length := by
  induction deeds generalizing lp with
  | nil => exact Nat.le_refl _
  | cons deed rest ih => exact Nat.le_trans (lp.length_heed deed) (ih _)

/-- A loop that was told to stop is told so for good. -/
theorem exiting_heed (exiting : lp.exiting = true) (deed : Deed) :
    (lp.heed deed).exiting = true := by
  cases deed with
  | edit edit =>
    cases edit with
    | shutdown => rfl
    | add | remove | change => exact exiting
  | tick | pass | service | call | timeout | wait => exact exiting

theorem exiting_follow (exiting : lp.exiting = true) (deeds : List Deed) :
    (lp.follow deeds).exiting = true := by
  induction deeds generalizing lp with
  | nil => exact exiting
  | cons deed rest ih => exact ih (exiting_heed exiting deed)

end Lists

namespace Disciplined

theorem append (disciplined : lp.Disciplined deeds) (fits : lp.Fits deeds deed) :
    lp.Disciplined (deeds ++ [deed]) := by
  intro past next rest split
  rcases List.eq_nil_or_concat rest with rfl | ⟨rest, last, rfl⟩
  · obtain ⟨rfl, same⟩ := List.append_inj' split rfl
    cases same
    exact fits
  · rw [List.concat_eq_append, ← List.cons_append, ← List.append_assoc] at split
    exact disciplined past next rest (List.append_inj_left' split rfl)

/-- What a callback does fits in once it has begun. -/
theorem edits {edits : List Edit} (disciplined : lp.Disciplined deeds)
    (answered : awaited? deeds = none) (edited : (lp.follow deeds).Edited edits lp') :
    lp.Disciplined (deeds ++ edits.map .edit) ∧ awaited? (deeds ++ edits.map .edit) = none ∧
      lp.follow (deeds ++ edits.map .edit) = lp' := by
  generalize begun : lp.follow deeds = mid at edited
  induction edited generalizing deeds with
  | nil =>
    rw [List.map_nil, List.append_nil]
    exact ⟨disciplined, answered, begun⟩
  | @cons mid lp' edit rest allows _ ih =>
    subst begun
    rw [List.map_cons, List.append_cons]
    exact ih (disciplined.append (.edit answered allows)) (by rw [awaited?_append]; rfl)
      (follow_append _ _ _)

end Disciplined

theorem TurnsOver.append (finished : lp.TurnsOver past)
    (rests : ∀ deed ∈ more, deed ≠ .tick ∧ deed.turn? = none) : lp.TurnsOver (past ++ more) := by
  obtain ⟨before, closing, split, turns, rested⟩ := finished
  refine ⟨before, closing ++ more, by rw [split, List.append_assoc], turns, fun deed member => ?_⟩
  rcases List.mem_append.mp member with earlier | later
  · exact rested deed earlier
  · exact rests deed later

/-- No edit begins a tick or is a turn. -/
theorem edits_within {edits : List Edit} (member : deed ∈ edits.map Deed.edit) :
    deed ≠ .tick ∧ deed.turn? = none := by
  obtain ⟨edit, _, rfl⟩ := List.mem_map.mp member
  exact ⟨Deed.noConfusion, rfl⟩

/-- What has been done up to a state of a running loop. -/
structure Kept (lp : EventLoop) (deeds : List Deed) (run : Running σ) : Prop where
  loop : run.eventLoop = lp.follow deeds
  turns : turns deeds = List.range run.place
  within : run.place ≤ run.eventLoop.pipes.length
  quiet : run.acted = false → ∀ deed ∈ thisTick deeds, deed.isCallback = false
  answered : awaited? deeds = none

/-- What has been done accords with what a run has come to. At the end of a run the turns
of its last tick are over, if there was one. It ends well if the loop was told to stop, and
only then. -/
def Accords (lp : EventLoop) (deeds : List Deed) : Progress σ → Prop
  | .running run => Kept lp deeds run
  | .finished result lp' _ => lp' = lp.follow deeds ∧ awaited? deeds = none ∧
      (deeds ≠ [] → lp.TurnsOver deeds) ∧ (result = .ok () ↔ lp'.exiting = true)

/-- Between two ticks, or before the first one. -/
theorem Disciplined.beginTick (disciplined : lp.Disciplined deeds)
    (answered : awaited? deeds = none) (finished : deeds ≠ [] → lp.TurnsOver deeds)
    (loop : run.eventLoop = lp.follow deeds) :
    lp.Disciplined (deeds ++ run.beginTick.begun) ∧
      Accords lp (deeds ++ run.beginTick.begun) run.beginTick := by
  unfold Running.beginTick
  split
  · rename_i exiting
    rw [Progress.begun, List.append_nil]
    exact ⟨disciplined, loop, answered, finished, by simp [exiting]⟩
  · rename_i going
    rw [loop, Bool.not_eq_true] at going
    refine ⟨disciplined.append (.tick answered finished going), ?_, ?_, Nat.zero_le _, ?_, ?_⟩
    · rw [Progress.begun, follow_append, ← loop]
      rfl
    · rw [Progress.begun, EventLoop.turns, thisTick_tick]
      rfl
    · rw [Progress.begun, thisTick_tick]
      simp
    · rw [Progress.begun, awaited?_append]
      rfl

namespace Kept

/-- All places have had their turns when there is no further place. -/
theorem turnsOver (kept : Kept lp deeds run)
    (through : run.eventLoop.pipes[run.place]? = none) : lp.TurnsOver deeds := by
  have past := List.getElem?_eq_none_iff.mp through
  have all : run.place = run.eventLoop.pipes.length := Nat.le_antisymm kept.within past
  refine ⟨deeds, [], (List.append_nil _).symm, ?_, by simp⟩
  rw [kept.turns, all, kept.loop]

theorem quiet_append (kept : Kept lp deeds run) (going : .tick ∉ more)
    (silent : ∀ deed ∈ more, deed.isCallback = false) (resting : run.acted = false) :
    ∀ deed ∈ thisTick (deeds ++ more), deed.isCallback = false := by
  intro deed member
  rw [thisTick_append going] at member
  rcases List.mem_append.mp member with before | new
  · exact kept.quiet resting deed before
  · exact silent deed new

theorem turns_succ (kept : Kept lp deeds run) (turn : deed.turn? = some run.place)
    (going : .tick ∉ rest) (rests : ∀ deed ∈ rest, deed.turn? = none) :
    EventLoop.turns (deeds ++ deed :: rest) = List.range (run.place + 1) := by
  have goes : deed ≠ .tick := by
    rintro rfl
    cases turn
  have none_else : rest.filterMap Deed.turn? = [] := List.filterMap_eq_nil_iff.mpr rests
  rw [turns_append (by simp [going, Ne.symm goes]), kept.turns, List.filterMap_cons_some turn,
    none_else, List.range_succ]

/-- What is done in a step fits in, and accords with what the step leads to. -/
theorem does (kept : Kept lp deeds run) (disciplined : lp.Disciplined deeds)
    (does : run.Does handler h more progress h') :
    lp.Disciplined (deeds ++ more) ∧ Accords lp (deeds ++ more) progress := by
  cases does with
  | @rest ep waits ep' h' here serves =>
    have within : run.place < run.eventLoop.pipes.length := (List.getElem?_eq_some_iff.mp here).1
    refine ⟨disciplined.append (.service kept.answered kept.turns (kept.loop ▸ here) serves),
      ?_, ?_, ?_, ?_, ?_⟩
    · rw [follow_append, ← kept.loop]
      rfl
    · exact kept.turns_succ rfl (by simp) (by simp)
    · rw [EventLoop.set, List.length_set]
      exact within
    · exact kept.quiet_append (by simp) (by simp [Deed.isCallback])
    · rw [awaited?_append]
      rfl
  | @move ep waits ep' mid edits lp' state h' here serves handled edited =>
    have within : run.place < run.eventLoop.pipes.length := (List.getElem?_eq_some_iff.mp here).1
    have served := disciplined.append
      (.service kept.answered kept.turns (kept.loop ▸ here) serves)
    have called := served.append (.call (by rw [awaited?_append]; rfl))
    rw [kept.loop] at edited
    obtain ⟨disciplined', answered, loop⟩ := called.edits (by rw [awaited?_append]; rfl)
      (by simpa [heed] using edited)
    rw [List.append_assoc, List.append_assoc, List.cons_append, List.nil_append,
      List.cons_append, List.nil_append] at disciplined' answered loop
    refine ⟨disciplined', loop.symm, ?_, ?_, by simp, answered⟩
    · refine kept.turns_succ rfl ?_ ?_
      · intro member
        rcases List.mem_cons.mp member with same | edit
        · cases same
        · exact (edits_within edit).1 rfl
      · intro deed member
        rcases List.mem_cons.mp member with rfl | edit
        · rfl
        · exact (edits_within edit).2
    · have grown := length_follow run.eventLoop
        (.service run.place ep' true :: .call ⟨run.place⟩ :: edits.map .edit)
      rw [follow_append, ← kept.loop] at loop
      rw [loop] at grown
      exact Nat.le_trans within grown
  | skip here =>
    have within : run.place < run.eventLoop.pipes.length := (List.getElem?_eq_some_iff.mp here).1
    refine ⟨disciplined.append (.pass kept.answered kept.turns (kept.loop ▸ here)),
      ?_, ?_, within, ?_, ?_⟩
    · rw [follow_append, ← kept.loop]
      rfl
    · exact kept.turns_succ rfl (by simp) (by simp)
    · exact kept.quiet_append (by simp) (by simp [Deed.isCallback])
    · rw [awaited?_append]
      rfl
  | @timeout edits lp' state progress h' through handled edited begun =>
    have called := disciplined.append (.timeout kept.answered (kept.turnsOver through))
    rw [kept.loop] at edited
    obtain ⟨disciplined', answered, loop⟩ := called.edits (by rw [awaited?_append]; rfl)
      (by simpa [heed] using edited)
    rw [List.append_assoc, List.cons_append, List.nil_append] at disciplined' answered loop
    have finished : lp.TurnsOver (deeds ++ .timeout :: edits.map .edit) := by
      refine (kept.turnsOver through).append fun deed member => ?_
      rcases List.mem_cons.mp member with rfl | edit
      · exact ⟨Deed.noConfusion, rfl⟩
      · exact edits_within edit
    subst begun
    rw [← List.append_assoc]
    exact disciplined'.beginTick answered (fun _ => finished) loop.symm
  | turn through _ begun =>
    subst begun
    exact disciplined.beginTick kept.answered (fun _ => kept.turnsOver through) kept.loop
  | wait waits waited =>
    have going : (lp.follow deeds).exiting = false := kept.loop ▸ waits.going
    have waiting := disciplined.append (.wait kept.answered (kept.turnsOver waits.through)
      (kept.quiet waits.resting) going)
    have answered : awaited? (deeds ++ [.wait]) = none := by rw [awaited?_append]; rfl
    have finished : lp.TurnsOver (deeds ++ [.wait]) :=
      (kept.turnsOver waits.through).append (by simp [Deed.turn?])
    have loop : run.eventLoop = lp.follow (deeds ++ [.wait]) := by
      rw [follow_append, ← kept.loop]
      rfl
    rw [List.append_cons]
    rcases Running.wait_ok waited with rfl | ⟨e, rfl⟩
    · exact waiting.beginTick answered (fun _ => finished) loop
    · rw [Progress.begun, List.append_nil]
      exact ⟨waiting, loop, answered, fun _ => finished, by simp [waits.going]⟩

end Kept

namespace Chronicle

/-- All that is done in a run is done in its turn. -/
theorem disciplined (chronicle : Chronicle handler lp state h₀ deeds progress h) :
    lp.Disciplined deeds ∧ Accords lp deeds progress := by
  induction chronicle with
  | start begun =>
    subst begun
    have nothing : lp.Disciplined [] := by simp [Disciplined]
    exact nothing.beginTick rfl (by simp) rfl
  | step _ _ does ih =>
    obtain ⟨disciplined, kept⟩ := ih
    exact Kept.does kept disciplined does

end Chronicle

end LocalPipe.EventLoop
