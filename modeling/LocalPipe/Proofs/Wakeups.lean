import LocalPipe.Proofs.Households
import LocalPipe.Proofs.ReadyHandles
import LocalPipe.Proofs.TickWalks
import Mathlib.Data.List.ReduceOption

namespace LocalPipe.EventLoop

open Host

/-- The endpoints of a loop, in the order of their places. -/
def endpoints (lp : EventLoop) : List Endpoint :=
  lp.pipes.reduceOption

variable {σ : Type}

/-- Callbacks that only tend to what is in hand: to the endpoints of the loop, and to the
endpoints and the spare descriptors that the handler's own state holds. -/
structure Handler.Tending (handler : Handler σ) (own : σ → List Endpoint)
    (spare : σ → List Descriptor) : Prop where
  onPipe : ∀ {id lp state h lp' state' h'}, handler.onPipe id lp state h = .ok (lp', state') h' →
    Tends (lp.endpoints ++ own state) (spare state) h
      (lp'.endpoints ++ own state') (spare state') h'
  onTimeout : ∀ {lp state h lp' state' h'}, handler.onTimeout lp state h = .ok (lp', state') h' →
    Tends (lp.endpoints ++ own state) (spare state) h
      (lp'.endpoints ++ own state') (spare state') h'

variable {handler : Handler σ} {own : σ → List Endpoint} {spare : σ → List Descriptor}
  {lp : EventLoop} {state : σ} {h₀ h h' h₁ : Host} {run run' : Running σ} {ep ep' : Endpoint}
  {place : Nat} {result : Except IoError Nat}

/-- What is in one place set apart from what is in the others. -/
theorem reduceOption_set_perm {pipes : List (Option Endpoint)} (within : place < pipes.length)
    (slot : Option Endpoint) : (pipes.set place slot).reduceOption.Perm
      (slot.toList ++ (pipes.eraseIdx place).reduceOption) := by
  rw [List.set_eq_take_append_cons_drop, if_pos within, List.eraseIdx_eq_take_drop_succ,
    List.reduceOption_append, List.reduceOption_append]
  cases slot with
  | none => exact .refl _
  | some ep => exact List.perm_middle

theorem endpoints_perm (here : lp.pipes[place]? = some (some ep)) :
    lp.endpoints.Perm (ep :: (lp.pipes.eraseIdx place).reduceOption) := by
  obtain ⟨within, present⟩ := List.getElem?_eq_some_iff.mp here
  have same := reduceOption_set_perm within (some ep)
  rwa [← present, List.set_getElem_self, present] at same

/-- An endpoint that is serviced in its place belongs to the household as before. -/
theorem household_service {eps : List Endpoint} {ds : List Descriptor} {waits waits' : WaitSet}
    {moved : Bool} (household : Household (lp.endpoints ++ eps) ds h)
    (here : lp.pipes[place]? = some (some ep))
    (run : ep.service waits h = .ok (moved, waits', ep') h') :
    Household ((lp.set ⟨place⟩ ep').endpoints ++ eps) ds h' := by
  have within : place < lp.pipes.length := (List.getElem?_eq_some_iff.mp here).1
  have before := household.perm ((endpoints_perm here).append_right eps)
  have after := (reduceOption_set_perm within (some ep')).append_right eps
  exact (before.service run).perm after.symm

/-- A loop loses nothing that it has in hand while it waits. -/
theorem secures_waited (waited : run.waited h = (result, h')) : h.SecuresAll h' := by
  have logged : h.SecuresAll (h.log (.waiting run.waits.length (run.intervalLeft h.now))) :=
    .of_handed rfl
  have secures : (h.log (.waiting run.waits.length (run.intervalLeft h.now))).SecuresAll
      (run.waited h).2 :=
    secures_waitFrame.wait _ (fun _ _ => trivial) fun _ _ _ _ => trivial
  rw [waited] at secures
  exact logged.trans secures

/-- What is due is so to an endpoint in some place. -/
theorem place_of_due {handle : WaitHandle} (due : handle ∈ lp.due) :
    ∃ (place : Nat) (ep : Endpoint), lp.pipes[place]? = some (some ep) ∧ handle ∈ ep.due := by
  obtain ⟨slot, member, waits⟩ := List.mem_flatMap.mp due
  obtain ⟨place, here⟩ := List.getElem?_of_mem member
  cases slot with
  | none => cases waits
  | some ep => exact ⟨place, ep, here, waits⟩

theorem descriptor?_of_due {handle : WaitHandle} (due : handle ∈ ep.due) :
    ep.descriptor? = some handle.descriptor := by
  cases connected : ep.connection with
  | none =>
    rw [Endpoint.due_of_closed connected] at due
    cases due
  | some c =>
    rw [Endpoint.descriptor?_of_connected connected]
    rcases Endpoint.due_cases connected due with ⟨rfl, _⟩ | ⟨rfl, _⟩ <;> rfl

namespace Visits

/-- Whatever its handler tends to, a loop keeps its household in every state that is
visited. -/
theorem household (visits : Visits handler lp state h₀ run h) (tending : handler.Tending own spare)
    (household : Household (lp.endpoints ++ own state) (spare state) h₀) :
    Household (run.eventLoop.endpoints ++ own run.state) (spare run.state) h := by
  induction visits with
  | start begun =>
    obtain ⟨_, rfl⟩ := Running.beginTick_running begun
    exact household
  | @step run run' h h' _ stepped ih =>
    cases Running.goes_of_step stepped with
    | rest here serves => exact household_service ih here serves
    | move here serves calls =>
      exact (tending.onPipe calls).household (household_service ih here serves)
    | skip => exact ih
    | timeout _ calls => exact (tending.onTimeout calls).household ih
    | turn _ _ ended =>
      rcases ended with rfl | ⟨n, waited⟩
      · exact ih
      · exact ih.secured (secures_waited waited).sparing

theorem reached_of_tending (visits : Visits handler lp state h₀ run h)
    (tending : handler.Tending own spare)
    (household : Household (lp.endpoints ++ own state) (spare state) h₀) :
    run.eventLoop.Reached :=
  fun ep member => (visits.household tending household).reached ep
    (List.mem_append_left _ (List.reduceOption_mem_iff.mpr member))

end Visits

/-- A service that moves bytes over the link of the endpoint, or closes it. -/
def working : Serving := fun ep h _ ep' h' =>
  ep.Works h ep' h'

/-- If a handle is ready that an endpoint further on has waited for, the loop comes to a service
that works, in that place at the latest. Up to there nothing changes that matters to the
handle. -/
theorem Running.comesToWork {handle : WaitHandle} (places : Nat)
    (reached : run.eventLoop.Reached) (faultless : h.Faultless)
    (here : run.eventLoop.pipes[run.place + places]? = some (some ep)) (due : handle ∈ ep.due)
    (opened : handle.descriptor ∈ h.descriptors) (ready : h.isReady (.handle handle) = true) :
    run.ComesTo handler working h := by
  let keeps (h : Host) : Prop :=
    h.Faultless ∧ handle.descriptor ∈ h.descriptors ∧ h.isReady (.handle handle) = true
  have rests : RestsKeep working keeps := by
    rintro other waits waits' h h' moved other' sound ⟨faultless, opened, ready⟩ serves idle
    obtain ⟨rests, links, descriptors⟩ := Endpoint.service_idle sound faultless serves idle
    exact ⟨rests, faultless.congr links, by rwa [descriptors],
      by rwa [isReady_congr links descriptors]⟩
  have within := (List.getElem?_eq_some_iff.mp here).1
  rcases comesTo_or_passes places rests reached ⟨faultless, opened, ready⟩
      (Nat.le_of_lt within) with comes | ⟨run', h', passes, faultless', opened', ready'⟩
  · exact comes
  · rw [← passes.place, ← passes.ahead run'.place (Nat.le_refl _)] at here
    have sound := (passes.reached reached).sound (List.mem_of_getElem? here)
    obtain ⟨moved, waits, ep', h'', serves, _⟩ := ep.service_sound run'.waits h' sound
    exact ⟨places, run', h', ep, moved, waits, ep', h'', passes, here, serves,
      Endpoint.service_works sound faultless' due opened' ready' serves⟩

/-- If a wait counts a handle that is ready, the next tick comes to a service that works. -/
theorem Visits.comesToWork (visits : Visits handler lp state h₀ run h)
    (tending : handler.Tending own spare)
    (household : Household (lp.endpoints ++ own state) (spare state) h₀) (waits : run.AtWait h)
    {n : Nat} (wakes : run.waited h = (.ok (n + 1), h₁)) (faultless : h₁.Faultless) :
    run.again.ComesTo handler working h₁ := by
  have gathered := visits.gathered fun run h visits ep member =>
    (visits.reached_of_tending tending household).sound member
  obtain ⟨handle, member, ready⟩ := wait_ready wakes
  rw [gathered.handles_eq waits] at member
  obtain ⟨place, ep, here, due⟩ := place_of_due member
  -- whoever acted while the loop waited, the endpoint still has its descriptor
  have awake := (visits.household tending household).secured (secures_waited wakes).sparing
  have opened : handle.descriptor ∈ h₁.descriptors := by
    refine (awake.owned handle.descriptor (List.mem_append_left _ ?_)).opened
    have present := List.reduceOption_mem_iff.mpr (List.mem_of_getElem? here)
    exact List.mem_filterMap.mpr ⟨ep, List.mem_append_left _ present, descriptor?_of_due due⟩
  rw [← Nat.zero_add place] at here
  exact Running.comesToWork place (visits.reached_of_tending tending household) faultless here due
    opened ready

/-- If a wait of the loop counts a handle that is ready, the next tick begins, and in that tick
an endpoint that is serviced moves bytes over its link, or is closed. This takes the reads and
writes of ends to be without faults when the wait has ended; what others did up to then, and what
the handler does, is arbitrary. -/
theorem Handler.Tending.wakeup_works (tending : handler.Tending own spare)
    (household : Household (lp.endpoints ++ own state) (spare state) h₀)
    (visits : Visits handler lp state h₀ run h) (waits : run.AtWait h) {n : Nat}
    (wakes : run.waited h = (.ok (n + 1), h₁)) (faultless : h₁.Faultless) :
    run.step handler h = .ok (.running run.again) h₁ ∧ run.again.ComesTo handler working h₁ :=
  ⟨waits.step_waited wakes, visits.comesToWork tending household waits wakes faultless⟩

theorem tending_rotating : rotating.Tending (fun _ => []) fun _ => [] where
  onPipe {id lp state h lp' state' h'} run := by
    unfold rotating at run
    cases present : lp.get? id with
    | none =>
      simp only [present] at run
      cases run
      exact .start
    | some ep =>
      simp only [present] at run
      cases run
      have here : lp.pipes[id.index]? = some (some ep) := Option.join_eq_some_iff.mp present
      have within : id.index < lp.pipes.length := (List.getElem?_eq_some_iff.mp here).1
      have removed := (reduceOption_set_perm within none).append_right [ep]
      have split : ((lp.remove id).2.add ep).2.endpoints =
          (lp.pipes.set id.index none).reduceOption ++ [ep] := List.reduceOption_append _ _
      have moved : ((lp.remove id).2.add ep).2.endpoints.Perm lp.endpoints := by
        rw [split]
        exact (removed.trans List.perm_append_comm).trans (endpoints_perm here).symm
      exact .keep .start (moved.append_right []).subperm (List.Subperm.refl _)
  onTimeout run := by
    cases run
    exact .start

theorem household_listening : Household [listening] [] typed where
  reached ep member := by
    cases List.mem_singleton.mp member
    exact reached_listening listening List.mem_cons_self
  numbered := nofun
  owned d member := by
    cases List.mem_singleton.mp member
    exact ⟨by decide, by decide, by decide⟩
  distinct := by decide

/-- A byte is typed while a loop waits, which then comes to the endpoint that receives it, at
its new place. -/
theorem rotating_wakeup_works : ∃ run h h₁,
    Visits rotating ⟨[some listening], none, false⟩ () { typed with
      appointments := [⟨5, [.send ⟨"in", .b⟩ [33]]⟩] } run h ∧
    run.AtWait h ∧ run.waited h = (.ok 1, h₁) ∧ run.again.ComesTo rotating working h₁ := by
  let host : Host := { typed with appointments := [⟨5, [.send ⟨"in", .b⟩ [33]]⟩] }
  let start : Running Unit := ⟨⟨[some listening], none, false⟩, (), 0, {}, false, host.now⟩
  let received : Link := { capacity := 16, endA := { buffer := [33], nonblocking := true } }
  have comes : (after rotating 5 start host).map (fun s =>
      (decide (s.1.AtWait s.2), decide ((s.1.waited s.2).1 = .ok 1), (s.1.waited s.2).2.links)) =
      some (true, true, ⟨[("in", received)]⟩) := by
    decide +kernel
  obtain ⟨⟨run, h⟩, reaches, shown⟩ := Option.map_eq_some_iff.mp comes
  simp only [Prod.mk.injEq, decide_eq_true_eq] at shown
  obtain ⟨waits, counted, links⟩ := shown
  have visits : Visits rotating ⟨[some listening], none, false⟩ () host run h :=
    (Visits.start rfl).of_after reaches
  have household : Household ((⟨[some listening], none, false⟩ : EventLoop).endpoints ++ []) []
      host := household_listening.secured (.of_handed rfl)
  have wakes : run.waited h = (.ok (0 + 1), (run.waited h).2) := Prod.ext counted rfl
  have faultless : (run.waited h).2.Faultless := by
    refine .of_links fun name l present s p => ?_
    rw [links, Table.get?, Table.lookup] at present
    split at present
    · cases present
      cases s <;> cases p <;> rfl
    · cases present
  exact ⟨run, h, _, visits, waits, wakes,
    (tending_rotating.wakeup_works household visits waits wakes faultless).2⟩

end LocalPipe.EventLoop
