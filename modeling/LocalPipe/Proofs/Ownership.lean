import LocalPipe.Proofs.Frames
import LocalPipe.Proofs.Uses
import LocalPipe.Proofs.WaitFrames

namespace LocalPipe

open Host

namespace Host

/-- A descriptor belongs to the program: it is open, nobody else holds it, and its number was
given out. -/
structure Owns (h : Host) (d : Descriptor) : Prop where
  opened : d ∈ h.descriptors
  own : d ∉ h.connectors
  given : d.number < h.nextDescriptor

/-- The numbers of the descriptors that others hold were given out. -/
def Numbered (h : Host) : Prop :=
  ∀ d ∈ h.connectors, d.number < h.nextDescriptor

/-- Which descriptors are open, which of them others hold, the number of the next one, and the
time. -/
def handed (h : Host) : List Descriptor × List Descriptor × Nat × Nat :=
  (h.descriptors, h.connectors, h.nextDescriptor, h.now)

/-- What belonged to the program still does, but for some descriptors. Numbers are given out
in order, and time goes on. -/
structure Secures (h : Host) (but : Descriptor → Prop) (h' : Host) : Prop where
  time : h.now ≤ h'.now
  numbers : h.nextDescriptor ≤ h'.nextDescriptor
  numbered : h.Numbered → h'.Numbered
  owned : ∀ d, ¬ but d → h.Owns d → h'.Owns d

/-- All that belonged to the program still does. -/
def SecuresAll (h h' : Host) : Prop :=
  h.Secures (fun _ => False) h'

/-- A descriptor was opened for the program. -/
structure Hands (h : Host) (d : Descriptor) (h' : Host) : Prop where
  fresh : h.nextDescriptor ≤ d.number
  owned : h.Numbered → h'.Owns d

variable {h h' mid : Host} {d : Descriptor} {but but' : Descriptor → Prop}

theorem Owns.congr (owns : h.Owns d) (same : h'.handed = h.handed) : h'.Owns d := by
  obtain ⟨opened, own, given⟩ := owns
  simp only [handed, Prod.mk.injEq] at same
  rw [← same.1] at opened
  rw [← same.2.1] at own
  rw [← same.2.2.1] at given
  exact ⟨opened, own, given⟩

namespace Secures

theorem trans (first : h.Secures but mid) (second : mid.Secures but h') : h.Secures but h' where
  time := Nat.le_trans first.time second.time
  numbers := Nat.le_trans first.numbers second.numbers
  numbered before := second.numbered (first.numbered before)
  owned d spared owns := second.owned d spared (first.owned d spared owns)

theorem mono (secures : h.Secures but h') (wider : ∀ d, but d → but' d) : h.Secures but' h' :=
  ⟨secures.time, secures.numbers, secures.numbered,
    fun d spared => secures.owned d (mt (wider d) spared)⟩

theorem of_handed (same : h'.handed = h.handed) : h.Secures but h' := by
  have parts := same
  simp only [handed, Prod.mk.injEq] at parts
  refine ⟨Nat.le_of_eq parts.2.2.2.symm, Nat.le_of_eq parts.2.2.1.symm, fun before => ?_,
    fun d _ owns => owns.congr same⟩
  rw [Numbered, parts.2.1, parts.2.2.1]
  exact before

end Secures

theorem SecuresAll.sparing (secures : h.SecuresAll h') : h.Secures but h' :=
  secures.mono fun _ => False.elim

theorem Hands.after (hands : mid.Hands d h') (first : h.SecuresAll mid) : h.Hands d h' :=
  ⟨Nat.le_trans first.numbers hands.fresh, fun before => hands.owned (first.numbered before)⟩

theorem Hands.kept (hands : h.Hands d mid) (same : h'.handed = mid.handed) : h.Hands d h' :=
  ⟨hands.fresh, fun before => (hands.owned before).congr same⟩

section Handed

theorem handed_setEnd (h : Host) (p : EndId) (linkEnd : LinkEnd) :
    (h.setEnd p linkEnd).handed = h.handed := by
  rw [setEnd_frame]
  rfl

theorem handed_closeEnd (h : Host) (p : EndId) : (h.closeEnd p).handed = h.handed := by
  rw [closeEnd_frame]
  rfl

theorem handed_of_takeFault {point : FaultPoint} {outcome : Option Errno}
    (taken : h.takeFault point = (outcome, h')) : h'.handed = h.handed := by
  obtain ⟨_, rfl⟩ := frame_of_takeFault taken
  rfl

theorem handed_getMode (h : Host) (d : Descriptor) : (h.getMode d).2.handed = h.handed := by
  rw [getMode_frame]
  rfl

theorem handed_setMode (h : Host) (d : Descriptor) (nonblocking : Bool) :
    (h.setMode d nonblocking).2.handed = h.handed := by
  rw [setMode_frame]
  rfl

theorem handed_unlink (h : Host) (path : Bytes) : (h.unlink path).2.handed = h.handed := by
  rw [unlink_frame]
  rfl

theorem handed_listen (h : Host) (path : Bytes) : (h.listen path).2.handed = h.handed := by
  rw [listen_frame]
  rfl

end Handed

theorem secures_close (h : Host) (d : Descriptor) : h.Secures (· = d) (h.close d) := by
  rw [close_frame]
  exact ⟨Nat.le_refl _, Nat.le_refl _, id, fun d' other owns =>
    ⟨(List.mem_erase_of_ne other).mpr owns.opened, owns.own, owns.given⟩⟩

theorem secures_openDescriptor (h : Host) (p : EndId) : h.SecuresAll (h.openDescriptor p).2 where
  time := Nat.le_refl _
  numbers := Nat.le_succ _
  numbered before d member := Nat.lt_succ_of_lt (before d member)
  owned _ _ owns := ⟨List.mem_cons_of_mem _ owns.opened, owns.own, Nat.lt_succ_of_lt owns.given⟩

theorem hands_openDescriptor (h : Host) (p : EndId) :
    h.Hands (h.openDescriptor p).1 (h.openDescriptor p).2 where
  fresh := Nat.le_refl _
  owned before :=
    ⟨List.mem_cons_self, fun strange => Nat.lt_irrefl _ (before _ strange), Nat.lt_succ_self _⟩

/-- Connecting takes nothing away, and opens a descriptor if it succeeds. -/
theorem connect_secures {path : Bytes} {answer : Except IoError Descriptor}
    (connects : h.connect path = (answer, h')) :
    h.SecuresAll h' ∧ ∀ d, answer = .ok d → h.Hands d h' := by
  unfold connect at connects
  split at connects
  · cases connects
    exact ⟨.of_handed rfl, nofun⟩
  · split at connects
    · rename_i fault
      cases connects
      exact ⟨.of_handed (handed_of_takeFault fault :), nofun⟩
    · rename_i mid fault
      have taken : h.SecuresAll mid := .of_handed (handed_of_takeFault fault)
      split at connects
      · cases connects
        exact ⟨taken.trans (.of_handed rfl), nofun⟩
      · rename_i listener _
        have linked : h.SecuresAll (mid.addLink listener mid.linkPlan) :=
          taken.trans (.of_handed rfl)
        have opens := secures_openDescriptor (mid.addLink listener mid.linkPlan)
          ⟨mid.linkPlan.name, .a⟩
        have hands := hands_openDescriptor (mid.addLink listener mid.linkPlan)
          ⟨mid.linkPlan.name, .a⟩
        cases connects
        refine ⟨(linked.trans opens).trans (.of_handed rfl), fun d same => ?_⟩
        cases same
        exact (hands.after linked).kept rfl

theorem accept_secures {listener : Nat} {answer : Except Errno Descriptor}
    (accepts : h.accept listener = (answer, h')) :
    h.SecuresAll h' ∧ ∀ d, answer = .ok d → h.Hands d h' := by
  unfold accept at accepts
  split at accepts
  · rename_i fault
    cases accepts
    exact ⟨.of_handed (handed_of_takeFault fault :), nofun⟩
  · rename_i mid fault
    have taken : h.SecuresAll mid := .of_handed (handed_of_takeFault fault)
    split at accepts
    · rename_i name rest _
      let fewer : Host := { mid with listeners := mid.listeners.set listener rest }
      have first : h.SecuresAll fewer := taken.trans (.of_handed rfl)
      have opens := secures_openDescriptor fewer ⟨name, .b⟩
      have hands := hands_openDescriptor fewer ⟨name, .b⟩
      cases accepts
      refine ⟨(first.trans opens).trans (.of_handed rfl), fun d same => ?_⟩
      cases same
      exact (hands.after first).kept rfl
    · cases accepts
      exact ⟨taken.trans (.of_handed rfl), nofun⟩

/-- Others close an end after they have let go of the descriptor, if they hold one, that they
connected from it. -/
theorem secures_peerClose (h : Host) (q : EndId) : h.SecuresAll (h.peerClose q).2 := by
  unfold peerClose
  split
  · exact .of_handed rfl
  · split
    · rename_i d found
      have theirs : d ∈ h.connectors := List.mem_of_find?_eq_some found
      have forgets : h.SecuresAll { h with connectors := h.connectors.erase d } :=
        ⟨Nat.le_refl _, Nat.le_refl _,
          fun before d' member => before d' (List.mem_of_mem_erase member),
          fun d' _ owns => ⟨owns.opened, mt List.mem_of_mem_erase owns.own, owns.given⟩⟩
      have closed := forgets.sparing.trans (secures_close _ d)
      refine Secures.trans ⟨closed.time, closed.numbers, closed.numbered, fun d' _ owns => ?_⟩
        (.of_handed (handed_closeEnd _ q))
      refine closed.owned d' ?_ owns
      rintro rfl
      exact owns.own theirs
    · exact .of_handed (handed_closeEnd h q)

theorem secures_peerConnect (h : Host) (name : Bytes) (plan : LinkPlan) :
    h.SecuresAll (h.peerConnect name plan).2 := by
  unfold peerConnect
  split
  · exact .of_handed rfl
  · split
    · rename_i fault
      exact .of_handed (handed_of_takeFault fault)
    · rename_i mid fault
      have taken : h.SecuresAll mid := .of_handed (handed_of_takeFault fault)
      split
      · exact taken
      · refine taken.trans
          ⟨Nat.le_refl _, Nat.le_succ _, fun before d member => ?_, fun d _ owns => ?_⟩
        · rcases List.mem_cons.mp member with rfl | earlier
          · exact Nat.lt_succ_self _
          · exact Nat.lt_succ_of_lt (before d earlier)
        · refine ⟨List.mem_cons_of_mem _ owns.opened, fun theirs => ?_,
            Nat.lt_succ_of_lt owns.given⟩
          rcases List.mem_cons.mp theirs with rfl | earlier
          · exact Nat.lt_irrefl _ owns.given
          · exact owns.own earlier

/-- What others do takes nothing from the program: they close only what they hold. -/
theorem secures_act (h : Host) (action : PeerAction) : h.SecuresAll (h.act action).2 := by
  cases action with
  | send q data =>
    rcases h.peerSend_cases q data with ⟨same, _⟩ | ⟨_, _, _, _, _, _, sent⟩
    · rw [act, same]
      exact .of_handed rfl
    · rw [act, sent]
      exact .of_handed (handed_setEnd _ _ _)
  | receive q max =>
    rcases h.peerReceive_cases q max with same | ⟨_, _, _, took⟩
    · rw [act, same]
      exact .of_handed rfl
    · rw [act, took]
      exact .of_handed (handed_setEnd _ _ _)
  | close q => exact h.secures_peerClose q
  | connect name link capacity => exact h.secures_peerConnect name ⟨link, capacity⟩
  | failCalls point outcomes => exact .of_handed rfl
  | failTransfers q d faults =>
    rcases h.failTransfers_cases q d faults with same | ⟨_, _, set⟩
    · rw [act, same]
      exact .of_handed rfl
    · rw [act, set]
      exact .of_handed (handed_setEnd _ _ _)

theorem secures_waitFrame : WaitFrame (fun _ => True) SecuresAll where
  trans := Secures.trans
  passes _ _ _ _ _ later :=
    ⟨later, Nat.le_refl _, id, fun _ _ owns => ⟨owns.opened, owns.own, owns.given⟩⟩
  record _ _ _ := .of_handed rfl
  act h action := (h.secures_act action).trans (.of_handed rfl)

theorem secures_frame : CallFrame SecuresAll where
  refl _ := .of_handed rfl
  trans := Secures.trans
  events _ _ := .of_handed rfl
  write h d data := .of_handed (by rw [write_frame]; rfl)
  waitReady h _ _ := secures_waitFrame.waitReady h fun _ => trivial
  connect h path := (connect_secures (Prod.eta (h.connect path)).symm).1
  accept h listener := (accept_secures (Prod.eta (h.accept listener)).symm).1
  setListenerMode h := .of_handed (by rw [setListenerMode_frame]; rfl)
  getMode h d := .of_handed (h.handed_getMode d)
  setMode h d nonblocking := .of_handed (h.handed_setMode d nonblocking)

end Host

end LocalPipe
