import LocalPipe.Proofs.PollTimes

namespace LocalPipe

namespace Host

theorem now_keepUntil {moment : Nat} (appointments : List Appointment) {h : Host}
    (early : h.now ≤ moment) : (keepUntil moment appointments h).now ≤ moment := by
  induction appointments generalizing h with
  | nil => exact early
  | cons a rest ih =>
    unfold keepUntil
    split
    · rename_i due
      refine ih ?_
      rw [now_keep]
      exact Nat.max_le.mpr ⟨early, due⟩
    · exact early

/-- A relation between a host before and after some time that composes, to which all that
others do keeps, as do the calls that it admits and the clock while it goes on, and which has
nothing to do with what is ahead. -/
structure WaitFrame (admits : Call → Prop) (R : Host → Host → Prop) : Prop where
  trans {h h' h'' : Host} : R h h' → R h' h'' → R h h''
  passes (h : Host) (now patience : Nat) (appointments : List Appointment)
    (callFaults : Table FaultPoint (List (Option Errno))) : h.now ≤ now →
    R h { h with now, patience, appointments, callFaults }
  record (h : Host) (call : Call) : admits call → R h (h.record call)
  act (h : Host) (action : PeerAction) : R h (h.actRecorded action)

namespace WaitFrame

variable {admits : Call → Prop} {R : Host → Host → Prop} (frame : WaitFrame admits R)

include frame

theorem refl (h : Host) : R h h :=
  frame.passes h h.now h.patience h.appointments h.callFaults (Nat.le_refl _)

theorem moveTo {h : Host} {moment : Nat} (later : h.now ≤ moment) : R h { h with now := moment } :=
  frame.passes h moment h.patience h.appointments h.callFaults later

theorem takeFault (h : Host) (point : FaultPoint) : R h (h.takeFault point).2 := by
  rw [takeFault_frame]
  exact frame.passes h h.now h.patience h.appointments _ (Nat.le_refl _)

theorem keep (h : Host) (a : Appointment) : R h (h.keep a) := by
  have all : ∀ (actions : List PeerAction) (h : Host), R h (actions.foldl actRecorded h) := by
    intro actions
    induction actions with
    | nil => exact frame.refl
    | cons action rest ih => exact fun h => frame.trans (frame.act h action) (ih _)
  exact frame.trans (frame.moveTo (Nat.le_max_left _ _)) (all _ _)

/-- The first appointment is kept, and left out of what is ahead. -/
theorem keepNext (h : Host) (a : Appointment) (rest : List Appointment) :
    R h ({ h with appointments := rest }.keep a) :=
  frame.trans (frame.passes h h.now h.patience rest h.callFaults (Nat.le_refl _))
    (frame.keep _ a)

theorem await {watched : List Watched} {until? : Option Nat} (appointments : List Appointment)
    {h : Host} (early : ∀ moment ∈ until?, h.now ≤ moment) :
    R h (Host.await watched until? appointments h).2 := by
  induction appointments generalizing h with
  | nil =>
    unfold Host.await
    split
    · exact frame.refl h
    · split
      · exact frame.moveTo (early _ rfl)
      · exact frame.refl h
  | cons a rest ih =>
    have kept := frame.keepNext h a rest
    have time := now_keep { h with appointments := rest } a
    unfold Host.await
    split
    · exact frame.refl h
    · split
      · rename_i moment
        split
        · rename_i due
          refine frame.trans kept (ih fun m same => ?_)
          cases same
          rw [time]
          exact Nat.max_le.mpr ⟨early moment rfl, due⟩
        · exact frame.moveTo (early moment rfl)
      · exact frame.trans kept (ih nofun)

theorem waitOnce (h : Host) {watched : List Watched} {until? : Option Nat}
    (early : ∀ moment ∈ until?, h.now ≤ moment) : R h (h.waitOnce watched until?).2 := by
  obtain ⟨last, ends, waited⟩ := h.waitOnce_snd watched until?
  rw [waited]
  exact frame.await _ fun moment member =>
    (ends moment member).elim (early moment) Nat.le_of_lt

theorem poll (h : Host) {watched : List Watched} {millis : Option Nat}
    (admitted : ∀ result, admits (.poll watched millis result)) :
    R h (h.poll watched millis).2 := by
  have polled : R h (h.pollOnce watched millis).2 := by
    unfold pollOnce
    split
    · exact frame.refl h
    · rename_i patience _
      have less := frame.passes h h.now patience h.appointments h.callFaults (Nat.le_refl _)
      have taken := frame.trans less (frame.takeFault { h with patience } .poll)
      split
      · rename_i fault
        rw [fault] at taken
        exact taken
      · rename_i fault
        rw [fault] at taken
        refine frame.trans taken (frame.waitOnce _ fun moment ends => ?_)
        obtain ⟨millis, _, rfl⟩ := Option.map_eq_some_iff.mp ends
        exact Nat.le_add_right _ _
  exact frame.trans polled (frame.record _ _ (admitted _))

theorem waitReady (h : Host) {watched : List Watched} {timeout : Option Duration}
    (admitted : ∀ result, admits (.poll watched (timeout.map Duration.pollMillis) result)) :
    R h (h.waitReady watched timeout).2 := by
  fun_induction Host.waitReady h watched timeout with
  | case1 h h' answer ih =>
    have polled := frame.poll h admitted
    rw [answer] at polled
    exact frame.trans polled ih
  | case2 h result h' _ answer =>
    have polled := frame.poll h admitted
    rw [answer] at polled
    exact polled

theorem keepUntil (moment : Nat) (appointments : List Appointment) (h : Host) :
    R h (Host.keepUntil moment appointments h) := by
  induction appointments generalizing h with
  | nil => exact frame.refl h
  | cons a rest ih =>
    unfold Host.keepUntil
    split
    · exact frame.trans (frame.keepNext h a rest) (ih _)
    · exact frame.refl h

theorem sleep (h : Host) {d : Duration}
    (admitted : ∀ part ∈ d.sleepParts, admits (.sleep part.nanos)) : R h (h.sleep d) := by
  suffices ∀ (parts : List Duration), (∀ part ∈ parts, admits (.sleep part.nanos)) →
      ∀ h, R h (parts.foldl sleepOnce h) from this _ admitted h
  intro parts
  induction parts with
  | nil => exact fun _ => frame.refl
  | cons part rest ih =>
    intro admitted h
    have begins := frame.record h _ (admitted part List.mem_cons_self)
    have kept := frame.keepUntil (h.now + part.nanos) h.appointments (h.record (.sleep part.nanos))
    have within := now_keepUntil (h := h.record (.sleep part.nanos)) h.appointments
      (Nat.le_add_right h.now part.nanos)
    have slept := frame.trans (frame.trans begins kept) (frame.moveTo within)
    exact frame.trans slept (ih (fun part later => admitted part (List.mem_cons_of_mem _ later)) _)

theorem wait (h : Host) {w : WaitSet} {timeout : Option Duration}
    (polls : w.handles ≠ [] → ∀ result,
      admits (.poll (w.handles.map .handle) (timeout.map Duration.pollMillis) result))
    (sleeps : ∀ d, timeout = some d → ∀ part ∈ d.sleepParts, admits (.sleep part.nanos)) :
    R h (w.wait timeout h).2 := by
  unfold WaitSet.wait
  split
  · split
    · exact frame.sleep h (sleeps _ rfl)
    · exact frame.refl h
  · rename_i some_handles
    have waited := frame.waitReady h (polls (by simpa [WaitSet.isEmpty] using some_handles))
    split
    · rename_i answer
      rw [answer] at waited
      exact waited
    · rename_i answer
      rw [answer] at waited
      exact waited

end WaitFrame

end Host

end LocalPipe
