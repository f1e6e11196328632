import LocalPipe.Host.WaitSet
import LocalPipe.Proofs.OutsideActs

namespace LocalPipe

/-- Whether a call only lets time pass. -/
def Call.isWait : Call → Bool
  | .poll _ _ _ | .sleep _ => true
  | _ => false

namespace Host

/-- Time has passed, and nothing else has happened. Outcomes and appointments
may be used up. -/
structure Idles (h h' : Host) : Prop where
  links : h'.links = h.links
  descriptors : h'.descriptors = h.descriptors
  connectors : h'.connectors = h.connectors
  calls : ∃ later, h'.calls = later ++ h.calls ∧ ∀ call ∈ later, call.isWait = true
  appointments : h'.appointments ⊆ h.appointments

/-- What a wait comes to: others act as they have appointed, and time passes
between their actions. -/
inductive Waits (h : Host) : Host → Prop
  | start : Waits h h
  | idle {mid h' : Host} : Waits h mid → mid.Idles h' → Waits h h'
  | act {mid : Host} {a : Appointment} {action : PeerAction} : Waits h mid →
      a ∈ h.appointments → action ∈ a.actions → Waits h (mid.actRecorded action)

variable {h h' h'' : Host}

theorem Idles.of_frame (links : h'.links = h.links) (descriptors : h'.descriptors = h.descriptors)
    (connectors : h'.connectors = h.connectors) (calls : h'.calls = h.calls)
    (appointments : h'.appointments ⊆ h.appointments) : h.Idles h' :=
  ⟨links, descriptors, connectors, ⟨[], calls, by simp⟩, appointments⟩

theorem idles_takeFault (h : Host) (point : FaultPoint) : h.Idles (h.takeFault point).2 := by
  rw [takeFault_frame]
  exact .of_frame rfl rfl rfl rfl (List.Subset.refl _)

theorem idles_record (h : Host) {call : Call} (waits : call.isWait = true) :
    h.Idles (h.record call) :=
  ⟨rfl, rfl, rfl, ⟨[call], rfl, by simpa using waits⟩, List.Subset.refl _⟩

theorem Waits.appointments (waits : h.Waits h') : h'.appointments ⊆ h.appointments := by
  induction waits with
  | start => exact List.Subset.refl _
  | idle _ idles ih => exact List.Subset.trans idles.appointments ih
  | @act mid a action _ _ _ ih =>
    have acted : (mid.actRecorded action).appointments = mid.appointments :=
      mid.appointments_act action
    rw [acted]
    exact ih

theorem Waits.trans (first : h.Waits h') (second : h'.Waits h'') : h.Waits h'' := by
  induction second with
  | start => exact first
  | idle _ idles ih => exact .idle ih idles
  | act _ member acts ih => exact .act ih (first.appointments member) acts

theorem Waits.of_idles (idles : h.Idles h') : h.Waits h' :=
  .idle .start idles

/-- Keeping an appointment is to do all of it. -/
theorem Waits.keep {a : Appointment} (waits : h.Waits h') (member : a ∈ h.appointments) :
    h.Waits (h'.keep a) := by
  have all : ∀ (actions : List PeerAction) (mid : Host), h.Waits mid →
      (∀ action ∈ actions, action ∈ a.actions) → h.Waits (actions.foldl actRecorded mid) := by
    intro actions
    induction actions with
    | nil => exact fun mid before _ => before
    | cons action rest ih =>
      intro mid before within
      exact ih _ (.act before member (within action (by simp)))
        fun action' later => within action' (List.mem_cons_of_mem _ later)
  have started : h.Waits { h' with now := max h'.now a.due } :=
    .idle waits (.of_frame rfl rfl rfl rfl (List.Subset.refl _))
  exact all a.actions _ started fun _ acts => acts

theorem appointments_keep (h : Host) (a : Appointment) :
    (h.keep a).appointments = h.appointments := by
  suffices ∀ (actions : List PeerAction) (h : Host),
      (actions.foldl actRecorded h).appointments = h.appointments from this _ _
  intro actions
  induction actions with
  | nil => exact fun _ => rfl
  | cons action rest ih =>
    intro h
    have acted : (h.actRecorded action).appointments = h.appointments := h.appointments_act action
    rw [List.foldl_cons, ih, acted]

/-- Keeping the first appointment is part of a wait, and leaves the others. -/
theorem Waits.keep_first {a : Appointment} {rest : List Appointment} (waits : h.Waits h')
    (ahead : h'.appointments = a :: rest) :
    h.Waits ({ h' with appointments := rest }.keep a) ∧
      ({ h' with appointments := rest }.keep a).appointments = rest := by
  have fewer : h.Waits { h' with appointments := rest } := by
    refine .idle waits (.of_frame rfl rfl rfl rfl ?_)
    rw [ahead]
    exact List.subset_cons_self a rest
  have member : a ∈ h.appointments := waits.appointments (by rw [ahead]; exact List.mem_cons_self)
  exact ⟨fewer.keep member, appointments_keep _ _⟩

theorem waits_await (watched : List Watched) (until? : Option Nat)
    (appointments : List Appointment) {before h : Host} (started : before.Waits h)
    (ahead : h.appointments = appointments) :
    before.Waits (await watched until? appointments h).2 := by
  induction appointments generalizing h with
  | nil =>
    unfold await
    repeat' split
    all_goals first
      | exact started
      | exact .idle started (.of_frame rfl rfl rfl rfl (List.Subset.refl _))
  | cons a rest ih =>
    obtain ⟨kept, fewer⟩ := started.keep_first ahead
    unfold await
    repeat' split
    all_goals first
      | exact started
      | exact .idle started (.of_frame rfl rfl rfl rfl (List.Subset.refl _))
      | exact ih kept fewer

theorem waits_poll (h : Host) (watched : List Watched) (millis : Option Nat) :
    h.Waits (h.poll watched millis).2 := by
  have polled : h.Waits (h.pollOnce watched millis).2 := by
    unfold pollOnce
    split
    · exact .start
    · rename_i patience _
      have less : h.Waits { h with patience } :=
        .of_idles (.of_frame rfl rfl rfl rfl (List.Subset.refl _))
      have taken : h.Waits ({ h with patience }.takeFault .poll).2 :=
        .idle less (idles_takeFault ..)
      split
      · rename_i fault
        rw [fault] at taken
        exact taken
      · rename_i mid fault
        rw [fault] at taken
        obtain ⟨last, _, same⟩ := mid.waitOnce_snd watched (millis.map (mid.now + · * 1000000))
        rw [same]
        exact waits_await _ _ _ taken rfl
  exact .idle polled (idles_record _ rfl)

theorem waits_waitReady (h : Host) (watched : List Watched) (timeout : Option Duration) :
    h.Waits (h.waitReady watched timeout).2 := by
  fun_induction waitReady h watched timeout with
  | case1 h h' answer ih =>
    have polled := h.waits_poll watched (timeout.map Duration.pollMillis)
    rw [answer] at polled
    exact polled.trans ih
  | case2 h result h' _ answer =>
    have polled := h.waits_poll watched (timeout.map Duration.pollMillis)
    rw [answer] at polled
    exact polled

theorem waits_keepUntil (moment : Nat) (appointments : List Appointment) {before h : Host}
    (started : before.Waits h) (ahead : h.appointments = appointments) :
    before.Waits (keepUntil moment appointments h) := by
  induction appointments generalizing h with
  | nil => exact started
  | cons a rest ih =>
    obtain ⟨kept, fewer⟩ := started.keep_first ahead
    unfold keepUntil
    split
    · exact ih kept fewer
    · exact started

theorem waits_sleep (h : Host) (d : Duration) : h.Waits (h.sleep d) := by
  suffices ∀ (parts : List Duration) (mid : Host), h.Waits mid →
      h.Waits (parts.foldl sleepOnce mid) from this _ _ .start
  intro parts
  induction parts with
  | nil => exact fun mid before => before
  | cons part rest ih =>
    intro mid before
    have recorded : h.Waits (mid.record (.sleep part.nanos)) := .idle before (idles_record _ rfl)
    have kept := waits_keepUntil (mid.now + part.nanos) _ recorded rfl
    exact ih _ (.idle kept (.of_frame rfl rfl rfl rfl (List.Subset.refl _)))

theorem waits_wait (h : Host) (w : WaitSet) (timeout : Option Duration) :
    h.Waits (w.wait timeout h).2 := by
  have waited := h.waits_waitReady (w.handles.map .handle) timeout
  unfold WaitSet.wait
  split
  · split
    · exact h.waits_sleep _
    · exact .start
  · split
    · rename_i answer
      rw [answer] at waited
      exact waited
    · rename_i answer
      rw [answer] at waited
      exact waited

/-- Waiting reads nothing and writes nothing. -/
theorem Waits.quiet (waits : h.Waits h') : h.Quiet h' := by
  induction waits with
  | start => exact .refl h
  | idle _ idles ih =>
    obtain ⟨later, calls, wait⟩ := idles.calls
    refine ih.trans ⟨later, calls, fun call member => ?_⟩
    have := wait call member
    cases call <;> simp_all [Call.isWait, Call.isTransfer]
  | @act mid a action _ _ _ ih =>
    refine ih.trans (Quiet.trans (mid.letsGo_act action).quiet (.of_record (.outside action _) rfl rfl))

end Host

end LocalPipe
