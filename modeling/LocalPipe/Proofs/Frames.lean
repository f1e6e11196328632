import LocalPipe.Proofs.Actions
import LocalPipe.Proofs.Releases

namespace LocalPipe

/-- A relation between a host before and after some calls that composes, and to
which all calls keep but reads, closes, and those that have to do with names. -/
structure Host.CallFrame (R : Host → Host → Prop) : Prop where
  refl (h : Host) : R h h
  trans {h h' h'' : Host} : R h h' → R h' h'' → R h h''
  events (h : Host) (events : List LogEvent) : R h { h with events }
  write (h : Host) (d : Descriptor) (data : Bytes) : R h (h.write d data).2
  waitReady (h : Host) (watched : List Watched) (timeout : Option Duration) :
    R h (h.waitReady watched timeout).2
  connect (h : Host) (path : Bytes) : R h (h.connect path).2
  accept (h : Host) (listener : Nat) : R h (h.accept listener).2
  setListenerMode (h : Host) : R h h.setListenerMode.2
  getMode (h : Host) (d : Descriptor) : R h (h.getMode d).2
  setMode (h : Host) (d : Descriptor) (nonblocking : Bool) : R h (h.setMode d nonblocking).2

/-- Closes keep to the relation, too. -/
structure Host.Frame (R : Host → Host → Prop) : Prop extends Host.CallFrame R where
  close (h : Host) (d : Descriptor) : R h (h.close d)

/-- A computation keeps to a relation, also where it is cut short. -/
def Action.Within {α : Type} (R : Host → Host → Prop) (x : Action α) : Prop :=
  ∀ h, R h (left (x h))

theorem Action.Within.of_ok {α : Type} {R : Host → Host → Prop} {x : Action α} {a : α}
    {h h' : Host} (within : x.Within R) (run : x h = .ok a h') : R h h' := by
  have kept := within h
  rw [run] at kept
  exact kept

namespace Host.CallFrame

variable {α β : Type} {R : Host → Host → Prop} (frame : CallFrame R)

include frame

theorem log (h : Host) (event : LogEvent) : R h (h.log event) :=
  frame.events h (event :: h.events)

theorem logAll (event : IoError → LogEvent) (errors : List IoError) (h : Host) :
    R h (errors.foldl (fun h e => h.log (event e)) h) := by
  obtain ⟨events, logged⟩ := Host.logAll_eq errors event h
  rw [logged]
  exact frame.events h events

section Actions

theorem pure (a : α) : Action.Within R (Pure.pure a) :=
  frame.refl

theorem bind {x : Action α} {f : α → Action β} (first : x.Within R)
    (second : ∀ a, (f a).Within R) : (x >>= f).Within R := by
  intro h
  have before := first h
  simp only [Bind.bind, EStateM.bind]
  cases run : x h with
  | ok a mid =>
    rw [run] at before
    exact frame.trans before (second a mid)
  | error condition mid =>
    rw [run] at before
    exact before

omit frame in
theorem call {f : Host → α × Host} (kept : ∀ h, R h (f h).2) : (Action.call f).Within R :=
  kept

theorem logged (event : LogEvent) : (Action.log event).Within R :=
  fun h => frame.log h event

theorem fatal (condition : Fatal) : (Action.fatal condition : Action α).Within R := by
  intro h
  unfold Action.fatal
  dsimp only [Action.left]
  split
  · exact frame.log h _
  · exact frame.refl h

theorem deadline (timeout : Duration) : (Action.deadline timeout).Within R := by
  intro h
  unfold Action.deadline
  split
  · exact frame.refl h
  · exact frame.fatal .deadlineOverflow h

end Actions

theorem transmitUntil (d : Descriptor) (moment : Nat) (data : Bytes) (h : Host) :
    R h (Transport.transmitUntil d moment data h).2 := by
  have writes {data : Bytes} {h h' : Host} {result : Except Errno Nat}
      (answer : h.write d data = (result, h')) : R h h' := by
    have kept := frame.write h d data
    rwa [answer] at kept
  have waits {h h' : Host} {timeout : Option Duration} {result : Except Errno Nat}
      (answer : h.waitReady [.handle ⟨d, .writable⟩] timeout = (result, h')) : R h h' := by
    have kept := frame.waitReady h [.handle ⟨d, .writable⟩] timeout
    rwa [answer] at kept
  fun_induction Transport.transmitUntil d moment data h with
  | case1 h => exact frame.refl h
  | case2 data h _ h' answer => exact writes answer
  | case3 data h _ n h' answer ih => exact frame.trans (writes answer) ih
  | case4 data h _ h' answer late => exact writes answer
  | case5 data h _ h' answer early h'' wait => exact frame.trans (writes answer) (waits wait)
  | case6 data h _ h' answer early n h'' wait ih =>
    exact frame.trans (writes answer) (frame.trans (waits wait) ih)
  | case7 data h _ h' answer early e h'' wait => exact frame.trans (writes answer) (waits wait)
  | case8 data h _ h' answer ih => exact frame.trans (writes answer) ih
  | case9 data h _ e h' _ _ answer => exact writes answer

theorem acceptUntil (listener moment : Nat) (h : Host) :
    R h (LocalPipe.acceptUntil listener moment h).2 := by
  have accepts {h h' : Host} {result : Except Errno Descriptor}
      (answer : h.accept listener = (result, h')) : R h h' := by
    have kept := frame.accept h listener
    rwa [answer] at kept
  have waits {h h' : Host} {timeout : Option Duration} {result : Except Errno Nat}
      (answer : h.waitReady [.listener listener] timeout = (result, h')) : R h h' := by
    have kept := frame.waitReady h [.listener listener] timeout
    rwa [answer] at kept
  fun_induction LocalPipe.acceptUntil listener moment h with
  | case1 h d h' answer => exact accepts answer
  | case2 h h' answer late => exact accepts answer
  | case3 h h' answer early h'' wait => exact frame.trans (accepts answer) (waits wait)
  | case4 h h' answer early n h'' wait ih =>
    exact frame.trans (accepts answer) (frame.trans (waits wait) ih)
  | case5 h h' answer early e h'' wait => exact frame.trans (accepts answer) (waits wait)
  | case6 h h' answer ih => exact frame.trans (accepts answer) ih
  | case7 h e h' _ _ answer => exact accepts answer

theorem acceptWithin (listener : Nat) (timeout : Duration) :
    (LocalPipe.acceptWithin listener timeout).Within R := by
  refine frame.bind (call frame.setListenerMode) fun answer => ?_
  cases answer with
  | error e => exact frame.pure _
  | ok =>
    exact frame.bind (frame.deadline timeout) fun moment => call (frame.acceptUntil listener moment)

section Endpoints

variable (ep : Endpoint)

theorem requireDisconnected (call : SetupCall) : (ep.requireDisconnected call).Within R := by
  unfold Endpoint.requireDisconnected
  split
  · exact frame.fatal _
  · exact frame.pure ()

theorem writeImmediately (data : Bytes) : (ep.writeImmediately data).Within R := by
  unfold Endpoint.writeImmediately
  split
  · exact frame.fatal _
  · split
    · exact frame.fatal _
    · split
      · exact frame.fatal _
      · refine frame.bind ?_ fun answer => ?_
        · exact frame.bind (frame.deadline _) fun moment =>
            frame.bind (call (frame.transmitUntil _ moment data)) fun _ => frame.pure _
        · cases answer with
          | error e => exact frame.fatal _
          | ok n =>
            dsimp only
            split
            · exact frame.fatal _
            · exact frame.pure ()

end Endpoints

end Host.CallFrame

namespace Host.Frame

variable {R : Host → Host → Prop} (frame : Frame R)

include frame

theorem transport_adopt (d : Descriptor) (h : Host) : R h (Transport.adopt d h).2 := by
  have asked := frame.getMode h d
  unfold Transport.adopt
  split
  · rename_i e h₁ answer
    rw [answer] at asked
    exact frame.trans asked (frame.close h₁ d)
  · rename_i h₁ answer
    rw [answer] at asked
    exact asked
  · rename_i h₁ answer
    rw [answer] at asked
    have changed := frame.setMode h₁ d true
    split
    · rename_i e h₂ answer'
      rw [answer'] at changed
      exact frame.trans asked (frame.trans changed (frame.close h₂ d))
    · rename_i h₂ answer'
      rw [answer'] at changed
      exact frame.trans asked changed

theorem transport_close (t : Transport) (h : Host) : R h (t.close h) := by
  have changed := frame.setMode h t.descriptor false
  unfold Transport.close
  split
  · split
    · rename_i e h₁ answer
      rw [answer] at changed
      exact frame.trans changed (frame.trans (frame.log h₁ _) (frame.close _ _))
    · rename_i h₁ answer
      rw [answer] at changed
      exact frame.trans changed (frame.close h₁ _)
  · exact frame.close h _

theorem shutdown (c : Connection) (h : Host) : R h (c.shutdown h) := by
  obtain ⟨events, shut⟩ := c.shutdown_eq h
  rw [shut]
  exact frame.trans (frame.events h events) (frame.transport_close _ _)

section Endpoints

variable (ep : Endpoint)

theorem attach (d : Descriptor) (reads writes : Bool) (h : Host) :
    R h (ep.attach d reads writes h).2.2 := by
  have adopted := frame.transport_adopt d h
  unfold Endpoint.attach
  split
  · rename_i e h₁ answer
    rw [answer] at adopted
    exact adopted
  · rename_i t h₁ answer
    rw [answer] at adopted
    exact adopted

/-- Taking over a descriptor, as it is done within a computation. -/
theorem attached (d : Descriptor) (reads writes : Bool) :
    (Action.call fun h =>
      (((ep.attach d reads writes h).1, (ep.attach d reads writes h).2.1),
        (ep.attach d reads writes h).2.2)).Within R :=
  CallFrame.call (frame.attach ep d reads writes)

theorem endpoint_connect (path : Bytes) : (ep.connect path).Within R := by
  refine frame.bind (frame.requireDisconnected ep _) fun _ =>
    frame.bind (CallFrame.call fun h => frame.connect h path) fun answer => ?_
  cases answer with
  | error e => exact frame.pure _
  | ok d =>
    exact frame.bind (frame.logged _) fun _ =>
      frame.bind (frame.attached _ d true true) fun _ => frame.pure _

theorem endpoint_adopt (d : Descriptor) (direction : Direction) (name : String) :
    (ep.adopt d direction name).Within R :=
  frame.bind (frame.requireDisconnected ep _) fun _ =>
    frame.bind (frame.logged _) fun _ => frame.bind (frame.attached _ d _ _) fun _ => frame.pure _

variable (unbinds : ∀ (ep : Endpoint) (h : Host), R h (ep.unbind h).2)

include unbinds

theorem endpoint_close (h : Host) : R h (ep.close h).2 := by
  have unbound := unbinds ep h
  unfold Endpoint.close
  generalize ep.unbind h = step at *
  obtain ⟨ep', h'⟩ := step
  dsimp only at unbound ⊢
  split
  · exact unbound
  · exact frame.trans unbound (frame.trans (frame.shutdown _ _) (frame.log _ _))

theorem endpoint_accept : ep.accept.Within R := by
  refine frame.bind (frame.requireDisconnected ep _) fun _ => ?_
  split
  · exact frame.fatal _
  · refine frame.bind (frame.acceptWithin _ _) fun answer => ?_
    cases answer with
    | error e => exact frame.fatal _
    | ok d =>
      refine frame.bind (CallFrame.call (unbinds ep)) fun ep => frame.bind (frame.logged _) fun _ =>
        frame.bind (frame.attached ep d true true) fun answer => ?_
      obtain ⟨result, ep⟩ := answer
      cases result with
      | error e => exact frame.fatal _
      | ok => exact frame.pure ep

end Endpoints

end Host.Frame

end LocalPipe
