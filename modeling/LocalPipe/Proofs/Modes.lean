import LocalPipe.Proofs.Serving
import LocalPipe.Proofs.Setups

namespace LocalPipe

namespace Host

variable {h h' : Host} {d : Descriptor}

/-- No call that asks for a mode or changes one is set to fail. -/
def ModesFree (h : Host) : Prop :=
  ∀ point, point = .getFlags ∨ point = .setFlags →
    ∀ outcome ∈ h.outcomesAhead point, outcome = none

theorem ModesFree.of_suffix (free : h.ModesFree)
    (outcomes : ∀ point, h'.outcomesAhead point <:+ h.outcomesAhead point) : h'.ModesFree :=
  fun point mode outcome member => free point mode outcome ((outcomes point).mem member)

theorem ModesFree.congr (free : h.ModesFree)
    (same : ∀ point, h'.outcomesAhead point = h.outcomesAhead point) : h'.ModesFree := by
  intro point mode outcome member
  rw [same] at member
  exact free point mode outcome member

theorem takeFault_of_free {point : FaultPoint}
    (free : ∀ outcome ∈ h.outcomesAhead point, outcome = none) : (h.takeFault point).1 = none := by
  unfold takeFault
  split
  · rename_i outcome rest ahead
    exact free outcome (by simp [outcomesAhead, ahead])
  · rfl

theorem setMode_ok (free : h.ModesFree) (d : Descriptor) (nonblocking : Bool) :
    (h.setMode d nonblocking).1 = .ok () := by
  have taken := takeFault_of_free (free .setFlags (Or.inr rfl))
  unfold setMode
  split
  · rename_i e h' fault
    rw [fault] at taken
    cases taken
  · rfl

theorem getMode_ok (free : h.ModesFree) (d : Descriptor) :
    (h.getMode d).1 = .ok (h.isNonblocking d.endId) := by
  have taken := takeFault_of_free (free .getFlags (Or.inl rfl))
  have same := h.linkEnd?_takeFault .getFlags d.endId
  unfold getMode
  split
  · rename_i e h' fault
    rw [fault] at taken
    cases taken
  · rename_i h' fault
    rw [fault] at same
    rw [isNonblocking_congr same]

theorem isNonblocking_setMode (free : h.ModesFree) (d : Descriptor) (nonblocking : Bool)
    (p : EndId) : (h.setMode d nonblocking).2.isNonblocking p =
      if p = d.endId ∧ (h.linkEnd? p).isSome then nonblocking else h.isNonblocking p := by
  have changed := h.linkEnd?_setMode d nonblocking p
  rw [setMode_ok free] at changed
  by_cases same : p = d.endId
  · rw [if_pos ⟨same, rfl⟩] at changed
    rw [isNonblocking, changed]
    cases present : h.linkEnd? p with
    | none => simp [isNonblocking, present]
    | some linkEnd => simp [same]
  · rw [if_neg (fun both => same both.1)] at changed
    rw [if_neg (fun both => same both.1), isNonblocking_congr changed]

theorem isNonblocking_dropListener (h : Host) (listener : Nat) (p : EndId) :
    (h.dropListener listener).isNonblocking p = h.isNonblocking p := by
  suffices ∀ (names : List String) (h' : Host),
      (names.foldl (fun h name => h.closeEnd ⟨name, .b⟩) h').isNonblocking p =
        h'.isNonblocking p from this _ _
  intro names
  induction names with
  | nil => exact fun _ => rfl
  | cons name rest ih =>
    intro h'
    rw [List.foldl_cons, ih, isNonblocking_closeEnd]

/-- Reads leave every mode as it is. -/
theorem Reads.isNonblocking_eq (reads : h.Reads d h') (p : EndId) :
    h'.isNonblocking p = h.isNonblocking p := by
  by_cases near : p.link = d.endId.link
  · cases present : h.links.get? d.endId.link with
    | some l =>
      obtain ⟨l', data, present', took, _⟩ := reads.took present
      rw [← near] at present present'
      rw [isNonblocking_of_link present, isNonblocking_of_link present']
      exact took.modes p.side
    | none =>
      obtain ⟨missing, _⟩ := reads.of_none present
      exact isNonblocking_congr (linkEnd?_congr (by rw [near, missing, present]))
  · exact isNonblocking_congr (linkEnd?_congr (reads.link_of_ne (Ne.symm near)))

theorem Writes.isNonblocking_eq (writes : h.Writes d h') (p : EndId) :
    h'.isNonblocking p = h.isNonblocking p := by
  by_cases near : p.link = d.endId.link
  · cases present : h.links.get? d.endId.link with
    | some l =>
      obtain ⟨l', data, present', placed, _⟩ := writes.placed present
      rw [← near] at present present'
      rw [isNonblocking_of_link present, isNonblocking_of_link present']
      exact placed.modes p.side
    | none =>
      obtain ⟨missing, _⟩ := writes.of_none present
      exact isNonblocking_congr (linkEnd?_congr (by rw [near, missing, present]))
  · exact isNonblocking_congr (linkEnd?_congr (writes.link_of_ne (Ne.symm near)))

/-- Reads and writes on one descriptor, each of them while its end is in a given
mode. -/
inductive TransfersIn (d : Descriptor) (mode : Bool) (h : Host) : Host → Prop
  | start : TransfersIn d mode h h
  | read {mid : Host} (n : Nat) : mid.isNonblocking d.endId = mode → TransfersIn d mode h mid →
      TransfersIn d mode h (mid.read d n).2
  | write {mid : Host} (data : Bytes) : mid.isNonblocking d.endId = mode →
      TransfersIn d mode h mid → TransfersIn d mode h (mid.write d data).2
  | log {mid : Host} (event : LogEvent) : TransfersIn d mode h mid →
      TransfersIn d mode h (mid.log event)

theorem TransfersIn.reads {before : Host} {mode : Bool} (transfers : before.TransfersIn d mode h)
    (start : h.isNonblocking d.endId = mode) (reads : h.Reads d h') :
    before.TransfersIn d mode h' := by
  induction reads with
  | start => exact transfers
  | read n first ih => exact .read n ((first.isNonblocking_eq _).trans start) ih
  | log event _ ih => exact .log event ih

theorem TransfersIn.writes {before : Host} {mode : Bool} (transfers : before.TransfersIn d mode h)
    (start : h.isNonblocking d.endId = mode) (writes : h.Writes d h') :
    before.TransfersIn d mode h' := by
  induction writes with
  | start => exact transfers
  | write data first ih => exact .write data ((first.isNonblocking_eq _).trans start) ih
  | log event _ ih => exact .log event ih

end Host

open Host

variable {h h' : Host}

/-- A tick changes no mode, and makes all its calls in the mode that it finds. -/
theorem Connection.Ticked.transfersIn {c : Connection} {q : Queues} {t : Connection.Tick}
    (ticked : c.Ticked q h t) :
    h.TransfersIn c.transport.descriptor (h.isNonblocking c.transport.descriptor.endId) t.host ∧
      (∀ p, t.host.isNonblocking p = h.isNonblocking p) ∧
      ∀ point, t.host.outcomesAhead point = h.outcomesAhead point := by
  obtain ⟨mid, received, sent⟩ := ticked.halves
  have first : h.TransfersIn c.transport.descriptor
      (h.isNonblocking c.transport.descriptor.endId) mid := .reads .start rfl received.reads
  refine ⟨first.writes (received.reads.isNonblocking_eq _) sent.writes, fun p => ?_, fun point => ?_⟩
  · rw [sent.writes.isNonblocking_eq, received.reads.isNonblocking_eq]
  · rw [sent.writes.rest, received.reads.rest]
    rfl

/-- Whether an endpoint has changed the mode of an end, and is to change it
back when it closes. -/
def Endpoint.restores (ep : Endpoint) (p : EndId) : Bool :=
  match ep.connection with
  | some c => c.transport.restores && decide (c.transport.descriptor.endId = p)
  | none => false

/-- Closing a transport clears the mode that it has set. -/
theorem Transport.isNonblocking_close (t : Transport) (free : h.ModesFree) (p : EndId) :
    (t.close h).isNonblocking p =
      (h.isNonblocking p && !(t.restores && decide (t.descriptor.endId = p))) := by
  unfold Transport.close
  split
  · rename_i restores
    have ok := setMode_ok free t.descriptor false
    have changed := isNonblocking_setMode free t.descriptor false p
    split
    · rename_i e h' answer
      rw [answer] at ok
      cases ok
    · rename_i h' answer
      rw [answer] at changed
      rw [Host.isNonblocking_close, changed, restores]
      by_cases same : p = t.descriptor.endId
      · subst same
        cases present : h.linkEnd? t.descriptor.endId <;> simp [isNonblocking, present]
      · simp [same, Ne.symm same]
  · rename_i kept
    rw [Host.isNonblocking_close]
    simp [kept]

namespace Endpoint

theorem isNonblocking_unbind (ep : Endpoint) (h : Host) (p : EndId) :
    (ep.unbind h).2.isNonblocking p = h.isNonblocking p := by
  unfold unbind
  split
  · rfl
  · rename_i bound _
    have dropped := h.isNonblocking_dropListener bound.listener p
    have unlinked : ((h.closeListener bound.listener).unlink bound.path).2.isNonblocking p =
        (h.closeListener bound.listener).isNonblocking p := by
      rw [unlink_frame]
      rfl
    dsimp only
    split
    · rename_i answer
      rw [answer] at unlinked
      exact unlinked.trans dropped
    · rename_i answer
      rw [answer] at unlinked
      exact unlinked.trans dropped

/-- Closing an endpoint clears the mode that it has set, and no other. -/
theorem isNonblocking_close (ep : Endpoint) (free : h.ModesFree) (p : EndId) :
    (ep.close h).2.isNonblocking p = (h.isNonblocking p && !ep.restores p) := by
  have unbound := ep.unbind_fst h
  have free' := free.of_suffix (ep.releases_unbind h).outcomes
  have same := ep.isNonblocking_unbind h p
  unfold close
  generalize ep.unbind h = step at *
  obtain ⟨ep', h'⟩ := step
  subst unbound
  dsimp only at free' same ⊢
  split
  · rename_i missing
    simp [restores, missing, same]
  · rename_i c connected
    obtain ⟨events, shut⟩ := c.shutdown_eq h'
    have closed := c.transport.isNonblocking_close (h := { h' with events }) free' p
    rw [← shut] at closed
    refine Eq.trans closed ?_
    simp only [restores, connected, ← same]
    rfl

theorem isNonblocking_giveUp (ep : Endpoint) (errors : List IoError) (free : h.ModesFree)
    (p : EndId) : (ep.giveUp errors h).2.isNonblocking p = (h.isNonblocking p && !ep.restores p) := by
  have logged := releases_logAll errors (.transferFailed ep.name) (fun _ => False) h
  rw [giveUp, isNonblocking_close ep (free.of_suffix logged.outcomes),
    isNonblocking_congr (logged.ends p id)]

end Endpoint

/-- Taking over a descriptor sets the mode of its end. It is set back at the end
exactly if it was not set before. -/
theorem Transport.adopt_modes (free : h.ModesFree) (d : Descriptor)
    (present : (h.linkEnd? d.endId).isSome) :
    ∃ h', Transport.adopt d h =
        (.ok { descriptor := d, restores := !h.isNonblocking d.endId }, h') ∧
      ∀ p, h'.isNonblocking p = (h.isNonblocking p || decide (d.endId = p)) := by
  have asked := h.releases_getMode d fun _ => False
  have answer := getMode_ok free d
  unfold Transport.adopt
  split
  · rename_i e h₁ failed
    rw [failed] at answer
    cases answer
  · rename_i h₁ set
    rw [set] at asked answer
    have already : h.isNonblocking d.endId = true := by
      simpa using answer.symm
    refine ⟨h₁, by rw [already]; rfl, fun p => ?_⟩
    rw [isNonblocking_congr (asked.ends p id)]
    by_cases same : d.endId = p
    · subst same
      simp [already]
    · simp [same]
  · rename_i h₁ unset
    rw [unset] at asked answer
    have blocking : h.isNonblocking d.endId = false := by
      simpa using answer.symm
    have free' := free.of_suffix asked.outcomes
    have ok := setMode_ok free' d true
    have changed := isNonblocking_setMode free' d true
    split
    · rename_i e h₂ failed
      rw [failed] at ok
      cases ok
    · rename_i h₂ set
      rw [set] at changed
      refine ⟨h₂, by rw [blocking]; rfl, fun p => ?_⟩
      rw [changed p, asked.ends p id, isNonblocking_congr (asked.ends p id)]
      by_cases same : d.endId = p
      · subst same
        simp [present]
      · simp [same, Ne.symm same]

end LocalPipe
