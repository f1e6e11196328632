import LocalPipe.Proofs.ModeAccounts

namespace LocalPipe

open Host

namespace Host

/-- Two hosts are the same but for what they have recorded. -/
def Matches (h h' : Host) : Prop :=
  ∃ calls events, h' = { h with calls, events }

variable {h h' : Host}

namespace Matches

theorem links (same : h.Matches h') : h'.links = h.links := by
  obtain ⟨_, _, rfl⟩ := same
  rfl

theorem withLinks (same : h.Matches h') (links : Table String Link) :
    Host.Matches { h with links } { h' with links } := by
  obtain ⟨calls, events, rfl⟩ := same
  exact ⟨calls, events, rfl⟩

theorem record (same : h.Matches h') (call call' : Call) :
    (h.record call).Matches (h'.record call') := by
  obtain ⟨calls, events, rfl⟩ := same
  exact ⟨call' :: calls, events, rfl⟩

theorem log (same : h.Matches h') (event event' : LogEvent) :
    (h.log event).Matches (h'.log event') := by
  obtain ⟨calls, events, rfl⟩ := same
  exact ⟨calls, event' :: events, rfl⟩

theorem setEnd (same : h.Matches h') (p : EndId) (linkEnd : LinkEnd) :
    (h.setEnd p linkEnd).Matches (h'.setEnd p linkEnd) := by
  obtain ⟨calls, events, rfl⟩ := same
  refine ⟨calls, events, ?_⟩
  unfold Host.setEnd
  dsimp only
  split <;> rfl

theorem closeEnd (same : h.Matches h') (p : EndId) : (h.closeEnd p).Matches (h'.closeEnd p) := by
  have ends : h'.linkEnd? p = h.linkEnd? p := linkEnd?_congr (by rw [same.links])
  unfold Host.closeEnd
  rw [ends]
  split
  · exact same.setEnd p _
  · exact same

theorem close (same : h.Matches h') (d : Descriptor) : (h.close d).Matches (h'.close d) := by
  obtain ⟨calls, events, rfl⟩ := same
  have erased : Host.Matches { h.record (.close d) with descriptors := h.descriptors.erase d }
      { h with
        calls := .close d :: calls
        events
        descriptors := h.descriptors.erase d } := ⟨_, _, rfl⟩
  unfold Host.close
  dsimp only [Host.record]
  split
  · exact erased
  · exact erased.closeEnd d.endId

theorem takeFault (same : h.Matches h') (point : FaultPoint) :
    (h'.takeFault point).1 = (h.takeFault point).1 ∧
      (h.takeFault point).2.Matches (h'.takeFault point).2 := by
  obtain ⟨calls, events, rfl⟩ := same
  unfold Host.takeFault
  dsimp only
  split
  · exact ⟨rfl, calls, events, rfl⟩
  · exact ⟨rfl, calls, events, rfl⟩

theorem withMode (same : h.Matches h') (p : EndId) (nonblocking : Bool) :
    (h.withMode p nonblocking).Matches (h'.withMode p nonblocking) := by
  have ends : h'.linkEnd? p = h.linkEnd? p := linkEnd?_congr (by rw [same.links])
  unfold Host.withMode
  rw [ends]
  split
  · exact same.setEnd p _
  · exact same

theorem setMode (same : h.Matches h') (d : Descriptor) (nonblocking : Bool) :
    (h'.setMode d nonblocking).1 = (h.setMode d nonblocking).1 ∧
      (h.setMode d nonblocking).2.Matches (h'.setMode d nonblocking).2 := by
  obtain ⟨outcome, taken⟩ := same.takeFault .setFlags
  rw [setMode_eq, setMode_eq]
  generalize h.takeFault .setFlags = fault at *
  generalize h'.takeFault .setFlags = fault' at *
  obtain ⟨_ | e, mid⟩ := fault
  · obtain ⟨_, mid'⟩ := fault'
    cases outcome
    exact ⟨rfl, (taken.withMode d.endId nonblocking).record _ _⟩
  · obtain ⟨_, mid'⟩ := fault'
    cases outcome
    exact ⟨rfl, taken.record _ _⟩

theorem closeListener (same : h.Matches h') (listener : Nat) :
    (h.closeListener listener).Matches (h'.closeListener listener) := by
  have closes (names : List String) {h h' : Host} (same : h.Matches h') :
      (names.foldl (fun h name => h.closeEnd ⟨name, .b⟩) h).Matches
        (names.foldl (fun h name => h.closeEnd ⟨name, .b⟩) h') := by
    induction names generalizing h h' with
    | nil => exact same
    | cons name rest ih => exact ih (same.closeEnd ⟨name, .b⟩)
  refine record ?_ _ _
  obtain ⟨calls, events, rfl⟩ := same
  exact closes _ ⟨calls, events, rfl⟩

theorem unlink (same : h.Matches h') (path : Bytes) :
    (h'.unlink path).1 = (h.unlink path).1 ∧ (h.unlink path).2.Matches (h'.unlink path).2 := by
  obtain ⟨outcome, taken⟩ := same.takeFault .unlink
  unfold Host.unlink
  generalize h.takeFault .unlink = fault at *
  generalize h'.takeFault .unlink = fault' at *
  obtain ⟨_ | e, mid⟩ := fault
  · obtain ⟨_, mid'⟩ := fault'
    cases outcome
    obtain ⟨calls, events, rfl⟩ := taken
    dsimp only
    split
    · exact ⟨rfl, calls, events, rfl⟩
    · exact ⟨rfl, calls, events, rfl⟩
  · obtain ⟨_, mid'⟩ := fault'
    cases outcome
    exact ⟨rfl, taken⟩

end Matches

end Host

variable {h h' : Host}

/-- Closing a transport depends on its descriptor, on the mode to give back, and on
nothing that is recorded. -/
theorem Transport.close_matches {t t' : Transport} (descriptor : t'.descriptor = t.descriptor)
    (restores : t'.restores = t.restores) (same : h.Matches h') :
    (t.close h).Matches (t'.close h') := by
  rw [t.close_congr descriptor restores]
  obtain ⟨outcome, changed⟩ := same.setMode t.descriptor false
  unfold Transport.close
  split
  · generalize h.setMode t.descriptor false = answer at *
    generalize h'.setMode t.descriptor false = answer' at *
    obtain ⟨_ | _, mid⟩ := answer
    · obtain ⟨_, mid'⟩ := answer'
      cases outcome
      exact (changed.log _ _).close t.descriptor
    · obtain ⟨_, mid'⟩ := answer'
      cases outcome
      exact changed.close t.descriptor
  · exact same.close t.descriptor

namespace Endpoint

variable {ep ep' : Endpoint} {c c' : Connection}

theorem unbind_matches (listener : ep'.listener = ep.listener) (same : h.Matches h') :
    (ep.unbind h).2.Matches (ep'.unbind h').2 := by
  unfold unbind
  rw [listener]
  split
  · exact same
  · rename_i bound _
    obtain ⟨outcome, removed⟩ := (same.closeListener bound.listener).unlink bound.path
    generalize (h.closeListener bound.listener).unlink bound.path = answer at *
    generalize (h'.closeListener bound.listener).unlink bound.path = answer' at *
    obtain ⟨_ | _, mid⟩ := answer
    · obtain ⟨_, mid'⟩ := answer'
      cases outcome
      exact removed.log _ _
    · obtain ⟨_, mid'⟩ := answer'
      cases outcome
      exact removed

/-- What closing an endpoint does to the host depends on what it listens to, on its
descriptor and on the mode to give back, and on nothing else of its history. -/
theorem close_matches (connected : ep.connection = some c) (connected' : ep'.connection = some c')
    (listener : ep'.listener = ep.listener)
    (descriptor : c'.transport.descriptor = c.transport.descriptor)
    (restores : c'.transport.restores = c.transport.restores) (same : h.Matches h') :
    (ep.close h).2.Matches (ep'.close h').2 := by
  obtain ⟨events, shut⟩ := close_connected connected h
  obtain ⟨events', shut'⟩ := close_connected connected' h'
  have unbound := unbind_matches listener same
  have logged : Host.Matches { (ep.unbind h).2 with events } { (ep'.unbind h').2 with
      events := events' } := by
    obtain ⟨calls, _, unbound⟩ := unbound
    rw [unbound]
    exact ⟨calls, events', rfl⟩
  rw [shut, shut']
  exact (Transport.close_matches descriptor restores logged).log _ _

end Endpoint

end LocalPipe
