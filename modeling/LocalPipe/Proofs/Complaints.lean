import LocalPipe.Proofs.Releases

namespace LocalPipe

open Host

/-- The failures of transfers that were logged, with the names they were logged for, the
earliest first. -/
def complaints (events : List LogEvent) : List (String × IoError) :=
  events.reverse.filterMap fun
    | .transferFailed name e => some (name, e)
    | _ => none

theorem complaints_cons (event : LogEvent) (events : List LogEvent) :
    complaints (event :: events) = complaints events ++ complaints [event] := by
  simp [complaints]

theorem complaints_log {h : Host} {event : LogEvent} (other : complaints [event] = []) :
    complaints (h.log event).events = complaints h.events := by
  rw [Host.log, complaints_cons, other, List.append_nil]

/-- Closing a transport is no failure of a transfer. -/
theorem Transport.complaints_close (t : Transport) (h : Host) :
    complaints (t.close h).events = complaints h.events := by
  have mode := h.events_setMode t.descriptor false
  unfold Transport.close
  split
  · split
    · rename_i answer
      rw [answer] at mode
      rw [events_close, complaints_log rfl, mode]
    · rename_i answer
      rw [answer] at mode
      rw [events_close, mode]
  · rw [events_close]

theorem Worker.complaints_drain (w : Worker) (direction : Direction) (t : Transport) (h : Host) :
    complaints (w.drain direction t h).2.2.events = complaints h.events := by
  unfold Worker.drain
  split
  · dsimp only [Transport.drain]
    split
    · rfl
    · exact complaints_log rfl
  · rfl

theorem Connection.complaints_shutdown (c : Connection) (h : Host) :
    complaints (c.shutdown h).events = complaints h.events := by
  obtain ⟨t, reader, writer⟩ := c
  cases reader <;> cases writer <;>
    simp only [shutdown, Transport.complaints_close, Worker.complaints_drain]

namespace Endpoint

theorem complaints_unbind (ep : Endpoint) (h : Host) :
    complaints (ep.unbind h).2.events = complaints h.events := by
  unfold unbind
  split
  · rfl
  · rename_i bound _
    have unlinked := (h.closeListener bound.listener).events_unlink bound.path
    split
    · rename_i answer
      rw [answer] at unlinked
      rw [unlinked, events_closeListener]
    · rename_i answer
      rw [answer] at unlinked
      rw [complaints_log rfl, unlinked, events_closeListener]

theorem complaints_close (ep : Endpoint) (h : Host) :
    complaints (ep.close h).2.events = complaints h.events := by
  have unbound := ep.complaints_unbind h
  unfold close
  generalize ep.unbind h = step at *
  dsimp only
  split
  · exact unbound
  · rw [complaints_log rfl, Connection.complaints_shutdown, unbound]

/-- An endpoint that is given up is closed with one complaint for each failure. -/
theorem complaints_giveUp (ep : Endpoint) (errors : List IoError) (h : Host) :
    complaints (ep.giveUp errors h).2.events =
      complaints h.events ++ errors.map (ep.name, ·) := by
  rw [giveUp, complaints_close]
  induction errors generalizing h with
  | nil => simp
  | cons e rest ih =>
    rw [List.foldl_cons, ih, Host.log, complaints_cons, List.append_assoc]
    rfl

end Endpoint

end LocalPipe
