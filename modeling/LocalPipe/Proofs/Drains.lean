import LocalPipe.Proofs.Handles

namespace LocalPipe

/-- What a shutdown does in one direction. -/
def Worker.drain? (w? : Option Worker) (d : Direction) (t : Transport) (h : Host) :
    Transport × Host :=
  match w? with
  | some w => (w.drain d t h).2
  | none => (t, h)

/-- Gives up what is outstanding, up to where the transport is released. -/
def Connection.emptied (c : Connection) (h : Host) : Transport × Host :=
  let (t, h) := Worker.drain? c.reader .read c.transport.cancel h
  Worker.drain? c.writer .write t h

theorem Connection.shutdown_emptied (c : Connection) (h : Host) :
    c.shutdown h = (c.emptied h).1.close (c.emptied h).2 :=
  rfl

namespace Transport

theorem operation_setOperation (t : Transport) (op : Option Operation) (d d' : Direction) :
    (t.setOperation op d).operation d' = if d' = d then op else t.operation d' := by
  cases d <;> cases d' <;> rfl

/-- Whatever is outstanding was canceled, once that was asked for. -/
theorem canceled_of_cancel {t : Transport} {d : Direction} {op : Operation}
    (outstanding : t.cancel.operation d = some op) : op.canceled = true := by
  cases d with
  | read =>
    obtain ⟨_, _, rfl⟩ := Option.map_eq_some_iff.mp outstanding
    rfl
  | write =>
    obtain ⟨_, _, rfl⟩ := Option.map_eq_some_iff.mp outstanding
    rfl

theorem operation_cancel (t : Transport) (d : Direction) :
    t.cancel.operation d = (t.operation d).map markCanceled := by
  cases d <;> rfl

end Transport

theorem Transport.operation_drain (t : Transport) (d d' : Direction) (h : Host) :
    (t.drain d h).1.operation d' = if d' = d then none else t.operation d' := by
  unfold Transport.drain
  cases outstanding : t.operation d with
  | none =>
    by_cases same : d' = d
    · rw [if_pos same, same]
      exact outstanding
    · rw [if_neg same]
  | some op => exact Transport.operation_setOperation t none d d'

namespace Worker

variable {w? : Option Worker} {d d' : Direction} {t : Transport} {h : Host}

/-- One direction's part of a shutdown leaves the other direction alone. -/
theorem drain?_other (other : d' ≠ d) : (drain? w? d t h).1.operation d' = t.operation d' := by
  cases w? with
  | none => rfl
  | some w =>
    unfold drain? drain
    dsimp only
    split
    · exact (t.operation_drain d d' h).trans (if_neg other)
    · rfl

/-- A direction is empty after its part of a shutdown, if a worker waits for what
was outstanding in it. -/
theorem drain?_empty (waits : t.operation d = none ∨ ∃ w, w? = some w ∧ w.isPending = true) :
    (drain? w? d t h).1.operation d = none := by
  cases w? with
  | none =>
    obtain empty | ⟨w, missing, _⟩ := waits
    · exact empty
    · cases missing
  | some w =>
    unfold drain? drain
    dsimp only
    split
    · exact (t.operation_drain d d h).trans (if_pos rfl)
    · rename_i rests
      obtain empty | ⟨_, ⟨⟩, pends⟩ := waits
      · exact empty
      · exact absurd pends rests

end Worker

namespace Reader

variable {lane : Lane} {moved : Nat} {e : IoError} {answer : Except IoError Nat × Lane}

theorem Issues.failed_free (issues : Issues lane moved answer) (failed : answer.1 = .error e) :
    answer.2.transport.receiving = none := by
  induction issues with
  | full => cases failed
  | next _ _ _ ih => exact ih failed
  | pending => cases failed
  | failed => rfl

/-- A receive that has failed is outstanding no longer. -/
theorem Run.failed_free (run : Run lane answer) (failed : answer.1 = .error e) :
    answer.2.transport.receiving = none := by
  cases run with
  | idle _ _ issues => exact issues.failed_free failed
  | withdrawn _ _ issues => exact issues.failed_free failed
  | pending => cases failed
  | complete _ _ _ issues => exact issues.failed_free failed
  | failed => rfl

end Reader

namespace Writer

variable {lane : Lane} {moved : Nat} {failure : SendFailure}
  {answer : Except SendFailure Nat × Lane}

theorem Issues.failed_free (issues : Issues lane moved answer)
    (failed : answer.1 = .error failure) : answer.2.transport.sending = none := by
  induction issues with
  | done => cases failed
  | next _ _ _ ih => exact ih failed
  | pending => cases failed
  | failed => rfl

/-- A send that has failed is outstanding no longer. -/
theorem Run.failed_free (run : Run lane answer) (failed : answer.1 = .error failure) :
    answer.2.transport.sending = none := by
  cases run with
  | idle _ _ issues => exact issues.failed_free failed
  | pending => cases failed
  | complete _ _ issues => exact issues.failed_free failed
  | failed => rfl

end Writer

/-- Whatever is outstanding belongs to a worker that waits for it, so that a
shutdown finds it. -/
structure Connection.Drains (c : Connection) : Prop where
  receiving : c.transport.receiving = none ∨ ∃ w, c.reader = some w ∧ w.isPending = true
  sending : c.transport.sending = none ∨ ∃ w, c.writer = some w ∧ w.isPending = true

namespace Connection

variable {c : Connection} {q : Queues} {h : Host}

/-- A shutdown leaves both slots empty before it releases the transport. -/
theorem Drains.emptied (drains : c.Drains) (h : Host) :
    (c.emptied h).1.receiving = none ∧ (c.emptied h).1.sending = none := by
  have receiving : c.transport.cancel.operation .read = none ∨
      ∃ w, c.reader = some w ∧ w.isPending = true := by
    rw [Transport.operation_cancel, Option.map_eq_none_iff]
    exact drains.receiving
  have sending : (Worker.drain? c.reader .read c.transport.cancel h).1.operation .write = none ∨
      ∃ w, c.writer = some w ∧ w.isPending = true := by
    rw [Worker.drain?_other (by simp), Transport.operation_cancel, Option.map_eq_none_iff]
    exact drains.sending
  have empty := Worker.drain?_empty (h := h) receiving
  have other : Direction.read ≠ .write := by simp
  exact ⟨(Worker.drain?_other other).trans empty, Worker.drain?_empty sending⟩

theorem Sound.drains (sound : c.Sound) : c.Drains where
  receiving := by
    cases present : c.reader with
    | none => exact Or.inl (sound.unread present)
    | some w => exact (sound.reader w present).agrees.waits.imp_right fun pends => ⟨w, rfl, pends⟩
  sending := by
    cases present : c.writer with
    | none => exact Or.inl (sound.unwritten present)
    | some w => exact (sound.writer w present).agrees.waits.imp_right fun pends => ⟨w, rfl, pends⟩

theorem receiveHalf_drains (sound : c.Sound) :
    (c.receiveHalf q h).connection.transport.receiving = none ∨
      ∃ w, (c.receiveHalf q h).connection.reader = some w ∧ w.isPending = true := by
  unfold receiveHalf
  cases present : c.reader with
  | none => exact Or.inl (sound.unread present)
  | some w =>
    have receives := sound.reader w present
    have advance := Reader.advance_spec ⟨w, q, c.transport, h⟩ receives
    cases result : (Reader.advance ⟨w, q, c.transport, h⟩).1 with
    | error e => exact Or.inl ((Reader.advance_run _ receives).failed_free result)
    | ok total =>
      exact (advance.agrees total result).agrees.waits.imp_right fun pends => ⟨_, rfl, pends⟩

theorem sendHalf_drains (sends : ∀ w, c.writer = some w → w.Sends c.transport.sending)
    (unwritten : c.writer = none → c.transport.sending = none) :
    (c.sendHalf q h).connection.transport.sending = none ∨
      ∃ w, (c.sendHalf q h).connection.writer = some w ∧ w.isPending = true := by
  unfold sendHalf
  cases present : c.writer with
  | none => exact Or.inl (unwritten present)
  | some w =>
    have advance := Writer.advance_spec ⟨w, q, c.transport, h⟩ (sends w present)
    cases result : (Writer.advance ⟨w, q, c.transport, h⟩).1 with
    | error e =>
      exact Or.inl ((Writer.advance_run _ (sends w present)).failed_free result)
    | ok total =>
      exact (advance.agrees total result).agrees.waits.imp_right fun pends => ⟨_, rfl, pends⟩

/-- A tick leaves nothing outstanding for which no worker waits, even if it
fails. -/
theorem tick_drains (sound : c.Sound) : (c.tick q h).connection.Drains := by
  have receiving := receiveHalf_drains (q := q) (h := h) sound
  obtain ⟨sends, unwritten⟩ := sends_receiveHalf (q := q) (h := h) sound
  rw [tick_eq]
  dsimp only
  generalize c.receiveHalf q h = first at *
  obtain ⟨_, transport, reader, _⟩ := sendHalf_frame (q := first.queues) (h := first.host) sends
  refine ⟨?_, sendHalf_drains sends unwritten⟩
  rw [transport, reader]
  exact receiving

end Connection

end LocalPipe
