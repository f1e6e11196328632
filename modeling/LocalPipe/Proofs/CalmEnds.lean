import LocalPipe.Proofs.EndViews
import LocalPipe.Proofs.MeasuredReads

namespace LocalPipe

namespace Table

variable {κ α : Type} [DecidableEq κ]

theorem set_set (t : Table κ α) (k : κ) (v v' : α) : (t.set k v).set k v' = t.set k v' := by
  obtain ⟨entries⟩ := t
  simp only [set, mk.injEq]
  induction entries with
  | nil => simp [put]
  | cons entry rest ih =>
    by_cases same : entry.1 = k
    · simp [put, same]
    · simp [put, same, ih]

/-- A table that is set to what it has is the same table. -/
theorem set_of_get? {t : Table κ α} {k : κ} {v : α} (present : t.get? k = some v) :
    t.set k v = t := by
  obtain ⟨entries⟩ := t
  simp only [set, mk.injEq]
  simp only [get?] at present
  induction entries with
  | nil => cases present
  | cons entry rest ih =>
    obtain ⟨k', v'⟩ := entry
    by_cases same : k' = k
    · subst same
      simpa [put, lookup] using present.symm
    · rw [lookup, if_neg same] at present
      simp [put, same, ih present]

end Table

namespace Link

/-- An end is in non-blocking mode, and its calls meet no faults. -/
structure Calm (l : Link) (s : Side) : Prop where
  nonblocking : (l.endAt s).nonblocking = true
  readFaults : (l.endAt s).readFaults = []
  writeFaults : (l.endAt s).writeFaults = []

/-- A link once up to `n` bytes were taken out of an end's buffer. -/
def taken (l : Link) (s : Side) (n : Nat) : Link :=
  l.setEnd { l.endAt s with buffer := (l.endAt s).buffer.drop n } s

/-- A link once bytes were placed towards the other end, as many as fit. A closed end
takes none. -/
def filled (l : Link) (s : Side) (data : Bytes) : Link :=
  if (l.endAt s.other).isOpen then
    l.setEnd { l.endAt s.other with
      buffer := (l.endAt s.other).buffer ++ data.take (l.room s) } s.other
  else l

variable {l : Link} {s : Side} {n m : Nat} {data more : Bytes}

theorem setEnd_endAt (l : Link) (s : Side) : l.setEnd (l.endAt s) s = l := by
  cases s <;> rfl

theorem setEnd_setEnd (l : Link) (p p' : LinkEnd) (s : Side) :
    (l.setEnd p s).setEnd p' s = l.setEnd p' s := by
  cases s <;> rfl

theorem near_taken (l : Link) (s : Side) (n : Nat) :
    (l.taken s n).endAt s = { l.endAt s with buffer := (l.endAt s).buffer.drop n } := by
  rw [taken, endAt_setEnd_self]

theorem far_taken (l : Link) (s : Side) (n : Nat) :
    (l.taken s n).endAt s.other = l.endAt s.other := by
  rw [taken, endAt_setEnd, if_neg (Side.other_ne s)]

theorem capacity_setEnd (l : Link) (p : LinkEnd) (s : Side) :
    (l.setEnd p s).capacity = l.capacity := by
  cases s <;> rfl

theorem room_taken (l : Link) (s : Side) (n : Nat) : (l.taken s n).room s = l.room s := by
  rw [room, room, far_taken, taken, capacity_setEnd]

theorem taken_of_nothing (nothing : (l.endAt s).buffer.drop n = (l.endAt s).buffer) :
    l.taken s n = l := by
  rw [taken, nothing]
  exact setEnd_endAt l s

theorem taken_of_empty (empty : (l.endAt s).buffer = []) (n : Nat) : l.taken s n = l :=
  taken_of_nothing (by rw [empty, List.drop_nil])

theorem taken_zero (l : Link) (s : Side) : l.taken s 0 = l :=
  taken_of_nothing List.drop_zero

theorem taken_taken (l : Link) (s : Side) (n m : Nat) :
    (l.taken s n).taken s m = l.taken s (n + m) := by
  rw [taken, near_taken, taken, setEnd_setEnd, List.drop_drop, taken]

theorem near_filled (l : Link) (s : Side) (data : Bytes) :
    (l.filled s data).endAt s = l.endAt s := by
  unfold filled
  split
  · rw [endAt_setEnd_other]
  · rfl

theorem far_filled (opened : (l.endAt s.other).isOpen = true) (data : Bytes) :
    (l.filled s data).endAt s.other = { l.endAt s.other with
      buffer := (l.endAt s.other).buffer ++ data.take (l.room s) } := by
  rw [filled, if_pos opened, endAt_setEnd_self]

theorem filled_of_closed (closed : (l.endAt s.other).isOpen = false) (data : Bytes) :
    l.filled s data = l := by
  rw [filled, closed]
  rfl

theorem filled_nil (l : Link) (s : Side) : l.filled s [] = l := by
  unfold filled
  split
  · rw [List.take_nil, List.append_nil]
    exact setEnd_endAt l s.other
  · rfl

theorem filled_of_full (full : l.room s = 0) (data : Bytes) : l.filled s data = l := by
  unfold filled
  split
  · rw [full, List.take_zero, List.append_nil]
    exact setEnd_endAt l s.other
  · rfl

theorem room_filled (opened : (l.endAt s.other).isOpen = true) (data : Bytes) :
    (l.filled s data).room s = l.room s - data.length := by
  rw [room, far_filled opened, filled, if_pos opened, capacity_setEnd, room]
  simp only [List.length_append, List.length_take]
  omega

theorem filled_filled (l : Link) (s : Side) (data more : Bytes) :
    (l.filled s data).filled s more = l.filled s (data ++ more) := by
  cases opened : (l.endAt s.other).isOpen with
  | false => rw [filled_of_closed opened, filled_of_closed opened, filled_of_closed opened]
  | true =>
    have still : ((l.filled s data).endAt s.other).isOpen = true := by
      rw [far_filled opened, opened]
    rw [filled, if_pos still, room_filled opened, far_filled opened, filled, if_pos opened,
      setEnd_setEnd, filled, if_pos opened, List.append_assoc, List.take_append]

theorem Calm.of_near {l' : Link} {buffer : Bytes} (calm : l.Calm s)
    (near : l'.endAt s = { l.endAt s with buffer }) : l'.Calm s := by
  refine ⟨?_, ?_, ?_⟩
  · rw [near]
    exact calm.nonblocking
  · rw [near]
    exact calm.readFaults
  · rw [near]
    exact calm.writeFaults

theorem Calm.taken (calm : l.Calm s) (n : Nat) : (l.taken s n).Calm s :=
  calm.of_near (near_taken l s n)

theorem Calm.filled (calm : l.Calm s) (data : Bytes) : (l.filled s data).Calm s :=
  calm.of_near (near_filled l s data)

theorem Calm.takeFault (calm : l.Calm s) (d : Direction) : l.takeFault s d = (none, l) := by
  have none_ahead : (l.endAt s).faults d = [] := by
    cases d
    · exact calm.readFaults
    · exact calm.writeFaults
  rw [Link.takeFault, none_ahead]

/-- What a read on a calm end comes to. -/
theorem Calm.read_eq (calm : l.Calm s) (positive : 0 < n) :
    l.read s n = (if (l.endAt s).buffer = [] then
        if (l.endAt s.other).isOpen then .error .eagain else .ok []
      else .ok ((l.endAt s).buffer.take n), l.taken s n) := by
  rw [read, calm.takeFault]
  dsimp only
  rw [receive, if_neg (Nat.ne_of_gt positive)]
  by_cases empty : (l.endAt s).buffer = []
  · rw [if_pos empty, if_pos empty, taken_of_empty empty]
    rw [LinkEnd.wouldBlock, calm.nonblocking]
    split <;> rfl
  · rw [if_neg empty, if_neg empty]
    rfl

/-- What a write on a calm end comes to. -/
theorem Calm.write_eq (calm : l.Calm s) (some_data : data ≠ []) :
    l.write s data = (if (l.endAt s.other).isOpen then
        if l.room s = 0 then .error .eagain else .ok (min data.length (l.room s))
      else .error .epipe, l.filled s data) := by
  rw [write, calm.takeFault]
  dsimp only
  rw [send, if_neg some_data]
  cases opened : (l.endAt s.other).isOpen with
  | false =>
    rw [filled_of_closed opened]
    rfl
  | true =>
    have fits : data.take (min data.length (l.room s)) = data.take (l.room s) := by
      rw [List.take_eq_take_iff]
      omega
    by_cases full : l.room s = 0
    · rw [filled_of_full full, LinkEnd.wouldBlock, calm.nonblocking]
      simp [full]
    · rw [Link.filled, if_pos opened]
      simp [full, fits, opened]

/-- What a receive on a calm end comes to: the first bytes that wait there, or else
nothing for now, or for good. -/
inductive Receives (l : Link) (s : Side) (n : Nat) : Outcome Bytes → Prop
  | complete : Receives l s n (.complete ((l.endAt s).buffer.take n))
  | pending : (l.endAt s).buffer = [] → (l.endAt s.other).isOpen = true → Receives l s n .pending
  | failed : (l.endAt s).buffer = [] → (l.endAt s.other).isOpen = false →
      Receives l s n (.failed .closedByPeer)

/-- What a transmission on a calm end comes to, with the bytes that are left: as many are
accepted as fit, and none by a closed end. -/
inductive Accepts (l : Link) (s : Side) (data : Bytes) : Outcome Unit → Bytes → Prop
  | complete : (l.endAt s.other).isOpen = true → data.length ≤ l.room s →
      Accepts l s data (.complete ()) []
  | pending : (l.endAt s.other).isOpen = true → l.room s < data.length →
      Accepts l s data .pending (data.drop (l.room s))
  | failed : (l.endAt s.other).isOpen = false → Accepts l s data (.failed (.os .epipe)) data

end Link

open Host

variable {d : Descriptor} {h h' : Host} {l : Link} {n : Nat} {data left : Bytes}

namespace Host

theorem read_eq (present : h.links.get? d.endId.link = some l) (n : Nat) :
    h.read d n = ((l.read d.endId.side n).1,
      (h.setLink d.endId.link (l.read d.endId.side n).2).record
        (.read d n (l.read d.endId.side n).1)) := by
  unfold read
  rw [present]

theorem write_eq (present : h.links.get? d.endId.link = some l) (data : Bytes) :
    h.write d data = ((l.write d.endId.side data).1,
      (h.setLink d.endId.link (l.write d.endId.side data).2).record
        (.write d data (l.write d.endId.side data).1)) := by
  unfold write
  rw [present]

end Host

theorem receive_of_read (answer : h.read d n = (.ok data, h')) (some_data : data ≠ []) :
    receive d n h = (.complete data, h') := by
  cases data with
  | nil => exact absurd rfl some_data
  | cons =>
    unfold receive
    rw [answer]

theorem receive_calm {outcome : Outcome Bytes} (present : h.links.get? d.endId.link = some l)
    (calm : l.Calm d.endId.side) (positive : 0 < n) (received : receive d n h = (outcome, h')) :
    h'.links = h.links.set d.endId.link (l.taken d.endId.side n) ∧
      l.Receives d.endId.side n outcome := by
  have answer := h.read_eq present n
  rw [calm.read_eq positive] at answer
  dsimp only at answer
  by_cases empty : (l.endAt d.endId.side).buffer = []
  · rw [if_pos empty] at answer
    unfold receive at received
    cases opened : (l.endAt d.endId.side.other).isOpen with
    | true =>
      rw [opened] at answer
      rw [answer] at received
      cases received
      exact ⟨rfl, .pending empty opened⟩
    | false =>
      rw [opened] at answer
      rw [answer] at received
      cases received
      exact ⟨rfl, .failed empty opened⟩
  · rw [if_neg empty] at answer
    have some_bytes : (l.endAt d.endId.side).buffer.take n ≠ [] := by
      rw [ne_eq, List.take_eq_nil_iff]
      exact fun either => either.elim (Nat.ne_of_gt positive) empty
    rw [receive_of_read answer some_bytes] at received
    cases received
    exact ⟨rfl, .complete⟩

theorem transmit_nil (d : Descriptor) (h : Host) : transmit d [] h = (.complete (), [], h) := by
  unfold transmit
  rw [if_pos rfl]

theorem transmit_of_write (answer : h.write d data = (.ok n, h')) (positive : 0 < n)
    (some_data : data ≠ []) : transmit d data h = transmit d (data.drop n) h' := by
  cases n with
  | zero => cases positive
  | succ n =>
    rw [transmit, if_neg some_data, answer]

/-- Nothing more is accepted towards an end that is full. -/
theorem transmit_full (present : h.links.get? d.endId.link = some l) (calm : l.Calm d.endId.side)
    (opened : (l.endAt d.endId.side.other).isOpen = true) (full : l.room d.endId.side = 0)
    (some_data : data ≠ []) :
    ∃ h', transmit d data h = (.pending, data, h') ∧ h'.links = h.links := by
  have answer := h.write_eq present data
  rw [calm.write_eq some_data, if_pos opened, if_pos full, Link.filled_of_full full] at answer
  refine ⟨(h.setLink d.endId.link l).record (.write d data (.error .eagain)), ?_,
    Table.set_of_get? present⟩
  unfold transmit
  rw [if_neg some_data, answer]

theorem transmit_calm {outcome : Outcome Unit} (present : h.links.get? d.endId.link = some l)
    (calm : l.Calm d.endId.side) (some_data : data ≠ [])
    (transmitted : transmit d data h = (outcome, left, h')) :
    h'.links = h.links.set d.endId.link (l.filled d.endId.side data) ∧
      l.Accepts d.endId.side data outcome left := by
  have answer := h.write_eq present data
  rw [calm.write_eq some_data] at answer
  dsimp only at answer
  cases opened : (l.endAt d.endId.side.other).isOpen with
  | false =>
    rw [opened] at answer
    unfold transmit at transmitted
    rw [if_neg some_data, answer] at transmitted
    cases transmitted
    exact ⟨rfl, .failed opened⟩
  | true =>
    have positive := List.length_pos_iff.mpr some_data
    by_cases full : l.room d.endId.side = 0
    · obtain ⟨h₁, ran, links⟩ := transmit_full present calm opened full some_data
      have accepts : l.Accepts d.endId.side data .pending _ := .pending opened (by omega)
      rw [ran] at transmitted
      cases transmitted
      rw [full, List.drop_zero] at accepts
      rw [Link.filled_of_full full, Table.set_of_get? present]
      exact ⟨links, accepts⟩
    · rw [if_pos opened, if_neg full] at answer
      rw [transmit_of_write answer (by omega) some_data] at transmitted
      by_cases fits : data.length ≤ l.room d.endId.side
      · rw [Nat.min_eq_left fits, List.drop_length, transmit_nil] at transmitted
        cases transmitted
        exact ⟨rfl, .complete opened fits⟩
      · -- the first write has filled the other end
        have less : l.room d.endId.side < data.length := by omega
        rw [Nat.min_eq_right (Nat.le_of_lt less)] at transmitted
        have some_left : data.drop (l.room d.endId.side) ≠ [] := by
          rw [ne_eq, List.drop_eq_nil_iff]
          exact fits
        have opened' : ((l.filled d.endId.side data).endAt d.endId.side.other).isOpen = true := by
          rw [Link.far_filled opened, opened]
        have full' : (l.filled d.endId.side data).room d.endId.side = 0 := by
          rw [Link.room_filled opened]
          omega
        have present' : (h.links.set d.endId.link (l.filled d.endId.side data)).get?
            d.endId.link = some (l.filled d.endId.side data) := Table.get?_set_self ..
        obtain ⟨h₁, ran, links⟩ := transmit_full
          (h := (h.setLink d.endId.link (l.filled d.endId.side data)).record
            (.write d data (.ok (l.room d.endId.side))))
          present' (calm.filled data) opened' full' some_left
        rw [ran] at transmitted
        cases transmitted
        exact ⟨links, .pending opened less⟩

end LocalPipe
