import LocalPipe.Proofs.CalmEnds
import LocalPipe.Proofs.Receiving
import LocalPipe.Proofs.Sending

namespace LocalPipe

namespace Reader

/-- What an advance takes in on a calm end: as many bytes as wait there and as there is
room for, in whatever pieces. It fails if the end of the stream comes before the room
is used up. -/
structure Draws (lane : Lane) (l : Link) (answer : Except IoError Nat × Lane) : Prop where
  input : answer.2.queues.input = lane.queues.input ++
    (l.endAt lane.transport.descriptor.endId.side).buffer.take lane.queues.room
  links : answer.2.host.links = lane.host.links.set lane.transport.descriptor.endId.link
    (l.taken lane.transport.descriptor.endId.side lane.queues.room)
  fails : (∃ e, answer.1 = .error e) ↔
    (l.endAt lane.transport.descriptor.endId.side.other).isOpen = false ∧
      (l.endAt lane.transport.descriptor.endId.side).buffer.length < lane.queues.room

theorem take_resumed {n room : Nat} (within : n ≤ room) (waits : Bytes) :
    waits.take n ++ (waits.drop n).take (room - (waits.take n).length) = waits.take room := by
  rcases Nat.le_total n waits.length with inside | beyond
  · rw [List.length_take, Nat.min_eq_left inside, ← List.take_add, Nat.add_sub_cancel' within]
  · rw [List.take_of_length_le beyond, List.drop_eq_nil_of_le beyond, List.take_nil,
      List.append_nil, List.take_of_length_le (Nat.le_trans beyond within)]

theorem drop_resumed {n room : Nat} (within : n ≤ room) (waits : Bytes) :
    waits.drop (n + (room - (waits.take n).length)) = waits.drop room := by
  rcases Nat.le_total n waits.length with inside | beyond
  · rw [List.length_take, Nat.min_eq_left inside, Nat.add_sub_cancel' within]
  · rw [List.drop_eq_nil_of_le (Nat.le_trans beyond (Nat.le_add_right _ _)),
      List.drop_eq_nil_of_le (Nat.le_trans beyond within)]

variable {lane next : Lane} {l : Link} {answer : Except IoError Nat × Lane} {n moved : Nat}
  {host : Host}

/-- An advance may begin with a receive that has brought in the first bytes. -/
theorem Draws.prepend
    (rest : Draws next (l.taken lane.transport.descriptor.endId.side n) answer)
    (within : n ≤ lane.queues.room)
    (queues : next.queues = complete lane.queues
      ((l.endAt lane.transport.descriptor.endId.side).buffer.take n))
    (links : next.host.links = lane.host.links.set lane.transport.descriptor.endId.link
      (l.taken lane.transport.descriptor.endId.side n))
    (descriptor : next.transport.descriptor = lane.transport.descriptor) :
    Draws lane l answer := by
  have room : next.queues.room = lane.queues.room -
      ((l.endAt lane.transport.descriptor.endId.side).buffer.take n).length := by
    rw [queues, Queues.room, complete, List.length_append, Queues.room, Nat.sub_sub]
  obtain ⟨input, links', fails⟩ := rest
  rw [descriptor, room] at input links' fails
  rw [Link.near_taken] at input fails
  refine ⟨?_, ?_, ?_⟩
  · rw [input, queues, complete]
    dsimp only
    rw [List.append_assoc, take_resumed within]
  · rw [links', links, Table.set_set, Link.taken_taken]
    simp only [Link.taken, drop_resumed within]
  · rw [fails, Link.far_taken]
    simp only [List.length_drop, List.length_take]
    have rests : (l.endAt lane.transport.descriptor.endId.side).buffer.length - n <
        lane.queues.room -
          min n (l.endAt lane.transport.descriptor.endId.side).buffer.length ↔
        (l.endAt lane.transport.descriptor.endId.side).buffer.length < lane.queues.room := by
      omega
    rw [rests]

/-- An advance may end with a receive that has found nothing. -/
theorem Draws.of_empty (empty : (l.endAt lane.transport.descriptor.endId.side).buffer = [])
    (some_room : lane.queues.room ≠ 0) (queues : answer.2.queues = lane.queues)
    (links : answer.2.host.links = lane.host.links.set lane.transport.descriptor.endId.link
      (l.taken lane.transport.descriptor.endId.side n))
    (fails : (∃ e, answer.1 = .error e) ↔
      (l.endAt lane.transport.descriptor.endId.side.other).isOpen = false) :
    Draws lane l answer := by
  refine ⟨?_, ?_, ?_⟩
  · rw [queues, empty, List.take_nil, List.append_nil]
  · rw [links, Link.taken_of_empty empty, Link.taken_of_empty empty]
  · rw [fails, empty]
    simp [Nat.pos_of_ne_zero some_room]

theorem Issues.draws (issues : Issues lane moved answer)
    (present : lane.host.links.get? lane.transport.descriptor.endId.link = some l)
    (calm : l.Calm lane.transport.descriptor.endId.side) : Draws lane l answer := by
  -- along the receives, each takes up where the one before it has stopped
  induction issues generalizing l with
  | @full lane _ full =>
    refine ⟨by simp [full], ?_, by simp [full]⟩
    rw [full, Link.taken_zero, Table.set_of_get? present]
  | @next lane _ _ host _ room received _ ih =>
    obtain ⟨links, kind⟩ := receive_calm present calm (min_room_pos room) received
    cases kind with
    | complete =>
      have rest := ih (by rw [links]; exact Table.get?_set_self ..) (calm.taken _)
      exact rest.prepend (Nat.min_le_left _ _) rfl links rfl
  | pending room received =>
    obtain ⟨links, kind⟩ := receive_calm present calm (min_room_pos room) received
    cases kind with
    | pending empty opened => exact .of_empty empty room rfl links (by simp [opened])
  | failed room received =>
    obtain ⟨links, kind⟩ := receive_calm present calm (min_room_pos room) received
    cases kind with
    | failed empty closed => exact .of_empty empty room rfl links (by simp [closed])

theorem Run.draws (run : Run lane answer)
    (present : lane.host.links.get? lane.transport.descriptor.endId.link = some l)
    (calm : l.Calm lane.transport.descriptor.endId.side) : Draws lane l answer := by
  have goes_on {size : Nat} (some_room : outstanding lane.queues size ≠ 0) :
      0 < outstanding lane.queues size ∧ lane.queues.room ≠ 0 := by
    simp only [outstanding] at some_room ⊢
    omega
  cases run with
  | idle _ _ issues => exact issues.draws present calm
  | withdrawn _ _ issues =>
    obtain ⟨input, links, fails⟩ := issues.draws present calm
    exact ⟨input, links, fails⟩
  | pending _ some_room received =>
    obtain ⟨positive, room⟩ := goes_on some_room
    obtain ⟨links, kind⟩ := receive_calm present calm positive received
    cases kind with
    | pending empty opened => exact .of_empty empty room rfl links (by simp [opened])
  | complete _ some_room received issues =>
    obtain ⟨positive, room⟩ := goes_on some_room
    obtain ⟨links, kind⟩ := receive_calm present calm positive received
    cases kind with
    | complete =>
      have rest := issues.draws (by rw [links]; exact Table.get?_set_self ..) (calm.taken _)
      exact rest.prepend (Nat.min_le_right _ _) rfl links rfl
  | failed _ some_room received =>
    obtain ⟨positive, room⟩ := goes_on some_room
    obtain ⟨links, kind⟩ := receive_calm present calm positive received
    cases kind with
    | failed empty closed => exact .of_empty empty room rfl links (by simp [closed])

end Reader

namespace Writer

/-- What an advance hands over on a calm end: as many bytes as are left to send and as the
other end has room for, in whatever pieces. It fails if the other end is closed and there
is something to send. -/
structure Places (lane : Lane) (l : Link) (answer : Except SendFailure Nat × Lane) : Prop where
  links : answer.2.host.links = lane.host.links.set lane.transport.descriptor.endId.link
    (l.filled lane.transport.descriptor.endId.side lane.unsent)
  unsent : ∀ total, answer.1 = .ok total →
    answer.2.unsent = lane.unsent.drop (l.room lane.transport.descriptor.endId.side)
  fails : (∃ failure, answer.1 = .error failure) ↔
    (l.endAt lane.transport.descriptor.endId.side.other).isOpen = false ∧ lane.unsent ≠ []

variable {lane next : Lane} {l : Link} {answer : Except SendFailure Nat × Lane} {moved : Nat}
  {front rest : Bytes}

/-- An advance may begin with a transmission that has gone through. -/
theorem Places.prepend
    (places : Places next (l.filled lane.transport.descriptor.endId.side front) answer)
    (unsent : lane.unsent = front ++ next.unsent)
    (opened : (l.endAt lane.transport.descriptor.endId.side.other).isOpen = true)
    (fits : front.length ≤ l.room lane.transport.descriptor.endId.side)
    (links : next.host.links = lane.host.links.set lane.transport.descriptor.endId.link
      (l.filled lane.transport.descriptor.endId.side front))
    (descriptor : next.transport.descriptor = lane.transport.descriptor) :
    Places lane l answer := by
  obtain ⟨links', unsent', fails⟩ := places
  rw [descriptor] at links' unsent' fails
  have still : ((l.filled lane.transport.descriptor.endId.side front).endAt
      lane.transport.descriptor.endId.side.other).isOpen = true := by
    rw [Link.far_filled opened, opened]
  refine ⟨?_, fun total ok => ?_, ?_⟩
  · rw [links', links, Table.set_set, Link.filled_filled, unsent]
  · rw [unsent' total ok, Link.room_filled opened, unsent, List.drop_append,
      List.drop_eq_nil_of_le fits, List.nil_append]
  · rw [fails, still, opened]
    simp

/-- An advance may end with a transmission that has filled the other end. -/
theorem Places.of_pending (unsent : lane.unsent = front ++ rest)
    (opened : (l.endAt lane.transport.descriptor.endId.side.other).isOpen = true)
    (less : l.room lane.transport.descriptor.endId.side < front.length)
    (links : answer.2.host.links = lane.host.links.set lane.transport.descriptor.endId.link
      (l.filled lane.transport.descriptor.endId.side front))
    (ok : answer.1 = .ok moved)
    (left : answer.2.unsent = front.drop (l.room lane.transport.descriptor.endId.side) ++ rest) :
    Places lane l answer := by
  have full : (l.filled lane.transport.descriptor.endId.side front).room
      lane.transport.descriptor.endId.side = 0 := by
    rw [Link.room_filled opened]
    omega
  refine ⟨?_, fun total _ => ?_, ?_⟩
  · rw [links, unsent, ← Link.filled_filled, Link.filled_of_full full]
  · rw [left, unsent, List.drop_append_of_le_length (Nat.le_of_lt less)]
  · simp [ok, opened]

/-- An advance may end with a transmission that a closed end has refused. -/
theorem Places.of_failed {failure : SendFailure} (unsent : lane.unsent = front ++ rest)
    (some_left : front ≠ [])
    (closed : (l.endAt lane.transport.descriptor.endId.side.other).isOpen = false)
    (links : answer.2.host.links = lane.host.links.set lane.transport.descriptor.endId.link
      (l.filled lane.transport.descriptor.endId.side front))
    (fails : answer.1 = .error failure) : Places lane l answer := by
  refine ⟨?_, fun total ok => ?_, ?_⟩
  · rw [links, Link.filled_of_closed closed, Link.filled_of_closed closed]
  · rw [fails] at ok
    cases ok
  · simp [fails, closed, unsent, some_left]

theorem Issues.places (issues : Issues lane moved answer)
    (free : lane.transport.sending = none)
    (present : lane.host.links.get? lane.transport.descriptor.endId.link = some l)
    (calm : l.Calm lane.transport.descriptor.endId.side) : Places lane l answer := by
  -- along the chunks, each takes up where the one before it has gone through
  induction issues generalizing l with
  | @done lane _ nothing =>
    have empty : lane.unsent = [] := by rw [unsent_of_free free, nothing]
    refine ⟨?_, fun total _ => ?_, by simp [empty]⟩
    · rw [empty, Link.filled_nil, Table.set_of_get? present]
    · rw [empty, List.drop_nil]
  | @next lane _ chunk _ _ _ _ next transmitted _ ih =>
    obtain ⟨links, kind⟩ := transmit_calm present calm next.nonempty transmitted
    cases kind with
    | complete opened fits =>
      have rest := ih rfl (by rw [links]; exact Table.get?_set_self ..) (calm.filled _)
      refine rest.prepend ?_ opened fits links rfl
      rw [unsent_of_free free, unsent_of_free rfl, next.split]
  | @pending lane _ chunk queues left _ next transmitted =>
    obtain ⟨links, kind⟩ := transmit_calm present calm next.nonempty transmitted
    obtain ⟨_, sent, parts⟩ := left_of_pending transmitted
    have unsent : lane.unsent = chunk ++ queues.output := by
      rw [unsent_of_free free, next.split]
    cases kind with
    | pending opened less =>
      refine .of_pending unsent opened less links rfl ?_
      simp only [Lane.unsent, Worker.unaccepted, Worker.await, drop_of_left parts]
  | @failed lane _ chunk queues _ _ _ next transmitted =>
    obtain ⟨links, kind⟩ := transmit_calm present calm next.nonempty transmitted
    have unsent : lane.unsent = chunk ++ queues.output := by
      rw [unsent_of_free free, next.split]
    cases kind with
    | failed closed => exact .of_failed unsent next.nonempty closed links rfl

theorem Run.places (run : Run lane answer)
    (present : lane.host.links.get? lane.transport.descriptor.endId.link = some l)
    (calm : l.Calm lane.transport.descriptor.endId.side) : Places lane l answer := by
  cases run with
  | idle _ free issues => exact issues.places free present calm
  | pending holds transmitted =>
    obtain ⟨links, kind⟩ := transmit_calm present calm holds.left_ne_nil transmitted
    have left := holds.drop_left transmitted
    cases kind with
    | pending opened less =>
      refine .of_pending holds.unsent opened less links rfl ?_
      simp only [Lane.unsent, Worker.unaccepted, Worker.await, left]
  | complete holds transmitted issues =>
    obtain ⟨links, kind⟩ := transmit_calm present calm holds.left_ne_nil transmitted
    cases kind with
    | complete opened fits =>
      have rest := issues.places rfl (by rw [links]; exact Table.get?_set_self ..)
        (calm.filled _)
      refine rest.prepend ?_ opened fits links rfl
      rw [holds.unsent, unsent_of_free rfl]
  | failed holds transmitted =>
    obtain ⟨links, kind⟩ := transmit_calm present calm holds.left_ne_nil transmitted
    cases kind with
    | failed closed => exact .of_failed holds.unsent holds.left_ne_nil closed links rfl

end Writer

end LocalPipe
