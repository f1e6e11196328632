import LocalPipe.Proofs.Traffic

namespace LocalPipe

theorem Side.other_other (s : Side) : s.other.other = s := by
  cases s <;> rfl

theorem Side.other_ne (s : Side) : s.other ≠ s := by
  cases s <;> decide

namespace Link

theorem endAt_setEnd (l : Link) (p : LinkEnd) (s s' : Side) :
    (l.setEnd p s).endAt s' = if s' = s then p else l.endAt s' := by
  cases s <;> cases s' <;> rfl

/-- Nothing about a link has changed but the bytes in it and the faults ahead
of its ends. -/
structure SameShape (l l' : Link) : Prop where
  opens (s : Side) : (l'.endAt s).isOpen = (l.endAt s).isOpen
  modes (s : Side) : (l'.endAt s).nonblocking = (l.endAt s).nonblocking
  capacity : l'.capacity = l.capacity

/-- Some bytes have left an end's buffer at its front. -/
structure Took (l l' : Link) (s : Side) (data : Bytes) : Prop extends SameShape l l' where
  near : (l.endAt s).buffer = data ++ (l'.endAt s).buffer
  far : (l'.endAt s.other).buffer = (l.endAt s.other).buffer

/-- Some bytes have come behind those in the other end's buffer. -/
structure Placed (l l' : Link) (s : Side) (data : Bytes) : Prop extends SameShape l l' where
  near : (l'.endAt s).buffer = (l.endAt s).buffer
  far : (l'.endAt s.other).buffer = (l.endAt s.other).buffer ++ data

theorem SameShape.refl (l : Link) : SameShape l l :=
  ⟨fun _ => rfl, fun _ => rfl, rfl⟩

theorem SameShape.trans {l l' l'' : Link} (first : SameShape l l') (second : SameShape l' l'') :
    SameShape l l'' where
  opens s := (second.opens s).trans (first.opens s)
  modes s := (second.modes s).trans (first.modes s)
  capacity := second.capacity.trans first.capacity

theorem Took.refl (l : Link) (s : Side) : Took l l s [] :=
  ⟨.refl l, rfl, rfl⟩

theorem Placed.refl (l : Link) (s : Side) : Placed l l s [] :=
  ⟨.refl l, rfl, by simp⟩

theorem Took.trans {l l' l'' : Link} {s : Side} {data more : Bytes}
    (first : Took l l' s data) (second : Took l' l'' s more) : Took l l'' s (data ++ more) where
  toSameShape := first.toSameShape.trans second.toSameShape
  near := by rw [first.near, second.near, List.append_assoc]
  far := second.far.trans first.far

theorem Placed.trans {l l' l'' : Link} {s : Side} {data more : Bytes}
    (first : Placed l l' s data) (second : Placed l' l'' s more) :
    Placed l l'' s (data ++ more) where
  toSameShape := first.toSameShape.trans second.toSameShape
  near := second.near.trans first.near
  far := by rw [second.far, first.far, List.append_assoc]

/-- A fault that is taken leaves all but the faults alone. -/
theorem sameShape_takeFault (l : Link) (s : Side) (d : Direction) :
    SameShape l (l.takeFault s d).2 := by
  unfold takeFault
  split
  · exact .refl l
  · refine ⟨fun s' => ?_, fun s' => ?_, ?_⟩
    · cases s <;> cases s' <;> cases d <;> rfl
    · cases s <;> cases s' <;> cases d <;> rfl
    · cases s <;> rfl

theorem buffer_takeFault (l : Link) (s s' : Side) (d : Direction) :
    ((l.takeFault s d).2.endAt s').buffer = (l.endAt s').buffer := by
  unfold takeFault
  split
  · rfl
  · cases s <;> cases s' <;> cases d <;> rfl

theorem took_receive (l : Link) (s : Side) (n : Nat) :
    Took l (l.receive s n).2 s (answered (l.receive s n).1) := by
  unfold receive
  dsimp only
  split
  · exact .refl l s
  split
  · split
    · exact .refl l s
    · exact .refl l s
  · refine ⟨⟨fun s' => ?_, fun s' => ?_, ?_⟩, ?_, ?_⟩
    · cases s <;> cases s' <;> rfl
    · cases s <;> cases s' <;> rfl
    · cases s <;> rfl
    · simp
    · cases s <;> rfl

theorem placed_send (l : Link) (s : Side) (data : Bytes) :
    Placed l (l.send s data).2 s (acceptedOf data (l.send s data).1) := by
  unfold send
  dsimp only
  split
  · rename_i none
    simpa [none] using Placed.refl l s
  split
  · exact .refl l s
  split
  · exact .refl l s
  · refine ⟨⟨fun s' => ?_, fun s' => ?_, ?_⟩, ?_, ?_⟩
    · cases s <;> cases s' <;> rfl
    · cases s <;> cases s' <;> rfl
    · cases s <;> rfl
    · cases s <;> rfl
    · simp

theorem took_read (l : Link) (s : Side) (n : Nat) :
    Took l (l.read s n).2 s (answered (l.read s n).1) := by
  have shape := l.sameShape_takeFault s .read
  have buffers (s' : Side) := l.buffer_takeFault s s' .read
  have first : Took l (l.takeFault s .read).2 s [] := ⟨shape, (buffers s).symm, buffers s.other⟩
  unfold read
  split
  · rename_i l' fault
    rw [fault] at first
    exact first.trans (l'.took_receive s n)
  · rename_i e l' fault
    rw [fault] at first
    exact first
  · rename_i l' fault
    rw [fault] at first
    exact first
  · rename_i k l' fault
    rw [fault] at first
    exact first.trans (l'.took_receive s _)

/-- A write that is cut short by a limit accepts no more than it would have. -/
theorem acceptedOf_take {data : Bytes} {k : Nat} {result : Except Errno Nat}
    (within : ∀ n, result = .ok n → n ≤ k) :
    acceptedOf (data.take k) result = acceptedOf data result := by
  cases result with
  | error => rfl
  | ok n => simp [acceptedOf, List.take_take, Nat.min_eq_left (within n rfl)]

theorem send_le {l : Link} {s : Side} {data : Bytes} {n : Nat}
    (sent : (l.send s data).1 = .ok n) : n ≤ data.length := by
  unfold send at sent
  dsimp only at sent
  split at sent
  · cases sent
    exact Nat.zero_le _
  split at sent
  · cases sent
  split at sent
  · cases sent
  · cases sent
    exact Nat.min_le_left _ _

theorem placed_write (l : Link) (s : Side) (data : Bytes) :
    Placed l (l.write s data).2 s (acceptedOf data (l.write s data).1) := by
  have shape := l.sameShape_takeFault s .write
  have buffers (s' : Side) := l.buffer_takeFault s s' .write
  have first : Placed l (l.takeFault s .write).2 s [] :=
    ⟨shape, buffers s, by rw [buffers, List.append_nil]⟩
  unfold write
  split
  · rename_i l' fault
    rw [fault] at first
    exact first.trans (l'.placed_send s data)
  · rename_i e l' fault
    rw [fault] at first
    exact first
  · rename_i l' fault
    rw [fault] at first
    exact first
  · rename_i k l' fault
    rw [fault] at first
    have next := l'.placed_send s (data.take (k + 1))
    have within (n : Nat) (sent : (l'.send s (data.take (k + 1))).1 = .ok n) : n ≤ k + 1 :=
      Nat.le_trans (send_le sent) (List.length_take_le _ _)
    rw [acceptedOf_take within] at next
    exact first.trans next

end Link

end LocalPipe
