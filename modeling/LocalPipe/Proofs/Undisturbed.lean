import LocalPipe.Proofs.EndViews
import LocalPipe.Proofs.Operations

namespace LocalPipe

namespace LinkEnd

/-- An end whose transfers answer at once and meet no faults. -/
structure Undisturbed (e : LinkEnd) : Prop where
  nonblocking : e.nonblocking = true
  faults (d : Direction) : e.faults d = []

/-- Transfers over an end neither close it nor change its mode, and only use
faults up. -/
structure Survives (e e' : LinkEnd) : Prop where
  opens : e'.isOpen = e.isOpen
  modes : e'.nonblocking = e.nonblocking
  faults (d : Direction) : e'.faults d <:+ e.faults d

theorem Survives.refl (e : LinkEnd) : e.Survives e :=
  ⟨rfl, rfl, fun _ => List.suffix_rfl⟩

theorem Survives.trans {e e' e'' : LinkEnd} (first : e.Survives e') (second : e'.Survives e'') :
    e.Survives e'' :=
  ⟨second.opens.trans first.opens, second.modes.trans first.modes,
    fun d => (second.faults d).trans (first.faults d)⟩

theorem Undisturbed.survives {e e' : LinkEnd} (undisturbed : e.Undisturbed)
    (survives : e.Survives e') : e'.Undisturbed := by
  refine ⟨survives.modes.trans undisturbed.nonblocking, fun d => ?_⟩
  have fewer := survives.faults d
  rw [undisturbed.faults d] at fewer
  exact List.suffix_nil.mp fewer

end LinkEnd

namespace Link

theorem faults_takeFault_suffix (l : Link) (s s' : Side) (d d' : Direction) :
    ((l.takeFault s d).2.endAt s').faults d' <:+ (l.endAt s').faults d' := by
  unfold takeFault
  split
  · exact List.suffix_rfl
  · rename_i fault rest ahead
    rw [endAt_setEnd]
    by_cases same : s' = s
    · subst same
      rw [if_pos rfl]
      by_cases way : d' = d
      · subst way
        rw [faults_setFaults, ahead]
        exact List.suffix_cons _ _
      · cases d <;> cases d' <;> first | exact absurd rfl way | exact List.suffix_rfl
    · simp [same]

theorem faults_receive_eq (l : Link) (s s' : Side) (n : Nat) (d : Direction) :
    ((l.receive s n).2.endAt s').faults d = (l.endAt s').faults d := by
  simp only [receive]
  repeat' split
  all_goals first | rfl | (cases s <;> cases s' <;> cases d <;> rfl)

theorem faults_send_eq (l : Link) (s s' : Side) (data : Bytes) (d : Direction) :
    ((l.send s data).2.endAt s').faults d = (l.endAt s').faults d := by
  simp only [send]
  repeat' split
  all_goals first | rfl | (cases s <;> cases s' <;> cases d <;> rfl)

theorem survives_read (l : Link) (s s' : Side) (n : Nat) :
    (l.endAt s').Survives ((l.read s n).2.endAt s') := by
  have shape := (l.took_read s n).toSameShape
  refine ⟨shape.opens s', shape.modes s', fun d => ?_⟩
  have taken := l.faults_takeFault_suffix s s' .read d
  unfold read
  split <;> rename_i answer <;> rw [answer] at taken
  · rwa [faults_receive_eq]
  · exact taken
  · exact taken
  · rwa [faults_receive_eq]

theorem survives_write (l : Link) (s s' : Side) (data : Bytes) :
    (l.endAt s').Survives ((l.write s data).2.endAt s') := by
  have shape := (l.placed_write s data).toSameShape
  refine ⟨shape.opens s', shape.modes s', fun d => ?_⟩
  have taken := l.faults_takeFault_suffix s s' .write d
  unfold write
  split <;> rename_i answer <;> rw [answer] at taken
  · rwa [faults_send_eq]
  · exact taken
  · exact taken
  · rwa [faults_send_eq]

variable {l : Link} {s : Side} {n : Nat} {data : Bytes} {e : Errno}

/-- Without faults a read is a receive, and a write is a send. -/
theorem read_undisturbed (undisturbed : (l.endAt s).Undisturbed) (n : Nat) :
    l.read s n = l.receive s n := by
  simp only [read, takeFault, undisturbed.faults]

theorem write_undisturbed (undisturbed : (l.endAt s).Undisturbed) (data : Bytes) :
    l.write s data = l.send s data := by
  simp only [write, takeFault, undisturbed.faults]

/-- Only a closed far end and an empty buffer make a receive return nothing. -/
theorem receive_nothing (positive : 0 < n) (answer : (l.receive s n).1 = .ok []) :
    (l.receive s n).2 = l ∧ (l.endAt s).buffer = [] ∧ (l.endAt s.other).isOpen = false := by
  unfold receive at answer ⊢
  dsimp only at answer ⊢
  rw [if_neg (by omega)] at answer ⊢
  by_cases empty : (l.endAt s).buffer = []
  · rw [if_pos empty] at answer ⊢
    by_cases opened : (l.endAt s.other).isOpen = true
    · rw [if_pos opened] at answer
      cases answer
    · rw [if_neg opened]
      exact ⟨rfl, empty, by simpa using opened⟩
  · rw [if_neg empty] at answer
    have nothing : (l.endAt s).buffer.take n = [] := Except.ok.inj answer
    rcases List.take_eq_nil_iff.mp nothing with zero | none
    · omega
    · exact absurd none empty

/-- In non-blocking mode a receive fails only because it would block. -/
theorem receive_error (undisturbed : (l.endAt s).Undisturbed)
    (answer : (l.receive s n).1 = .error e) : e = .eagain := by
  simp only [receive, LinkEnd.wouldBlock, undisturbed.nonblocking, if_true] at answer
  repeat' split at answer
  all_goals cases answer
  rfl

theorem buffer_of_receive_error (answer : (l.receive s n).1 = .error e) :
    (l.receive s n).2 = l ∧ (l.endAt s).buffer = [] := by
  simp only [receive] at answer ⊢
  repeat' split at answer
  all_goals cases answer
  rename_i some_asked empty opened
  exact ⟨by simp [some_asked, empty, opened], empty⟩

/-- A send of some bytes accepts at least one of them, or it would block, or it
finds the far end closed. -/
theorem send_ok (some_data : data ≠ []) (answer : (l.send s data).1 = .ok n) : 0 < n := by
  have length := List.length_pos_iff.mpr some_data
  simp only [send, if_neg some_data] at answer
  repeat' split at answer
  all_goals cases answer
  omega

theorem send_error (undisturbed : (l.endAt s).Undisturbed)
    (answer : (l.send s data).1 = .error e) :
    e = .eagain ∨ e = .epipe ∧ (l.send s data).2 = l ∧ (l.endAt s.other).isOpen = false := by
  simp only [send, LinkEnd.wouldBlock, undisturbed.nonblocking, if_true] at answer ⊢
  repeat' split at answer
  all_goals cases answer
  · rename_i some_data closed
    refine Or.inr ⟨rfl, by simp [some_data, closed], by simpa using closed⟩
  · exact Or.inl rfl

end Link

namespace Host

/-- There is an end here whose transfers answer at once and meet no faults. -/
def Undisturbed (h : Host) (p : EndId) : Prop :=
  ∃ e, h.linkEnd? p = some e ∧ e.Undisturbed

/-- Whether there is an end here that nobody has closed. -/
def isOpen (h : Host) (p : EndId) : Bool :=
  match h.linkEnd? p with
  | some e => e.isOpen
  | none => false

/-- What is at an end, if anything, survives, and nothing is new there. -/
def Survives (h h' : Host) (p : EndId) : Prop :=
  Option.Rel LinkEnd.Survives (h.linkEnd? p) (h'.linkEnd? p)

variable {d : Descriptor} {h h' h'' : Host} {p : EndId} {l : Link} {n : Nat} {data : Bytes}

theorem Survives.of_eq (same : h'.linkEnd? p = h.linkEnd? p) : h.Survives h' p := by
  rw [Survives, same]
  cases h.linkEnd? p with
  | none => exact .none
  | some e => exact .some (.refl e)

theorem Survives.trans (first : h.Survives h' p) (second : h'.Survives h'' p) :
    h.Survives h'' p := by
  unfold Survives at *
  generalize h.linkEnd? p = before at *
  generalize h'.linkEnd? p = between at *
  generalize h''.linkEnd? p = after at *
  cases first with
  | none => exact second
  | some survives =>
    cases second with
    | some survives' => exact .some (survives.trans survives')

theorem Undisturbed.survives (undisturbed : h.Undisturbed p) (survives : h.Survives h' p) :
    h'.Undisturbed p := by
  obtain ⟨e, present, fine⟩ := undisturbed
  rw [Survives, present] at survives
  cases after : h'.linkEnd? p with
  | none => rw [after] at survives; cases survives
  | some e' =>
    rw [after] at survives
    cases survives with
    | some survives' => exact ⟨e', after, fine.survives survives'⟩

theorem Survives.isOpen_eq (survives : h.Survives h' p) : h'.isOpen p = h.isOpen p := by
  unfold Survives isOpen at *
  generalize h.linkEnd? p = before at *
  generalize h'.linkEnd? p = after at *
  cases survives with
  | none => rfl
  | some survives' => exact survives'.opens

theorem survives_readOnce (h : Host) (d : Descriptor) (n : Nat) (p : EndId) :
    h.Survives (h.read d n).2 p := by
  cases present : h.links.get? d.endId.link with
  | none =>
    exact .of_eq (linkEnd?_congr (by rw [links_read_of_none n present]))
  | some l =>
    by_cases near : d.endId.link = p.link
    · have after := (links_read_self n present).2
      rw [near] at present after
      rw [Survives, linkEnd?_of_link present, linkEnd?_of_link after]
      exact .some (l.survives_read ..)
    · exact .of_eq (linkEnd?_congr (links_read_of_ne n near))

theorem survives_writeOnce (h : Host) (d : Descriptor) (data : Bytes) (p : EndId) :
    h.Survives (h.write d data).2 p := by
  cases present : h.links.get? d.endId.link with
  | none =>
    exact .of_eq (linkEnd?_congr (by rw [links_write_of_none data present]))
  | some l =>
    by_cases near : d.endId.link = p.link
    · have after := (links_write_self data present).2
      rw [near] at present after
      rw [Survives, linkEnd?_of_link present, linkEnd?_of_link after]
      exact .some (l.survives_write ..)
    · exact .of_eq (linkEnd?_congr (links_write_of_ne data near))

theorem Reads.survives (reads : h.Reads d h') (p : EndId) : h.Survives h' p := by
  induction reads with
  | start => exact .of_eq rfl
  | @read before n _ ih => exact ih.trans (before.survives_readOnce d n p)
  | log event _ ih => exact ih.trans (.of_eq rfl)

theorem Writes.survives (writes : h.Writes d h') (p : EndId) : h.Survives h' p := by
  induction writes with
  | start => exact .of_eq rfl
  | @write before data _ ih => exact ih.trans (before.survives_writeOnce d data p)
  | log event _ ih => exact ih.trans (.of_eq rfl)

theorem read_undisturbed (undisturbed : h.Undisturbed d.endId) (n : Nat) :
    ∃ l, h.links.get? d.endId.link = some l ∧ (l.endAt d.endId.side).Undisturbed ∧
      (h.read d n).1 = (l.receive d.endId.side n).1 ∧
      (h.read d n).2.links.get? d.endId.link = some (l.receive d.endId.side n).2 := by
  obtain ⟨e, present, fine⟩ := undisturbed
  cases found : h.links.get? d.endId.link with
  | none => simp [linkEnd?_of_none found] at present
  | some l =>
    rw [linkEnd?_of_link found] at present
    cases present
    obtain ⟨answer, after⟩ := links_read_self n found
    rw [Link.read_undisturbed fine n] at answer after
    exact ⟨l, rfl, fine, answer, after⟩

theorem write_undisturbed (undisturbed : h.Undisturbed d.endId) (data : Bytes) :
    ∃ l, h.links.get? d.endId.link = some l ∧ (l.endAt d.endId.side).Undisturbed ∧
      (h.write d data).1 = (l.send d.endId.side data).1 ∧
      (h.write d data).2.links.get? d.endId.link = some (l.send d.endId.side data).2 := by
  obtain ⟨e, present, fine⟩ := undisturbed
  cases found : h.links.get? d.endId.link with
  | none => simp [linkEnd?_of_none found] at present
  | some l =>
    rw [linkEnd?_of_link found] at present
    cases present
    obtain ⟨answer, after⟩ := links_write_self data found
    rw [Link.write_undisturbed fine data] at answer after
    exact ⟨l, rfl, fine, answer, after⟩

theorem isOpen_of_link (present : h.links.get? p.link = some l) :
    h.isOpen p = (l.endAt p.side).isOpen := by
  simp [isOpen, linkEnd?_of_link present]

end Host

open Host

/-- Where nothing disturbs it, a receive fails only at the end of the stream:
nothing is left to be read, and the far end is closed. -/
theorem receive_failed {d : Descriptor} {n : Nat} {h h' : Host} {e : IoError}
    (undisturbed : h.Undisturbed d.endId) (positive : 0 < n)
    (failed : receive d n h = (.failed e, h')) :
    h'.buffer d.endId = [] ∧ h'.isOpen d.endId.other = false := by
  obtain ⟨l, present, fine, result, after⟩ := read_undisturbed undisturbed n
  have blocks (errno : Errno) (answer : (h.read d n).1 = .error errno) : errno = .eagain := by
    rw [result] at answer
    exact Link.receive_error fine answer
  unfold receive at failed
  split at failed
  · rename_i h₁ answer
    cases failed
    rw [answer] at result after
    obtain ⟨same, empty, closed⟩ := Link.receive_nothing positive result.symm
    dsimp only at after
    rw [same] at after
    refine ⟨by rw [buffer_of_link after, empty], ?_⟩
    rw [isOpen_of_link (p := d.endId.other) after]
    exact closed
  · cases failed
  · cases failed
  · rename_i h₁ answer
    cases blocks .eintr (by rw [answer])
  · rename_i e' h₁ other _ answer
    exact absurd (blocks e' (by rw [answer])) (by rintro rfl; exact other rfl)

/-- A receive that would block leaves nothing unread. -/
theorem receive_pending {d : Descriptor} {n : Nat} {h h' : Host}
    (undisturbed : h.Undisturbed d.endId) (pending : receive d n h = (.pending, h')) :
    h'.buffer d.endId = [] := by
  fun_induction receive d n h with
  | case1 h h₁ answer => cases pending
  | case2 h data h₁ nonempty answer => cases pending
  | case3 h h₁ answer =>
    cases pending
    obtain ⟨l, _, _, result, after⟩ := read_undisturbed undisturbed n
    rw [answer] at result after
    obtain ⟨same, empty⟩ := Link.buffer_of_receive_error result.symm
    dsimp only at after
    rw [same] at after
    rw [buffer_of_link after, empty]
  | case4 h h₁ answer ih =>
    have survives := h.survives_readOnce d n d.endId
    rw [answer] at survives
    exact ih (undisturbed.survives survives) pending
  | case5 h e h₁ _ _ answer => cases pending

/-- Where nothing disturbs it, a transmission fails only because the far end is
closed. -/
theorem transmit_failed {d : Descriptor} {data left : Bytes} {h h' : Host} {e : IoError}
    (undisturbed : h.Undisturbed d.endId) (failed : transmit d data h = (.failed e, left, h')) :
    e = .os .epipe ∧ h'.isOpen d.endId.other = false := by
  fun_induction transmit d data h with
  | case1 => cases failed
  | case2 data h some_left h₁ answer =>
    obtain ⟨l, _, fine, result, _⟩ := write_undisturbed undisturbed data
    rw [answer] at result
    have := Link.send_ok some_left result.symm
    omega
  | case3 data h _ n h₁ answer ih =>
    have survives := h.survives_writeOnce d data d.endId
    rw [answer] at survives
    exact ih (undisturbed.survives survives) failed
  | case4 data h _ h₁ answer => cases failed
  | case5 data h _ h₁ answer ih =>
    have survives := h.survives_writeOnce d data d.endId
    rw [answer] at survives
    exact ih (undisturbed.survives survives) failed
  | case6 data h some_left e' h₁ other _ answer =>
    cases failed
    obtain ⟨l, _, fine, result, after⟩ := write_undisturbed undisturbed _
    rw [answer] at result after
    rcases Link.send_error fine result.symm with rfl | ⟨rfl, same, closed⟩
    · exact absurd rfl other
    · dsimp only at after
      rw [same] at after
      refine ⟨rfl, ?_⟩
      rw [isOpen_of_link (p := d.endId.other) after]
      exact closed

end LocalPipe
