import LocalPipe.Proofs.Ends

namespace LocalPipe.Host

variable {d : Descriptor} {h h' : Host} {name : String} {l : Link}

theorem get?_setLink (h : Host) (name name' : String) (l : Link) :
    (h.setLink name l).links.get? name' = if name = name' then some l else h.links.get? name' := by
  unfold setLink
  split
  · rename_i same
    subst same
    exact Table.get?_set_self ..
  · rename_i other
    exact Table.get?_set_of_ne _ _ other

theorem links_read_self (n : Nat) (present : h.links.get? d.endId.link = some l) :
    (h.read d n).1 = (l.read d.endId.side n).1 ∧
      (h.read d n).2.links.get? d.endId.link = some (l.read d.endId.side n).2 := by
  unfold read
  simp [present, record, get?_setLink]

theorem links_read_of_ne (n : Nat) (other : d.endId.link ≠ name) :
    (h.read d n).2.links.get? name = h.links.get? name := by
  unfold read
  split
  · simp [record, get?_setLink, other]
  · rfl

theorem links_write_self (data : Bytes) (present : h.links.get? d.endId.link = some l) :
    (h.write d data).1 = (l.write d.endId.side data).1 ∧
      (h.write d data).2.links.get? d.endId.link = some (l.write d.endId.side data).2 := by
  unfold write
  simp [present, record, get?_setLink]

theorem links_write_of_ne (data : Bytes) (other : d.endId.link ≠ name) :
    (h.write d data).2.links.get? name = h.links.get? name := by
  unfold write
  split
  · simp [record, get?_setLink, other]
  · rfl

theorem links_read_of_none (n : Nat) (missing : h.links.get? d.endId.link = none) :
    (h.read d n).2.links = h.links := by
  simp [read, missing, record]

theorem links_write_of_none (data : Bytes) (missing : h.links.get? d.endId.link = none) :
    (h.write d data).2.links = h.links := by
  simp [write, missing, record]

/-- Reads take their bytes from the front of the end's buffer. -/
theorem Reads.took (reads : h.Reads d h') (present : h.links.get? d.endId.link = some l) :
    ∃ l' data, h'.links.get? d.endId.link = some l' ∧ l.Took l' d.endId.side data ∧
      inbound d h'.calls = inbound d h.calls ++ data := by
  induction reads with
  | start => exact ⟨l, [], present, .refl l _, by simp⟩
  | @read before n _ ih =>
    obtain ⟨l', data, present', took, grown⟩ := ih
    obtain ⟨result, link⟩ := links_read_self n present'
    refine ⟨_, data ++ answered (before.read d n).1, link, ?_, ?_⟩
    · rw [result]
      exact took.trans (l'.took_read _ n)
    · simp [calls_read, grown, Call.inbound]
  | log event _ ih => exact ih

/-- Writes put their bytes behind those in the other end's buffer. -/
theorem Writes.placed (writes : h.Writes d h') (present : h.links.get? d.endId.link = some l) :
    ∃ l' data, h'.links.get? d.endId.link = some l' ∧ l.Placed l' d.endId.side data ∧
      outbound d h'.calls = outbound d h.calls ++ data := by
  induction writes with
  | start => exact ⟨l, [], present, .refl l _, by simp⟩
  | @write before bytes _ ih =>
    obtain ⟨l', data, present', placed, grown⟩ := ih
    obtain ⟨result, link⟩ := links_write_self bytes present'
    refine ⟨_, data ++ acceptedOf bytes (before.write d bytes).1, link, ?_, ?_⟩
    · rw [result]
      exact placed.trans (l'.placed_write _ bytes)
    · simp [calls_write, grown, Call.outbound]
  | log event _ ih => exact ih

theorem Reads.link_of_ne (reads : h.Reads d h') (other : d.endId.link ≠ name) :
    h'.links.get? name = h.links.get? name := by
  induction reads with
  | start => rfl
  | read n _ ih => rw [links_read_of_ne n other, ih]
  | log event _ ih => exact ih

theorem Writes.link_of_ne (writes : h.Writes d h') (other : d.endId.link ≠ name) :
    h'.links.get? name = h.links.get? name := by
  induction writes with
  | start => rfl
  | write data _ ih => rw [links_write_of_ne data other, ih]
  | log event _ ih => exact ih

/-- Without a link, reads bring nothing in. -/
theorem Reads.of_none (reads : h.Reads d h') (missing : h.links.get? d.endId.link = none) :
    h'.links.get? d.endId.link = none ∧ inbound d h'.calls = inbound d h.calls := by
  induction reads with
  | start => exact ⟨missing, rfl⟩
  | @read before n _ ih =>
    obtain ⟨missing', grown⟩ := ih
    rw [links_read_of_none n missing']
    refine ⟨missing', ?_⟩
    simp [Host.read, missing', record, Call.inbound, grown]
  | log event _ ih => exact ih

/-- Without a link, writes place nothing. -/
theorem Writes.of_none (writes : h.Writes d h') (missing : h.links.get? d.endId.link = none) :
    h'.links.get? d.endId.link = none ∧ outbound d h'.calls = outbound d h.calls := by
  induction writes with
  | start => exact ⟨missing, rfl⟩
  | @write before data _ ih =>
    obtain ⟨missing', grown⟩ := ih
    rw [links_write_of_none data missing']
    refine ⟨missing', ?_⟩
    simp [Host.write, missing', record, Call.outbound, grown]
  | log event _ ih => exact ih

/-- Reads change nothing on a host but its links and its records. -/
theorem Reads.rest (reads : h.Reads d h') :
    h' = { h with links := h'.links, calls := h'.calls, events := h'.events } := by
  induction reads with
  | start => rfl
  | @read before n _ ih => rw [read_frame, ih]
  | log event _ ih => rw [ih]; rfl

theorem Writes.rest (writes : h.Writes d h') :
    h' = { h with links := h'.links, calls := h'.calls, events := h'.events } := by
  induction writes with
  | start => rfl
  | @write before data _ ih => rw [write_frame, ih]
  | log event _ ih => rw [ih]; rfl

end LocalPipe.Host
