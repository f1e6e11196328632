import LocalPipe.Proofs.Channels

namespace LocalPipe

theorem EndId.other_ne (p : EndId) : p.other ≠ p := by
  intro same
  exact Side.other_ne p.side (congrArg EndId.side same)

theorem EndId.other_other (p : EndId) : p.other.other = p := by
  obtain ⟨link, side⟩ := p
  cases side <;> rfl

theorem EndId.ne_other (p : EndId) : p ≠ p.other :=
  Ne.symm p.other_ne

theorem EndId.ne_other_iff {p p' : EndId} : p' ≠ p.other ↔ p' = p ∨ p'.link ≠ p.link := by
  obtain ⟨link, side⟩ := p
  obtain ⟨link', side'⟩ := p'
  cases side <;> cases side' <;> simp [EndId.other, Side.other, Decidable.em]

theorem EndId.eq_other_of {p p' : EndId} (near : p'.link = p.link) (other : p' ≠ p) :
    p' = p.other := by
  by_cases far : p' = p.other
  · exact far
  · rcases EndId.ne_other_iff.mp far with same | away
    · exact absurd same other
    · exact absurd near away

namespace Host

/-- The bytes that wait at an end, none if there is no such end. -/
def buffer (h : Host) (p : EndId) : Bytes :=
  match h.linkEnd? p with
  | some linkEnd => linkEnd.buffer
  | none => []

variable {d : Descriptor} {h h' : Host} {p p' : EndId} {l : Link}

theorem linkEnd?_of_link (present : h.links.get? p.link = some l) :
    h.linkEnd? p = some (l.endAt p.side) := by
  simp [linkEnd?, present]

theorem linkEnd?_of_none (missing : h.links.get? p.link = none) : h.linkEnd? p = none := by
  simp [linkEnd?, missing]

theorem buffer_of_link (present : h.links.get? p.link = some l) :
    h.buffer p = (l.endAt p.side).buffer := by
  simp [buffer, linkEnd?_of_link present]

theorem isNonblocking_of_link (present : h.links.get? p.link = some l) :
    h.isNonblocking p = (l.endAt p.side).nonblocking := by
  simp [isNonblocking, linkEnd?_of_link present]

theorem linkEnd?_congr (same : h'.links.get? p.link = h.links.get? p.link) :
    h'.linkEnd? p = h.linkEnd? p := by
  rw [linkEnd?, linkEnd?, same]

theorem buffer_congr (same : h'.linkEnd? p = h.linkEnd? p) : h'.buffer p = h.buffer p := by
  rw [buffer, buffer, same]

theorem isNonblocking_congr (same : h'.linkEnd? p = h.linkEnd? p) :
    h'.isNonblocking p = h.isNonblocking p := by
  rw [isNonblocking, isNonblocking, same]

theorem linkEnd?_setEnd (h : Host) (p p' : EndId) (linkEnd : LinkEnd) :
    (h.setEnd p linkEnd).linkEnd? p' =
      if p' = p then (h.linkEnd? p).map fun _ => linkEnd else h.linkEnd? p' := by
  unfold setEnd
  split
  · rename_i l present
    by_cases near : p'.link = p.link
    · have stored : (h.setLink p.link (l.setEnd linkEnd p.side)).links.get? p'.link =
          some (l.setEnd linkEnd p.side) := by
        rw [get?_setLink, if_pos near.symm]
      rw [linkEnd?_of_link stored, Link.endAt_setEnd]
      by_cases same : p' = p
      · subst same
        simp [linkEnd?_of_link present]
      · have far := EndId.eq_other_of near same
        subst far
        rw [show p.other.side = p.side.other from rfl, if_neg (Side.other_ne p.side), if_neg same]
        exact (linkEnd?_of_link (p := p.other) present).symm
    · have same : (h.setLink p.link (l.setEnd linkEnd p.side)).links.get? p'.link =
          h.links.get? p'.link := by
        rw [get?_setLink, if_neg (Ne.symm near)]
      rw [linkEnd?_congr same, if_neg]
      rintro rfl
      exact near rfl
  · rename_i missing
    by_cases same : p' = p
    · subst same
      simp [linkEnd?_of_none missing]
    · rw [if_neg same]

theorem linkEnd?_closeEnd (h : Host) (p p' : EndId) :
    (h.closeEnd p).linkEnd? p' =
      if p' = p then (h.linkEnd? p).map LinkEnd.close else h.linkEnd? p' := by
  unfold closeEnd
  split
  · rename_i linkEnd present
    rw [linkEnd?_setEnd, present]
    rfl
  · rename_i missing
    by_cases same : p' = p
    · subst same
      simp [missing]
    · rw [if_neg same]

/-- Closing an end does not change its mode. -/
@[simp] theorem isNonblocking_closeEnd (h : Host) (p p' : EndId) :
    (h.closeEnd p).isNonblocking p' = h.isNonblocking p' := by
  unfold isNonblocking
  rw [linkEnd?_closeEnd]
  by_cases same : p' = p
  · subst same
    rw [if_pos rfl]
    cases h.linkEnd? p' <;> rfl
  · rw [if_neg same]

@[simp] theorem isNonblocking_close (h : Host) (d : Descriptor) (p : EndId) :
    (h.close d).isNonblocking p = h.isNonblocking p := by
  unfold close
  dsimp only
  split
  · rfl
  · rw [isNonblocking_closeEnd]
    rfl

/-- Reads take from the front of what waits at their end. -/
theorem Reads.buffer_eq (reads : h.Reads d h') :
    ∃ data, h.buffer d.endId = data ++ h'.buffer d.endId ∧
      inbound d h'.calls = inbound d h.calls ++ data := by
  cases present : h.links.get? d.endId.link with
  | some l =>
    obtain ⟨l', data, present', took, grown⟩ := reads.took present
    refine ⟨data, ?_, grown⟩
    rw [buffer_of_link present, buffer_of_link present']
    exact took.near
  | none =>
    obtain ⟨missing, grown⟩ := reads.of_none present
    refine ⟨[], ?_, by rw [grown, List.append_nil]⟩
    rw [buffer, buffer, linkEnd?_of_none present, linkEnd?_of_none missing]
    rfl

theorem Reads.buffer_of_ne (reads : h.Reads d h') (other : p ≠ d.endId) :
    h'.buffer p = h.buffer p := by
  by_cases near : p.link = d.endId.link
  · have far := EndId.eq_other_of near other
    subst far
    cases present : h.links.get? d.endId.link with
    | some l =>
      obtain ⟨l', data, present', took, _⟩ := reads.took present
      rw [buffer_of_link (p := d.endId.other) present, buffer_of_link (p := d.endId.other) present']
      exact took.far
    | none =>
      obtain ⟨missing, _⟩ := reads.of_none present
      exact buffer_congr (linkEnd?_congr (by rw [near, missing, present]))
  · exact buffer_congr (linkEnd?_congr (reads.link_of_ne (Ne.symm near)))

/-- Writes place their bytes behind those that wait at the other end. -/
theorem Writes.buffer_eq (writes : h.Writes d h') :
    ∃ data, h'.buffer d.endId.other = h.buffer d.endId.other ++ data ∧
      outbound d h'.calls = outbound d h.calls ++ data := by
  cases present : h.links.get? d.endId.link with
  | some l =>
    obtain ⟨l', data, present', placed, grown⟩ := writes.placed present
    refine ⟨data, ?_, grown⟩
    rw [buffer_of_link (p := d.endId.other) present, buffer_of_link (p := d.endId.other) present']
    exact placed.far
  | none =>
    obtain ⟨missing, grown⟩ := writes.of_none present
    refine ⟨[], ?_, by rw [grown, List.append_nil]⟩
    rw [List.append_nil]
    exact buffer_congr (linkEnd?_congr (missing.trans present.symm))

theorem Writes.buffer_of_ne (writes : h.Writes d h') (other : p ≠ d.endId.other) :
    h'.buffer p = h.buffer p := by
  rcases EndId.ne_other_iff.mp other with rfl | away
  · cases present : h.links.get? d.endId.link with
    | some l =>
      obtain ⟨l', data, present', placed, _⟩ := writes.placed present
      rw [buffer_of_link present, buffer_of_link present']
      exact placed.near
    | none =>
      obtain ⟨missing, _⟩ := writes.of_none present
      exact buffer_congr (linkEnd?_congr (missing.trans present.symm))
  · exact buffer_congr (linkEnd?_congr (writes.link_of_ne (Ne.symm away)))

end Host

end LocalPipe
