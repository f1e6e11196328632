import LocalPipe.Host.Outside
import LocalPipe.Proofs.Releases

namespace LocalPipe

namespace PeerAction

/-- The end that somebody acts as. -/
def actor : PeerAction → Option EndId
  | send p _ | receive p _ | close p | failTransfers p _ _ => some p
  | connect _ _ _ | failCalls _ _ => none

/-- Whether an action makes a new link by this name. -/
def makes (name : String) : PeerAction → Bool
  | connect _ link _ => link = name
  | _ => false

end PeerAction

namespace Host

variable {h h' : Host} {p q : EndId} {l : Link}

theorem setLink_setEnd (present : h.links.get? p.link = some l) (linkEnd : LinkEnd) :
    h.setLink p.link (l.setEnd linkEnd p.side) = h.setEnd p linkEnd := by
  rw [setEnd, present]

/-- What others send is put behind what waits at the other end, so far as it is
accepted. -/
theorem peerSend_cases (h : Host) (q : EndId) (data : Bytes) :
    ((h.peerSend q data).2 = h ∧ ∀ n, (h.peerSend q data).1 ≠ .accepted n) ∨
    ∃ near far n, h.linkEnd? q = some near ∧ near.isOpen = true ∧
      h.linkEnd? q.other = some far ∧ h.peerSend q data =
        (.accepted n, h.setEnd q.other { far with buffer := far.buffer ++ data.take n }) := by
  unfold peerSend
  split
  · exact Or.inl ⟨rfl, by simp⟩
  · rename_i l present
    have opposite : h.links.get? q.other.link = some l := present
    dsimp only
    split
    · exact Or.inl ⟨rfl, by simp⟩
    · rename_i near
      split
      · exact Or.inl ⟨rfl, by simp⟩
      · have fitting : data.take (data.take (l.room q.side)).length =
            data.take (l.room q.side) := by
          rw [List.length_take, ← List.take_take, List.take_length]
        refine Or.inr ⟨_, _, (data.take (l.room q.side)).length, linkEnd?_of_link present,
          by simpa using near, linkEnd?_of_link opposite, ?_⟩
        rw [← setLink_setEnd opposite, fitting]
        rfl

/-- What others receive is taken from the front of what waits at their end. -/
theorem peerReceive_cases (h : Host) (q : EndId) (max : Option Nat) :
    (h.peerReceive q max).2 = h ∨
    ∃ linkEnd n, h.linkEnd? q = some linkEnd ∧
      (h.peerReceive q max).2 =
        h.setEnd q { linkEnd with buffer := linkEnd.buffer.drop n } := by
  unfold peerReceive
  split
  · exact Or.inl rfl
  · rename_i l present
    dsimp only
    split
    · exact Or.inl rfl
    · exact Or.inr ⟨_, _, linkEnd?_of_link present, setLink_setEnd present _⟩

theorem failTransfers_cases (h : Host) (q : EndId) (d : Direction) (faults : List Fault) :
    (h.failTransfers q d faults).2 = h ∨
    ∃ linkEnd, h.linkEnd? q = some linkEnd ∧ (h.failTransfers q d faults).2 =
      h.setEnd q (linkEnd.setFaults (linkEnd.faults d ++ faults) d) := by
  unfold failTransfers
  split
  · exact Or.inl rfl
  · rename_i linkEnd present
    exact Or.inr ⟨linkEnd, present, rfl⟩

/-- Others close an end after they have let go of the descriptor, if they have
one, that they connected from it. -/
theorem peerClose_cases (h : Host) (q : EndId) :
    ((h.peerClose q).2 = h ∧ h.linkEnd? q = none) ∨ ∃ closed, h.Releases (· = q) closed ∧
      (∀ p, closed.isNonblocking p = h.isNonblocking p) ∧
      (h.peerClose q).2 = closed.closeEnd q := by
  unfold peerClose
  split
  · rename_i missing
    exact Or.inl ⟨rfl, linkEnd?_of_none missing⟩
  · refine Or.inr ?_
    split
    · rename_i d found
      have near : d.endId = q := by simpa using List.find?_some found
      subst near
      have forgets : h.Releases (· = d.endId) { h with connectors := h.connectors.erase d } :=
        .of_frame (.of_calls rfl) rfl rfl rfl rfl
      exact ⟨_, forgets.trans (releases_close _ d), isNonblocking_close _ d, rfl⟩
    · exact ⟨h, .refl h _, fun _ => rfl, rfl⟩

/-- Who connects from outside meets an outcome, and makes a link if there is a
listener. -/
theorem peerConnect_cases (h : Host) (name : Bytes) (plan : LinkPlan) :
    (h.peerConnect name plan).2 = h ∨
    (h.peerConnect name plan).2 = (h.takeFault .connect).2 ∨
    ∃ listener d connectors nextDescriptor descriptors, (h.peerConnect name plan).2 =
      { (h.takeFault .connect).2.addLink listener plan with
        descriptors, nextDescriptor, connectors := d :: connectors } := by
  unfold peerConnect
  split
  · exact Or.inl rfl
  · refine Or.inr ?_
    split
    · rename_i fault
      rw [fault]
      exact Or.inl rfl
    · rename_i fault
      rw [fault]
      split
      · exact Or.inl rfl
      · exact Or.inr ⟨_, _, _, _, _, rfl⟩

theorem releases_peerSend (h : Host) (q : EndId) (data : Bytes) :
    h.Releases (· = q.other) (h.peerSend q data).2 := by
  rcases h.peerSend_cases q data with ⟨same, _⟩ | ⟨_, _, _, _, _, _, sent⟩
  · rw [same]
    exact .refl h _
  · rw [sent]
    exact h.releases_setEnd q.other _

theorem releases_peerReceive (h : Host) (q : EndId) (max : Option Nat) :
    h.Releases (· = q) (h.peerReceive q max).2 := by
  rcases h.peerReceive_cases q max with same | ⟨_, _, _, took⟩
  · rw [same]
    exact .refl h _
  · rw [took]
    exact h.releases_setEnd q _

theorem releases_failTransfers (h : Host) (q : EndId) (d : Direction) (faults : List Fault) :
    h.Releases (· = q) (h.failTransfers q d faults).2 := by
  rcases h.failTransfers_cases q d faults with same | ⟨_, _, set⟩
  · rw [same]
    exact .refl h _
  · rw [set]
    exact h.releases_setEnd q _

theorem releases_peerClose (h : Host) (q : EndId) : h.Releases (· = q) (h.peerClose q).2 := by
  rcases h.peerClose_cases q with ⟨same, _⟩ | ⟨closed, released, _, closes⟩
  · rw [same]
    exact .refl h _
  · rw [closes]
    exact released.trans (closed.releases_closeEnd q)

/-- What others do is no call of the program, unless it closes what they hold. -/
theorem letsGo_act (h : Host) (action : PeerAction) : h.LetsGo (h.act action).2 := by
  cases action with
  | send q data => exact (h.releases_peerSend q data).calls
  | receive q max => exact (h.releases_peerReceive q max).calls
  | close q => exact (h.releases_peerClose q).calls
  | connect name link capacity =>
    have taken := (h.releases_takeFault (fun _ => False) .connect).calls
    rcases h.peerConnect_cases name ⟨link, capacity⟩ with same | met | ⟨_, _, _, _, _, connects⟩
    · rw [act, same]
      exact .of_calls rfl
    · rw [act, met]
      exact taken
    · rw [act, connects]
      exact taken
  | failCalls => exact .of_calls rfl
  | failTransfers q d faults => exact (h.releases_failTransfers q d faults).calls

end Host

end LocalPipe
