import LocalPipe.Proofs.Undisturbed
import LocalPipe.Proofs.Waits

namespace LocalPipe

namespace Host

variable {h h' : Host} {p q : EndId} {action : PeerAction} {l : Link}

theorem isOpen_congr (same : h'.linkEnd? p = h.linkEnd? p) : h'.isOpen p = h.isOpen p := by
  rw [isOpen, isOpen, same]

/-- Nobody's arrival changes a link that has another name. -/
theorem linkEnd?_peerConnect (h : Host) (name : Bytes) (plan : LinkPlan)
    (other : plan.name ≠ p.link) : (h.peerConnect name plan).2.linkEnd? p = h.linkEnd? p := by
  have taken := h.linkEnd?_takeFault .connect p
  rcases h.peerConnect_cases name plan with same | met | ⟨_, _, _, _, _, connects⟩
  · rw [same]
  · rw [met, taken]
  · rw [connects]
    refine Eq.trans (linkEnd?_congr ?_) taken
    have set := get?_setLink (h.takeFault .connect).2 plan.name p.link { capacity := plan.capacity }
    rw [if_neg other] at set
    exact set

/-- What others send comes behind what waits at the other end. -/
theorem linkEnd?_peerSend (h : Host) (q p : EndId) (data : Bytes) :
    (h.peerSend q data).2.linkEnd? p = (h.linkEnd? p).map fun e =>
      { e with buffer := e.buffer ++
          (Call.outside (.send q data) (h.peerSend q data).1).posted p.other } := by
  rcases h.peerSend_cases q data with ⟨same, refused⟩ | ⟨_, far, n, _, _, present, sent⟩
  · have nothing : (Call.outside (.send q data) (h.peerSend q data).1).posted p.other = [] := by
      cases answer : (h.peerSend q data).1 with
      | accepted n => exact absurd answer (refused n)
      | _ => rfl
    rw [same, nothing]
    simp
  · rw [sent, linkEnd?_setEnd]
    by_cases near : p = q.other
    · subst near
      simp [present, Call.posted, EndId.other_other]
    · have away : q ≠ p.other := by
        rintro rfl
        exact near (EndId.other_other p).symm
      rw [if_neg near]
      simp [Call.posted, away]

/-- Where nobody acts as an end or makes its link anew, only what is sent to it
is seen there. -/
theorem linkEnd?_act (h : Host) (action : PeerAction) (away : action.actor ≠ some p)
    (kept : action.makes p.link = false) :
    (h.act action).2.linkEnd? p = (h.linkEnd? p).map fun e =>
      { e with buffer := e.buffer ++ (Call.outside action (h.act action).1).posted p.other } := by
  have unsent : ∀ h' : Host, h'.linkEnd? p = h.linkEnd? p →
      h'.linkEnd? p = (h.linkEnd? p).map fun e => { e with buffer := e.buffer ++ [] } := by
    intro h' same
    simp [same]
  have other : ∀ q, action.actor = some q → p ≠ q := by
    rintro _ acts rfl
    exact away acts
  cases action with
  | send q data => exact h.linkEnd?_peerSend q p data
  | receive q max => exact unsent _ ((h.releases_peerReceive q max).ends p (other q rfl))
  | close q => exact unsent _ ((h.releases_peerClose q).ends p (other q rfl))
  | connect name link capacity =>
    have apart : link ≠ p.link := by simpa [PeerAction.makes] using kept
    exact unsent _ (h.linkEnd?_peerConnect name ⟨link, capacity⟩ apart)
  | failCalls => exact unsent _ rfl
  | failTransfers q d faults =>
    exact unsent _ ((h.releases_failTransfers q d faults).ends p (other q rfl))

theorem isOpen_setEnd {before after : LinkEnd} (present : h.linkEnd? q = some before)
    (same : after.isOpen = before.isOpen) (p : EndId) :
    (h.setEnd q after).isOpen p = h.isOpen p := by
  rw [isOpen, isOpen, linkEnd?_setEnd]
  by_cases near : p = q
  · subst near
    rw [if_pos rfl, present]
    exact same
  · rw [if_neg near]

theorem isOpen_peerClose (h : Host) (p : EndId) : (h.peerClose p).2.isOpen p = false := by
  rcases h.peerClose_cases p with ⟨same, missing⟩ | ⟨closed, _, _, closes⟩
  · rw [same, isOpen, missing]
  · rw [closes, isOpen, linkEnd?_closeEnd, if_pos rfl]
    cases closed.linkEnd? p <;> rfl

/-- An end stays open until somebody closes it, and then closed. -/
theorem isOpen_act (h : Host) (action : PeerAction) (kept : action.makes p.link = false) :
    (h.act action).2.isOpen p = (h.isOpen p && decide (action ≠ .close p)) := by
  have unclosed : (h.act action).2.isOpen p = h.isOpen p → action ≠ .close p →
      (h.act action).2.isOpen p = (h.isOpen p && decide (action ≠ .close p)) := by
    intro same other
    simp [same, other]
  cases action with
  | send q data =>
    refine unclosed ?_ (by simp)
    rcases h.peerSend_cases q data with ⟨same, _⟩ | ⟨_, _, _, _, _, far, sent⟩
    · rw [act, same]
    · rw [act, sent]
      exact isOpen_setEnd far (by rfl) p
  | receive q max =>
    refine unclosed ?_ (by simp)
    rcases h.peerReceive_cases q max with same | ⟨_, _, near, took⟩
    · rw [act, same]
    · rw [act, took]
      exact isOpen_setEnd near (by rfl) p
  | close q =>
    by_cases same : q = p
    · subst same
      have closed : (h.act (.close q)).2.isOpen q = false := h.isOpen_peerClose q
      simp [closed]
    · exact unclosed (isOpen_congr ((h.releases_peerClose q).ends p (Ne.symm same)))
        (by simpa using same)
  | connect name link capacity =>
    have other : link ≠ p.link := by simpa [PeerAction.makes] using kept
    exact unclosed (isOpen_congr (h.linkEnd?_peerConnect name ⟨link, capacity⟩ other)) (by simp)
  | failCalls => exact unclosed rfl (by simp)
  | failTransfers q d faults =>
    refine unclosed ?_ (by simp)
    rcases h.failTransfers_cases q d faults with same | ⟨_, near, set⟩
    · rw [act, same]
    · rw [act, set]
      exact isOpen_setEnd near (by cases d <;> rfl) p

/-- Nothing is sent from a closed end. -/
theorem posted_of_closed (closed : h.isOpen p = false) :
    (Call.outside action (h.act action).1).posted p = [] := by
  cases action with
  | send q data =>
    rcases h.peerSend_cases q data with ⟨_, refused⟩ | ⟨near, _, n, present, opened, _, sent⟩
    · rw [act]
      cases answer : (h.peerSend q data).1 with
      | accepted n => exact absurd answer (refused n)
      | _ => rfl
    · have other : q ≠ p := by
        rintro rfl
        rw [isOpen, present] at closed
        exact Bool.noConfusion (opened.symm.trans closed)
      rw [act, sent]
      simp [Call.posted, other]
  | _ => rfl

/-- Everything that others have appointed to do meets some condition. -/
def Expects (h : Host) (fine : PeerAction → Prop) : Prop :=
  ∀ a ∈ h.appointments, ∀ action ∈ a.actions, fine action

/-- Nobody else acts as an end, or makes its link anew. -/
def Unshared (p : EndId) (action : PeerAction) : Prop :=
  action.actor ≠ some p ∧ action.makes p.link = false

variable {mid : Host} {fine fine' : PeerAction → Prop}

theorem Expects.mono (expects : h.Expects fine) (wider : ∀ action, fine action → fine' action) :
    h.Expects fine' :=
  fun a member action acts => wider action (expects a member action acts)

theorem Expects.of_subset (expects : h.Expects fine) (fewer : h'.appointments ⊆ h.appointments) :
    h'.Expects fine :=
  fun a member => expects a (fewer member)

theorem Idles.posted_eq (idles : h.Idles h') (p : EndId) :
    posted p h'.calls = posted p h.calls := by
  obtain ⟨later, calls, waits⟩ := idles.calls
  have nothing : posted p later = [] := by
    simp only [posted, List.flatMap_eq_nil_iff, List.mem_reverse]
    intro call member
    have := waits call member
    cases call <;> simp_all [Call.isWait, Call.posted]
  rw [calls, posted_append, nothing, List.append_nil]

theorem posted_actRecorded (h : Host) (action : PeerAction) (p : EndId) :
    posted p (h.actRecorded action).calls =
      posted p h.calls ++ (Call.outside action (h.act action).1).posted p := by
  have recorded : (h.actRecorded action).calls = .outside action (h.act action).1 ::
    (h.act action).2.calls := rfl
  rw [recorded, posted_cons, (h.letsGo_act action).posted_eq p]

/-- While one waits, all that comes to an end that is not shared is what the
other end sends. -/
theorem Waits.linkEnd?_eq (waits : h.Waits h') (unshared : h.Expects (Unshared p)) :
    ∃ data, h'.linkEnd? p = ((h.linkEnd? p).map fun e => { e with buffer := e.buffer ++ data }) ∧
      posted p.other h'.calls = posted p.other h.calls ++ data := by
  induction waits with
  | start => exact ⟨[], by simp, by simp⟩
  | idle _ idles ih =>
    obtain ⟨data, grown, sent⟩ := ih
    exact ⟨data, (linkEnd?_congr (by rw [idles.links])).trans grown,
      (idles.posted_eq p.other).trans sent⟩
  | @act mid a action _ member acts ih =>
    obtain ⟨data, grown, sent⟩ := ih
    obtain ⟨away, kept⟩ := unshared a member action acts
    have acted : (mid.actRecorded action).linkEnd? p = _ := mid.linkEnd?_act action away kept
    refine ⟨data ++ (Call.outside action (mid.act action).1).posted p.other, ?_, ?_⟩
    · rw [acted, grown, Option.map_map]
      congr 1
      funext e
      simp
    · rw [posted_actRecorded, sent, List.append_assoc]

theorem Waits.survives (waits : h.Waits h') (unshared : h.Expects (Unshared p)) :
    h.Survives h' p := by
  obtain ⟨data, grown, _⟩ := waits.linkEnd?_eq unshared
  rw [Survives, grown]
  cases h.linkEnd? p with
  | none => exact .none
  | some e => exact .some ⟨rfl, rfl, fun d => by cases d <;> exact List.suffix_rfl⟩

theorem Waits.buffer_eq (waits : h.Waits h') (unshared : h.Expects (Unshared p))
    (here : h.linkEnd? p ≠ none) :
    ∃ data, h'.buffer p = h.buffer p ++ data ∧
      posted p.other h'.calls = posted p.other h.calls ++ data := by
  obtain ⟨data, grown, sent⟩ := waits.linkEnd?_eq unshared
  obtain ⟨e, present⟩ := Option.ne_none_iff_exists'.mp here
  rw [present, Option.map_some] at grown
  exact ⟨data, by rw [buffer, buffer, grown, present], sent⟩

/-- An end that nobody closes stays as it is. -/
theorem Waits.isOpen_eq (waits : h.Waits h')
    (kept : h.Expects fun action => action ≠ .close p ∧ action.makes p.link = false) :
    h'.isOpen p = h.isOpen p := by
  induction waits with
  | start => rfl
  | idle _ idles ih => exact (isOpen_congr (linkEnd?_congr (by rw [idles.links]))).trans ih
  | @act mid a action _ member acts ih =>
    obtain ⟨unclosed, same⟩ := kept a member action acts
    have acted : (mid.actRecorded action).isOpen p = _ := mid.isOpen_act action same
    rw [acted, ih]
    simp [unclosed]

/-- A closed end stays closed, and sends nothing. -/
theorem Waits.closed (waits : h.Waits h') (kept : h.Expects fun action => action.makes p.link = false)
    (closed : h.isOpen p = false) :
    h'.isOpen p = false ∧ posted p h'.calls = posted p h.calls := by
  induction waits with
  | start => exact ⟨closed, rfl⟩
  | idle _ idles ih =>
    exact ⟨(isOpen_congr (linkEnd?_congr (by rw [idles.links]))).trans ih.1,
      (idles.posted_eq p).trans ih.2⟩
  | @act mid a action _ member acts ih =>
    obtain ⟨still, sent⟩ := ih
    have acted : (mid.actRecorded action).isOpen p = _ :=
      mid.isOpen_act action (kept a member action acts)
    refine ⟨by rw [acted, still, Bool.false_and], ?_⟩
    rw [posted_actRecorded, posted_of_closed still, List.append_nil, sent]

end Host

end LocalPipe
