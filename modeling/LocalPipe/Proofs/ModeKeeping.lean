import LocalPipe.Proofs.Fleet
import LocalPipe.Proofs.Frames
import LocalPipe.Proofs.Outsiders

namespace LocalPipe

/-- Whether a call puts an end into blocking mode. -/
def Call.clears (p : EndId) : Call → Bool
  | .setMode d nonblocking => !nonblocking && decide (d.endId = p)
  | _ => false

namespace Host

/-- No call in between has put an end into blocking mode. -/
def Uncleared (h : Host) (p : EndId) (h' : Host) : Prop :=
  ∃ later, h'.calls = later ++ h.calls ∧ ∀ call ∈ later, call.clears p = false

/-- The mode of an end is as it was, and has not been cleared in between. Nobody has
appointed anything new. -/
structure KeepsMode (h : Host) (p : EndId) (h' : Host) : Prop where
  mode : h'.isNonblocking p = h.isNonblocking p
  uncleared : h.Uncleared p h'
  appointments : h'.appointments ⊆ h.appointments

/-- Nobody is to make a link in place of one with an end in non-blocking mode. -/
def Spares (h : Host) (p : EndId) : Prop :=
  h.isNonblocking p = true → h.Expects fun action => action.makes p.link = false

variable {h h' h'' : Host} {p : EndId} {d : Descriptor}

theorem Uncleared.of_calls (calls : h'.calls = h.calls) : h.Uncleared p h' :=
  Makes.of_calls calls

theorem Uncleared.of_record (call : Call) (other : call.clears p = false)
    (calls : h'.calls = call :: h.calls) : h.Uncleared p h' :=
  Makes.of_record call other calls

theorem Uncleared.trans (first : h.Uncleared p h') (second : h'.Uncleared p h'') :
    h.Uncleared p h'' :=
  Makes.trans first second

theorem Uncleared.suffix (uncleared : h.Uncleared p h') : h.calls <:+ h'.calls :=
  Makes.calls_suffix uncleared

namespace KeepsMode

theorem refl (h : Host) (p : EndId) : h.KeepsMode p h :=
  ⟨rfl, .of_calls rfl, List.Subset.refl _⟩

theorem trans (first : h.KeepsMode p h') (second : h'.KeepsMode p h'') : h.KeepsMode p h'' where
  mode := second.mode.trans first.mode
  uncleared := first.uncleared.trans second.uncleared
  appointments := List.Subset.trans second.appointments first.appointments

theorem of_mode (mode : h'.isNonblocking p = h.isNonblocking p) (calls : h'.calls = h.calls)
    (appointments : h'.appointments = h.appointments) : h.KeepsMode p h' :=
  ⟨mode, .of_calls calls, by rw [appointments]; exact List.Subset.refl _⟩

theorem of_frame (links : h'.links = h.links) (calls : h'.calls = h.calls)
    (appointments : h'.appointments = h.appointments) : h.KeepsMode p h' :=
  .of_mode (isNonblocking_congr (linkEnd?_congr (by rw [links]))) calls appointments

theorem of_record (call : Call) (other : call.clears p = false) (links : h'.links = h.links)
    (calls : h'.calls = call :: h.calls) (appointments : h'.appointments = h.appointments) :
    h.KeepsMode p h' :=
  ⟨isNonblocking_congr (linkEnd?_congr (by rw [links])), .of_record call other calls,
    by rw [appointments]; exact List.Subset.refl _⟩

theorem record (kept : h.KeepsMode p h') {call : Call} (other : call.clears p = false) :
    h.KeepsMode p (h'.record call) :=
  kept.trans (.of_record call other rfl rfl rfl)

theorem log (kept : h.KeepsMode p h') (event : LogEvent) : h.KeepsMode p (h'.log event) :=
  kept.trans (.of_frame rfl rfl rfl)

theorem spares (kept : h.KeepsMode p h') (spares : h.Spares p) : h'.Spares p := by
  intro set
  rw [kept.mode] at set
  exact (spares set).of_subset kept.appointments

end KeepsMode

theorem keepsMode_setEnd {q : EndId} {before after : LinkEnd} (present : h.linkEnd? q = some before)
    (same : after.nonblocking = before.nonblocking) (p : EndId) :
    h.KeepsMode p (h.setEnd q after) :=
  .of_mode (isNonblocking_setEnd present same p) (by simp) (by simp)

theorem keepsMode_closeEnd (h : Host) (q p : EndId) : h.KeepsMode p (h.closeEnd q) := by
  unfold closeEnd
  split
  · rename_i linkEnd present
    exact keepsMode_setEnd present (by rfl) p
  · exact .refl h p

theorem keepsMode_close (h : Host) (d : Descriptor) (p : EndId) : h.KeepsMode p (h.close d) := by
  have recorded : h.KeepsMode p
      { h.record (.close d) with descriptors := h.descriptors.erase d } :=
    ((KeepsMode.refl h p).record (by rfl)).trans (.of_frame rfl rfl rfl)
  unfold close
  dsimp only
  split
  · exact recorded
  · exact recorded.trans (keepsMode_closeEnd _ _ p)

theorem keepsMode_takeFault (h : Host) (point : FaultPoint) (p : EndId) :
    h.KeepsMode p (h.takeFault point).2 := by
  rw [takeFault_frame]
  exact .of_frame rfl rfl rfl

theorem KeepsMode.of_takeFault {point : FaultPoint} {outcome : Option Errno}
    (taken : h.takeFault point = (outcome, h')) : h.KeepsMode p h' := by
  have kept := keepsMode_takeFault h point p
  rwa [taken] at kept

theorem calls_of_takeFault {point : FaultPoint} {outcome : Option Errno}
    (taken : h.takeFault point = (outcome, h')) : h'.calls = h.calls := by
  obtain ⟨_, rfl⟩ := frame_of_takeFault taken
  rfl

theorem keepsMode_closeListener (h : Host) (listener : Nat) (p : EndId) :
    h.KeepsMode p (h.closeListener listener) := by
  have closes : ∀ (names : List String) (mid : Host), h.KeepsMode p mid →
      h.KeepsMode p (names.foldl (fun h name => h.closeEnd ⟨name, .b⟩) mid) := by
    intro names
    induction names with
    | nil => exact fun mid kept => kept
    | cons name rest ih =>
      intro mid kept
      exact ih _ (kept.trans (keepsMode_closeEnd mid ⟨name, .b⟩ p))
  have erased : h.KeepsMode p { h with listeners := h.listeners.erase listener } :=
    .of_frame rfl rfl rfl
  exact (closes _ _ erased).record (by rfl)

theorem keepsMode_unlink (h : Host) (path : Bytes) (p : EndId) :
    h.KeepsMode p (h.unlink path).2 := by
  rw [unlink_frame]
  exact .of_frame rfl rfl rfl

theorem keepsMode_getMode (h : Host) (d : Descriptor) (p : EndId) :
    h.KeepsMode p (h.getMode d).2 := by
  unfold getMode
  split
  · rename_i fault
    exact (KeepsMode.of_takeFault fault).record (by rfl)
  · rename_i fault
    exact .of_takeFault fault

/-- A link that is made anew does no harm to an end in blocking mode: its own ends
begin in that mode. -/
theorem keepsMode_addLink (listener : Nat) (plan : LinkPlan)
    (apart : h.isNonblocking p = true → plan.name ≠ p.link) :
    h.KeepsMode p (h.addLink listener plan) := by
  refine .of_mode ?_ rfl rfl
  have links : (h.addLink listener plan).links.get? p.link =
      (h.setLink plan.name { capacity := plan.capacity }).links.get? p.link := rfl
  rw [get?_setLink] at links
  by_cases near : plan.name = p.link
  · have blocking : h.isNonblocking p = false := by
      cases mode : h.isNonblocking p with
      | false => rfl
      | true => exact absurd near (apart mode)
    rw [if_pos near] at links
    rw [isNonblocking_of_link links, blocking]
    cases p.side <;> rfl
  · rw [if_neg near] at links
    exact isNonblocking_congr (linkEnd?_congr links)

theorem Reads.keepsMode (reads : h.Reads d h') (p : EndId) : h.KeepsMode p h' := by
  refine ⟨reads.isNonblocking_eq p, ?_, by rw [reads.rest]; exact List.Subset.refl _⟩
  induction reads with
  | start => exact .of_calls rfl
  | @read mid n _ ih => exact ih.trans (.of_record _ rfl (mid.calls_read d n))
  | log event _ ih => exact ih

theorem Writes.keepsMode (writes : h.Writes d h') (p : EndId) : h.KeepsMode p h' := by
  refine ⟨writes.isNonblocking_eq p, ?_, by rw [writes.rest]; exact List.Subset.refl _⟩
  induction writes with
  | start => exact .of_calls rfl
  | @write mid data _ ih => exact ih.trans (.of_record _ rfl (mid.calls_write d data))
  | log event _ ih => exact ih

theorem keepsMode_peerConnect {name : Bytes} {plan : LinkPlan}
    (apart : h.isNonblocking p = true → plan.name ≠ p.link) :
    h.KeepsMode p (h.peerConnect name plan).2 := by
  have taken := keepsMode_takeFault h .connect p
  rcases h.peerConnect_cases name plan with same | met | ⟨listener, _, _, _, _, connects⟩
  · rw [same]
    exact .refl h p
  · rw [met]
    exact taken
  · have made := taken.trans (keepsMode_addLink listener plan (taken.mode ▸ apart))
    rw [connects]
    exact made.trans (.of_frame rfl rfl rfl)

/-- What others do keeps the mode of an end, unless they make its link anew. -/
theorem keepsMode_act {action : PeerAction}
    (spares : h.isNonblocking p = true → action.makes p.link = false) :
    h.KeepsMode p (h.act action).2 := by
  cases action with
  | send q data =>
    rcases h.peerSend_cases q data with ⟨same, _⟩ | ⟨_, _, _, _, _, far, sent⟩
    · rw [act, same]
      exact .refl h p
    · rw [act, sent]
      exact keepsMode_setEnd far (by rfl) p
  | receive q max =>
    rcases h.peerReceive_cases q max with same | ⟨_, _, near, took⟩
    · rw [act, same]
      exact .refl h p
    · rw [act, took]
      exact keepsMode_setEnd near (by rfl) p
  | close q =>
    rw [act]
    unfold peerClose
    split
    · exact .refl h p
    · split
      · rename_i d _
        have forgot : h.KeepsMode p { h with connectors := h.connectors.erase d } :=
          .of_frame rfl rfl rfl
        exact (forgot.trans (keepsMode_close _ d p)).trans (keepsMode_closeEnd _ q p)
      · exact keepsMode_closeEnd h q p
  | connect name link capacity =>
    refine keepsMode_peerConnect fun set => ?_
    simpa [PeerAction.makes] using spares set
  | failCalls point outcomes => exact .of_frame rfl rfl rfl
  | failTransfers q d faults =>
    rcases h.failTransfers_cases q d faults with same | ⟨_, near, set⟩
    · rw [act, same]
      exact .refl h p
    · rw [act, set]
      exact keepsMode_setEnd near (by cases d <;> rfl) p

theorem Waits.keepsMode (waits : h.Waits h') (spares : h.Spares p) : h.KeepsMode p h' := by
  induction waits with
  | start => exact .refl h p
  | @idle mid after _ idles ih =>
    obtain ⟨later, calls, wait⟩ := idles.calls
    have mode : after.isNonblocking p = mid.isNonblocking p :=
      isNonblocking_congr (linkEnd?_congr (by rw [idles.links]))
    refine ih.trans ⟨mode, ⟨later, calls, fun call member => ?_⟩, idles.appointments⟩
    have passes := wait call member
    cases call <;> simp_all [Call.isWait, Call.clears]
  | @act mid a action _ member acts ih =>
    have acted : mid.KeepsMode p (mid.act action).2 := by
      refine keepsMode_act fun set => ?_
      rw [ih.mode] at set
      exact spares set a member action acts
    exact (ih.trans acted).record (by rfl)

/-- Connecting keeps the mode of an end, unless the planned link is its own. -/
theorem keepsMode_connect (path : Bytes)
    (apart : h.isNonblocking p = true → h.linkPlan.name ≠ p.link) :
    h.KeepsMode p (h.connect path).2 := by
  unfold connect
  split
  · exact .refl h p
  · have plan := h.linkPlan_takeFault .connect
    split
    · rename_i fault
      exact (KeepsMode.of_takeFault fault).record (by rfl)
    · rename_i mid fault
      have taken : h.KeepsMode p mid := .of_takeFault fault
      rw [fault] at plan
      split
      · exact taken.record (by rfl)
      · rename_i listener _
        have made := taken.trans (keepsMode_addLink listener mid.linkPlan fun set => by
          rw [plan]
          exact apart (taken.mode ▸ set))
        exact made.trans (.of_record (.connect (.ok _)) rfl rfl rfl rfl)

theorem keepsMode_accept (h : Host) (listener : Nat) (p : EndId) :
    h.KeepsMode p (h.accept listener).2 := by
  unfold accept
  split
  · rename_i fault
    exact (KeepsMode.of_takeFault fault).record (by rfl)
  · rename_i fault
    have taken : h.KeepsMode p _ := .of_takeFault fault
    split
    · exact taken.trans (.of_record (.accept (.ok _)) rfl rfl rfl rfl)
    · exact taken.record (by rfl)

theorem keepsMode_setListenerMode (h : Host) (p : EndId) :
    h.KeepsMode p h.setListenerMode.2 := by
  unfold setListenerMode
  split
  · rename_i fault
    exact (KeepsMode.of_takeFault fault).record (by rfl)
  · rename_i fault
    exact .of_takeFault fault

theorem keepsMode_stat (h : Host) (path : Bytes) (p : EndId) :
    h.KeepsMode p (h.stat path).2 := by
  rw [stat_frame]
  exact .of_frame rfl rfl rfl

theorem keepsMode_listen (h : Host) (path : Bytes) (p : EndId) :
    h.KeepsMode p (h.listen path).2 := by
  rw [listen_frame]
  exact .of_frame rfl rfl rfl

theorem keepsMode_duplicate (h : Host) (q p : EndId) : h.KeepsMode p (h.duplicate q).2 := by
  unfold duplicate
  split
  · rename_i fault
    exact .of_takeFault fault
  · rename_i fault
    exact (KeepsMode.of_takeFault fault).trans (.of_frame rfl rfl rfl)

end Host

open Host

variable {h h' : Host} {p : EndId}

theorem Transport.keepsMode_transmitUntil (d : Descriptor) (moment : Nat) (data : Bytes)
    (spares : h.Spares p) : h.KeepsMode p (transmitUntil d moment data h).2 := by
  have writes {data : Bytes} {h h' : Host} {result : Except Errno Nat}
      (answer : h.write d data = (result, h')) : h.KeepsMode p h' :=
    (Writes.of_write answer).keepsMode p
  have waits {h h' : Host} {timeout : Option Duration} {result : Except Errno Nat}
      (spares : h.Spares p)
      (answer : h.waitReady [.handle ⟨d, .writable⟩] timeout = (result, h')) :
      h.KeepsMode p h' := by
    have waited := h.waits_waitReady [.handle ⟨d, .writable⟩] timeout
    rw [answer] at waited
    exact waited.keepsMode spares
  fun_induction transmitUntil d moment data h with
  | case1 h => exact .refl h p
  | case2 data h _ h' answer => exact writes answer
  | case3 data h _ n h' answer ih =>
    have wrote := writes answer
    exact wrote.trans (ih (wrote.spares spares))
  | case4 data h _ h' answer late => exact writes answer
  | case5 data h _ h' answer early h'' wait =>
    have wrote := writes answer
    exact wrote.trans (waits (wrote.spares spares) wait)
  | case6 data h _ h' answer early n h'' wait ih =>
    have wrote := writes answer
    have waited := wrote.trans (waits (wrote.spares spares) wait)
    exact waited.trans (ih (waited.spares spares))
  | case7 data h _ h' answer early e h'' wait =>
    have wrote := writes answer
    exact wrote.trans (waits (wrote.spares spares) wait)
  | case8 data h _ h' answer ih =>
    have wrote := writes answer
    exact wrote.trans (ih (wrote.spares spares))
  | case9 data h _ e h' _ _ answer => exact writes answer

theorem keepsMode_acceptUntil (listener moment : Nat) (spares : h.Spares p) :
    h.KeepsMode p (acceptUntil listener moment h).2 := by
  have accepts {h h' : Host} {result : Except Errno Descriptor}
      (answer : h.accept listener = (result, h')) : h.KeepsMode p h' := by
    have kept := h.keepsMode_accept listener p
    rwa [answer] at kept
  have waits {h h' : Host} {timeout : Option Duration} {result : Except Errno Nat}
      (spares : h.Spares p)
      (answer : h.waitReady [.listener listener] timeout = (result, h')) : h.KeepsMode p h' := by
    have waited := h.waits_waitReady [.listener listener] timeout
    rw [answer] at waited
    exact waited.keepsMode spares
  fun_induction acceptUntil listener moment h with
  | case1 h d h' answer => exact accepts answer
  | case2 h h' answer late => exact accepts answer
  | case3 h h' answer early h'' wait =>
    have asked := accepts answer
    exact asked.trans (waits (asked.spares spares) wait)
  | case4 h h' answer early n h'' wait ih =>
    have asked := accepts answer
    have waited := asked.trans (waits (asked.spares spares) wait)
    exact waited.trans (ih (waited.spares spares))
  | case5 h h' answer early e h'' wait =>
    have asked := accepts answer
    exact asked.trans (waits (asked.spares spares) wait)
  | case6 h h' answer ih =>
    have asked := accepts answer
    exact asked.trans (ih (asked.spares spares))
  | case7 h e h' _ _ answer => exact accepts answer

theorem keepsMode_acceptWithin {listener : Nat} {timeout : Duration}
    {answer : Except IoError Descriptor} (spares : h.Spares p)
    (run : acceptWithin listener timeout h = .ok answer h') : h.KeepsMode p h' := by
  obtain ⟨listens, h₁, switched, rest⟩ := Action.bind_ok.mp run
  have first := h.keepsMode_setListenerMode p
  rw [Action.call_ok.mp switched] at first
  cases listens with
  | error e =>
    cases rest
    exact first
  | ok =>
    obtain ⟨moment, h₂, timed, accepts⟩ := Action.bind_ok.mp rest
    have same := Action.host_of_deadline timed
    subst same
    have second := keepsMode_acceptUntil listener moment (first.spares spares)
    rw [Action.call_ok.mp accepts] at second
    exact first.trans second

/-- A tick only reads and writes. -/
theorem Connection.Ticked.keepsMode {c : Connection} {q : Queues} {t : Connection.Tick}
    (ticked : c.Ticked q h t) (p : EndId) : h.KeepsMode p t.host := by
  obtain ⟨mid, received, sent⟩ := ticked.halves
  exact (received.reads.keepsMode p).trans (sent.writes.keepsMode p)

namespace Endpoint

theorem keepsMode_unbind (ep : Endpoint) (h : Host) (p : EndId) :
    h.KeepsMode p (ep.unbind h).2 := by
  unfold unbind
  split
  · exact .refl h p
  · rename_i bound _
    have closed := h.keepsMode_closeListener bound.listener p
    have unlinked := closed.trans (keepsMode_unlink _ bound.path p)
    dsimp only
    split
    · rename_i answer
      rw [answer] at unlinked
      exact unlinked
    · rename_i answer
      rw [answer] at unlinked
      exact unlinked.log _

theorem keepsMode_removeStaleSocket (path : Bytes) (h : Host) (p : EndId) :
    h.KeepsMode p (removeStaleSocket path h).2 := by
  have looked := h.keepsMode_stat path p
  unfold removeStaleSocket
  split
  · exact .refl h p
  · split
    · rename_i answer
      rw [answer] at looked
      exact looked
    · rename_i answer
      rw [answer] at looked
      exact looked
    · rename_i h₁ answer
      rw [answer] at looked
      have removed := looked.trans (h₁.keepsMode_unlink path p)
      split
      · rename_i answer'
        rw [answer'] at removed
        exact removed
      · rename_i answer'
        rw [answer'] at removed
        exact removed.log _
    · rename_i answer
      rw [answer] at looked
      exact looked

theorem keepsMode_writeImmediately {ep : Endpoint} {data : Bytes} {u : Unit} (spares : h.Spares p)
    (run : ep.writeImmediately data h = .ok u h') : h.KeepsMode p h' := by
  unfold writeImmediately at run
  cases connected : ep.connection with
  | none =>
    simp only [connected] at run
    cases run
  | some c =>
    cases present : c.writer with
    | none =>
      simp only [connected, present] at run
      cases run
    | some w =>
      simp only [connected, present] at run
      split at run
      · cases run
      · obtain ⟨answer, mid, writes, last⟩ := Action.bind_ok.mp run
        obtain ⟨moment, h₁, timed, sends⟩ := Action.bind_ok.mp writes
        obtain ⟨left, h₂, transmits, answers⟩ := Action.bind_ok.mp sends
        have same := Action.host_of_deadline timed
        subst same
        have sent := Transport.keepsMode_transmitUntil c.transport.descriptor moment data spares
        rw [Action.call_ok.mp transmits] at sent
        cases answers
        cases left with
        | error e => cases last
        | ok n =>
          by_cases whole : data.length - n ≠ data.length
          · simp only [Except.map, if_pos whole] at last
            cases last
          · simp only [Except.map, if_neg whole] at last
            cases last
            exact sent

end Endpoint

end LocalPipe
