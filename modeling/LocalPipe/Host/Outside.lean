import LocalPipe.Host.Calls

namespace LocalPipe.Host

/-- Puts bytes into the other end's buffer, as many as fit. -/
def peerSend (h : Host) (p : EndId) (data : Bytes) : PeerReply × Host :=
  match h.links.get? p.link with
  | none => (.noLink, h)
  | some l =>
    let far := l.endAt p.side.other
    if !(l.endAt p.side).isOpen then (.closed, h)
    else if !far.isOpen then (.failed .epipe, h)
    else
      let fitting := data.take (l.room p.side)
      (.accepted fitting.length,
        h.setLink p.link (l.setEnd { far with buffer := far.buffer ++ fitting } p.side.other))

/-- Takes bytes out of an end's buffer, all of them or up to a maximum. -/
def peerReceive (h : Host) (p : EndId) (max : Option Nat) : PeerReply × Host :=
  match h.links.get? p.link with
  | none => (.noLink, h)
  | some l =>
    let near := l.endAt p.side
    if !near.isOpen then (.closed, h)
    else
      let n := max.getD near.buffer.length
      let rest := near.buffer.drop n
      (.received (near.buffer.take n) (rest.isEmpty && !(l.endAt p.side.other).isOpen),
        h.setLink p.link (l.setEnd { near with buffer := rest } p.side))

/-- Closes an end, whoever else holds a descriptor on it. If others connected
from it, they close theirs first. -/
def peerClose (h : Host) (p : EndId) : PeerReply × Host :=
  match h.links.get? p.link with
  | none => (.noLink, h)
  | some _ =>
    match h.connectors.find? (·.endId = p) with
    | some d => (.done, ({ h with connectors := h.connectors.erase d }.close d).closeEnd p)
    | none => (.done, h.closeEnd p)

/-- Connects to a listener from outside. -/
def peerConnect (h : Host) (name : Bytes) (plan : LinkPlan) : PeerReply × Host :=
  match socketPathError? name with
  | some _ => (.failed .einval, h)
  | none =>
    match h.takeFault .connect with
    | (some e, h) => (.failed e, h)
    | (none, h) =>
      match h.listenerAt name with
      | .error e => (.failed e, h)
      | .ok listener =>
        let (d, h) := (h.addLink listener plan).openDescriptor ⟨plan.name, .a⟩
        (.connected, { h with connectors := d :: h.connectors })

/-- Adds to the faults ahead of an end's reads or writes. -/
def failTransfers (h : Host) (p : EndId) (d : Direction) (faults : List Fault) :
    PeerReply × Host :=
  match h.linkEnd? p with
  | none => (.noLink, h)
  | some linkEnd => (.done, h.setEnd p (linkEnd.setFaults (linkEnd.faults d ++ faults) d))

def act (h : Host) : PeerAction → PeerReply × Host
  | .send p data => h.peerSend p data
  | .receive p max => h.peerReceive p max
  | .close p => h.peerClose p
  | .connect name link capacity => h.peerConnect name ⟨link, capacity⟩
  | .failCalls point outcomes =>
    let ahead := (h.callFaults.get? point).getD []
    (.done, { h with callFaults := h.callFaults.set point (ahead ++ outcomes) })
  | .failTransfers p d faults => h.failTransfers p d faults

/-- One action of an appointment, as it is recorded. -/
def actRecorded (h : Host) (action : PeerAction) : Host :=
  let (reply, h) := h.act action
  h.record (.outside action reply)

/-- Keeps an appointment: the clock comes to its time, and all is done. -/
def keep (h : Host) (a : Appointment) : Host :=
  a.actions.foldl actRecorded { h with now := max h.now a.due }

/-- Puts an appointment behind the earlier ones and behind those due at the
same time that were made before it. -/
def appoint (a : Appointment) : List Appointment → List Appointment
  | [] => [a]
  | b :: rest => if b.due ≤ a.due then b :: appoint a rest else a :: b :: rest

/-- Makes an appointment for some time from now. -/
def schedule (h : Host) (after : Duration) (actions : List PeerAction) : Host :=
  { h with appointments := appoint ⟨h.now + after.nanos, actions⟩ h.appointments }

theorem peerConnect_frame (h : Host) (name : Bytes) (plan : LinkPlan) :
    (h.peerConnect name plan).2 = { h with
      links := (h.peerConnect name plan).2.links
      descriptors := (h.peerConnect name plan).2.descriptors
      nextDescriptor := (h.peerConnect name plan).2.nextDescriptor
      connectors := (h.peerConnect name plan).2.connectors
      listeners := (h.peerConnect name plan).2.listeners
      callFaults := (h.peerConnect name plan).2.callFaults } := by
  unfold peerConnect
  split
  · rfl
  · split
    · rename_i fault
      obtain ⟨_, rfl⟩ := frame_of_takeFault fault
      rfl
    · rename_i fault
      obtain ⟨_, rfl⟩ := frame_of_takeFault fault
      split <;> rfl

/-- What others do changes the links, the descriptors on their ends, who waits, and the faults
ahead, and nothing else but what is recorded. -/
theorem act_frame (h : Host) (action : PeerAction) : (h.act action).2 = { h with
    links := (h.act action).2.links
    descriptors := (h.act action).2.descriptors
    nextDescriptor := (h.act action).2.nextDescriptor
    connectors := (h.act action).2.connectors
    listeners := (h.act action).2.listeners
    callFaults := (h.act action).2.callFaults
    calls := (h.act action).2.calls } := by
  cases action with
  | connect name link capacity =>
    rw [act, peerConnect_frame]
  | failCalls => rfl
  | send | receive | close | failTransfers =>
    simp only [act, peerSend, peerReceive, peerClose, failTransfers]
    repeat' split
    all_goals first
      | rfl
      | rw [setEnd_frame]
      | rw [closeEnd_frame, close_frame]
      | rw [closeEnd_frame]

@[simp] theorem patience_act (h : Host) (action : PeerAction) :
    (h.act action).2.patience = h.patience := by
  rw [act_frame]

/-- What others do takes no time. -/
theorem now_act (h : Host) (action : PeerAction) : (h.act action).2.now = h.now := by
  rw [act_frame]

theorem signals_act (h : Host) (action : PeerAction) : (h.act action).2.signals = h.signals := by
  rw [act_frame]

/-- What others do changes no appointment. -/
theorem appointments_act (h : Host) (action : PeerAction) :
    (h.act action).2.appointments = h.appointments := by
  rw [act_frame]

@[simp] theorem patience_keep (h : Host) (a : Appointment) : (h.keep a).patience = h.patience := by
  suffices ∀ (actions : List PeerAction) (h : Host),
      (actions.foldl actRecorded h).patience = h.patience from this _ _
  intro actions
  induction actions with
  | nil => simp
  | cons action rest ih => intro h; simp [ih, actRecorded]

end LocalPipe.Host
