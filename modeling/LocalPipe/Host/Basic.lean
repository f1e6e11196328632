import LocalPipe.Host.FileTree
import LocalPipe.Host.Log
import LocalPipe.Host.Records

namespace LocalPipe

/-- Something that others do at a moment to come, all of it at once. -/
structure Appointment where
  due : Nat
  actions : List PeerAction
deriving DecidableEq, Repr

/-- A link by the name it is to have, and its capacity. -/
structure LinkPlan where
  name : String := "link"
  capacity : Nat := 65536
deriving DecidableEq, Repr

/-- The system that a program runs on: its clock, the links with the
descriptors on their ends, the listeners with the links that wait to be
accepted, the file tree, the faults ahead, and the appointments of others.
The calls made and the events logged are kept with the latest first. -/
structure Host where
  now : Nat := 0
  /-- The polls that are answered before every further one is refused. -/
  patience : Nat := 100
  links : Table String Link := {}
  descriptors : List Descriptor := []
  nextDescriptor : Nat := 0
  /-- The descriptors that others hold on the ends they connected from. -/
  connectors : List Descriptor := []
  listeners : Table Nat (List String) := {}
  nextListener : Nat := 0
  files : FileTree := {}
  callFaults : Table FaultPoint (List (Option Errno)) := {}
  appointments : List Appointment := []
  /-- The moments at which a signal comes. It interrupts a poll that waits then. -/
  signals : List Nat := []
  /-- The link that the next connect makes. -/
  linkPlan : LinkPlan := {}
  stdin : EndId := ⟨"stdin", .a⟩
  stdout : EndId := ⟨"stdout", .a⟩
  calls : List Call := []
  events : List LogEvent := []

instance : Inhabited Host := ⟨{}⟩

namespace Host

def record (h : Host) (call : Call) : Host :=
  { h with calls := call :: h.calls }

def log (h : Host) (event : LogEvent) : Host :=
  { h with events := event :: h.events }

def setLink (h : Host) (name : String) (l : Link) : Host :=
  { h with links := h.links.set name l }

def linkEnd? (h : Host) (p : EndId) : Option LinkEnd :=
  (h.links.get? p.link).map (·.endAt p.side)

def setEnd (h : Host) (p : EndId) (linkEnd : LinkEnd) : Host :=
  match h.links.get? p.link with
  | some l => h.setLink p.link (l.setEnd linkEnd p.side)
  | none => h

/-- Whether reads and writes on an end answer at once. -/
def isNonblocking (h : Host) (p : EndId) : Bool :=
  match h.linkEnd? p with
  | some linkEnd => linkEnd.nonblocking
  | none => false

/-- The faults ahead of an end's reads or writes. -/
def faults (h : Host) (p : EndId) (d : Direction) : List Fault :=
  match h.linkEnd? p with
  | some linkEnd => linkEnd.faults d
  | none => []

def closeEnd (h : Host) (p : EndId) : Host :=
  match h.linkEnd? p with
  | some linkEnd => h.setEnd p linkEnd.close
  | none => h

/-- A new descriptor on an end. -/
def openDescriptor (h : Host) (p : EndId) : Descriptor × Host :=
  let d := ⟨h.nextDescriptor, p⟩
  (d, { h with descriptors := d :: h.descriptors, nextDescriptor := h.nextDescriptor + 1 })

/-- Closes a descriptor. The end closes with the last one on it. -/
def close (h : Host) (d : Descriptor) : Host :=
  let h := { h.record (.close d) with descriptors := h.descriptors.erase d }
  if h.descriptors.any (·.endId = d.endId) then h else h.closeEnd d.endId

/-- The outcome set for the next call of a kind: none, if it is performed. -/
def takeFault (h : Host) (point : FaultPoint) : Option Errno × Host :=
  match h.callFaults.get? point with
  | some (outcome :: rest) => (outcome, { h with callFaults := h.callFaults.set point rest })
  | _ => (none, h)

/-- A host without its records. -/
def forget (h : Host) : Host :=
  { h with calls := [], events := [] }

/-- Whether the next call of a kind is made to fail. -/
def refuses (h : Host) (point : FaultPoint) : Bool :=
  (h.takeFault point).1.isSome

/-- Setting an end changes the links, and nothing else. -/
theorem setEnd_frame (h : Host) (p : EndId) (linkEnd : LinkEnd) :
    h.setEnd p linkEnd = { h with links := (h.setEnd p linkEnd).links } := by
  unfold setEnd
  split <;> rfl

theorem closeEnd_frame (h : Host) (p : EndId) :
    h.closeEnd p = { h with links := (h.closeEnd p).links } := by
  unfold closeEnd
  split
  · exact h.setEnd_frame p _
  · rfl

theorem close_frame (h : Host) (d : Descriptor) :
    h.close d = { h with
      links := (h.close d).links
      descriptors := h.descriptors.erase d
      calls := .close d :: h.calls } := by
  simp only [close]
  split
  · rfl
  · exact closeEnd_frame _ d.endId

/-- Meeting an outcome takes it off those that are ahead, and does nothing else. -/
theorem takeFault_frame (h : Host) (point : FaultPoint) :
    (h.takeFault point).2 = { h with callFaults := (h.takeFault point).2.callFaults } := by
  unfold takeFault
  split <;> rfl

theorem frame_of_takeFault {h h' : Host} {point : FaultPoint} {outcome : Option Errno}
    (taken : h.takeFault point = (outcome, h')) : ∃ callFaults, h' = { h with callFaults } := by
  have frame := h.takeFault_frame point
  rw [taken] at frame
  exact ⟨_, frame⟩

section Fields

variable (h : Host) (p : EndId) (linkEnd : LinkEnd) (d : Descriptor) (point : FaultPoint)

@[simp] theorem patience_record (call : Call) : (h.record call).patience = h.patience :=
  rfl

@[simp] theorem calls_log (event : LogEvent) : (h.log event).calls = h.calls :=
  rfl

@[simp] theorem patience_openDescriptor : (h.openDescriptor p).2.patience = h.patience :=
  rfl

@[simp] theorem calls_setEnd : (h.setEnd p linkEnd).calls = h.calls := by
  rw [setEnd_frame]

@[simp] theorem listeners_setEnd : (h.setEnd p linkEnd).listeners = h.listeners := by
  rw [setEnd_frame]

@[simp] theorem callFaults_setEnd : (h.setEnd p linkEnd).callFaults = h.callFaults := by
  rw [setEnd_frame]

@[simp] theorem appointments_setEnd : (h.setEnd p linkEnd).appointments = h.appointments := by
  rw [setEnd_frame]

theorem calls_close : (h.close d).calls = .close d :: h.calls := by
  rw [close_frame]

theorem descriptors_close : (h.close d).descriptors = h.descriptors.erase d := by
  rw [close_frame]

@[simp] theorem events_close : (h.close d).events = h.events := by
  rw [close_frame]

@[simp] theorem patience_takeFault : (h.takeFault point).2.patience = h.patience := by
  rw [takeFault_frame]

@[simp] theorem now_takeFault : (h.takeFault point).2.now = h.now := by
  rw [takeFault_frame]

@[simp] theorem links_takeFault : (h.takeFault point).2.links = h.links := by
  rw [takeFault_frame]

theorem linkPlan_takeFault : (h.takeFault point).2.linkPlan = h.linkPlan := by
  rw [takeFault_frame]

theorem signals_takeFault : (h.takeFault point).2.signals = h.signals := by
  rw [takeFault_frame]

theorem appointments_takeFault : (h.takeFault point).2.appointments = h.appointments := by
  rw [takeFault_frame]

end Fields

end Host

end LocalPipe
