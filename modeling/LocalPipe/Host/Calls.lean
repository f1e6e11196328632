import LocalPipe.Host.Basic

namespace LocalPipe.Host

/-- Reads up to `n` bytes. -/
def read (h : Host) (d : Descriptor) (n : Nat) : Except Errno Bytes × Host :=
  match h.links.get? d.endId.link with
  | some l =>
    let (result, l) := l.read d.endId.side n
    (result, (h.setLink d.endId.link l).record (.read d n result))
  | none => (.error .ebadf, h.record (.read d n (.error .ebadf)))

/-- Writes some bytes. The answer is how many were accepted. -/
def write (h : Host) (d : Descriptor) (data : Bytes) : Except Errno Nat × Host :=
  match h.links.get? d.endId.link with
  | some l =>
    let (result, l) := l.write d.endId.side data
    (result, (h.setLink d.endId.link l).record (.write d data result))
  | none => (.error .ebadf, h.record (.write d data (.error .ebadf)))

/-- Asks whether a descriptor's end is non-blocking. -/
def getMode (h : Host) (d : Descriptor) : Except Errno Bool × Host :=
  match h.takeFault .getFlags with
  | (some e, h) => (.error e, h.record (.modeFault .getFlags d e))
  | (none, h) => (.ok (h.isNonblocking d.endId), h)

/-- Makes a descriptor's end non-blocking, or blocking again. The mode is
shared by all descriptors on the end. -/
def setMode (h : Host) (d : Descriptor) (nonblocking : Bool) : Except Errno Unit × Host :=
  match h.takeFault .setFlags with
  | (some e, h) => (.error e, h.record (.modeFault .setFlags d e))
  | (none, h) =>
    let h := match h.linkEnd? d.endId with
      | some linkEnd => h.setEnd d.endId { linkEnd with nonblocking }
      | none => h
    (.ok (), h.record (.setMode d nonblocking))

/-- Makes a listener answer at once, whether or not a peer waits. -/
def setListenerMode (h : Host) : Except Errno Unit × Host :=
  match h.takeFault .listenerMode with
  | (some e, h) => (.error e, h.record (.listenerFault e))
  | (none, h) => (.ok (), h)

/-- The longest path of a socket, and one byte more. -/
def socketPathLimit : Nat := 108

/-- What is wrong with a socket path before any call is made. -/
def socketPathError? (path : Bytes) : Option IoError :=
  if path.contains 0 then some .nulInSocketPath
  else if socketPathLimit ≤ path.length then some .socketPathTooLong
  else none

/-- Makes a link between a connector at side A and a listener, where side B
waits to be accepted. -/
def addLink (h : Host) (listener : Nat) (plan : LinkPlan) : Host :=
  let waiting := ((h.listeners.get? listener).getD []) ++ [plan.name]
  { h.setLink plan.name { capacity := plan.capacity } with
    listeners := h.listeners.set listener waiting }

/-- The listener behind a name. A socket that nobody listens on any more
refuses. -/
def listenerAt (h : Host) (path : Bytes) : Except Errno Nat :=
  if path = [] then .error .einval
  else
    match h.files.socketAt path with
    | .ok listener => if h.listeners.contains listener then .ok listener else .error .econnrefused
    | .error e => .error e

/-- Connects to a listener by name, over the link that is planned. -/
def connect (h : Host) (path : Bytes) : Except IoError Descriptor × Host :=
  match socketPathError? path with
  | some error => (.error error, h)
  | none =>
    match h.takeFault .connect with
    | (some e, h) => (.error (.os e), h.record (.connect (.error e)))
    | (none, h) =>
      match h.listenerAt path with
      | .error e => (.error (.os e), h.record (.connect (.error e)))
      | .ok listener =>
        let (d, h) := (h.addLink listener h.linkPlan).openDescriptor ⟨h.linkPlan.name, .a⟩
        (.ok d, h.record (.connect (.ok d)))

/-- Takes the link that has waited longest at a listener. -/
def accept (h : Host) (listener : Nat) : Except Errno Descriptor × Host :=
  match h.takeFault .accept with
  | (some e, h) => (.error e, h.record (.accept (.error e)))
  | (none, h) =>
    match h.listeners.get? listener with
    | some (name :: rest) =>
      let taken := { h with listeners := h.listeners.set listener rest }
      let (d, h) := taken.openDescriptor ⟨name, .b⟩
      (.ok d, h.record (.accept (.ok d)))
    | _ => (.error .eagain, h.record (.accept (.error .eagain)))

/-- Another descriptor on the end of standard input or output. -/
def duplicate (h : Host) (p : EndId) : Except Errno Descriptor × Host :=
  match h.takeFault .duplicate with
  | (some e, h) => (.error e, h)
  | (none, h) =>
    let (d, h) := h.openDescriptor p
    (.ok d, h)

/-- What is at a path. A symbolic link there is not followed. -/
def stat (h : Host) (path : Bytes) : Except Errno Node × Host :=
  match h.takeFault .stat with
  | (some e, h) => (.error e, h)
  | (none, h) => (h.files.stat path, h)

/-- A new socket at a path, with the next number. A name that is taken is an
address in use. The empty path makes a socket that has no name. -/
def bindSocket (h : Host) (path : Bytes) : Except Errno Nat × Host :=
  match h.takeFault .bind with
  | (some e, h) => (.error e, h)
  | (none, h) =>
    let number := h.nextListener
    let numbered := { h with nextListener := number + 1 }
    if path = [] then (.ok number, numbered)
    else
      match h.files.create path (.socket number) with
      | .ok files => (.ok number, { numbered with files })
      | .error .eexist => (.error .eaddrinuse, h)
      | .error e => (.error e, h)

/-- A new listener with a socket at a path, which stays there if nobody can
listen on it. -/
def listen (h : Host) (path : Bytes) : Except IoError Nat × Host :=
  match h.takeFault .socket with
  | (some e, h) => (.error (.os e), h)
  | (none, h) =>
    match socketPathError? path with
    | some error => (.error error, h)
    | none =>
      match h.bindSocket path with
      | (.error e, h) => (.error (.os e), h)
      | (.ok number, h) =>
        match h.takeFault .listen with
        | (some e, h) => (.error (.os e), h)
        | (none, h) => (.ok number, { h with listeners := h.listeners.set number [] })

/-- Drops a listener. The links that wait at it are closed at their end. -/
def dropListener (h : Host) (listener : Nat) : Host :=
  let waiting := (h.listeners.get? listener).getD []
  let h := { h with listeners := h.listeners.erase listener }
  waiting.foldl (fun h name => h.closeEnd ⟨name, .b⟩) h

def closeListener (h : Host) (listener : Nat) : Host :=
  (h.dropListener listener).record (.closeListener listener)

/-- Removes a name from the file tree. -/
def unlink (h : Host) (path : Bytes) : Except Errno Unit × Host :=
  match h.takeFault .unlink with
  | (some e, h) => (.error e, h)
  | (none, h) =>
    match h.files.unlink path with
    | .ok files => (.ok (), { h with files })
    | .error e => (.error e, h)

/-! What a call changes of the host, and that it changes nothing else. -/

section Frames

variable (h : Host) (d : Descriptor) (path : Bytes)

theorem read_frame (n : Nat) : (h.read d n).2 = { h with
    links := (h.read d n).2.links
    calls := .read d n (h.read d n).1 :: h.calls } := by
  unfold read
  split <;> rfl

theorem write_frame (data : Bytes) : (h.write d data).2 = { h with
    links := (h.write d data).2.links
    calls := .write d data (h.write d data).1 :: h.calls } := by
  unfold write
  split <;> rfl

theorem getMode_frame : (h.getMode d).2 = { h with
    callFaults := (h.getMode d).2.callFaults
    calls := (h.getMode d).2.calls } := by
  unfold getMode
  split <;> (rename_i fault; obtain ⟨_, rfl⟩ := frame_of_takeFault fault; rfl)

theorem setMode_frame (nonblocking : Bool) : (h.setMode d nonblocking).2 = { h with
    links := (h.setMode d nonblocking).2.links
    callFaults := (h.setMode d nonblocking).2.callFaults
    calls := (h.setMode d nonblocking).2.calls } := by
  unfold setMode
  split
  · rename_i fault
    obtain ⟨_, rfl⟩ := frame_of_takeFault fault
    rfl
  · rename_i fault
    obtain ⟨_, rfl⟩ := frame_of_takeFault fault
    dsimp only
    split
    · rw [setEnd_frame]
      rfl
    · rfl

theorem setListenerMode_frame : h.setListenerMode.2 = { h with
    callFaults := h.setListenerMode.2.callFaults
    calls := h.setListenerMode.2.calls } := by
  unfold setListenerMode
  split <;> (rename_i fault; obtain ⟨_, rfl⟩ := frame_of_takeFault fault; rfl)

theorem stat_frame : (h.stat path).2 = { h with callFaults := (h.stat path).2.callFaults } := by
  unfold stat
  split <;> (rename_i fault; obtain ⟨_, rfl⟩ := frame_of_takeFault fault; rfl)

theorem unlink_frame : (h.unlink path).2 = { h with
    files := (h.unlink path).2.files
    callFaults := (h.unlink path).2.callFaults } := by
  unfold unlink
  split
  · rename_i fault
    obtain ⟨_, rfl⟩ := frame_of_takeFault fault
    rfl
  · rename_i fault
    obtain ⟨_, rfl⟩ := frame_of_takeFault fault
    split <;> rfl

theorem frame_of_bindSocket {h h' : Host} {path : Bytes} {answer : Except Errno Nat}
    (made : h.bindSocket path = (answer, h')) : ∃ files nextListener callFaults,
      h' = { h with files, nextListener, callFaults } := by
  unfold bindSocket at made
  split at made
  · rename_i fault
    obtain ⟨_, rfl⟩ := frame_of_takeFault fault
    cases made
    exact ⟨_, _, _, rfl⟩
  · rename_i fault
    obtain ⟨_, rfl⟩ := frame_of_takeFault fault
    dsimp only at made
    split at made
    · cases made
      exact ⟨_, _, _, rfl⟩
    · split at made <;> cases made <;> exact ⟨_, _, _, rfl⟩

theorem listen_frame : (h.listen path).2 = { h with
    files := (h.listen path).2.files
    listeners := (h.listen path).2.listeners
    nextListener := (h.listen path).2.nextListener
    callFaults := (h.listen path).2.callFaults } := by
  unfold listen
  split
  · rename_i fault
    obtain ⟨_, rfl⟩ := frame_of_takeFault fault
    rfl
  · rename_i mid fault
    obtain ⟨_, rfl⟩ := frame_of_takeFault fault
    split
    · rfl
    · split
      · rename_i made
        obtain ⟨_, _, _, rfl⟩ := frame_of_bindSocket made
        rfl
      · rename_i made
        obtain ⟨_, _, _, rfl⟩ := frame_of_bindSocket made
        split <;> (rename_i fault; obtain ⟨_, rfl⟩ := frame_of_takeFault fault; rfl)

theorem closeEnds_frame (waiting : List String) (h : Host) :
    waiting.foldl (fun h name => h.closeEnd ⟨name, .b⟩) h =
      { h with links := (waiting.foldl (fun h name => h.closeEnd ⟨name, .b⟩) h).links } := by
  induction waiting generalizing h with
  | nil => rfl
  | cons name rest ih =>
    rw [List.foldl_cons, ih, closeEnd_frame]

theorem closeListener_frame (listener : Nat) : h.closeListener listener = { h with
    links := (h.closeListener listener).links
    listeners := h.listeners.erase listener
    calls := .closeListener listener :: h.calls } := by
  unfold closeListener dropListener
  rw [closeEnds_frame]
  rfl

theorem calls_read (n : Nat) :
    (h.read d n).2.calls = .read d n (h.read d n).1 :: h.calls := by
  rw [read_frame]

@[simp] theorem events_read (n : Nat) : (h.read d n).2.events = h.events := by
  rw [read_frame]

@[simp] theorem patience_write (data : Bytes) : (h.write d data).2.patience = h.patience := by
  rw [write_frame]

theorem calls_write (data : Bytes) :
    (h.write d data).2.calls = .write d data (h.write d data).1 :: h.calls := by
  rw [write_frame]

@[simp] theorem events_write (data : Bytes) : (h.write d data).2.events = h.events := by
  rw [write_frame]

theorem descriptors_getMode : (h.getMode d).2.descriptors = h.descriptors := by
  rw [getMode_frame]

theorem descriptors_setMode (nonblocking : Bool) :
    (h.setMode d nonblocking).2.descriptors = h.descriptors := by
  rw [setMode_frame]

@[simp] theorem events_setMode (nonblocking : Bool) :
    (h.setMode d nonblocking).2.events = h.events := by
  rw [setMode_frame]

@[simp] theorem now_setListenerMode : h.setListenerMode.2.now = h.now := by
  rw [setListenerMode_frame]

@[simp] theorem events_unlink : (h.unlink path).2.events = h.events := by
  rw [unlink_frame]

theorem descriptors_closeListener (listener : Nat) :
    (h.closeListener listener).descriptors = h.descriptors := by
  rw [closeListener_frame]

theorem callFaults_closeListener (listener : Nat) :
    (h.closeListener listener).callFaults = h.callFaults := by
  rw [closeListener_frame]

@[simp] theorem events_closeListener (listener : Nat) :
    (h.closeListener listener).events = h.events := by
  rw [closeListener_frame]

end Frames

theorem faults_eq (h : Host) (p : EndId) (d : Direction) {l : Link}
    (present : h.links.get? p.link = some l) : h.faults p d = (l.endAt p.side).faults d := by
  simp [faults, linkEnd?, present]

theorem faults_setLink (h : Host) (p : EndId) (d : Direction) (l : Link) (call : Call) :
    ((h.setLink p.link l).record call).faults p d = (l.endAt p.side).faults d := by
  simp [faults, linkEnd?, setLink, record]

/-- Only a fault interrupts a read. -/
theorem faults_read_lt (h : Host) (d : Descriptor) (n : Nat)
    (stop : (h.read d n).1 = .error .eintr) :
    ((h.read d n).2.faults d.endId .read).length < (h.faults d.endId .read).length := by
  unfold read at stop ⊢
  split at stop
  · rename_i l present
    simp only [faults_eq h d.endId .read present, faults_setLink]
    exact l.faults_read_lt d.endId.side n stop
  · simp at stop

theorem faults_write_le (h : Host) (d : Descriptor) (data : Bytes) :
    ((h.write d data).2.faults d.endId .write).length ≤ (h.faults d.endId .write).length := by
  unfold write
  split
  · rename_i l present
    simp only [faults_eq h d.endId .write present, faults_setLink]
    exact l.faults_write_le d.endId.side data
  · exact Nat.le_refl _

/-- Only a fault interrupts a write. -/
theorem faults_write_lt (h : Host) (d : Descriptor) (data : Bytes)
    (stop : (h.write d data).1 = .error .eintr) :
    ((h.write d data).2.faults d.endId .write).length < (h.faults d.endId .write).length := by
  unfold write at stop ⊢
  split at stop
  · rename_i l present
    simp only [faults_eq h d.endId .write present, faults_setLink]
    exact l.faults_write_lt d.endId.side data stop
  · simp at stop

/-- The outcomes set for the calls of a kind. -/
def outcomesAhead (h : Host) (point : FaultPoint) : List (Option Errno) :=
  (h.callFaults.get? point).getD []

/-- Only a fault interrupts an accept, which uses it up. -/
theorem outcomes_accept_lt (h : Host) (listener : Nat)
    (stop : (h.accept listener).1 = .error .eintr) :
    ((h.accept listener).2.outcomesAhead .accept).length < (h.outcomesAhead .accept).length := by
  unfold accept at stop ⊢
  split at stop
  · rename_i e h' fault
    simp only
    unfold takeFault at fault
    split at fault
    · rename_i outcome rest ahead
      cases fault
      simp [outcomesAhead, record, ahead]
    · simp at fault
  · split at stop <;> simp at stop

@[simp] theorem patience_accept (h : Host) (listener : Nat) :
    (h.accept listener).2.patience = h.patience := by
  have kept := patience_takeFault h .accept
  unfold accept
  split
  · rename_i fault
    simpa [fault] using kept
  · rename_i fault
    rw [fault] at kept
    split <;> simpa using kept

end LocalPipe.Host
