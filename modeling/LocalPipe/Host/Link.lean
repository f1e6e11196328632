import LocalPipe.Failure.Errno
import LocalPipe.Text.Lossy

namespace LocalPipe

/-- The two ends of a link. -/
inductive Side where
  | a
  | b
deriving DecidableEq, Repr

def Side.other : Side → Side
  | a => b
  | b => a

/-- The way bytes flow, as seen from the end that is acting. -/
inductive Direction where
  | read
  | write
deriving DecidableEq, Repr

def Direction.text : Direction → String
  | read => "Read"
  | write => "Write"

/-- What happens to one read or write: it fails, or moves at most so many
bytes. A limit of zero makes the call answer zero. -/
inductive Fault where
  | error (errno : Errno)
  | limit (bytes : Nat)
deriving DecidableEq, Repr

/-- One end of a link: the bytes it has received and not yet given out, and
the faults that its next reads and writes meet. -/
structure LinkEnd where
  buffer : Bytes := []
  isOpen : Bool := true
  nonblocking : Bool := false
  readFaults : List Fault := []
  writeFaults : List Fault := []
deriving DecidableEq, Repr

namespace LinkEnd

/-- A closed end loses what it has received. -/
def close (p : LinkEnd) : LinkEnd :=
  { p with isOpen := false, buffer := [] }

def faults (p : LinkEnd) : Direction → List Fault
  | .read => p.readFaults
  | .write => p.writeFaults

def setFaults (p : LinkEnd) (faults : List Fault) : Direction → LinkEnd
  | .read => { p with readFaults := faults }
  | .write => { p with writeFaults := faults }

/-- The answer to a call that cannot go on at once. In blocking mode it would
never come back, which the host notices. -/
def wouldBlock (p : LinkEnd) : Errno :=
  if p.nonblocking then .eagain else .edeadlk

end LinkEnd

/-- A two-way channel. Each end receives up to `capacity` bytes ahead. -/
structure Link where
  capacity : Nat
  endA : LinkEnd := {}
  endB : LinkEnd := {}
deriving DecidableEq, Repr

namespace Link

def endAt (l : Link) : Side → LinkEnd
  | .a => l.endA
  | .b => l.endB

def setEnd (l : Link) (p : LinkEnd) : Side → Link
  | .a => { l with endA := p }
  | .b => { l with endB := p }

/-- The free space towards the other end. -/
def room (l : Link) (s : Side) : Nat :=
  l.capacity - (l.endAt s.other).buffer.length

/-- Takes up to `n` bytes out of an end's buffer. An empty buffer is the end
of the stream once the other end is closed. -/
def receive (l : Link) (s : Side) (n : Nat) : Except Errno Bytes × Link :=
  let p := l.endAt s
  if n = 0 then (.ok [], l)
  else if p.buffer = [] then
    if (l.endAt s.other).isOpen then (.error p.wouldBlock, l) else (.ok [], l)
  else (.ok (p.buffer.take n), l.setEnd { p with buffer := p.buffer.drop n } s)

/-- Moves as many of the bytes into the other end's buffer as fit. -/
def send (l : Link) (s : Side) (data : Bytes) : Except Errno Nat × Link :=
  let p := l.endAt s.other
  if data = [] then (.ok 0, l)
  else if !p.isOpen then (.error .epipe, l)
  else if l.room s = 0 then (.error (l.endAt s).wouldBlock, l)
  else
    let n := min data.length (l.room s)
    (.ok n, l.setEnd { p with buffer := p.buffer ++ data.take n } s.other)

/-- The next fault of a direction, and the link without it. -/
def takeFault (l : Link) (s : Side) (d : Direction) : Option Fault × Link :=
  match (l.endAt s).faults d with
  | [] => (none, l)
  | fault :: rest => (some fault, l.setEnd ((l.endAt s).setFaults rest d) s)

/-- A read of up to `n` bytes. -/
def read (l : Link) (s : Side) (n : Nat) : Except Errno Bytes × Link :=
  match l.takeFault s .read with
  | (none, l) => l.receive s n
  | (some (.error e), l) => (.error e, l)
  | (some (.limit 0), l) => (.ok [], l)
  | (some (.limit (k + 1)), l) => l.receive s (min n (k + 1))

/-- A write of some bytes: the answer is how many were accepted. -/
def write (l : Link) (s : Side) (data : Bytes) : Except Errno Nat × Link :=
  match l.takeFault s .write with
  | (none, l) => l.send s data
  | (some (.error e), l) => (.error e, l)
  | (some (.limit 0), l) => (.ok 0, l)
  | (some (.limit (k + 1)), l) => l.send s (data.take (k + 1))

/-- Whether a read would be answered at once. -/
def readable (l : Link) (s : Side) : Bool :=
  !(l.endAt s).buffer.isEmpty || !(l.endAt s.other).isOpen

/-- Whether a write would be answered at once. -/
def writable (l : Link) (s : Side) : Bool :=
  !(l.endAt s.other).isOpen || decide ((l.endAt s.other).buffer.length < l.capacity)

@[simp] theorem endAt_setEnd_self (l : Link) (p : LinkEnd) (s : Side) :
    (l.setEnd p s).endAt s = p := by
  cases s <;> rfl

@[simp] theorem endAt_setEnd_other (l : Link) (p : LinkEnd) (s : Side) :
    (l.setEnd p s.other).endAt s = l.endAt s := by
  cases s <;> rfl

@[simp] theorem faults_setFaults (p : LinkEnd) (faults : List Fault) (d : Direction) :
    (p.setFaults faults d).faults d = faults := by
  cases d <;> rfl

theorem receive_ne_interrupted (l : Link) (s : Side) (n : Nat) :
    (l.receive s n).1 ≠ .error .eintr := by
  simp only [receive, LinkEnd.wouldBlock]
  repeat' split
  all_goals simp

theorem send_ne_interrupted (l : Link) (s : Side) (data : Bytes) :
    (l.send s data).1 ≠ .error .eintr := by
  simp only [send, LinkEnd.wouldBlock]
  repeat' split
  all_goals simp

@[simp] theorem faults_send (l : Link) (s : Side) (data : Bytes) (d : Direction) :
    ((l.send s data).2.endAt s).faults d = (l.endAt s).faults d := by
  simp only [send]
  repeat' split
  all_goals simp

/-- A fault that is taken leaves fewer ahead, and none is taken only when
there is none. -/
theorem faults_takeFault (l : Link) (s : Side) (d : Direction) :
    (l.takeFault s d).1 = none ∧ (l.takeFault s d).2 = l ∨
      (l.takeFault s d).1 ≠ none ∧ (((l.takeFault s d).2.endAt s).faults d).length <
        ((l.endAt s).faults d).length := by
  simp only [takeFault]
  split
  · exact Or.inl ⟨rfl, rfl⟩
  · rename_i rest ahead
    exact Or.inr ⟨by simp, by simp [ahead]⟩

/-- Only a fault interrupts a read. -/
theorem faults_read_lt (l : Link) (s : Side) (n : Nat) (stop : (l.read s n).1 = .error .eintr) :
    (((l.read s n).2.endAt s).faults .read).length < ((l.endAt s).faults .read).length := by
  have taken := l.faults_takeFault s .read
  unfold read at stop ⊢
  split at stop <;> simp_all [receive_ne_interrupted]

theorem faults_write_le (l : Link) (s : Side) (data : Bytes) :
    (((l.write s data).2.endAt s).faults .write).length ≤ ((l.endAt s).faults .write).length := by
  have taken := l.faults_takeFault s .write
  unfold write
  split <;> simp_all <;> omega

/-- Only a fault interrupts a write. -/
theorem faults_write_lt (l : Link) (s : Side) (data : Bytes)
    (stop : (l.write s data).1 = .error .eintr) :
    (((l.write s data).2.endAt s).faults .write).length < ((l.endAt s).faults .write).length := by
  have taken := l.faults_takeFault s .write
  unfold write at stop ⊢
  split at stop <;> simp_all [send_ne_interrupted]

end Link

end LocalPipe
