import LocalPipe.Failure.Errno
import LocalPipe.Host.Link

namespace LocalPipe

/-- An end by the name of its link and its side. -/
structure EndId where
  link : String
  side : Side
deriving DecidableEq, Repr

def EndId.other (p : EndId) : EndId :=
  { p with side := p.side.other }

/-- A handle on an end. No number is given out twice, so that a handle that
was closed never stands for another one. -/
structure Descriptor where
  number : Nat
  endId : EndId
deriving DecidableEq, Repr

/-- What a waiting operation needs of its descriptor. -/
inductive Interest where
  | readable
  | writable
deriving DecidableEq, Repr

def Direction.interest : Direction → Interest
  | .read => .readable
  | .write => .writable

/-- The signal that an outstanding operation waits for. -/
structure WaitHandle where
  descriptor : Descriptor
  interest : Interest
deriving DecidableEq, Repr

/-- What a poll looks at: a handle, or a listener for a peer. -/
inductive Watched where
  | handle (handle : WaitHandle)
  | listener (number : Nat)
deriving DecidableEq, Repr

/-- The calls that can be made to fail. -/
inductive FaultPoint where
  | poll
  | getFlags
  | setFlags
  | accept
  | connect
  | listenerMode
  | duplicate
  | stat
  | unlink
  | socket
  | bind
  | listen
deriving DecidableEq, Repr

/-- What others do to the links and to the calls to come. -/
inductive PeerAction where
  | send (endId : EndId) (data : Bytes)
  | receive (endId : EndId) (max : Option Nat)
  | close (endId : EndId)
  | connect (name : Bytes) (link : String) (capacity : Nat)
  | failCalls (point : FaultPoint) (outcomes : List (Option Errno))
  | failTransfers (endId : EndId) (direction : Direction) (faults : List Fault)
deriving DecidableEq, Repr

/-- What they see of it. -/
inductive PeerReply where
  | done
  | accepted (bytes : Nat)
  | received (data : Bytes) (ended : Bool)
  | connected
  | noLink
  | closed
  | failed (errno : Errno)
deriving DecidableEq, Repr

/-- What was asked of the host, and its answer. -/
inductive Call where
  | read (descriptor : Descriptor) (asked : Nat) (result : Except Errno Bytes)
  | write (descriptor : Descriptor) (data : Bytes) (result : Except Errno Nat)
  | poll (watched : List Watched) (millis : Option Nat) (result : Except Errno Nat)
  | connect (result : Except Errno Descriptor)
  | accept (result : Except Errno Descriptor)
  | setMode (descriptor : Descriptor) (nonblocking : Bool)
  | modeFault (point : FaultPoint) (descriptor : Descriptor) (errno : Errno)
  | listenerFault (errno : Errno)
  | close (descriptor : Descriptor)
  | closeListener (number : Nat)
  | sleep (nanos : Nat)
  | callback (label : String)
  | outside (action : PeerAction) (reply : PeerReply)

end LocalPipe
