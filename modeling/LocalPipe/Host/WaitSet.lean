import LocalPipe.Host.Waiting

namespace LocalPipe

/-- The handles of outstanding operations, as they were collected. -/
structure WaitSet where
  handles : List WaitHandle := []
deriving DecidableEq, Repr

namespace WaitSet

def push (w : WaitSet) (handle : WaitHandle) : WaitSet :=
  ⟨w.handles ++ [handle]⟩

def extend (w : WaitSet) (handles : List WaitHandle) : WaitSet :=
  ⟨w.handles ++ handles⟩

def length (w : WaitSet) : Nat :=
  w.handles.length

def isEmpty (w : WaitSet) : Bool :=
  w.handles.isEmpty

/-- Waits until a handle is ready or the timeout has passed, and says how
many are ready. With nothing to wait on this is a sleep, and without a
timeout either, an error. -/
def wait (w : WaitSet) (timeout : Option Duration) (h : Host) : Except IoError Nat × Host :=
  if w.isEmpty then
    match timeout with
    | some d => (.ok 0, h.sleep d)
    | none => (.error .nothingToWaitOn, h)
  else
    match h.waitReady (w.handles.map .handle) timeout with
    | (.ok n, h) => (.ok n, h)
    | (.error e, h) => (.error (.os e), h)

end WaitSet

end LocalPipe
