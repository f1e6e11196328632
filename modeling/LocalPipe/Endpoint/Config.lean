import LocalPipe.Time

namespace LocalPipe

/-- The settings of an endpoint: how many unread bytes stop it from
receiving, how many bytes one transfer carries at most, and how long it
waits for a peer and for a write to go through. A transfer carries at least
one byte, or nothing would ever move. -/
structure PipeConfig where
  readBufferSize : Nat := 65536
  ioSize : Nat := 65536
  acceptTimeout : Duration := .ofSeconds 30
  writeTimeout : Duration := .ofSeconds 30
  ioSize_pos : 0 < ioSize := by decide
deriving DecidableEq, Repr

namespace PipeConfig

instance : Inhabited PipeConfig := ⟨{}⟩

def withReadBufferSize (c : PipeConfig) (bytes : Nat) : PipeConfig :=
  { c with readBufferSize := bytes }

/-- Sets the transfer size. Zero is raised to one byte. -/
def withIoSize (c : PipeConfig) (bytes : Nat) : PipeConfig :=
  { c with ioSize := max bytes 1, ioSize_pos := by omega }

def withAcceptTimeout (c : PipeConfig) (timeout : Duration) : PipeConfig :=
  { c with acceptTimeout := timeout }

def withWriteTimeout (c : PipeConfig) (timeout : Duration) : PipeConfig :=
  { c with writeTimeout := timeout }

/-- One setting and the value it is given. -/
inductive Setting where
  | readBufferSize (bytes : Nat)
  | ioSize (bytes : Nat)
  | acceptTimeout (timeout : Duration)
  | writeTimeout (timeout : Duration)
deriving DecidableEq, Repr

def set (c : PipeConfig) : Setting → PipeConfig
  | .readBufferSize bytes => c.withReadBufferSize bytes
  | .ioSize bytes => c.withIoSize bytes
  | .acceptTimeout timeout => c.withAcceptTimeout timeout
  | .writeTimeout timeout => c.withWriteTimeout timeout

/-- A configuration followed by what it is after each setting. -/
def history (c : PipeConfig) : List Setting → List PipeConfig
  | [] => [c]
  | s :: rest => c :: (c.set s).history rest

end PipeConfig

end LocalPipe
