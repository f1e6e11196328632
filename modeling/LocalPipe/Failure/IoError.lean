import LocalPipe.Failure.Errno

namespace LocalPipe

/-- A failure of an input or output operation: the answer of a system call,
a bare kind, or a kind with a message of its own. -/
inductive IoError where
  | os (errno : Errno)
  | simple (kind : ErrorKind)
  | custom (kind : ErrorKind) (message : String)
deriving DecidableEq, Repr

namespace IoError

def kind : IoError → ErrorKind
  | os errno => errno.kind
  | simple kind => kind
  | custom kind _ => kind

def message : IoError → String
  | os errno => errno.text ++ " (os error " ++ toString errno.number ++ ")"
  | simple kind => kind.text
  | custom _ message => message

/-- The stream has ended. -/
def closedByPeer : IoError := custom .brokenPipe "pipe closed by peer"

/-- A write of at least one byte was answered with none. -/
def wroteNothing : IoError := simple .writeZero

/-- A transport was asked to go on with an operation that it does not hold. -/
def noOperation : IoError := custom .other "no outstanding operation"

/-- A worker was advanced after it had failed. -/
def alreadyFailed : IoError := custom .other "transfer worker already failed"

/-- No peer connected in time. -/
def noPeer : IoError := custom .timedOut "no peer connected before the accept timeout"

/-- An empty wait set without a timeout can never wake up. -/
def nothingToWaitOn : IoError := custom .invalidInput "nothing to wait on"

/-- A name to be bound belongs to something that is no socket. -/
def notASocket : IoError := custom .alreadyExists "path exists and is not a socket"

/-- A file name with a zero byte in it. -/
def nulInFileName : IoError := custom .invalidInput "file name contained an unexpected NUL byte"

/-- A socket path with a zero byte in it. -/
def nulInSocketPath : IoError := custom .invalidInput "paths must not contain interior null bytes"

/-- A socket path that does not fit a socket address. -/
def socketPathTooLong : IoError := custom .invalidInput "path must be shorter than SUN_LEN"

end IoError

/-- Why an endpoint could not be set up. `failed` stands for any failure
after the peer, or the handle, was there. -/
inductive SetupError where
  | connect (name : String) (source : IoError)
  | bind (name : String) (source : IoError)
  | failed (error : IoError)
deriving DecidableEq, Repr

namespace SetupError

/-- The failure underneath. -/
def cause : SetupError → IoError
  | connect _ source => source
  | bind _ source => source
  | failed error => error

def message : SetupError → String
  | connect name source => "connect to " ++ name ++ ": " ++ source.message
  | bind name source => "bind " ++ name ++ ": " ++ source.message
  | failed error => error.message

/-- The error that a setup error was made from. A bare failure shows itself
and has none. -/
def source? : SetupError → Option IoError
  | connect _ source => some source
  | bind _ source => some source
  | failed _ => none

/-- The messages from an error down to its last source. -/
def chain (e : SetupError) : List String :=
  e.message :: (e.source?.map IoError.message).toList

end SetupError

end LocalPipe
