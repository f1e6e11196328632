import LocalPipe.Failure.Fatal
import LocalPipe.Host.Link
import LocalPipe.Time

namespace LocalPipe

inductive LogLevel where
  | trace
  | debug
  | info
  | error
deriving DecidableEq, Repr

def LogLevel.text : LogLevel → String
  | trace => "TRACE"
  | debug => "DEBUG"
  | info => "INFO"
  | error => "ERROR"

/-- What is worth telling about a run. -/
inductive LogEvent where
  | connected (name : String)
  | listening (name : String)
  | acceptedPeer (name : String)
  | adopted (name : String) (direction : Direction)
  | transferFailed (name : String) (error : IoError)
  | closed (name : String)
  | removedStaleSocket (path : String)
  | socketFileKept (path : String) (error : IoError)
  | flagsKept (error : IoError)
  | relayFinished
  | waitingForPeer (path : String)
  | drained (direction : Direction) (length sent : Nat)
  | waiting (handles : Nat) (timeout : Option Duration)
  | forwarding (bytes : Nat)
  | fatal (condition : Fatal)
deriving DecidableEq, Repr

namespace LogEvent

def level : LogEvent → LogLevel
  | waitingForPeer _ => .info
  | drained _ _ _ | waiting _ _ | forwarding _ => .trace
  | fatal _ => .error
  | _ => .debug

def message : LogEvent → String
  | connected _ => "connected to acceptor"
  | listening _ => "listening"
  | acceptedPeer _ => "accepted peer"
  | adopted _ _ => "adopted handle"
  | transferFailed _ _ => "pipe I/O failed"
  | closed _ => "pipe closed"
  | removedStaleSocket _ => "removed stale socket"
  | socketFileKept _ _ => "failed to remove socket file"
  | flagsKept _ => "failed to restore descriptor flags"
  | relayFinished => "relay finished"
  | waitingForPeer _ => "waiting for peer"
  | drained _ _ _ => "canceled I/O drained"
  | waiting _ _ => "waiting"
  | forwarding _ => "forwarding"
  | fatal condition => "fatal: " ++ condition.message

/-- What a log event tells beside its message: a text or a count. -/
inductive Value where
  | text (value : String)
  | count (value : Nat)
deriving DecidableEq, Repr

/-- A timeout that may be missing. -/
def timeoutText : Option Duration → String
  | none => "None"
  | some d => "Some(" ++ d.text ++ ")"

def fields : LogEvent → List (String × Value)
  | connected name | listening name | acceptedPeer name | closed name => [("name", .text name)]
  | adopted name direction => [("name", .text name), ("direction", .text direction.text)]
  | transferFailed name error => [("name", .text name), ("error", .text error.message)]
  | removedStaleSocket path | waitingForPeer path => [("path", .text path)]
  | socketFileKept path error => [("path", .text path), ("error", .text error.message)]
  | flagsKept error => [("error", .text error.message)]
  | drained direction length sent =>
    [("dir", .text direction.text), ("len", .count length), ("sent", .count sent)]
  | waiting handles timeout =>
    [("handles", .count handles), ("timeout", .text (timeoutText timeout))]
  | forwarding bytes => [("bytes", .count bytes)]
  | relayFinished | fatal _ => []

end LogEvent

end LocalPipe
