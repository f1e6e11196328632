import LocalPipe.Failure.IoError
import LocalPipe.Text.Quoted

namespace LocalPipe

/-- The ways to set up an endpoint, each of which needs it disconnected. -/
inductive SetupCall where
  | initiate
  | bind
  | accept
  | adopt
deriving DecidableEq, Repr

def SetupCall.text : SetupCall → String
  | initiate => "connect_as_initiator"
  | bind => "bind"
  | accept => "connect_as_acceptor"
  | adopt => "adopt"

/-- The conditions that end the program: a misuse of an endpoint, a failure
that nothing can be done about, or a deadline that the clock cannot hold. -/
inductive Fatal where
  | alreadyConnected (call : SetupCall) (name : String)
  | notBound (name : String)
  | acceptFailed (name : String) (error : IoError)
  | writeOnClosed (name : String)
  | writeWithoutWriter (name : String)
  | writeWhilePending (name : String)
  | writeCutShort (name : String) (written total : Nat)
  | writeFailed (name : String) (error : IoError)
  | sizeMismatch (sent issued : Nat)
  | nothingToWaitFor
  | deadlineOverflow
deriving DecidableEq, Repr

namespace Fatal

def message : Fatal → String
  | alreadyConnected call name => call.text ++ " on already-connected pipe " ++ Text.quoted name
  | notBound name => "connect_as_acceptor on " ++ Text.quoted name ++ " without a bound listener"
  | acceptFailed name error =>
    "error connecting data I/O pipe " ++ Text.quoted name ++ ": " ++ error.message
  | writeOnClosed name => "write_immediately on closed pipe " ++ Text.quoted name
  | writeWithoutWriter name =>
    "write_immediately on pipe " ++ Text.quoted name ++ " without a writer"
  | writeWhilePending name =>
    "write_immediately on pipe " ++ Text.quoted name ++ " while a write is outstanding"
  | writeCutShort name written total =>
    "error writing data to pipe " ++ Text.quoted name ++ ": wrote " ++ toString written ++ " of "
      ++ toString total ++ " bytes"
  | writeFailed name error =>
    "error writing data to pipe " ++ Text.quoted name ++ ": " ++ error.message
  | sizeMismatch sent issued =>
    "completion size mismatch: sent " ++ toString sent ++ " of " ++ toString issued ++ " bytes"
  | nothingToWaitFor => "event loop has no outstanding I/O and no poll interval"
  | deadlineOverflow => "overflow when adding duration to instant"

/-- Every fatal condition is logged before it ends the program, but for a
deadline past the end of the clock. -/
def isLogged : Fatal → Bool
  | deadlineOverflow => false
  | _ => true

end Fatal

end LocalPipe
