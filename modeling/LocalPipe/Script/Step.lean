import LocalPipe.Relay

namespace LocalPipe.Script

/-- What is done to the file tree from outside. `listen` keeps a plain
listener under a name of its own, `stale` leaves a socket that nobody
listens on. -/
inductive FileStep where
  | file (name data : Bytes)
  | directory (name : Bytes)
  | symlink (name target : Bytes)
  | stale (name : Bytes)
  | listen (listener : String) (name : Bytes)
  | unlisten (listener : String)
  | remove (name : Bytes)
  | content (name : Bytes)
  | list (name : Bytes)
deriving DecidableEq, Repr

/-- An end to be taken over. Its link is made if there is none. -/
structure EndSpec where
  endId : EndId
  capacity : Nat := 65536
  nonblocking : Option Bool := none
deriving DecidableEq, Repr

/-- What is done to one endpoint. -/
inductive EndpointStep where
  | connect (path : Bytes) (plan : LinkPlan)
  | bind (path : Bytes)
  | accept
  | adopt (spec : EndSpec) (direction : Direction) (name : String)
  | write (data : Bytes)
  | writeImmediately (data : Bytes)
  | peek (max : Nat)
  | peekInto (length : Nat)
  | read (max : Nat)
  | readAll
  | setLimit (bytes : Nat)
  | service (waits : String) (keep : Bool)
  | close
  | state
  | name
  | move (destination : String) (max : Option Nat)
deriving DecidableEq, Repr

/-- Which endpoint of a loop is meant: the one that a name stands for, or one
of those that a loop has handed numbers out to. -/
inductive Member where
  | named (ep : String)
  | numbered (index : Nat) (loop : String)
deriving DecidableEq, Repr

/-- What is done to one bare transport. -/
inductive TransportStep where
  | start (direction : Direction) (buffer : String) (length : Option Nat)
  | poll (direction : Direction) (buffer : String) (length : Option Nat)
  | cancel
  | waitCanceled (direction : Direction)
  | withdraw (direction : Direction)
  | handle (direction : Direction)
  | write (data : Bytes) (timeout : Duration)
  | pushWait (direction : Direction) (waits : String) (twice : Bool)
  | drop
deriving DecidableEq, Repr

/-- What is changed about bare queues, in this order. -/
structure QueueChange where
  capacity : Option Nat := none
  input : Bytes := []
  output : Bytes := []
  consume : Nat := 0
deriving DecidableEq, Repr

/-- What is done to one bare worker. -/
inductive WorkerStep where
  | advance
  | drain
  | handle
deriving DecidableEq, Repr

/-- A question to one direction's rules. -/
inductive RuleStep where
  | issue
  | outstanding (size : Nat)
  | complete (data : Bytes) (issued : Nat)
deriving DecidableEq, Repr

/-- The steps of a script. `run` runs a loop whose handler takes the step
lists one after the other, the last one over and over, and stops the loop
once it was called `maxCalls` times. A quiet handler knows no timeouts. -/
inductive Step where
  | peer (action : PeerAction)
  | schedule (after : Duration) (actions : List PeerAction)
  | now
  | mode (endId : EndId)
  | files (step : FileStep)
  | newEndpoint (ep : String) (config : PipeConfig)
  | endpoint (ep : String) (step : EndpointStep)
  | drop (ep : String)
  | wait (waits : String) (timeout : Option Duration)
  | waits (waits : String)
  | clearWaits (waits : String)
  | newLoop (loop : String) (interval : Option Duration)
  | add (loop ep : String)
  | remove (loop : String) (member : Member)
  | get (loop : String) (member : Member)
  | shutdown (loop : String)
  | exiting (loop : String)
  | run (loop : String) (onPipe onTimeout : List (List Step)) (maxCalls : Nat) (quiet : Bool)
  | relay (command : CommandLine.Command) (path : Bytes) (plan : LinkPlan)
      (stdin stdout : EndSpec) (config : PipeConfig)
  | newTransport (transport : String) (spec : EndSpec)
  | acceptTransport (listener transport : String) (timeout : Duration)
  | transport (transport : String) (step : TransportStep)
  | buffer (buffer : String) (data : Bytes)
  | newQueues (queues : String) (capacity : Nat)
  | setQueues (queues : String) (change : QueueChange)
  | newWorker (worker : String) (direction : Direction) (size : Nat)
  | worker (worker transport : String) (queues : Option String) (step : WorkerStep)
  | rule (direction : Direction) (queues buffer : String) (step : RuleStep)

/-- What an endpoint looks like from outside. -/
structure Status where
  closed : Bool
  available : Nat
  toSend : Nat
  limit : Nat
deriving DecidableEq, Repr

/-- What a bare worker looks like after a step. -/
structure WorkerStatus where
  value : Option (Except IoError Nat)
  pending : Bool
  pendingSize : Nat
  text : String
  handle : Option WaitHandle
  input : Bytes
  output : Bytes

mutual

/-- The result of a step. -/
inductive Reply where
  | none
  | ok
  | unknown
  | flag (value : Bool)
  | count (value : Nat)
  | text (value : String)
  | bytes (data : Bytes)
  | peer (reply : PeerReply)
  | failed (error : IoError)
  | setupFailed (error : SetupError)
  | entries (entries : List (String × Node))
  | copied (count : Nat) (buffer : Bytes)
  | serviced (moved : Bool) (handles : List WaitHandle)
  | waits (waits : WaitSet)
  | cleared (waits : WaitSet)
  | handles (handles : List WaitHandle)
  | handle (handle : WaitHandle)
  | pipeId (id : PipeId)
  | member (name : String) (status : Status)
  | ran (calls : List CallbackReport) (result : Except IoError Unit)
  | unfinished
  | relayFailed (failure : Relay.Failure)
  | tried (outcome : Outcome Nat) (buffer : Bytes)
  | queues (taken : Bytes) (queues : Queues)
  | worker (status : WorkerStatus)
  | rule (value : Option Nat) (buffer : Bytes) (queues : Queues)
  | ruleKept (buffer : Bytes) (queues : Queues)

/-- A result with the state of the endpoint that the step was about. -/
inductive Answer where
  | mk (reply : Reply) (status : Option Status)

/-- One call of a handler: which endpoint it was about, if any, when it
began, and what its steps answered. -/
inductive CallbackReport where
  | mk (ep : Option String) (start : Nat) (answers : List Answer)

end

end LocalPipe.Script
