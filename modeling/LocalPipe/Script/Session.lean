import LocalPipe.Script.Step

namespace LocalPipe.Script

/-- The things that a script has named. An endpoint is either the script's
own or in a loop, where its name stands for its number. -/
structure Session where
  endpoints : Table String Endpoint := {}
  members : Table String (String × PipeId) := {}
  loops : Table String EventLoop := {}
  issued : Table String (List PipeId) := {}
  current : Option String := none
  waitSets : Table String WaitSet := {}
  listeners : Table String Nat := {}
  transports : Table String Transport := {}
  buffers : Table String Bytes := {}
  queues : Table String Queues := {}
  workers : Table String (Direction × Worker) := {}

/-- A step of a script changes what is named, and acts on the host. -/
abbrev Scripted := StateT Session Action

/-- Changes the host. -/
def host (f : Host → Host) : Scripted Unit :=
  StateT.lift (Action.change f)

/-- Asks the host. -/
def ask {α : Type} (f : Host → α × Host) : Scripted α :=
  StateT.lift (Action.call f)

namespace Session

/-- The name that stands for the endpoint of the callback at hand. -/
def currentName : String := "$id"

/-- The name that is meant by a name. -/
def resolve (s : Session) (ep : String) : String :=
  if ep = currentName then s.current.getD ep else ep

def endpoint? (s : Session) (ep : String) : Option Endpoint :=
  let ep := s.resolve ep
  match s.members.get? ep with
  | some (loop, id) => (s.loops.get? loop).bind (·.get? id)
  | none => s.endpoints.get? ep

/-- Stores an endpoint that has changed, wherever it is. -/
def setEndpoint (s : Session) (ep : String) (value : Endpoint) : Session :=
  let ep := s.resolve ep
  match s.members.get? ep with
  | some (loop, id) =>
    match s.loops.get? loop with
    | some lp => { s with loops := s.loops.set loop (lp.set id value) }
    | none => s
  | none => { s with endpoints := s.endpoints.set ep value }

/-- The name of an endpoint in a loop. -/
def nameOf? (s : Session) (loop : String) (id : PipeId) : Option String :=
  (s.members.entries.find? (·.2 = (loop, id))).map (·.1)

/-- Takes every name away from the members of a loop, and the numbers that it
has handed out. -/
def forgetMembers (s : Session) (loop : String) : Session :=
  { s with
    members := ⟨s.members.entries.filter (·.2.1 ≠ loop)⟩
    issued := s.issued.erase loop }

/-- The number that a member of a loop has. -/
def memberId? (s : Session) : Member → Option PipeId
  | .named ep => (s.members.get? (s.resolve ep)).map (·.2)
  | .numbered index loop => ((s.issued.get? loop).getD [])[index]?

/-- Takes an endpoint out of a loop, and gives it back to its name. -/
def takeMember (s : Session) (loop : String) (id : PipeId) : Bool × Session :=
  match s.loops.get? loop with
  | none => (false, s)
  | some lp =>
    match lp.remove id with
    | (none, _) => (false, s)
    | (some ep, lp) =>
      let s' := { s with loops := s.loops.set loop lp }
      match s.nameOf? loop id with
      | some name => (true,
        { s' with members := s.members.erase name, endpoints := s.endpoints.set name ep })
      | none => (true, s')

/-- The names of a table in ascending order. -/
def sortedNames {α : Type} (t : Table String α) : List String :=
  (t.entries.map (·.1)).mergeSort (· ≤ ·)

/-- Drops everything that is left: the script's own endpoints, then the
loops with theirs, then the bare transports. -/
def close (s : Session) (h : Host) : Host :=
  let h := (sortedNames s.endpoints).foldl (fun h name =>
    match s.endpoints.get? name with
    | some ep => (ep.close h).2
    | none => h) h
  let h := (sortedNames s.loops).foldl (fun h name =>
    match s.loops.get? name with
    | some lp => lp.close h
    | none => h) h
  (sortedNames s.transports).foldl (fun h name =>
    match s.transports.get? name with
    | some t => t.close h
    | none => h) h

end Session

/-- What an endpoint looks like from outside. -/
def Status.ofEndpoint (ep : Endpoint) : Status where
  closed := ep.isClosed
  available := ep.bytesAvailable
  toSend := ep.bytesToSend
  limit := ep.readBufferSize

end LocalPipe.Script
