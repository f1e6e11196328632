import LocalPipe.Relay

namespace LocalPipe.Program

/-- The link that a standard stream is the side A of. Its room is bounded by
nothing but what is sent through it. -/
def streamLink (capacity : Nat) : Link :=
  { capacity }

/-- The ends of the standard streams. -/
def input : EndId := ⟨"stdin", .a⟩

def output : EndId := ⟨"stdout", .a⟩

/-- A host on which standard input holds some bytes and then ends. -/
def hostWith (data : Bytes) : Host :=
  let h : Host := {}
  let h := h.setLink input.link (streamLink data.length)
  let h := h.setLink output.link (streamLink 18446744073709551616)
  let h := (h.peerSend input.other data).2
  { (h.peerClose input.other).2 with stdin := input, stdout := output }

/-- The bytes that came out at standard output. -/
def outputOf (h : Host) : Bytes :=
  match (h.peerReceive output.other none).1 with
  | .received data _ => data
  | _ => []

/-- How a relay ends: with the text of what went wrong, if anything did, and
with an exit code. -/
def ending : Option (Except Relay.Failure Unit) → Option String × UInt32
  | some (.ok ()) => (none, 0)
  | some (.error failure) => (some (": ".intercalate failure.chain), 1)
  | none => (some "event loop did not come to an end", 1)

/-- Does what an invocation says, on a host that holds nothing but the
standard streams. -/
def relay (i : CommandLine.Invocation) (data : Bytes) : Option String × UInt32 × Bytes :=
  match Relay.run i.command i.path.toUTF8.toList i.config EventLoop.stepLimit (hostWith data) with
  | .ok result h =>
    let (text, code) := ending result
    (text, code, outputOf h)
  | .error condition h => (some condition.message, 101, outputOf h)

/-- Reads a stream to its end. -/
def readAll (stream : IO.FS.Stream) : IO ByteArray := do
  let mut data := ByteArray.empty
  let mut chunk ← stream.read 65536
  while !chunk.isEmpty do
    data := data ++ chunk
    chunk ← stream.read 65536
  return data

/-- Relays the standard streams as the arguments say. -/
def run (arguments : List String) : IO UInt32 := do
  match CommandLine.parse arguments with
  | .error refusal => return refusal.exitCode.toUInt32
  | .ok invocation =>
    let data ← readAll (← IO.getStdin)
    let (text, code, result) := relay invocation data.toList
    (← IO.getStdout).write ⟨result.toArray⟩
    match text with
    | some text => IO.eprintln ("Error: " ++ text)
    | none => pure ()
    return code

end LocalPipe.Program

def main (arguments : List String) : IO UInt32 :=
  LocalPipe.Program.run arguments
