import LocalPipe.Script.Session

namespace LocalPipe.Script

open Session

/-- The order of what is shown: by name, and under one name by kind. -/
def shownBefore (a b : String × Node) : Bool :=
  a.1 < b.1 || a.1 = b.1 && a.2.rank ≤ b.2.rank

/-- The things in a directory by the names that are shown, in ascending
order. -/
def listing (children : List (Bytes × Node)) : List (String × Node) :=
  (children.map fun child => (Text.lossy child.1, child.2)).mergeSort shownBefore

/-- A step that looks at the file tree or changes it. One that cannot be done
changes nothing. -/
def runFiles : FileStep → Scripted Reply
  | .file name data => do
    host fun h => { h with files := h.files.writeFile name data }
    return .none
  | .directory name => do create name .directory
  | .symlink name target => do create name (.symlink target)
  | .stale name => do
    host fun h =>
      match h.listen name with
      | (.ok listener, h) => h.dropListener listener
      | (.error _, h) => h
    return .none
  | .listen listener name => do
    match ← ask (·.listen name) with
    | .ok number => do
      dropListener listener
      modify fun s => { s with listeners := s.listeners.set listener number }
    | .error _ => pure ()
    return .none
  | .unlisten listener => do
    dropListener listener
    return .none
  | .remove name => do
    host fun h => { h with files := h.files.remove name }
    return .none
  | .content name => do
    match ← ask fun h => (h.files.readFile? name, h) with
    | some data => return .bytes data
    | none => return .none
  | .list name => do return .entries (listing (← ask fun h => (h.files.list name, h)))
where
  dropListener (listener : String) : Scripted Unit := do
    match (← get).listeners.get? listener with
    | some number =>
      host (·.dropListener number)
      modify fun s => { s with listeners := s.listeners.erase listener }
    | none => pure ()
  create (name : Bytes) (node : Node) : Scripted Reply := do
    host fun h =>
      match h.files.create name node with
      | .ok files => { h with files }
      | .error _ => h
    return .none

end LocalPipe.Script
