import LocalPipe.Failure.Errno
import LocalPipe.Table
import LocalPipe.Text.Lossy

namespace LocalPipe

/-- The names from the root down to a place in the file tree. -/
abbrev Location := List Bytes

/-- What a name can stand for. A socket remembers the listener that made it. -/
inductive Node where
  | file (data : Bytes)
  | directory
  | symlink (target : Bytes)
  | socket (listener : Nat)
deriving DecidableEq, Repr

/-- The place of a thing among those that are shown by one name. -/
def Node.rank : Node → Nat
  | directory => 0
  | file _ => 1
  | socket _ => 2
  | symlink _ => 3

/-- The things that names stand for, by location. -/
structure FileTree where
  nodes : Table Location Node := {}
deriving DecidableEq, Repr

namespace FileTree

/-- The working directory lies below the root under a name that no path can
spell, so that the two dots lead out of it to where nothing else is. -/
def workingDirectory : Location := [[]]

def slash : UInt8 := 0x2F

def dot : Bytes := [0x2E]

def dotDot : Bytes := [0x2E, 0x2E]

/-- The longest name of one thing, and the longest path. -/
def nameMax : Nat := 255

def pathMax : Nat := 4096

/-- How many symbolic links one path may lead through. -/
def linkMax : Nat := 40

/-- A path cut at its slashes. -/
def pieces : Bytes → List Bytes
  | [] => [[]]
  | c :: rest =>
    if c = slash then [] :: pieces rest
    else
      match pieces rest with
      | [] => [[c]]
      | piece :: more => (c :: piece) :: more

/-- The names that a path goes through. -/
def components (path : Bytes) : List Bytes :=
  (pieces path).filter (· ≠ [])

/-- Where a path sets out from. -/
def origin (path : Bytes) (here : Location) : Location :=
  if path.head? = some slash then [] else here

/-- Whether a path can only lead to a directory. -/
def endsInSlash (path : Bytes) : Bool :=
  path.getLast? = some slash

def node? (t : FileTree) (l : Location) : Option Node :=
  if l = [] ∨ l = workingDirectory then some .directory else t.nodes.get? l

def isDirectory (t : FileTree) (l : Location) : Bool :=
  t.node? l = some .directory

/-- Where a walk along names ends: at something, at a name that is free in an
existing directory, at a symbolic link to be followed, or in an error. -/
inductive Walk where
  | found (place : Location)
  | missing (parent : Location) (name : Bytes)
  | link (parent : Location) (target : Bytes) (rest : List Bytes)
  | failed (errno : Errno)
deriving DecidableEq, Repr

/-- Walks along names. A link in the last place is followed if asked. -/
def walk (t : FileTree) (follow : Bool) : Location → List Bytes → Walk
  | l, [] => .found l
  | l, name :: rest =>
    if !t.isDirectory l then .failed .enotdir
    else if name = dot then t.walk follow l rest
    else if name = dotDot then t.walk follow l.dropLast rest
    else if nameMax < name.length then .failed .enametoolong
    else
      match t.node? (l ++ [name]) with
      | none => if rest = [] then .missing l name else .failed .enoent
      | some (.symlink target) =>
        if rest = [] ∧ !follow then .found (l ++ [name]) else .link l target rest
      | some _ => t.walk follow (l ++ [name]) rest

/-- Walks along names and through the symbolic links among them. -/
def resolve (t : FileTree) (follow : Bool) : Nat → Location → List Bytes → Bool → Walk
  | links, l, names, mustBeDirectory =>
    match t.walk (follow || mustBeDirectory) l names with
    | .found place =>
      if mustBeDirectory && !t.isDirectory place then .failed .enotdir else .found place
    | .link parent target rest =>
      match links with
      | 0 => .failed .eloop
      | links + 1 =>
        if target = [] then .failed .enoent
        else t.resolve follow links (origin target parent) (components target ++ rest)
          (mustBeDirectory || rest.isEmpty && endsInSlash target)
    | stop => stop

/-- Where a path leads, which may have to be a directory. -/
def reach (t : FileTree) (follow mustBeDirectory : Bool) (path : Bytes) : Walk :=
  if path = [] then .failed .enoent
  else if pathMax ≤ path.length then .failed .enametoolong
  else t.resolve follow linkMax (origin path workingDirectory) (components path) mustBeDirectory

/-- Where a path leads. A slash at its end makes it lead to a directory. -/
def lookup (t : FileTree) (follow : Bool) (path : Bytes) : Walk :=
  t.reach follow (endsInSlash path) path

/-- What a path names, a symbolic link itself included. -/
def stat (t : FileTree) (path : Bytes) : Except Errno Node :=
  match t.lookup false path with
  | .found place =>
    match t.node? place with
    | some node => .ok node
    | none => .error .enoent
  | .failed e => .error e
  | _ => .error .enoent

/-- Removes a name. A directory stays. -/
def unlink (t : FileTree) (path : Bytes) : Except Errno FileTree :=
  match t.lookup false path with
  | .found place =>
    if t.isDirectory place then .error .eisdir else .ok ⟨t.nodes.erase place⟩
  | .failed e => .error e
  | _ => .error .enoent

/-- Gives a name that is free to something new. The name of a symbolic link is
taken, also with a slash behind it and wherever the link leads. -/
def create (t : FileTree) (path : Bytes) (node : Node) : Except Errno FileTree :=
  match t.reach false false path with
  | .found _ => .error .eexist
  | .missing parent name =>
    if endsInSlash path && node ≠ .directory then .error .enoent
    else .ok ⟨t.nodes.set (parent ++ [name]) node⟩
  | .failed e => .error e
  | .link _ _ _ => .error .enoent

/-- The listener whose socket a path leads to. -/
def socketAt (t : FileTree) (path : Bytes) : Except Errno Nat :=
  match t.lookup true path with
  | .found place =>
    match t.node? place with
    | some (.socket listener) => .ok listener
    | _ => .error .econnrefused
  | .failed e => .error e
  | _ => .error .enoent

/-- Writes a file, new or in place of the one that is there. -/
def writeFile (t : FileTree) (path data : Bytes) : FileTree :=
  match t.lookup true path with
  | .found place =>
    match t.node? place with
    | some (.file _) => ⟨t.nodes.set place (.file data)⟩
    | _ => t
  | .missing parent name => ⟨t.nodes.set (parent ++ [name]) (.file data)⟩
  | _ => t

/-- The content of a file. -/
def readFile? (t : FileTree) (path : Bytes) : Option Bytes :=
  match t.lookup true path with
  | .found place =>
    match t.node? place with
    | some (.file data) => some data
    | _ => none
  | _ => none

/-- The things directly inside a directory, by name. -/
def children (t : FileTree) (l : Location) : List (Bytes × Node) :=
  t.nodes.entries.filterMap fun entry =>
    match entry.1.getLast? with
    | some name => if entry.1.dropLast = l then some (name, entry.2) else none
    | none => none

/-- The things inside the directory at a path. -/
def list (t : FileTree) (path : Bytes) : List (Bytes × Node) :=
  match t.lookup true path with
  | .found place => t.children place
  | _ => []

/-- Removes a name, that of an empty directory too. -/
def remove (t : FileTree) (path : Bytes) : FileTree :=
  match t.lookup false path with
  | .found place => if (t.children place).isEmpty then ⟨t.nodes.erase place⟩ else t
  | _ => t

end FileTree

end LocalPipe
