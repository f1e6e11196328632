import LocalPipe.CommandLine.Argument

namespace LocalPipe.CommandLine

/-- The values that were given, each at most once. -/
structure Given where
  path : Option String := none
  logLevel : Option String := none
  readBufferSize : Option Nat := none
  acceptTimeoutSecs : Option Nat := none
  writeTimeoutSecs : Option Nat := none
deriving DecidableEq, Repr

def Given.has (g : Given) : Opt → Bool
  | .logLevel => g.logLevel.isSome
  | .readBufferSize => g.readBufferSize.isSome
  | .acceptTimeoutSecs => g.acceptTimeoutSecs.isSome
  | .writeTimeoutSecs => g.writeTimeoutSecs.isSome

/-- Stores a number, if the text is one. -/
def Given.putNumber (text : String) (put : Nat → Given) : Except Refusal Given :=
  match number? text with
  | some n => .ok (put n)
  | none => .error .valueValidation

def Given.put (g : Given) (text : String) : Opt → Except Refusal Given
  | .logLevel => .ok { g with logLevel := some text }
  | .readBufferSize => putNumber text fun n => { g with readBufferSize := some n }
  | .acceptTimeoutSecs => putNumber text fun n => { g with acceptTimeoutSecs := some n }
  | .writeTimeoutSecs => putNumber text fun n => { g with writeTimeoutSecs := some n }

/-- An argument that was seen and not judged yet: it is judged when the next
one begins, or at the end. -/
inductive Pending where
  | none
  | path (text : String)
  | option (opt : Opt) (value : Option String)
deriving DecidableEq, Repr

/-- Gives an option its value. An option without one is refused first, then
a second value for the same option, then a value that does not fit. -/
def Given.settle (g : Given) (opt : Opt) : Option String → Except Refusal Given
  | none => .error .invalidValue
  | some text => if g.has opt then .error .argumentConflict else g.put text opt

/-- Judges the argument that was left. A path must not be empty. -/
def Given.resolve (g : Given) : Pending → Except Refusal Given
  | .none => .ok g
  | .path text => if text = "" then .error .invalidValue else .ok { g with path := some text }
  | .option opt value => g.settle opt value

/-- How far the arguments of one level are read. -/
structure Progress where
  given : Given := {}
  pending : Pending := .none
  escaped : Bool := false
  positionals : Nat := 0
deriving DecidableEq, Repr

/-- An option that still waits for its value. -/
def Progress.awaiting (p : Progress) : Option Opt :=
  match p.pending with
  | .option opt none => some opt
  | _ => none

def Progress.resolve (p : Progress) : Except Refusal Given :=
  p.given.resolve p.pending

/-- An option by its long name. An attached value is judged at once. -/
def Progress.option (p : Progress) (opt : Opt) : Option String → Except Refusal Progress
  | some value => do
    let given ← (← p.resolve).settle opt (some value)
    return { p with given, pending := .none }
  | none => do
    return { p with given := ← p.resolve, pending := .option opt none }

/-- Help and the version end the reading, once the argument before them is
judged. -/
def Progress.flag (p : Progress) (answer : Refusal) : Refusal :=
  match p.resolve with
  | .ok _ => answer
  | .error refusal => refusal

def Progress.long (p : Progress) (level : Level) (name : String) (attached : Option String) :
    Except Refusal Progress :=
  match level.long name with
  | .option opt => p.option opt attached
  | .help => .error (if attached.isSome then .tooManyValues else p.flag .displayHelp)
  | .version => .error (if attached.isSome then .tooManyValues else p.flag .displayVersion)
  | .unknown => .error .unknownArgument

/-- No short option takes a value, so the first of a cluster decides. -/
def Progress.short (p : Progress) (level : Level) (flags : List Char) : Refusal :=
  match flags.head?.map level.short with
  | some .help => p.flag .displayHelp
  | some .version => p.flag .displayVersion
  | _ => .unknownArgument

/-- A value after the subcommand: the path, of which there is one. -/
def Progress.positional (p : Progress) (text : String) : Except Refusal Progress :=
  if p.positionals = 0 then do
    return { p with given := ← p.resolve, pending := .path text, positionals := 1 }
  else .error .unknownArgument

/-- One argument after the subcommand. -/
def Progress.step (p : Progress) (argument : String) : Except Refusal Progress :=
  if p.escaped then p.positional argument
  else
    match Word.ofArgument argument with
    | .escape => .ok { p with escaped := true }
    | .long name attached => p.long .subcommand name attached
    | .short flags => .error (p.short .subcommand flags)
    | .plain text =>
      match p.awaiting with
      | some opt => .ok { p with pending := .option opt (some text) }
      | none => p.positional text

/-- All arguments after the subcommand. -/
def readSubcommand (p : Progress) : List String → Except Refusal Given
  | [] => p.resolve
  | argument :: rest => do readSubcommand (← p.step argument) rest

/-- The path, which every subcommand needs. -/
def Given.requiredPath (g : Given) : Except Refusal String :=
  match g.path with
  | some path => .ok path
  | none => .error .missingRequiredArgument

/-- The settings of an invocation. A value after the subcommand goes before
one given ahead of it, and either before the default. -/
def Given.invocation (g before : Given) (command : Command) (path : String) : Invocation where
  command := command
  path := path
  config :=
    (PipeConfig.withReadBufferSize default (g.readBufferSize.getD 65536)
      |>.withAcceptTimeout (.ofSeconds (g.acceptTimeoutSecs.getD 30))
      |>.withWriteTimeout (.ofSeconds (g.writeTimeoutSecs.getD 30)))
  logLevel := (g.logLevel <|> before.logLevel).getD "warn"

/-- The subcommands by name. `help` is one too, and has no more to it than
its answer. -/
inductive Subcommand where
  | run (command : Command)
  | help
deriving DecidableEq, Repr

def Subcommand.ofName? (name : String) : Option Subcommand :=
  if name = "connect" then some (.run .connect)
  else if name = "listen" then some (.run .listen)
  else if name = "help" then some .help
  else none

/-- What help was asked about: nothing more, or one subcommand. -/
def readHelp : List String → Refusal
  | [] => .displayHelp
  | [name] => if (Subcommand.ofName? name).isSome then .displayHelp else .invalidSubcommand
  | _ => .invalidSubcommand

/-- What is missing when the arguments end before a subcommand. -/
def Progress.unfinished (p : Progress) : Refusal :=
  match p.resolve with
  | .error refusal => refusal
  | .ok given => if given.logLevel.isSome then .missingSubcommand else .helpOnNothing

/-- A value before the subcommand that is none. After the mark that ends the
options, even a subcommand is taken for a stray value. -/
def Progress.stray (p : Progress) (text : String) : Refusal :=
  if p.escaped ∧ (Subcommand.ofName? text).isSome then .unknownArgument else .invalidSubcommand

/-- The arguments up to the subcommand, and then the rest of the line. -/
def readProgram (p : Progress) : List String → Except Refusal Invocation
  | [] => .error p.unfinished
  | argument :: rest =>
    if p.escaped then .error (p.stray argument)
    else
      match p.awaiting, Subcommand.ofName? argument with
      | none, some (.run command) => do
        let given ← readSubcommand {} rest
        let path ← given.requiredPath
        let before ← p.resolve
        return given.invocation before command path
      | none, some .help => .error (readHelp rest)
      | awaiting, _ =>
        match Word.ofArgument argument with
        | .escape => readProgram { p with escaped := true } rest
        | .long name attached => do readProgram (← p.long .program name attached) rest
        | .short flags => .error (p.short .program flags)
        | .plain text =>
          match awaiting with
          | some opt => readProgram { p with pending := .option opt (some text) } rest
          | none => .error (p.stray text)

/-- Reads the arguments after the program's name. -/
def parse (arguments : List String) : Except Refusal Invocation :=
  readProgram {} arguments

end LocalPipe.CommandLine
