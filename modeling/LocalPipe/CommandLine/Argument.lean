import LocalPipe.Endpoint.Config

namespace LocalPipe.CommandLine

/-- What the program does with its pipe: connect to a listening peer, or
listen for one. -/
inductive Command where
  | connect
  | listen
deriving DecidableEq, Repr

/-- A command line that was understood. -/
structure Invocation where
  command : Command
  path : String
  config : PipeConfig
  logLevel : String
deriving DecidableEq, Repr

/-- Why a command line is answered by a text instead of being run. -/
inductive Refusal where
  | displayHelp
  | displayVersion
  | helpOnNothing
  | missingSubcommand
  | invalidSubcommand
  | unknownArgument
  | missingRequiredArgument
  | argumentConflict
  | invalidValue
  | valueValidation
  | tooManyValues
deriving DecidableEq, Repr

/-- Help and the version are what was asked for. All else is misuse. -/
def Refusal.exitCode : Refusal → Nat
  | displayHelp | displayVersion => 0
  | _ => 2

/-- An argument by its shape: the mark after which nothing is an option, a
long option with the value attached to it, a cluster of short options, or
anything else. A lone hyphen is a value. -/
inductive Word where
  | escape
  | long (name : String) (attached : Option String)
  | short (flags : List Char)
  | plain (text : String)
deriving DecidableEq, Repr

/-- Splits what follows two hyphens at the first equals sign. -/
def Word.ofLong (body : List Char) : Word :=
  let name := String.ofList (body.takeWhile (· ≠ '='))
  match body.dropWhile (· ≠ '=') with
  | [] => .long name none
  | _ :: value => .long name (some (String.ofList value))

def Word.ofArgument (argument : String) : Word :=
  match argument.toList with
  | ['-', '-'] => .escape
  | '-' :: '-' :: body => Word.ofLong body
  | ['-'] => .plain argument
  | '-' :: flags => .short flags
  | _ => .plain argument

/-- The options that take a value. -/
inductive Opt where
  | logLevel
  | readBufferSize
  | acceptTimeoutSecs
  | writeTimeoutSecs
deriving DecidableEq, Repr

def Opt.name : Opt → String
  | logLevel => "log-level"
  | readBufferSize => "read-buffer-size"
  | acceptTimeoutSecs => "accept-timeout-secs"
  | writeTimeoutSecs => "write-timeout-secs"

/-- Where on the command line an argument stands: before the subcommand, or
after it. -/
inductive Level where
  | program
  | subcommand
deriving DecidableEq, Repr

/-- The options of a level. The log level may stand on either. -/
def Level.options : Level → List Opt
  | program => [.logLevel]
  | subcommand => [.logLevel, .readBufferSize, .acceptTimeoutSecs, .writeTimeoutSecs]

/-- What a long or a short name stands for. -/
inductive Meaning where
  | option (opt : Opt)
  | help
  | version
  | unknown
deriving DecidableEq, Repr

def Level.long (level : Level) (name : String) : Meaning :=
  if name = "help" then .help
  else if level = .program ∧ name = "version" then .version
  else
    match level.options.find? (·.name = name) with
    | some opt => .option opt
    | none => .unknown

def Level.short (level : Level) (flag : Char) : Meaning :=
  if flag = 'h' then .help
  else if level = .program ∧ flag = 'V' then .version
  else .unknown

/-- The value of a decimal digit. -/
def digit? (c : Char) : Option Nat :=
  if '0' ≤ c ∧ c ≤ '9' then some (c.toNat - '0'.toNat) else none

/-- A number of at least one digit and nothing else. -/
def digits? : List Char → Option Nat
  | [] => none
  | cs => cs.foldl (fun n c => n.bind fun n => (digit? c).map (n * 10 + ·)) (some 0)

/-- A number that fits 64 bits, with or without a plus sign before it. -/
def number? (text : String) : Option Nat :=
  let digits := match text.toList with
    | '+' :: rest => rest
    | cs => cs
  (digits? digits).filter (· < 18446744073709551616)

end LocalPipe.CommandLine
