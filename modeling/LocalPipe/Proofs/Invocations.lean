import LocalPipe.CommandLine.Reading
import Mathlib.Data.List.Perm.Basic
import Mathlib.Data.List.Nodup

namespace LocalPipe.CommandLine

/-- A text that can be given as a value, since it is not taken for an option. -/
structure Value where
  text : String
  nonempty : text ≠ ""
  unhyphened : text.toList.head? ≠ some '-'

theorem Value.toList_eq (v : Value) : ∃ c rest, v.text.toList = c :: rest ∧ c ≠ '-' := by
  cases chars : v.text.toList with
  | nil => exact absurd (String.toList_eq_nil_iff.mp chars) v.nonempty
  | cons c rest =>
    refine ⟨c, rest, rfl, fun hyphen => v.unhyphened ?_⟩
    rw [chars, hyphen]
    rfl

theorem Word.ofArgument_value (v : Value) : Word.ofArgument v.text = .plain v.text := by
  obtain ⟨c, rest, chars, ne⟩ := v.toList_eq
  rw [Word.ofArgument, chars]
  split <;> simp_all

theorem digit?_of_isDigit {c : Char} (isDigit : c.isDigit = true) :
    digit? c = some (c.toNat - '0'.toNat) := by
  rw [digit?, if_pos]
  simpa [Char.isDigit, Char.le_def] using isDigit

/-- Decimal digits are read from the left. -/
theorem foldl_digit? {digits : List Char} (all : ∀ c ∈ digits, c.isDigit = true) (init : Nat) :
    digits.foldl (fun n c => n.bind fun n => (digit? c).map (n * 10 + ·)) (some init) =
      some (Nat.ofDigitChars 10 digits init) := by
  induction digits generalizing init with
  | nil => rfl
  | cons c rest ih =>
    have first := digit?_of_isDigit (all c List.mem_cons_self)
    simp only [List.foldl_cons, Option.bind_some, first, Option.map_some]
    rw [ih fun c' member => all c' (List.mem_cons_of_mem _ member), Nat.mul_comm init 10]
    rfl

theorem isDigit_of_mem_toString {n : Nat} {c : Char} (member : c ∈ (toString n).toList) :
    c.isDigit = true := by
  rw [Nat.toString_eq_repr, Nat.toList_repr] at member
  exact Nat.isDigit_of_mem_toDigits (by decide) (by decide) member

theorem toList_toString_ne_nil (n : Nat) : (toString n).toList ≠ [] := by
  rw [Nat.toString_eq_repr, Nat.toList_repr]
  exact Nat.toDigits_ne_nil

/-- A number of 64 bits is read as it is written. -/
theorem number?_toString (n : UInt64) : number? (toString n.toNat) = some n.toNat := by
  have digits : digits? (toString n.toNat).toList = some n.toNat := by
    have all := fun c => isDigit_of_mem_toString (n := n.toNat) (c := c)
    have some_digit := toList_toString_ne_nil n.toNat
    rw [digits?]
    · rw [foldl_digit? all, Nat.toString_eq_repr, Nat.toList_repr, Nat.ofDigitChars_ten_toDigits]
    · exact some_digit
  have unsigned : ∀ rest, (toString n.toNat).toList ≠ '+' :: rest := fun rest signed => by
    have := isDigit_of_mem_toString (n := n.toNat) (c := '+')
      (by rw [signed]; exact List.mem_cons_self)
    revert this
    decide
  unfold number?
  split
  · rename_i rest signed
    exact absurd signed (unsigned rest)
  · change (digits? (toString n.toNat).toList).filter (· < 18446744073709551616) = some n.toNat
    rw [digits, Option.filter_some, if_pos]
    exact decide_eq_true n.toNat_lt

/-- The text of a number. -/
def Value.ofNumber (n : UInt64) : Value where
  text := toString n.toNat
  nonempty empty := toList_toString_ne_nil n.toNat (String.toList_eq_nil_iff.mpr empty)
  unhyphened hyphened := by
    have digit := isDigit_of_mem_toString (List.mem_of_mem_head? hyphened)
    exact absurd digit (by decide)

/-- What a command line says beside its subcommand, each with its value. -/
inductive Part where
  | path (value : Value)
  | logLevel (filter : Value)
  | readBufferSize (bytes : UInt64)
  | acceptTimeoutSecs (seconds : UInt64)
  | writeTimeoutSecs (seconds : UInt64)

namespace Part

/-- The option that a part is the value of, unless it is the path. -/
def opt? : Part → Option Opt
  | path _ => none
  | logLevel _ => some .logLevel
  | readBufferSize _ => some .readBufferSize
  | acceptTimeoutSecs _ => some .acceptTimeoutSecs
  | writeTimeoutSecs _ => some .writeTimeoutSecs

def value : Part → Value
  | path value => value
  | logLevel filter => filter
  | readBufferSize n | acceptTimeoutSecs n | writeTimeoutSecs n => .ofNumber n

end Part

/-- How an option and its value are put: as two arguments, or joined by an equals
sign. -/
inductive Spelling where
  | apart
  | joined

/-- The arguments that say a part. -/
def Part.arguments (part : Part) (spelling : Spelling) : List String :=
  match part.opt?, spelling with
  | none, _ => [part.value.text]
  | some opt, .apart => ["--" ++ opt.name, part.value.text]
  | some opt, .joined => ["--" ++ opt.name ++ "=" ++ part.value.text]

theorem Part.arguments_apart {part : Part} {opt : Opt} (names : part.opt? = some opt) :
    part.arguments .apart = ["--" ++ opt.name, part.value.text] := by
  simp only [arguments, names]

theorem Part.arguments_joined {part : Part} {opt : Opt} (names : part.opt? = some opt) :
    part.arguments .joined = ["--" ++ opt.name ++ "=" ++ part.value.text] := by
  simp only [arguments, names]

/-- Parts one after the other, each in its spelling. -/
def argumentsOf (parts : List (Part × Spelling)) : List String :=
  parts.flatMap fun (part, spelling) => part.arguments spelling

theorem argumentsOf_singleton (part : Part) (spelling : Spelling) :
    argumentsOf [(part, spelling)] = part.arguments spelling :=
  List.append_nil _

def Command.name : Command → String
  | connect => "connect"
  | listen => "listen"

/-- What is asked of the program, with the options that are given. -/
structure Request where
  command : Command
  path : Value
  logLevel : Option Value := none
  readBufferSize : Option UInt64 := none
  acceptTimeoutSecs : Option UInt64 := none
  writeTimeoutSecs : Option UInt64 := none

namespace Request

/-- All that a command line has to say for a request. -/
def parts (r : Request) : List Part :=
  .path r.path :: (r.logLevel.map .logLevel).toList ++
    (r.readBufferSize.map .readBufferSize).toList ++
    (r.acceptTimeoutSecs.map .acceptTimeoutSecs).toList ++
    (r.writeTimeoutSecs.map .writeTimeoutSecs).toList

/-- The command lines that ask for something: all is said once, in any order and in any
spelling, after the name of the subcommand or, if it is the log level, before it. -/
inductive SaidBy (r : Request) : List String → Prop
  | line {before after : List (Part × Spelling)} :
      ((before ++ after).map Prod.fst).Perm r.parts →
      (∀ part ∈ before, part.1.opt? = some .logLevel) →
      SaidBy r (argumentsOf before ++ r.command.name :: argumentsOf after)

/-- What a request comes to, with the defaults for what is not given. -/
def invocation (r : Request) : Invocation where
  command := r.command
  path := r.path.text
  config := { (default : PipeConfig) with
    readBufferSize := (r.readBufferSize.map UInt64.toNat).getD 65536
    acceptTimeout := .ofSeconds ((r.acceptTimeoutSecs.map UInt64.toNat).getD 30)
    writeTimeout := .ofSeconds ((r.writeTimeoutSecs.map UInt64.toNat).getD 30) }
  logLevel := (r.logLevel.map Value.text).getD "warn"

end Request

/-- The values that were given, and one more. -/
def Given.add (g : Given) : Part → Given
  | .path value => { g with path := some value.text }
  | .logLevel filter => { g with logLevel := some filter.text }
  | .readBufferSize n => { g with readBufferSize := some n.toNat }
  | .acceptTimeoutSecs n => { g with acceptTimeoutSecs := some n.toNat }
  | .writeTimeoutSecs n => { g with writeTimeoutSecs := some n.toNat }

/-- An option, or else the path, was not given. -/
def Given.Lacks (g : Given) : Option Opt → Prop
  | none => g.path = none
  | some opt => g.has opt = false

section

variable {g : Given} {part part' : Part} {p : Progress} {spelling : Spelling}

theorem Given.lacks_add {opt : Option Opt} (lacks : g.Lacks opt) (other : part.opt? ≠ opt) :
    (g.add part).Lacks opt := by
  cases part <;> rcases opt with _ | _ | _ <;>
    first | exact absurd rfl other | exact lacks

/-- Different options go to different places. -/
theorem Given.add_comm (g : Given) (apart : part.opt? ≠ part'.opt?) :
    (g.add part).add part' = (g.add part').add part := by
  cases part <;> cases part' <;> first | exact absurd rfl apart | rfl

theorem Given.putNumber_ofNumber (n : UInt64) (put : Nat → Given) :
    putNumber (Value.ofNumber n).text put = .ok (put n.toNat) := by
  rw [putNumber, Value.ofNumber, number?_toString]

theorem Given.put_value {opt : Opt} (names : part.opt? = some opt) :
    g.put part.value.text opt = .ok (g.add part) := by
  cases part <;> cases names <;> first | rfl | exact putNumber_ofNumber _ _

/-- A value that is settled goes to the place of its option. -/
theorem Given.settle_value {opt : Opt} (names : part.opt? = some opt)
    (lacks : g.Lacks part.opt?) : g.settle opt (some part.value.text) = .ok (g.add part) := by
  rw [names] at lacks
  have free : g.has opt = false := lacks
  simp [settle, free, put_value names]

/-- Some values are read so far, and what comes next begins with a new argument. -/
structure Progress.Reads (p : Progress) (g : Given) : Prop where
  resolved : p.resolve = .ok g
  unescaped : p.escaped = false
  settled : p.awaiting = none
  positionals : g.path = none → p.positionals = 0

theorem Word.ofArgument_apart (opt : Opt) :
    Word.ofArgument ("--" ++ opt.name) = .long opt.name none := by
  cases opt <;> decide +kernel

theorem Word.ofArgument_joined (opt : Opt) (text : String) :
    Word.ofArgument ("--" ++ opt.name ++ "=" ++ text) = .long opt.name (some text) := by
  cases opt <;> simp [Word.ofArgument, Opt.name, Word.ofLong]

theorem Level.long_name (opt : Opt) : Level.subcommand.long opt.name = .option opt := by
  cases opt <;> decide +kernel

theorem Given.path_add {opt : Opt} (names : part.opt? = some opt) : (g.add part).path = g.path := by
  cases part <;> cases names <;> rfl

theorem readSubcommand_cons {p' : Progress} {argument : String} (rest : List String)
    (step : p.step argument = .ok p') :
    readSubcommand p (argument :: rest) = readSubcommand p' rest := by
  rw [readSubcommand, step]
  rfl

namespace Progress.Reads

/-- After the subcommand, the path is taken as it is. -/
theorem step_path (value : Value) (reads : p.Reads g) (lacks : g.path = none) :
    ∃ p', p'.Reads (g.add (.path value)) ∧ p.step value.text = .ok p' := by
  refine ⟨{ p with given := g, pending := .path value.text, positionals := 1 },
    ⟨?_, reads.unescaped, rfl, nofun⟩, ?_⟩
  · rw [resolve, Given.resolve, if_neg value.nonempty]
    rfl
  · simp only [step, reads.unescaped, Word.ofArgument_value, reads.settled, positional,
      reads.positionals lacks, reads.resolved]
    rfl

/-- A value that is joined to its option is settled at once. -/
theorem step_joined {opt : Opt} (reads : p.Reads g) (names : part.opt? = some opt)
    (lacks : g.Lacks part.opt?) :
    ∃ p', p'.Reads (g.add part) ∧
      p.step ("--" ++ opt.name ++ "=" ++ part.value.text) = .ok p' := by
  refine ⟨{ p with given := g.add part, pending := .none }, ⟨rfl, reads.unescaped, rfl, ?_⟩, ?_⟩
  · rw [Given.path_add names]
    exact reads.positionals
  · simp only [step, reads.unescaped, Word.ofArgument_joined, long, Level.long_name, option,
      reads.resolved, bind, Except.bind, Given.settle_value names lacks]
    rfl

/-- A value apart from its option is settled when the next argument begins. -/
theorem step_apart {opt : Opt} (reads : p.Reads g) (names : part.opt? = some opt)
    (lacks : g.Lacks part.opt?) :
    ∃ mid p', p'.Reads (g.add part) ∧ p.step ("--" ++ opt.name) = .ok mid ∧
      mid.step part.value.text = .ok p' := by
  refine ⟨{ p with given := g, pending := .option opt none },
    { p with given := g, pending := .option opt (some part.value.text) },
    ⟨Given.settle_value names lacks, reads.unescaped, rfl, ?_⟩, ?_, ?_⟩
  · rw [Given.path_add names]
    exact reads.positionals
  · simp only [step, reads.unescaped, Word.ofArgument_apart, long, Level.long_name, option,
      reads.resolved]
    rfl
  · simp only [step, reads.unescaped, Word.ofArgument_value, awaiting]
    rfl

/-- Each part is read, however it is spelled. -/
theorem arguments (reads : p.Reads g) (lacks : g.Lacks part.opt?) (spelling : Spelling)
    (rest : List String) :
    ∃ p', p'.Reads (g.add part) ∧
      readSubcommand p (part.arguments spelling ++ rest) = readSubcommand p' rest := by
  cases names : part.opt? with
  | none =>
    cases part with
    | path value =>
      obtain ⟨p', reads', step⟩ := reads.step_path value lacks
      exact ⟨p', reads', readSubcommand_cons rest step⟩
    | _ => cases names
  | some opt =>
    cases spelling with
    | joined =>
      obtain ⟨p', reads', step⟩ := reads.step_joined names lacks
      refine ⟨p', reads', ?_⟩
      rw [Part.arguments_joined names]
      exact readSubcommand_cons rest step
    | apart =>
      obtain ⟨mid, p', reads', first, second⟩ := reads.step_apart names lacks
      refine ⟨p', reads', ?_⟩
      rw [Part.arguments_apart names]
      exact (readSubcommand_cons _ first).trans (readSubcommand_cons rest second)

/-- Parts for different places are all read, in whatever order and spelling. -/
theorem argumentsOf {parts : List (Part × Spelling)} (reads : p.Reads g)
    (lacks : ∀ part ∈ parts, g.Lacks part.1.opt?)
    (apart : (parts.map (·.1.opt?)).Nodup) :
    readSubcommand p (argumentsOf parts) = .ok ((parts.map Prod.fst).foldl Given.add g) := by
  induction parts generalizing p g with
  | nil => exact reads.resolved
  | cons first rest ih =>
    obtain ⟨part, spelling⟩ := first
    obtain ⟨fresh, apart'⟩ := List.nodup_cons.mp apart
    obtain ⟨p', reads', step⟩ := reads.arguments (lacks _ List.mem_cons_self) spelling
      (CommandLine.argumentsOf rest)
    have lacks' : ∀ later ∈ rest, (g.add part).Lacks later.1.opt? := fun later member =>
      Given.lacks_add (lacks later (List.mem_cons_of_mem _ member)) fun same =>
        fresh (List.mem_map.mpr ⟨later, member, same.symm⟩)
    exact step.trans (ih reads' lacks' apart')

end Progress.Reads

/-- A subcommand ends what is before it, and the rest of the line is its own. -/
theorem readProgram_name {given before : Given} {path : String} {rest : List String}
    (reads : p.Reads before) (command : Command) (read : readSubcommand {} rest = .ok given)
    (present : given.path = some path) :
    readProgram p (command.name :: rest) = .ok (given.invocation before command path) := by
  have named : Subcommand.ofName? command.name = some (.run command) := by
    cases command <;> decide +kernel
  simp only [readProgram, reads.unescaped, reads.settled, named, read, reads.resolved,
    Given.requiredPath, present, bind, Except.bind]
  rfl

/-- No subcommand begins with a hyphen. -/
theorem ofName?_hyphened {argument : String} (hyphened : argument.toList.head? = some '-') :
    Subcommand.ofName? argument = none := by
  have ne {name : String} (unhyphened : name.toList.head? ≠ some '-') : argument ≠ name :=
    fun same => unhyphened (same ▸ hyphened)
  rw [Subcommand.ofName?, if_neg (ne (by decide +kernel)), if_neg (ne (by decide +kernel)),
    if_neg (ne (by decide +kernel))]

theorem readProgram_long {argument name : String} {attached : Option String} {p' : Progress}
    (unescaped : p.escaped = false) (settled : p.awaiting = none)
    (hyphened : argument.toList.head? = some '-')
    (word : Word.ofArgument argument = .long name attached)
    (long : p.long .program name attached = .ok p') (rest : List String) :
    readProgram p (argument :: rest) = readProgram p' rest := by
  simp only [readProgram, unescaped, settled, ofName?_hyphened hyphened, word, long]
  rfl

/-- What an option waits for is its value, even if a subcommand has that name. -/
theorem readProgram_value {opt : Opt} (unescaped : p.escaped = false)
    (awaits : p.awaiting = some opt) (value : Value) (rest : List String) :
    readProgram p (value.text :: rest) =
      readProgram { p with pending := .option opt (some value.text) } rest := by
  simp only [readProgram, unescaped, awaits, Word.ofArgument_value]
  rfl

/-- The log level may be given before the subcommand as after it. -/
theorem readProgram_logLevel (filter : Value) (spelling : Spelling) (rest : List String) :
    ∃ p, Progress.Reads p { logLevel := some filter.text } ∧
      readProgram {} ((Part.logLevel filter).arguments spelling ++ rest) = readProgram p rest := by
  have meaning : Level.program.long Opt.logLevel.name = .option .logLevel := by decide +kernel
  cases spelling with
  | joined =>
    refine ⟨{ given := { logLevel := some filter.text } }, ⟨rfl, rfl, rfl, fun _ => rfl⟩, ?_⟩
    rw [Part.arguments_joined rfl]
    refine readProgram_long rfl rfl (by simp) (Word.ofArgument_joined _ _) ?_ rest
    rw [Progress.long, meaning]
    rfl
  | apart =>
    refine ⟨{ pending := .option .logLevel (some filter.text) }, ⟨rfl, rfl, rfl, fun _ => rfl⟩, ?_⟩
    have named : Progress.long {} .program Opt.logLevel.name none =
        .ok { pending := .option .logLevel none } := by
      rw [Progress.long, meaning]
      rfl
    rw [Part.arguments_apart rfl]
    exact (readProgram_long rfl rfl (by simp) (Word.ofArgument_apart _) named _).trans
      (readProgram_value rfl rfl filter rest)

end

namespace Request

variable {r : Request}

theorem nodup_parts (r : Request) : (r.parts.map Part.opt?).Nodup := by
  obtain ⟨_, _, _ | _, _ | _, _ | _, _ | _⟩ := r <;> simp [parts, Part.opt?]

/-- The values of a request. -/
def given (r : Request) : Given where
  path := some r.path.text
  logLevel := r.logLevel.map Value.text
  readBufferSize := r.readBufferSize.map UInt64.toNat
  acceptTimeoutSecs := r.acceptTimeoutSecs.map UInt64.toNat
  writeTimeoutSecs := r.writeTimeoutSecs.map UInt64.toNat

theorem foldl_parts (r : Request) : r.parts.foldl Given.add {} = r.given := by
  obtain ⟨_, _, _ | _, _ | _, _ | _, _ | _⟩ := r <;> rfl

/-- The order in which all is said does not matter. -/
theorem foldl_perm {parts : List Part} (perm : parts.Perm r.parts) :
    parts.foldl Given.add {} = r.given := by
  have apart : (parts.map Part.opt?).Nodup := (perm.map _).nodup_iff.mpr r.nodup_parts
  rw [← r.foldl_parts]
  refine perm.foldl_eq' (fun part member part' member' g => ?_) _
  by_cases same : part.opt? = part'.opt?
  · rw [List.inj_on_of_nodup_map apart member member' same]
  · exact g.add_comm same

theorem invocation_eq (r : Request) :
    r.given.invocation {} r.command r.path.text = r.invocation := by
  have unchanged {filter : Option String} : (filter <|> none) = filter := by cases filter <;> rfl
  rw [Given.invocation, unchanged]
  rfl

end Request

theorem Given.lacks_foldl {g : Given} {opt : Option Opt} {parts : List Part}
    (lacks : g.Lacks opt) (others : ∀ part ∈ parts, part.opt? ≠ opt) :
    (parts.foldl Given.add g).Lacks opt := by
  induction parts generalizing g with
  | nil => exact lacks
  | cons first rest ih =>
    exact ih (lacks_add lacks (others first List.mem_cons_self)) fun part member =>
      others part (List.mem_cons_of_mem _ member)

/-- A log level that was given ahead of the subcommand counts as one given after it. -/
theorem Given.invocation_add {g : Given} {filter : Value} (lacks : g.Lacks (some .logLevel))
    (command : Command) (path : String) :
    g.invocation { logLevel := some filter.text } command path =
      (g.add (.logLevel filter)).invocation {} command path := by
  have missing : g.logLevel = none :=
    Option.isNone_iff_eq_none.mp (Option.isSome_eq_false_iff.mp lacks)
  rw [invocation, missing]
  rfl

/-- What is given ahead of the subcommand is the log level or nothing. -/
theorem Part.early_cases {before : List (Part × Spelling)}
    (early : ∀ part ∈ before, part.1.opt? = some .logLevel)
    (apart : (before.map (·.1.opt?)).Nodup) :
    before = [] ∨ ∃ filter spelling, before = [(.logLevel filter, spelling)] := by
  match before with
  | [] => exact Or.inl rfl
  | [(part, spelling)] =>
    have names := early _ List.mem_cons_self
    cases part with
    | logLevel filter => exact Or.inr ⟨filter, spelling, rfl⟩
    | _ => cases names
  | first :: second :: rest =>
    have one := early first List.mem_cons_self
    have other := early second (List.mem_cons_of_mem _ List.mem_cons_self)
    have same : first.1.opt? = second.1.opt? := one.trans other.symm
    exact absurd (List.mem_cons.mpr (Or.inl same)) (List.nodup_cons.mp apart).1

/-- Every command line for a request is understood, and comes to what was asked for. In
whatever order and spelling all is said, and whether the log level stands before the
subcommand or after it, each value goes to its own place, and only what is not given is
left at its default. -/
theorem parse_of_saidBy {r : Request} {line : List String} (said : r.SaidBy line) :
    parse line = .ok r.invocation := by
  cases said with
  | @line before after perm early =>
    have start : Progress.Reads {} {} := ⟨rfl, rfl, rfl, fun _ => rfl⟩
    have apart := (perm.map Part.opt?).nodup_iff.mpr r.nodup_parts
    rw [List.map_map, List.map_append] at apart
    obtain ⟨apartBefore, apartAfter, disjoint⟩ := List.nodup_append.mp apart
    have read := start.argumentsOf (fun part _ => by cases part.1 <;> rfl) apartAfter
    rw [← r.invocation_eq]
    rcases Part.early_cases early apartBefore with rfl | ⟨filter, spelling, rfl⟩
    · have given : (after.map Prod.fst).foldl Given.add {} = r.given := r.foldl_perm perm
      rw [given] at read
      exact readProgram_name start r.command read rfl
    · obtain ⟨p, reads, first⟩ := readProgram_logLevel filter spelling
        (r.command.name :: argumentsOf after)
      have last : (after.map Prod.fst ++ [Part.logLevel filter]).Perm r.parts :=
        (List.perm_append_singleton _ _).trans perm
      have given := r.foldl_perm last
      have lacks : ((after.map Prod.fst).foldl Given.add {}).Lacks (some .logLevel) := by
        refine Given.lacks_foldl (show Given.Lacks {} _ from rfl) fun part member names => ?_
        obtain ⟨spelled, member', rfl⟩ := List.mem_map.mp member
        exact disjoint _ List.mem_cons_self _ (List.mem_map.mpr ⟨spelled, member', rfl⟩) names.symm
      rw [List.foldl_append] at given
      have path := congrArg Given.path given
      have whole := readProgram_name reads r.command read path
      rw [Given.invocation_add lacks] at whole
      rw [parse, argumentsOf_singleton, first, whole, ← given]
      rfl

/-- A log level that is named like a subcommand, given before another, and a path with an
equals sign. -/
theorem parse_of_saidBy_mixed :
    parse ["--log-level", "connect", "listen", "--read-buffer-size=7", "a=b"] =
      .ok { command := .listen, path := "a=b", config := { readBufferSize := 7 },
            logLevel := "connect" } := by
  let filter : Value := ⟨"connect", by decide, by decide +kernel⟩
  let path : Value := ⟨"a=b", by decide, by decide +kernel⟩
  let r : Request := { command := .listen, path, logLevel := some filter, readBufferSize := some 7 }
  have said : r.SaidBy (argumentsOf [(.logLevel filter, .apart)] ++ Command.listen.name ::
      argumentsOf [(.readBufferSize 7, .joined), (.path path, .apart)]) := by
    refine .line ?_ fun part member => ?_
    · exact List.perm_append_singleton (Part.path path)
        [Part.logLevel filter, Part.readBufferSize 7]
    · obtain rfl := List.mem_singleton.mp member
      rfl
  have line : argumentsOf [(.logLevel filter, .apart)] ++ Command.listen.name ::
      argumentsOf [(.readBufferSize 7, .joined), (.path path, .apart)] =
        ["--log-level", "connect", "listen", "--read-buffer-size=7", "a=b"] := by
    decide +kernel
  rw [← line, parse_of_saidBy said]
  rfl

end LocalPipe.CommandLine
