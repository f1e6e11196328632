namespace LocalPipe

/-- A length of time. The clock and every deadline count in nanoseconds. -/
structure Duration where
  nanos : Nat
deriving DecidableEq, Repr

namespace Duration

def ofParts (seconds nanos : Nat) : Duration :=
  ⟨seconds * 1000000000 + nanos⟩

def ofSeconds (seconds : Nat) : Duration :=
  ofParts seconds 0

def seconds (d : Duration) : Nat :=
  d.nanos / 1000000000

/-- What is left of a duration beside its whole seconds. -/
def subsecond (d : Duration) : Nat :=
  d.nanos % 1000000000

/-- The longest wait that one poll can ask for, in milliseconds. -/
def longestPoll : Nat := 2147483647

/-- The milliseconds asked of a poll: whole microseconds rounded up, so that
a remainder still waits, and never more than one poll can ask for. -/
def pollMillis (d : Duration) : Nat :=
  min ((d.nanos / 1000 + 999) / 1000) longestPoll

/-- The moment at which a wait begun at `now` gives up. There is none when
its whole seconds do not fit a signed clock of 64 bits. -/
def deadline? (d : Duration) (now : Nat) : Option Nat :=
  if (now + d.nanos) / 1000000000 < 9223372036854775808 then some (now + d.nanos) else none

/-- The most whole seconds that one sleep can ask for. -/
def longestSleep : Nat := 9223372036854775807

/-- Seconds in pieces, each as long as one sleep can be but the last. -/
def sleepSeconds (seconds : Nat) : List Nat :=
  List.replicate (seconds / longestSleep) longestSleep ++
    [seconds % longestSleep].filter (0 < ·)

/-- A duration in pieces that one sleep each can ask for. What is left beside
the whole seconds goes with the first. -/
def sleepParts (d : Duration) : List Duration :=
  match sleepSeconds d.seconds with
  | [] => if d.subsecond = 0 then [] else [d]
  | first :: rest => ofParts first d.subsecond :: rest.map ofSeconds

/-- The digits of a fraction below `10 ^ width`, without trailing zeros. -/
def fractionDigits (width fraction : Nat) : List Char :=
  let digits := Nat.toDigits 10 fraction
  let padded := List.replicate (width - digits.length) '0' ++ digits
  (padded.reverse.dropWhile (· = '0')).reverse

/-- A count of units and a fraction of one, as a decimal. -/
def decimal (whole width fraction : Nat) : String :=
  if fraction = 0 then toString whole
  else toString whole ++ "." ++ String.ofList (fractionDigits width fraction)

/-- A duration in the largest unit of which it holds a whole one. -/
def text (d : Duration) : String :=
  if 1000000000 ≤ d.nanos then decimal d.seconds 9 d.subsecond ++ "s"
  else if 1000000 ≤ d.nanos then decimal (d.nanos / 1000000) 6 (d.nanos % 1000000) ++ "ms"
  else if 1000 ≤ d.nanos then decimal (d.nanos / 1000) 3 (d.nanos % 1000) ++ "µs"
  else toString d.nanos ++ "ns"

/-- What some counts come to together. -/
def total (counts : List Nat) : Nat :=
  counts.foldr (· + ·) 0

theorem total_append (first second : List Nat) :
    total (first ++ second) = total first + total second := by
  induction first with
  | nil => simp [total]
  | cons count rest ih =>
    simp only [total, List.cons_append, List.foldr_cons] at ih ⊢
    omega

theorem total_sleepSeconds (seconds : Nat) : total (sleepSeconds seconds) = seconds := by
  have whole : ∀ n, total (List.replicate n longestSleep) = longestSleep * n := by
    intro n
    induction n with
    | zero => rfl
    | succ n ih =>
      simp only [total, List.replicate_succ, List.foldr_cons, Nat.mul_succ] at ih ⊢
      omega
  have last : total ([seconds % longestSleep].filter (0 < ·)) = seconds % longestSleep := by
    by_cases none_left : seconds % longestSleep = 0
    · simp [total, none_left]
    · simp [total, Nat.pos_of_ne_zero none_left]
  rw [sleepSeconds, total_append, whole, last, Nat.div_add_mod]

theorem total_nanos_ofSeconds (pieces : List Nat) :
    total ((pieces.map ofSeconds).map nanos) = total pieces * 1000000000 := by
  induction pieces with
  | nil => rfl
  | cons first rest ih =>
    simp only [total, List.map_cons, List.foldr_cons, ofSeconds, ofParts] at ih ⊢
    omega

/-- The pieces of a sleep make up the whole of it. -/
theorem total_sleepParts (d : Duration) : total (d.sleepParts.map nanos) = d.nanos := by
  have all := total_sleepSeconds d.seconds
  have split_second : d.seconds * 1000000000 + d.subsecond = d.nanos := by
    rw [seconds, subsecond, Nat.mul_comm, Nat.div_add_mod]
  unfold sleepParts
  split
  · rename_i no_seconds
    simp only [no_seconds, total, List.foldr_nil] at all
    split
    · rename_i no_rest
      rw [← split_second, ← all, no_rest]
      rfl
    · simp [total]
  · rename_i first rest pieces
    have later := total_nanos_ofSeconds rest
    simp only [pieces, total, List.foldr_cons] at all later
    simp only [total, List.map_cons, List.foldr_cons, ofParts, later]
    rw [← split_second, ← all, Nat.add_mul, Nat.add_right_comm]

end Duration

/-- A count of nanoseconds as it is reported, which keeps 64 bits of it. -/
def reportedNanos (nanos : Nat) : Nat :=
  nanos % 18446744073709551616

end LocalPipe
