import LocalPipe.Host.Basic

namespace LocalPipe

/-- A computation on a host that a fatal condition may cut short. The host
is then as it was at that moment. -/
abbrev Action := EStateM Fatal Host

namespace Action

variable {α : Type}

/-- A step that cannot fail. -/
def call (f : Host → α × Host) : Action α :=
  fun h => .ok (f h).1 (f h).2

def change (f : Host → Host) : Action Unit :=
  fun h => .ok () (f h)

def log (event : LogEvent) : Action Unit :=
  change (·.log event)

/-- Ends the program. -/
def fatal (condition : Fatal) : Action α :=
  fun h => .error condition (if condition.isLogged then h.log (.fatal condition) else h)

/-- The moment at which a wait that begins now gives up. -/
def deadline (timeout : Duration) : Action Nat :=
  fun h =>
    match timeout.deadline? h.now with
    | some moment => .ok moment h
    | none => fatal .deadlineOverflow h

end Action

end LocalPipe
