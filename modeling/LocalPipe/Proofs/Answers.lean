import LocalPipe.Proofs.Complaints
import LocalPipe.Proofs.Receiving
import LocalPipe.Proofs.Sending

namespace LocalPipe

open Host

/-- The way that a call moves bytes, if it moves any. -/
def Call.direction? : Call → Option Direction
  | .read _ _ _ => some .read
  | .write _ _ _ => some .write
  | _ => none

/-- A call on a descriptor that asks for at least one byte to move. -/
def Call.Asks (dir : Direction) (d : Descriptor) : Call → Prop
  | .read d' n _ => dir = .read ∧ d' = d ∧ 0 < n
  | .write d' data _ => dir = .write ∧ d' = d ∧ data ≠ []
  | _ => False

/-- The failure that an answer to a transfer comes to, and the direction that it ends: no
byte although one was asked for, or an error. To be interrupted, or to be told that nothing
goes for now, is no failure. -/
def Call.failure? : Call → Option (Direction × IoError)
  | .read _ _ (.ok data) => if data = [] then some (.read, .closedByPeer) else none
  | .read _ _ (.error e) => if e = .eagain ∨ e = .eintr then none else some (.read, .os e)
  | .write _ _ (.ok n) => if n = 0 then some (.write, .wroteNothing) else none
  | .write _ _ (.error e) => if e = .eagain ∨ e = .eintr then none else some (.write, .os e)
  | _ => none

/-- Whether a call was told that nothing goes for now. -/
def Call.wouldBlock : Call → Bool
  | .read _ _ (.error .eagain) | .write _ _ (.error .eagain) => true
  | _ => false

/-- The failures among some calls, the earliest first. -/
def failures (calls : List Call) : List (Direction × IoError) :=
  calls.reverse.filterMap Call.failure?

/-- The last transfer in a direction was told that nothing goes for now. -/
def Blocked (dir : Direction) (calls : List Call) : Prop :=
  ∃ call, calls.find? (·.direction? = some dir) = some call ∧ call.wouldBlock = true

/-- The failure of an operation, if it has failed. -/
def Outcome.failure? {α : Type} : Outcome α → Option IoError
  | .failed e => some e
  | _ => none

/-- The failure of the receiving worker, if it has failed. -/
def Reader.failure? : Except IoError Nat → Option IoError
  | .error e => some e
  | .ok _ => none

/-- The failure that the sending worker has met, if it has met one. -/
def Writer.failure? : Except SendFailure Nat → Option IoError
  | .error (.io e) => some e
  | _ => none

@[simp] theorem failures_nil : failures [] = [] :=
  rfl

@[simp] theorem failures_append (later earlier : List Call) :
    failures (later ++ earlier) = failures earlier ++ failures later := by
  simp [failures]

theorem failures_singleton (call : Call) : failures [call] = call.failure?.toList := by
  cases fails : call.failure? <;> simp [failures, fails]

theorem Call.Asks.direction? {dir : Direction} {d : Descriptor} {call : Call}
    (asks : call.Asks dir d) : call.direction? = some dir := by
  cases call <;> simp_all [Call.Asks, Call.direction?]

theorem Call.Asks.of_direction {dir dir' : Direction} {d : Descriptor} {call : Call}
    (asks : call.Asks dir d) (way : call.direction? = some dir') : call.Asks dir' d := by
  rw [asks.direction?] at way
  cases way
  exact asks

theorem Blocked.after {dir : Direction} {later earlier : List Call} (blocked : Blocked dir earlier)
    (others : ∀ call ∈ later, call.direction? ≠ some dir) : Blocked dir (later ++ earlier) := by
  obtain ⟨call, last, blocks⟩ := blocked
  have none_later : later.find? (·.direction? = some dir) = none := by
    simpa [List.find?_eq_none] using others
  exact ⟨call, by rw [List.find?_append, none_later, Option.none_or, last], blocks⟩

theorem Blocked.before {dir : Direction} {later : List Call} (blocked : Blocked dir later)
    (earlier : List Call) : Blocked dir (later ++ earlier) := by
  obtain ⟨call, last, blocks⟩ := blocked
  exact ⟨call, by rw [List.find?_append, last, Option.some_or], blocks⟩

namespace Host

theorem calls_of_read {h h' : Host} {d : Descriptor} {n : Nat} {result : Except Errno Bytes}
    (answer : h.read d n = (result, h')) : h'.calls = .read d n result :: h.calls := by
  have calls := h.calls_read d n
  rwa [answer] at calls

theorem calls_of_write {h h' : Host} {d : Descriptor} {data : Bytes} {result : Except Errno Nat}
    (answer : h.write d data = (result, h')) : h'.calls = .write d data result :: h.calls := by
  have calls := h.calls_write d data
  rwa [answer] at calls

/-- Transfers in one direction, each of which asks for at least one byte, that end with a
failure or without one. Nothing is logged about it yet. -/
structure Tries (dir : Direction) (d : Descriptor) (h : Host) (error? : Option IoError)
    (h' : Host) : Prop where
  calls : ∃ later, h'.calls = later ++ h.calls ∧ (∀ call ∈ later, call.Asks dir d) ∧
    failures later = (error?.map (dir, ·)).toList
  complaints : complaints h'.events = complaints h.events

variable {dir : Direction} {d : Descriptor} {h h' h'' : Host} {error? : Option IoError}

namespace Tries

theorem refl (h : Host) : h.Tries dir d none h :=
  ⟨⟨[], rfl, by simp, rfl⟩, rfl⟩

/-- Transfers that have not failed may be followed by others. -/
theorem trans (first : h.Tries dir d none h') (second : h'.Tries dir d error? h'') :
    h.Tries dir d error? h'' := by
  obtain ⟨early, calls, asks, nothing⟩ := first.calls
  obtain ⟨late, calls', asks', fails⟩ := second.calls
  refine ⟨⟨late ++ early, by rw [calls', calls, List.append_assoc], fun call member => ?_, ?_⟩,
    second.complaints.trans first.complaints⟩
  · rcases List.mem_append.mp member with latter | former
    · exact asks' call latter
    · exact asks call former
  · rw [failures_append, nothing, fails]
    rfl

theorem of_drained (h : Host) (direction : Direction) (length sent : Nat) :
    h.Tries dir d none (h.log (.drained direction length sent)) :=
  ⟨⟨[], rfl, by simp, rfl⟩, complaints_log rfl⟩

theorem of_read {n : Nat} {result : Except Errno Bytes} (answer : h.read d n = (result, h'))
    (positive : 0 < n)
    (fails : (Call.read d n result).failure? = error?.map (Direction.read, ·)) :
    h.Tries .read d error? h' := by
  have events := h.events_read d n
  rw [answer] at events
  refine ⟨⟨[.read d n result], calls_of_read answer, by simpa [Call.Asks] using positive, ?_⟩,
    by rw [events]⟩
  rw [failures_singleton, fails]

theorem of_write {data : Bytes} {result : Except Errno Nat} (answer : h.write d data = (result, h'))
    (some_left : data ≠ [])
    (fails : (Call.write d data result).failure? = error?.map (Direction.write, ·)) :
    h.Tries .write d error? h' := by
  have events := h.events_write d data
  rw [answer] at events
  refine ⟨⟨[.write d data result], calls_of_write answer, by simpa [Call.Asks] using some_left, ?_⟩,
    by rw [events]⟩
  rw [failures_singleton, fails]

end Tries

end Host

variable {d : Descriptor} {n : Nat} {data left : Bytes} {h h' : Host}

/-- Of the reads of a receive only the last one may fail, and then so does the receive. -/
theorem tries_receive (d : Descriptor) (h : Host) (positive : 0 < n) :
    h.Tries .read d (receive d n h).1.failure? (receive d n h).2 := by
  fun_induction receive d n h with
  | case1 h h' answer => exact .of_read answer positive rfl
  | case2 h data h' nonempty answer =>
    have some_data : data ≠ [] := fun nothing => nonempty nothing
    exact .of_read answer positive (by simp [Call.failure?, Outcome.failure?, some_data])
  | case3 h h' answer => exact .of_read answer positive rfl
  | case4 h h' answer ih => exact Tries.trans (.of_read answer positive rfl) ih
  | case5 h e h' unblocked uninterrupted answer =>
    have final : ¬ (e = .eagain ∨ e = .eintr) := not_or.mpr ⟨unblocked, uninterrupted⟩
    exact .of_read answer positive (by simp only [Call.failure?, if_neg final]; rfl)

/-- Of the writes of a transmission only the last one may fail, and then so does the
transmission. -/
theorem tries_transmit (d : Descriptor) (data : Bytes) (h : Host) :
    h.Tries .write d (transmit d data h).1.failure? (transmit d data h).2.2 := by
  fun_induction transmit d data h with
  | case1 => exact .refl _
  | case2 data h some_left h' answer => exact .of_write answer some_left rfl
  | case3 data h some_left n h' answer ih => exact Tries.trans (.of_write answer some_left rfl) ih
  | case4 data h some_left h' answer => exact .of_write answer some_left rfl
  | case5 data h some_left h' answer ih => exact Tries.trans (.of_write answer some_left rfl) ih
  | case6 data h some_left e h' unblocked uninterrupted answer =>
    have final : ¬ (e = .eagain ∨ e = .eintr) := not_or.mpr ⟨unblocked, uninterrupted⟩
    exact .of_write answer some_left (by simp only [Call.failure?, if_neg final]; rfl)

theorem Host.Tries.of_receive {outcome : Outcome Bytes} (positive : 0 < n)
    (answer : receive d n h = (outcome, h')) : h.Tries .read d outcome.failure? h' := by
  have tries := tries_receive d h positive
  rwa [answer] at tries

theorem Host.Tries.of_transmit {outcome : Outcome Unit}
    (answer : transmit d data h = (outcome, left, h')) : h.Tries .write d outcome.failure? h' := by
  have tries := tries_transmit d data h
  rwa [answer] at tries

/-- A receive that is left outstanding was told that nothing comes for now. -/
theorem blocked_of_receive (answer : receive d n h = (.pending, h')) :
    ∃ later, h'.calls = later ++ h.calls ∧ Blocked .read later := by
  fun_induction receive d n h with
  | case1 | case2 | case5 => cases answer
  | case3 h mid read =>
    cases answer
    exact ⟨[_], calls_of_read read, _, rfl, rfl⟩
  | case4 h mid read ih =>
    obtain ⟨later, calls, blocked⟩ := ih answer
    rw [calls_of_read read, List.append_cons] at calls
    exact ⟨_, calls, blocked.before _⟩

/-- A transmission that is left outstanding was told that nothing goes for now. -/
theorem blocked_of_transmit (answer : transmit d data h = (.pending, left, h')) :
    ∃ later, h'.calls = later ++ h.calls ∧ Blocked .write later := by
  fun_induction transmit d data h with
  | case1 | case2 | case6 => cases answer
  | case4 data h _ mid write =>
    cases answer
    exact ⟨[_], calls_of_write write, _, rfl, rfl⟩
  | case3 data h _ n mid write ih | case5 data h _ mid write ih =>
    obtain ⟨later, calls, blocked⟩ := ih answer
    rw [calls_of_write write, List.append_cons] at calls
    exact ⟨_, calls, blocked.before _⟩

namespace Reader

variable {lane : Lane} {moved : Nat} {answer : Except IoError Nat × Lane}

theorem Issues.tries (issues : Issues lane moved answer) :
    lane.host.Tries .read lane.transport.descriptor (failure? answer.1) answer.2.host := by
  induction issues with
  | full => exact .refl _
  | next room received _ ih => exact .trans (.of_receive (min_room_pos room) received) ih
  | pending room received => exact .of_receive (min_room_pos room) received
  | failed room received => exact .of_receive (min_room_pos room) received

theorem Run.tries (run : Run lane answer) :
    lane.host.Tries .read lane.transport.descriptor (failure? answer.1) answer.2.host := by
  cases run with
  | idle _ _ issues => exact issues.tries
  | withdrawn _ _ issues => exact .trans (.of_drained ..) issues.tries
  | pending _ some_room received => exact .of_receive (Nat.pos_of_ne_zero some_room) received
  | complete _ some_room received issues =>
    exact .trans (.of_receive (Nat.pos_of_ne_zero some_room) received) issues.tries
  | failed _ some_room received => exact .of_receive (Nat.pos_of_ne_zero some_room) received

end Reader

namespace Writer

variable {lane : Lane} {moved : Nat} {answer : Except SendFailure Nat × Lane}

theorem Issues.tries (issues : Issues lane moved answer) :
    lane.host.Tries .write lane.transport.descriptor (failure? answer.1) answer.2.host := by
  induction issues with
  | done => exact .refl _
  | next _ transmitted _ ih => exact .trans (.of_transmit transmitted) ih
  | pending _ transmitted => exact .of_transmit transmitted
  | failed _ transmitted => exact .of_transmit transmitted

theorem Run.tries (run : Run lane answer) :
    lane.host.Tries .write lane.transport.descriptor (failure? answer.1) answer.2.host := by
  cases run with
  | idle _ _ issues => exact issues.tries
  | pending _ transmitted => exact .of_transmit transmitted
  | complete _ transmitted issues => exact .trans (.of_transmit transmitted) issues.tries
  | failed _ transmitted => exact .of_transmit transmitted

end Writer

end LocalPipe
