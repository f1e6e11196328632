import Mathlib.Data.List.Permutation
import LocalPipe.Proofs.Handles
import LocalPipe.Proofs.ImmediateWrites
import LocalPipe.Proofs.Remainders
import LocalPipe.Proofs.Uses

namespace LocalPipe

open Host

/-- The time during which an endpoint was connected and could write, with the calls
that its services and its close made then. -/
structure Stretch where
  descriptor : Descriptor
  calls : List Call := []

namespace Stretch

/-- What the writes of a stretch have placed. -/
def placed (s : Stretch) : Bytes :=
  outbound s.descriptor s.calls

/-- What the last write of a stretch has left. It is dropped if the stretch ends
there. -/
def rest (s : Stretch) : Bytes :=
  (refused? s.descriptor s.calls).getD []

/-- The stretch goes on for some calls. -/
def extend (s : Stretch) (later : List Call) : Stretch :=
  { s with calls := later ++ s.calls }

theorem placed_extend (s : Stretch) (later : List Call) :
    (s.extend later).placed = s.placed ++ outbound s.descriptor later :=
  outbound_append ..

theorem rest_extend (s : Stretch) (later : List Call) :
    (s.extend later).rest = (refused? s.descriptor later).getD s.rest := by
  rw [rest, extend, refused?_append, rest]
  cases refused? s.descriptor later <;> rfl

end Stretch

theorem Worker.Sends.length_unaccepted {w : Worker} {slot : Option Operation}
    (sends : w.Sends slot) : (w.unaccepted slot).length ≤ w.capacity := by
  have whole := sends.chunk
  cases sends.agrees with
  | idle => exact Nat.zero_le _
  | pending state _ within _ =>
    simp only [Worker.pendingSize, state] at whole
    rw [Worker.unaccepted, List.length_drop]
    omega

/-- The descriptor that an endpoint writes on, if it is connected and writes at
all. -/
def Endpoint.outlet? (ep : Endpoint) : Option Descriptor :=
  ep.connection.bind fun c => c.writer.map fun _ => c.transport.descriptor

section

variable {ep : Endpoint} {c : Connection}

theorem Endpoint.outlet?_of_connected (connected : ep.connection = some c) :
    ep.outlet? = c.writer.map fun _ => c.transport.descriptor := by
  rw [outlet?, connected]
  rfl

theorem Endpoint.unaccepted_of_connected (connected : ep.connection = some c) :
    ep.unaccepted = c.unaccepted := by
  rw [unaccepted, connected]

theorem Endpoint.unsent_of_connected (connected : ep.connection = some c) :
    ep.unsent = c.unsent ep.queues := by
  rw [unsent, unaccepted_of_connected connected, Connection.unsent]

/-- An endpoint that does not write has nothing outstanding to be accepted. -/
theorem Endpoint.unaccepted_of_no_outlet (closed : ep.outlet? = none) : ep.unaccepted = [] := by
  rw [unaccepted]
  split
  · rename_i c connected
    have missing : c.writer = none := by
      simpa [outlet?, connected] using closed
    rw [Connection.unaccepted, missing]
  · rfl

end

/-- What was written to an endpoint since it was made, and on which connections it
has gone out, the first one first. Immediate writes are left out. -/
structure Ledger where
  written : Bytes := []
  ended : List Stretch := []
  present : Option Stretch := none

namespace Ledger

/-- What the stretches that have ended account for: what each has placed, and what
was dropped at its end. -/
def settled (l : Ledger) : Bytes :=
  l.ended.flatMap fun s => s.placed ++ s.rest

/-- What the present stretch has placed so far. -/
def ongoing (l : Ledger) : Bytes :=
  match l.present with
  | some s => s.placed
  | none => []

/-- A stretch goes on, ends, or begins, as the endpoint has a descriptor to write on
after some calls. -/
def follow (l : Ledger) (later : List Call) (outlet : Option Descriptor) : Ledger :=
  match l.present, outlet with
  | some s, some _ => { l with present := some (s.extend later) }
  | some s, none => { l with ended := l.ended ++ [s.extend later], present := none }
  | none, some descriptor => { l with present := some { descriptor } }
  | none, none => l

/-- A use is entered with the calls that it has made and the endpoint that it has
left. -/
def enter (l : Ledger) (use : Endpoint.Use) (later : List Call) (ep' : Endpoint) : Ledger :=
  match use with
  | .write data => { l with written := l.written ++ data }
  | .writeImmediately _ => l
  | _ => l.follow later ep'.outlet?

end Ledger

/-- The states of an endpoint that its uses lead to, each with what is entered on the
way. -/
inductive LedgerReach (config : PipeConfig) : Ledger → Endpoint → Prop
  | start : LedgerReach config {} (.ofConfig config)
  | use {l ep ep' h h'} (use : Endpoint.Use) : LedgerReach config l ep →
      ep.perform use h = .ok ep' h' →
      LedgerReach config (l.enter use (h'.since h.calls) ep') ep'

/-- Forgetting the ledger leaves the states that uses lead to. -/
theorem LedgerReach.forget {config : PipeConfig} {l : Ledger} {ep : Endpoint}
    (reach : LedgerReach config l ep) : EndpointReach config ep := by
  induction reach with
  | start => exact .start
  | use use _ performed ih => exact .use use ih performed

/-- A ledger can be kept of whatever is done with an endpoint. -/
theorem EndpointReach.kept {config : PipeConfig} {ep : Endpoint} (reach : EndpointReach config ep) :
    ∃ l, LedgerReach config l ep := by
  induction reach with
  | start => exact ⟨{}, .start⟩
  | use use _ performed ih =>
    obtain ⟨l, kept⟩ := ih
    exact ⟨_, .use use kept performed⟩

namespace Ledger

variable {config : PipeConfig} {l : Ledger} {ep ep' : Endpoint} {d : Descriptor}
  {later : List Call} {rest : Bytes}

/-- A ledger accounts for every byte that was written: it was placed, was dropped at
the end of a stretch, or is unsent. -/
structure Balances (config : PipeConfig) (l : Ledger) (ep : Endpoint) : Prop where
  whole : l.written = l.settled ++ l.ongoing ++ ep.unsent
  outlet : l.present.map (·.descriptor) = ep.outlet?
  rest : ∀ s, l.present = some s → s.rest = ep.unaccepted
  small : ∀ s ∈ l.ended, s.rest.length ≤ config.ioSize

namespace Balances

theorem present_of_outlet (balances : l.Balances config ep) (opened : ep.outlet? = some d) :
    ∃ s, l.present = some s ∧ s.descriptor = d := by
  have outlet := balances.outlet
  rw [opened] at outlet
  exact Option.map_eq_some_iff.mp outlet

theorem present_of_no_outlet (balances : l.Balances config ep) (closed : ep.outlet? = none) :
    l.present = none := by
  have outlet := balances.outlet
  rw [closed] at outlet
  exact Option.map_eq_none_iff.mp outlet

/-- A stretch goes on over some calls that show what becomes of the unsent bytes. -/
theorem goes_on (balances : l.Balances config ep) (opened : ep.outlet? = some d)
    (opened' : ep'.outlet? = some d)
    (unsent : ep.unsent = outbound d later ++ rest ++ ep'.queues.output)
    (rest_eq : rest = (refused? d later).getD ep.unaccepted) (kept : rest = ep'.unaccepted) :
    (l.follow later ep'.outlet?).Balances config ep' := by
  obtain ⟨s, present, descriptor⟩ := balances.present_of_outlet opened
  have follows : l.follow later ep'.outlet? = { l with present := some (s.extend later) } := by
    simp only [follow, present, opened']
  rw [follows]
  refine ⟨?_, ?_, ?_, balances.small⟩
  · have whole := balances.whole
    rw [ongoing, present, unsent, kept] at whole
    rw [whole]
    simp only [settled, ongoing, Stretch.placed_extend, descriptor, Endpoint.unsent,
      List.append_assoc]
  · rw [opened']
    exact congrArg some descriptor
  · intro s' same
    cases same
    rw [Stretch.rest_extend, descriptor, balances.rest s present, ← rest_eq, kept]

/-- A stretch ends with some calls. What is left then is dropped. -/
theorem ends (balances : l.Balances config ep) (rest : Bytes) (opened : ep.outlet? = some d)
    (closed : ep'.connection = none)
    (unsent : ep.unsent = outbound d later ++ rest ++ ep'.queues.output)
    (rest_eq : rest = (refused? d later).getD ep.unaccepted)
    (small : rest.length ≤ config.ioSize) :
    (l.follow later ep'.outlet?).Balances config ep' := by
  obtain ⟨s, present, descriptor⟩ := balances.present_of_outlet opened
  have closed' : ep'.outlet? = none := by rw [Endpoint.outlet?, closed]; rfl
  have follows : l.follow later ep'.outlet? =
      { l with ended := l.ended ++ [s.extend later], present := none } := by
    simp only [follow, present, closed']
  have dropped : (s.extend later).rest = rest := by
    rw [Stretch.rest_extend, descriptor, balances.rest s present, ← rest_eq]
  rw [follows]
  refine ⟨?_, closed'.symm, by simp, fun s' member => ?_⟩
  · have whole := balances.whole
    rw [ongoing, present, unsent] at whole
    rw [whole]
    simp only [settled, ongoing, List.flatMap_append, List.flatMap_singleton, dropped,
      Stretch.placed_extend, descriptor, Endpoint.unsent,
      Endpoint.unaccepted_of_no_outlet closed', List.append_assoc, List.nil_append,
      List.append_nil]
  · rcases List.mem_append.mp member with before | last
    · exact balances.small s' before
    · rw [List.mem_singleton.mp last, dropped]
      exact small

/-- Outside a stretch nothing goes out. One begins with nothing outstanding. -/
theorem begins (balances : l.Balances config ep) (closed : ep.outlet? = none)
    (output : ep'.queues.output = ep.queues.output) (fresh : ep'.unaccepted = []) :
    (l.follow later ep'.outlet?).Balances config ep' := by
  have none_present := balances.present_of_no_outlet closed
  have whole := balances.whole
  rw [ongoing, none_present, Endpoint.unsent, Endpoint.unaccepted_of_no_outlet closed,
    List.append_nil, List.nil_append] at whole
  have unsent : ep'.unsent = ep.queues.output := by
    rw [Endpoint.unsent, fresh, output, List.nil_append]
  cases outlet : ep'.outlet? with
  | none =>
    have follows : l.follow later none = l := by simp only [follow, none_present]
    rw [follows]
    refine ⟨?_, by rw [none_present, outlet]; rfl, by simp [none_present], balances.small⟩
    rw [whole, unsent, ongoing, none_present, List.append_nil]
  | some d =>
    have follows : l.follow later (some d) = { l with present := some { descriptor := d } } := by
      simp only [follow, none_present]
    rw [follows]
    refine ⟨?_, outlet.symm, fun s same => ?_, balances.small⟩
    · rw [whole, unsent, ongoing, settled, settled]
      simp [Stretch.placed]
    · cases same
      rw [fresh]
      rfl

/-- What neither moves nor adds bytes to be sent leaves a ledger in balance. -/
theorem rests (balances : l.Balances config ep) (connection : ep'.connection = ep.connection)
    (output : ep'.queues.output = ep.queues.output) :
    (l.follow [] ep'.outlet?).Balances config ep' := by
  have unaccepted : ep'.unaccepted = ep.unaccepted := by
    rw [Endpoint.unaccepted, Endpoint.unaccepted, connection]
  have outlet : ep'.outlet? = ep.outlet? := by
    rw [Endpoint.outlet?, Endpoint.outlet?, connection]
  cases opened : ep.outlet? with
  | none =>
    have nothing := Endpoint.unaccepted_of_no_outlet opened
    exact balances.begins opened output (unaccepted.trans nothing)
  | some d =>
    refine balances.goes_on opened (outlet.trans opened) ?_ (by rfl)
      unaccepted.symm
    rw [output]
    rfl

section Service

variable {c : Connection} {waits waits' : WaitSet} {moved : Bool} {h h' : Host}

/-- The service of an endpoint that does not write leaves its output as it was. -/
theorem served_unwritten (balances : l.Balances config ep) (connected : ep.connection = some c)
    (sound : c.Sound) (missing : c.writer = none)
    (served : ep.Served waits (c.tick ep.queues h) (moved, waits', ep') h') :
    (l.follow later ep'.outlet?).Balances config ep' := by
  obtain ⟨_, rest, shown⟩ := c.tick_shown (q := ep.queues) (h := h) sound
  have outlet : ep.outlet? = none := by rw [Endpoint.outlet?_of_connected connected, missing]; rfl
  obtain ⟨nothing, nowhere⟩ := shown.unwritten missing
  have output : (c.tick ep.queues h).queues.output = ep.queues.output := by
    have kept := shown.unsent
    rw [nothing, nowhere, ← Endpoint.unsent_of_connected connected, Endpoint.unsent,
      Endpoint.unaccepted_of_no_outlet outlet] at kept
    exact kept.symm
  cases served with
  | kept read written =>
    exact balances.begins outlet output ((shown.kept _ written).symm.trans nothing)
  | failed errors _ =>
    refine balances.begins outlet ?_ ?_
    · rw [Endpoint.giveUp_fst]
      exact output
    · rw [Endpoint.giveUp_fst]
      rfl

/-- The service of an endpoint that writes is a part of its stretch, the last one if
either direction has failed. -/
theorem served_written {w : Worker} (balances : l.Balances config ep)
    (orderly : ep.Orderly config) (connected : ep.connection = some c)
    (writing : c.writer = some w)
    (served : ep.Served waits (c.tick ep.queues h) (moved, waits', ep') h') :
    (l.follow (h'.since h.calls) ep'.outlet?).Balances config ep' := by
  have sound := orderly.sound c connected
  have ticked := c.ticked (q := ep.queues) (h := h) sound
  obtain ⟨later, rest, shown⟩ := c.tick_shown (q := ep.queues) (h := h) sound
  have outlet : ep.outlet? = some c.transport.descriptor := by
    rw [Endpoint.outlet?_of_connected connected, writing]
    rfl
  cases served with
  | kept read written =>
    rw [since_eq shown.calls]
    have outlet' : (ep.ticked (c.tick ep.queues h)).outlet? = some c.transport.descriptor := by
      have writes := ticked.writer
      rw [writing, Option.isSome_iff_exists.mpr ⟨w, rfl⟩, Option.isSome_iff_exists] at writes
      obtain ⟨w', writing'⟩ := writes
      rw [Endpoint.outlet?_of_connected rfl, writing', Option.map_some, ticked.descriptor]
    refine balances.goes_on outlet outlet' ?_ ?_ (shown.kept _ written)
    · rw [Endpoint.unsent_of_connected connected, shown.unsent]
      rfl
    · rw [Endpoint.unaccepted_of_connected connected]
      exact shown.rest_eq
  | failed errors _ =>
    obtain ⟨released, calls, nothing⟩ :=
      ((ep.ticked (c.tick ep.queues h)).releases_giveUp errors _).quiet.writesNothing
    obtain ⟨nowhere, none_refused⟩ := outbound_of_nothing nothing c.transport.descriptor
    have all :
        ((ep.ticked (c.tick ep.queues h)).giveUp errors (c.tick ep.queues h).host).2.calls =
          (released ++ later) ++ h.calls := by
      rw [calls, shown.calls, List.append_assoc]
    rw [since_eq all]
    refine balances.ends rest outlet (by rw [Endpoint.giveUp_fst]) ?_ ?_ ?_
    · rw [Endpoint.unsent_of_connected connected, shown.unsent, outbound_append, nowhere,
        List.append_nil, Endpoint.giveUp_fst]
      rfl
    · rw [refused?_append, none_refused, Option.none_or, Endpoint.unaccepted_of_connected connected]
      exact shown.rest_eq
    · rw [← (orderly.sized c connected).writer w writing]
      exact shown.small w writing

theorem service (balances : l.Balances config ep) (orderly : ep.Orderly config)
    (run : ep.service waits h = .ok (moved, waits', ep') h') :
    (l.follow (h'.since h.calls) ep'.outlet?).Balances config ep' := by
  cases connected : ep.connection with
  | none =>
    rw [Endpoint.service_closed waits connected] at run
    cases run
    rw [since_eq (List.nil_append _).symm]
    exact balances.rests rfl rfl
  | some c =>
    have sound := orderly.sound c connected
    have served := Endpoint.served_of_run connected sound run
    cases writing : c.writer with
    | none => exact balances.served_unwritten connected sound writing served
    | some w => exact balances.served_written orderly connected writing served

end Service

/-- What is outstanding belongs to one send, which the worker's buffer holds. -/
theorem length_unaccepted (orderly : ep.Orderly config) :
    ep.unaccepted.length ≤ config.ioSize := by
  rw [Endpoint.unaccepted]
  split
  · rename_i c connected
    rw [Connection.unaccepted]
    split
    · rename_i w writing
      rw [← (orderly.sized c connected).writer w writing]
      exact ((orderly.sound c connected).writer w writing).length_unaccepted
    · exact Nat.zero_le _
  · exact Nat.zero_le _

theorem close {h h' : Host} (balances : l.Balances config ep) (orderly : ep.Orderly config)
    (run : ep.close h = (ep', h')) :
    (l.follow (h'.since h.calls) ep'.outlet?).Balances config ep' := by
  have closed := ep.close_fst h
  rw [run] at closed
  dsimp only at closed
  subst closed
  cases opened : ep.outlet? with
  | none => exact balances.begins opened rfl rfl
  | some d =>
    have quiet := (ep.releases_close h).quiet
    rw [run] at quiet
    obtain ⟨released, calls, nothing⟩ := quiet.writesNothing
    obtain ⟨nowhere, none_refused⟩ := outbound_of_nothing nothing d
    rw [since_eq calls]
    refine balances.ends ep.unaccepted opened rfl ?_ ?_ (length_unaccepted orderly)
    · rw [nowhere]
      rfl
    · rw [none_refused]
      rfl

theorem setUp (balances : l.Balances config ep) (setUp : ep.SetUp ep') :
    (l.follow later ep'.outlet?).Balances config ep' := by
  have closed : ep.outlet? = none := by rw [Endpoint.outlet?, setUp.disconnected]; rfl
  refine balances.begins closed (by rw [setUp.queues]) ?_
  rw [Endpoint.unaccepted]
  split
  · rename_i c connected
    exact (setUp.fresh c connected).1.unaccepted_eq
  · rfl

theorem write (balances : l.Balances config ep) (data : Bytes) :
    ({ l with written := l.written ++ data } : Ledger).Balances config (ep.write data) where
  whole := by
    have unsent : (ep.write data).unsent = ep.unsent ++ data := by
      rw [Endpoint.unsent, Endpoint.unsent, List.append_assoc]
      rfl
    rw [unsent, ← List.append_assoc]
    exact congrArg (· ++ data) balances.whole
  outlet := balances.outlet
  rest := balances.rest
  small := balances.small

/-- Every use keeps the ledger in balance. -/
theorem enter {h h' : Host} (balances : l.Balances config ep) (orderly : ep.Orderly config)
    (use : Endpoint.Use) (performed : ep.perform use h = .ok ep' h') :
    (l.enter use (h'.since h.calls) ep').Balances config ep' := by
  have unchanged : h.since h.calls = [] := since_eq (List.nil_append _).symm
  cases use with
  | write data =>
    cases performed
    exact balances.write data
  | writeImmediately data =>
    obtain ⟨_, mid, _, last⟩ := Action.bind_ok.mp performed
    cases last
    exact balances
  | read | readAll | peek | setReadBufferSize =>
    cases performed
    rw [unchanged]
    exact balances.rests rfl rfl
  | service waits =>
    obtain ⟨⟨moved, waits', served⟩, mid, run, last⟩ := Action.bind_ok.mp performed
    cases last
    exact balances.service orderly run
  | close => exact balances.close orderly (Action.call_ok.mp performed)
  | connect path =>
    obtain ⟨⟨result, made⟩, mid, run, last⟩ := Action.bind_ok.mp performed
    cases last
    exact balances.setUp (Endpoint.setUp_connect run)
  | bind path =>
    obtain ⟨⟨result, made⟩, mid, run, last⟩ := Action.bind_ok.mp performed
    cases last
    exact balances.setUp (Endpoint.setUp_bind run)
  | accept => exact balances.setUp (Endpoint.setUp_accept performed)
  | adopt d direction name =>
    obtain ⟨⟨result, made⟩, mid, run, last⟩ := Action.bind_ok.mp performed
    cases last
    exact balances.setUp (Endpoint.setUp_adopt run)

end Balances

end Ledger

/-- Every ledger is in balance. -/
theorem LedgerReach.balances {config : PipeConfig} {l : Ledger} {ep : Endpoint}
    (reach : LedgerReach config l ep) : l.Balances config ep := by
  induction reach with
  | start => exact ⟨rfl, rfl, by simp, by simp⟩
  | use use before performed ih => exact ih.enter before.forget.orderly use performed

/-- How much of the send that an endpoint has outstanding was accepted already. -/
def Endpoint.acceptedAhead (ep : Endpoint) : Nat :=
  ((ep.connection.bind (·.transport.sending)).map (·.sent)).getD 0

/-- The bytes of an outstanding send are those that are left to be accepted and those
that were accepted already. -/
theorem Worker.Sends.pendingSize_eq {w : Worker} {slot : Option Operation} (sends : w.Sends slot) :
    w.pendingSize = (w.unaccepted slot).length + (slot.map (·.sent)).getD 0 := by
  have whole := sends.chunk
  cases sends.agrees with
  | idle state => simp [unaccepted, pendingSize, state]
  | pending state unfinished _ _ =>
    simp only [pendingSize, state] at whole ⊢
    simp only [unaccepted, List.length_drop, Option.map_some, Option.getD_some]
    omega

/-- The bytes to send that an endpoint tells of are the unsent ones and those of the
outstanding send that were accepted already. -/
theorem Endpoint.bytesToSend_eq {ep : Endpoint} (sound : ∀ c, ep.connection = some c → c.Sound) :
    ep.bytesToSend = ep.unsent.length + ep.acceptedAhead := by
  rw [bytesToSend, unsent, List.length_append, unaccepted, acceptedAhead]
  cases connected : ep.connection with
  | none => simp
  | some c =>
    have agreed := sound c connected
    cases writing : c.writer with
    | none => simp [writing, Connection.unaccepted, agreed.unwritten writing]
    | some w =>
      have pending := (agreed.writer w writing).pendingSize_eq
      simp only [Option.bind_some, writing, Option.map_some, Option.getD_some,
        Connection.unaccepted]
      omega

/-- Whatever was written to an endpoint has gone out in order on its connections,
where each one but the last may have dropped the rest of one send at its end, or is
unsent. An immediate write puts its bytes out at once and in one piece, while nothing
is outstanding, and leaves the endpoint as it was. -/
theorem LedgerReach.accounts {config : PipeConfig} {l : Ledger} {ep : Endpoint}
    (reach : LedgerReach config l ep) :
    l.written = l.settled ++ l.ongoing ++ ep.unaccepted ++ ep.queues.output ∧
    l.present.map (·.descriptor) = ep.outlet? ∧
    (∀ s, l.present = some s → s.rest = ep.unaccepted) ∧
    (∀ s ∈ l.ended, s.rest.length ≤ config.ioSize) ∧
    (∀ data h ep' h', ep.perform (.writeImmediately data) h = .ok ep' h' →
      ep' = ep ∧ ep.unaccepted = [] ∧ ∃ d, ep.outlet? = some d ∧
        outbound d h'.calls = outbound d h.calls ++ data) ∧
    ep.bytesToSend = ep.unsent.length + ep.acceptedAhead := by
  have balances := reach.balances
  have orderly := reach.forget.orderly
  refine ⟨?_, balances.outlet, balances.rest, balances.small, fun data h ep' h' performed => ?_,
    Endpoint.bytesToSend_eq orderly.sound⟩
  · rw [balances.whole, Endpoint.unsent, List.append_assoc, List.append_assoc, List.append_assoc]
  · obtain ⟨_, mid, run, last⟩ := Action.bind_ok.mp performed
    cases last
    obtain ⟨c, w, connected, writing, rests, placed⟩ := Endpoint.writeImmediately_ok run
    have sends := (orderly.sound c connected).writer w writing
    have nothing : ep.unaccepted = [] := by
      rw [Endpoint.unaccepted_of_connected connected, Connection.unaccepted, writing]
      dsimp only
      rw [sends.agrees.waits.resolve_right (by simp [rests])]
      rfl
    refine ⟨rfl, nothing, c.transport.descriptor, ?_, placed⟩
    rw [Endpoint.outlet?_of_connected connected, writing]
    rfl

/-- The ledger and the endpoint after some uses in a row, if none of them ends the
program. -/
def Ledger.enterAll : List Endpoint.Use → Ledger → Endpoint → Host →
    Option (Ledger × Endpoint × Host)
  | [], l, ep, h => some (l, ep, h)
  | use :: rest, l, ep, h =>
    match ep.perform use h with
    | .ok ep' h' => enterAll rest (l.enter use (h'.since h.calls) ep') ep' h'
    | .error _ _ => none

theorem LedgerReach.enterAll {config : PipeConfig} {l l' : Ledger} {ep ep' : Endpoint}
    {uses : List Endpoint.Use} {h h' : Host} (reach : LedgerReach config l ep)
    (entered : Ledger.enterAll uses l ep h = some (l', ep', h')) : LedgerReach config l' ep' := by
  induction uses generalizing l ep h with
  | nil =>
    cases entered
    exact reach
  | cons use rest ih =>
    unfold Ledger.enterAll at entered
    split at entered
    · rename_i done
      exact ih (.use use reach done) entered
    · cases entered

/-- A host with a link that takes two bytes, and one that takes more. -/
def twoOutlets : Host :=
  { links := ⟨[("narrow", { capacity := 2 }), ("wide", { capacity := 16 })]⟩
    descriptors := [⟨0, ⟨"narrow", .a⟩⟩, ⟨1, ⟨"wide", .a⟩⟩]
    nextDescriptor := 2 }

/-- Three bytes are written, of which a narrow link takes two before it is closed,
then one at once on another link, and two more that go out there. -/
def twoOutletUses : List Endpoint.Use :=
  [.adopt ⟨0, ⟨"narrow", .a⟩⟩ .write "narrow", .write [1, 2, 3], .service {}, .close,
    .adopt ⟨1, ⟨"wide", .a⟩⟩ .write "wide", .write [4, 5], .writeImmediately [9], .service {}]

theorem LedgerReach.accounts_twoOutlets : ∃ l ep h,
    Ledger.enterAll twoOutletUses {} (.ofConfig {}) twoOutlets = some (l, ep, h) ∧
      l.written = [1, 2, 3, 4, 5] ∧ l.ended.map (fun s => (s.placed, s.rest)) = [([1, 2], [3])] ∧
      l.ongoing = [4, 5] ∧ outbound ⟨1, ⟨"wide", .a⟩⟩ h.calls = [9, 4, 5] ∧
      l.written = l.settled ++ l.ongoing ++ ep.unaccepted ++ ep.queues.output := by
  have shown : (Ledger.enterAll twoOutletUses {} (.ofConfig {}) twoOutlets).map (fun s =>
      (s.1.written, s.1.ended.map (fun s => (s.placed, s.rest)), s.1.ongoing,
        outbound ⟨1, ⟨"wide", .a⟩⟩ s.2.2.calls)) =
      some ([1, 2, 3, 4, 5], [([1, 2], [3])], [4, 5], [9, 4, 5]) := by
    cbv
  obtain ⟨⟨l, ep, h⟩, entered, shown⟩ := Option.map_eq_some_iff.mp shown
  simp only [Prod.mk.injEq] at shown
  obtain ⟨written, ended, ongoing, placed⟩ := shown
  obtain ⟨whole, _⟩ := (LedgerReach.start.enterAll entered).accounts
  exact ⟨l, ep, h, entered, written, ended, ongoing, placed, whole⟩

end LocalPipe
