import LocalPipe.Proofs.Arrivals

namespace LocalPipe

/-- The outcomes of a kind that an action sets. -/
def PeerAction.outcomes (point : FaultPoint) : PeerAction → List (Option Errno)
  | .failCalls point' outcomes => if point' = point then outcomes else []
  | _ => []

/-- The outcomes of a kind that others set when they keep an appointment. -/
def Appointment.outcomes (point : FaultPoint) (a : Appointment) : List (Option Errno) :=
  a.actions.flatMap (·.outcomes point)

namespace Host

/-- The outcomes of a kind that are set, and those that others have appointed to set. -/
def outcomesToCome (h : Host) (point : FaultPoint) : List (Option Errno) :=
  h.outcomesAhead point ++ h.appointments.flatMap (·.outcomes point)

/-- No call of a kind fails but by being interrupted, whatever others have appointed. -/
def OnlyInterrupted (h : Host) (point : FaultPoint) : Prop :=
  ∀ e, some e ∈ h.outcomesToCome point → e = .eintr

/-- How often polls can be interrupted yet, by outcomes and by signals. -/
def interruptions (h : Host) : Nat :=
  (h.outcomesToCome .poll).length + h.signalsAhead

/-- No other outcomes are to come than were before. -/
def UsesUp (h h' : Host) : Prop :=
  ∀ point, h'.outcomesToCome point <:+ h.outcomesToCome point

/-- A call was answered without anything happening but that outcomes set before were met. -/
structure Tarries (h h' : Host) : Prop where
  now : h'.now = h.now
  appointments : h'.appointments = h.appointments
  signals : h'.signals = h.signals
  doors : h'.doors = h.doors
  outcomes : ∀ point, h'.outcomesAhead point <:+ h.outcomesAhead point

/-- Some time has passed, and by a later moment all who come will have come all the same. -/
structure Lingers (h : Host) (last : Nat) (h' : Host) : Prop where
  doors : (keepUntil last h'.appointments h').doors = (keepUntil last h.appointments h).doors
  outcomes : h.UsesUp h'

/-- What an accept comes to that is no more than interrupted. -/
inductive Accepts (h : Host) (listener : Nat) : Except Errno Descriptor × Host → Prop
  | interrupted {h' : Host} : h.Tarries h' → h'.patience = h.patience →
      Accepts h listener (.error .eintr, h')
  | taken {d : Descriptor} {h' : Host} : h.hasPeer listener = true →
      (∀ point, h'.outcomesAhead point <:+ h.outcomesAhead point) →
      Accepts h listener (.ok d, h')
  | nobody {h' : Host} : h.Tarries h' → h'.patience = h.patience →
      h.hasPeer listener = false → Accepts h listener (.error .eagain, h')

/-- What a wait for a peer comes to that is over at some moment. It ends once one waits, or
after all of its time. -/
inductive Watches (h : Host) (listener last : Nat) : Except Errno Nat × Host → Prop
  | nobody {h' : Host} : (keepUntil last h.appointments h).hasPeer listener = false →
      Watches h listener last (.ok 0, h')
  | peer {n : Nat} {h' : Host} : h'.hasPeer listener = true →
      (keepUntil last h.appointments h).hasPeer listener = true → h.UsesUp h' →
      Watches h listener last (.ok (n + 1), h')

variable {h h' h'' : Host} {listener moment last : Nat} {point : FaultPoint} {d : Duration}

/-- No such call fails but by being interrupted before others act. -/
theorem OnlyInterrupted.ahead (only : h.OnlyInterrupted point) (e : Errno)
    (member : some e ∈ h.outcomesAhead point) : e = .eintr :=
  only e (List.mem_append_left _ member)

namespace UsesUp

theorem trans (first : h.UsesUp h') (second : h'.UsesUp h'') : h.UsesUp h'' :=
  fun point => (second point).trans (first point)

theorem of_ahead (appointments : h'.appointments = h.appointments)
    (outcomes : ∀ point, h'.outcomesAhead point <:+ h.outcomesAhead point) : h.UsesUp h' := by
  intro point
  obtain ⟨met, ahead⟩ := outcomes point
  rw [outcomesToCome, outcomesToCome, appointments, ← ahead, List.append_assoc]
  exact List.suffix_append _ _

theorem onlyInterrupted (uses : h.UsesUp h') (only : h.OnlyInterrupted point) :
    h'.OnlyInterrupted point :=
  fun e member => only e ((uses point).subset member)

theorem interruptions_le (uses : h.UsesUp h') (fewer : h'.signalsAhead ≤ h.signalsAhead) :
    h'.interruptions ≤ h.interruptions :=
  Nat.add_le_add (uses .poll).length_le fewer

end UsesUp

namespace Tarries

theorem trans (first : h.Tarries h') (second : h'.Tarries h'') : h.Tarries h'' where
  now := second.now.trans first.now
  appointments := second.appointments.trans first.appointments
  signals := second.signals.trans first.signals
  doors := second.doors.trans first.doors
  outcomes point := (second.outcomes point).trans (first.outcomes point)

theorem of_patience (h : Host) (patience : Nat) : h.Tarries { h with patience } :=
  ⟨rfl, rfl, rfl, rfl, fun _ => List.suffix_rfl⟩

theorem record (tarries : h.Tarries h') (call : Call) : h.Tarries (h'.record call) :=
  ⟨tarries.now, tarries.appointments, tarries.signals, tarries.doors, tarries.outcomes⟩

theorem of_takeFault (h : Host) (other : point ≠ .connect) : h.Tarries (h.takeFault point).2 :=
  ⟨h.now_takeFault point, h.appointments_takeFault point, h.signals_takeFault point,
    h.doors_of_takeFault_ne other, h.outcomesAhead_takeFault point⟩

theorem usesUp (tarries : h.Tarries h') : h.UsesUp h' :=
  .of_ahead tarries.appointments tarries.outcomes

theorem interruptions_le (tarries : h.Tarries h') : h'.interruptions ≤ h.interruptions := by
  refine tarries.usesUp.interruptions_le (Nat.le_of_eq ?_)
  rw [signalsAhead, signalsAhead, tarries.now, tarries.signals]

theorem lingers (tarries : h.Tarries h') (last : Nat) : h.Lingers last h' where
  doors := by
    rw [tarries.appointments]
    exact doors_keepUntil_congr last h.appointments tarries.doors
  outcomes := tarries.usesUp

theorem lastsUntil {span : Nat} (tarries : h.Tarries h') (lasts : h.LastsUntil span last) :
    h'.LastsUntil span last :=
  lasts.congr tarries.now tarries.signals

theorem hasPeerBy_iff (tarries : h.Tarries h') :
    h'.HasPeerBy listener moment ↔ h.HasPeerBy listener moment := by
  rw [HasPeerBy, HasPeerBy, hasPeer_congr (tarries.lingers moment).doors,
    hasPeer_congr tarries.doors, tarries.now]

end Tarries

theorem Lingers.trans (first : h.Lingers last h') (second : h'.Lingers last h'') :
    h.Lingers last h'' :=
  ⟨second.doors.trans first.doors, first.outcomes.trans second.outcomes⟩

theorem Lingers.record (lingers : h.Lingers last h') (call : Call) :
    h.Lingers last (h'.record call) := by
  have same : (h'.record call).doors = h'.doors := rfl
  exact ⟨(doors_keepUntil_congr last h'.appointments same).trans lingers.doors, lingers.outcomes⟩

/-- The outcome that a call meets was ahead, or there was none. -/
theorem of_takeFault {outcome : Option Errno} (taken : h.takeFault point = (outcome, h')) :
    ∀ e, outcome = some e → some e ∈ h.outcomesAhead point ∧
      (h'.outcomesToCome point).length < (h.outcomesToCome point).length := by
  rintro e rfl
  have appointments : h'.appointments = h.appointments := by
    rw [← h.appointments_takeFault point, taken]
  rw [takeFault_eq] at taken
  rw [outcomesToCome, outcomesToCome, appointments]
  split at taken
  · rename_i outcome rest ahead
    cases taken
    rw [outcomesAhead_set, if_pos rfl, ahead]
    simp
  · cases taken

/-- What others do adds no outcomes but those that they set. -/
theorem outcomesAhead_act (h : Host) (action : PeerAction) (point : FaultPoint) :
    (h.act action).2.outcomesAhead point <:+ h.outcomesAhead point ++ action.outcomes point := by
  have same : ∀ (h' : Host), h'.outcomesAhead point <:+ h.outcomesAhead point →
      h'.outcomesAhead point <:+ h.outcomesAhead point ++ [] := by
    intro h' fewer
    rwa [List.append_nil]
  cases action with
  | send q data => exact same _ ((h.releases_peerSend q data).outcomes point)
  | receive q max => exact same _ ((h.releases_peerReceive q max).outcomes point)
  | close q => exact same _ ((h.releases_peerClose q).outcomes point)
  | connect name link capacity =>
    have taken := h.outcomesAhead_takeFault .connect point
    rcases h.peerConnect_cases name ⟨link, capacity⟩ with unmet | met | ⟨_, _, _, _, _, connects⟩
    · have kept : (h.act (.connect name link capacity)).2 = h := by rw [act, unmet]
      rw [kept]
      exact same h List.suffix_rfl
    · rw [act, met]
      exact same _ taken
    · rw [act, connects]
      exact same _ taken
  | failCalls point' later =>
    dsimp only [act, PeerAction.outcomes]
    rw [outcomesAhead_set]
    split
    · rename_i near
      subst near
      exact List.suffix_rfl
    · exact same h List.suffix_rfl
  | failTransfers q d faults => exact same _ ((h.releases_failTransfers q d faults).outcomes point)

/-- Once an appointment is kept, its outcomes are set. -/
theorem outcomesAhead_keep (h : Host) (a : Appointment) (point : FaultPoint) :
    (h.keep a).outcomesAhead point <:+ h.outcomesAhead point ++ a.outcomes point := by
  suffices ∀ (actions : List PeerAction) (h : Host),
      (actions.foldl actRecorded h).outcomesAhead point <:+
        h.outcomesAhead point ++ actions.flatMap (·.outcomes point) from this _ _
  intro actions
  induction actions with
  | nil =>
    intro h
    rw [List.flatMap_nil, List.append_nil]
    exact List.suffix_rfl
  | cons action rest ih =>
    intro h
    obtain ⟨met, ahead⟩ := h.outcomesAhead_act action point
    have acted : (h.actRecorded action).outcomesAhead point =
        (h.act action).2.outcomesAhead point := rfl
    refine (ih _).trans ⟨met, ?_⟩
    rw [acted, ← List.append_assoc, ahead, List.flatMap_cons, List.append_assoc]

theorem usesUp_keep {a : Appointment} {rest : List Appointment}
    (ahead : h.appointments = a :: rest) :
    h.UsesUp (Host.keep { h with appointments := rest } a) := by
  intro point
  obtain ⟨met, set⟩ := outcomesAhead_keep { h with appointments := rest } a point
  refine ⟨met, ?_⟩
  rw [outcomesToCome, outcomesToCome, appointments_keep, ahead, List.flatMap_cons,
    ← List.append_assoc, set, List.append_assoc]
  rfl

theorem usesUp_await (watched : List Watched) (until? : Option Nat)
    (appointments : List Appointment) {h : Host} (ahead : h.appointments = appointments) :
    h.UsesUp (await watched until? appointments h).2 := by
  induction appointments generalizing h with
  | nil =>
    unfold await
    repeat' split
    all_goals exact fun _ => List.suffix_rfl
  | cons a rest ih =>
    have kept := (usesUp_keep ahead).trans (ih (appointments_keep { h with appointments := rest } a))
    unfold await
    repeat' split
    all_goals first | exact fun _ => List.suffix_rfl | exact kept

/-- A wait that ends with nothing ready has kept the appointments that were due by then. -/
theorem await_expired {watched : List Watched} (appointments : List Appointment) {h : Host}
    (expired : await watched (some moment) appointments h = (.ok 0, h')) :
    h' = { keepUntil moment appointments h with now := moment } := by
  induction appointments generalizing h with
  | nil =>
    unfold await at expired
    split at expired
    · rename_i some_ready
      simp only [Prod.mk.injEq, Except.ok.injEq] at expired
      omega
    · cases expired
      rfl
  | cons a rest ih =>
    unfold await at expired
    unfold keepUntil
    split at expired
    · rename_i some_ready
      simp only [Prod.mk.injEq, Except.ok.injEq] at expired
      omega
    · dsimp only at expired
      split at expired
      · rename_i due
        rw [if_pos due]
        exact ih expired
      · rename_i later
        rw [if_neg later]
        cases expired
        rfl

/-- To keep what is due by a moment, and then what is due by a later one, is to keep all that. -/
theorem keepUntil_keepUntil (appointments : List Appointment) {h : Host} (later : moment ≤ last)
    (ahead : h.appointments = appointments) :
    keepUntil last (keepUntil moment appointments h).appointments
      (keepUntil moment appointments h) = keepUntil last appointments h := by
  induction appointments generalizing h with
  | nil => rw [keepUntil, ahead]
  | cons a rest ih =>
    rw [keepUntil]
    split
    · rename_i due
      rw [ih (appointments_keep { h with appointments := rest } a), keepUntil,
        if_pos (Nat.le_trans due later)]
    · rw [ahead]

/-- Who has come by a moment is still there by a later one. -/
theorem hasPeer_later (later : moment ≤ last)
    (came : (keepUntil moment h.appointments h).hasPeer listener = true) :
    (keepUntil last h.appointments h).hasPeer listener = true := by
  rw [← keepUntil_keepUntil h.appointments later rfl]
  exact hasPeer_keepUntil last _ came

/-- A wait up to a signal that ends with nothing ready has only let time pass. -/
theorem lingers_of_await {watched : List Watched} (within : moment ≤ last)
    (expired : await watched (some moment) h.appointments h = (.ok 0, h')) :
    h.Lingers last h' := by
  have uses := usesUp_await watched (some moment) h.appointments rfl
  rw [expired] at uses
  obtain rfl := await_expired h.appointments expired
  refine ⟨?_, uses⟩
  rw [← keepUntil_keepUntil h.appointments within rfl]
  exact doors_keepUntil_congr last _ rfl

/-- A wait for a peer that begins again comes to the same. -/
theorem Watches.after {answer : Except Errno Nat × Host} (lingers : h.Lingers last h')
    (watches : h'.Watches listener last answer) : h.Watches listener last answer := by
  have same : (keepUntil last h'.appointments h').hasPeer listener =
      (keepUntil last h.appointments h).hasPeer listener := hasPeer_congr lingers.doors
  cases watches with
  | nobody missing =>
    rw [same] at missing
    exact .nobody missing
  | peer waits came uses =>
    rw [same] at came
    exact .peer waits came (lingers.outcomes.trans uses)

theorem waitOnce_watches (h : Host) (listener : Nat) {span : Nat} (lasts : h.LastsUntil span last)
    (call : Except Errno Nat → Call) :
    let answer := h.waitOnce [.listener listener] (some (h.now + span))
    (answer.1 = .error .eintr ∧ h.Lingers last (answer.2.record (call answer.1)) ∧
        (answer.2.record (call answer.1)).signalsAhead < h.signalsAhead) ∨
      h.Watches listener last (answer.1, answer.2.record (call answer.1)) := by
  have covers := lasts.covers
  have uses (until? : Option Nat) := usesUp_await [.listener listener] until? h.appointments rfl
  rcases h.waitOnce_cases [.listener listener] (some (h.now + span)) with
    ⟨none_comes, waits⟩ | ⟨signal, comes, waits⟩
  · obtain rfl := lasts.eq_of_quiet (quiet_of_signal? none_comes)
    dsimp only
    rw [waits]
    right
    rcases await_listener listener (h.now + span) h.appointments h with
      ⟨expired, missing⟩ | ⟨n, ready, waits, came⟩
    · rw [expired]
      exact .nobody missing
    · rw [ready]
      exact .peer waits came (uses _)
  · obtain ⟨member, passes, before⟩ := signal?_mem comes
    have within : signal ≤ last := Nat.le_trans (before _ rfl) covers
    dsimp only
    rcases waits with ⟨waits, early⟩ | ⟨h', expired, waits⟩
    · right
      rw [waits] at early ⊢
      rcases await_listener listener signal h.appointments h with
        ⟨expired, _⟩ | ⟨n, ready, waits, came⟩
      · exact absurd expired early
      · rw [ready]
        exact .peer waits (hasPeer_later within came) (uses _)
    · left
      rw [waits]
      have lingers := lingers_of_await within expired
      have ends := await_ends [.listener listener] (Nat.le_of_lt passes)
      rw [expired] at ends
      cases ends with
      | expired ended _ _ signals =>
        have fewer : h'.signalsAhead < h.signalsAhead :=
          signalsAhead_lt signals (by rwa [ended]) (by rwa [ended])
        exact ⟨rfl, lingers.record _, fewer⟩

/-- A poll for a peer that is no more than interrupted is so, at the price of some patience, and
can be so less often from then on, or it waits for all of its time if need be. -/
theorem poll_watches (only : h.OnlyInterrupted .poll) (given : 0 < h.patience) (listener : Nat)
    (lasts : h.LastsUntil (d.pollMillis * 1000000) last) :
    (∃ h', h.poll [.listener listener] (some d.pollMillis) = (.error .eintr, h') ∧
      h.Lingers last h' ∧ h'.patience + 1 = h.patience ∧ h'.interruptions < h.interruptions) ∨
    h.Watches listener last (h.poll [.listener listener] (some d.pollMillis)) := by
  unfold poll pollOnce
  dsimp only
  split
  · rename_i refused
    rw [refused] at given
    cases given
  · rename_i patience stock
    have tarries : h.Tarries (takeFault { h with patience } .poll).2 :=
      (Tarries.of_patience h patience).trans (.of_takeFault _ (by decide))
    have left := patience_takeFault { h with patience } .poll
    split
    · rename_i e mid fault
      obtain ⟨met, fewer⟩ := of_takeFault fault e rfl
      obtain rfl := only.ahead e met
      rw [fault] at tarries left
      dsimp only at left
      refine Or.inl ⟨_, rfl, (tarries.record _).lingers last, ?_, ?_⟩
      · rw [stock]
        exact congrArg (· + 1) left
      · have same : mid.signalsAhead = h.signalsAhead := by
          rw [signalsAhead, signalsAhead, tarries.now, tarries.signals]
        exact Nat.add_lt_add_of_lt_of_le fewer (Nat.le_of_eq same)
    · rename_i mid fault
      rw [fault] at tarries left
      dsimp only at left
      have same : mid.signalsAhead = h.signalsAhead := by
        rw [signalsAhead, signalsAhead, tarries.now, tarries.signals]
      rcases mid.waitOnce_watches listener (tarries.lastsUntil lasts)
        (.poll [.listener listener] (some d.pollMillis)) with ⟨stops, lingers, fewer⟩ | watches
      · refine Or.inl ⟨_, Prod.ext stops rfl, (tarries.lingers last).trans lingers, ?_, ?_⟩
        · rw [stock, patience_record, patience_waitOnce]
          exact congrArg (· + 1) left
        · have uses := tarries.usesUp.trans lingers.outcomes
          exact Nat.add_lt_add_of_le_of_lt (uses .poll).length_le (same ▸ fewer)
      · exact Or.inr (watches.after (tarries.lingers last))

theorem waitReady_watches (only : h.OnlyInterrupted .poll)
    (patient : h.interruptions < h.patience) (listener : Nat)
    (lasts : h.LastsUntil (d.pollMillis * 1000000) last) :
    h.Watches listener last (h.waitReady [.listener listener] (some d)) := by
  generalize watching : [Watched.listener listener] = watched
  generalize given : some d = timeout
  fun_induction waitReady h watched timeout with
  | case1 h h' answer ih =>
    subst watching given
    rw [Option.map_some] at answer
    rcases poll_watches only (by omega) listener lasts with
      ⟨mid, polled, lingers, left, fewer⟩ | watches
    · have dwells := poll_awaits lasts [.listener listener]
      rw [polled] at answer dwells
      cases answer
      rcases dwells with ⟨_, same, dwells⟩ | awaits
      · cases same
        exact (ih (lingers.outcomes.onlyInterrupted only) (by omega)
          (dwells.lastsUntil lasts)).after lingers
      · cases awaits with
        | failed _ final _ => exact absurd rfl final
    · rw [answer] at watches
      cases watches
  | case2 h result h' other answer =>
    subst watching given
    rw [Option.map_some] at answer
    rcases poll_watches only (by omega) listener lasts with ⟨mid, polled, _⟩ | watches
    · rw [polled] at answer
      cases answer
      exact (other rfl).elim
    · rwa [answer] at watches

/-- A wait for a peer comes to the same if something before it has tarried. -/
theorem Tarries.watches (tarries : h.Tarries h') (patience : h'.patience = h.patience)
    (only : h.OnlyInterrupted .poll) (patient : h.interruptions < h.patience)
    (listener : Nat) (lasts : h.LastsUntil (d.pollMillis * 1000000) last) :
    h.Watches listener last (h'.waitReady [.listener listener] (some d)) := by
  have fewer := tarries.interruptions_le
  exact (waitReady_watches (tarries.usesUp.onlyInterrupted only) (by omega) listener
    (tarries.lastsUntil lasts)).after (tarries.lingers last)

theorem Accepts.of_eagain (accepts : h.Accepts listener (.error .eagain, h')) :
    h.Tarries h' ∧ h'.patience = h.patience ∧ h.hasPeer listener = false := by
  cases accepts with
  | nobody tarries patience missing => exact ⟨tarries, patience, missing⟩

theorem Accepts.of_eintr (accepts : h.Accepts listener (.error .eintr, h')) :
    h.Tarries h' ∧ h'.patience = h.patience := by
  cases accepts with
  | interrupted tarries patience => exact ⟨tarries, patience⟩

theorem accept_accepts (ahead : ∀ e, some e ∈ h.outcomesAhead .accept → e = .eintr)
    (listener : Nat) :
    h.Accepts listener (h.accept listener) := by
  have tarries : h.Tarries (h.takeFault .accept).2 := .of_takeFault h (by decide)
  have patience := h.patience_takeFault .accept
  unfold accept
  split
  · rename_i e mid fault
    obtain ⟨met, _⟩ := of_takeFault fault e rfl
    obtain rfl := ahead e met
    rw [fault] at tarries patience
    exact .interrupted (tarries.record _) patience
  · rename_i mid fault
    rw [fault] at tarries patience
    split
    · rename_i name rest waiting
      refine .taken ?_ tarries.outcomes
      rw [← hasPeer_congr tarries.doors]
      exact hasPeer_iff.mpr ⟨name, rest, waiting⟩
    · rename_i nobody
      refine .nobody (tarries.record _) patience ?_
      rw [← hasPeer_congr tarries.doors, ← Bool.not_eq_true, hasPeer_iff]
      exact fun ⟨name, rest, waiting⟩ => nobody name rest waiting

end Host

end LocalPipe
