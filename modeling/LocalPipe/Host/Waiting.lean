import LocalPipe.Host.Outside

namespace LocalPipe.Host

/-- Whether what is watched needs no more waiting for. A descriptor that was
closed does not. -/
def isReady (h : Host) : Watched → Bool
  | .listener number =>
    match h.listeners.get? number with
    | some (_ :: _) => true
    | _ => false
  | .handle w =>
    if !h.descriptors.contains w.descriptor then true
    else
      match h.links.get? w.descriptor.endId.link, w.interest with
      | some l, .readable => l.readable w.descriptor.endId.side
      | some l, .writable => l.writable w.descriptor.endId.side
      | none, _ => true

def readyCount (h : Host) (watched : List Watched) : Nat :=
  watched.countP h.isReady

/-- Waits until something watched is ready, keeping the appointments on the
way, or until a moment if one is given. Without a moment and without
appointments left, the wait would have no end. -/
def await (watched : List Watched) (until? : Option Nat) :
    List Appointment → Host → Except Errno Nat × Host
  | [], h =>
    if 0 < h.readyCount watched then (.ok (h.readyCount watched), h)
    else
      match until? with
      | some moment => (.ok 0, { h with now := moment })
      | none => (.error .edeadlk, h)
  | a :: rest, h =>
    if 0 < h.readyCount watched then (.ok (h.readyCount watched), h)
    else
      match until? with
      | some moment =>
        if a.due ≤ moment then await watched until? rest ({ h with appointments := rest }.keep a)
        else (.ok 0, { h with now := moment })
      | none => await watched until? rest ({ h with appointments := rest }.keep a)

/-- The first moment to come at which there is a signal, up to a moment if one
is given. -/
def signal? (h : Host) (until? : Option Nat) : Option Nat :=
  (h.signals.filter fun signal => h.now < signal && until?.all (signal ≤ ·)).min?

/-- Waits as `await` does. A signal that comes in the meantime interrupts the
wait, if nothing is ready by then. -/
def waitOnce (h : Host) (watched : List Watched) (until? : Option Nat) :
    Except Errno Nat × Host :=
  match h.signal? until? with
  | none => await watched until? h.appointments h
  | some signal =>
    match await watched (some signal) h.appointments h with
    | (.ok 0, h) => (.error .eintr, h)
    | answer => answer

/-- Waits for up to some milliseconds, or for ever. A fault of the call comes
first, and a host that has lost its patience answers nothing else. -/
def pollOnce (h : Host) (watched : List Watched) (millis : Option Nat) :
    Except Errno Nat × Host :=
  match h.patience with
  | 0 => (.error .edeadlk, h)
  | patience + 1 =>
    match { h with patience }.takeFault .poll with
    | (some e, h) => (.error e, h)
    | (none, h) => h.waitOnce watched (millis.map (h.now + · * 1000000))

def poll (h : Host) (watched : List Watched) (millis : Option Nat) : Except Errno Nat × Host :=
  let (result, h) := h.pollOnce watched millis
  (result, h.record (.poll watched millis result))

theorem patience_await (watched : List Watched) (until? : Option Nat)
    (appointments : List Appointment) (h : Host) :
    (await watched until? appointments h).2.patience = h.patience := by
  induction appointments generalizing h with
  | nil =>
    unfold await
    repeat' split
    all_goals rfl
  | cons a rest ih =>
    unfold await
    repeat' split
    all_goals simp [ih]

/-- What one wait comes to: what it would without a signal, or what it comes to by the time of
the first signal, which interrupts it if nothing is ready by then. -/
theorem waitOnce_cases (h : Host) (watched : List Watched) (until? : Option Nat) :
    (h.signal? until? = none ∧ h.waitOnce watched until? = await watched until? h.appointments h) ∨
    ∃ signal, h.signal? until? = some signal ∧
      (h.waitOnce watched until? = await watched (some signal) h.appointments h ∧
          (h.waitOnce watched until?).1 ≠ .ok 0 ∨
        ∃ h', await watched (some signal) h.appointments h = (.ok 0, h') ∧
          h.waitOnce watched until? = (.error .eintr, h')) := by
  unfold waitOnce
  cases h.signal? until? with
  | none => exact Or.inl ⟨rfl, rfl⟩
  | some signal =>
    refine Or.inr ⟨signal, rfl, ?_⟩
    dsimp only
    split
    · rename_i h' expired
      exact Or.inr ⟨h', expired, rfl⟩
    · rename_i early
      exact Or.inl ⟨rfl, fun same =>
        early (await watched (some signal) h.appointments h).2 (Prod.ext same rfl)⟩

/-- The moment at which a signal comes is after now, and not after the end of the wait. -/
theorem signal?_mem {h : Host} {until? : Option Nat} {signal : Nat}
    (comes : h.signal? until? = some signal) :
    signal ∈ h.signals ∧ h.now < signal ∧ ∀ moment ∈ until?, signal ≤ moment := by
  have member := List.mem_filter.mp (List.min?_mem comes)
  simp only [Bool.and_eq_true, decide_eq_true_eq, Option.all_eq_true] at member
  exact ⟨member.1, member.2.1, member.2.2⟩

/-- What one wait leaves of the host is what a wait up to some moment does. -/
theorem waitOnce_snd (h : Host) (watched : List Watched) (until? : Option Nat) :
    ∃ last, (∀ moment ∈ last, moment ∈ until? ∨ h.now < moment) ∧
      (h.waitOnce watched until?).2 = (await watched last h.appointments h).2 := by
  rcases h.waitOnce_cases watched until? with ⟨_, waits⟩ | ⟨signal, comes, waits⟩
  · exact ⟨until?, fun _ => Or.inl, by rw [waits]⟩
  · refine ⟨some signal, ?_, ?_⟩
    · rintro moment ⟨⟩
      exact Or.inr (signal?_mem comes).2.1
    · rcases waits with ⟨waits, _⟩ | ⟨h', expired, waits⟩
      · rw [waits]
      · rw [waits, expired]

@[simp] theorem patience_waitOnce (h : Host) (watched : List Watched) (until? : Option Nat) :
    (h.waitOnce watched until?).2.patience = h.patience := by
  obtain ⟨last, _, waits⟩ := h.waitOnce_snd watched until?
  rw [waits, patience_await]

/-- A poll is refused, or costs some of the host's patience. -/
theorem patience_poll (h : Host) (watched : List Watched) (millis : Option Nat) :
    (h.poll watched millis).1 = .error .edeadlk ∨
      (h.poll watched millis).2.patience < h.patience := by
  simp only [poll, pollOnce]
  split
  · exact Or.inl rfl
  · rename_i patience given
    right
    split
    · rename_i e h' fault
      have kept : h'.patience = patience := by
        simpa [fault] using patience_takeFault { h with patience } .poll
      simp only [patience_record]
      omega
    · rename_i h' fault
      have kept : h'.patience = patience := by
        simpa [fault] using patience_takeFault { h with patience } .poll
      simp only [patience_record, patience_waitOnce]
      omega

/-- Waits as `poll` does, and again for as long each time it is interrupted. -/
def waitReady (h : Host) (watched : List Watched) (timeout : Option Duration) :
    Except Errno Nat × Host :=
  match _answer : h.poll watched (timeout.map Duration.pollMillis) with
  | (.error .eintr, h') => h'.waitReady watched timeout
  | (result, h') => (result, h')
termination_by h.patience
decreasing_by
  have cost := h.patience_poll watched (timeout.map Duration.pollMillis)
  simp only [_answer] at cost
  simpa using cost

theorem patience_waitReady (h : Host) (watched : List Watched) (timeout : Option Duration) :
    (h.waitReady watched timeout).1 = .error .edeadlk ∨
      (h.waitReady watched timeout).2.patience < h.patience := by
  fun_induction waitReady h watched timeout with
  | case1 h h' answer ih =>
    have cost := h.patience_poll watched (timeout.map Duration.pollMillis)
    rw [answer] at cost
    simp only [reduceCtorEq, Except.error.injEq, false_or] at cost
    rcases ih with refused | less
    · exact Or.inl refused
    · exact Or.inr (by omega)
  | case2 h result h' other answer =>
    have cost := h.patience_poll watched (timeout.map Duration.pollMillis)
    rwa [answer] at cost

/-- Keeps the appointments that are due by a moment. -/
def keepUntil (moment : Nat) : List Appointment → Host → Host
  | [], h => h
  | a :: rest, h =>
    if a.due ≤ moment then keepUntil moment rest ({ h with appointments := rest }.keep a) else h

/-- Sleeps for as long as one call is asked to. -/
def sleepOnce (h : Host) (d : Duration) : Host :=
  let moment := h.now + d.nanos
  { keepUntil moment h.appointments (h.record (.sleep d.nanos)) with now := moment }

/-- Sleeps for some time, in as many calls as that takes. -/
def sleep (h : Host) (d : Duration) : Host :=
  d.sleepParts.foldl sleepOnce h

/-- A sleep takes the time that it was asked for. -/
theorem now_sleep (h : Host) (d : Duration) : (h.sleep d).now = h.now + d.nanos := by
  suffices ∀ (parts : List Duration) (h : Host),
      (parts.foldl sleepOnce h).now = h.now + Duration.total (parts.map Duration.nanos) by
    rw [sleep, this, d.total_sleepParts]
  intro parts
  induction parts with
  | nil => exact fun h => rfl
  | cons first rest ih =>
    intro h
    simp only [List.foldl_cons, ih, sleepOnce, Duration.total, List.map_cons, List.foldr_cons,
      Nat.add_assoc]

end LocalPipe.Host
