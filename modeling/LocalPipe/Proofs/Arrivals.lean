import LocalPipe.Proofs.PollTimes

namespace LocalPipe

namespace Host

/-- What it depends on who comes to wait at a listener: the names and the listeners that
there are, and the outcomes set for connects. -/
def doors (h : Host) : FileTree × Table Nat (List String) × List (Option Errno) :=
  (h.files, h.listeners, h.outcomesAhead .connect)

/-- Whether a peer waits at a listener to be accepted. -/
def hasPeer (h : Host) (listener : Nat) : Bool :=
  h.isReady (.listener listener)

/-- A peer waits at a listener, or comes to wait there before a moment has passed, as others
have appointed it. -/
def HasPeerBy (h : Host) (listener moment : Nat) : Prop :=
  h.hasPeer listener = true ∨
    h.now < moment ∧ (keepUntil moment h.appointments h).hasPeer listener = true

variable {h h' : Host} {listener moment : Nat} {point : FaultPoint}

theorem hasPeer_iff : h.hasPeer listener = true ↔
    ∃ name rest, h.listeners.get? listener = some (name :: rest) := by
  unfold hasPeer isReady
  cases waiting : h.listeners.get? listener with
  | none => simp [waiting]
  | some names => cases names <;> simp [waiting]

theorem not_hasPeerBy (missing : h.hasPeer listener = false)
    (nobody : (keepUntil moment h.appointments h).hasPeer listener = false) :
    ¬ h.HasPeerBy listener moment := by
  rintro (waits | ⟨_, waits⟩)
  · rw [missing] at waits
    cases waits
  · rw [nobody] at waits
    cases waits

theorem hasPeer_of_listeners (same : h'.listeners = h.listeners) :
    h'.hasPeer listener = h.hasPeer listener := by
  rw [hasPeer, hasPeer, isReady, isReady, same]

theorem hasPeer_congr (same : h'.doors = h.doors) : h'.hasPeer listener = h.hasPeer listener :=
  hasPeer_of_listeners (congrArg (·.2.1) same)

theorem takeFault_eq (h : Host) (point : FaultPoint) : h.takeFault point =
    match h.outcomesAhead point with
    | outcome :: rest => (outcome, { h with callFaults := h.callFaults.set point rest })
    | [] => (none, h) := by
  unfold takeFault outcomesAhead
  cases h.callFaults.get? point with
  | none => rfl
  | some outcomes => cases outcomes <;> rfl

theorem outcomesAhead_set (h : Host) (point point' : FaultPoint) (outcomes : List (Option Errno)) :
    outcomesAhead { h with callFaults := h.callFaults.set point outcomes } point' =
      if point = point' then outcomes else h.outcomesAhead point' := by
  unfold outcomesAhead
  by_cases same : point = point'
  · subst same
    simp
  · rw [if_neg same, Table.get?_set_of_ne _ _ same]

/-- Which outcome a connect meets depends on the doors only. -/
theorem doors_takeFault_congr (same : h'.doors = h.doors) :
    (h'.takeFault .connect).1 = (h.takeFault .connect).1 ∧
      (h'.takeFault .connect).2.doors = (h.takeFault .connect).2.doors := by
  have outcomes : h'.outcomesAhead .connect = h.outcomesAhead .connect := congrArg (·.2.2) same
  have files : h'.files = h.files := congrArg (·.1) same
  have listeners : h'.listeners = h.listeners := congrArg (·.2.1) same
  rw [takeFault_eq, takeFault_eq, outcomes]
  split
  · refine ⟨rfl, Prod.ext files (Prod.ext listeners ?_)⟩
    dsimp only [doors]
    rw [outcomesAhead_set, outcomesAhead_set, if_pos rfl, if_pos rfl]
  · exact ⟨rfl, same⟩

theorem doors_of_takeFault_ne (h : Host) (other : point ≠ .connect) :
    (h.takeFault point).2.doors = h.doors := by
  rw [takeFault_eq]
  split
  · simp only [doors, outcomesAhead_set, if_neg other]
  · rfl

theorem listenerAt_congr (same : h'.doors = h.doors) (path : Bytes) :
    h'.listenerAt path = h.listenerAt path := by
  have files : h'.files = h.files := congrArg (·.1) same
  have listeners : h'.listeners = h.listeners := congrArg (·.2.1) same
  rw [listenerAt, listenerAt, files, listeners]

theorem doors_addLink_congr (same : h'.doors = h.doors) (number : Nat) (plan : LinkPlan) :
    (h'.addLink number plan).doors = (h.addLink number plan).doors := by
  have files : h'.files = h.files := congrArg (·.1) same
  have listeners : h'.listeners = h.listeners := congrArg (·.2.1) same
  have outcomes : h'.outcomesAhead .connect = h.outcomesAhead .connect := congrArg (·.2.2) same
  refine Prod.ext files (Prod.ext ?_ outcomes)
  dsimp only [doors, addLink]
  rw [listeners]

theorem doors_peerConnect_congr (same : h'.doors = h.doors) (name : Bytes) (plan : LinkPlan) :
    (h'.peerConnect name plan).2.doors = (h.peerConnect name plan).2.doors := by
  obtain ⟨met, taken⟩ := doors_takeFault_congr same
  unfold peerConnect
  split
  · exact same
  · generalize h'.takeFault .connect = first at *
    generalize h.takeFault .connect = second at *
    obtain ⟨outcome, mid'⟩ := first
    obtain ⟨outcome', mid⟩ := second
    dsimp only at met taken
    subst met
    cases outcome with
    | some e => exact taken
    | none =>
      dsimp only
      rw [listenerAt_congr taken]
      split
      · exact taken
      · exact doors_addLink_congr taken _ _

/-- What others do at an end is nothing to the doors. -/
theorem doors_act (h : Host) (action : PeerAction) (at_end : action.actor ≠ none) :
    (h.act action).2.doors = h.doors := by
  cases action with
  | connect | failCalls => exact absurd rfl at_end
  | _ =>
    simp only [act, peerSend, peerReceive, peerClose, failTransfers]
    repeat' split
    all_goals first
      | rfl
      | (rw [setEnd_frame]; rfl)
      | (rw [closeEnd_frame, close_frame]; rfl)
      | (rw [closeEnd_frame]; rfl)

/-- What others do at the doors depends on the doors only. -/
theorem doors_act_congr (same : h'.doors = h.doors) (action : PeerAction) :
    (h'.act action).2.doors = (h.act action).2.doors := by
  have outcomes : h'.outcomesAhead .connect = h.outcomesAhead .connect := congrArg (·.2.2) same
  cases action with
  | connect name link capacity => exact doors_peerConnect_congr same name ⟨link, capacity⟩
  | failCalls point later =>
    refine Prod.ext (congrArg (·.1) same) (Prod.ext (congrArg (·.2.1) same) ?_)
    dsimp only [doors, act]
    rw [outcomesAhead_set, outcomesAhead_set]
    split
    · rename_i connects
      subst connects
      exact congrArg (· ++ later) outcomes
    · exact outcomes
  | send | receive | close | failTransfers =>
    rw [doors_act _ _ (by simp [PeerAction.actor]), doors_act _ _ (by simp [PeerAction.actor]),
      same]

theorem doors_keep_congr (same : h'.doors = h.doors) (a : Appointment) :
    (h'.keep a).doors = (h.keep a).doors := by
  suffices ∀ (actions : List PeerAction) (h h' : Host), h'.doors = h.doors →
      (actions.foldl actRecorded h').doors = (actions.foldl actRecorded h).doors from
    this _ _ _ same
  intro actions
  induction actions with
  | nil => exact fun _ _ same => same
  | cons action rest ih => exact fun _ _ same => ih _ _ (doors_act_congr same action)

theorem doors_keepUntil_congr (moment : Nat) (appointments : List Appointment)
    (same : h'.doors = h.doors) :
    (keepUntil moment appointments h').doors = (keepUntil moment appointments h).doors := by
  induction appointments generalizing h h' with
  | nil => exact same
  | cons a rest ih =>
    have fewer : doors { h' with appointments := rest } = doors { h with appointments := rest } :=
      same
    unfold keepUntil
    split
    · exact ih (doors_keep_congr fewer a)
    · exact same

/-- Who waits stays, whatever others do. -/
theorem hasPeer_act (waits : h.hasPeer listener = true) (action : PeerAction) :
    (h.act action).2.hasPeer listener = true := by
  cases action with
  | connect name link capacity =>
    have taken : (h.takeFault .connect).2.hasPeer listener = true := by
      rwa [hasPeer_of_listeners (h := h)]
      rw [takeFault_eq]
      split <;> rfl
    rcases h.peerConnect_cases name ⟨link, capacity⟩ with
      same | met | ⟨number, _, _, _, _, connects⟩
    · rwa [act, same]
    · rwa [act, met]
    · rw [act, connects, hasPeer_iff]
      obtain ⟨first, rest, waiting⟩ := hasPeer_iff.mp taken
      dsimp only [addLink]
      by_cases same : number = listener
      · subst same
        exact ⟨first, rest ++ [link], by simp [waiting]⟩
      · exact ⟨first, rest, by rw [Table.get?_set_of_ne _ _ same, waiting]⟩
  | failCalls => exact waits
  | send | receive | close | failTransfers =>
    rwa [hasPeer_congr (doors_act h _ (by simp [PeerAction.actor]))]

theorem hasPeer_keep (waits : h.hasPeer listener = true) (a : Appointment) :
    (h.keep a).hasPeer listener = true := by
  suffices ∀ (actions : List PeerAction) (h : Host), h.hasPeer listener = true →
      (actions.foldl actRecorded h).hasPeer listener = true from this _ _ waits
  intro actions
  induction actions with
  | nil => exact fun _ waits => waits
  | cons action rest ih => exact fun _ waits => ih _ (hasPeer_act waits action)

theorem hasPeer_keepUntil (moment : Nat) (appointments : List Appointment)
    (waits : h.hasPeer listener = true) :
    (keepUntil moment appointments h).hasPeer listener = true := by
  induction appointments generalizing h with
  | nil => exact waits
  | cons a rest ih =>
    unfold keepUntil
    split
    · exact ih (hasPeer_keep (h := { h with appointments := rest }) waits a)
    · exact waits

theorem readyCount_listener (h : Host) (listener : Nat) :
    h.readyCount [.listener listener] = (h.hasPeer listener).toNat := by
  cases waits : h.hasPeer listener <;> simpa [readyCount, hasPeer] using waits

/-- A wait for a peer ends once one waits, and it lasts to the end only if none has come
by then. -/
theorem await_listener (listener moment : Nat) (appointments : List Appointment) (h : Host) :
    ((await [.listener listener] (some moment) appointments h).1 = .ok 0 ∧
      (keepUntil moment appointments h).hasPeer listener = false) ∨
    ∃ n, (await [.listener listener] (some moment) appointments h).1 = .ok (n + 1) ∧
      (await [.listener listener] (some moment) appointments h).2.hasPeer listener = true ∧
      (keepUntil moment appointments h).hasPeer listener = true := by
  have ready := h.readyCount_listener listener
  induction appointments generalizing h with
  | nil =>
    unfold await
    cases waits : h.hasPeer listener with
    | true =>
      rw [waits] at ready
      exact Or.inr ⟨0, by rw [ready]; rfl, by rw [ready]; exact waits, waits⟩
    | false =>
      rw [waits] at ready
      exact Or.inl ⟨by rw [ready]; rfl, waits⟩
  | cons a rest ih =>
    have later (waits : h.hasPeer listener = true) :=
      hasPeer_keepUntil moment (a :: rest) waits
    unfold await
    cases waits : h.hasPeer listener with
    | true =>
      rw [waits] at ready
      exact Or.inr ⟨0, by rw [ready]; rfl, by rw [ready]; exact waits, later waits⟩
    | false =>
      rw [waits] at ready
      rw [ready]
      simp only [Bool.toNat_false, Nat.lt_irrefl, if_false]
      unfold keepUntil
      split
      · exact ih _ (readyCount_listener ..)
      · exact Or.inl ⟨rfl, waits⟩

end Host

end LocalPipe
