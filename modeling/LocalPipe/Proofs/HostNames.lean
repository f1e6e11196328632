import LocalPipe.Proofs.FileWalks
import LocalPipe.Proofs.Frames
import LocalPipe.Proofs.WaitFrames

namespace LocalPipe

theorem Table.contains_set {κ α : Type} [DecidableEq κ] (t : Table κ α) (k k' : κ) (v : α) :
    (t.set k v).contains k' = (decide (k' = k) || t.contains k') := by
  by_cases same : k' = k
  · subst same
    simp [contains]
  · simp [contains, get?_set_of_ne t v (Ne.symm same), same]

theorem Table.contains_erase {κ α : Type} [DecidableEq κ] (t : Table κ α) (k k' : κ) :
    (t.erase k).contains k' = (!decide (k' = k) && t.contains k') := by
  by_cases same : k' = k
  · subst same
    simp [contains]
  · simp [contains, get?_erase_of_ne t (Ne.symm same), same]

namespace Host

/-- What names are made of: the files of a host, and the number that its next listener
gets. -/
def names (h : Host) : FileTree × Nat :=
  (h.files, h.nextListener)

/-- Whether a listener is open. -/
def listening (h : Host) (number : Nat) : Bool :=
  h.listeners.contains number

/-- All of a host that has to do with names, and with who listens behind them. -/
def naming (h : Host) : (FileTree × Nat) × (Nat → Bool) :=
  (h.names, h.listening)

section

variable {h : Host} {t : FileTree} {n : Nat} {listening : Nat → Bool}
  (naming : h.naming = ((t, n), listening))

include naming

theorem files_of_naming : h.files = t :=
  congrArg (·.1.1) naming

theorem nextListener_of_naming : h.nextListener = n :=
  congrArg (·.1.2) naming

theorem listening_of_naming : h.listening = listening :=
  congrArg (·.2) naming

end

theorem naming_takeFault (h : Host) (point : FaultPoint) :
    (h.takeFault point).2.naming = h.naming := by
  rw [takeFault_frame]
  rfl

theorem naming_of_takeFault {h h' : Host} {point : FaultPoint} {outcome : Option Errno}
    (taken : h.takeFault point = (outcome, h')) : h'.naming = h.naming := by
  rw [← naming_takeFault h point, taken]

/-- To change what waits at an open listener opens none. -/
theorem naming_waiting {h : Host} {number : Nat} (opened : h.listening number = true)
    (waiting : List String) :
    ({ h with listeners := h.listeners.set number waiting } : Host).naming = h.naming := by
  refine Prod.ext rfl (funext fun other => ?_)
  simp only [naming, listening, Table.contains_set]
  by_cases same : other = number
  · subst same
    simp [← opened, listening]
  · simp [same]

/-- Whoever is behind a name listens. -/
theorem listening_of_listenerAt {h : Host} {path : Bytes} {number : Nat}
    (there : h.listenerAt path = .ok number) : h.listening number = true := by
  unfold listenerAt at there
  split at there
  · cases there
  · split at there
    · split at there
      · rename_i opened
        cases there
        exact opened
      · cases there
    · cases there

theorem naming_addLink {h : Host} {path : Bytes} {number : Nat}
    (there : h.listenerAt path = .ok number) (plan : LinkPlan) :
    (h.addLink number plan).naming = h.naming := by
  have opened : (h.setLink plan.name { capacity := plan.capacity }).listening number = true :=
    listening_of_listenerAt there
  exact naming_waiting opened _

theorem naming_connect (h : Host) (path : Bytes) : (h.connect path).2.naming = h.naming := by
  unfold connect
  split
  · rfl
  · split
    · rename_i fault
      exact (naming_of_takeFault fault :)
    · rename_i fault
      split
      · exact (naming_of_takeFault fault :)
      · rename_i there
        exact (naming_addLink there _).trans (naming_of_takeFault fault)

theorem naming_accept (h : Host) (listener : Nat) : (h.accept listener).2.naming = h.naming := by
  unfold accept
  split
  · rename_i fault
    exact (naming_of_takeFault fault :)
  · rename_i mid fault
    split
    · rename_i name rest waiting
      have opened : mid.listening listener = true := by
        simp [listening, Table.contains, waiting]
      exact (naming_waiting opened rest).trans (naming_of_takeFault fault)
    · exact (naming_of_takeFault fault :)

theorem naming_peerConnect (h : Host) (name : Bytes) (plan : LinkPlan) :
    (h.peerConnect name plan).2.naming = h.naming := by
  unfold peerConnect
  split
  · rfl
  · split
    · rename_i fault
      exact (naming_of_takeFault fault :)
    · rename_i fault
      split
      · exact (naming_of_takeFault fault :)
      · rename_i there
        exact (naming_addLink there _).trans (naming_of_takeFault fault)

theorem naming_act (h : Host) (action : PeerAction) : (h.act action).2.naming = h.naming := by
  cases action with
  | connect name link capacity => exact h.naming_peerConnect name ⟨link, capacity⟩
  | _ =>
    simp only [act, peerSend, peerReceive, peerClose, failTransfers]
    repeat' split
    all_goals first
      | rfl
      | (rw [setEnd_frame]; rfl)
      | (rw [closeEnd_frame, close_frame]; rfl)
      | (rw [closeEnd_frame]; rfl)

theorem naming_waitFrame : WaitFrame (fun _ => True) fun h h' => h'.naming = h.naming where
  trans first second := second.trans first
  passes _ _ _ _ _ _ := rfl
  record _ _ _ := rfl
  act := naming_act

/-- Only listening makes a name, and only unlinking removes one. Listeners stay open, and
no other ones open, but where a name is taken or given up. -/
theorem naming_frame : Frame fun h h' => h'.naming = h.naming where
  refl _ := rfl
  trans first second := second.trans first
  events _ _ := rfl
  write h d data := by
    rw [write_frame]
    rfl
  waitReady h _ _ := naming_waitFrame.waitReady h fun _ => trivial
  connect := naming_connect
  accept := naming_accept
  setListenerMode h := by
    rw [setListenerMode_frame]
    rfl
  getMode h d := by
    rw [getMode_frame]
    rfl
  setMode h d nonblocking := by
    rw [setMode_frame]
    rfl
  close h d := by
    rw [close_frame]
    rfl

/-- A listener that is closed listens no more. -/
theorem naming_closeListener (h : Host) (listener : Nat) :
    (h.closeListener listener).naming =
      ((h.files, h.nextListener), fun number =>
        !decide (number = listener) && h.listening number) := by
  rw [closeListener_frame]
  exact Prod.ext rfl (funext (Table.contains_erase _ _))

theorem descriptors_of_takeFault {h h' : Host} {point : FaultPoint} {outcome : Option Errno}
    (taken : h.takeFault point = (outcome, h')) : h'.descriptors = h.descriptors := by
  obtain ⟨_, rfl⟩ := frame_of_takeFault taken
  rfl

/-- Nothing has met what is ahead of other calls than those that look at names and remove
them. -/
def SparesCalls (h h' : Host) : Prop :=
  ∀ point, point ≠ .stat → point ≠ .unlink → h'.callFaults.get? point = h.callFaults.get? point

/-- What can keep a socket from being made although nothing is at its path: that there is no
socket to be had, that the path is too long, or that it cannot be given the name. -/
inductive Hinders (h : Host) (path : Bytes) : IoError → Prop
  | socket {errno : Errno} : (h.takeFault .socket).1 = some errno → Hinders h path (.os errno)
  | overlong : socketPathLimit ≤ path.length → Hinders h path .socketPathTooLong
  | name {errno : Errno} : (h.takeFault .bind).1 = some errno → Hinders h path (.os errno)

/-- What a listener comes to. Either no socket is made for it, and something hinders that if the
name is free. Or there is a new socket with the next number, which nobody may be able to listen
on. -/
inductive Listens (h : Host) (path : Bytes) : Except IoError Nat × Host → Prop
  | unmade {e : IoError} {h' : Host} : h'.naming = h.naming →
      (path.contains 0 = false →
        (∃ t, h.files.create path (.socket h.nextListener) = .ok t) → h.Hinders path e) →
      Listens h path (.error e, h')
  | unheard {errno : Errno} {h' : Host} : h.files.Gains path h.nextListener h'.files →
      h'.nextListener = h.nextListener + 1 → h'.listening = h.listening →
      (h.takeFault .listen).1 = some errno → Listens h path (.error (.os errno), h')
  | made {h' : Host} : h.files.Gains path h.nextListener h'.files →
      h'.nextListener = h.nextListener + 1 →
      (∀ number, h'.listening number =
        (decide (number = h.nextListener) || h.listening number)) →
      socketPathError? path = none → Listens h path (.ok h.nextListener, h')

variable {h h' h'' : Host} {path : Bytes} {point other : FaultPoint}

theorem takeFault_fst_congr (same : h'.callFaults.get? point = h.callFaults.get? point) :
    (h'.takeFault point).1 = (h.takeFault point).1 := by
  unfold takeFault
  rw [same]
  split <;> rfl

theorem refuses_congr (same : h'.callFaults = h.callFaults) :
    h'.refuses point = h.refuses point := by
  have outcome : (h'.takeFault point).1 = (h.takeFault point).1 :=
    takeFault_fst_congr (by rw [same])
  rw [refuses, refuses, outcome]

/-- A call meets only what is ahead of calls of its own kind. -/
theorem ahead_takeFault (h : Host) (apart : other ≠ point) :
    (h.takeFault other).2.callFaults.get? point = h.callFaults.get? point := by
  unfold takeFault
  split
  · exact Table.get?_set_of_ne _ _ apart
  · rfl

theorem ahead_of_takeFault {outcome : Option Errno} (taken : h.takeFault other = (outcome, h'))
    (apart : other ≠ point) : h'.callFaults.get? point = h.callFaults.get? point := by
  rw [← ahead_takeFault h apart, taken]

namespace SparesCalls

theorem refl (h : Host) : h.SparesCalls h :=
  fun _ _ _ => rfl

theorem trans (first : h.SparesCalls h') (second : h'.SparesCalls h'') : h.SparesCalls h'' :=
  fun point unlike unlike' => (second point unlike unlike').trans (first point unlike unlike')

theorem fst_eq (spares : h.SparesCalls h') (unlike : point ≠ .stat) (unlike' : point ≠ .unlink) :
    (h'.takeFault point).1 = (h.takeFault point).1 :=
  takeFault_fst_congr (spares point unlike unlike')

theorem hinders {e : IoError} (spares : h.SparesCalls h') (hinders : h'.Hinders path e) :
    h.Hinders path e := by
  cases hinders with
  | socket ahead => exact .socket ((spares.fst_eq (by decide) (by decide)).symm.trans ahead)
  | overlong long => exact .overlong long
  | name ahead => exact .name ((spares.fst_eq (by decide) (by decide)).symm.trans ahead)

end SparesCalls

/-- Looking at a path changes nothing there. -/
theorem stat_cases {answer : Except Errno Node} (looked : h.stat path = (answer, h')) :
    h'.naming = h.naming ∧ h'.descriptors = h.descriptors ∧ h.SparesCalls h' ∧
      ∀ node, answer = .ok node → h.files.stat path = .ok node := by
  have spares : h.SparesCalls (h.takeFault .stat).2 :=
    fun point unlike _ => ahead_takeFault h unlike.symm
  unfold stat at looked
  split at looked
  · rename_i fault
    rw [fault] at spares
    cases looked
    exact ⟨naming_of_takeFault fault, descriptors_of_takeFault fault, spares, by simp⟩
  · rename_i fault
    have same := naming_of_takeFault fault
    rw [fault] at spares
    cases looked
    refine ⟨same, descriptors_of_takeFault fault, spares, fun node found => ?_⟩
    rwa [files_of_naming same] at found

/-- A name is removed unless the call is made to fail, or the files refuse. -/
theorem unlink_cases (h : Host) (path : Bytes) :
    h.SparesCalls (h.unlink path).2 ∧
      ((h.refuses .unlink = true ∨ ∃ e, h.files.unlink path = .error e) ∧
          (∃ e, (h.unlink path).1 = .error e) ∧ (h.unlink path).2.naming = h.naming ∨
        h.refuses .unlink = false ∧ ∃ t, h.files.unlink path = .ok t ∧
          (h.unlink path).1 = .ok () ∧
          (h.unlink path).2.naming = ((t, h.nextListener), h.listening)) := by
  have spares : h.SparesCalls (h.takeFault .unlink).2 :=
    fun point _ unlike => ahead_takeFault h unlike.symm
  unfold unlink refuses
  cases fault : h.takeFault .unlink with
  | mk outcome mid =>
    rw [fault] at spares
    have same := naming_of_takeFault fault
    cases outcome with
    | some e => exact ⟨spares, Or.inl ⟨Or.inl rfl, ⟨e, rfl⟩, same⟩⟩
    | none =>
      dsimp only
      rw [files_of_naming same]
      cases h.files.unlink path with
      | error e => exact ⟨spares, Or.inl ⟨Or.inr ⟨e, rfl⟩, ⟨e, rfl⟩, same⟩⟩
      | ok t =>
        have next := nextListener_of_naming same
        have opened := listening_of_naming same
        exact ⟨spares, Or.inr ⟨rfl, t, rfl, rfl, Prod.ext (Prod.ext rfl next) opened⟩⟩

/-- A socket that is made has the next number, and it is made unless the call fails, or the
files refuse it. -/
theorem bindSocket_cases {answer : Except Errno Nat} (binds : h.bindSocket path = (answer, h')) :
    (∃ e, answer = .error e ∧ h'.naming = h.naming ∧
        ((∃ t, h.files.create path (.socket h.nextListener) = .ok t) →
          (h.takeFault .bind).1 = some e)) ∨
      answer = .ok h.nextListener ∧ h.files.Gains path h.nextListener h'.files ∧
        h'.nextListener = h.nextListener + 1 ∧ h'.listening = h.listening ∧
        h'.callFaults.get? .listen = h.callFaults.get? .listen := by
  unfold bindSocket at binds
  split at binds
  · rename_i fault
    cases binds
    exact Or.inl ⟨_, rfl, naming_of_takeFault fault, fun _ => congrArg Prod.fst fault⟩
  · rename_i mid fault
    have same := naming_of_takeFault fault
    have silent := listening_of_naming same
    have ahead : mid.callFaults.get? .listen = h.callFaults.get? .listen :=
      ahead_of_takeFault fault (by decide)
    rw [nextListener_of_naming same, files_of_naming same] at binds
    dsimp only at binds
    split at binds
    · rename_i nameless
      cases binds
      exact Or.inr ⟨rfl, files_of_naming same ▸ .nameless nameless, rfl, silent, ahead⟩
    · split at binds
      · rename_i created
        cases binds
        exact Or.inr ⟨rfl, .named created, rfl, silent, ahead⟩
      · rename_i taken
        cases binds
        exact Or.inl ⟨_, rfl, same, by simp [taken]⟩
      · rename_i refused
        cases binds
        exact Or.inl ⟨_, rfl, same, by simp [refused]⟩

/-- A path that has no null in it can only be too long for a socket. -/
theorem Hinders.of_unusable {e : IoError} (nulless : path.contains 0 = false)
    (unusable : socketPathError? path = some e) : h.Hinders path e := by
  unfold socketPathError? at unusable
  rw [nulless, if_neg Bool.false_ne_true] at unusable
  split at unusable
  · rename_i long
    cases unusable
    exact .overlong long
  · cases unusable

theorem listen_listens (h : Host) (path : Bytes) : h.Listens path (h.listen path) := by
  unfold listen
  split
  · rename_i fault
    exact .unmade (naming_of_takeFault fault) fun _ _ => .socket (congrArg Prod.fst fault)
  · rename_i mid fault
    have same := naming_of_takeFault fault
    have files := files_of_naming same
    have next := nextListener_of_naming same
    have listening := listening_of_naming same
    split
    · rename_i error unusable
      exact .unmade same fun nulless _ => .of_unusable nulless unusable
    · rename_i usable
      split
      · rename_i e mid' binds
        rcases bindSocket_cases binds with ⟨e', fails, unchanged, hinders⟩ | ⟨no, _⟩
        · cases fails
          refine .unmade (unchanged.trans same) fun _ free => .name ?_
          rw [files, next, takeFault_fst_congr (ahead_of_takeFault fault (by decide))] at hinders
          exact hinders free
        · cases no
      · rename_i number mid' binds
        rcases bindSocket_cases binds with ⟨_, no, _⟩ | ⟨made, gains, following, silent, ahead⟩
        · cases no
        · cases made
          rw [files, next] at gains
          rw [next] at following ⊢
          rw [listening] at silent
          have ahead' := ahead.trans (ahead_of_takeFault fault (by decide))
          split
          · rename_i errno last fault'
            have same' := naming_of_takeFault fault'
            refine .unheard ?_ ?_ ?_ ?_
            · rwa [files_of_naming same']
            · rwa [nextListener_of_naming same']
            · rwa [listening_of_naming same']
            · rw [← takeFault_fst_congr ahead', fault']
          · rename_i last fault'
            have same' := naming_of_takeFault fault'
            refine .made ?_ ?_ (fun number => ?_) usable
            · rwa [← files_of_naming same'] at gains
            · rwa [← nextListener_of_naming same'] at following
            · rw [← silent, ← listening_of_naming same']
              exact Table.contains_set _ _ _ _

end Host

end LocalPipe
