import LocalPipe.Proofs.SocketWalks
import LocalPipe.Proofs.HostNames
import LocalPipe.Proofs.Uses

namespace LocalPipe

open Host

/-- A tick has nothing to do with names, and nothing with what is ahead of other calls. -/
theorem Connection.Ticked.spared {c : Connection} {q : Queues} {h : Host} {t : Tick}
    (ticked : c.Ticked q h t) :
    t.host.naming = h.naming ∧ t.host.callFaults = h.callFaults := by
  obtain ⟨mid, received, sent⟩ := ticked.halves
  rw [sent.writes.rest, received.reads.rest]
  exact ⟨rfl, rfl⟩

namespace Endpoint

/-- The files once an endpoint has given up its name, which it may be refused to remove. -/
def cleared (ep : Endpoint) (refused : Bool) (t : FileTree) : FileTree :=
  match ep.listener with
  | none => t
  | some bound =>
    if refused then t
    else
      match t.unlink bound.path with
      | .ok t => t
      | .error _ => t

/-- The listeners that are open once an endpoint has given up its name. -/
def silenced (ep : Endpoint) (listening : Nat → Bool) : Nat → Bool :=
  match ep.listener with
  | none => listening
  | some bound => fun number => !decide (number = bound.listener) && listening number

/-- All that has to do with names once an endpoint has given up its own. -/
def withdrawn (ep : Endpoint) (refused : Bool) (h : Host) : (FileTree × Nat) × (Nat → Bool) :=
  ((ep.cleared refused h.files, h.nextListener), ep.silenced h.listening)

variable {ep ep' : Endpoint} {h h' : Host} {path : Bytes} {refused : Bool}

theorem cleared_of_unbound (unbound : ep.listener = none) (refused : Bool) (t : FileTree) :
    ep.cleared refused t = t := by
  rw [cleared, unbound]

theorem silenced_of_unbound (unbound : ep.listener = none) (listening : Nat → Bool) :
    ep.silenced listening = listening := by
  rw [silenced, unbound]

/-- Of the listeners that were open, an endpoint's own one is not once it has given up its
name. -/
theorem silenced_eq_true {listening : Nat → Bool} {number : Nat} :
    ep.silenced listening number = true ↔
      listening number = true ∧ ∀ bound, ep.listener = some bound → number ≠ bound.listener := by
  cases here : ep.listener with
  | none => simp [silenced, here]
  | some bound => simp [silenced, here, and_comm]

theorem withdrawn_congr (ep : Endpoint) (refused : Bool) (same : h'.naming = h.naming) :
    ep.withdrawn refused h' = ep.withdrawn refused h := by
  rw [withdrawn, withdrawn, files_of_naming same, nextListener_of_naming same,
    listening_of_naming same]

theorem unbind_bound {bound : Bound} (listening : ep.listener = some bound) (h : Host) :
    ∃ events, (ep.unbind h).2 =
      { ((h.closeListener bound.listener).unlink bound.path).2 with events } := by
  unfold unbind
  rw [listening]
  dsimp only
  generalize (h.closeListener bound.listener).unlink bound.path = answer
  obtain ⟨_ | _, mid⟩ := answer <;> exact ⟨_, rfl⟩

theorem naming_unbind (ep : Endpoint) (h : Host) :
    (ep.unbind h).2.naming = ep.withdrawn (h.refuses .unlink) h := by
  cases listening : ep.listener with
  | none =>
    rw [withdrawn, cleared_of_unbound listening, silenced_of_unbound listening, unbind, listening]
    rfl
  | some bound =>
    obtain ⟨events, unbinds⟩ := unbind_bound listening h
    have closed := h.naming_closeListener bound.listener
    obtain ⟨_, removes⟩ := (h.closeListener bound.listener).unlink_cases bound.path
    rw [refuses_congr (h.callFaults_closeListener bound.listener), files_of_naming closed,
      nextListener_of_naming closed, listening_of_naming closed] at removes
    rw [unbinds, withdrawn, cleared, silenced, listening]
    dsimp only
    rcases removes with ⟨refused | ⟨e, fails⟩, _, naming⟩ | ⟨free, t, unlinks, _, naming⟩
    · rw [if_pos refused]
      exact naming.trans closed
    · rw [fails, ite_self]
      exact naming.trans closed
    · rw [free, unlinks]
      exact naming

/-- Giving up a name touches no descriptor, and meets no outcome of another call. -/
theorem spared_unbind (ep : Endpoint) (h : Host) :
    (ep.unbind h).2.descriptors = h.descriptors ∧ h.SparesCalls (ep.unbind h).2 := by
  cases listening : ep.listener with
  | none =>
    rw [unbind, listening]
    exact ⟨rfl, .refl h⟩
  | some bound =>
    obtain ⟨events, unbinds⟩ := unbind_bound listening h
    obtain ⟨spares, _⟩ := (h.closeListener bound.listener).unlink_cases bound.path
    rw [unbinds]
    refine ⟨?_, fun point unlike unlike' => (spares point unlike unlike').trans ?_⟩
    · rw [unlink_frame]
      exact h.descriptors_closeListener bound.listener
    · rw [h.callFaults_closeListener bound.listener]

theorem naming_close (ep : Endpoint) (h : Host) :
    (ep.close h).2.naming = ep.withdrawn (h.refuses .unlink) h := by
  rw [← naming_unbind]
  unfold close
  generalize ep.unbind h = step
  obtain ⟨ep', h'⟩ := step
  dsimp only
  split
  · rfl
  · exact naming_frame.shutdown _ h'

theorem naming_giveUp (ep : Endpoint) (errors : List IoError) (h : Host) :
    (ep.giveUp errors h).2.naming = ep.withdrawn (h.refuses .unlink) h := by
  obtain ⟨events, logged⟩ := logAll_eq errors (.transferFailed ep.name) h
  have same : Host.refuses { h with events } .unlink = h.refuses .unlink := refuses_congr rfl
  rw [giveUp, logged, naming_close, same]
  rfl

/-- Clearing a path removes a socket at most, and only one that is at the path. -/
theorem removeStaleSocket_cases {result : Except IoError Unit}
    (clears : removeStaleSocket path h = (result, h')) :
    h'.descriptors = h.descriptors ∧ h.SparesCalls h' ∧
      (h'.naming = h.naming ∨ result = .ok () ∧
        ∃ number t, path.contains 0 = false ∧ h.files.LosesSocket path number t ∧
          h'.naming = ((t, h.nextListener), h.listening)) := by
  unfold removeStaleSocket at clears
  split at clears
  · cases clears
    exact ⟨rfl, .refl h, Or.inl rfl⟩
  · rename_i nulless
    split at clears
    · rename_i looked
      cases clears
      obtain ⟨naming, descriptors, spares, _⟩ := stat_cases looked
      exact ⟨descriptors, spares, Or.inl naming⟩
    · rename_i looked
      cases clears
      obtain ⟨naming, descriptors, spares, _⟩ := stat_cases looked
      exact ⟨descriptors, spares, Or.inl naming⟩
    · rename_i number mid looked
      obtain ⟨naming, descriptors, spares, there⟩ := stat_cases looked
      obtain ⟨t, unlinks, lost⟩ := FileTree.unlink_socket (there _ rfl)
      obtain ⟨spares', removes⟩ := mid.unlink_cases path
      have kept : (mid.unlink path).2.descriptors = mid.descriptors := by rw [unlink_frame]
      rw [files_of_naming naming, unlinks, nextListener_of_naming naming,
        listening_of_naming naming] at removes
      generalize mid.unlink path = answer at *
      obtain ⟨result', last⟩ := answer
      rcases removes with ⟨_, ⟨e, rfl⟩, same⟩ | ⟨_, _, removed, rfl, naming'⟩
      · cases clears
        exact ⟨kept.trans descriptors, spares.trans spares', Or.inl (same.trans naming)⟩
      · cases removed
        cases clears
        exact ⟨kept.trans descriptors, spares.trans spares',
          Or.inr ⟨rfl, number, t, by simpa using nulless, lost, naming'⟩⟩
    · rename_i looked
      cases clears
      obtain ⟨naming, descriptors, spares, _⟩ := stat_cases looked
      exact ⟨descriptors, spares, Or.inl naming⟩

/-- What binding comes to. The endpoint has given up the name that it had. If it does not
get the new one, it has none. What is gone from the new one then is a socket at most, and
only if another one cannot be made there although nothing is in its way, or is made there, and
cannot be listened on. -/
inductive Binds (ep : Endpoint) (h : Host) (path : Bytes) :
    Except SetupError Unit → Endpoint → Host → Prop
  | refused {e : IoError} {h' : Host} : h'.naming = ep.withdrawn (h.refuses .unlink) h →
      Binds ep h path (.error (.bind (Text.lossy path) e)) { ep with listener := none } h'
  | spoiled {number : Nat} {t : FileTree} {e : IoError} {h' : Host} :
      (ep.cleared (h.refuses .unlink) h.files).LosesSocket path number t → h.Hinders path e →
      h'.naming = ((t, h.nextListener), ep.silenced h.listening) →
      Binds ep h path (.error (.bind (Text.lossy path) e)) { ep with listener := none } h'
  | unheard {t : FileTree} {errno : Errno} {h' : Host} :
      (ep.cleared (h.refuses .unlink) h.files).Swept path t →
      t.Gains path h.nextListener h'.files → h'.nextListener = h.nextListener + 1 →
      h'.listening = ep.silenced h.listening → (h.takeFault .listen).1 = some errno →
      Binds ep h path (.error (.bind (Text.lossy path) (.os errno))) { ep with listener := none } h'
  | bound {t : FileTree} {h' : Host} : (ep.cleared (h.refuses .unlink) h.files).Swept path t →
      t.Gains path h.nextListener h'.files → h'.nextListener = h.nextListener + 1 →
      (∀ number, h'.listening number =
        (decide (number = h.nextListener) || ep.silenced h.listening number)) →
      socketPathError? path = none →
      Binds ep h path (.ok ())
        { ep with name := Text.lossy path, listener := some ⟨h.nextListener, path⟩ } h'

/-- What is left once an endpoint has given up its name and cleared a path. -/
theorem swept_of_clears {mid : Host}
    (clears : removeStaleSocket path (ep.unbind h).2 = (.ok (), mid)) :
    ∃ t, mid.naming = ((t, h.nextListener), ep.silenced h.listening) ∧
      (ep.cleared (h.refuses .unlink) h.files).Swept path t ∧
      (t = ep.cleared (h.refuses .unlink) h.files ∨ path.contains 0 = false ∧
        ∃ number, (ep.cleared (h.refuses .unlink) h.files).LosesSocket path number t) := by
  have unbound := naming_unbind ep h
  obtain ⟨_, _, same | ⟨_, number, t, nulless, lost, naming⟩⟩ := removeStaleSocket_cases clears
  · exact ⟨_, same.trans unbound, .clear, Or.inl rfl⟩
  · rw [files_of_naming unbound] at lost
    rw [nextListener_of_naming unbound, listening_of_naming unbound] at naming
    exact ⟨t, naming, .stale lost, Or.inr ⟨nulless, number, lost⟩⟩

theorem bind_cases {result : Except SetupError Unit}
    (run : ep.bind path h = .ok (result, ep') h') :
    ep.connection = none ∧ h'.descriptors = h.descriptors ∧ ep.Binds h path result ep' h' := by
  obtain ⟨disconnected, binding⟩ := binding_of_ok run
  refine ⟨disconnected, ?_⟩
  obtain ⟨kept, spares⟩ := spared_unbind ep h
  have closed (mid : Host) : (mid.listen path).2.descriptors = mid.descriptors := by
    rw [listen_frame]
  cases binding with
  | uncleared clears =>
    obtain ⟨kept', _, same | ⟨fine, _⟩⟩ := removeStaleSocket_cases clears
    · exact ⟨kept'.trans kept, .refused (same.trans (naming_unbind ep h))⟩
    · cases fine
  | @refused e mid last clears listens =>
    obtain ⟨kept', spares', _⟩ := removeStaleSocket_cases clears
    obtain ⟨t, naming, sweeps, swept⟩ := swept_of_clears clears
    have kept'' := closed mid
    have comes := mid.listen_listens path
    rw [listens] at kept'' comes
    refine ⟨(kept''.trans kept').trans kept, ?_⟩
    cases comes with
    | unmade same hinders =>
      rcases swept with rfl | ⟨nulless, number, lost⟩
      · exact .refused (same.trans naming)
      · rw [files_of_naming naming] at hinders
        exact .spoiled lost ((spares.trans spares').hinders (hinders nulless (lost.free _)))
          (same.trans naming)
    | unheard gains following silent ahead =>
      rw [files_of_naming naming, nextListener_of_naming naming] at gains
      rw [nextListener_of_naming naming] at following
      rw [listening_of_naming naming] at silent
      exact .unheard sweeps gains following silent
        (((spares.trans spares').fst_eq (by decide) (by decide)).symm.trans ahead)
  | @listens number mid last clears listens =>
    obtain ⟨kept', _, _⟩ := removeStaleSocket_cases clears
    obtain ⟨t, naming, sweeps, _⟩ := swept_of_clears clears
    have kept'' := closed mid
    have comes := mid.listen_listens path
    rw [listens] at kept'' comes
    refine ⟨(kept''.trans kept').trans kept, ?_⟩
    cases comes with
    | made gains following opened usable =>
      rw [files_of_naming naming, nextListener_of_naming naming] at gains
      rw [nextListener_of_naming naming] at following opened ⊢
      rw [listening_of_naming naming] at opened
      exact .bound sweeps gains following opened usable

/-- What a use comes to for an endpoint's name, for the files, and for who listens. Only
binding takes a name. While an endpoint waits for its peer others act, so that it does not show
beforehand whether it can remove its name once it has one. -/
inductive Renames (ep : Endpoint) (h : Host) (use : Use) (ep' : Endpoint) (h' : Host) : Prop
  | kept : ep'.listener = ep.listener → h'.naming = h.naming → Renames ep h use ep' h'
  | released {refused : Bool} : ep'.listener = none → h'.naming = ep.withdrawn refused h →
      (use ≠ .accept → refused = h.refuses .unlink) → Renames ep h use ep' h'
  | bind {path : Bytes} {result : Except SetupError Unit} : use = .bind path →
      ep.Binds h path result ep' h' → Renames ep h use ep' h'

theorem listener_of_attach {d : Descriptor} {reads writes : Bool} {answer : Except IoError Unit}
    (attached : ep.attach d reads writes h = (answer, ep', h')) : ep'.listener = ep.listener := by
  unfold attach at attached
  split at attached <;> cases attached <;> rfl

theorem listener_connect {result : Except SetupError Unit}
    (run : ep.connect path h = .ok (result, ep') h') : ep'.listener = ep.listener := by
  obtain ⟨_, connecting⟩ := connecting_of_ok run
  cases connecting with
  | refused => rfl
  | opened _ attached =>
    have same := listener_of_attach attached
    exact same

theorem listener_adopt {d : Descriptor} {direction : Direction} {name : String}
    {result : Except SetupError Unit}
    (run : ep.adopt d direction name h = .ok (result, ep') h') : ep'.listener = ep.listener := by
  obtain ⟨_, _, _, attached⟩ := attach_of_adopt run
  have same := listener_of_attach attached
  exact same

/-- An endpoint that has accepted a peer is connected, and has given up its name. -/
theorem accept_cases (run : ep.accept h = .ok ep' h') :
    ep.connection = none ∧ (∃ c, ep' = { ep with listener := none, connection := some c }) ∧
      ∃ bound d mid, ep.listener = some bound ∧
        acceptWithin bound.listener ep.config.acceptTimeout h = .ok (.ok d) mid ∧
        h'.naming = ep.withdrawn (mid.refuses .unlink) h := by
  obtain ⟨disconnected, bound, d, mid, listening, accepts, attached⟩ := attach_of_accept run
  have waited := (naming_frame.acceptWithin _ _).of_ok accepts
  have kept := naming_frame.attach { ep with listener := none } d true true
    ((ep.unbind mid).2.log (.acceptedPeer ep.name))
  rw [attached] at kept
  obtain ⟨⟨c, made, _⟩, _⟩ := attach_fresh attached
  refine ⟨disconnected, ⟨c, made⟩, bound, d, mid, listening, accepts, ?_⟩
  exact kept.trans ((naming_unbind ep mid).trans (ep.withdrawn_congr _ waited))

theorem renames_service {waits waits' : WaitSet} {moved : Bool}
    (sound : ∀ c, ep.connection = some c → c.Sound)
    (run : ep.service waits h = .ok (moved, waits', ep') h') :
    ep.Renames h (.service waits) ep' h' := by
  cases connected : ep.connection with
  | none =>
    rw [service_closed waits connected] at run
    cases run
    exact .kept rfl rfl
  | some c =>
    obtain ⟨ticked, ahead⟩ :=
      (c.ticked (q := ep.queues) (h := h) (sound c connected)).spared
    have served := served_of_run connected (sound c connected) run
    cases served with
    | kept => exact .kept rfl ticked
    | failed errors _ =>
      refine .released (by rw [giveUp_fst]) ?_ fun _ => rfl
      rw [naming_giveUp, refuses_congr ahead]
      exact Endpoint.withdrawn_congr _ _ ticked

/-- Every use of an endpoint keeps its name, gives it up, or takes another one. -/
theorem renames_perform (use : Use) (sound : ∀ c, ep.connection = some c → c.Sound)
    (run : ep.perform use h = .ok ep' h') : ep.Renames h use ep' h' := by
  cases use with
  | write | read | readAll | peek | setReadBufferSize =>
    cases run
    exact .kept rfl rfl
  | writeImmediately data =>
    obtain ⟨_, mid, writes, last⟩ := Action.bind_ok.mp run
    have written := (naming_frame.writeImmediately ep data).of_ok writes
    cases last
    exact .kept rfl written
  | service waits =>
    obtain ⟨⟨moved, waits', served⟩, mid, run, last⟩ := Action.bind_ok.mp run
    cases last
    exact renames_service sound run
  | close =>
    have closed := ep.close_fst h
    have naming := naming_close ep h
    rw [Action.call_ok.mp run] at closed naming
    exact .released (congrArg Endpoint.listener closed) naming fun _ => rfl
  | connect path =>
    obtain ⟨⟨result, made⟩, mid, run, last⟩ := Action.bind_ok.mp run
    cases last
    exact .kept (listener_connect run) ((naming_frame.endpoint_connect ep path).of_ok run)
  | bind path =>
    obtain ⟨⟨result, made⟩, mid, run, last⟩ := Action.bind_ok.mp run
    cases last
    exact .bind rfl (bind_cases run).2.2
  | accept =>
    obtain ⟨_, ⟨c, rfl⟩, _, _, _, _, _, naming⟩ := accept_cases run
    exact .released rfl naming fun other => absurd rfl other
  | adopt d direction name =>
    obtain ⟨⟨result, made⟩, mid, run, last⟩ := Action.bind_ok.mp run
    cases last
    exact .kept (listener_adopt run)
      ((naming_frame.endpoint_adopt ep d direction name).of_ok run)

end Endpoint

end LocalPipe
