import LocalPipe.Proofs.Renamings

namespace LocalPipe

open Host

namespace Host

/-- A connection that was refused leaves no descriptor, and one that was made a new one. -/
theorem descriptors_connect {h h' : Host} {path : Bytes} {answer : Except IoError Descriptor}
    (connects : h.connect path = (answer, h')) :
    h'.descriptors = (match answer with | .ok d => [d] | .error _ => []) ++ h.descriptors := by
  unfold connect at connects
  split at connects
  · cases connects
    rfl
  · split at connects
    · rename_i fault
      cases connects
      exact (descriptors_of_takeFault fault :)
    · rename_i fault
      have same := descriptors_of_takeFault fault
      split at connects
      · cases connects
        exact same
      · cases connects
        exact congrArg (_ :: ·) same

end Host

/-- The ways to set up an endpoint that may fail without ending the program. -/
inductive Setup where
  | connect (path : Bytes)
  | bind (path : Bytes)
  | adopt (d : Descriptor) (direction : Direction) (name : String)

namespace Endpoint

def attempt (ep : Endpoint) : Setup → Action (Except SetupError Unit × Endpoint)
  | .connect path => ep.connect path
  | .bind path => ep.bind path
  | .adopt d direction name => ep.adopt d direction name

/-- What a setup leaves of an endpoint and its host if it fails. Without a connection, all is
as it was. A connection or a descriptor that cannot be taken over is closed, and the endpoint
has the name that it was to have. An endpoint that cannot be bound has given up the name that
it was bound to, and all else is as it was, but that a socket at a path is gone if another one
could not be made there although nothing was in its way any more, and that a new one is there if
nobody can listen on it. -/
inductive Leaves (ep : Endpoint) (h : Host) : Setup → SetupError → Endpoint → Host → Prop
  | unconnected {path : Bytes} {e : IoError} {h' : Host} :
      h'.files = h.files → h'.listening = h.listening → h'.descriptors = h.descriptors →
      Leaves ep h (.connect path) (.connect (Text.lossy path) e) ep h'
  | unattached {path : Bytes} {e : IoError} {h' : Host} :
      h'.files = h.files → h'.listening = h.listening → h'.descriptors = h.descriptors →
      Leaves ep h (.connect path) (.failed e) { ep with name := Text.lossy path } h'
  | unadopted {d : Descriptor} {direction : Direction} {name : String} {e : IoError} {h' : Host} :
      h'.files = h.files → h'.listening = h.listening →
      h'.descriptors = h.descriptors.erase d →
      Leaves ep h (.adopt d direction name) (.failed e) { ep with name } h'
  | unbound {path : Bytes} {e : IoError} {h' : Host} :
      h'.files = ep.cleared (h.refuses .unlink) h.files →
      h'.listening = ep.silenced h.listening → h'.descriptors = h.descriptors →
      Leaves ep h (.bind path) (.bind (Text.lossy path) e) { ep with listener := none } h'
  | spoiled {path : Bytes} {number : Nat} {e : IoError} {h' : Host} :
      (ep.cleared (h.refuses .unlink) h.files).LosesSocket path number h'.files →
      h.Hinders path e →
      h'.listening = ep.silenced h.listening → h'.descriptors = h.descriptors →
      Leaves ep h (.bind path) (.bind (Text.lossy path) e) { ep with listener := none } h'
  | unheard {path : Bytes} {t : FileTree} {errno : Errno} {h' : Host} :
      (ep.cleared (h.refuses .unlink) h.files).Swept path t →
      t.Gains path h.nextListener h'.files → (h.takeFault .listen).1 = some errno →
      h'.listening = ep.silenced h.listening → h'.descriptors = h.descriptors →
      Leaves ep h (.bind path) (.bind (Text.lossy path) (.os errno)) { ep with listener := none } h'

variable {ep ep' : Endpoint} {h h' : Host} {e : SetupError}

theorem attach_error {d : Descriptor} {reads writes : Bool} {e : IoError}
    (attached : ep.attach d reads writes h = (.error e, ep', h')) :
    ep' = ep ∧ h'.naming = h.naming ∧ h'.descriptors = h.descriptors.erase d := by
  have naming := naming_frame.transport_adopt d h
  unfold attach at attached
  split at attached
  · rename_i e' h₁ adopted
    cases attached
    rw [adopted] at naming
    refine ⟨rfl, naming, ?_⟩
    have asked := h.descriptors_getMode d
    unfold Transport.adopt at adopted
    split at adopted
    · rename_i answer
      rw [answer] at asked
      cases adopted
      rw [descriptors_close, asked]
    · cases adopted
    · rename_i h₁ answer
      rw [answer] at asked
      have changed := h₁.descriptors_setMode d true
      split at adopted
      · rename_i answer'
        rw [answer'] at changed
        cases adopted
        rw [descriptors_close, changed, asked]
      · cases adopted
  · cases attached

theorem connect_error {path : Bytes} (failed : ep.connect path h = .ok (.error e, ep') h') :
    ep.connection = none ∧ ep.Leaves h (.connect path) e ep' h' := by
  have naming := (naming_frame.endpoint_connect ep path).of_ok failed
  have files := files_of_naming naming
  have listening := listening_of_naming naming
  obtain ⟨disconnected, connecting⟩ := connecting_of_ok failed
  refine ⟨disconnected, ?_⟩
  generalize fails : (.error e : Except SetupError Unit) = result at connecting
  cases connecting with
  | refused connects =>
    cases fails
    exact .unconnected files listening (descriptors_connect connects)
  | @opened d mid answer _ _ connects attached =>
    cases answer with
    | ok => cases fails
    | error e' =>
      cases fails
      obtain ⟨rfl, _, closed⟩ := attach_error attached
      have opened := congrArg (List.erase · d) (descriptors_connect connects)
      have erased : (d :: h.descriptors).erase d = h.descriptors := List.erase_cons_head ..
      exact .unattached files listening ((closed.trans opened).trans erased)

theorem adopt_error {d : Descriptor} {direction : Direction} {name : String}
    (failed : ep.adopt d direction name h = .ok (.error e, ep') h') :
    ep.connection = none ∧ ep.Leaves h (.adopt d direction name) e ep' h' := by
  have naming := (naming_frame.endpoint_adopt ep d direction name).of_ok failed
  obtain ⟨disconnected, answer, fails, attached⟩ := attach_of_adopt failed
  cases answer with
  | ok => cases fails
  | error e' =>
    cases fails
    obtain ⟨rfl, _, closed⟩ := attach_error attached
    exact ⟨disconnected,
      .unadopted (files_of_naming naming) (listening_of_naming naming) closed⟩

theorem bind_error {path : Bytes} (failed : ep.bind path h = .ok (.error e, ep') h') :
    ep.connection = none ∧ ep.Leaves h (.bind path) e ep' h' := by
  obtain ⟨disconnected, kept, binds⟩ := bind_cases failed
  cases binds with
  | refused naming =>
    exact ⟨disconnected, .unbound (files_of_naming naming) (listening_of_naming naming) kept⟩
  | spoiled lost hinders naming =>
    rw [← files_of_naming naming] at lost
    exact ⟨disconnected, .spoiled lost hinders (listening_of_naming naming) kept⟩
  | unheard swept gains _ silent ahead =>
    exact ⟨disconnected, .unheard swept gains ahead silent kept⟩

/-- Only being connected ends the program. -/
theorem attempt_returns (disconnected : ep.connection = none) (setup : Setup) (h : Host) :
    ∃ answer h', ep.attempt setup h = .ok answer h' := by
  have required (call : SetupCall) : ep.requireDisconnected call h = .ok () h :=
    requireDisconnected_of_none disconnected
  cases setup with
  | connect path =>
    have connects : Action.call (·.connect path) h =
        .ok (h.connect path).1 (h.connect path).2 := rfl
    rw [attempt, connect, Action.bind_of_ok (required _), Action.bind_of_ok connects]
    cases (h.connect path).1 with
    | error e => exact ⟨_, _, rfl⟩
    | ok d => exact ⟨_, _, rfl⟩
  | bind path =>
    have unbinds : Action.call ep.unbind h = .ok (ep.unbind h).1 (ep.unbind h).2 := rfl
    have clears : Action.call (removeStaleSocket path) (ep.unbind h).2 =
        .ok (removeStaleSocket path (ep.unbind h).2).1
          (removeStaleSocket path (ep.unbind h).2).2 := rfl
    rw [attempt, bind, Action.bind_of_ok (required _), Action.bind_of_ok unbinds,
      Action.bind_of_ok clears]
    generalize removeStaleSocket path (ep.unbind h).2 = step
    obtain ⟨cleared, mid⟩ := step
    cases cleared with
    | error e => exact ⟨_, _, rfl⟩
    | ok =>
      have listens : Action.call (·.listen path) mid =
          .ok (mid.listen path).1 (mid.listen path).2 := rfl
      dsimp only
      rw [Action.bind_of_ok listens]
      cases (mid.listen path).1 with
      | error e => exact ⟨_, _, rfl⟩
      | ok number => exact ⟨_, _, rfl⟩
  | adopt d direction name =>
    rw [attempt, adopt, Action.bind_of_ok (required _)]
    exact ⟨_, _, rfl⟩

/-- A disconnected endpoint can be set up without danger to the program, and if that fails
it leaves no more than this. -/
theorem attempt_leaves (disconnected : ep.connection = none) (setup : Setup) (h : Host) :
    (∃ answer h', ep.attempt setup h = .ok answer h') ∧
      ∀ e ep' h', ep.attempt setup h = .ok (.error e, ep') h' → ep.Leaves h setup e ep' h' := by
  refine ⟨attempt_returns disconnected setup h, fun e ep' h' failed => ?_⟩
  cases setup with
  | connect path => exact (connect_error failed).2
  | bind path => exact (bind_error failed).2
  | adopt d direction name => exact (adopt_error failed).2

/-- A host with a note in a file, and a listener that has its socket beside it. -/
def serving : Host :=
  { files := ⟨⟨[([[], [102]], .file [104, 105]), ([[], [115]], .socket 0)]⟩⟩
    listeners := ⟨[(0, [])]⟩
    nextListener := 1 }

/-- An endpoint that is bound to one name, and cannot be bound to that of a file. -/
theorem rebound : ∃ (ep : Endpoint) (e : SetupError) (ep' : Endpoint) (h' : Host),
    EndpointReach {} ep ∧ ep.connection = none ∧ ep.listener = some ⟨0, [115]⟩ ∧
    ep.attempt (.bind [102]) serving = .ok (.error e, ep') h' ∧
    ep'.listener = none ∧ h'.files.stat [115] = .error .enoent :=
  ⟨_, _, _, _, .use (.bind [115]) .start (h := {}) rfl, rfl, rfl, rfl, rfl, rfl⟩

/-- It has given up the name that it had. -/
theorem attempt_leaves_rebound : ∃ (ep : Endpoint) (e : SetupError) (ep' : Endpoint) (h' : Host),
    ep.listener = some ⟨0, [115]⟩ ∧ serving.files.stat [115] = .ok (.socket 0) ∧
    ep.attempt (.bind [102]) serving = .ok (.error e, ep') h' ∧
    ep.Leaves serving (.bind [102]) e ep' h' ∧ h'.files.stat [115] = .error .enoent := by
  obtain ⟨ep, e, ep', h', _, disconnected, bound, failed, _, gone⟩ := rebound
  have leaves := (attempt_leaves disconnected (.bind [102]) serving).2 e ep' h' failed
  exact ⟨ep, e, ep', h', bound, rfl, failed, leaves, gone⟩

/-- A setup that fails need not leave the endpoint listening, nor its socket in place. -/
theorem not_always_atomic : ¬ ∀ (config : PipeConfig) (ep : Endpoint) (setup : Setup) (h : Host)
    (e : SetupError) (ep' : Endpoint) (h' : Host), EndpointReach config ep →
      ep.connection = none → ep.attempt setup h = .ok (.error e, ep') h' →
      ep'.listener = ep.listener ∧ h'.files = h.files := by
  intro always
  obtain ⟨ep, e, ep', h', reach, disconnected, bound, failed, silent, _⟩ := rebound
  obtain ⟨kept, _⟩ := always _ ep _ _ e ep' h' reach disconnected failed
  rw [bound, silent] at kept
  cases kept

/-- A descriptor that is not taken over, since its mode cannot be asked for, has given its name to
the endpoint. -/
theorem not_always_keeps_name : ¬ ∀ (config : PipeConfig) (ep : Endpoint) (setup : Setup) (h : Host)
    (e : SetupError) (ep' : Endpoint) (h' : Host), EndpointReach config ep →
      ep.connection = none → ep.attempt setup h = .ok (.error e, ep') h' → ep'.name = ep.name := by
  intro always
  have kept := always {} (.ofConfig {}) (.adopt ⟨0, ⟨"in", .a⟩⟩ .read "input")
    { callFaults := ⟨[(.getFlags, [some .ebadf])]⟩ } _ _ _ .start rfl rfl
  exact absurd kept (by decide)

/-- A path that leads to a name the long way, with nothing but detours. -/
def roundabout (detours : Nat) (name : Bytes) : Bytes :=
  (List.replicate detours [46, 47]).flatten ++ name

/-- A socket is gone if it is reached over a path that is too long for another one. -/
theorem not_always_keeps_sockets : ¬ ∀ (config : PipeConfig) (ep : Endpoint) (setup : Setup)
    (h : Host) (e : SetupError) (ep' : Endpoint) (h' : Host), EndpointReach config ep →
      ep.connection = none → ep.attempt setup h = .ok (.error e, ep') h' → ep.listener = none →
      ∀ path node, h.files.stat path = .ok node → h'.files.stat path = .ok node := by
  intro always
  have kept := always {} (.ofConfig {}) (.bind (roundabout 54 [115])) serving _ _ _ .start rfl rfl
    rfl [115] (.socket 0) rfl
  cases kept

/-- A new socket stays if nobody can listen on it. -/
theorem not_always_without_trace : ¬ ∀ (config : PipeConfig) (ep : Endpoint) (setup : Setup)
    (h : Host) (e : SetupError) (ep' : Endpoint) (h' : Host), EndpointReach config ep →
      ep.connection = none → ep.attempt setup h = .ok (.error e, ep') h' → ep.listener = none →
      ∀ path node, h'.files.stat path = .ok node → h.files.stat path = .ok node := by
  intro always
  have kept := always {} (.ofConfig {}) (.bind [115])
    { callFaults := ⟨[(.listen, [some .eacces])]⟩ } _ _ _ .start rfl rfl rfl [115] (.socket 0) rfl
  cases kept

end Endpoint

end LocalPipe
