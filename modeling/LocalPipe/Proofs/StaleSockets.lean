import LocalPipe.Proofs.SocketNames

namespace LocalPipe

open Host

/-- A listener is open, and its socket is at its path, unless it has no name. -/
structure Bound.Stands (bound : Bound) (h : Host) : Prop where
  opened : h.listening bound.listener = true
  named : bound.path ≠ [] → h.files.stat bound.path = .ok (.socket bound.listener)
  usable : socketPathError? bound.path = none

/-- Whoever connects to a path comes to wait at a listener, behind those who wait there. -/
def Host.Reaches (h : Host) (path : Bytes) (listener : Nat) : Prop :=
  ∃ d h', h.connect path = (.ok d, h') ∧ d.endId = ⟨h.linkPlan.name, .a⟩ ∧
    h'.listeners.get? listener =
      some ((h.listeners.get? listener).getD [] ++ [h.linkPlan.name])

/-- A listener that stands is found by its name, and whoever connects there comes to it. -/
theorem Bound.Stands.reaches {bound : Bound} {h : Host} (stands : bound.Stands h)
    (some_path : bound.path ≠ []) :
    h.listenerAt bound.path = .ok bound.listener ∧
      ((h.takeFault .connect).1 = none → h.Reaches bound.path bound.listener) := by
  have found := FileTree.socketAt_of_stat (stands.named some_path)
  have leads : h.listenerAt bound.path = .ok bound.listener := by
    rw [listenerAt, if_neg some_path, found]
    exact if_pos stands.opened
  refine ⟨leads, fun faultless => ?_⟩
  have ready : ∃ callFaults, h.takeFault .connect = (none, { h with callFaults }) := by
    unfold takeFault at faultless ⊢
    split
    · rename_i ahead
      rw [ahead] at faultless
      dsimp only at faultless
      subst faultless
      exact ⟨_, rfl⟩
    · exact ⟨_, rfl⟩
  obtain ⟨callFaults, taken⟩ := ready
  have leads' : Host.listenerAt { h with callFaults } bound.path = .ok bound.listener := leads
  unfold Reaches connect
  rw [stands.usable]
  dsimp only
  rw [taken]
  dsimp only
  rw [leads']
  exact ⟨_, _, rfl, rfl, Table.get?_set_self _ _ _⟩

namespace Endpoint

/-- Nobody listens on the socket that is at a path, if there is one, once an endpoint has given
up its own name. -/
def SparesOpen (ep : Endpoint) (path : Bytes) (h : Host) : Prop :=
  ∀ number, (ep.cleared (h.refuses .unlink) h.files).stat path = .ok (.socket number) →
    ep.silenced h.listening number = false

variable {ep ep' : Endpoint} {h h' : Host} {t : FileTree} {path : Bytes} {use : Use}
  {refused : Bool}

theorem NamesOwn.of_stands (own : ∀ bound, ep.listener = some bound → bound.Stands h) :
    ep.NamesOwn h.files := by
  intro bound node listening named
  by_cases nameless : bound.path = []
  · rw [nameless] at named
    cases named
  · rw [(own bound listening).named nameless] at named
    exact (Except.ok.inj named).symm

/-- All but its own socket keeps its name when an endpoint gives up its own one. -/
theorem NamesOwn.stat_cleared {node : Node} (own : ep.NamesOwn t) (named : t.stat path = .ok node)
    (other : ∀ bound, ep.listener = some bound → node ≠ .socket bound.listener) :
    (ep.cleared refused t).stat path = .ok node := by
  have removes := own.removesOwn refused
  generalize ep.cleared refused t = t' at removes
  cases removes with
  | nothing | kept => exact named
  | own listening lost => exact lost.stat_after named (other _ listening)

/-- Binding closes no listener but the endpoint's own one. -/
theorem Binds.listening {result : Except SetupError Unit} {number : Nat}
    (binds : ep.Binds h path result ep' h') (opened : ep.silenced h.listening number = true) :
    h'.listening number = true := by
  cases binds with
  | refused naming | spoiled _ _ naming =>
    rw [listening_of_naming naming]
    exact opened
  | unheard _ _ _ silent =>
    rw [silent]
    exact opened
  | bound _ _ _ opens =>
    rw [opens, opened, Bool.or_true]

/-- An open listener's socket keeps its name when an endpoint is bound, if nobody listens on
what is at the path. -/
theorem Binds.spares {result : Except SetupError Unit} {name : Bytes} {number : Nat}
    (binds : ep.Binds h path result ep' h') (own : ep.NamesOwn h.files)
    (spares : ep.SparesOpen path h) (opened : ep.silenced h.listening number = true)
    (named : h.files.stat name = .ok (.socket number)) :
    h'.files.stat name = .ok (.socket number) := by
  have other : ∀ bound, ep.listener = some bound → Node.socket number ≠ .socket bound.listener :=
    fun bound listening same =>
      (silenced_eq_true.mp opened).2 bound listening (Node.socket.inj same)
  have kept : (ep.cleared (h.refuses .unlink) h.files).stat name = .ok (.socket number) :=
    own.stat_cleared named other
  have swept : ∀ t, (ep.cleared (h.refuses .unlink) h.files).Swept path t →
      t.stat name = .ok (.socket number) := by
    intro t swept
    cases swept with
    | clear => exact kept
    | stale lost =>
      refine lost.stat_after kept fun same => ?_
      obtain rfl := Node.socket.inj same
      have closed := spares _ lost.named
      rw [opened] at closed
      cases closed
  cases binds with
  | refused naming =>
    rw [files_of_naming naming]
    exact kept
  | spoiled lost _ naming =>
    rw [files_of_naming naming]
    exact swept _ (.stale lost)
  | unheard sweeps gains | bound sweeps gains =>
    cases gains with
    | nameless => exact swept _ sweeps
    | named made => exact FileTree.stat_after_create made (swept _ sweeps)

/-- What stands keeps standing through whatever is done with an endpoint whose listener is
another one. If the endpoint is bound, it does not touch open sockets. -/
theorem Renames.stands {other : Bound} (renames : ep.Renames h use ep' h')
    (own : ep.NamesOwn h.files) (spares : ∀ path, use = .bind path → ep.SparesOpen path h)
    (stands : other.Stands h)
    (apart : ∀ bound, ep.listener = some bound → other.listener ≠ bound.listener) :
    other.Stands h' := by
  have opened : ep.silenced h.listening other.listener = true :=
    silenced_eq_true.mpr ⟨stands.opened, apart⟩
  have distinct : ∀ bound, ep.listener = some bound →
      Node.socket other.listener ≠ .socket bound.listener :=
    fun bound listening same => apart bound listening (Node.socket.inj same)
  cases renames with
  | kept _ naming =>
    refine ⟨?_, fun some_path => ?_, stands.usable⟩
    · rw [listening_of_naming naming]
      exact stands.opened
    · rw [files_of_naming naming]
      exact stands.named some_path
  | released _ naming =>
    refine ⟨?_, fun some_path => ?_, stands.usable⟩
    · rw [listening_of_naming naming]
      exact opened
    · rw [files_of_naming naming]
      exact own.stat_cleared (stands.named some_path) distinct
  | bind same binds =>
    exact ⟨binds.listening opened, fun some_path =>
      binds.spares own (spares _ same) opened (stands.named some_path), stands.usable⟩

/-- An endpoint's own listener stands from the moment that it is bound. -/
theorem Renames.stands_own (renames : ep.Renames h use ep' h')
    (own : ∀ bound, ep.listener = some bound → bound.Stands h) :
    ∀ bound, ep'.listener = some bound → bound.Stands h' := by
  intro bound listening
  cases renames with
  | kept same naming =>
    have stands := own bound (same ▸ listening)
    refine ⟨?_, fun some_path => ?_, stands.usable⟩
    · rw [listening_of_naming naming]
      exact stands.opened
    · rw [files_of_naming naming]
      exact stands.named some_path
  | released silent =>
    rw [silent] at listening
    cases listening
  | bind _ binds =>
    cases binds with
    | refused | spoiled | unheard => cases listening
    | bound _ gains _ opens usable =>
      cases listening
      refine ⟨by rw [opens]; simp, fun some_path => ?_, usable⟩
      cases gains with
      | nameless nameless => exact absurd nameless some_path
      | named made => exact FileTree.stat_create_self made

end Endpoint

/-- The states that a program comes to by setting up endpoints, using them and closing them in
any order. To drop an endpoint is to close it and not to use it again. Others leave to the
endpoints that listen their sockets and what their names lead to. If the endpoints are
considerate, each is only bound where nobody listens on what is at the path. -/
inductive ListenReach (considerate : Prop) (h₀ : Host) : List Endpoint → Host → Prop
  | start : ListenReach considerate h₀ [] h₀
  | create {eps h} (config : PipeConfig) : ListenReach considerate h₀ eps h →
      ListenReach considerate h₀ (eps ++ [Endpoint.ofConfig config]) h
  | use {eps h h'} {i : Nat} {ep ep' : Endpoint} (use : Endpoint.Use) :
      ListenReach considerate h₀ eps h → eps[i]? = some ep → ep.perform use h = .ok ep' h' →
      (∀ path, considerate → use = .bind path → ep.SparesOpen path h) →
      ListenReach considerate h₀ (eps.set i ep') h'
  /-- While an endpoint waits for its peer others act, before it stops listening. -/
  | unbind {eps h} {i : Nat} {ep : Endpoint} : ListenReach considerate h₀ eps h →
      eps[i]? = some ep → ListenReach considerate h₀ (eps.set i (ep.unbind h).1) (ep.unbind h).2
  | others {eps h h'} : ListenReach considerate h₀ eps h → h.nextListener ≤ h'.nextListener →
      (∀ (i : Nat) (ep : Endpoint) (bound : Bound), eps[i]? = some ep →
        ep.listener = some bound → bound.Stands h → bound.Stands h') →
      ListenReach considerate h₀ eps h'

variable {considerate : Prop} {eps : List Endpoint} {ep ep' : Endpoint} {h₀ h h' : Host} {i : Nat}

namespace ListenReach

/-- Whether the endpoints are considerate or not, they have names as any others do. -/
theorem forget (reach : ListenReach considerate h₀ eps h) :
    NameReach (fun _ => False) h₀ eps h := by
  induction reach with
  | start => exact .start
  | create config _ ih => exact ih.create config
  | use use _ slot run _ ih => exact ih.use use slot run fun _ _ _ _ _ _ no => no.1.elim
  | unbind _ slot ih => exact ih.unbind slot
  | others _ later _ ih => exact ih.others later fun _ _ _ _ no => no.elim

/-- Every listener stands after one of the endpoints was used in a way that touches no open
sockets. -/
theorem stands_set {use : Endpoint.Use} (sound : NamesSound (fun _ => False) eps h)
    (stands : ∀ (j : Nat) (other : Endpoint) (bound : Bound), eps[j]? = some other →
      other.listener = some bound → bound.Stands h)
    (slot : eps[i]? = some ep) (renames : ep.Renames h use ep' h')
    (spares : ∀ path, use = .bind path → ep.SparesOpen path h) (j : Nat) (other : Endpoint)
    (bound : Bound) (there : (eps.set i ep')[j]? = some other)
    (listening : other.listener = some bound) : bound.Stands h' := by
  rcases NamesSound.slot_of_set there with ⟨rfl, rfl⟩ | ⟨elsewhere, before⟩
  · exact renames.stands_own (fun own => stands j ep own slot) bound listening
  · have own : ep.NamesOwn h.files := .of_stands fun own => stands i ep own slot
    refine renames.stands own spares (stands j other bound before listening)
      fun own listening' same => elsewhere ?_
    exact sound.apart j i other ep bound own before slot listening listening' same

/-- If the endpoints are considerate, all their listeners stand. -/
theorem stands (reach : ListenReach True h₀ eps h) : ∀ (j : Nat) (other : Endpoint) (bound : Bound),
    eps[j]? = some other → other.listener = some bound → bound.Stands h := by
  induction reach with
  | start => simp
  | create config _ stands =>
    intro j other bound there listening
    rcases NamesSound.slot_of_append there with rfl | before
    · cases listening
    · exact stands j other bound before listening
  | use use before slot run spares stands =>
    have sound := before.forget.namesSound
    obtain ⟨_, orderly⟩ := sound.orderly _ _ slot
    exact stands_set sound stands slot (Endpoint.renames_perform use orderly.sound run)
      fun path => spares path trivial
  | @unbind eps h i ep before slot stands =>
    have renames : ep.Renames h .close (ep.unbind h).1 (ep.unbind h).2 :=
      .released (by rw [ep.unbind_fst]) (ep.naming_unbind h) fun _ => rfl
    exact stands_set before.forget.namesSound stands slot renames (by simp)
  | others _ _ spared stands =>
    intro j other bound there listening
    exact spared j other bound there listening (stands j other bound there listening)

/-- As long as endpoints are only bound where nobody listens on what is at the path, each one
that listens under a name is found there, by whoever connects, and binding any of them there,
whether or not it succeeds, leaves to every other open listener, whosever it is, its socket at
its name. -/
theorem found_by_name (reach : ListenReach True h₀ eps h) (slot : eps[i]? = some ep) :
    (∀ bound, ep.listener = some bound → bound.path ≠ [] →
      h.listenerAt bound.path = .ok bound.listener ∧
        ((h.takeFault .connect).1 = none → h.Reaches bound.path bound.listener)) ∧
      ∀ path result ep' h', ep.SparesOpen path h → ep.bind path h = .ok (result, ep') h' →
        ∀ name number, h.files.stat name = .ok (.socket number) →
          ep.silenced h.listening number = true →
          h'.files.stat name = .ok (.socket number) ∧ h'.listening number = true := by
  have own : ep.NamesOwn h.files := .of_stands fun bound => reach.stands i ep bound slot
  refine ⟨fun bound listening some_path => ?_,
    fun path result ep' h' spares run name number named opened => ?_⟩
  · exact (reach.stands i ep bound slot listening).reaches some_path
  · have binds := (Endpoint.bind_cases run).2.2
    exact ⟨binds.spares own spares opened named, binds.listening opened⟩

/-- A host with a socket that is left from a listener that is closed. -/
def littered : Host :=
  { files := ⟨⟨[([[], [115]], .socket 0)]⟩⟩
    nextListener := 1 }

/-- An endpoint in the place of the socket that was left, and another one beside it. -/
theorem reach_replaced : ∃ first second h, ListenReach True littered [first, second] h ∧
    first.listener = some ⟨1, [115]⟩ ∧ second.listener = some ⟨2, [116]⟩ := by
  have created : ListenReach True littered [.ofConfig {}, .ofConfig {}] littered :=
    (ListenReach.start.create {}).create {}
  have first := @ListenReach.use _ _ _ _ _ 0 _ _ (.bind [115]) created rfl rfl (by
    intro path _ same number named
    cases same
    cases named
    rfl)
  have second := @ListenReach.use _ _ _ _ _ 1 _ _ (.bind [116]) first rfl rfl (by
    intro path _ same number named
    cases same
    cases named)
  exact ⟨_, _, _, second, rfl, rfl⟩

/-- Whoever connects to the name comes to the endpoint that is bound to it now. -/
theorem found_by_name_replaced : ∃ first second h, ListenReach True littered [first, second] h ∧
    first.listener = some ⟨1, [115]⟩ ∧ h.listenerAt [115] = .ok 1 := by
  obtain ⟨first, second, h, reach, listening, _⟩ := reach_replaced
  obtain ⟨finds, _⟩ := reach.found_by_name (i := 0) rfl
  exact ⟨first, second, h, reach, listening, (finds _ listening (by decide)).1⟩

/-- An endpoint whose name another one has taken is found by nobody, though it listens. -/
theorem not_always_found : ¬ ∀ (h₀ : Host) (eps : List Endpoint) (h : Host) (i : Nat)
    (ep : Endpoint) (bound : Bound), ListenReach False h₀ eps h → eps[i]? = some ep →
      ep.listener = some bound → bound.path ≠ [] → h.listenerAt bound.path = .ok bound.listener := by
  intro always
  have created : ListenReach False {} [.ofConfig {}, .ofConfig {}] {} :=
    (ListenReach.start.create {}).create {}
  have first := @ListenReach.use _ _ _ _ _ 0 _ _ (.bind [115]) created rfl rfl fun _ no => no.elim
  have second := @ListenReach.use _ _ _ _ _ 1 _ _ (.bind [115]) first rfl rfl fun _ no => no.elim
  have found := always _ _ _ 0 _ _ second rfl rfl (by decide)
  cases found

end ListenReach

end LocalPipe
