import LocalPipe.Proofs.FleetModes
import LocalPipe.Proofs.ModeAccounts

namespace LocalPipe

open Host

variable {h h' : Host} {p : EndId}

/-- The states that a program comes to by setting up endpoints on whatever descriptors,
using them and dropping them in any order, while others do what they do. Calls about
modes may fail, only not while an endpoint is used that is to change the mode of the end
back. The descriptors that are taken over are on ends that are there, and no link is made
in place of one with the end in non-blocking mode. -/
inductive ModeReach (p : EndId) (h₀ : Host) : List Endpoint → Host → Prop
  | start : ModeReach p h₀ [] h₀
  | create {eps h} (config : PipeConfig) : ModeReach p h₀ eps h →
      ModeReach p h₀ (eps ++ [Endpoint.ofConfig config]) h
  | use {eps h h'} {i : Nat} {ep ep' : Endpoint} (use : Endpoint.Use) : ModeReach p h₀ eps h →
      eps[i]? = some ep → ep.perform use h = .ok ep' h' →
      h.Spares p → (h.isNonblocking p = true → h.linkPlan.name ≠ p.link) →
      (∀ c, ep'.connection = some c → c.transport.descriptor.endId = p →
        (h'.linkEnd? p).isSome) →
      (ep.restores p = true → h.SetsModes h') → ModeReach p h₀ (eps.set i ep') h'
  | drop {eps h} {i : Nat} {ep : Endpoint} : ModeReach p h₀ eps h → eps[i]? = some ep →
      (ep.restores p = true → h.SetsModes (ep.close h).2) →
      ModeReach p h₀ (eps.eraseIdx i) (ep.close h).2
  | duplicate {eps h} (q : EndId) : ModeReach p h₀ eps h → ModeReach p h₀ eps (h.duplicate q).2
  | wait {eps h} (waits : WaitSet) (timeout : Option Duration) : ModeReach p h₀ eps h →
      h.Spares p → ModeReach p h₀ eps (waits.wait timeout h).2
  | outside {eps h} (action : PeerAction) : ModeReach p h₀ eps h →
      (h.isNonblocking p = true → action.makes p.link = false) →
      ModeReach p h₀ eps (h.act action).2

/-- The state of endpoints in which the mode of an end counts for what it was at the
start and for the endpoints that are to change it back. An end that was in non-blocking
mode at the start has never been in any other. -/
structure ModeSound (p : EndId) (h₀ : Host) (eps : List Endpoint) (h : Host) : Prop where
  orderly : ∀ ep ∈ eps, ∃ config, ep.Orderly config
  balance : (h.isNonblocking p).toNat = (h₀.isNonblocking p).toNat + owners p eps
  uncleared : h₀.isNonblocking p = true → h₀.Uncleared p h

namespace ModeSound

variable {h₀ : Host} {eps : List Endpoint} {ep ep' : Endpoint} {i : Nat}

theorem keeps (modes : ModeSound p h₀ eps h) (kept : h.KeepsMode p h') :
    ModeSound p h₀ eps h' where
  orderly := modes.orderly
  balance := by rw [kept.mode, modes.balance]
  uncleared set := (modes.uncleared set).trans kept.uncleared

/-- An endpoint owes a mode only while the end is in non-blocking mode and was not at
the start. -/
theorem owed (modes : ModeSound p h₀ eps h) (member : ep ∈ eps) (owes : ep.restores p = true) :
    h.isNonblocking p = true ∧ h₀.isNonblocking p = false := by
  have owned := restores_le_owners member p
  have balance := modes.balance
  rw [owes] at owned
  cases now : h.isNonblocking p <;> cases before : h₀.isNonblocking p <;>
    simp only [now, before, Bool.toNat_true, Bool.toNat_false] at balance owned <;>
    first | omega | exact ⟨rfl, rfl⟩

/-- A step that puts one endpoint in the place of another and accounts for the mode. -/
theorem turn (modes : ModeSound p h₀ eps h) (member : ep ∈ eps)
    (accounts : ep.Accounts p h ep' h') {eps' : List Endpoint}
    (orderly : ∀ ep ∈ eps', ∃ config, ep.Orderly config)
    (counted : owners p eps' + (ep.restores p).toNat = owners p eps + (ep'.restores p).toNat) :
    ModeSound p h₀ eps' h' := by
  refine ⟨orderly, ?_, fun set => ?_⟩
  · have balance := modes.balance
    have turned := accounts.balance
    omega
  · refine (modes.uncleared set).trans (accounts.uncleared ?_)
    cases owes : ep.restores p with
    | false => rfl
    | true =>
      have unset := (modes.owed member owes).2
      rw [set] at unset
      cases unset

end ModeSound

namespace ModeReach

variable {h₀ : Host} {eps : List Endpoint}

theorem modeSound (reach : ModeReach p h₀ eps h) : ModeSound p h₀ eps h := by
  -- a use accounts for the mode together with what its endpoint is to change back
  induction reach with
  | start => exact ⟨by simp, by simp [owners], fun _ => .of_calls rfl⟩
  | @create eps h config _ modes =>
    refine ⟨fun ep member => ?_, ?_, modes.uncleared⟩
    · rcases List.mem_append.mp member with old | new
      · exact modes.orderly ep old
      · rw [List.mem_singleton.mp new]
        exact ⟨config, (EndpointReach.start : EndpointReach config _).orderly⟩
    · rw [modes.balance]
      simp [owners, Endpoint.restores, Endpoint.ofConfig]
  | @use eps h h' i ep ep' use _ member run spares apart present sets modes =>
    have within := List.mem_of_getElem? member
    obtain ⟨config, orderly⟩ := modes.orderly ep within
    have accounts := Endpoint.perform_accounts orderly use spares apart
      (fun owes => (modes.owed within owes).1) run present sets
    refine modes.turn within accounts (fun ep₁ member₁ => ?_) (owners_set member ep' p)
    rcases List.mem_or_eq_of_mem_set member₁ with old | new
    · exact modes.orderly ep₁ old
    · rw [new]
      exact ⟨config, orderly.perform use run⟩
  | @drop eps h i ep _ member sets modes =>
    have within := List.mem_of_getElem? member
    have accounts := ep.accounts_close h (fun owes => (modes.owed within owes).1) sets
    have closed : (ep.close h).1.restores p = false :=
      Endpoint.restores_of_closed (by rw [Endpoint.close_fst]) p
    refine modes.turn within accounts
      (fun ep₁ member₁ => modes.orderly ep₁ (List.mem_of_mem_eraseIdx member₁)) ?_
    rw [owners_eraseIdx member p, closed]
    rfl
  | duplicate q _ modes => exact modes.keeps (keepsMode_duplicate _ q p)
  | wait waits timeout _ spares modes =>
    exact modes.keeps ((waits_wait _ waits timeout).keepsMode spares)
  | outside action _ spares modes => exact modes.keeps (keepsMode_act spares)

/-- Modes are always given back. In whatever order endpoints on an end come and go, and
whichever of them could not be set up, the end is in the mode that it was in at the
start whenever none of them is connected. An end that was in non-blocking mode at the
start stays in that mode all the time, and no call puts it into blocking mode. -/
theorem given_back (reach : ModeReach p h₀ eps h) :
    ((∀ ep ∈ eps, ∀ c, ep.connection = some c → c.transport.descriptor.endId ≠ p) →
      h.isNonblocking p = h₀.isNonblocking p) ∧
    (h₀.isNonblocking p = true → h.isNonblocking p = true ∧
      ∀ d, d.endId = p → Call.setMode d false ∉ h.since h₀.calls) := by
  have modes := reach.modeSound
  have balance := modes.balance
  refine ⟨fun gone => ?_, fun set => ⟨?_, fun d near cleared => ?_⟩⟩
  · have nobody : owners p eps = 0 := by
      refine List.countP_eq_zero.mpr fun ep member owes => ?_
      cases connected : ep.connection with
      | none => simp [Endpoint.restores, connected] at owes
      | some c =>
        have away := gone ep member c connected
        simp [Endpoint.restores, connected, away] at owes
    rw [nobody, Nat.add_zero] at balance
    cases now : h.isNonblocking p <;> cases before : h₀.isNonblocking p <;>
      simp [now, before] at balance ⊢
  · cases now : h.isNonblocking p with
    | true => rfl
    | false =>
      simp only [now, set, Bool.toNat_true, Bool.toNat_false] at balance
      omega
  · obtain ⟨later, calls, uncleared⟩ := modes.uncleared set
    rw [since_eq calls] at cleared
    have kept := uncleared _ cleared
    simp [Call.clears, near] at kept

/-- A host with a terminal in some mode and two descriptors on it, where the first calls
about modes fail. -/
def flaky (nonblocking : Bool) : Host :=
  { links := ⟨[("tty", { capacity := 65536, endA := { nonblocking } })]⟩
    descriptors := [⟨0, ⟨"tty", .a⟩⟩, ⟨1, ⟨"tty", .a⟩⟩, ⟨2, ⟨"tty", .a⟩⟩, ⟨3, ⟨"tty", .a⟩⟩]
    callFaults := ⟨[(.getFlags, [some .eio]), (.setFlags, [some .eio])]⟩ }

theorem spares_of_unappointed (none : h.appointments = []) : h.Spares p := by
  intro _ a member
  rw [none] at member
  cases member

/-- The calls that set up two endpoints on the terminal, after two attempts that failed. The
first endpoint sets the mode, and the second finds it set. -/
def settingUp : List Call :=
  [.modeFault .getFlags ⟨0, ⟨"tty", .a⟩⟩ .eio, .close ⟨0, ⟨"tty", .a⟩⟩,
    .modeFault .setFlags ⟨1, ⟨"tty", .a⟩⟩ .eio, .close ⟨1, ⟨"tty", .a⟩⟩,
    .setMode ⟨2, ⟨"tty", .a⟩⟩ true]

/-- The calls by which the two go, the first before the second. -/
def goingAway : List Call :=
  [.setMode ⟨2, ⟨"tty", .a⟩⟩ false, .close ⟨2, ⟨"tty", .a⟩⟩, .close ⟨3, ⟨"tty", .a⟩⟩]

/-- Two endpoints on one terminal, one of which could not be set up twice and is the
first to close all the same. The other is dropped. Nobody keeps the mode that they have
set. -/
theorem reach_flaky : ∃ first second first' h h',
    ModeReach ⟨"tty", .a⟩ (flaky false) [first, second] h ∧ h.calls.reverse = settingUp ∧
      first.connection.isSome = true ∧ second.connection.isSome = true ∧
      h.isNonblocking ⟨"tty", .a⟩ = true ∧
    ModeReach ⟨"tty", .a⟩ (flaky false) [first'] h' ∧
      h'.calls.reverse = settingUp ++ goingAway ∧ first'.connection = none := by
  have created : ModeReach ⟨"tty", .a⟩ (flaky false) [.ofConfig {}, .ofConfig {}] (flaky false) :=
    (ModeReach.start.create {}).create {}
  have unasked := @ModeReach.use _ _ _ _ _ 0 _ _ (.adopt ⟨0, ⟨"tty", .a⟩⟩ .read "stdin") created
    rfl rfl (spares_of_unappointed rfl) (fun _ => by decide) (fun c connected => by cases connected)
    (fun owes => by cases owes)
  have unset := @ModeReach.use _ _ _ _ _ 0 _ _ (.adopt ⟨1, ⟨"tty", .a⟩⟩ .read "stdin") unasked
    rfl rfl (spares_of_unappointed rfl) (fun _ => by decide) (fun c connected => by cases connected)
    (fun owes => by cases owes)
  have first := @ModeReach.use _ _ _ _ _ 0 _ _ (.adopt ⟨2, ⟨"tty", .a⟩⟩ .read "stdin") unset
    rfl rfl (spares_of_unappointed rfl) (fun _ => by decide) (fun _ _ _ => rfl)
    (fun owes => by cases owes)
  have second := @ModeReach.use _ _ _ _ _ 1 _ _ (.adopt ⟨3, ⟨"tty", .a⟩⟩ .write "stdout") first
    rfl rfl (spares_of_unappointed rfl) (fun _ => by decide) (fun _ _ _ => rfl)
    (fun owes => by cases owes)
  have closed := @ModeReach.use _ _ _ _ _ 0 _ _ .close second rfl rfl (spares_of_unappointed rfl)
    (fun _ => by decide) (fun c connected => by cases connected) (fun _ d e failure => by
      rcases failure with _ | ⟨_, _ | ⟨_, _ | _⟩⟩)
  have dropped := @ModeReach.drop _ _ _ _ 1 _ closed rfl (fun owes => by cases owes)
  exact ⟨_, _, _, _, _, second, rfl, rfl, rfl, rfl, dropped, rfl, rfl⟩

/-- An endpoint that could not be set up once has come and gone on a terminal that was in
non-blocking mode already. -/
theorem reach_flaky_nonblocking : ∃ ep h h',
    ModeReach ⟨"tty", .a⟩ (flaky true) [ep] h ∧ ep.connection.isSome = true ∧
    ModeReach ⟨"tty", .a⟩ (flaky true) [] h' ∧
      h'.calls.reverse = [.modeFault .getFlags ⟨0, ⟨"tty", .a⟩⟩ .eio,
        .close ⟨0, ⟨"tty", .a⟩⟩, .close ⟨1, ⟨"tty", .a⟩⟩] := by
  have created : ModeReach ⟨"tty", .a⟩ (flaky true) [.ofConfig {}] (flaky true) :=
    ModeReach.start.create {}
  have unasked := @ModeReach.use _ _ _ _ _ 0 _ _ (.adopt ⟨0, ⟨"tty", .a⟩⟩ .read "stdin") created
    rfl rfl (spares_of_unappointed rfl) (fun _ => by decide) (fun c connected => by cases connected)
    (fun owes => by cases owes)
  have taken := @ModeReach.use _ _ _ _ _ 0 _ _ (.adopt ⟨1, ⟨"tty", .a⟩⟩ .read "stdin") unasked
    rfl rfl (spares_of_unappointed rfl) (fun _ => by decide) (fun _ _ _ => rfl)
    (fun owes => by cases owes)
  have dropped := @ModeReach.drop _ _ _ _ 0 _ taken rfl (fun owes => by cases owes)
  exact ⟨_, _, _, taken, rfl, dropped, rfl⟩

/-- On either terminal the mode is in the end what it was at the start, and the one that
was in non-blocking mode has never been put into the other. -/
theorem given_back_flaky :
    (∃ first second first' h h',
      ModeReach ⟨"tty", .a⟩ (flaky false) [first, second] h ∧ h.calls.reverse = settingUp ∧
        first.connection.isSome = true ∧ second.connection.isSome = true ∧
        h.isNonblocking ⟨"tty", .a⟩ = true ∧
      ModeReach ⟨"tty", .a⟩ (flaky false) [first'] h' ∧
        h'.calls.reverse = settingUp ++ goingAway ∧ h'.isNonblocking ⟨"tty", .a⟩ = false) ∧
    ∃ ep h h',
      ModeReach ⟨"tty", .a⟩ (flaky true) [ep] h ∧ ep.connection.isSome = true ∧
      ModeReach ⟨"tty", .a⟩ (flaky true) [] h' ∧
        h'.calls.reverse = [.modeFault .getFlags ⟨0, ⟨"tty", .a⟩⟩ .eio,
          .close ⟨0, ⟨"tty", .a⟩⟩, .close ⟨1, ⟨"tty", .a⟩⟩] ∧
        h'.isNonblocking ⟨"tty", .a⟩ = true ∧
        ∀ d, d.endId = ⟨"tty", .a⟩ → Call.setMode d false ∉ h'.since (flaky true).calls := by
  obtain ⟨first, second, first', h, h', both, setUp, here, there, changed, gone, calls, closed⟩ :=
    reach_flaky
  obtain ⟨ep, k, k', taken, connected, dropped, calls'⟩ := reach_flaky_nonblocking
  refine ⟨⟨first, second, first', h, h', both, setUp, here, there, changed, gone, calls, ?_⟩,
    ⟨ep, k, k', taken, connected, dropped, calls', (given_back dropped).2 rfl⟩⟩
  refine (given_back gone).1 fun ep₁ member c connected => ?_
  rw [List.mem_singleton.mp member, closed] at connected
  cases connected

end ModeReach

end LocalPipe
