import LocalPipe.Proofs.Actions
import LocalPipe.Proofs.Modes
import LocalPipe.Proofs.OutsideActs

namespace LocalPipe

namespace Host

variable {h h' : Host}

/-- A new link is in blocking mode, as if there were none. -/
theorem isNonblocking_addLink (plan : LinkPlan) (fresh : h.links.get? plan.name = none)
    (listener : Nat) (p : EndId) : (h.addLink listener plan).isNonblocking p = h.isNonblocking p := by
  have links : (h.addLink listener plan).links.get? p.link =
      (h.setLink plan.name { capacity := plan.capacity }).links.get? p.link := rfl
  rw [get?_setLink] at links
  by_cases near : plan.name = p.link
  · rw [if_pos near] at links
    rw [isNonblocking_of_link links, isNonblocking, linkEnd?_of_none (by rw [← near, fresh])]
    cases p.side <;> rfl
  · rw [if_neg near] at links
    exact isNonblocking_congr (linkEnd?_congr links)

/-- Connecting over a new link changes no mode. -/
theorem connect_modes {path : Bytes} {answer : Except IoError Descriptor}
    (fresh : h.links.get? h.linkPlan.name = none) (run : h.connect path = (answer, h')) :
    (∀ p, h'.isNonblocking p = h.isNonblocking p) ∧
      (∀ point, h'.outcomesAhead point <:+ h.outcomesAhead point) ∧
      ∀ d, answer = .ok d → (h'.linkEnd? d.endId).isSome := by
  have same (p : EndId) := isNonblocking_congr (h.linkEnd?_takeFault .connect p)
  have links := h.links_takeFault .connect
  have taken := h.outcomesAhead_takeFault .connect
  have plan := h.linkPlan_takeFault .connect
  unfold connect at run
  split at run
  · cases run
    exact ⟨fun _ => rfl, fun _ => List.suffix_rfl, by simp⟩
  · split at run
    · rename_i e h₁ fault
      rw [fault] at same taken
      cases run
      exact ⟨same, taken, by simp⟩
    · rename_i h₁ fault
      rw [fault] at same taken links plan
      dsimp only at plan links
      split at run
      · cases run
        exact ⟨same, taken, by simp⟩
      · rename_i listener _
        cases run
        have new : h₁.links.get? h₁.linkPlan.name = none := by rw [links, plan, fresh]
        refine ⟨fun p => (isNonblocking_addLink _ new listener p).trans (same p), taken, ?_⟩
        intro d connected
        cases connected
        simp [linkEnd?, record, addLink, get?_setLink]

/-- What others may do without meddling with modes: the links that they make are
new, and no call about modes is set to fail. -/
def Harmless (h : Host) : PeerAction → Prop
  | .connect _ link _ => h.links.get? link = none
  | .failCalls point outcomes =>
    point = .getFlags ∨ point = .setFlags → ∀ outcome ∈ outcomes, outcome = none
  | _ => True

theorem isNonblocking_setEnd {q : EndId} {before after : LinkEnd}
    (present : h.linkEnd? q = some before) (same : after.nonblocking = before.nonblocking)
    (p : EndId) : (h.setEnd q after).isNonblocking p = h.isNonblocking p := by
  rw [isNonblocking, isNonblocking, linkEnd?_setEnd]
  by_cases near : p = q
  · subst near
    rw [if_pos rfl, present]
    exact same
  · rw [if_neg near]

/-- What others do without meddling changes no mode. -/
theorem isNonblocking_act {action : PeerAction} (harmless : h.Harmless action) (p : EndId) :
    (h.act action).2.isNonblocking p = h.isNonblocking p := by
  cases action with
  | send q data =>
    rcases h.peerSend_cases q data with ⟨same, _⟩ | ⟨_, _, _, _, _, far, sent⟩
    · rw [act, same]
    · rw [act, sent]
      exact isNonblocking_setEnd far (by rfl) p
  | receive q max =>
    rcases h.peerReceive_cases q max with same | ⟨_, _, near, took⟩
    · rw [act, same]
    · rw [act, took]
      exact isNonblocking_setEnd near (by rfl) p
  | close q =>
    rcases h.peerClose_cases q with ⟨same, _⟩ | ⟨closed, _, modes, closes⟩
    · rw [act, same]
    · rw [act, closes, isNonblocking_closeEnd, modes]
  | connect name link capacity =>
    have taken := isNonblocking_congr (h.linkEnd?_takeFault .connect p)
    rcases h.peerConnect_cases name ⟨link, capacity⟩ with
      same | met | ⟨listener, _, _, _, _, connects⟩
    · rw [act, same]
    · rw [act, met, taken]
    · have fresh : (h.takeFault .connect).2.links.get? link = none := by
        rw [links_takeFault]
        exact harmless
      rw [act, connects]
      exact (isNonblocking_addLink ⟨link, capacity⟩ fresh listener p).trans taken
  | failCalls point outcomes => rfl
  | failTransfers q d faults =>
    rcases h.failTransfers_cases q d faults with same | ⟨_, near, set⟩
    · rw [act, same]
    · rw [act, set]
      exact isNonblocking_setEnd near (by cases d <;> rfl) p

theorem modesFree_act (free : h.ModesFree) {action : PeerAction} (harmless : h.Harmless action) :
    (h.act action).2.ModesFree := by
  cases action with
  | send q data => exact free.of_suffix (h.releases_peerSend q data).outcomes
  | receive q max => exact free.of_suffix (h.releases_peerReceive q max).outcomes
  | close q => exact free.of_suffix (h.releases_peerClose q).outcomes
  | connect name link capacity =>
    have taken := free.of_suffix (h.outcomesAhead_takeFault .connect)
    rcases h.peerConnect_cases name ⟨link, capacity⟩ with same | met | ⟨_, _, _, _, _, connects⟩
    · rw [act, same]
      exact free
    · rw [act, met]
      exact taken
    · rw [act, connects]
      exact taken
  | failCalls point outcomes =>
    intro point' mode outcome member
    simp only [act, outcomesAhead] at member
    by_cases same : point = point'
    · subst same
      simp only [Table.get?_set_self, Option.getD_some, List.mem_append] at member
      rcases member with before | added
      · exact free point mode outcome before
      · exact harmless mode outcome added
    · rw [Table.get?_set_of_ne _ _ same] at member
      exact free point' mode outcome member
  | failTransfers q d faults => exact free.of_suffix (h.releases_failTransfers q d faults).outcomes

end Host

open Host

/-- How many endpoints are to change back the mode of an end. -/
def owners (p : EndId) (eps : List Endpoint) : Nat :=
  eps.countP (·.restores p)

/-- The states that a program comes to by setting up endpoints on whatever
descriptors, using them and closing them in any order, while others do what they
do. No call about modes fails, and every link that is made is new. -/
inductive FleetReach (h₀ : Host) : List Endpoint → Host → Prop
  | start : FleetReach h₀ [] h₀
  | create {eps h} (config : PipeConfig) : FleetReach h₀ eps h →
      FleetReach h₀ (eps ++ [Endpoint.ofConfig config]) h
  | adopt {eps h h'} {i : Nat} {ep ep' : Endpoint} {d : Descriptor} {direction : Direction}
      {name : String} {result : Except SetupError Unit} : FleetReach h₀ eps h →
      eps[i]? = some ep → (h.linkEnd? d.endId).isSome →
      ep.adopt d direction name h = .ok (result, ep') h' → FleetReach h₀ (eps.set i ep') h'
  | connect {eps h h'} {i : Nat} {ep ep' : Endpoint} {path : Bytes}
      {result : Except SetupError Unit} : FleetReach h₀ eps h →
      eps[i]? = some ep → h.links.get? h.linkPlan.name = none →
      ep.connect path h = .ok (result, ep') h' → FleetReach h₀ (eps.set i ep') h'
  | queue {eps h} {i : Nat} {ep : Endpoint} (queues : Queues) : FleetReach h₀ eps h →
      eps[i]? = some ep → FleetReach h₀ (eps.set i { ep with queues }) h
  | service {eps h h'} {i : Nat} {ep ep' : Endpoint} {waits waits' : WaitSet} {moved : Bool} :
      FleetReach h₀ eps h → eps[i]? = some ep →
      ep.service waits h = .ok (moved, waits', ep') h' → FleetReach h₀ (eps.set i ep') h'
  | close {eps h} {i : Nat} {ep : Endpoint} : FleetReach h₀ eps h → eps[i]? = some ep →
      FleetReach h₀ (eps.set i (ep.close h).1) (ep.close h).2
  | drop {eps h} {i : Nat} {ep : Endpoint} : FleetReach h₀ eps h → eps[i]? = some ep →
      FleetReach h₀ (eps.eraseIdx i) (ep.close h).2
  | outside {eps h} {action : PeerAction} : FleetReach h₀ eps h → h.Harmless action →
      FleetReach h₀ eps (h.act action).2

/-- What a step of one endpoint does to modes: the mode of an end counts for as
much more as the endpoint has to change back. -/
structure Endpoint.Turned (ep : Endpoint) (h : Host) (ep' : Endpoint) (h' : Host) : Prop where
  sound : ∀ c, ep'.connection = some c → c.Sound
  free : h'.ModesFree
  balance : ∀ p, (h'.isNonblocking p).toNat + (ep.restores p).toNat =
    (h.isNonblocking p).toNat + (ep'.restores p).toNat

namespace Endpoint

variable {ep ep' : Endpoint} {h h' : Host} {d : Descriptor}

theorem restores_of_closed (closed : ep.connection = none) (p : EndId) : ep.restores p = false := by
  simp [restores, closed]

/-- Closing changes modes back, of ends that are in the mode set. -/
theorem turned_of_close (free : h'.ModesFree) (closed : ep'.connection = none)
    (set : ∀ p, ep.restores p → h.isNonblocking p)
    (modes : ∀ p, h'.isNonblocking p = (h.isNonblocking p && !ep.restores p)) :
    ep.Turned h ep' h' := by
  refine ⟨by simp [closed], free, fun p => ?_⟩
  rw [modes, restores_of_closed closed]
  have set := set p
  cases restoring : ep.restores p
  · simp
  · simp [set restoring]

theorem turned_attach (ep : Endpoint) (free : h.ModesFree) (closed : ep.connection = none)
    (present : (h.linkEnd? d.endId).isSome) (reads writes : Bool) :
    ∃ ep' h', ep.attach d reads writes h = (.ok (), ep', h') ∧ ep.Turned h ep' h' := by
  obtain ⟨h', adopted, modes⟩ := Transport.adopt_modes free d present
  have attached : ∃ ep', ep.attach d reads writes h = (.ok (), ep', h') ∧
      ∀ p, ep'.restores p = (!h.isNonblocking d.endId && decide (d.endId = p)) := by
    unfold attach
    rw [adopted]
    exact ⟨_, rfl, fun _ => rfl⟩
  obtain ⟨ep', attached, owned⟩ := attached
  refine ⟨ep', h', attached, ?_⟩
  obtain ⟨⟨c, fresh_ep, fresh, _⟩, releases, _⟩ := attach_fresh attached
  refine ⟨?_, free.of_suffix releases.outcomes, fun p => ?_⟩
  · intro c' connected
    rw [fresh_ep] at connected
    cases connected
    exact fresh.sound
  · rw [modes, owned, restores_of_closed closed]
    by_cases same : d.endId = p
    · subst same
      cases h.isNonblocking d.endId <;> simp
    · simp [same]

/-- Nothing of an endpoint's mode depends on its name, or on what is logged. -/
theorem Turned.of_name {name : String} {event : LogEvent}
    (turned : { ep with name }.Turned (h.log event) ep' h') : ep.Turned h ep' h' :=
  ⟨turned.sound, turned.free, turned.balance⟩

theorem turned_adopt {direction : Direction} {name : String} {result : Except SetupError Unit}
    (free : h.ModesFree) (present : (h.linkEnd? d.endId).isSome)
    (run : ep.adopt d direction name h = .ok (result, ep') h') : ep.Turned h ep' h' := by
  obtain ⟨closed, answer, _, attached⟩ := attach_of_adopt run
  obtain ⟨ep₁, h₁, attached', turned⟩ := turned_attach { ep with name }
    (h := h.log (.adopted name direction)) (d := d) free closed present
    (direction = Direction.read) (direction = Direction.write)
  cases attached.symm.trans attached'
  exact turned.of_name

theorem turned_connect {path : Bytes} {result : Except SetupError Unit} (free : h.ModesFree)
    (sound : ∀ c, ep.connection = some c → c.Sound)
    (fresh : h.links.get? h.linkPlan.name = none)
    (run : ep.connect path h = .ok (result, ep') h') : ep.Turned h ep' h' := by
  obtain ⟨closed, connecting⟩ := connecting_of_ok run
  cases connecting with
  | refused connects =>
    obtain ⟨same, taken, _⟩ := Host.connect_modes fresh connects
    exact ⟨sound, free.of_suffix taken, fun p => by rw [same]⟩
  | @opened d mid _ _ _ connects attached =>
    obtain ⟨same, taken, present⟩ := Host.connect_modes fresh connects
    obtain ⟨ep₁, h₁, attached', turned⟩ := turned_attach { ep with name := Text.lossy path }
      (h := mid.log (.connected (Text.lossy path))) (d := d) (free.of_suffix taken) closed
      (present d rfl) true true
    cases attached.symm.trans attached'
    have balanced := turned.of_name
    exact ⟨balanced.sound, balanced.free, fun p => by rw [← same]; exact balanced.balance p⟩

theorem turned_service {waits waits' : WaitSet} {moved : Bool} (free : h.ModesFree)
    (sound : ∀ c, ep.connection = some c → c.Sound)
    (set : ∀ p, ep.restores p → h.isNonblocking p)
    (run : ep.service waits h = .ok (moved, waits', ep') h') : ep.Turned h ep' h' := by
  cases connected : ep.connection with
  | none =>
    rw [service_closed waits connected] at run
    cases run
    exact ⟨sound, free, fun _ => rfl⟩
  | some c =>
    have ticked := c.ticked (q := ep.queues) (h := h) (sound c connected)
    obtain ⟨_, modes, outcomes⟩ := ticked.transfersIn
    have served := served_of_run connected (sound c connected) run
    have free' := free.congr outcomes
    have kept (p : EndId) : (ep.ticked (c.tick ep.queues h)).restores p = ep.restores p := by
      simp only [restores, Endpoint.ticked, connected, ticked.restores, ticked.descriptor]
    generalize c.tick ep.queues h = t at *
    cases served with
    | kept read written =>
      refine ⟨?_, free', fun p => by rw [modes, kept]⟩
      intro c' present
      cases present
      exact ticked.sound _ _ read written
    | failed errors _ =>
      have releases := (ep.ticked t).releases_giveUp errors t.host
      refine turned_of_close (free'.of_suffix releases.outcomes) ?_ set fun p => ?_
      · rw [giveUp_fst]
      · rw [isNonblocking_giveUp _ _ free', kept, modes]

end Endpoint

end LocalPipe
