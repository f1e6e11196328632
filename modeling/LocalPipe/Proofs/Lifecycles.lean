import LocalPipe.Proofs.Renamings

namespace LocalPipe

open Host

namespace Endpoint

/-- Where an endpoint stands in its life. A doubled one listens although it is connected. -/
inductive Stage where
  | disconnected
  | bound
  | connected
  | doubled
deriving DecidableEq

def stage (ep : Endpoint) : Stage :=
  match ep.connection.isSome, ep.listener.isSome with
  | false, false => .disconnected
  | false, true => .bound
  | true, false => .connected
  | true, true => .doubled

/-- The ways of an endpoint's life. It is connected by a peer that it has accepted, once it
was bound, or by a use that joins it to a peer otherwise, which does not ask whether it was
bound. Only closing it, or a failure in service, disconnects it. -/
def Stage.Leads (before after : Stage) : Use → Prop
  | .connect _ | .adopt _ _ _ =>
    before = .disconnected ∧ (after = .disconnected ∨ after = .connected) ∨
      before = .bound ∧ (after = .bound ∨ after = .doubled)
  | .bind _ =>
    (before = .disconnected ∨ before = .bound) ∧ (after = .disconnected ∨ after = .bound)
  | .accept => before = .bound ∧ after = .connected
  | .close => after = .disconnected
  | .service _ =>
    after = before ∨ (before = .connected ∨ before = .doubled) ∧ after = .disconnected
  | _ => after = before

/-- What was done with an endpoint, each use with the endpoint as it was then, the latest
first. -/
abbrev History := List (Use × Endpoint)

/-- Uses that join an endpoint to a peer without accepting one. -/
def Use.Joins : Use → Prop
  | .connect _ | .adopt _ _ _ => True
  | _ => False

/-- An endpoint was joined to a peer while it was bound, and is still connected. -/
inductive JoinedWhileBound : History → Endpoint → Prop
  | joined {use : Use} {before ep : Endpoint} {past : History} : before.stage = .bound →
      use.Joins → ep.connection.isSome = true → JoinedWhileBound ((use, before) :: past) ep
  | since {use : Use} {before ep : Endpoint} {past : History} : JoinedWhileBound past before →
      ep.connection.isSome = true → JoinedWhileBound ((use, before) :: past) ep

/-- A listener that an endpoint has, or once had. -/
def Had (past : History) (ep : Endpoint) (number : Nat) : Prop :=
  ∃ other bound, (other = ep ∨ ∃ use, (use, other) ∈ past) ∧ other.listener = some bound ∧
    bound.listener = number

end Endpoint

open Endpoint

/-- The states of an endpoint that its uses lead to, with all that was done with it, in any
order and with any outcome but the end of the program. In between others may do anything, but
a listener that is closed never opens again. -/
inductive HistoryReach (config : PipeConfig) (h₀ : Host) : History → Endpoint → Host → Prop
  | start : HistoryReach config h₀ [] (.ofConfig config) h₀
  | use {past : History} {ep ep' : Endpoint} {h h' : Host} (use : Use) :
      HistoryReach config h₀ past ep h → ep.perform use h = .ok ep' h' →
      HistoryReach config h₀ ((use, ep) :: past) ep' h'
  | others {past : History} {ep : Endpoint} {h h' : Host} :
      HistoryReach config h₀ past ep h → h.nextListener ≤ h'.nextListener →
      (∀ number < h.nextListener, h'.listening number = true → h.listening number = true) →
      HistoryReach config h₀ past ep h'

namespace Endpoint

variable {config : PipeConfig} {past : History} {ep ep' : Endpoint} {h₀ h h' : Host} {use : Use}
  {number : Nat}

theorem stage_congr (connection : ep'.connection.isSome = ep.connection.isSome)
    (listener : ep'.listener = ep.listener) : ep'.stage = ep.stage := by
  rw [stage, stage, connection, listener]

theorem stage_of_disconnected (disconnected : ep.connection = none) :
    ep.stage = if ep.listener.isSome then .bound else .disconnected := by
  rw [stage, disconnected]
  cases ep.listener <;> rfl

theorem stage_of_connected (connected : ep.connection.isSome = true) :
    ep.stage = if ep.listener.isSome then .doubled else .connected := by
  rw [stage, connected]
  cases ep.listener <;> rfl

theorem early_of_disconnected (disconnected : ep.connection = none) :
    ep.stage = .disconnected ∨ ep.stage = .bound := by
  rw [stage_of_disconnected disconnected]
  split
  · exact Or.inr rfl
  · exact Or.inl rfl

theorem late_of_connected (connected : ep.connection.isSome = true) :
    ep.stage = .connected ∨ ep.stage = .doubled := by
  rw [stage_of_connected connected]
  split
  · exact Or.inr rfl
  · exact Or.inl rfl

theorem stage_eq_doubled :
    ep.stage = .doubled ↔ ep.connection.isSome = true ∧ ep.listener.isSome = true := by
  unfold stage
  cases ep.connection.isSome <;> cases ep.listener.isSome <;> simp

/-- What comes of joining a disconnected endpoint to a peer, or of trying to. -/
theorem leads_of_joining (disconnected : ep.connection = none)
    (listener : ep'.listener = ep.listener) :
    ep.stage = .disconnected ∧ (ep'.stage = .disconnected ∨ ep'.stage = .connected) ∨
      ep.stage = .bound ∧ (ep'.stage = .bound ∨ ep'.stage = .doubled) := by
  rw [stage, stage, disconnected, listener]
  cases ep'.connection <;> cases ep.listener <;> simp

theorem leads_service {waits waits' : WaitSet} {moved : Bool}
    (sound : ∀ c, ep.connection = some c → c.Sound)
    (run : ep.service waits h = .ok (moved, waits', ep') h') :
    ep.stage.Leads ep'.stage (.service waits) := by
  cases connected : ep.connection with
  | none =>
    rw [service_closed waits connected] at run
    cases run
    exact Or.inl rfl
  | some c =>
    have served := served_of_run connected (sound c connected) run
    have present : ep.connection.isSome = true := by rw [connected]; rfl
    cases served with
    | kept => exact Or.inl (stage_congr (by rw [present]; rfl) rfl)
    | failed errors _ =>
      exact Or.inr ⟨late_of_connected present, by rw [giveUp_fst]; rfl⟩

/-- Every use leads an endpoint on in one of these ways. -/
theorem leads_perform (use : Use) (sound : ∀ c, ep.connection = some c → c.Sound)
    (run : ep.perform use h = .ok ep' h') : ep.stage.Leads ep'.stage use := by
  cases use with
  | write | read | readAll | peek | setReadBufferSize =>
    cases run
    exact rfl
  | writeImmediately data =>
    obtain ⟨_, mid, _, last⟩ := Action.bind_ok.mp run
    cases last
    exact rfl
  | service waits =>
    obtain ⟨⟨moved, waits', served⟩, mid, run, last⟩ := Action.bind_ok.mp run
    cases last
    exact leads_service sound run
  | close =>
    have closed := ep.close_fst h
    rw [Action.call_ok.mp run] at closed
    dsimp only at closed
    subst closed
    exact rfl
  | connect path =>
    obtain ⟨⟨result, made⟩, mid, run, last⟩ := Action.bind_ok.mp run
    cases last
    exact leads_of_joining (setUp_connect run).disconnected (listener_connect run)
  | bind path =>
    obtain ⟨⟨result, made⟩, mid, run, last⟩ := Action.bind_ok.mp run
    cases last
    obtain ⟨disconnected, _, binds⟩ := bind_cases run
    refine ⟨early_of_disconnected disconnected, ?_⟩
    cases binds with
    | refused | spoiled | unheard => exact Or.inl (stage_of_disconnected disconnected)
    | bound => exact Or.inr (stage_of_disconnected disconnected)
  | accept =>
    obtain ⟨disconnected, ⟨c, rfl⟩, bound, _, _, listening, _⟩ := accept_cases run
    refine ⟨?_, rfl⟩
    rw [stage_of_disconnected disconnected, listening]
    rfl
  | adopt d direction name =>
    obtain ⟨⟨result, made⟩, mid, run, last⟩ := Action.bind_ok.mp run
    cases last
    exact leads_of_joining (setUp_adopt run).disconnected (listener_adopt run)

/-- An endpoint is doubled by being joined to a peer while it was bound, and only so. -/
theorem doubled_perform (leads : ep.stage.Leads ep'.stage use)
    (doubled : ep.stage = .doubled ↔ JoinedWhileBound past ep) :
    ep'.stage = .doubled ↔ JoinedWhileBound ((use, ep) :: past) ep' := by
  constructor
  · intro after
    have connected := (stage_eq_doubled.mp after).1
    rw [after] at leads
    cases use with
    | connect path | adopt d direction name =>
      rcases leads with ⟨_, same | same⟩ | ⟨bound, _⟩
      · cases same
      · cases same
      · exact .joined bound trivial connected
    | bind path => rcases leads with ⟨_, same | same⟩ <;> cases same
    | accept => cases leads.2
    | close => cases leads
    | service waits =>
      rcases leads with same | ⟨_, same⟩
      · exact .since (doubled.mp same.symm) connected
      · cases same
    | write | writeImmediately | read | readAll | peek | setReadBufferSize =>
      exact .since (doubled.mp leads.symm) connected
  · intro history
    cases history with
    | joined bound joins connected =>
      have late := late_of_connected connected
      rw [bound] at leads
      cases use with
      | connect path | adopt d direction name =>
        rcases leads with ⟨same, _⟩ | ⟨_, same | same⟩
        · cases same
        · rw [same] at late
          rcases late with no | no <;> cases no
        · exact same
      | _ => exact joins.elim
    | since before connected =>
      have late := late_of_connected connected
      rw [doubled.mpr before] at leads
      cases use with
      | connect path | adopt d direction name => rcases leads with ⟨same, _⟩ | ⟨same, _⟩ <;> cases same
      | bind path => rcases leads with ⟨same | same, _⟩ <;> cases same
      | accept => cases leads.1
      | close =>
        rw [show ep'.stage = .disconnected from leads] at late
        rcases late with no | no <;> cases no
      | service waits =>
        rcases leads with same | ⟨_, same⟩
        · exact same
        · rw [same] at late
          rcases late with no | no <;> cases no
      | write | writeImmediately | read | readAll | peek | setReadBufferSize => exact leads

theorem had_cons : Had ((use, ep) :: past) ep' number ↔
    Had past ep number ∨ ∃ bound, ep'.listener = some bound ∧ bound.listener = number := by
  constructor
  · rintro ⟨other, bound, rfl | ⟨use', member⟩, listening, same⟩
    · exact Or.inr ⟨bound, listening, same⟩
    · rcases List.mem_cons.mp member with this | earlier
      · cases this
        exact Or.inl ⟨_, bound, Or.inl rfl, listening, same⟩
      · exact Or.inl ⟨other, bound, Or.inr ⟨use', earlier⟩, listening, same⟩
  · rintro (⟨other, bound, rfl | ⟨use', member⟩, listening, same⟩ | ⟨bound, listening, same⟩)
    · exact ⟨_, bound, Or.inr ⟨use, List.mem_cons_self⟩, listening, same⟩
    · exact ⟨other, bound, Or.inr ⟨use', List.mem_cons_of_mem _ member⟩, listening, same⟩
    · exact ⟨ep', bound, Or.inl rfl, listening, same⟩

end Endpoint

/-- What holds of an endpoint and its history. Of the listeners that it has had, at most the
present one is open. -/
structure Endpoint.Lived (config : PipeConfig) (past : History) (ep : Endpoint) (h : Host) :
    Prop where
  orderly : ep.Orderly config
  doubled : ep.stage = .doubled ↔ JoinedWhileBound past ep
  numbered : ∀ number, Had past ep number → number < h.nextListener
  present : ∀ number, Had past ep number → h.listening number = true →
    ∃ bound, ep.listener = some bound ∧ bound.listener = number

namespace Endpoint

variable {config : PipeConfig} {past : History} {ep ep' : Endpoint} {h₀ h h' : Host} {use : Use}
  {number : Nat}

/-- Once an endpoint has given up its name, none of the listeners that it has had is open. -/
theorem Lived.silent (lived : ep.Lived config past h) (had : Had past ep number) :
    ep.silenced h.listening number ≠ true := by
  intro silenced
  obtain ⟨opened, other⟩ := silenced_eq_true.mp silenced
  obtain ⟨bound, listening, rfl⟩ := lived.present number had opened
  exact other bound listening rfl

theorem Lived.perform (lived : ep.Lived config past h) (run : ep.perform use h = .ok ep' h') :
    ep'.Lived config ((use, ep) :: past) h' := by
  have sound := lived.orderly.sound
  have leads := leads_perform use sound run
  have orderly := lived.orderly.perform use run
  have doubled := doubled_perform leads lived.doubled
  have given_up : ep'.listener = none → h'.listening = ep.silenced h.listening →
      h.nextListener ≤ h'.nextListener → ep'.Lived config ((use, ep) :: past) h' := by
    intro silent listening later
    have before : ∀ number, Had ((use, ep) :: past) ep' number → Had past ep number := by
      intro number had
      rcases had_cons.mp had with before | ⟨bound, listens, _⟩
      · exact before
      · rw [silent] at listens
        cases listens
    refine ⟨orderly, doubled, fun number had => ?_, fun number had opened => ?_⟩
    · exact Nat.lt_of_lt_of_le (lived.numbered number (before number had)) later
    · rw [listening] at opened
      exact absurd opened (lived.silent (before number had))
  cases renames_perform use sound run with
  | kept same naming =>
    have before : ∀ number, Had ((use, ep) :: past) ep' number → Had past ep number := by
      intro number had
      rcases had_cons.mp had with before | ⟨bound, listens, same'⟩
      · exact before
      · exact ⟨ep, bound, Or.inl rfl, same ▸ listens, same'⟩
    refine ⟨orderly, doubled, fun number had => ?_, fun number had opened => ?_⟩
    · rw [nextListener_of_naming naming]
      exact lived.numbered number (before number had)
    · rw [listening_of_naming naming] at opened
      rw [same]
      exact lived.present number (before number had) opened
  | released silent naming =>
    exact given_up silent (listening_of_naming naming)
      (Nat.le_of_eq (nextListener_of_naming naming).symm)
  | bind _ binds =>
    cases binds with
    | refused naming | spoiled _ _ naming =>
      exact given_up rfl (listening_of_naming naming)
        (Nat.le_of_eq (nextListener_of_naming naming).symm)
    | unheard _ _ following silent => exact given_up rfl silent (by omega)
    | bound _ _ following opens =>
      refine ⟨orderly, doubled, fun number had => ?_, fun number had opened => ?_⟩
      · rw [following]
        rcases had_cons.mp had with before | ⟨bound, listens, rfl⟩
        · exact Nat.lt_succ_of_lt (lived.numbered number before)
        · cases listens
          exact Nat.lt_succ_self _
      · rcases had_cons.mp had with before | new
        · rw [opens, Bool.or_eq_true, decide_eq_true_eq] at opened
          rcases opened with rfl | silenced
          · exact ⟨_, rfl, rfl⟩
          · exact absurd silenced (lived.silent before)
        · exact new

end Endpoint

namespace HistoryReach

variable {config : PipeConfig} {past : History} {ep : Endpoint} {h₀ h : Host}

theorem lived (reach : HistoryReach config h₀ past ep h) : ep.Lived config past h := by
  induction reach with
  | start =>
    have none_had : ∀ number, ¬ Had [] (.ofConfig config) number := by
      rintro number ⟨other, bound, rfl | ⟨use, member⟩, listening, _⟩
      · cases listening
      · cases member
    refine ⟨EndpointReach.start.orderly, ⟨fun same => ?_, fun history => ?_⟩,
      fun number had => absurd had (none_had number),
      fun number had => absurd had (none_had number)⟩
    · cases same
    · cases history
  | use use _ run lived => exact lived.perform run
  | others _ later closed lived =>
    refine ⟨lived.orderly, lived.doubled, fun number had => ?_, fun number had opened => ?_⟩
    · exact Nat.lt_of_lt_of_le (lived.numbered number had) later
    · exact lived.present number had (closed number (lived.numbered number had) opened)

/-- An endpoint goes from one stage of its life to the next as described. It listens while it
is connected if it was joined to a peer while it was bound, and only then. Of the listeners
that it has had, at most the present one is still open, so a connected endpoint that was not
joined so is not to be found by any name. -/
theorem listens_alone (reach : HistoryReach config h₀ past ep h) :
    (∀ use ep' h', ep.perform use h = .ok ep' h' → ep.stage.Leads ep'.stage use) ∧
      (ep.connection.isSome = true ∧ ep.listener.isSome = true ↔ JoinedWhileBound past ep) ∧
      (∀ number, Had past ep number → h.listening number = true →
        ∃ bound, ep.listener = some bound ∧ bound.listener = number) ∧
      (ep.connection.isSome = true → ¬ JoinedWhileBound past ep →
        ep.listener = none ∧
          ∀ path number, h.listenerAt path = .ok number → ¬ Had past ep number) := by
  have lived := reach.lived
  have doubled := stage_eq_doubled.symm.trans lived.doubled
  refine ⟨fun use ep' h' run => leads_perform use lived.orderly.sound run, doubled,
    lived.present, fun connected alone => ?_⟩
  have silent : ep.listener = none := by
    refine Option.not_isSome_iff_eq_none.mp fun listens => alone ?_
    exact doubled.mp ⟨connected, listens⟩
  refine ⟨silent, fun path number there had => ?_⟩
  obtain ⟨bound, listening, _⟩ := lived.present number had (listening_of_listenerAt there)
  rw [silent] at listening
  cases listening

/-- An endpoint that is bound. -/
def awaiting : Endpoint :=
  { Endpoint.ofConfig default with name := Text.lossy [115], listener := some ⟨0, [115]⟩ }

/-- A host where a peer waits at a listener. -/
def visited : Host :=
  { links := ⟨[("link", { capacity := 65536 })]⟩
    listeners := ⟨[(0, ["link"])]⟩
    nextListener := 1
    files := ⟨⟨[([[], [115]], .socket 0)]⟩⟩ }

theorem reach_awaiting : HistoryReach {} {} [(.bind [115], .ofConfig {})] awaiting visited := by
  have bound := @HistoryReach.use {} {} _ _ awaiting _ _ (.bind [115]) .start rfl
  refine bound.others (Nat.le_refl _) fun number below _ => ?_
  obtain rfl : number = 0 := Nat.lt_one_iff.mp below
  rfl

theorem acceptUntil_waiting {listener moment : Nat} {d : Descriptor} {h h' : Host}
    (waits : h.accept listener = (.ok d, h')) : acceptUntil listener moment h = (.ok d, h') := by
  unfold acceptUntil
  split <;> (rename_i answer; rw [waits] at answer; cases answer)
  rfl

theorem awaiting_accepts : ∃ ep h, awaiting.perform .accept visited = .ok ep h ∧
    ep.connection.isSome = true := by
  have accepts : acceptWithin 0 awaiting.config.acceptTimeout visited =
      .ok (.ok ⟨0, ⟨"link", .b⟩⟩) (visited.accept 0).2 :=
    Action.bind_ok.mpr ⟨_, _, rfl, Action.bind_ok.mpr
      ⟨_, _, rfl, Action.call_ok.mpr (acceptUntil_waiting rfl)⟩⟩
  exact ⟨_, _, Action.bind_ok.mpr ⟨(), visited, rfl, Action.bind_ok.mpr ⟨_, _, accepts, rfl⟩⟩, rfl⟩

/-- Once it has accepted its peer, its name leads nowhere. -/
theorem listens_alone_accepted : ∃ past ep h, HistoryReach {} {} past ep h ∧
    ep.connection.isSome = true ∧ Had past ep 0 ∧ ep.listener = none ∧
      ∀ path number, h.listenerAt path = .ok number → ¬ Had past ep number := by
  obtain ⟨ep, h, run, connected⟩ := awaiting_accepts
  have reach := reach_awaiting.use .accept run
  obtain ⟨_, _, _, apart⟩ := reach.listens_alone
  have accepted : ¬ JoinedWhileBound [(.accept, awaiting), (.bind [115], .ofConfig {})] ep := by
    rintro (⟨_, joins, _⟩ | ⟨before, _⟩)
    · exact joins
    · cases before with
      | joined _ joins => exact joins
      | since before => cases before
  obtain ⟨silent, nowhere⟩ := apart connected accepted
  have had : Had [(.accept, awaiting), (.bind [115], .ofConfig {})] ep 0 :=
    ⟨awaiting, ⟨0, [115]⟩, Or.inr ⟨_, List.mem_cons_self⟩, rfl, rfl⟩
  exact ⟨_, ep, h, reach, connected, had, silent, nowhere⟩

/-- An endpoint that takes over a descriptor while it is bound still listens, and further
peers find it by its name. -/
theorem not_always_alone : ¬ ∀ (config : PipeConfig) (h₀ : Host) (past : History) (ep : Endpoint)
    (h : Host), HistoryReach config h₀ past ep h → ep.connection.isSome = true →
      ep.listener = none ∧
        ∀ path number, h.listenerAt path = .ok number → ¬ Had past ep number := by
  intro always
  have reach := reach_awaiting.use (.adopt ⟨0, ⟨"link", .a⟩⟩ .read "in") rfl
  obtain ⟨silent, _⟩ := always _ _ _ _ _ reach rfl
  cases silent

end HistoryReach

end LocalPipe
