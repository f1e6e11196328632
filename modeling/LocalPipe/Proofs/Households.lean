import LocalPipe.Proofs.Ownership
import Mathlib.Data.List.Perm.Subperm

namespace LocalPipe

open Host

/-- Taking over a descriptor closes it if it fails, and touches no other one. -/
theorem Transport.adopt_handed (d : Descriptor) (h : Host) :
    (∃ e, ∃ mid : Host, mid.handed = h.handed ∧ adopt d h = (.error e, mid.close d)) ∨
    ∃ t, ∃ mid : Host, t.descriptor = d ∧ mid.handed = h.handed ∧ adopt d h = (.ok t, mid) := by
  have asked := h.handed_getMode d
  unfold adopt
  split
  · rename_i e mid answer
    rw [answer] at asked
    exact Or.inl ⟨_, mid, asked, rfl⟩
  · rename_i mid answer
    rw [answer] at asked
    exact Or.inr ⟨_, mid, rfl, asked, rfl⟩
  · rename_i mid answer
    rw [answer] at asked
    have set := mid.handed_setMode d true
    rw [asked] at set
    split
    · rename_i e last answer'
      rw [answer'] at set
      exact Or.inl ⟨_, last, set, rfl⟩
    · rename_i last answer'
      rw [answer'] at set
      exact Or.inr ⟨_, last, rfl, set, rfl⟩

namespace Endpoint

/-- The descriptor that an endpoint is connected by. -/
def descriptor? (ep : Endpoint) : Option Descriptor :=
  ep.connection.map (·.transport.descriptor)

/-- The descriptor that a use takes over. -/
def Use.taken? : Use → Option Descriptor
  | .adopt d _ _ => some d
  | _ => none

/-- What a use of an endpoint does to the descriptors of the program. It closes none but the
endpoint's own one and the one that it takes over, and the one that the endpoint holds then is
one of these, or a new one. -/
structure Minds (taken : Option Descriptor) (ep : Endpoint) (h : Host) (ep' : Endpoint)
    (h' : Host) : Prop where
  secures : h.Secures (fun d => ep.descriptor? = some d ∨ taken = some d) h'
  holds : ∀ d, ep'.descriptor? = some d →
    ((ep.descriptor? = some d ∨ taken = some d) ∧ (h.Owns d → h'.Owns d)) ∨ h.Hands d h'

variable {ep ep' : Endpoint} {h h' mid : Host} {d : Descriptor} {taken : Option Descriptor}

theorem descriptor?_of_closed (closed : ep.connection = none) : ep.descriptor? = none := by
  rw [descriptor?, closed]
  rfl

theorem descriptor?_of_connected {c : Connection} (connected : ep.connection = some c) :
    ep.descriptor? = some c.transport.descriptor := by
  rw [descriptor?, connected]
  rfl

namespace Minds

/-- A use that closes nothing, and leaves the endpoint its descriptor. -/
theorem of_same (secures : h.SecuresAll h') (same : ep'.descriptor? = ep.descriptor?) :
    ep.Minds taken h ep' h' := by
  refine ⟨secures.sparing, fun d holds => Or.inl ⟨Or.inl ?_, secures.owned d not_false⟩⟩
  rw [← same, holds]

theorem of_closed (secures : h.Secures (ep.descriptor? = some ·) h')
    (closed : ep'.connection = none) : ep.Minds taken h ep' h' := by
  refine ⟨secures.mono fun _ => Or.inl, fun d holds => ?_⟩
  rw [descriptor?_of_closed closed] at holds
  cases holds

theorem after (minds : ep.Minds taken mid ep' h') (first : h.SecuresAll mid) :
    ep.Minds taken h ep' h' := by
  refine ⟨first.sparing.trans minds.secures, fun d holds => ?_⟩
  rcases minds.holds d holds with ⟨which, owned⟩ | hands
  · exact Or.inl ⟨which, fun owns => owned (first.owned d not_false owns)⟩
  · exact Or.inr (hands.after first)

/-- A new descriptor that is taken over is a new one still. -/
theorem of_hands (minds : ep.Minds (some d) mid ep' h') (first : h.SecuresAll mid)
    (hands : h.Hands d mid) (disconnected : ep.connection = none) : ep.Minds none h ep' h' := by
  have own := descriptor?_of_closed disconnected
  refine ⟨⟨?_, ?_, ?_, fun d' _ owns => ?_⟩, fun d' holds => Or.inr ?_⟩
  · exact Nat.le_trans first.time minds.secures.time
  · exact Nat.le_trans first.numbers minds.secures.numbers
  · exact fun before => minds.secures.numbered (first.numbered before)
  · refine minds.secures.owned d' ?_ (first.owned d' not_false owns)
    rintro (mine | same)
    · rw [own] at mine
      cases mine
    · cases same
      exact Nat.lt_irrefl _ (Nat.lt_of_lt_of_le owns.given hands.fresh)
  · rcases minds.holds d' holds with ⟨mine | same, owned⟩ | later
    · rw [own] at mine
      cases mine
    · cases same
      exact ⟨hands.fresh, fun before => owned (hands.owned before)⟩
    · exact later.after first

/-- What an endpoint holds is all that matters about it. -/
theorem congr {before : Endpoint} (minds : ep.Minds taken h ep' h')
    (same : before.descriptor? = ep.descriptor?) : before.Minds taken h ep' h' :=
  ⟨by rw [same]; exact minds.secures, by rw [same]; exact minds.holds⟩

end Minds

theorem handed_unbind (ep : Endpoint) (h : Host) : (ep.unbind h).2.handed = h.handed := by
  unfold unbind
  split
  · rfl
  · rename_i bound _
    have closed : (h.closeListener bound.listener).handed = h.handed := by
      rw [closeListener_frame]
      rfl
    have unlinked := (h.closeListener bound.listener).handed_unlink bound.path
    rw [closed] at unlinked
    split
    · rename_i answer
      rw [answer] at unlinked
      exact unlinked
    · rename_i answer
      rw [answer] at unlinked
      exact unlinked

theorem handed_removeStaleSocket (path : Bytes) (h : Host) :
    (removeStaleSocket path h).2.handed = h.handed := by
  have looked : (h.stat path).2.handed = h.handed := by
    rw [stat_frame]
    rfl
  unfold removeStaleSocket
  split
  · rfl
  · split
    all_goals
      rename_i answer
      rw [answer] at looked
    · exact looked
    · exact looked
    · rename_i mid
      have unlinked := mid.handed_unlink path
      rw [looked] at unlinked
      split
      all_goals
        rename_i answer
        rw [answer] at unlinked
        exact unlinked
    · exact looked

theorem secures_shutdown (c : Connection) (h : Host) :
    h.Secures (c.transport.descriptor = ·) (c.shutdown h) := by
  have closes (h : Host) :
      h.Secures (c.transport.descriptor = ·) (h.close c.transport.descriptor) :=
    (secures_close h _).mono fun _ => Eq.symm
  obtain ⟨events, shut⟩ := c.shutdown_eq h
  have logged : h.Secures (c.transport.descriptor = ·) { h with events } := .of_handed rfl
  have modes := Host.handed_setMode { h with events } c.transport.descriptor false
  rw [shut]
  unfold Transport.close
  split
  · split
    · rename_i e mid answer
      rw [answer] at modes
      have set : Secures _ (c.transport.descriptor = ·) (mid.log (.flagsKept (.os e))) :=
        logged.trans (.of_handed modes)
      exact set.trans (closes _)
    · rename_i mid answer
      rw [answer] at modes
      exact (logged.trans (.of_handed modes)).trans (closes mid)
  · exact logged.trans (closes _)

/-- Closing an endpoint closes no descriptor but its own. -/
theorem minds_close (ep : Endpoint) (h : Host) :
    ep.Minds taken h (ep.close h).1 (ep.close h).2 := by
  have closed := ep.close_fst h
  refine .of_closed ?_ (by rw [closed])
  have unbound := ep.unbind_fst h
  have same := ep.handed_unbind h
  unfold close
  generalize ep.unbind h = step at *
  obtain ⟨ep', h'⟩ := step
  dsimp only at unbound same
  subst unbound
  dsimp only
  split
  · exact .of_handed same
  · rename_i c connected
    have shut : h'.Secures (ep.descriptor? = some ·) (c.shutdown h') :=
      (secures_shutdown c h').mono fun d own => by rw [descriptor?_of_connected connected, own]
    exact (Secures.of_handed same).trans (shut.trans (.of_handed rfl))

theorem minds_giveUp (ep : Endpoint) (errors : List IoError) (h : Host) :
    ep.Minds taken h (ep.giveUp errors h).1 (ep.giveUp errors h).2 :=
  (ep.minds_close _).after (secures_frame.logAll _ errors h)

theorem minds_attach {reads writes : Bool} {result : Except IoError Unit}
    (attached : ep.attach d reads writes h = (result, ep', h'))
    (disconnected : ep.connection = none) : ep.Minds (some d) h ep' h' := by
  have takes := Transport.adopt_handed d h
  unfold attach at attached
  split at attached
  · rename_i e mid adopted
    cases attached
    rcases takes with ⟨e', before, same, failed⟩ | ⟨t, last, _, _, done⟩
    · rw [adopted] at failed
      cases failed
      refine ⟨(Secures.of_handed same).trans ?_, fun d' holds => ?_⟩
      · exact (secures_close before d).mono fun d' own => Or.inr (congrArg some own.symm)
      · rw [descriptor?_of_closed disconnected] at holds
        cases holds
    · rw [adopted] at done
      cases done
  · rename_i t mid adopted
    cases attached
    rcases takes with ⟨e', before, _, failed⟩ | ⟨t', last, took, same, done⟩
    · rw [adopted] at failed
      cases failed
    · rw [adopted] at done
      cases done
      refine ⟨.of_handed same, fun d' holds => Or.inl ⟨Or.inr ?_, fun owns => owns.congr same⟩⟩
      rw [← took]
      exact holds

/-- A descriptor that is accepted within some time is a new one. -/
theorem hands_acceptUntil {listener moment : Nat}
    (accepted : (acceptUntil listener moment h).1 = .ok d) :
    h.Hands d (acceptUntil listener moment h).2 := by
  have accepts {h h' : Host} {answer : Except Errno Descriptor}
      (answered : h.accept listener = (answer, h')) : h.SecuresAll h' :=
    (accept_secures answered).1
  have waits {h h' : Host} {timeout : Option Duration} {answer : Except Errno Nat}
      (answered : h.waitReady [.listener listener] timeout = (answer, h')) : h.SecuresAll h' := by
    have kept := secures_frame.waitReady h [.listener listener] timeout
    rwa [answered] at kept
  fun_induction acceptUntil listener moment h with
  | case1 h d' h' answer =>
    cases accepted
    exact (accept_secures answer).2 d rfl
  | case4 h h' answer early n h'' wait ih =>
    exact ((ih accepted).after (waits wait)).after (accepts answer)
  | case6 h h' answer ih => exact (ih accepted).after (accepts answer)
  | case2 | case3 | case5 | case7 => cases accepted

theorem hands_acceptWithin {listener : Nat} {timeout : Duration}
    (run : acceptWithin listener timeout h = .ok (.ok d) h') :
    h.SecuresAll h' ∧ h.Hands d h' := by
  refine ⟨(secures_frame.acceptWithin _ _).of_ok run, ?_⟩
  unfold acceptWithin at run
  obtain ⟨answer, h₁, sets, rest⟩ := Action.bind_ok.mp run
  have set := secures_frame.setListenerMode h
  rw [Action.call_ok.mp sets] at set
  cases answer with
  | error e => cases rest
  | ok =>
    obtain ⟨moment, h₂, limits, accepts⟩ := Action.bind_ok.mp rest
    have limited := (secures_frame.deadline timeout).of_ok limits
    rw [Action.call_ok] at accepts
    have hands := hands_acceptUntil (h := h₂) (d := d) (congrArg Prod.fst accepts)
    rw [accepts] at hands
    exact (hands.after limited).after set

theorem minds_connect {path : Bytes} {result : Except SetupError Unit}
    (run : ep.connect path h = .ok (result, ep') h') : ep.Minds none h ep' h' := by
  obtain ⟨disconnected, connecting⟩ := connecting_of_ok run
  cases connecting with
  | refused connects => exact .of_same (connect_secures connects).1 rfl
  | @opened d _ _ _ _ connects attached =>
    obtain ⟨secures, opened⟩ := connect_secures connects
    have minds := (minds_attach attached disconnected).of_hands (secures.trans (.of_handed rfl))
      ((opened d rfl).kept rfl) disconnected
    exact minds.congr rfl

theorem minds_adopt {direction : Direction} {name : String} {result : Except SetupError Unit}
    (run : ep.adopt d direction name h = .ok (result, ep') h') : ep.Minds (some d) h ep' h' := by
  obtain ⟨disconnected, _, _, attached⟩ := attach_of_adopt run
  have minds := (minds_attach attached disconnected).after (h := h) (.of_handed rfl)
  exact minds.congr rfl

theorem minds_bind {path : Bytes} {result : Except SetupError Unit}
    (run : ep.bind path h = .ok (result, ep') h') : ep.Minds none h ep' h' := by
  have unbound := ep.handed_unbind h
  have cleared := handed_removeStaleSocket path (ep.unbind h).2
  cases (binding_of_ok run).2 with
  | uncleared clears =>
    rw [clears] at cleared
    exact .of_same (.of_handed (cleared.trans unbound)) rfl
  | @refused _ mid _ clears listens =>
    have listening := mid.handed_listen path
    rw [clears] at cleared
    rw [listens] at listening
    exact .of_same (.of_handed (listening.trans (cleared.trans unbound))) rfl
  | @listens _ mid _ clears listens =>
    have listening := mid.handed_listen path
    rw [clears] at cleared
    rw [listens] at listening
    exact .of_same (.of_handed (listening.trans (cleared.trans unbound))) rfl

theorem minds_accept (run : ep.accept h = .ok ep' h') : ep.Minds none h ep' h' := by
  obtain ⟨disconnected, bound, d, mid, _, accepts, attached⟩ := attach_of_accept run
  obtain ⟨secures, opened⟩ := hands_acceptWithin accepts
  have unbound : ((ep.unbind mid).2.log (.acceptedPeer ep.name)).handed = mid.handed :=
    ep.handed_unbind mid
  have minds := (minds_attach attached disconnected).of_hands
    (secures.trans (.of_handed unbound)) (opened.kept unbound) disconnected
  exact minds.congr rfl

theorem minds_service {waits waits' : WaitSet} {moved : Bool}
    (sound : ∀ c, ep.connection = some c → c.Sound)
    (run : ep.service waits h = .ok (moved, waits', ep') h') : ep.Minds none h ep' h' := by
  cases connected : ep.connection with
  | none =>
    rw [service_closed waits connected] at run
    cases run
    exact .of_same (.of_handed rfl) rfl
  | some c =>
    have ticked := c.ticked (q := ep.queues) (h := h) (sound c connected)
    obtain ⟨mid, received, sent⟩ := ticked.halves
    have same : (c.tick ep.queues h).host.handed = h.handed := by
      rw [sent.writes.rest, received.reads.rest]
      rfl
    have own : (ep.ticked (c.tick ep.queues h)).descriptor? = ep.descriptor? := by
      rw [descriptor?_of_connected connected, ← ticked.descriptor]
      rfl
    have served := served_of_run connected (sound c connected) run
    cases served with
    | kept => exact .of_same (.of_handed same) own
    | failed errors _ =>
      exact ((minds_giveUp _ errors _).after (.of_handed same)).congr own.symm

/-- Every use of an endpoint minds what belongs to others. -/
theorem minds_perform (use : Use) (sound : ∀ c, ep.connection = some c → c.Sound)
    (run : ep.perform use h = .ok ep' h') : ep.Minds use.taken? h ep' h' := by
  cases use with
  | write | read | readAll | peek | setReadBufferSize =>
    cases run
    exact .of_same (.of_handed rfl) rfl
  | writeImmediately data =>
    obtain ⟨_, mid, writes, last⟩ := Action.bind_ok.mp run
    cases last
    exact .of_same ((secures_frame.writeImmediately ep data).of_ok writes) rfl
  | service waits =>
    obtain ⟨⟨moved, waits', served⟩, mid, run, last⟩ := Action.bind_ok.mp run
    cases last
    exact minds_service sound run
  | close =>
    have minds : ep.Minds none h (ep.close h).1 (ep.close h).2 := ep.minds_close h
    rw [Action.call_ok.mp run] at minds
    exact minds
  | connect path =>
    obtain ⟨⟨result, made⟩, mid, run, last⟩ := Action.bind_ok.mp run
    cases last
    exact minds_connect run
  | bind path =>
    obtain ⟨⟨result, made⟩, mid, run, last⟩ := Action.bind_ok.mp run
    cases last
    exact minds_bind run
  | accept => exact minds_accept run
  | adopt d direction name =>
    obtain ⟨⟨result, made⟩, mid, run, last⟩ := Action.bind_ok.mp run
    cases last
    exact minds_adopt run

end Endpoint

/-- The descriptors that some endpoints hold. -/
def held (eps : List Endpoint) : List Descriptor :=
  eps.filterMap Endpoint.descriptor?

/-- What a program has in hand: endpoints that are used as they can be, and descriptors that
none of them holds. Each descriptor, held by an endpoint or spare, belongs to the program, and
is there once. -/
structure Household (eps : List Endpoint) (spare : List Descriptor) (h : Host) : Prop where
  reached : ∀ ep ∈ eps, ∃ config, EndpointReach config ep
  numbered : h.Numbered
  owned : ∀ d ∈ held eps ++ spare, h.Owns d
  distinct : (held eps ++ spare).Nodup

/-- What a program comes to have in hand: it makes new endpoints and opens descriptors, uses
its endpoints, which may take over a spare descriptor, lets go of some of what it has, in any
order, and does whatever else closes nothing that it has. -/
inductive Tends (eps : List Endpoint) (spare : List Descriptor) (h : Host) :
    List Endpoint → List Descriptor → Host → Prop
  | start : Tends eps spare h eps spare h
  | keep {eps₁ eps₂ spare₁ spare₂ h'} : Tends eps spare h eps₁ spare₁ h' →
      eps₂.Subperm eps₁ → spare₂.Subperm spare₁ → Tends eps spare h eps₂ spare₂ h'
  | create {eps' spare' h'} (config : PipeConfig) : Tends eps spare h eps' spare' h' →
      Tends eps spare h (.ofConfig config :: eps') spare' h'
  | use {ep ep' eps' spare' mid h'} (use : Endpoint.Use) :
      Tends eps spare h (ep :: eps') (use.taken?.toList ++ spare') mid →
      ep.perform use mid = .ok ep' h' → Tends eps spare h (ep' :: eps') spare' h'
  | gain {eps' spare' mid d h'} : Tends eps spare h eps' spare' mid → mid.SecuresAll h' →
      mid.Hands d h' → Tends eps spare h eps' (d :: spare') h'
  | other {eps' spare' mid h'} : Tends eps spare h eps' spare' mid →
      mid.Secures (· ∉ held eps' ++ spare') h' → Tends eps spare h eps' spare' h'

theorem held_subperm {eps eps' : List Endpoint} (fewer : eps'.Subperm eps) :
    (held eps').Subperm (held eps) := by
  obtain ⟨some_of, same, sublist⟩ := fewer
  exact ⟨held some_of, same.filterMap _, sublist.filterMap _⟩

/-- The descriptor of one endpoint set apart from those of the others. -/
theorem held_perm (ep : Endpoint) (eps : List Endpoint) (taken spare : List Descriptor) :
    (held (ep :: eps) ++ (taken ++ spare)).Perm
      (ep.descriptor?.toList ++ (taken ++ (held eps ++ spare))) := by
  have split : held (ep :: eps) = ep.descriptor?.toList ++ held eps := by
    rw [held]
    cases holds : ep.descriptor? with
    | none => exact List.filterMap_cons_none holds
    | some d => exact List.filterMap_cons_some holds
  rw [split, List.append_assoc]
  exact (List.perm_append_comm_assoc ..).append_left _

/-- A list with at most one descriptor more is without doubles if that one is a new one. -/
theorem nodup_toList_append {d? : Option Descriptor} {ds : List Descriptor} :
    (d?.toList ++ ds).Nodup ↔ (∀ d, d? = some d → d ∉ ds) ∧ ds.Nodup := by
  cases d? <;> simp

namespace Household

variable {ep ep' : Endpoint} {eps eps' : List Endpoint} {spare spare' : List Descriptor}
  {h h' : Host}

theorem keep (household : Household eps spare h) (fewer : eps'.Subperm eps)
    (spared : spare'.Subperm spare) : Household eps' spare' h := by
  have holds : (held eps' ++ spare').Subperm (held eps ++ spare) :=
    (held_subperm fewer).append spared
  obtain ⟨some_of, same, sublist⟩ := id holds
  exact ⟨fun ep member => household.reached ep (fewer.subset member), household.numbered,
    fun d member => household.owned d (holds.subset member),
    same.nodup_iff.mp (sublist.nodup household.distinct)⟩

theorem perm (household : Household eps spare h) (same : eps.Perm eps') :
    Household eps' spare h :=
  household.keep same.symm.subperm (List.Subperm.refl _)

theorem secured (household : Household eps spare h)
    (secures : h.Secures (· ∉ held eps ++ spare) h') : Household eps spare h' :=
  ⟨household.reached, secures.numbered household.numbered,
    fun d member => secures.owned d (not_not_intro member) (household.owned d member),
    household.distinct⟩

theorem create (household : Household eps spare h) (config : PipeConfig) :
    Household (.ofConfig config :: eps) spare h := by
  refine ⟨fun ep member => ?_, household.numbered, household.owned, household.distinct⟩
  rcases List.mem_cons.mp member with rfl | earlier
  · exact ⟨config, .start⟩
  · exact household.reached ep earlier

theorem gain {d : Descriptor} (household : Household eps spare h) (secures : h.SecuresAll h')
    (hands : h.Hands d h') : Household eps (d :: spare) h' := by
  have kept := household.secured secures.sparing
  refine ⟨household.reached, kept.numbered, fun d' member => ?_, ?_⟩
  · rcases List.mem_cons.mp (List.perm_middle.mem_iff.mp member) with rfl | earlier
    · exact hands.owned household.numbered
    · exact kept.owned d' earlier
  · refine List.perm_middle.nodup_iff.mpr (List.nodup_cons.mpr ⟨fun earlier => ?_, kept.distinct⟩)
    exact Nat.lt_irrefl _ (Nat.lt_of_lt_of_le (household.owned d earlier).given hands.fresh)

/-- A household stays one through whatever is done with one of its endpoints. -/
theorem perform (use : Endpoint.Use)
    (household : Household (ep :: eps) (use.taken?.toList ++ spare) h)
    (run : ep.perform use h = .ok ep' h') : Household (ep' :: eps) spare h' := by
  obtain ⟨config, reach⟩ := household.reached ep List.mem_cons_self
  have minds := Endpoint.minds_perform use reach.orderly.sound run
  have arranged := held_perm ep eps use.taken?.toList spare
  obtain ⟨own_apart, others⟩ := nodup_toList_append.mp (arranged.nodup_iff.mp household.distinct)
  obtain ⟨taken_apart, distinct⟩ := nodup_toList_append.mp others
  have owned (d : Descriptor) (which : ep.descriptor? = some d ∨ use.taken? = some d ∨
      d ∈ held eps ++ spare) : h.Owns d := by
    refine household.owned d (arranged.mem_iff.mpr ?_)
    simpa only [List.mem_append, Option.mem_toList, Option.mem_def] using which
  -- the descriptors of the others are neither closed nor given out again
  have spared (d : Descriptor) (other : d ∈ held eps ++ spare) :
      ¬ (ep.descriptor? = some d ∨ use.taken? = some d) := by
    rintro (own | taken)
    · exact own_apart d own (List.mem_append_right _ other)
    · exact taken_apart d taken other
  have arranged' := held_perm ep' eps [] spare
  refine ⟨fun other member => ?_, minds.secures.numbered household.numbered, fun d member => ?_,
    arranged'.nodup_iff.mpr (nodup_toList_append.mpr ⟨fun d holds other => ?_, distinct⟩)⟩
  · rcases List.mem_cons.mp member with rfl | earlier
    · exact ⟨config, .use use reach run⟩
    · exact household.reached other (List.mem_cons_of_mem _ earlier)
  · rcases List.mem_append.mp (arranged'.mem_iff.mp member) with holds | other
    · rcases minds.holds d (Option.mem_toList.mp holds) with ⟨own | taken, kept⟩ | hands
      · exact kept (owned d (Or.inl own))
      · exact kept (owned d (Or.inr (Or.inl taken)))
      · exact hands.owned household.numbered
    · exact minds.secures.owned d (spared d other) (owned d (Or.inr (Or.inr other)))
  · rcases minds.holds d holds with ⟨which, _⟩ | hands
    · exact spared d other which
    · exact Nat.lt_irrefl _ (Nat.lt_of_lt_of_le (owned d (Or.inr (Or.inr other))).given hands.fresh)

theorem service {waits waits' : WaitSet} {moved : Bool} (household : Household (ep :: eps) spare h)
    (run : ep.service waits h = .ok (moved, waits', ep') h') : Household (ep' :: eps) spare h' :=
  household.perform (.service waits) (Action.bind_of_ok run)

end Household

/-- A household stays one whatever the program does that it belongs to. -/
theorem Tends.household {eps eps' : List Endpoint} {spare spare' : List Descriptor} {h h' : Host}
    (tends : Tends eps spare h eps' spare' h') (household : Household eps spare h) :
    Household eps' spare' h' := by
  induction tends with
  | start => exact household
  | keep _ fewer spared ih => exact ih.keep fewer spared
  | create config _ ih => exact ih.create config
  | use use _ run ih => exact ih.perform use run
  | gain _ secures hands ih => exact ih.gain secures hands
  | other _ secures ih => exact ih.secured secures

theorem Tends.time {eps eps' : List Endpoint} {spare spare' : List Descriptor} {h h' : Host}
    (tends : Tends eps spare h eps' spare' h') (household : Household eps spare h) :
    h.now ≤ h'.now := by
  induction tends with
  | start => exact Nat.le_refl _
  | keep _ _ _ ih => exact ih
  | create _ _ ih => exact ih
  | use use before run ih =>
    obtain ⟨config, reach⟩ := (before.household household).reached _ List.mem_cons_self
    exact Nat.le_trans ih (Endpoint.minds_perform use reach.orderly.sound run).secures.time
  | gain _ secures _ ih => exact Nat.le_trans ih secures.time
  | other _ secures ih => exact Nat.le_trans ih secures.time

end LocalPipe
