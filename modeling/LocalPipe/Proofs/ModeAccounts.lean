import LocalPipe.Proofs.ModeKeeping
import LocalPipe.Proofs.Uses

namespace LocalPipe

open Host

variable {h h' : Host} {p : EndId} {d : Descriptor}

namespace Host

theorem keepsMode_of_modeFault {nonblocking : Bool} {e : Errno}
    (failed : h.setMode d nonblocking = (.error e, h')) (p : EndId) :
    h.KeepsMode p h' ∧ h'.calls = .modeFault .setFlags d e :: h.calls := by
  unfold setMode at failed
  split at failed
  · rename_i mid fault
    have taken : h.KeepsMode p mid := .of_takeFault fault
    cases failed
    exact ⟨taken.record (by rfl), by rw [record, calls_of_takeFault fault]⟩
  · cases failed

/-- A mode that is set without a fault is the mode of the descriptor's end, and of no
other. -/
theorem setMode_done {nonblocking : Bool} (done : h.setMode d nonblocking = (.ok (), h')) :
    (∀ p, h'.isNonblocking p =
      if p = d.endId ∧ (h.linkEnd? p).isSome then nonblocking else h.isNonblocking p) ∧
    h'.calls = .setMode d nonblocking :: h.calls := by
  refine ⟨fun p => ?_, ?_⟩
  · have changed := h.linkEnd?_setMode d nonblocking p
    rw [done] at changed
    by_cases same : p = d.endId
    · rw [if_pos ⟨same, rfl⟩] at changed
      rw [isNonblocking, changed]
      cases present : h.linkEnd? p with
      | none => simp [isNonblocking, present]
      | some linkEnd => simp [same]
    · rw [if_neg fun both => same both.1] at changed
      rw [if_neg fun both => same both.1, isNonblocking_congr changed]
  · unfold setMode at done
    split at done
    · cases done
    · rename_i mid fault
      cases done
      simp only [record]
      split <;> simp [calls_of_takeFault fault]

theorem keepsMode_setMode_of_ne {nonblocking : Bool}
    (done : h.setMode d nonblocking = (.ok (), h')) (other : d.endId ≠ p) : h.KeepsMode p h' := by
  obtain ⟨modes, calls⟩ := setMode_done done
  have appointments := (h.releases_setMode d nonblocking).appointments
  rw [done] at appointments
  refine ⟨?_, .of_record _ (by simp [Call.clears, other]) calls,
    by rw [appointments]; exact List.Subset.refl _⟩
  rw [modes p, if_neg fun both => other both.1.symm]

end Host

/-- No call that sets a mode has failed in between. -/
def Host.SetsModes (h h' : Host) : Prop :=
  ∀ d e, Call.modeFault .setFlags d e ∉ h'.since h.calls

theorem Host.SetsModes.after {mid : Host} (sets : h.SetsModes h')
    (early : h.calls <:+ mid.calls) (late : mid.calls <:+ h'.calls) : mid.SetsModes h' := by
  obtain ⟨first, early⟩ := early
  obtain ⟨second, late⟩ := late
  have all : h'.calls = (second ++ first) ++ h.calls := by
    rw [List.append_assoc, early, late]
  intro d e failure
  rw [since_eq late.symm] at failure
  refine sets d e ?_
  rw [since_eq all]
  exact List.mem_append_left first failure

/-- A transport that has not changed the mode of an end does not change it back. -/
theorem Transport.keepsMode_close (t : Transport) (h : Host)
    (other : t.restores = true → t.descriptor.endId ≠ p) : h.KeepsMode p (t.close h) := by
  unfold close
  split
  · rename_i restores
    split
    · rename_i e mid failed
      have kept := (keepsMode_of_modeFault failed p).1.log (.flagsKept (.os e))
      exact kept.trans (Host.keepsMode_close _ t.descriptor p)
    · rename_i mid done
      have kept := keepsMode_setMode_of_ne done (other restores)
      exact kept.trans (Host.keepsMode_close mid t.descriptor p)
  · exact h.keepsMode_close t.descriptor p

/-- A transport that is to change the mode of its end back does so, unless the call
fails. -/
theorem Transport.blocking_of_close {t : Transport} (restores : t.restores = true)
    (sets : h.SetsModes (t.close h)) : (t.close h).isNonblocking t.descriptor.endId = false := by
  unfold SetsModes at sets
  unfold close at sets ⊢
  rw [if_pos restores] at sets ⊢
  split
  · rename_i e mid failed
    rw [failed] at sets
    obtain ⟨_, calls⟩ := keepsMode_of_modeFault failed t.descriptor.endId
    have later : ((mid.log (.flagsKept (.os e))).close t.descriptor).calls =
        [.close t.descriptor, .modeFault .setFlags t.descriptor e] ++ h.calls := by
      rw [calls_close, calls_log, calls]
      rfl
    have failure := sets t.descriptor e
    rw [since_eq later] at failure
    simp at failure
  · rename_i mid done
    obtain ⟨modes, _⟩ := setMode_done done
    rw [Host.isNonblocking_close, modes]
    cases present : h.linkEnd? t.descriptor.endId <;> simp [isNonblocking, present]

/-- What becomes of the mode of a descriptor's end when a transport takes over the
descriptor: if it fails, nothing, else the mode is set, and the transport is to change
it back if it was not set before. -/
theorem Transport.adopt_cases (d : Descriptor) (h : Host) (p : EndId) :
    (∃ e h', adopt d h = (.error e, h') ∧ h.KeepsMode p h') ∨
    (∃ h', adopt d h = (.ok { descriptor := d, restores := false }, h') ∧ h.KeepsMode p h') ∨
    (∃ h', adopt d h = (.ok { descriptor := d, restores := true }, h') ∧ h.Uncleared p h' ∧
      h.isNonblocking d.endId = false ∧ h'.isNonblocking p =
        if p = d.endId ∧ (h'.linkEnd? p).isSome then true else h.isNonblocking p) := by
  have asked := h.keepsMode_getMode d p
  have same := (h.releases_getMode d fun _ => False).ends
  have answers : ∀ mode mid, h.getMode d = (.ok mode, mid) → h.isNonblocking d.endId = mode := by
    intro mode mid answer
    rw [← isNonblocking_congr (same d.endId id), answer]
    unfold getMode at answer
    split at answer
    · cases answer
    · cases answer
      rfl
  unfold adopt
  split
  · rename_i e h₁ failed
    rw [failed] at asked
    exact Or.inl ⟨_, _, rfl, asked.trans (Host.keepsMode_close h₁ d p)⟩
  · rename_i h₁ set
    rw [set] at asked
    exact Or.inr (Or.inl ⟨h₁, rfl, asked⟩)
  · rename_i h₁ unset
    rw [unset] at asked same
    split
    · rename_i e h₂ failed
      have kept := asked.trans (keepsMode_of_modeFault failed p).1
      exact Or.inl ⟨_, _, rfl, kept.trans (Host.keepsMode_close h₂ d p)⟩
    · rename_i h₂ done
      obtain ⟨modes, calls⟩ := setMode_done done
      have ends := h₁.linkEnd?_setMode d true p
      rw [done] at ends
      have uncleared : h₁.Uncleared p h₂ := .of_record _ (by simp [Call.clears]) calls
      refine Or.inr (Or.inr ⟨h₂, rfl, asked.uncleared.trans uncleared, answers false h₁ unset, ?_⟩)
      have present : (h₂.linkEnd? p).isSome = (h₁.linkEnd? p).isSome := by
        rw [ends]
        split
        · exact Option.isSome_map
        · rfl
      rw [modes p, present, asked.mode]

namespace Endpoint

variable {ep ep' : Endpoint}

/-- What a use of an endpoint does to the mode of an end: it counts for as much more
as the endpoint has to change back, and only an endpoint that has changed it puts the
end into blocking mode. -/
structure Accounts (p : EndId) (ep : Endpoint) (h : Host) (ep' : Endpoint) (h' : Host) : Prop where
  balance : (h'.isNonblocking p).toNat + (ep.restores p).toNat =
    (h.isNonblocking p).toNat + (ep'.restores p).toNat
  uncleared : ep.restores p = false → h.Uncleared p h'

theorem Accounts.of_keeps (kept : h.KeepsMode p h') (same : ep'.restores p = ep.restores p) :
    ep.Accounts p h ep' h' :=
  ⟨by rw [kept.mode, same], fun _ => kept.uncleared⟩

theorem Accounts.after {mid : Host} (accounts : ep.Accounts p mid ep' h')
    (kept : h.KeepsMode p mid) : ep.Accounts p h ep' h' :=
  ⟨by rw [← kept.mode]; exact accounts.balance, fun owes =>
    kept.uncleared.trans (accounts.uncleared owes)⟩

/-- What an endpoint owes is all that matters about it. -/
theorem Accounts.congr {before : Endpoint} (accounts : ep.Accounts p h ep' h')
    (same : before.restores p = ep.restores p) : before.Accounts p h ep' h' :=
  ⟨by rw [same]; exact accounts.balance, by rw [same]; exact accounts.uncleared⟩

theorem accounts_attach {reads writes : Bool} {result : Except IoError Unit}
    (attached : ep.attach d reads writes h = (result, ep', h')) (closed : ep.connection = none)
    (present : ∀ c, ep'.connection = some c → c.transport.descriptor.endId = p →
      (h'.linkEnd? p).isSome) : ep.Accounts p h ep' h' := by
  have owed := restores_of_closed closed p
  rcases Transport.adopt_cases d h p with
    ⟨e, mid, failed, kept⟩ | ⟨mid, adopted, kept⟩ | ⟨mid, adopted, uncleared, blocking, mode⟩
  · simp only [attach, failed] at attached
    cases attached
    exact .of_keeps kept rfl
  · simp only [attach, adopted] at attached
    cases attached
    exact .of_keeps kept (by rw [owed]; rfl)
  · simp only [attach, adopted] at attached
    cases attached
    refine ⟨?_, fun _ => uncleared⟩
    rw [owed, mode]
    by_cases near : d.endId = p
    · subst near
      have there := present _ rfl rfl
      simp [restores, there, blocking]
    · rw [if_neg fun both => near both.1.symm]
      simp [restores, near]

theorem close_connected {c : Connection} (connected : ep.connection = some c) (h : Host) :
    ∃ events, (ep.close h).2 =
      (c.transport.close { (ep.unbind h).2 with events }).log (.closed ep.name) := by
  have unbound := ep.unbind_fst h
  unfold close
  generalize ep.unbind h = step at *
  obtain ⟨mid, h₁⟩ := step
  subst unbound
  obtain ⟨events, shut⟩ := c.shutdown_eq h₁
  refine ⟨events, ?_⟩
  simp only [connected, shut]

theorem close_unconnected (closed : ep.connection = none) (h : Host) :
    (ep.close h).2 = (ep.unbind h).2 := by
  have unbound := ep.unbind_fst h
  unfold close
  generalize ep.unbind h = step at *
  obtain ⟨mid, h₁⟩ := step
  subst unbound
  simp only [closed]

/-- Closing an endpoint changes back the mode that it has set. -/
theorem accounts_close (ep : Endpoint) (h : Host)
    (set : ep.restores p = true → h.isNonblocking p = true)
    (sets : ep.restores p = true → h.SetsModes (ep.close h).2) :
    ep.Accounts p h (ep.close h).1 (ep.close h).2 := by
  have closed : (ep.close h).1.restores p = false :=
    restores_of_closed (by rw [close_fst]) p
  have kept := ep.keepsMode_unbind h p
  cases connected : ep.connection with
  | none =>
    rw [close_unconnected connected]
    exact .of_keeps kept (closed.trans (restores_of_closed connected p).symm)
  | some c =>
    obtain ⟨events, shut⟩ := close_connected connected h
    have logged : h.KeepsMode p { (ep.unbind h).2 with events } :=
      kept.trans (.of_frame rfl rfl rfl)
    have owed : ep.restores p =
        (c.transport.restores && decide (c.transport.descriptor.endId = p)) := by
      rw [restores, connected]
    cases owes : ep.restores p with
    | true =>
      rw [owes] at owed
      obtain ⟨restores, near⟩ := Bool.and_eq_true_iff.mp owed.symm
      have near := of_decide_eq_true near
      subst near
      generalize released : { (ep.unbind h).2 with events } = mid at *
      have early : h.calls <:+ mid.calls := logged.uncleared.suffix
      have late := (c.transport.releases_close mid).quiet.calls_suffix
      have sets' := sets owes
      rw [shut] at sets' ⊢
      have blocking : (c.transport.close mid).isNonblocking c.transport.descriptor.endId = false :=
        c.transport.blocking_of_close restores (sets'.after early late)
      refine ⟨?_, by simp [owes]⟩
      have cleared : ((c.transport.close mid).log (.closed ep.name)).isNonblocking
          c.transport.descriptor.endId = false := blocking
      rw [cleared, closed, owes, set owes]
      rfl
    | false =>
      have other : c.transport.restores = true → c.transport.descriptor.endId ≠ p := by
        rw [owes] at owed
        simpa using owed
      have kept' := (logged.trans (c.transport.keepsMode_close _ other)).log (.closed ep.name)
      rw [shut]
      exact .of_keeps kept' (closed.trans owes.symm)

theorem accounts_giveUp (ep : Endpoint) (errors : List IoError) (h : Host)
    (set : ep.restores p = true → h.isNonblocking p = true)
    (sets : ep.restores p = true → h.SetsModes (ep.giveUp errors h).2) :
    ep.Accounts p h (ep.giveUp errors h).1 (ep.giveUp errors h).2 := by
  obtain ⟨events, logged⟩ := logAll_eq errors (.transferFailed ep.name) h
  have kept : h.KeepsMode p (errors.foldl (fun h e => h.log (.transferFailed ep.name e)) h) := by
    rw [logged]
    exact .of_frame rfl rfl rfl
  have late := (ep.releases_close
    (errors.foldl (fun h e => h.log (.transferFailed ep.name e)) h)).quiet.calls_suffix
  refine (ep.accounts_close _ (fun owes => ?_) fun owes => ?_).after kept
  · rw [kept.mode, set owes]
  · exact (sets owes).after kept.uncleared.suffix late

theorem accounts_connect {path : Bytes} {result : Except SetupError Unit}
    (apart : h.isNonblocking p = true → h.linkPlan.name ≠ p.link)
    (run : ep.connect path h = .ok (result, ep') h')
    (present : ∀ c, ep'.connection = some c → c.transport.descriptor.endId = p →
      (h'.linkEnd? p).isSome) : ep.Accounts p h ep' h' := by
  obtain ⟨closed, connecting⟩ := connecting_of_ok run
  have kept := keepsMode_connect path apart
  cases connecting with
  | refused connects =>
    rw [connects] at kept
    exact .of_keeps kept rfl
  | opened connects attached =>
    rw [connects] at kept
    exact ((accounts_attach attached closed present).after (kept.log _)).congr rfl

theorem accounts_adopt {direction : Direction} {name : String} {result : Except SetupError Unit}
    (run : ep.adopt d direction name h = .ok (result, ep') h')
    (present : ∀ c, ep'.connection = some c → c.transport.descriptor.endId = p →
      (h'.linkEnd? p).isSome) : ep.Accounts p h ep' h' := by
  obtain ⟨closed, _, _, attached⟩ := attach_of_adopt run
  have kept : h.KeepsMode p (h.log (.adopted name direction)) := (KeepsMode.refl h p).log _
  exact ((accounts_attach attached closed present).after kept).congr rfl

theorem accounts_bind {path : Bytes} {result : Except SetupError Unit}
    (run : ep.bind path h = .ok (result, ep') h') : ep.Accounts p h ep' h' := by
  have cleared := (ep.keepsMode_unbind h p).trans
    (keepsMode_removeStaleSocket path (ep.unbind h).2 p)
  cases (binding_of_ok run).2 with
  | uncleared clears =>
    rw [clears] at cleared
    exact .of_keeps cleared rfl
  | @refused _ mid _ clears listens =>
    have listening := mid.keepsMode_listen path p
    rw [clears] at cleared
    rw [listens] at listening
    exact .of_keeps (cleared.trans listening) rfl
  | @listens _ mid _ clears listens =>
    have listening := mid.keepsMode_listen path p
    rw [clears] at cleared
    rw [listens] at listening
    exact .of_keeps ((cleared.trans listening).log _) rfl

theorem accounts_accept (spares : h.Spares p) (run : ep.accept h = .ok ep' h')
    (present : ∀ c, ep'.connection = some c → c.transport.descriptor.endId = p →
      (h'.linkEnd? p).isSome) : ep.Accounts p h ep' h' := by
  obtain ⟨closed, bound, d, mid, _, accepts, attached⟩ := attach_of_accept run
  have kept := (keepsMode_acceptWithin spares accepts).trans (ep.keepsMode_unbind mid p)
  exact ((accounts_attach attached closed present).after (kept.log _)).congr rfl

theorem accounts_service {waits waits' : WaitSet} {moved : Bool}
    (sound : ∀ c, ep.connection = some c → c.Sound)
    (run : ep.service waits h = .ok (moved, waits', ep') h')
    (set : ep.restores p = true → h.isNonblocking p = true)
    (sets : ep.restores p = true → h.SetsModes h') : ep.Accounts p h ep' h' := by
  cases connected : ep.connection with
  | none =>
    rw [service_closed waits connected] at run
    cases run
    exact .of_keeps (.refl h p) rfl
  | some c =>
    have ticked := c.ticked (q := ep.queues) (h := h) (sound c connected)
    have kept := ticked.keepsMode p
    have served := served_of_run connected (sound c connected) run
    have owed : (ep.ticked (c.tick ep.queues h)).restores p = ep.restores p := by
      simp only [restores, Endpoint.ticked, connected, ticked.restores, ticked.descriptor]
    generalize c.tick ep.queues h = t at *
    cases served with
    | kept read written => exact .of_keeps kept owed
    | failed errors _ =>
      have late := ((ep.ticked t).releases_giveUp errors t.host).quiet.calls_suffix
      refine (((ep.ticked t).accounts_giveUp errors t.host (fun owes => ?_) fun owes => ?_).after
        kept).congr owed.symm
      · rw [kept.mode, set (owed ▸ owes)]
      · exact (sets (owed ▸ owes)).after kept.uncleared.suffix late

/-- Whatever is done with an endpoint, the mode of an end and what is to be changed
back stay in balance. -/
theorem perform_accounts {config : PipeConfig} (orderly : ep.Orderly config) (use : Use)
    (spares : h.Spares p) (apart : h.isNonblocking p = true → h.linkPlan.name ≠ p.link)
    (set : ep.restores p = true → h.isNonblocking p = true)
    (run : ep.perform use h = .ok ep' h')
    (present : ∀ c, ep'.connection = some c → c.transport.descriptor.endId = p →
      (h'.linkEnd? p).isSome)
    (sets : ep.restores p = true → h.SetsModes h') : ep.Accounts p h ep' h' := by
  cases use with
  | write | read | readAll | peek | setReadBufferSize =>
    cases run
    exact .of_keeps (.refl h p) rfl
  | writeImmediately data =>
    obtain ⟨_, mid, writes, last⟩ := Action.bind_ok.mp run
    cases last
    exact .of_keeps (keepsMode_writeImmediately spares writes) rfl
  | service waits =>
    obtain ⟨⟨moved, waits', served⟩, mid, run, last⟩ := Action.bind_ok.mp run
    cases last
    exact accounts_service orderly.sound run set sets
  | close =>
    have accounts := ep.accounts_close h set
    rw [Action.call_ok.mp run] at accounts
    exact accounts sets
  | connect path =>
    obtain ⟨⟨result, made⟩, mid, run, last⟩ := Action.bind_ok.mp run
    cases last
    exact accounts_connect apart run present
  | bind path =>
    obtain ⟨⟨result, made⟩, mid, run, last⟩ := Action.bind_ok.mp run
    cases last
    exact accounts_bind run
  | accept => exact accounts_accept spares run present
  | adopt d direction name =>
    obtain ⟨⟨result, made⟩, mid, run, last⟩ := Action.bind_ok.mp run
    cases last
    exact accounts_adopt run present

end Endpoint

end LocalPipe
