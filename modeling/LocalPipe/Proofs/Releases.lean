import LocalPipe.Endpoint.Service
import LocalPipe.Proofs.EndViews

namespace LocalPipe

/-- Whether a call is one that moves bytes. -/
def Call.isTransfer : Call → Bool
  | .read _ _ _ | .write _ _ _ => true
  | _ => false

/-- Whether a call is one that lets go of something. -/
def Call.isRelease : Call → Bool
  | .setMode _ _ | .modeFault _ _ _ | .close _ | .closeListener _ => true
  | _ => false

namespace Host

/-- Nothing was read and nothing was written in between. -/
def Quiet (h h' : Host) : Prop :=
  ∃ later, h'.calls = later ++ h.calls ∧ ∀ call ∈ later, call.isTransfer = false

variable {h h' h'' : Host} {d : Descriptor} {p : EndId}

theorem Quiet.of_calls (same : h'.calls = h.calls) : h.Quiet h' :=
  Makes.of_calls same

theorem Quiet.refl (h : Host) : h.Quiet h :=
  .of_calls rfl

theorem Quiet.trans (first : h.Quiet h') (second : h'.Quiet h'') : h.Quiet h'' :=
  Makes.trans first second

theorem Quiet.of_record (call : Call) (still : call.isTransfer = false)
    (calls : h'.calls = call :: h.calls) : h.Quiet h' :=
  Makes.of_record call still calls

theorem Quiet.calls_suffix (quiet : h.Quiet h') : h.calls <:+ h'.calls :=
  Makes.calls_suffix quiet

theorem Quiet.inbound_eq (quiet : h.Quiet h') (d : Descriptor) :
    inbound d h'.calls = inbound d h.calls := by
  obtain ⟨later, calls, still⟩ := quiet
  have nothing : inbound d later = [] := by
    simp only [inbound, List.flatMap_eq_nil_iff, List.mem_reverse]
    intro call member
    have := still call member
    cases call <;> simp_all [Call.isTransfer, Call.inbound]
  rw [calls, inbound_append, nothing, List.append_nil]

theorem Quiet.outbound_eq (quiet : h.Quiet h') (d : Descriptor) :
    outbound d h'.calls = outbound d h.calls := by
  obtain ⟨later, calls, still⟩ := quiet
  have nothing : outbound d later = [] := by
    simp only [outbound, List.flatMap_eq_nil_iff, List.mem_reverse]
    intro call member
    have := still call member
    cases call <;> simp_all [Call.isTransfer, Call.outbound]
  rw [calls, outbound_append, nothing, List.append_nil]

/-- Only calls that let go of something were made in between. -/
def LetsGo (h h' : Host) : Prop :=
  ∃ later, h'.calls = later ++ h.calls ∧ ∀ call ∈ later, call.isRelease = true

theorem LetsGo.of_calls (same : h'.calls = h.calls) : h.LetsGo h' :=
  Makes.of_calls same

theorem LetsGo.of_record (call : Call) (release : call.isRelease = true)
    (calls : h'.calls = call :: h.calls) : h.LetsGo h' :=
  Makes.of_record call release calls

theorem LetsGo.trans (first : h.LetsGo h') (second : h'.LetsGo h'') : h.LetsGo h'' :=
  Makes.trans first second

theorem LetsGo.quiet (letsGo : h.LetsGo h') : h.Quiet h' := by
  refine Makes.mono letsGo fun call release => ?_
  cases call <;> simp_all [Call.isRelease, Call.isTransfer]

theorem LetsGo.posted_eq (letsGo : h.LetsGo h') (p : EndId) :
    posted p h'.calls = posted p h.calls := by
  obtain ⟨later, calls, releases⟩ := letsGo
  have nothing : posted p later = [] := by
    simp only [posted, List.flatMap_eq_nil_iff, List.mem_reverse]
    intro call member
    have := releases call member
    cases call <;> simp_all [Call.isRelease, Call.posted]
  rw [calls, posted_append, nothing, List.append_nil]

/-- Some listener has a link by this name that nobody has accepted yet. -/
def IsWaiting (h : Host) (name : String) : Prop :=
  ∃ listener names, h.listeners.get? listener = some names ∧ name ∈ names

/-- An outcome that is met is no longer ahead. -/
theorem outcomesAhead_takeFault (h : Host) (point point' : FaultPoint) :
    (h.takeFault point).2.outcomesAhead point' <:+ h.outcomesAhead point' := by
  unfold takeFault
  split
  · rename_i outcome rest ahead
    by_cases same : point = point'
    · subst same
      simp [outcomesAhead, ahead]
    · simp [outcomesAhead, Table.get?_set_of_ne _ _ same]
  · exact List.suffix_rfl

theorem linkEnd?_takeFault (h : Host) (point : FaultPoint) (p : EndId) :
    (h.takeFault point).2.linkEnd? p = h.linkEnd? p :=
  linkEnd?_congr (by rw [links_takeFault])

/-- An end in another mode. -/
def withMode (h : Host) (p : EndId) (nonblocking : Bool) : Host :=
  match h.linkEnd? p with
  | some linkEnd => h.setEnd p { linkEnd with nonblocking }
  | none => h

theorem linkEnd?_withMode (h : Host) (p p' : EndId) (nonblocking : Bool) :
    (h.withMode p nonblocking).linkEnd? p' =
      if p' = p then (h.linkEnd? p').map fun linkEnd => { linkEnd with nonblocking }
      else h.linkEnd? p' := by
  unfold withMode
  split
  · rename_i linkEnd present
    rw [linkEnd?_setEnd]
    by_cases same : p' = p
    · subst same
      simp [present]
    · rw [if_neg same, if_neg same]
  · rename_i missing
    by_cases same : p' = p
    · subst same
      simp [missing]
    · rw [if_neg same]

theorem setMode_eq (h : Host) (d : Descriptor) (nonblocking : Bool) :
    h.setMode d nonblocking = match h.takeFault .setFlags with
      | (some e, h) => (.error e, h.record (.modeFault .setFlags d e))
      | (none, h) =>
        (.ok (), (h.withMode d.endId nonblocking).record (.setMode d nonblocking)) :=
  rfl

/-- Changing a mode changes nothing else about the end. -/
theorem linkEnd?_setMode (h : Host) (d : Descriptor) (nonblocking : Bool) (p : EndId) :
    (h.setMode d nonblocking).2.linkEnd? p =
      if p = d.endId ∧ (h.setMode d nonblocking).1.isOk then
        (h.linkEnd? p).map fun linkEnd => { linkEnd with nonblocking }
      else h.linkEnd? p := by
  have taken := h.linkEnd?_takeFault .setFlags
  unfold setMode
  split
  · rename_i e h' fault
    rw [fault] at taken
    rw [if_neg (by simp [Except.isOk, Except.toBool])]
    exact taken p
  · rename_i h' fault
    rw [fault] at taken
    have changed := h'.linkEnd?_withMode d.endId p nonblocking
    rw [← taken p]
    simp only [Except.isOk, Except.toBool, and_true]
    exact changed

/-- Changing a mode moves no bytes. -/
theorem buffer_setMode (h : Host) (d : Descriptor) (nonblocking : Bool) (p : EndId) :
    (h.setMode d nonblocking).2.buffer p = h.buffer p := by
  rw [buffer, buffer, linkEnd?_setMode]
  by_cases changes : p = d.endId ∧ (h.setMode d nonblocking).1.isOk
  · rw [if_pos changes]
    cases h.linkEnd? p <;> rfl
  · rw [if_neg changes]

/-- A step that only lets go of things leaves all ends alone but its own, lets
no link wait that did not, meets only outcomes that were set before, and changes
no appointment. -/
structure Releases (h : Host) (own : EndId → Prop) (h' : Host) : Prop where
  calls : h.LetsGo h'
  ends : ∀ p, ¬ own p → h'.linkEnd? p = h.linkEnd? p
  waiting : ∀ name, h'.IsWaiting name → h.IsWaiting name
  outcomes : ∀ point, h'.outcomesAhead point <:+ h.outcomesAhead point
  appointments : h'.appointments = h.appointments

variable {own own' : EndId → Prop}

/-- A step that only lets go of things moves no bytes. -/
theorem Releases.quiet (releases : h.Releases own h') : h.Quiet h' :=
  releases.calls.quiet

theorem Releases.refl (h : Host) (own : EndId → Prop) : h.Releases own h :=
  ⟨.of_calls rfl, fun _ _ => rfl, fun _ waits => waits, fun _ => List.suffix_rfl, rfl⟩

theorem Releases.trans (first : h.Releases own h') (second : h'.Releases own h'') :
    h.Releases own h'' where
  calls := first.calls.trans second.calls
  ends p away := (second.ends p away).trans (first.ends p away)
  waiting name waits := first.waiting name (second.waiting name waits)
  outcomes point := (second.outcomes point).trans (first.outcomes point)
  appointments := second.appointments.trans first.appointments

theorem Releases.mono (releases : h.Releases own h') (wider : ∀ p, own p → own' p) :
    h.Releases own' h' where
  calls := releases.calls
  ends p away := releases.ends p fun owned => away (wider p owned)
  waiting := releases.waiting
  outcomes := releases.outcomes
  appointments := releases.appointments

theorem Releases.of_frame (calls : h.LetsGo h') (links : h'.links = h.links)
    (listeners : h'.listeners = h.listeners) (callFaults : h'.callFaults = h.callFaults)
    (appointments : h'.appointments = h.appointments) : h.Releases own h' := by
  refine ⟨calls, fun p _ => linkEnd?_congr (by rw [links]), fun name waits => ?_, fun point => ?_,
    appointments⟩
  · rw [IsWaiting, listeners] at waits
    exact waits
  · rw [outcomesAhead, callFaults]
    exact List.suffix_rfl

theorem releases_log (h : Host) (own : EndId → Prop) (event : LogEvent) :
    h.Releases own (h.log event) :=
  .of_frame (.of_calls rfl) rfl rfl rfl rfl

theorem releases_setEnd (h : Host) (p : EndId) (linkEnd : LinkEnd) :
    h.Releases (· = p) (h.setEnd p linkEnd) := by
  refine ⟨.of_calls (by simp), fun p' other => ?_, fun name waits => ?_, fun point => ?_, by simp⟩
  · rw [linkEnd?_setEnd, if_neg other]
  · rwa [IsWaiting, listeners_setEnd] at waits
  · rw [outcomesAhead, callFaults_setEnd]
    exact List.suffix_rfl

theorem releases_closeEnd (h : Host) (p : EndId) : h.Releases (· = p) (h.closeEnd p) := by
  unfold closeEnd
  split
  · exact releases_setEnd ..
  · exact .refl ..

theorem releases_close (h : Host) (d : Descriptor) : h.Releases (· = d.endId) (h.close d) := by
  have recorded : h.Releases (· = d.endId)
      { h.record (.close d) with descriptors := h.descriptors.erase d } :=
    .of_frame (.of_record (.close d) rfl rfl) rfl rfl rfl rfl
  unfold close
  dsimp only
  split
  · exact recorded
  · exact recorded.trans (releases_closeEnd ..)

theorem releases_takeFault (h : Host) (own : EndId → Prop) (point : FaultPoint) :
    h.Releases own (h.takeFault point).2 := by
  refine ⟨.of_calls ?_, fun p _ => linkEnd?_takeFault h point p, fun name waits => ?_,
    h.outcomesAhead_takeFault point, h.appointments_takeFault point⟩
  · rw [takeFault_frame]
  · rw [takeFault_frame] at waits
    exact waits

theorem releases_withMode (h : Host) (p : EndId) (nonblocking : Bool) :
    h.Releases (· = p) (h.withMode p nonblocking) := by
  unfold withMode
  split
  · exact releases_setEnd ..
  · exact .refl ..

theorem releases_setMode (h : Host) (d : Descriptor) (nonblocking : Bool) :
    h.Releases (· = d.endId) (h.setMode d nonblocking).2 := by
  have taken := h.releases_takeFault (· = d.endId) .setFlags
  unfold setMode
  split
  · rename_i e h' fault
    rw [fault] at taken
    exact taken.trans (.of_frame (.of_record (.modeFault .setFlags d e) rfl rfl) rfl rfl rfl rfl)
  · rename_i h' fault
    rw [fault] at taken
    have changed := h'.releases_withMode d.endId nonblocking
    exact (taken.trans changed).trans
      (.of_frame (.of_record (.setMode d nonblocking) rfl rfl) rfl rfl rfl rfl)

/-- Dropping a listener closes the far ends of the links that wait at it. -/
theorem releases_dropListener (h : Host) (listener : Nat) :
    h.Releases (fun p => h.IsWaiting p.link) (h.dropListener listener) := by
  have closes : ∀ (names : List String) (own : EndId → Prop) (h' : Host),
      (∀ name ∈ names, own ⟨name, .b⟩) →
      h'.Releases own (names.foldl (fun h name => h.closeEnd ⟨name, .b⟩) h') := by
    intro names own
    induction names with
    | nil => exact fun h' _ => .refl h' own
    | cons name rest ih =>
      intro h' owned
      refine Releases.trans ((releases_closeEnd h' ⟨name, .b⟩).mono ?_) (ih _ ?_)
      · rintro p rfl
        exact owned name (by simp)
      · exact fun name' member => owned name' (List.mem_cons_of_mem _ member)
  have erased : h.Releases (fun p => h.IsWaiting p.link)
      { h with listeners := h.listeners.erase listener } := by
    refine ⟨.of_calls rfl, fun _ _ => rfl, ?_, fun _ => List.suffix_rfl, rfl⟩
    rintro name ⟨listener', names, waits, member⟩
    by_cases same : listener = listener'
    · subst same
      simp at waits
    · rw [Table.get?_erase_of_ne _ same] at waits
      exact ⟨listener', names, waits, member⟩
  refine erased.trans (closes _ _ _ fun name member => ?_)
  cases present : h.listeners.get? listener with
  | none => simp [present] at member
  | some names => exact ⟨listener, names, present, by simpa [present] using member⟩

theorem releases_unlink (h : Host) (path : Bytes) (own : EndId → Prop) :
    h.Releases own (h.unlink path).2 := by
  have taken := h.releases_takeFault own .unlink
  unfold unlink
  split
  · rename_i fault
    rw [fault] at taken
    exact taken
  · rename_i fault
    rw [fault] at taken
    split
    · exact taken.trans (.of_frame (.of_calls rfl) rfl rfl rfl rfl)
    · exact taken

end Host

open Host

/-- Closing a transport touches no end but that of its descriptor. -/
theorem Transport.releases_close (t : Transport) (h : Host) :
    h.Releases (· = t.descriptor.endId) (t.close h) := by
  have mode := h.releases_setMode t.descriptor false
  unfold Transport.close
  split
  · split
    · rename_i e h' answer
      rw [answer] at mode
      exact (mode.trans (releases_log ..)).trans (Host.releases_close ..)
    · rename_i h' answer
      rw [answer] at mode
      exact mode.trans (Host.releases_close ..)
  · exact Host.releases_close ..

theorem Worker.drain_frame (w : Worker) (direction : Direction) (t : Transport) (h : Host) :
    (w.drain direction t h).2.1.descriptor = t.descriptor ∧
      (w.drain direction t h).2.1.restores = t.restores ∧
      ∃ events, (w.drain direction t h).2.2 = { h with events } := by
  unfold Worker.drain
  split
  · simp only [Transport.drain]
    split
    · exact ⟨rfl, rfl, h.events, rfl⟩
    · cases direction <;> exact ⟨rfl, rfl, _, rfl⟩
  · exact ⟨rfl, rfl, h.events, rfl⟩

/-- Closing a transport depends on its descriptor and on the mode to give
back. -/
theorem Transport.close_congr {t t' : Transport} (descriptor : t'.descriptor = t.descriptor)
    (restores : t'.restores = t.restores) (h : Host) : t'.close h = t.close h := by
  rw [Transport.close, Transport.close, descriptor, restores]

/-- A shutdown logs what is given up and closes the transport. -/
theorem Connection.shutdown_eq (c : Connection) (h : Host) :
    ∃ events, c.shutdown h = c.transport.close { h with events } := by
  obtain ⟨t, reader, writer⟩ := c
  cases reader with
  | none =>
    cases writer with
    | none => exact ⟨h.events, Transport.close_congr rfl rfl h⟩
    | some w =>
      obtain ⟨descriptor, restores, events, host⟩ := w.drain_frame .write t.cancel h
      refine ⟨events, ?_⟩
      rw [← host]
      exact Transport.close_congr descriptor restores _
  | some w =>
    obtain ⟨descriptor, restores, events, host⟩ := w.drain_frame .read t.cancel h
    cases writer with
    | none =>
      refine ⟨events, ?_⟩
      rw [← host]
      exact Transport.close_congr descriptor restores _
    | some w' =>
      obtain ⟨descriptor', restores', events', host'⟩ := w'.drain_frame .write
        (w.drain .read t.cancel h).2.1 (w.drain .read t.cancel h).2.2
      have logged := host'.trans (by rw [host] : _ = { h with events := events' })
      refine ⟨events', ?_⟩
      rw [← logged]
      exact Transport.close_congr (descriptor'.trans descriptor) (restores'.trans restores) _

theorem Connection.releases_shutdown (c : Connection) (h : Host) :
    h.Releases (· = c.transport.descriptor.endId) (c.shutdown h) := by
  obtain ⟨events, shut⟩ := c.shutdown_eq h
  have logged : h.Releases (· = c.transport.descriptor.endId) { h with events } :=
    .of_frame (.of_calls rfl) rfl rfl rfl rfl
  rw [shut]
  exact logged.trans (c.transport.releases_close _)

theorem Host.logAll_eq (errors : List IoError) (event : IoError → LogEvent) (h : Host) :
    ∃ events, errors.foldl (fun h e => h.log (event e)) h = { h with events } := by
  induction errors generalizing h with
  | nil => exact ⟨h.events, rfl⟩
  | cons e rest ih => exact ih (h.log (event e))

namespace Endpoint

theorem releases_unbind (ep : Endpoint) (h : Host) :
    h.Releases (fun p => ep.listener ≠ none ∧ h.IsWaiting p.link) (ep.unbind h).2 := by
  unfold unbind
  split
  · exact .refl ..
  · rename_i bound listening
    have closed : h.Releases (fun p => h.IsWaiting p.link) (h.closeListener bound.listener) :=
      (h.releases_dropListener bound.listener).trans
        (.of_frame (.of_record (.closeListener bound.listener) rfl rfl) rfl rfl rfl rfl)
    have unlinked := closed.trans (Host.releases_unlink _ bound.path _)
    suffices released : h.Releases (fun p => h.IsWaiting p.link) _ from
      released.mono fun p waits => ⟨by simp [listening], waits⟩
    split
    · rename_i h' answer
      rw [answer] at unlinked
      exact unlinked
    · rename_i e h' answer
      rw [answer] at unlinked
      exact unlinked.trans (releases_log ..)

theorem unbind_fst (ep : Endpoint) (h : Host) : (ep.unbind h).1 = { ep with listener := none } := by
  unfold unbind
  split
  · rename_i unbound
    rw [← unbound]
  · split <;> rfl

/-- The ends that a closing endpoint may act on: that of its descriptor, and
those of links that wait to be accepted, if it listens. -/
def Owns (ep : Endpoint) (h : Host) (p : EndId) : Prop :=
  (∃ c, ep.connection = some c ∧ p = c.transport.descriptor.endId) ∨
    ep.listener ≠ none ∧ h.IsWaiting p.link

theorem close_fst (ep : Endpoint) (h : Host) :
    (ep.close h).1 = { ep with listener := none, connection := none } := by
  have unbound := ep.unbind_fst h
  unfold close
  generalize ep.unbind h = step at *
  obtain ⟨ep', h'⟩ := step
  subst unbound
  dsimp only
  split
  · rename_i missing
    rw [← missing]
  · rfl

theorem releases_close (ep : Endpoint) (h : Host) : h.Releases (ep.Owns h) (ep.close h).2 := by
  have unbound := ep.unbind_fst h
  have released : h.Releases (ep.Owns h) (ep.unbind h).2 :=
    (ep.releases_unbind h).mono fun _ waits => Or.inr waits
  unfold close
  generalize ep.unbind h = step at *
  obtain ⟨ep', h'⟩ := step
  subst unbound
  dsimp only
  split
  · exact released
  · rename_i c connected
    have shut : h'.Releases (ep.Owns h) (c.shutdown h') :=
      (c.releases_shutdown h').mono fun p own => Or.inl ⟨c, connected, own⟩
    exact (released.trans shut).trans (releases_log ..)

theorem giveUp_fst (ep : Endpoint) (errors : List IoError) (h : Host) :
    (ep.giveUp errors h).1 = { ep with listener := none, connection := none } := by
  rw [giveUp, close_fst]

theorem releases_logAll (errors : List IoError) (event : IoError → LogEvent) (own : EndId → Prop)
    (h : Host) : h.Releases own (errors.foldl (fun h e => h.log (event e)) h) := by
  obtain ⟨events, logged⟩ := logAll_eq errors event h
  rw [logged]
  exact .of_frame (.of_calls rfl) rfl rfl rfl rfl

theorem releases_giveUp (ep : Endpoint) (errors : List IoError) (h : Host) :
    h.Releases (ep.Owns h) (ep.giveUp errors h).2 := by
  have logged := releases_logAll errors (.transferFailed ep.name) (ep.Owns h) h
  refine logged.trans ((ep.releases_close _).mono fun p own => ?_)
  rcases own with near | ⟨listening, waits⟩
  · exact Or.inl near
  · exact Or.inr ⟨listening, logged.waiting p.link waits⟩

end Endpoint

end LocalPipe
