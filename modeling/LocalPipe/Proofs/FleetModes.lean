import LocalPipe.Proofs.Fleet

namespace LocalPipe

open Host

variable {eps : List Endpoint} {ep ep' : Endpoint} {h₀ h h' : Host} {i : Nat} {p : EndId}

theorem owners_cons (ep : Endpoint) (eps : List Endpoint) (p : EndId) :
    owners p (ep :: eps) = owners p eps + (ep.restores p).toNat := by
  cases restoring : ep.restores p <;> simp [owners, restoring]

theorem owners_set (member : eps[i]? = some ep) (ep' : Endpoint) (p : EndId) :
    owners p (eps.set i ep') + (ep.restores p).toNat = owners p eps + (ep'.restores p).toNat := by
  induction eps generalizing i with
  | nil => simp at member
  | cons first rest ih =>
    cases i with
    | zero =>
      cases member
      rw [List.set_cons_zero, owners_cons, owners_cons]
      omega
    | succ i =>
      have counted := ih (by simpa using member)
      rw [List.set_cons_succ, owners_cons, owners_cons]
      omega

theorem owners_eraseIdx (member : eps[i]? = some ep) (p : EndId) :
    owners p (eps.eraseIdx i) + (ep.restores p).toNat = owners p eps := by
  induction eps generalizing i with
  | nil => simp at member
  | cons first rest ih =>
    cases i with
    | zero =>
      cases member
      rw [List.eraseIdx_cons_zero, owners_cons]
    | succ i =>
      have counted := ih (by simpa using member)
      rw [List.eraseIdx_cons_succ, owners_cons, owners_cons]
      omega

theorem restores_le_owners (member : ep ∈ eps) (p : EndId) :
    (ep.restores p).toNat ≤ owners p eps := by
  cases restoring : ep.restores p with
  | false => exact Nat.zero_le _
  | true => exact List.countP_pos_iff.mpr ⟨ep, member, restoring⟩

/-- The state of a fleet in which the mode of each end counts for what it was at
the start and for the endpoints that are to change it back. -/
structure FleetSound (h₀ : Host) (eps : List Endpoint) (h : Host) : Prop where
  sound : ∀ ep ∈ eps, ∀ c, ep.connection = some c → c.Sound
  free : h.ModesFree
  balance : ∀ p, (h.isNonblocking p).toNat = (h₀.isNonblocking p).toNat + owners p eps

namespace FleetSound

/-- An endpoint has changed modes only of ends that are still in the mode set. -/
theorem set (fleet : FleetSound h₀ eps h) (member : ep ∈ eps) (p : EndId)
    (restoring : ep.restores p) : h.isNonblocking p := by
  have owned := restores_le_owners member p
  have balance := fleet.balance p
  rw [restoring] at owned
  cases mode : h.isNonblocking p with
  | true => rfl
  | false =>
    simp only [mode, Bool.toNat_false, Bool.toNat_true] at balance owned
    omega

theorem turn (fleet : FleetSound h₀ eps h) (member : eps[i]? = some ep)
    (turned : ep.Turned h ep' h') : FleetSound h₀ (eps.set i ep') h' := by
  refine ⟨fun ep₁ member₁ => ?_, turned.free, fun p => ?_⟩
  · rcases List.mem_or_eq_of_mem_set member₁ with old | new
    · exact fleet.sound ep₁ old
    · rw [new]
      exact turned.sound
  · have counted := owners_set member ep' p
    have balance := fleet.balance p
    have turned := turned.balance p
    omega

end FleetSound

theorem FleetReach.fleetSound (free : h₀.ModesFree) (reach : FleetReach h₀ eps h) :
    FleetSound h₀ eps h := by
  -- each use turns one endpoint, and changes a mode only together with who is to change it back
  induction reach with
  | start => exact ⟨by simp, free, fun p => by simp [owners]⟩
  | @create eps h config _ fleet =>
    refine ⟨fun ep member => ?_, fleet.free, fun p => ?_⟩
    · rcases List.mem_append.mp member with old | new
      · exact fleet.sound ep old
      · rw [List.mem_singleton.mp new]
        simp [Endpoint.ofConfig]
    · rw [fleet.balance p]
      simp [owners, Endpoint.restores, Endpoint.ofConfig]
  | adopt _ member present run fleet =>
    exact fleet.turn member (Endpoint.turned_adopt fleet.free present run)
  | connect _ member fresh run fleet =>
    exact fleet.turn member (Endpoint.turned_connect fleet.free
      (fleet.sound _ (List.mem_of_getElem? member)) fresh run)
  | queue queues _ member fleet =>
    have sound := fleet.sound _ (List.mem_of_getElem? member)
    exact fleet.turn member ⟨sound, fleet.free, fun _ => rfl⟩
  | service _ member run fleet =>
    exact fleet.turn member (Endpoint.turned_service fleet.free
      (fleet.sound _ (List.mem_of_getElem? member)) (fleet.set (List.mem_of_getElem? member)) run)
  | @close eps h i ep _ member fleet =>
    refine fleet.turn member (Endpoint.turned_of_close ?_ (by rw [Endpoint.close_fst])
      (fleet.set (List.mem_of_getElem? member)) fun p => ep.isNonblocking_close fleet.free p)
    exact fleet.free.of_suffix (ep.releases_close h).outcomes
  | @drop eps h i ep _ member fleet =>
    have turned : ep.Turned h (ep.close h).1 (ep.close h).2 :=
      Endpoint.turned_of_close (fleet.free.of_suffix (ep.releases_close h).outcomes)
        (by rw [Endpoint.close_fst]) (fleet.set (List.mem_of_getElem? member))
        fun p => ep.isNonblocking_close fleet.free p
    refine ⟨fun ep₁ member₁ => fleet.sound ep₁ (List.mem_of_mem_eraseIdx member₁), turned.free,
      fun p => ?_⟩
    have fewer := owners_eraseIdx member p
    have balance := fleet.balance p
    have turned := turned.balance p
    have closed : (ep.close h).1.restores p = false :=
      Endpoint.restores_of_closed (by rw [Endpoint.close_fst]) p
    rw [closed, Bool.toNat_false] at turned
    omega
  | outside _ harmless fleet =>
    exact ⟨fleet.sound, modesFree_act fleet.free harmless, fun p => by
      rw [isNonblocking_act harmless, fleet.balance]⟩

namespace FleetReach

/-- The end of a connected endpoint is in non-blocking mode exactly while
somebody keeps it so: it was in that mode from the start, or an endpoint that is
to change it back is still connected. All reads and writes of a tick are made in
the mode that the tick finds. -/
theorem nonblocking_iff {c : Connection} (free : h₀.ModesFree) (reach : FleetReach h₀ eps h)
    (member : ep ∈ eps) (connected : ep.connection = some c) :
    (h.isNonblocking c.transport.descriptor.endId = true ↔
      h₀.isNonblocking c.transport.descriptor.endId = true ∨
        ∃ owner ∈ eps, owner.restores c.transport.descriptor.endId = true) ∧
    ∀ waits, ∃ answer mid h', ep.service waits h = .ok answer h' ∧
      h.TransfersIn c.transport.descriptor (h.isNonblocking c.transport.descriptor.endId) mid ∧
      mid.Quiet h' := by
  have fleet := reach.fleetSound free
  have sound := fleet.sound ep member c connected
  refine ⟨?_, fun waits => ?_⟩
  · have balance := fleet.balance c.transport.descriptor.endId
    have owned : 0 < owners c.transport.descriptor.endId eps ↔
        ∃ owner ∈ eps, owner.restores c.transport.descriptor.endId = true := List.countP_pos_iff
    rw [← owned]
    cases now : h.isNonblocking c.transport.descriptor.endId <;>
      cases before : h₀.isNonblocking c.transport.descriptor.endId <;>
      simp only [now, before, Bool.toNat_true, Bool.toNat_false] at balance <;> simp <;> omega
  · have ticked := c.ticked (q := ep.queues) (h := h) sound
    obtain ⟨transfers, _⟩ := ticked.transfersIn
    obtain ⟨answer, h', run, served⟩ := Endpoint.service_served (h := h) waits connected sound
    refine ⟨answer, (c.tick ep.queues h).host, h', run, transfers, ?_⟩
    cases served with
    | kept => exact .refl _
    | failed errors _ => exact (Endpoint.releases_giveUp _ errors _).quiet

/-- When the endpoint closes that is to change a mode back, the end is in blocking
mode, whoever else is connected to it. -/
theorem blocking_of_close (free : h₀.ModesFree) (reach : FleetReach h₀ eps h)
    (restoring : ep.restores p = true) : (ep.close h).2.isNonblocking p = false := by
  rw [ep.isNonblocking_close (reach.fleetSound free).free, restoring]
  simp

/-- A host with a terminal that nobody has opened yet. -/
def terminal : Host :=
  { links := ⟨[("tty", { capacity := 65536 })]⟩ }

theorem modesFree_terminal : terminal.ModesFree := by
  intro point _ outcome member
  cases member

/-- Input and output of one terminal, each with an endpoint of its own. -/
theorem reach_terminal : ∃ source sink h c c', FleetReach terminal [source, sink] h ∧
    source.connection = some c ∧ c.transport.descriptor.endId = ⟨"tty", .a⟩ ∧
    sink.connection = some c' ∧ c'.transport.descriptor.endId = ⟨"tty", .a⟩ ∧
    source.restores ⟨"tty", .a⟩ = true := by
  have created : FleetReach terminal [.ofConfig {}, .ofConfig {}] terminal :=
    (FleetReach.start.create {}).create {}
  have first := @FleetReach.adopt terminal _ _ _ 0 _ _ ⟨0, ⟨"tty", .a⟩⟩ .read "stdin" _ created
    rfl rfl rfl
  have second := @FleetReach.adopt terminal _ _ _ 1 _ _ ⟨1, ⟨"tty", .a⟩⟩ .write "stdout" _ first
    rfl rfl rfl
  exact ⟨_, _, _, _, _, second, rfl, rfl, rfl, rfl, rfl⟩

/-- With input and output of one terminal, the output's end is in non-blocking
mode while the input's endpoint is connected. -/
theorem nonblocking_iff_terminal : ∃ source sink h c, terminal.ModesFree ∧
    FleetReach terminal [source, sink] h ∧ sink.connection = some c ∧
    h.isNonblocking c.transport.descriptor.endId = true := by
  obtain ⟨source, sink, h, _, c, reach, _, _, connected, near, restoring⟩ := reach_terminal
  refine ⟨source, sink, h, c, modesFree_terminal, reach, connected, ?_⟩
  have member : sink ∈ [source, sink] := by simp
  refine (nonblocking_iff modesFree_terminal reach member connected).1.mpr (Or.inr ⟨source, ?_⟩)
  exact ⟨by simp, by rw [near, restoring]⟩

/-- An endpoint that closes may leave another one with an end in blocking
mode. -/
theorem not_always_nonblocking : ¬ ∀ (h₀ : Host) (eps : List Endpoint) (h : Host),
    h₀.ModesFree → FleetReach h₀ eps h → ∀ ep ∈ eps, ∀ c, ep.connection = some c →
      h.isNonblocking c.transport.descriptor.endId = true := by
  intro always
  obtain ⟨source, sink, h, _, c, reach, _, _, connected, near, restoring⟩ := reach_terminal
  have closed := reach.close (i := 0) rfl
  have nonblocking := always _ _ _ modesFree_terminal closed sink (by simp) c connected
  rw [near, blocking_of_close modesFree_terminal reach restoring] at nonblocking
  cases nonblocking

end FleetReach

end LocalPipe
