import LocalPipe.Proofs.Intake

namespace LocalPipe

/-- How much a call asks to read, if it is a read. -/
def Call.asked? : Call → Option Nat
  | .read _ n _ => some n
  | _ => none

/-- Each measured read asks for a byte at least, and for no more than a transfer
carries and there is room for by then. -/
theorem Measured.asked {inlet : Option Descriptor} {size limit held n : Nat}
    {after earlier : List Call} {d : Descriptor} {result : Except Errno Bytes}
    (measured : Measured inlet size limit held (after ++ .read d n result :: earlier)) :
    1 ≤ n ∧ n ≤ min size (limit - (held + (received earlier).length)) := by
  cases measured.of_append with
  | read _ _ positive small roomy _ => exact ⟨positive, by omega⟩
  | other _ other => cases other

namespace Endpoint

/-- How an endpoint is held back by its limit during a use. By the time of a call the
input holds what it held before, and behind that what earlier calls of the use have
brought in. A read is for one byte at least, and for no more than one transfer carries
and the input has room for then. At no time does the input outgrow both the limit and
what it held before. -/
structure HeldBack (ep : Endpoint) (use : Use) (h : Host) (later : List Call) : Prop where
  calls : (Action.left (ep.perform use h)).calls = later ++ h.calls
  asked : ∀ d n result after earlier, later = after ++ .read d n result :: earlier →
    1 ≤ n ∧ n ≤ min ep.config.ioSize
      (ep.readBufferSize - (ep.queues.input ++ received earlier).length)
  full : ∀ d n result after earlier, later = after ++ .read d n result :: earlier →
    (ep.queues.input ++ received earlier).length < ep.readBufferSize
  throughout : ∀ earlier, earlier <:+ later →
    (ep.queues.input ++ received earlier).length ≤ max ep.bytesAvailable ep.readBufferSize
  served : ∀ waits ep' h', use = .service waits → ep.perform use h = .ok ep' h' →
    ep'.queues.input = ep.queues.input ++ received later ∧
      ep'.readBufferSize = ep.readBufferSize ∧
        ep'.bytesAvailable ≤ max ep.bytesAvailable ep.readBufferSize

variable {config : PipeConfig} {ep ep' : Endpoint} {h h' : Host} {use : Use} {later : List Call}

theorem Draws.length_le (draws : ep.Draws config.ioSize use h later) {earlier : List Call}
    (before : earlier <:+ later) :
    (ep.queues.input ++ received earlier).length ≤ max ep.bytesAvailable ep.readBufferSize := by
  obtain ⟨after, rfl⟩ := before
  have within := draws.measured.of_append.length_le
  rw [List.length_append]
  exact within

/-- After a use the input holds no more than before, or no more than the limit
allows. -/
theorem Draws.bytesAvailable_le (draws : ep.Draws config.ioSize use h later)
    (run : ep.perform use h = .ok ep' h') :
    ep'.bytesAvailable ≤ max ep.bytesAvailable ep.readBufferSize := by
  have within := draws.length_le List.suffix_rfl
  rw [← draws.input ep' h' run, List.length_append] at within
  exact Nat.le_trans (Nat.le_add_left _ _) within

theorem Draws.holdsBack (draws : ep.Draws config.ioSize use h later)
    (settings : ep.config = config) : ep.HeldBack use h later := by
  have asked (d : Descriptor) (n : Nat) (result : Except Errno Bytes) (after earlier : List Call)
      (split : later = after ++ .read d n result :: earlier) :
      1 ≤ n ∧ n ≤ min config.ioSize
        (ep.readBufferSize - (ep.queues.input ++ received earlier).length) := by
    have measured := draws.measured
    rw [split] at measured
    rw [List.length_append]
    exact measured.asked
  refine ⟨draws.calls, ?_, fun d n result after earlier split => ?_,
    fun earlier before => draws.length_le before, fun waits ep' h' service run => ?_⟩
  · rw [settings]
    exact asked
  · have := asked d n result after earlier split
    omega
  · subst service
    exact ⟨draws.input ep' h' run, draws.limit ep' h' run, draws.bytesAvailable_le run⟩

end Endpoint

/-- The states of an endpoint that its uses lead to, of which none sets the limit below
what the endpoint holds then. -/
inductive SparingReach (config : PipeConfig) : Endpoint → Prop
  | start : SparingReach config (.ofConfig config)
  | use {ep ep' h h'} (use : Endpoint.Use) : SparingReach config ep →
      (∀ bytes, use = .setReadBufferSize bytes → ep.bytesAvailable ≤ bytes) →
      ep.perform use h = .ok ep' h' → SparingReach config ep'

namespace SparingReach

variable {config : PipeConfig} {ep ep' : Endpoint}

theorem forget (reach : SparingReach config ep) : EndpointReach config ep := by
  induction reach with
  | start => exact .start
  | use use _ _ performed ih => exact .use use ih performed

theorem bytesAvailable_le (reach : SparingReach config ep) :
    ep.bytesAvailable ≤ ep.readBufferSize := by
  induction reach with
  | start => exact Nat.zero_le _
  | @use ep ep' h h' use before spares performed ih =>
    obtain ⟨later, draws⟩ := before.forget.orderly.draws use h
    have within := draws.bytesAvailable_le performed
    have limit := draws.limit ep' h' performed
    cases use with
    | setReadBufferSize bytes =>
      have enough := spares bytes rfl
      cases performed
      exact enough
    | _ =>
      rw [limit]
      exact Nat.le_trans within (Nat.max_le.mpr ⟨ih, Nat.le_refl _⟩)

theorem performAll {uses : List Endpoint.Use} {h h' : Host} (reach : SparingReach config ep)
    (kept : ∀ bytes, .setReadBufferSize bytes ∉ uses)
    (performed : Endpoint.performAll uses ep h = some (ep', h')) : SparingReach config ep' := by
  induction uses generalizing ep h with
  | nil =>
    cases performed
    exact reach
  | cons use rest ih =>
    have sets_nothing (bytes : Nat) (same : use = .setReadBufferSize bytes) :
        ep.bytesAvailable ≤ bytes := absurd (by simp [same]) (kept bytes)
    unfold Endpoint.performAll at performed
    split at performed
    · rename_i done
      exact ih (.use use reach sets_nothing done)
        (fun bytes member => kept bytes (List.mem_cons_of_mem _ member)) performed
    · cases performed

end SparingReach

/-- Whatever the limit is set to and whenever, every use is held back by the limit
that is in force. Where the limit was never set below what the endpoint held, the
endpoint never holds more than the limit. -/
theorem EndpointReach.heldBack {config : PipeConfig} {ep : Endpoint}
    (reach : EndpointReach config ep) :
    (∀ use h, ∃ later, ep.HeldBack use h later) ∧
      (SparingReach config ep → ep.bytesAvailable ≤ ep.readBufferSize) := by
  refine ⟨fun use h => ?_, SparingReach.bytesAvailable_le⟩
  obtain ⟨later, draws⟩ := reach.orderly.draws use h
  exact ⟨later, draws.holdsBack reach.orderly.settings⟩

/-- A host with a link on which two bytes wait. -/
def trickling : Host :=
  { links := ⟨[("in", { capacity := 8, endA := { buffer := [1, 2] } })]⟩
    descriptors := [⟨0, ⟨"in", .a⟩⟩]
    nextDescriptor := 1 }

/-- With room for four bytes two are received, and a receive for two more is
outstanding. Then the limit is set to three, and two bytes come in: the receive goes
on for one of them. -/
theorem EndpointReach.heldBack_lowered : ∃ ep h later,
    SparingReach { readBufferSize := 4 } ep ∧ ep.bytesAvailable = 2 ∧ ep.readBufferSize = 3 ∧
      ep.HeldBack (.service {}) h later ∧ later.filterMap Call.asked? = [1] ∧
        ep.bytesAvailable ≤ ep.readBufferSize := by
  let uses : List Endpoint.Use := [.adopt ⟨0, ⟨"in", .a⟩⟩ .read "in", .service {}]
  let arrived (h : Host) : Host := (h.act (.send ⟨"in", .b⟩ [3, 4])).2
  have shown : (Endpoint.performAll uses (.ofConfig { readBufferSize := 4 }) trickling).map
      (fun s => (s.1.bytesAvailable,
        (Action.left ((s.1.setReadBufferSize 3).perform (.service {}) (arrived s.2))).since
          (arrived s.2).calls |>.filterMap Call.asked?)) = some (2, [1]) := by
    decide +kernel
  obtain ⟨⟨ep, h⟩, performed, shown⟩ := Option.map_eq_some_iff.mp shown
  simp only [Prod.mk.injEq] at shown
  obtain ⟨available, sizes⟩ := shown
  have before : SparingReach { readBufferSize := 4 } ep :=
    SparingReach.start.performAll (by simp [uses]) performed
  have lowered : SparingReach { readBufferSize := 4 } (ep.setReadBufferSize 3) := by
    refine .use (h := h) (.setReadBufferSize 3) before (fun bytes same => ?_) rfl
    cases same
    omega
  obtain ⟨held, within⟩ := lowered.forget.heldBack
  obtain ⟨later, heldBack⟩ := held (.service {}) (arrived h)
  rw [Host.since_eq heldBack.calls] at sizes
  exact ⟨_, _, later, lowered, available, rfl, heldBack, sizes, within lowered⟩

end LocalPipe
