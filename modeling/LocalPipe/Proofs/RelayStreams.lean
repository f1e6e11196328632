import LocalPipe.Proofs.RelayLines

namespace LocalPipe

open Host

variable {earlier later : List Call} {h h' : Host} {d : Descriptor} {data : Bytes}

theorem Host.since_suffix (suffix : earlier <:+ h.calls) (more : h.calls <:+ h'.calls) :
    h.since earlier <:+ h'.since earlier := by
  obtain ⟨first, calls⟩ := suffix
  obtain ⟨second, calls'⟩ := more
  have all : h'.calls = (second ++ first) ++ earlier := by
    rw [← calls', ← calls, List.append_assoc]
  rw [since_eq all, since_eq calls.symm]
  exact List.suffix_append _ _

/-- What more calls add to some traffic, they add to it since any earlier
moment. -/
theorem Host.grown_since {traffic : List Call → Bytes}
    (append : ∀ later earlier, traffic (later ++ earlier) = traffic earlier ++ traffic later)
    (suffix : earlier <:+ h.calls) (more : h.calls <:+ h'.calls)
    (grown : traffic h'.calls = traffic h.calls ++ data) :
    traffic (h'.since earlier) = traffic (h.since earlier) ++ data := by
  obtain ⟨first, calls⟩ := suffix
  obtain ⟨second, calls'⟩ := more
  have all : h'.calls = (second ++ first) ++ earlier := by
    rw [← calls', ← calls, List.append_assoc]
  rw [← calls', append] at grown
  rw [since_eq all, since_eq calls.symm, append, List.append_cancel_left grown]

theorem inbound_since (suffix : earlier <:+ h.calls) (more : h.calls <:+ h'.calls)
    (grown : inbound d h'.calls = inbound d h.calls ++ data) :
    inbound d (h'.since earlier) = inbound d (h.since earlier) ++ data :=
  grown_since (inbound_append d) suffix more grown

theorem outbound_since (suffix : earlier <:+ h.calls) (more : h.calls <:+ h'.calls)
    (grown : outbound d h'.calls = outbound d h.calls ++ data) :
    outbound d (h'.since earlier) = outbound d (h.since earlier) ++ data :=
  grown_since (outbound_append d) suffix more grown

theorem posted_since {p : EndId} (suffix : earlier <:+ h.calls) (more : h.calls <:+ h'.calls)
    (grown : posted p h'.calls = posted p h.calls ++ data) :
    posted p (h'.since earlier) = posted p (h.since earlier) ++ data :=
  grown_since (posted_append p) suffix more grown

theorem inbound_since_same (suffix : earlier <:+ h.calls) (more : h.calls <:+ h'.calls)
    (same : inbound d h'.calls = inbound d h.calls) :
    inbound d (h'.since earlier) = inbound d (h.since earlier) := by
  have grown := inbound_since suffix more (same.trans (List.append_nil _).symm)
  rwa [List.append_nil] at grown

theorem outbound_since_same (suffix : earlier <:+ h.calls) (more : h.calls <:+ h'.calls)
    (same : outbound d h'.calls = outbound d h.calls) :
    outbound d (h'.since earlier) = outbound d (h.since earlier) := by
  have grown := outbound_since suffix more (same.trans (List.append_nil _).symm)
  rwa [List.append_nil] at grown

theorem posted_since_same {p : EndId} (suffix : earlier <:+ h.calls) (more : h.calls <:+ h'.calls)
    (same : posted p h'.calls = posted p h.calls) :
    posted p (h'.since earlier) = posted p (h.since earlier) := by
  have grown := posted_since suffix more (same.trans (List.append_nil _).symm)
  rwa [List.append_nil] at grown

/-- The descriptors of a relay, which are three different ones. -/
structure Wiring where
  conn : Descriptor
  input : Descriptor
  output : Descriptor
  input_ne_conn : input ≠ conn
  output_ne_conn : output ≠ conn
  output_ne_input : output ≠ input

namespace Wiring

/-- What was placed on the connection is the beginning of what has come in at
the input, and what was placed on the output the beginning of what has come in
over the connection. -/
def InOrder (w : Wiring) (calls : List Call) : Prop :=
  outbound w.conn calls <+: inbound w.input calls ∧ outbound w.output calls <+: inbound w.conn calls

variable {w : Wiring}

/-- A stretch of calls is in order throughout if all that it places had come in
before it began. -/
theorem inOrder_throughout (before : ∀ later, later ++ earlier <:+ h.calls → w.InOrder later)
    (suffix : earlier <:+ h.calls) (more : h.calls <:+ h'.calls)
    (up : outbound w.conn (h'.since earlier) <+: inbound w.input (h.since earlier))
    (down : outbound w.output (h'.since earlier) <+: inbound w.conn (h.since earlier))
    (within : later ++ earlier <:+ h'.calls) : w.InOrder later := by
  -- a moment within the stretch has at least what came in before, and at most what goes out
  rcases List.suffix_or_suffix_of_suffix within more with early | late
  · exact before later early
  · obtain ⟨first, calls⟩ := suffix
    obtain ⟨rest, calls'⟩ := within
    have all : h'.calls = (rest ++ later) ++ earlier := by
      rw [← calls', List.append_assoc]
    rw [Host.since_eq all, Host.since_eq calls.symm] at up down
    rw [← calls] at late
    have known : first <:+ later := by
      obtain ⟨middle, split⟩ := late
      rw [← List.append_assoc] at split
      exact ⟨middle, List.append_cancel_right split⟩
    have here : later <:+ rest ++ later := List.suffix_append _ _
    exact ⟨((outbound_mono _ here).trans up).trans (inbound_mono _ known),
      ((outbound_mono _ here).trans down).trans (inbound_mono _ known)⟩

/-- What a relay keeps to at every moment since some earlier calls. -/
structure Carries (w : Wiring) (earlier : List Call) (t : Trio) (h : Host) : Prop where
  conn : t.conn.Holds w.conn
  source : t.source.Holds w.input
  sink : t.sink.Holds w.output
  suffix : earlier <:+ h.calls
  upward : Line (inbound w.input (h.since earlier)) (outbound w.conn (h.since earlier))
    t.source t.conn
  downward : Line (inbound w.conn (h.since earlier)) (outbound w.output (h.since earlier))
    t.conn t.sink
  inOrder : ∀ later, later ++ earlier <:+ h.calls → w.InOrder later

variable {t t' : Trio}

theorem Carries.serves {waits : WaitSet} {place : Nat} {moved : Bool}
    (carries : w.Carries earlier t h) (serves : t.Serves waits place h moved t' h') :
    w.Carries earlier t' h' := by
  obtain ⟨conn, source, sink, suffix, upward, downward, inOrder⟩ := carries
  cases serves with
  | @conn _ _ _ _ ep _ run =>
    have serviced := Endpoint.serviced conn run
    obtain ⟨data, input, taken⟩ := serviced.incoming
    obtain ⟨sent, line_up, placed⟩ := upward.serviced serviced
    have more := serviced.suffix
    have inputs := inbound_since_same suffix more (serviced.others _ w.input_ne_conn).1
    have outputs := outbound_since_same suffix more (serviced.others _ w.output_ne_conn).2
    have taken := inbound_since suffix more taken
    have placed := outbound_since suffix more placed
    have line_down := downward.receive input
    refine ⟨serviced.holds, source, sink, suffix.trans more, ?_, ?_,
      fun later => inOrder_throughout inOrder suffix more ?_ ?_⟩
    · rw [inputs, placed]
      exact line_up
    · rw [outputs, taken]
      exact line_down
    · rw [placed]
      exact line_up.placed_prefix
    · rw [outputs]
      exact downward.placed_prefix
  | source run =>
    have serviced := Endpoint.serviced source run
    obtain ⟨data, input, taken⟩ := serviced.incoming
    have more := serviced.suffix
    have taken := inbound_since suffix more taken
    have others := serviced.others w.conn (Ne.symm w.input_ne_conn)
    have placed := outbound_since_same suffix more others.2
    have received := inbound_since_same suffix more others.1
    have outputs := outbound_since_same suffix more (serviced.others _ w.output_ne_input).2
    refine ⟨conn, serviced.holds, sink, suffix.trans more, ?_, ?_,
      fun later => inOrder_throughout inOrder suffix more ?_ ?_⟩
    · rw [taken, placed]
      exact upward.receive input
    · rw [received, outputs]
      exact downward
    · rw [placed]
      exact upward.placed_prefix
    · rw [outputs]
      exact downward.placed_prefix
  | sink run =>
    have serviced := Endpoint.serviced sink run
    obtain ⟨sent, line_down, placed⟩ := downward.serviced serviced
    have more := serviced.suffix
    have placed := outbound_since suffix more placed
    have others := serviced.others w.conn (Ne.symm w.output_ne_conn)
    have received := inbound_since_same suffix more others.1
    have sent_up := outbound_since_same suffix more others.2
    have inputs := inbound_since_same suffix more (serviced.others _ (Ne.symm w.output_ne_input)).1
    refine ⟨conn, source, serviced.holds, suffix.trans more, ?_, ?_,
      fun later => inOrder_throughout inOrder suffix more ?_ ?_⟩
    · rw [inputs, sent_up]
      exact upward
    · rw [received, placed]
      exact line_down
    · rw [sent_up]
      exact upward.placed_prefix
    · rw [placed]
      exact line_down.placed_prefix

/-- Forwarding keeps both lines whole. -/
theorem Carries.forwarded (carries : w.Carries earlier t h) (limit : Nat) :
    w.Carries earlier (t.forwarded limit) h := by
  obtain ⟨conn, source, sink, suffix, upward, downward, inOrder⟩ := carries
  refine ⟨conn, source, sink, suffix, ?_, ?_, inOrder⟩
  · exact (upward.handOver limit).congr rfl rfl rfl
  · have after : Line _ _ (Trio.handOver limit t.source t.conn).2 t.sink :=
      downward.congr rfl rfl rfl
    exact after.handOver limit

theorem Carries.quiet (carries : w.Carries earlier t h) (quiet : h.Quiet h') :
    w.Carries earlier t h' := by
  obtain ⟨conn, source, sink, suffix, upward, downward, inOrder⟩ := carries
  have more := quiet.calls_suffix
  have inputs (d : Descriptor) := inbound_since_same suffix more (quiet.inbound_eq d)
  have outputs (d : Descriptor) := outbound_since_same suffix more (quiet.outbound_eq d)
  refine ⟨conn, source, sink, suffix.trans more, ?_, ?_,
    fun later => inOrder_throughout inOrder suffix more ?_ ?_⟩
  · rw [inputs, outputs]
    exact upward
  · rw [inputs, outputs]
    exact downward
  · rw [outputs]
    exact upward.placed_prefix
  · rw [outputs]
    exact downward.placed_prefix

theorem Carries.congr (carries : w.Carries earlier t h) (calls : h'.calls = h.calls) :
    w.Carries earlier t h' :=
  carries.quiet (.of_calls calls)

end Wiring

/-- A relay carries bytes in order at every state that it reaches. -/
theorem RelayReach.carries {config : PipeConfig} {first t : Trio} {h₀ : Host} {place : Nat}
    {exiting : Bool} {w : Wiring} (reach : RelayReach config first h₀ place exiting t h)
    (start : w.Carries earlier first h₀) : w.Carries earlier t h := by
  induction reach with
  | start => exact start
  | rest _ serves ih => exact ih.serves serves
  | move events _ serves ih => exact ((ih.serves serves).forwarded _).congr rfl
  | turn _ waits ih => exact ih.quiet waits.quiet

end LocalPipe
