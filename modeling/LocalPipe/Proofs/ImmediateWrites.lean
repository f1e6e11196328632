import LocalPipe.Proofs.Frames
import LocalPipe.Proofs.Waits
import LocalPipe.Proofs.Serving

namespace LocalPipe

open Host

variable {d : Descriptor} {moment left : Nat} {data : Bytes} {h h' : Host}

/-- A write that waits for the host places a first part of its bytes, one after the
other, and says how many are left. -/
theorem Transport.outbound_transmitUntil
    (done : (transmitUntil d moment data h).1 = .ok left) :
    ∃ sent rest, sent ++ rest = data ∧ rest.length = left ∧
      outbound d (transmitUntil d moment data h).2.calls = outbound d h.calls ++ sent := by
  fun_induction transmitUntil d moment data h with
  | case1 h =>
    cases done
    exact ⟨[], [], rfl, rfl, by simp⟩
  | case2 => cases done
  | case3 data h _ n h' answer ih =>
    obtain ⟨sent, rest, split, length, placed⟩ := ih done
    refine ⟨data.take (n + 1) ++ sent, rest, ?_, length, ?_⟩
    · rw [List.append_assoc, split, List.take_append_drop]
    · rw [placed, outbound_write answer, acceptedOf, List.append_assoc]
  | case4 data h _ h' answer late =>
    cases done
    exact ⟨[], data, rfl, rfl, outbound_write answer⟩
  | case5 data h _ h' answer early h'' wait =>
    cases done
    have waited := (h'.waits_waitReady [.handle ⟨d, .writable⟩] (some ⟨moment - h'.now⟩)).quiet
    rw [wait] at waited
    refine ⟨[], data, rfl, rfl, ?_⟩
    rw [waited.outbound_eq, outbound_write answer, acceptedOf]
  | case6 data h _ h' answer early n h'' wait ih =>
    obtain ⟨sent, rest, split, length, placed⟩ := ih done
    have waited := (h'.waits_waitReady [.handle ⟨d, .writable⟩] (some ⟨moment - h'.now⟩)).quiet
    rw [wait] at waited
    refine ⟨sent, rest, split, length, ?_⟩
    rw [placed, waited.outbound_eq, outbound_write answer, acceptedOf, List.append_nil]
  | case7 => cases done
  | case8 data h _ h' answer ih =>
    obtain ⟨sent, rest, split, length, placed⟩ := ih done
    refine ⟨sent, rest, split, length, ?_⟩
    rw [placed, outbound_write answer, acceptedOf, List.append_nil]
  | case9 => cases done

theorem Transport.outbound_writeBlocking {t : Transport} {timeout : Duration} {n : Nat}
    (run : t.writeBlocking data timeout h = .ok (.ok n) h') :
    ∃ sent rest, sent ++ rest = data ∧ sent.length = n ∧
      outbound t.descriptor h'.calls = outbound t.descriptor h.calls ++ sent := by
  unfold writeBlocking at run
  obtain ⟨moment, mid, begins, rest⟩ := Action.bind_ok.mp run
  obtain ⟨answer, mid', calls, last⟩ := Action.bind_ok.mp rest
  obtain rfl := Action.host_of_deadline begins
  rw [Action.call_ok] at calls
  cases answer with
  | error e => cases last
  | ok left =>
    cases last
    obtain ⟨sent, rest, split, length, placed⟩ :=
      outbound_transmitUntil (congrArg Prod.fst calls)
    rw [calls] at placed
    refine ⟨sent, rest, split, ?_, placed⟩
    rw [← split]
    dsimp only
    rw [List.length_append]
    omega

/-- A write at once that returns has placed all of its bytes, behind all those that
were placed before, while no send was outstanding. -/
theorem Endpoint.writeImmediately_ok {ep : Endpoint} {a : Unit}
    (run : ep.writeImmediately data h = .ok a h') :
    ∃ c w, ep.connection = some c ∧ c.writer = some w ∧ w.isPending = false ∧
      outbound c.transport.descriptor h'.calls =
        outbound c.transport.descriptor h.calls ++ data := by
  unfold writeImmediately at run
  cases connected : ep.connection with
  | none =>
    simp only [connected] at run
    cases run
  | some c =>
    cases present : c.writer with
    | none =>
      simp only [connected, present] at run
      cases run
    | some w =>
      simp only [connected, present] at run
      cases pends : w.isPending with
      | true =>
        rw [pends, if_pos rfl] at run
        cases run
      | false =>
        rw [pends, if_neg (by simp)] at run
        obtain ⟨answer, mid, writes, last⟩ := Action.bind_ok.mp run
        cases answer with
        | error e => cases last
        | ok n =>
          obtain ⟨sent, rest, split, length, placed⟩ := Transport.outbound_writeBlocking writes
          dsimp only at last
          by_cases whole : n = data.length
          · rw [if_neg (not_not_intro whole)] at last
            cases last
            have nothing : rest = [] := by
              rw [← split, List.length_append, ← length] at whole
              exact List.eq_nil_of_length_eq_zero (by omega)
            rw [nothing, List.append_nil] at split
            exact ⟨c, w, rfl, present, pends, by rw [placed, split]⟩
          · rw [if_pos whole] at last
            cases last

end LocalPipe
