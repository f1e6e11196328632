import LocalPipe.Host.Calls

namespace LocalPipe

/-- The bytes of an answered read, none if it failed. -/
@[simp] def answered : Except Errno Bytes → Bytes
  | .ok data => data
  | .error _ => []

/-- The bytes of a write that were accepted, none if it failed. -/
@[simp] def acceptedOf (data : Bytes) : Except Errno Nat → Bytes
  | .ok n => data.take n
  | .error _ => []

/-- What a call brought in through a descriptor. -/
def Call.inbound (d : Descriptor) : Call → Bytes
  | .read d' _ result => if d' = d then answered result else []
  | _ => []

/-- What a call brought out through a descriptor. -/
def Call.outbound (d : Descriptor) : Call → Bytes
  | .write d' data result => if d' = d then acceptedOf data result else []
  | _ => []

/-- What somebody else has put on its way from an end. -/
def Call.posted (p : EndId) : Call → Bytes
  | .outside (.send p' data) (.accepted n) => if p' = p then data.take n else []
  | _ => []

/-- All bytes that the reads on a descriptor have returned. The calls are
given with the latest first, as a host keeps them. -/
def inbound (d : Descriptor) (calls : List Call) : Bytes :=
  calls.reverse.flatMap (Call.inbound d)

/-- All bytes that the writes on a descriptor have placed. -/
def outbound (d : Descriptor) (calls : List Call) : Bytes :=
  calls.reverse.flatMap (Call.outbound d)

/-- All bytes that others have put on their way from an end. -/
def posted (p : EndId) (calls : List Call) : Bytes :=
  calls.reverse.flatMap (Call.posted p)

@[simp] theorem inbound_nil (d : Descriptor) : inbound d [] = [] :=
  rfl

@[simp] theorem outbound_nil (d : Descriptor) : outbound d [] = [] :=
  rfl

@[simp] theorem inbound_cons (d : Descriptor) (call : Call) (calls : List Call) :
    inbound d (call :: calls) = inbound d calls ++ call.inbound d := by
  simp [inbound]

@[simp] theorem outbound_cons (d : Descriptor) (call : Call) (calls : List Call) :
    outbound d (call :: calls) = outbound d calls ++ call.outbound d := by
  simp [outbound]

@[simp] theorem inbound_append (d : Descriptor) (later earlier : List Call) :
    inbound d (later ++ earlier) = inbound d earlier ++ inbound d later := by
  simp [inbound]

@[simp] theorem outbound_append (d : Descriptor) (later earlier : List Call) :
    outbound d (later ++ earlier) = outbound d earlier ++ outbound d later := by
  simp [outbound]

@[simp] theorem posted_nil (p : EndId) : posted p [] = [] :=
  rfl

@[simp] theorem posted_cons (p : EndId) (call : Call) (calls : List Call) :
    posted p (call :: calls) = posted p calls ++ call.posted p := by
  simp [posted]

@[simp] theorem posted_append (p : EndId) (later earlier : List Call) :
    posted p (later ++ earlier) = posted p earlier ++ posted p later := by
  simp [posted]

/-- What has come in only grows. -/
theorem inbound_mono (d : Descriptor) {earlier calls : List Call} (before : earlier <:+ calls) :
    inbound d earlier <+: inbound d calls := by
  obtain ⟨later, rfl⟩ := before
  rw [inbound_append]
  exact List.prefix_append _ _

theorem outbound_mono (d : Descriptor) {earlier calls : List Call} (before : earlier <:+ calls) :
    outbound d earlier <+: outbound d calls := by
  obtain ⟨later, rfl⟩ := before
  rw [outbound_append]
  exact List.prefix_append _ _

namespace Host

/-- The calls that were made after some earlier ones. -/
def since (h : Host) (earlier : List Call) : List Call :=
  h.calls.take (h.calls.length - earlier.length)

theorem since_eq {h : Host} {later earlier : List Call} (calls : h.calls = later ++ earlier) :
    h.since earlier = later := by
  rw [since, calls]
  simp

/-- Only calls of some kind were made in between. -/
def Makes (only : Call → Prop) (h h' : Host) : Prop :=
  ∃ later, h'.calls = later ++ h.calls ∧ ∀ call ∈ later, only call

namespace Makes

variable {only other : Call → Prop} {h h' h'' : Host}

theorem of_calls (same : h'.calls = h.calls) : Makes only h h' :=
  ⟨[], same, nofun⟩

theorem of_record (call : Call) (fits : only call) (calls : h'.calls = call :: h.calls) :
    Makes only h h' := by
  refine ⟨[call], calls, fun call' member => ?_⟩
  rw [List.mem_singleton.mp member]
  exact fits

theorem trans (first : Makes only h h') (second : Makes only h' h'') : Makes only h h'' := by
  obtain ⟨early, calls, fit⟩ := first
  obtain ⟨late, calls', fit'⟩ := second
  refine ⟨late ++ early, by rw [calls', calls, List.append_assoc], fun call member => ?_⟩
  rcases List.mem_append.mp member with latter | former
  · exact fit' call latter
  · exact fit call former

theorem mono (makes : Makes only h h') (wider : ∀ call, only call → other call) :
    Makes other h h' := by
  obtain ⟨later, calls, fit⟩ := makes
  exact ⟨later, calls, fun call member => wider call (fit call member)⟩

theorem calls_suffix (makes : Makes only h h') : h.calls <:+ h'.calls := by
  obtain ⟨later, calls, _⟩ := makes
  exact ⟨later, calls.symm⟩

theorem of_since (makes : Makes only h h') : ∀ call ∈ h'.since h.calls, only call := by
  obtain ⟨later, calls, fit⟩ := makes
  rwa [since_eq calls]

end Makes

/-- Reads on one descriptor, one after the other, and what is logged between
them. -/
inductive Reads (d : Descriptor) (h : Host) : Host → Prop
  | start : Reads d h h
  | read {h'} (n : Nat) : Reads d h h' → Reads d h (h'.read d n).2
  | log {h'} (event : LogEvent) : Reads d h h' → Reads d h (h'.log event)

/-- Writes on one descriptor, one after the other, and what is logged between
them. -/
inductive Writes (d : Descriptor) (h : Host) : Host → Prop
  | start : Writes d h h
  | write {h'} (data : Bytes) : Writes d h h' → Writes d h (h'.write d data).2
  | log {h'} (event : LogEvent) : Writes d h h' → Writes d h (h'.log event)

variable {d : Descriptor} {h h' h'' : Host}

theorem Reads.trans (first : h.Reads d h') (second : h'.Reads d h'') : h.Reads d h'' := by
  induction second with
  | start => exact first
  | read n _ ih => exact .read n ih
  | log event _ ih => exact .log event ih

theorem Writes.trans (first : h.Writes d h') (second : h'.Writes d h'') : h.Writes d h'' := by
  induction second with
  | start => exact first
  | write data _ ih => exact .write data ih
  | log event _ ih => exact .log event ih

/-- Reads place nothing, on whatever descriptor. -/
theorem Reads.outbound_eq (reads : h.Reads d h') (d' : Descriptor) :
    outbound d' h'.calls = outbound d' h.calls := by
  induction reads with
  | start => rfl
  | read n _ ih => simp [calls_read, Call.outbound, ih]
  | log event _ ih => exact ih

theorem Reads.inbound_of_ne (reads : h.Reads d h') {d' : Descriptor} (other : d ≠ d') :
    inbound d' h'.calls = inbound d' h.calls := by
  induction reads with
  | start => rfl
  | read n _ ih => simp [calls_read, Call.inbound, other, ih]
  | log event _ ih => exact ih

/-- Writes bring nothing in. -/
theorem Writes.inbound_eq (writes : h.Writes d h') (d' : Descriptor) :
    inbound d' h'.calls = inbound d' h.calls := by
  induction writes with
  | start => rfl
  | write data _ ih => simp [calls_write, Call.inbound, ih]
  | log event _ ih => exact ih

theorem Writes.outbound_of_ne (writes : h.Writes d h') {d' : Descriptor} (other : d ≠ d') :
    outbound d' h'.calls = outbound d' h.calls := by
  induction writes with
  | start => rfl
  | write data _ ih => simp [calls_write, Call.outbound, other, ih]
  | log event _ ih => exact ih

/-- The program's own reads and writes are nobody else's doing. -/
theorem Reads.posted_eq (reads : h.Reads d h') (p : EndId) : posted p h'.calls = posted p h.calls := by
  induction reads with
  | start => rfl
  | read n _ ih => simp [calls_read, Call.posted, ih]
  | log event _ ih => exact ih

theorem Writes.posted_eq (writes : h.Writes d h') (p : EndId) :
    posted p h'.calls = posted p h.calls := by
  induction writes with
  | start => rfl
  | write data _ ih => simp [calls_write, Call.posted, ih]
  | log event _ ih => exact ih

theorem Reads.calls_suffix (reads : h.Reads d h') : h.calls <:+ h'.calls := by
  induction reads with
  | start => exact List.suffix_rfl
  | read n _ ih =>
    rw [calls_read]
    exact ih.trans (List.suffix_cons _ _)
  | log event _ ih => exact ih

theorem Writes.calls_suffix (writes : h.Writes d h') : h.calls <:+ h'.calls := by
  induction writes with
  | start => exact List.suffix_rfl
  | write data _ ih =>
    rw [calls_write]
    exact ih.trans (List.suffix_cons _ _)
  | log event _ ih => exact ih

variable {n : Nat} {data : Bytes}

theorem Reads.of_read {result : Except Errno Bytes} (answer : h.read d n = (result, h')) :
    h.Reads d h' := by
  have one : h.Reads d (h.read d n).2 := .read n .start
  rwa [answer] at one

theorem Writes.of_write {result : Except Errno Nat} (answer : h.write d data = (result, h')) :
    h.Writes d h' := by
  have one : h.Writes d (h.write d data).2 := .write data .start
  rwa [answer] at one

theorem inbound_read {result : Except Errno Bytes} (answer : h.read d n = (result, h')) :
    inbound d h'.calls = inbound d h.calls ++ answered result := by
  have grown := h.calls_read d n
  rw [answer] at grown
  rw [grown]
  simp [Call.inbound]

theorem outbound_write {result : Except Errno Nat} (answer : h.write d data = (result, h')) :
    outbound d h'.calls = outbound d h.calls ++ acceptedOf data result := by
  have grown := h.calls_write d data
  rw [answer] at grown
  rw [grown]
  simp [Call.outbound]

end Host

end LocalPipe
