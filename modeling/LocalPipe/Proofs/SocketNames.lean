import LocalPipe.Proofs.Renamings

namespace LocalPipe

open Host

namespace Endpoint

/-- Whatever is at an endpoint's name is its own socket. -/
def NamesOwn (ep : Endpoint) (t : FileTree) : Prop :=
  ∀ bound node, ep.listener = some bound → t.stat bound.path = .ok node →
    node = .socket bound.listener

/-- All that an endpoint removes is its own socket, or nothing if there is nothing at its
name, or if it is refused to. -/
inductive RemovesOwn (ep : Endpoint) (refused : Bool) (t : FileTree) : FileTree → Prop
  | nothing : (∀ bound node, ep.listener = some bound → t.stat bound.path ≠ .ok node) →
      RemovesOwn ep refused t t
  | kept : refused = true → RemovesOwn ep refused t t
  | own {bound : Bound} {t' : FileTree} : ep.listener = some bound →
      t.LosesSocket bound.path bound.listener t' → RemovesOwn ep refused t t'

/-- Wherever an endpoint gives up its name, it removes its own socket only: when it closes,
when it has accepted its peer, and when it is bound again, before anything is done at the
new path. What else is done with it removes nothing, but where it closes the endpoint. -/
structure KeepsToOwn (ep : Endpoint) (h : Host) : Prop where
  unbind : ep.RemovesOwn (h.refuses .unlink) h.files (ep.unbind h).2.files
  close : ep.RemovesOwn (h.refuses .unlink) h.files (ep.close h).2.files
  accept : ∀ ep' h', ep.accept h = .ok ep' h' → ∃ bound d mid, ep.listener = some bound ∧
    acceptWithin bound.listener ep.config.acceptTimeout h = .ok (.ok d) mid ∧
    ep.RemovesOwn (mid.refuses .unlink) h.files h'.files
  bind : ∀ path result ep' h', ep.bind path h = .ok (result, ep') h' →
    ∃ t t', ep.RemovesOwn (h.refuses .unlink) h.files t ∧ t.Swept path t' ∧
      (h'.files = t' ∨ t'.Gains path h.nextListener h'.files)
  other : ∀ use ep' h', (∀ path, use ≠ .bind path) → use ≠ .accept →
    ep.perform use h = .ok ep' h' →
    h'.files = h.files ∨ ep.RemovesOwn (h.refuses .unlink) h.files h'.files

variable {ep ep' : Endpoint} {h h' : Host} {t : FileTree} {use : Use} {refused : Bool}

theorem NamesOwn.removesOwn (own : ep.NamesOwn t) (refused : Bool) :
    ep.RemovesOwn refused t (ep.cleared refused t) := by
  cases listening : ep.listener with
  | none =>
    rw [cleared_of_unbound listening]
    exact .nothing (by simp [listening])
  | some bound =>
    rw [cleared, listening]
    dsimp only
    split
    · rename_i refused
      exact .kept refused
    · by_cases there : ∃ node, t.stat bound.path = .ok node
      · obtain ⟨node, named⟩ := there
        rw [own bound node listening named] at named
        obtain ⟨t', unlinks, lost⟩ := FileTree.unlink_socket named
        rw [unlinks]
        exact .own listening lost
      · have unnamed : ∀ node, t.stat bound.path ≠ .ok node := not_exists.mp there
        have nothing : ep.RemovesOwn refused t t := by
          refine .nothing fun bound' node listening' => ?_
          rw [listening] at listening'
          cases listening'
          exact unnamed node
        split
        · rename_i unlinks
          rwa [FileTree.unlink_nothing unnamed unlinks]
        · exact nothing

/-- While nothing else is at its name, an endpoint removes its own socket only. -/
theorem NamesOwn.keeps (own : ep.NamesOwn h.files)
    (sound : ∀ c, ep.connection = some c → c.Sound) : ep.KeepsToOwn h := by
  have removes := own.removesOwn (h.refuses .unlink)
  refine ⟨?_, ?_, fun ep' h' run => ?_, fun path result ep' h' run => ?_,
    fun use ep' h' other unlike run => ?_⟩
  · rwa [files_of_naming (naming_unbind ep h)]
  · rwa [files_of_naming (naming_close ep h)]
  · obtain ⟨_, _, bound, d, mid, listening, accepts, naming⟩ := accept_cases run
    refine ⟨bound, d, mid, listening, accepts, ?_⟩
    rw [files_of_naming naming]
    exact own.removesOwn _
  · cases (bind_cases run).2.2 with
    | refused naming => exact ⟨_, _, removes, .clear, Or.inl (files_of_naming naming)⟩
    | spoiled lost _ naming => exact ⟨_, _, removes, .stale lost, Or.inl (files_of_naming naming)⟩
    | unheard swept gains | bound swept gains => exact ⟨_, _, removes, swept, Or.inr gains⟩
  · cases renames_perform use sound run with
    | kept _ naming => exact Or.inl (files_of_naming naming)
    | released _ naming refused =>
      rw [files_of_naming naming, refused unlike]
      exact Or.inr removes
    | bind binds => exact absurd binds (other _)

/-- Giving up a name, whatever is there, makes no other name. -/
theorem stat_of_cleared {path : Bytes} {node : Node}
    (named : (ep.cleared refused t).stat path = .ok node) : t.stat path = .ok node := by
  unfold cleared at named
  split at named
  · exact named
  · split at named
    · exact named
    · split at named
      · rename_i unlinks
        exact FileTree.stat_of_unlink unlinks named
      · exact named

/-- A use puts nothing at any name but the socket that is made where an endpoint is bound. -/
theorem Renames.stat_before (renames : ep.Renames h use ep' h') {path : Bytes} {node : Node}
    (named : h'.files.stat path = .ok node) :
    h.files.stat path = .ok node ∨ (∃ path, use = .bind path) ∧
      h.nextListener < h'.nextListener ∧ node = .socket h.nextListener := by
  cases renames with
  | kept _ naming =>
    rw [files_of_naming naming] at named
    exact Or.inl named
  | released _ naming =>
    rw [files_of_naming naming] at named
    exact Or.inl (stat_of_cleared named)
  | bind same binds =>
    cases binds with
    | refused naming =>
      rw [files_of_naming naming] at named
      exact Or.inl (stat_of_cleared named)
    | spoiled lost _ naming =>
      rw [files_of_naming naming] at named
      exact Or.inl (stat_of_cleared (lost.stat_before named))
    | unheard swept gains following | bound swept gains following =>
      rcases gains.stat_before named with new | before
      · exact Or.inr ⟨⟨_, same⟩, by omega, new⟩
      · exact Or.inl (stat_of_cleared (swept.stat_before before))

theorem Renames.namesOwn (renames : ep.Renames h use ep' h') (own : ep.NamesOwn h.files) :
    ep'.NamesOwn h'.files := by
  intro bound node listening named
  cases renames with
  | kept same naming =>
    rw [files_of_naming naming] at named
    exact own bound node (same ▸ listening) named
  | released silent => simp [silent] at listening
  | bind _ binds =>
    cases binds with
    | refused | spoiled | unheard => cases listening
    | bound _ gains =>
      cases listening
      exact gains.own named

/-- An endpoint keeps its listener, or has the next one, or none. -/
theorem Renames.listener (renames : ep.Renames h use ep' h') :
    h.nextListener ≤ h'.nextListener ∧ ∀ bound, ep'.listener = some bound →
      ep.listener = some bound ∨
        bound.listener = h.nextListener ∧ h.nextListener < h'.nextListener := by
  cases renames with
  | kept kept naming =>
    exact ⟨Nat.le_of_eq (nextListener_of_naming naming).symm,
      fun bound listening => Or.inl (kept ▸ listening)⟩
  | released silent naming =>
    exact ⟨Nat.le_of_eq (nextListener_of_naming naming).symm, by simp [silent]⟩
  | bind _ binds =>
    cases binds with
    | refused naming | spoiled _ _ naming =>
      exact ⟨Nat.le_of_eq (nextListener_of_naming naming).symm, by simp⟩
    | unheard _ _ following => exact ⟨by omega, by simp⟩
    | bound _ _ following =>
      refine ⟨by omega, fun bound listening => Or.inr ?_⟩
      cases listening
      exact ⟨rfl, by omega⟩

end Endpoint

/-- Nothing is at the names of some endpoints that was not there before. -/
def NothingNew (guarded : Nat → Prop) (eps : List Endpoint) (t t' : FileTree) : Prop :=
  ∀ i ep bound node, guarded i → eps[i]? = some ep → ep.listener = some bound →
    t'.stat bound.path = .ok node → t.stat bound.path = .ok node

/-- A listener's socket is at none of their names. -/
def Elsewhere (guarded : Nat → Prop) (eps : List Endpoint) (number : Nat) (t : FileTree) : Prop :=
  ∀ i ep bound, guarded i → eps[i]? = some ep → ep.listener = some bound →
    t.stat bound.path ≠ .ok (.socket number)

/-- The states that a program comes to by setting up endpoints, using them and closing
them in any order, while others make, remove and replace files. To drop an endpoint is to
close it and not to use it again. Nobody puts anything at the name of a guarded endpoint
while it listens: where another endpoint is bound, or fails to be, a new socket is elsewhere,
and what others make is elsewhere, too. -/
inductive NameReach (guarded : Nat → Prop) (h₀ : Host) : List Endpoint → Host → Prop
  | start : NameReach guarded h₀ [] h₀
  | create {eps h} (config : PipeConfig) : NameReach guarded h₀ eps h →
      NameReach guarded h₀ (eps ++ [Endpoint.ofConfig config]) h
  | use {eps h h'} {i : Nat} {ep ep' : Endpoint} (use : Endpoint.Use) :
      NameReach guarded h₀ eps h → eps[i]? = some ep → ep.perform use h = .ok ep' h' →
      (∀ path, use = .bind path → h.nextListener < h'.nextListener →
        Elsewhere (fun j => guarded j ∧ j ≠ i) eps h.nextListener h'.files) →
      NameReach guarded h₀ (eps.set i ep') h'
  /-- While an endpoint waits for its peer others act, before it stops listening. -/
  | unbind {eps h} {i : Nat} {ep : Endpoint} : NameReach guarded h₀ eps h →
      eps[i]? = some ep → NameReach guarded h₀ (eps.set i (ep.unbind h).1) (ep.unbind h).2
  | others {eps h h'} : NameReach guarded h₀ eps h → h.nextListener ≤ h'.nextListener →
      NothingNew guarded eps h.files h'.files → NameReach guarded h₀ eps h'

variable {guarded : Nat → Prop} {eps : List Endpoint} {ep ep' : Endpoint} {h₀ h h' : Host}
  {i : Nat}

/-- The state of some endpoints of which no two have the same listener, and of which the
guarded ones have nothing else at their names. -/
structure NamesSound (guarded : Nat → Prop) (eps : List Endpoint) (h : Host) : Prop where
  orderly : ∀ (i : Nat) (ep : Endpoint), eps[i]? = some ep → ∃ config, ep.Orderly config
  numbered : ∀ (i : Nat) (ep : Endpoint) (bound : Bound), eps[i]? = some ep →
    ep.listener = some bound → bound.listener < h.nextListener
  apart : ∀ (i j : Nat) (ep other : Endpoint) (bound bound' : Bound), eps[i]? = some ep →
    eps[j]? = some other → ep.listener = some bound → other.listener = some bound' →
    bound.listener = bound'.listener → i = j
  own : ∀ (i : Nat) (ep : Endpoint), guarded i → eps[i]? = some ep → ep.NamesOwn h.files

namespace NamesSound

theorem slot_of_set {j : Nat} {other : Endpoint} (there : (eps.set i ep')[j]? = some other) :
    j = i ∧ other = ep' ∨ j ≠ i ∧ eps[j]? = some other := by
  rw [List.getElem?_set] at there
  split at there
  · rename_i same
    split at there
    · exact Or.inl ⟨same.symm, (Option.some.inj there).symm⟩
    · cases there
  · rename_i elsewhere
    exact Or.inr ⟨Ne.symm elsewhere, there⟩

theorem slot_of_append {j : Nat} {other : Endpoint} (there : (eps ++ [ep])[j]? = some other) :
    other = ep ∨ eps[j]? = some other := by
  rw [List.getElem?_append] at there
  split at there
  · exact Or.inr there
  · exact Or.inl (List.mem_singleton.mp (List.mem_of_getElem? there))

/-- An endpoint may keep its listener or get the next one, if at most its own socket is new
at any name. -/
theorem set (sound : NamesSound guarded eps h) (slot : eps[i]? = some ep)
    (orderly : ∃ config, ep'.Orderly config) (later : h.nextListener ≤ h'.nextListener)
    (listener : ∀ bound, ep'.listener = some bound → ep.listener = some bound ∨
      bound.listener = h.nextListener ∧ h.nextListener < h'.nextListener)
    (own : ep.NamesOwn h.files → ep'.NamesOwn h'.files)
    (spared : NothingNew (fun j => guarded j ∧ j ≠ i) eps h.files h'.files) :
    NamesSound guarded (eps.set i ep') h' := by
  -- a listener that is new has a number that none of the others has
  have fresh : ∀ j other bound bound', j ≠ i → eps[j]? = some other →
      other.listener = some bound' → ep'.listener = some bound →
      bound.listener ≠ bound'.listener := by
    intro j other bound bound' elsewhere there listening' listening same
    rcases listener bound listening with kept | ⟨next, _⟩
    · exact elsewhere (sound.apart j i other ep bound' bound there slot listening' kept same.symm)
    · have below := sound.numbered j other bound' there listening'
      omega
  refine ⟨fun j other there => ?_, fun j other bound there listening => ?_,
    fun j k first second bound bound' there there' listening listening' same => ?_,
    fun j other guards there bound node listening named => ?_⟩
  · rcases slot_of_set there with ⟨_, rfl⟩ | ⟨_, before⟩
    · exact orderly
    · exact sound.orderly j other before
  · rcases slot_of_set there with ⟨_, rfl⟩ | ⟨_, before⟩
    · rcases listener bound listening with kept | ⟨next, more⟩
      · have below := sound.numbered i ep bound slot kept
        omega
      · omega
    · have below := sound.numbered j other bound before listening
      omega
  · rcases slot_of_set there with ⟨rfl, rfl⟩ | ⟨elsewhere, before⟩
    · rcases slot_of_set there' with ⟨rfl, _⟩ | ⟨elsewhere', before'⟩
      · rfl
      · exact absurd same (fresh k second bound bound' elsewhere' before' listening' listening)
    · rcases slot_of_set there' with ⟨rfl, rfl⟩ | ⟨elsewhere', before'⟩
      · exact absurd same.symm (fresh j first bound' bound elsewhere before listening listening')
      · exact sound.apart j k first second bound bound' before before' listening listening' same
  · rcases slot_of_set there with ⟨rfl, rfl⟩ | ⟨elsewhere, before⟩
    · exact own (sound.own j ep guards slot) bound node listening named
    · exact sound.own j other guards before bound node listening
        (spared j other bound node ⟨guards, elsewhere⟩ before listening named)

end NamesSound

theorem NameReach.namesSound (reach : NameReach guarded h₀ eps h) : NamesSound guarded eps h := by
  induction reach with
  | start => exact ⟨by simp, by simp, by simp, by simp⟩
  | @create eps h config _ sound =>
    have slots := @NamesSound.slot_of_append eps (.ofConfig config)
    have unbound : (Endpoint.ofConfig config).listener = none := rfl
    refine ⟨fun j other there => ?_, fun j other bound there listening => ?_,
      fun j k first second bound bound' there there' listening listening' => ?_,
      fun j other guards there bound node listening => ?_⟩
    · rcases slots there with rfl | before
      · exact ⟨config, EndpointReach.start.orderly⟩
      · exact sound.orderly j other before
    · rcases slots there with rfl | before
      · simp [unbound] at listening
      · exact sound.numbered j other bound before listening
    · rcases slots there with rfl | before
      · simp [unbound] at listening
      · rcases slots there' with rfl | before'
        · simp [unbound] at listening'
        · exact sound.apart j k first second bound bound' before before' listening listening'
    · rcases slots there with rfl | before
      · simp [unbound] at listening
      · exact sound.own j other guards before bound node listening
  | @use eps h h' i ep ep' use _ slot run elsewhere sound =>
    obtain ⟨config, orderly⟩ := sound.orderly i ep slot
    have renames := Endpoint.renames_perform use orderly.sound run
    obtain ⟨later, listener⟩ := renames.listener
    refine sound.set slot ⟨config, orderly.perform use run⟩ later listener renames.namesOwn ?_
    intro j other bound node guards there listening named
    rcases renames.stat_before named with before | ⟨⟨path, binds⟩, made, rfl⟩
    · exact before
    · exact absurd named (elsewhere path binds made j other bound guards there listening)
  | @unbind eps h i ep _ slot sound =>
    obtain ⟨config, orderly⟩ := sound.orderly i ep slot
    have silent : (ep.unbind h).1.listener = none := by rw [ep.unbind_fst]
    have naming := ep.naming_unbind h
    have next := nextListener_of_naming naming
    have orderly' : (ep.unbind h).1.Orderly config :=
      orderly.congr (by rw [ep.unbind_fst]) (by rw [ep.unbind_fst])
    refine sound.set slot ⟨config, orderly'⟩ (Nat.le_of_eq next.symm) (by simp [silent])
      (fun _ => by simp [Endpoint.NamesOwn, silent]) ?_
    intro j other bound node _ there listening named
    rw [files_of_naming naming] at named
    exact Endpoint.stat_of_cleared named
  | @others eps h h' _ later spared sound =>
    refine ⟨sound.orderly, fun j other bound there listening => ?_, sound.apart,
      fun j other guards there bound node listening named => ?_⟩
    · exact Nat.lt_of_lt_of_le (sound.numbered j other bound there listening) later
    · exact sound.own j other guards there bound node listening
        (spared j other bound node guards there listening named)

namespace NameReach

/-- An endpoint at whose name nobody puts anything else removes its own socket only, in
whichever way it gives up its name, and whatever is done with other endpoints and with other
files. The sockets of other endpoints stay at their names. -/
theorem keepsToOwn (reach : NameReach guarded h₀ eps h) (slot : eps[i]? = some ep)
    (guards : guarded i) :
    ep.KeepsToOwn h ∧ ∀ refused t, ep.RemovesOwn refused h.files t → ∀ j other bound, j ≠ i →
      eps[j]? = some other → other.listener = some bound →
      h.files.stat bound.path = .ok (.socket bound.listener) →
      t.stat bound.path = .ok (.socket bound.listener) := by
  have sound := reach.namesSound
  obtain ⟨config, orderly⟩ := sound.orderly i ep slot
  refine ⟨(sound.own i ep guards slot).keeps orderly.sound, fun refused t removes => ?_⟩
  intro j other bound elsewhere there listening named
  cases removes with
  | nothing | kept => exact named
  | own listening' lost =>
    refine lost.stat_after named fun same => elsewhere ?_
    exact sound.apart j i other ep bound _ there slot listening listening' (Node.socket.inj same)

theorem edit {f : FileTree → FileTree} (reach : NameReach guarded h₀ eps h)
    (spared : NothingNew guarded eps h.files (f h.files)) :
    NameReach guarded h₀ eps { h with files := f h.files } :=
  reach.others (Nat.le_refl _) spared

/-- A host in whose working directory nothing is yet. -/
def bare : Host :=
  {}

/-- Two endpoints, each bound to a name of its own, and a file that somebody else has made
in between. -/
theorem reach_apart : ∃ first second h, NameReach (fun _ => True) bare [first, second] h ∧
    first.listener = some ⟨0, [97]⟩ ∧ second.listener = some ⟨1, [98]⟩ ∧
    h.files.stat [98] = .ok (.socket 1) ∧ h.files.stat [102] = .ok (.file [104, 105]) := by
  have created : NameReach (fun _ => True) bare [.ofConfig {}, .ofConfig {}] bare :=
    (NameReach.start.create {}).create {}
  have first := @NameReach.use _ _ _ _ _ 0 _ _ (.bind [97]) created rfl rfl (by
    intro path _ _ j other bound guards there listening
    match j, there with
    | 0, there => exact absurd rfl guards.2
    | 1, there =>
      cases there
      cases listening)
  have edited := @NameReach.edit _ _ _ _ (·.writeFile [102] [104, 105]) first (by
    intro j other bound node _ there listening named
    match j, there with
    | 0, there =>
      cases there
      cases listening
      exact named
    | 1, there =>
      cases there
      cases listening)
  have second := @NameReach.use _ _ _ _ _ 1 _ _ (.bind [98]) edited rfl rfl (by
    intro path _ _ j other bound guards there listening named
    match j, there with
    | 0, there =>
      cases there
      cases listening
      cases named
    | 1, there => exact absurd rfl guards.2)
  exact ⟨_, _, _, second, rfl, rfl, rfl, rfl⟩

/-- Closing one of them leaves the other one's socket at its name. -/
theorem keepsToOwn_apart : ∃ first second h, NameReach (fun _ => True) bare [first, second] h ∧
    first.KeepsToOwn h ∧ (first.close h).2.files.stat [98] = .ok (.socket 1) := by
  obtain ⟨first, second, h, reach, _, listening, there, _⟩ := reach_apart
  obtain ⟨keeps, spares⟩ := keepsToOwn reach (i := 0) rfl trivial
  exact ⟨first, second, h, reach, keeps,
    spares _ _ keeps.close 1 second ⟨1, [98]⟩ (by decide) rfl listening there⟩

/-- Two endpoints that were bound to one name, one after the other. -/
theorem reach_shared : ∃ first second h, NameReach (fun _ => False) bare [first, second] h ∧
    first.listener = some ⟨0, [115]⟩ ∧ second.listener = some ⟨1, [115]⟩ ∧
    h.files.stat [115] = .ok (.socket 1) ∧ h.refuses .unlink = false := by
  have created : NameReach (fun _ => False) bare [.ofConfig {}, .ofConfig {}] bare :=
    (NameReach.start.create {}).create {}
  have first := @NameReach.use _ _ _ _ _ 0 _ _ (.bind [115]) created rfl rfl
    fun _ _ _ _ _ _ no => no.1.elim
  have second := @NameReach.use _ _ _ _ _ 1 _ _ (.bind [115]) first rfl rfl
    fun _ _ _ _ _ _ no => no.1.elim
  exact ⟨_, _, _, second, rfl, rfl, rfl, rfl⟩

/-- An endpoint whose name another one has taken removes the other one's socket. -/
theorem not_always_keepsToOwn : ¬ ∀ (h₀ : Host) (eps : List Endpoint) (h : Host) (i : Nat)
    (ep : Endpoint), NameReach (fun _ => False) h₀ eps h → eps[i]? = some ep →
      ep.KeepsToOwn h := by
  intro always
  obtain ⟨first, second, h, reach, listening, _, taken, free⟩ := reach_shared
  have removes := (always _ _ _ 0 first reach rfl).close
  generalize (first.close h).2.files = t at removes
  cases removes with
  | nothing unnamed => exact unnamed _ _ listening taken
  | kept refused =>
    rw [free] at refused
    cases refused
  | own listening' lost =>
    rw [listening] at listening'
    cases listening'
    have named := lost.named
    rw [taken] at named
    cases named

end NameReach

end LocalPipe
