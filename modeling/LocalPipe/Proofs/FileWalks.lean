import LocalPipe.Host.FileTree

namespace LocalPipe

/-- Erasing a key that has no entry changes nothing. -/
theorem Table.erase_of_get?_none {κ α : Type} [DecidableEq κ] {t : Table κ α} {k : κ}
    (missing : t.get? k = none) : t.erase k = t := by
  obtain ⟨entries⟩ := t
  simp only [get?] at missing
  simp only [erase, Table.mk.injEq]
  induction entries with
  | nil => rfl
  | cons entry rest ih =>
    unfold lookup at missing
    split at missing
    · cases missing
    · rename_i other
      simpa [other] using ih missing

namespace FileTree

/-- Where no path goes on: there is nothing at this place, or a socket. -/
def EndsAt (t : FileTree) (q : Location) : Prop :=
  t.node? q = none ∨ ∃ listener, t.node? q = some (.socket listener)

/-- A second tree has all that the first one has, but for one place at which paths end in
the first one. -/
structure AgreesOff (t t' : FileTree) (q : Location) : Prop where
  ends : t.EndsAt q
  off : ∀ l, l ≠ q → t'.node? l = t.node? l

/-- A walk that comes to something in another place, or to a link. -/
def Walk.Avoids (q : Location) : Walk → Prop
  | .found place => place ≠ q
  | .link _ _ _ => True
  | .missing _ _ | .failed _ => False

variable {t t' : FileTree} {q l parent place : Location} {names rest : List Bytes}
  {path path' name target : Bytes} {follow mustBeDirectory : Bool} {links number : Nat}
  {node : Node}

theorem EndsAt.not_directory (ends : t.EndsAt q) : t.isDirectory q = false := by
  rcases ends with nothing | ⟨listener, socket⟩
  · simp [isDirectory, nothing]
  · simp [isDirectory, socket]

theorem EndsAt.not_avoids (ends : t.EndsAt q) : ¬ (t.walk follow q names).Avoids q := by
  intro avoids
  cases names with
  | nil => exact avoids rfl
  | cons name rest =>
    unfold walk at avoids
    simp [ends.not_directory, Walk.Avoids] at avoids

theorem EndsAt.ne_of_symlink (ends : t.EndsAt q) (linked : t.node? l = some (.symlink target)) :
    l ≠ q := by
  rintro rfl
  rcases ends with nothing | ⟨listener, socket⟩
  · simp [nothing] at linked
  · simp [socket] at linked

/-- What a walk goes through is elsewhere. -/
theorem AgreesOff.inside (agrees : t.AgreesOff t' q) (inside : ¬ (!t.isDirectory l) = true) :
    ¬ (!t'.isDirectory l) = true := by
  have elsewhere : l ≠ q := by
    rintro rfl
    simp [agrees.ends.not_directory] at inside
  rwa [isDirectory, agrees.off l elsewhere]

/-- A walk that comes to something elsewhere, or to a link, does so in the other tree,
too. -/
theorem AgreesOff.walk_eq {walk : Walk} (agrees : t.AgreesOff t' q)
    (comes : t.walk follow l names = walk) (avoids : walk.Avoids q) :
    t'.walk follow l names = walk := by
  subst comes
  fun_induction t.walk follow l names with
  | case1 l => rfl
  | case2 | case5 | case6 | case7 => exact avoids.elim
  | case3 l rest inside ih =>
    rw [walk, if_neg (agrees.inside inside), if_pos rfl]
    exact ih avoids
  | case4 l rest inside other ih =>
    rw [walk, if_neg (agrees.inside inside), if_neg other, if_pos rfl]
    exact ih avoids
  | case8 l name rest inside other other' short target linked last =>
    have same := agrees.off _ (agrees.ends.ne_of_symlink linked)
    rw [walk, if_neg (agrees.inside inside), if_neg other, if_neg other', if_neg short,
      same, linked]
    exact if_pos last
  | case9 l name rest inside other other' short target linked goes_on =>
    have same := agrees.off _ (agrees.ends.ne_of_symlink linked)
    rw [walk, if_neg (agrees.inside inside), if_neg other, if_neg other', if_neg short,
      same, linked]
    exact if_neg goes_on
  | case10 l name rest inside other other' short node plain present ih =>
    have elsewhere : l ++ [name] ≠ q := by
      rintro rfl
      exact agrees.ends.not_avoids avoids
    rw [walk, if_neg (agrees.inside inside), if_neg other, if_neg other', if_neg short,
      agrees.off _ elsewhere, present]
    split
    · rename_i missing
      cases missing
    · rename_i target linked
      exact absurd (Option.some.inj linked) (plain target)
    · exact ih avoids

theorem AgreesOff.resolve_eq (agrees : t.AgreesOff t' q)
    (leads : t.resolve follow links l names mustBeDirectory = .found place)
    (elsewhere : place ≠ q) : t'.resolve follow links l names mustBeDirectory = .found place := by
  fun_induction t.resolve follow links l names mustBeDirectory with
  | case1 | case3 | case4 => cases leads
  | case2 links l names mustBeDirectory place comes suits =>
    cases leads
    rw [resolve, agrees.walk_eq comes elsewhere]
    dsimp only
    rw [isDirectory, agrees.off place elsewhere, ← isDirectory, if_neg suits]
  | case5 l names mustBeDirectory parent target rest comes links some_target ih =>
    rw [resolve, agrees.walk_eq comes trivial]
    dsimp only
    rw [if_neg some_target]
    exact ih leads
  | case6 links l names mustBeDirectory not_found not_link => exact absurd leads (not_found place)

theorem lookup_found : t.lookup follow path = .found place ↔
    path ≠ [] ∧ path.length < pathMax ∧
      t.resolve follow linkMax (origin path workingDirectory) (components path)
        (endsInSlash path) = .found place := by
  unfold lookup reach
  by_cases empty : path = []
  · simp [empty]
  · by_cases long : pathMax ≤ path.length
    · simp [empty, long, Nat.not_lt_of_le long]
    · simp [empty, long, Nat.lt_of_not_le long]

theorem AgreesOff.lookup_eq (agrees : t.AgreesOff t' q)
    (leads : t.lookup follow path = .found place) (elsewhere : place ≠ q) :
    t'.lookup follow path = .found place := by
  obtain ⟨some_path, short, leads⟩ := lookup_found.mp leads
  exact lookup_found.mpr ⟨some_path, short, agrees.resolve_eq leads elsewhere⟩

theorem stat_eq_ok :
    t.stat path = .ok node ↔
      ∃ place, t.lookup false path = .found place ∧ t.node? place = some node := by
  unfold stat
  constructor
  · intro found
    split at found
    · rename_i place leads
      split at found
      · rename_i there present
        cases found
        exact ⟨place, leads, present⟩
      · cases found
    · cases found
    · cases found
  · rintro ⟨place, leads, present⟩
    simp [leads, present]

/-- Whatever else a path names, it names in the other tree, too. -/
theorem AgreesOff.stat_eq (agrees : t.AgreesOff t' q) (named : t.stat path = .ok node)
    (other : t.node? q ≠ some node) : t'.stat path = .ok node := by
  obtain ⟨place, leads, present⟩ := stat_eq_ok.mp named
  have elsewhere : place ≠ q := by
    rintro rfl
    exact other present
  exact stat_eq_ok.mpr ⟨place, agrees.lookup_eq leads elsewhere,
    (agrees.off place elsewhere).trans present⟩

theorem not_top (other : t.isDirectory q = false) : ¬ (q = [] ∨ q = workingDirectory) := by
  intro top
  simp [isDirectory, node?, top] at other

theorem node?_erase_of_ne (other : l ≠ q) :
    (FileTree.mk (t.nodes.erase q)).node? l = t.node? l := by
  rw [node?, node?, Table.get?_erase_of_ne t.nodes (Ne.symm other)]

theorem agreesOff_erase (socket : t.node? q = some (.socket number)) :
    t.AgreesOff ⟨t.nodes.erase q⟩ q :=
  ⟨Or.inr ⟨number, socket⟩, fun _ => node?_erase_of_ne⟩

/-- Without what was removed, paths name nothing that they did not name before. -/
theorem stat_of_erase (removable : t.isDirectory q = false)
    (named : (FileTree.mk (t.nodes.erase q)).stat path = .ok node) : t.stat path = .ok node := by
  have gone : (FileTree.mk (t.nodes.erase q)).node? q = none := by
    rw [node?, if_neg (not_top removable), Table.get?_erase_self]
  have agrees : (FileTree.mk (t.nodes.erase q)).AgreesOff t q :=
    ⟨Or.inl gone, fun l other => (node?_erase_of_ne other).symm⟩
  exact agrees.stat_eq named (by simp [gone])

theorem stat_of_unlink (unlinked : t.unlink path = .ok t') (named : t'.stat path' = .ok node) :
    t.stat path' = .ok node := by
  unfold unlink at unlinked
  split at unlinked
  · split at unlinked
    · cases unlinked
    · rename_i removable
      cases unlinked
      exact stat_of_erase (by simpa using removable) named
  · cases unlinked
  · cases unlinked

/-- All that is gone is a listener's socket, which a path named. -/
inductive LosesSocket (t : FileTree) (path : Bytes) (number : Nat) : FileTree → Prop
  | intro {place : Location} : t.lookup false path = .found place →
      t.node? place = some (.socket number) →
      LosesSocket t path number ⟨t.nodes.erase place⟩

namespace LosesSocket

theorem named (lost : t.LosesSocket path number t') : t.stat path = .ok (.socket number) := by
  obtain ⟨leads, present⟩ := lost
  exact stat_eq_ok.mpr ⟨_, leads, present⟩

theorem stat_before (lost : t.LosesSocket path number t') (named : t'.stat path' = .ok node) :
    t.stat path' = .ok node := by
  obtain ⟨leads, present⟩ := lost
  exact stat_of_erase (by simp [isDirectory, present]) named

/-- Other things keep their names. -/
theorem stat_after (lost : t.LosesSocket path number t') (named : t.stat path' = .ok node)
    (other : node ≠ .socket number) : t'.stat path' = .ok node := by
  obtain @⟨place, leads, present⟩ := lost
  refine (agreesOff_erase present).stat_eq named ?_
  rw [present]
  exact fun same => other (Option.some.inj same).symm

end LosesSocket

/-- A path that names a socket can be unlinked. -/
theorem unlink_socket (named : t.stat path = .ok (.socket number)) :
    ∃ t', t.unlink path = .ok t' ∧ t.LosesSocket path number t' := by
  obtain ⟨place, leads, present⟩ := stat_eq_ok.mp named
  refine ⟨_, ?_, .intro leads present⟩
  have removable : t.isDirectory place = false := by simp [isDirectory, present]
  simp [unlink, leads, removable]

/-- Where there is nothing, nothing is unlinked. -/
theorem unlink_nothing (unnamed : ∀ node, t.stat path ≠ .ok node)
    (unlinked : t.unlink path = .ok t') : t' = t := by
  unfold unlink at unlinked
  split at unlinked
  · rename_i place leads
    split at unlinked
    · cases unlinked
    · rename_i removable
      cases unlinked
      have missing : t.node? place = none := by
        cases present : t.node? place with
        | none => rfl
        | some node => exact absurd (stat_eq_ok.mpr ⟨place, leads, present⟩) (unnamed node)
      rw [node?, if_neg (not_top (by simpa using removable))] at missing
      rw [Table.erase_of_get?_none missing]
  · cases unlinked
  · cases unlinked

theorem walk_missing (missing : t.walk follow l names = .missing parent name) :
    t.node? (parent ++ [name]) = none := by
  fun_induction t.walk follow l names with
  | case1 | case2 | case5 | case7 | case8 | case9 => cases missing
  | case3 _ _ _ ih | case4 _ _ _ _ ih | case10 _ _ _ _ _ _ _ _ _ _ ih => exact ih missing
  | case6 l name' inside other other' short nothing =>
    cases missing
    exact nothing

/-- Unless it is to follow one, a walk does not end at a link in the last place. -/
theorem walk_link (linked : t.walk false l names = .link parent target rest) : rest ≠ [] := by
  fun_induction t.walk false l names with
  | case1 | case2 | case5 | case6 | case7 | case8 => cases linked
  | case3 _ _ _ ih | case4 _ _ _ _ ih | case10 _ _ _ _ _ _ _ _ _ _ ih => exact ih linked
  | case9 l name rest inside other other' short target present goes_on =>
    cases linked
    exact fun last => goes_on ⟨last, rfl⟩

theorem resolve_missing
    (missing : t.resolve follow links l names mustBeDirectory = .missing parent name) :
    t.node? (parent ++ [name]) = none := by
  fun_induction t.resolve follow links l names mustBeDirectory with
  | case1 | case2 | case3 | case4 => cases missing
  | case5 _ _ _ _ _ _ _ _ _ ih => exact ih missing
  | case6 => exact walk_missing missing

theorem reach_missing {directory : Bool}
    (missing : t.reach follow directory path = .missing parent name) :
    t.node? (parent ++ [name]) = none := by
  unfold reach at missing
  split at missing
  · cases missing
  · split at missing
    · cases missing
    · exact resolve_missing missing

section Made

variable (agrees : t.AgreesOff t' (parent ++ [name]))
  (made : t'.node? (parent ++ [name]) = some (.socket number))

include agrees made

/-- Where a walk found nothing, it finds the socket that was made. -/
theorem AgreesOff.walk_made (missing : t.walk follow l names = .missing parent name) :
    t'.walk follow l names = .found (parent ++ [name]) := by
  have free := walk_missing missing
  fun_induction t.walk follow l names with
  | case1 | case2 | case5 | case7 | case8 | case9 => cases missing
  | case3 l rest inside ih =>
    rw [walk, if_neg (agrees.inside inside), if_pos rfl]
    exact ih missing
  | case4 l rest inside other ih =>
    rw [walk, if_neg (agrees.inside inside), if_neg other, if_pos rfl]
    exact ih missing
  | case6 l name inside other other' short nothing =>
    cases missing
    rw [walk, if_neg (agrees.inside inside), if_neg other, if_neg other', if_neg short,
      made]
    rfl
  | case10 l name' rest inside other other' short node plain present ih =>
    have elsewhere : l ++ [name'] ≠ parent ++ [name] := fun same => by
      rw [same, free] at present
      cases present
    rw [walk, if_neg (agrees.inside inside), if_neg other, if_neg other', if_neg short,
      agrees.off _ elsewhere, present]
    split
    · rename_i missing
      cases missing
    · rename_i target linked
      exact absurd (Option.some.inj linked) (plain target)
    · exact ih missing

theorem AgreesOff.resolve_made (anything : mustBeDirectory = false)
    (missing : t.resolve false links l names mustBeDirectory = .missing parent name) :
    t'.resolve false links l names mustBeDirectory = .found (parent ++ [name]) := by
  fun_induction t.resolve false links l names mustBeDirectory with
  | case1 | case2 | case3 | case4 => cases missing
  | case5 l names mustBeDirectory parent target rest comes links some_target ih =>
    subst anything
    have goes_on := walk_link comes
    rw [resolve, agrees.walk_eq comes trivial]
    dsimp only
    rw [if_neg some_target]
    exact ih (by simp [goes_on]) missing
  | case6 links l names mustBeDirectory not_found not_link =>
    subst anything
    rw [resolve, agrees.walk_made made missing]
    rfl

theorem AgreesOff.reach_made (missing : t.reach false false path = .missing parent name) :
    t'.reach false false path = .found (parent ++ [name]) := by
  unfold reach at missing ⊢
  split at missing
  · cases missing
  · rename_i some_path
    split at missing
    · cases missing
    · rename_i short
      rw [if_neg some_path, if_neg short]
      exact agrees.resolve_made made rfl missing

end Made

theorem node?_set_self (free : t.node? q = none) :
    (FileTree.mk (t.nodes.set q node)).node? q = some node := by
  rw [node?, if_neg (not_top (t := t) (by simp [isDirectory, free])), Table.get?_set_self]

theorem node?_set_of_ne (other : l ≠ q) :
    (FileTree.mk (t.nodes.set q node)).node? l = t.node? l := by
  rw [node?, node?, Table.get?_set_of_ne t.nodes _ (Ne.symm other)]

theorem agreesOff_set (free : t.node? q = none) (node : Node) :
    t.AgreesOff ⟨t.nodes.set q node⟩ q :=
  ⟨Or.inl free, fun _ => node?_set_of_ne⟩

/-- A socket is made at a name that is free. -/
theorem create_socket (made : t.create path (.socket number) = .ok t') :
    ∃ parent name, t.reach false false path = .missing parent name ∧
      endsInSlash path = false ∧ t' = ⟨t.nodes.set (parent ++ [name]) (.socket number)⟩ := by
  unfold create at made
  split at made
  · cases made
  · rename_i parent name leads
    split at made
    · cases made
    · rename_i plain
      cases made
      exact ⟨parent, name, leads, by simpa using plain, rfl⟩
  · cases made
  · cases made

theorem stat_create_self (made : t.create path (.socket number) = .ok t') :
    t'.stat path = .ok (.socket number) := by
  obtain ⟨parent, name, leads, slashless, rfl⟩ := create_socket made
  have free := reach_missing leads
  have agrees := agreesOff_set free (.socket number)
  refine stat_eq_ok.mpr ⟨_, ?_, node?_set_self free⟩
  rw [lookup, slashless, agrees.reach_made (node?_set_self free) leads]

/-- But for a socket that was made, paths name nothing that they did not name before. -/
theorem stat_of_create (made : t.create path (.socket number) = .ok t')
    (named : t'.stat path' = .ok node) : node = .socket number ∨ t.stat path' = .ok node := by
  obtain ⟨parent, name, leads, _, rfl⟩ := create_socket made
  have there : (FileTree.mk (t.nodes.set (parent ++ [name]) (.socket number))).node?
      (parent ++ [name]) = some (.socket number) := node?_set_self (reach_missing leads)
  have agrees : (FileTree.mk (t.nodes.set (parent ++ [name]) (.socket number))).AgreesOff t
      (parent ++ [name]) :=
    ⟨Or.inr ⟨number, there⟩, fun l other => (node?_set_of_ne other).symm⟩
  by_cases same : node = .socket number
  · exact Or.inl same
  · refine Or.inr (agrees.stat_eq named ?_)
    rw [there]
    exact fun same' => same (Option.some.inj same').symm

/-- A stale socket is gone from a path, if there was one. -/
inductive Swept (t : FileTree) (path : Bytes) : FileTree → Prop
  | clear : Swept t path t
  | stale {number : Nat} {t' : FileTree} : t.LosesSocket path number t' → Swept t path t'

theorem Swept.stat_before (swept : t.Swept path t') (named : t'.stat path' = .ok node) :
    t.stat path' = .ok node := by
  cases swept with
  | clear => exact named
  | stale lost => exact lost.stat_before named

/-- A listener has its socket at a path, unless it has no name. -/
inductive Gains (t : FileTree) (path : Bytes) (number : Nat) : FileTree → Prop
  | nameless : path = [] → Gains t path number t
  | named {t' : FileTree} : t.create path (.socket number) = .ok t' → Gains t path number t'

namespace Gains

/-- What the path names then can only be that socket. -/
theorem own (gains : t.Gains path number t') (named : t'.stat path = .ok node) :
    node = .socket number := by
  cases gains with
  | nameless nameless =>
    subst nameless
    cases named
  | named made =>
    rw [stat_create_self made] at named
    exact (Except.ok.inj named).symm

theorem stat_before (gains : t.Gains path number t') (named : t'.stat path' = .ok node) :
    node = .socket number ∨ t.stat path' = .ok node := by
  cases gains with
  | nameless => exact Or.inr named
  | named made => exact stat_of_create made named

end Gains

end FileTree

end LocalPipe
