import LocalPipe.Proofs.FileWalks

namespace LocalPipe.FileTree

/-- There are directories all the way down to a place, and a directory there. -/
def Inside (t : FileTree) (l : Location) : Prop :=
  ∀ above, above <+: l → t.isDirectory above = true

variable {t t' : FileTree} {l place parent : Location} {names rest : List Bytes}
  {path name target : Bytes} {follow mustBeDirectory : Bool} {links number : Nat}

namespace Inside

theorem top (t : FileTree) : t.Inside [] := by
  intro above within
  rw [List.prefix_nil.mp within]
  simp [isDirectory, node?]

theorem dropLast (inside : t.Inside l) : t.Inside l.dropLast :=
  fun above within => inside above (within.trans (List.dropLast_prefix l))

theorem append (inside : t.Inside l) (directory : t.isDirectory (l ++ [name]) = true) :
    t.Inside (l ++ [name]) := by
  intro above within
  rcases List.prefix_concat_iff.mp within with rfl | within
  · exact directory
  · exact inside above within

theorem workingDirectory (t : FileTree) : t.Inside workingDirectory :=
  (top t).append (by simp [isDirectory, node?, FileTree.workingDirectory])

theorem origin (inside : t.Inside l) (path : Bytes) : t.Inside (origin path l) := by
  unfold FileTree.origin
  split
  · exact top t
  · exact inside

end Inside

/-- A walk goes no further than to something that is no directory. -/
theorem walk_outside (outside : t.isDirectory l = false) (goes_on : names ≠ []) :
    t.walk follow l names = .failed .enotdir := by
  obtain ⟨name, rest, rfl⟩ := List.exists_cons_of_ne_nil goes_on
  rw [walk, if_pos (by simp [outside])]

theorem walk_link_inside (inside : t.Inside l)
    (comes : t.walk follow l names = .link parent target rest) : t.Inside parent := by
  fun_induction t.walk follow l names with
  | case1 | case2 | case5 | case6 | case7 | case8 => cases comes
  | case3 _ _ _ ih => exact ih inside comes
  | case4 _ _ _ _ ih => exact ih inside.dropLast comes
  | case9 =>
    cases comes
    exact inside
  | case10 l name rest _ _ _ _ _ _ _ ih =>
    cases directory : t.isDirectory (l ++ [name]) with
    | true => exact ih (inside.append directory) comes
    | false =>
      cases rest with
      | nil => cases comes
      | cons => rw [walk_outside directory (by simp)] at comes; cases comes

/-- If a path may lead to something that is no directory, it need not lead to one. -/
theorem resolve_plain (leads : t.resolve follow links l names mustBeDirectory = .found place)
    (plain : t.isDirectory place = false) : mustBeDirectory = false := by
  fun_induction t.resolve follow links l names mustBeDirectory with
  | case1 | case3 | case4 => cases leads
  | case2 links l names mustBeDirectory place' comes suits =>
    cases leads
    simpa [plain] using suits
  | case5 l names mustBeDirectory parent target rest comes links some_target ih =>
    exact (Bool.or_eq_false_iff.mp (ih leads)).1
  | case6 links l names mustBeDirectory not_found => exact absurd leads (not_found place)

section Freed

variable (agrees : t.AgreesOff t' place) (socket : t.node? place = some (.socket number))
  (gone : t'.node? place = none)

include agrees socket gone

/-- Where a walk found a socket, it finds nothing once that is gone. -/
theorem AgreesOff.walk_freed (inside : t.Inside l)
    (leads : t.walk follow l names = .found place) :
    ∃ parent name, t'.walk follow l names = .missing parent name := by
  fun_induction t.walk follow l names with
  | case1 l =>
    cases leads
    have directory := inside place List.prefix_rfl
    rw [agrees.ends.not_directory] at directory
    cases directory
  | case2 | case5 | case6 | case7 | case9 => cases leads
  | case3 l rest within ih =>
    rw [walk, if_neg (agrees.inside within), if_pos rfl]
    exact ih inside leads
  | case4 l rest within other ih =>
    rw [walk, if_neg (agrees.inside within), if_neg other, if_pos rfl]
    exact ih inside.dropLast leads
  | case8 l name rest within other other' short target linked last =>
    cases leads
    rw [linked] at socket
    cases socket
  | case10 l name rest within other other' short node plain present ih =>
    rw [walk, if_neg (agrees.inside within), if_neg other, if_neg other', if_neg short]
    by_cases goes_on : rest = []
    · subst goes_on
      cases leads
      rw [gone]
      exact ⟨l, name, rfl⟩
    · cases directory : t.isDirectory (l ++ [name]) with
      | false =>
        rw [walk_outside directory goes_on] at leads
        cases leads
      | true =>
        have elsewhere : l ++ [name] ≠ place := by
          rintro rfl
          rw [agrees.ends.not_directory] at directory
          cases directory
        rw [agrees.off _ elsewhere, present]
        split
        · rename_i missing
          cases missing
        · rename_i target linked
          exact absurd (Option.some.inj linked) (plain target)
        · exact ih (inside.append directory) leads

theorem AgreesOff.resolve_freed (anything : mustBeDirectory = false) (inside : t.Inside l)
    (leads : t.resolve false links l names mustBeDirectory = .found place) :
    ∃ parent name, t'.resolve false links l names mustBeDirectory = .missing parent name := by
  fun_induction t.resolve false links l names mustBeDirectory with
  | case1 | case3 | case4 => cases leads
  | case2 links l names mustBeDirectory place' comes suits =>
    cases leads
    obtain ⟨parent, name, misses⟩ := agrees.walk_freed socket gone inside comes
    refine ⟨parent, name, ?_⟩
    rw [resolve, misses]
  | case5 l names mustBeDirectory parent target rest comes links some_target ih =>
    subst anything
    have goes_on := walk_link comes
    have inside' := walk_link_inside inside comes
    rw [resolve, agrees.walk_eq comes trivial]
    dsimp only
    rw [if_neg some_target]
    exact ih (by simp [goes_on]) (inside'.origin target) leads
  | case6 links l names mustBeDirectory not_found => exact absurd leads (not_found place)

end Freed

/-- The name of a socket that was removed is free for another one. -/
theorem LosesSocket.free (lost : t.LosesSocket path number t') (next : Nat) :
    ∃ t'', t'.create path (.socket next) = .ok t'' := by
  obtain @⟨place, leads, present⟩ := lost
  have plain : t.isDirectory place = false := by simp [isDirectory, present]
  have gone : (FileTree.mk (t.nodes.erase place)).node? place = none := by
    rw [node?, if_neg (not_top plain), Table.get?_erase_self]
  obtain ⟨some_path, short, leads⟩ := lookup_found.mp leads
  have slashless := resolve_plain leads plain
  rw [slashless] at leads
  obtain ⟨parent, name, misses⟩ := (agreesOff_erase present).resolve_freed present gone rfl
    ((Inside.workingDirectory t).origin path) leads
  refine ⟨⟨(t.nodes.erase place).set (parent ++ [name]) (.socket next)⟩, ?_⟩
  simp [create, reach, some_path, Nat.not_le_of_lt short, misses, slashless]

section Followed

variable (plain : ∀ target, t.node? place ≠ some (.symlink target))

include plain

/-- A walk that comes to something that is no link would follow none in the last place. -/
theorem walk_followed {walk : Walk} (comes : t.walk false l names = walk)
    (ends : walk = .found place ∨ ∃ parent target rest, walk = .link parent target rest) :
    t.walk true l names = walk := by
  subst comes
  fun_induction t.walk false l names with
  | case1 l => rfl
  | case2 | case5 | case6 | case7 => rcases ends with no | ⟨_, _, _, no⟩ <;> cases no
  | case3 l rest within ih =>
    rw [walk, if_neg within, if_pos rfl]
    exact ih ends
  | case4 l rest within other ih =>
    rw [walk, if_neg within, if_neg other, if_pos rfl]
    exact ih ends
  | case8 l name rest within other other' short target linked last =>
    rcases ends with same | ⟨_, _, _, no⟩
    · cases same
      exact absurd linked (plain target)
    · cases no
  | case9 l name rest within other other' short target linked goes_on =>
    have more : ¬ (rest = [] ∧ (!true) = true) := by simp
    rw [walk, if_neg within, if_neg other, if_neg other', if_neg short, linked]
    exact if_neg more
  | case10 l name rest within other other' short node regular present ih =>
    rw [walk, if_neg within, if_neg other, if_neg other', if_neg short, present]
    split
    · rename_i missing
      cases missing
    · rename_i target linked
      exact absurd (Option.some.inj linked) (regular target)
    · exact ih ends

theorem resolve_followed (leads : t.resolve false links l names mustBeDirectory = .found place) :
    t.resolve true links l names mustBeDirectory = .found place := by
  fun_induction t.resolve false links l names mustBeDirectory with
  | case1 | case3 | case4 => cases leads
  | case2 links l names mustBeDirectory place' comes suits =>
    cases leads
    have same : t.walk (true || mustBeDirectory) l names = .found place := by
      cases mustBeDirectory with
      | true => exact comes
      | false => exact walk_followed plain comes (Or.inl rfl)
    rw [resolve, same]
    dsimp only
    rw [if_neg suits]
  | case5 l names mustBeDirectory parent target rest comes links some_target ih =>
    have same : t.walk (true || mustBeDirectory) l names = .link parent target rest := by
      cases mustBeDirectory with
      | true => exact comes
      | false => exact walk_followed plain comes (Or.inr ⟨_, _, _, rfl⟩)
    rw [resolve, same]
    dsimp only
    rw [if_neg some_target]
    exact ih leads
  | case6 links l names mustBeDirectory not_found => exact absurd leads (not_found place)

end Followed

/-- A path that names a socket leads to it. -/
theorem socketAt_of_stat (named : t.stat path = .ok (.socket number)) :
    t.socketAt path = .ok number := by
  obtain ⟨place, leads, present⟩ := stat_eq_ok.mp named
  have plain : ∀ target, t.node? place ≠ some (.symlink target) := by
    intro target linked
    rw [present] at linked
    cases linked
  obtain ⟨some_path, short, leads⟩ := lookup_found.mp leads
  have follows : t.lookup true path = .found place :=
    lookup_found.mpr ⟨some_path, short, resolve_followed plain leads⟩
  rw [socketAt, follows]
  dsimp only
  rw [present]

/-- A socket that is made takes no name from anything else. -/
theorem stat_after_create {path' : Bytes} {node : Node}
    (made : t.create path (.socket number) = .ok t') (named : t.stat path' = .ok node) :
    t'.stat path' = .ok node := by
  obtain ⟨parent, name, leads, _, rfl⟩ := create_socket made
  have free := reach_missing leads
  exact (agreesOff_set free (.socket number)).stat_eq named (by simp [free])

end LocalPipe.FileTree
