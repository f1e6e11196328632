namespace LocalPipe

/-- A finite map, as a list of entries of which the first with a key counts. -/
structure Table (κ α : Type) where
  entries : List (κ × α) := []
deriving DecidableEq, Repr

namespace Table

variable {κ α : Type} [DecidableEq κ]

instance : Inhabited (Table κ α) := ⟨{}⟩

def lookup (k : κ) : List (κ × α) → Option α
  | [] => none
  | (k', v) :: rest => if k' = k then some v else lookup k rest

def get? (t : Table κ α) (k : κ) : Option α :=
  lookup k t.entries

/-- Replaces the entry of a key, or appends one. -/
def put (k : κ) (v : α) : List (κ × α) → List (κ × α)
  | [] => [(k, v)]
  | (k', v') :: rest => if k' = k then (k, v) :: rest else (k', v') :: put k v rest

def set (t : Table κ α) (k : κ) (v : α) : Table κ α :=
  ⟨put k v t.entries⟩

def erase (t : Table κ α) (k : κ) : Table κ α :=
  ⟨t.entries.filter fun entry => !decide (entry.1 = k)⟩

def contains (t : Table κ α) (k : κ) : Bool :=
  (t.get? k).isSome

@[simp] theorem get?_set_self (t : Table κ α) (k : κ) (v : α) :
    (t.set k v).get? k = some v := by
  obtain ⟨entries⟩ := t
  simp only [get?, set]
  induction entries with
  | nil => simp [put, lookup]
  | cons entry rest ih =>
    simp only [put]
    split
    · simp [lookup]
    · rename_i other
      simp [lookup, other, ih]

theorem get?_set_of_ne (t : Table κ α) {k k' : κ} (v : α) (other : k ≠ k') :
    (t.set k v).get? k' = t.get? k' := by
  obtain ⟨entries⟩ := t
  simp only [get?, set]
  induction entries with
  | nil => simp [put, lookup, other]
  | cons entry rest ih =>
    simp only [put]
    split
    · rename_i same
      simp [lookup, same, other]
    · simp [lookup, ih]

@[simp] theorem get?_erase_self (t : Table κ α) (k : κ) : (t.erase k).get? k = none := by
  obtain ⟨entries⟩ := t
  simp only [get?, erase]
  induction entries with
  | nil => rfl
  | cons entry rest ih =>
    by_cases same : entry.1 = k
    · simpa [same] using ih
    · simp [lookup, same, ih]

theorem get?_erase_of_ne (t : Table κ α) {k k' : κ} (other : k ≠ k') :
    (t.erase k).get? k' = t.get? k' := by
  obtain ⟨entries⟩ := t
  simp only [get?, erase]
  induction entries with
  | nil => rfl
  | cons entry rest ih =>
    by_cases same : entry.1 = k
    · simp [lookup, same, other, ih]
    · simp [lookup, same, ih]

end Table

end LocalPipe
