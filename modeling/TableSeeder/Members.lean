/-! Ordered members: named entries that keep the order in which their names first came. -/

namespace TableSeeder

abbrev Members (α : Type) (κ : Type := String) := List (κ × α)

namespace Members

variable {α β κ : Type}

def keys (ms : Members α κ) : List κ := ms.map Prod.fst

def mapValues (f : α → β) (ms : Members α κ) : Members β κ := ms.map fun m => (m.1, f m.2)

@[simp] theorem keys_nil : keys ([] : Members α κ) = [] := rfl

@[simp] theorem keys_cons (m : κ × α) (ms : Members α κ) :
    keys (m :: ms) = m.1 :: keys ms := rfl

variable [DecidableEq κ]

def get? (ms : Members α κ) (key : κ) : Option α := ms.lookup key

/-- A key that is present keeps its place and takes the new value; a new key goes to the end. -/
def set : Members α κ → κ → α → Members α κ
  | [], key, value => [(key, value)]
  | (k, v) :: rest, key, value =>
    if k = key then (k, value) :: rest else (k, v) :: set rest key value

def merge (ms later : Members α κ) : Members α κ :=
  later.foldl (fun acc m => set acc m.1 m.2) ms

def erase (ms : Members α κ) (key : κ) : Members α κ := ms.filter fun m => m.1 ≠ key

@[simp] theorem get?_nil (key : κ) : get? ([] : Members α κ) key = none := rfl

@[simp] theorem merge_nil (ms : Members α κ) : merge ms [] = ms := rfl

@[simp] theorem merge_cons (ms later : Members α κ) (m : κ × α) :
    merge ms (m :: later) = merge (set ms m.1 m.2) later := rfl

theorem get?_cons (k key : κ) (v : α) (ms : Members α κ) :
    get? ((k, v) :: ms) key = if key = k then some v else get? ms key := by
  by_cases h : key = k
  · simp [get?, h]
  · have hb : (key == k) = false := by simpa using h
    simp [get?, List.lookup_cons, hb, h]

theorem get?_set (ms : Members α κ) (k key : κ) (v : α) :
    get? (set ms k v) key = if key = k then some v else get? ms key := by
  induction ms with
  | nil => simp [set, get?_cons]
  | cons m ms ih =>
    obtain ⟨k', v'⟩ := m
    by_cases h : k' = k
    · subst h
      by_cases hk : key = k' <;> simp [set, get?_cons, hk]
    · by_cases hk : key = k'
      · subst hk
        simp [set, get?_cons, h]
      · simp [set, get?_cons, h, hk, ih]

theorem get?_eq_none {ms : Members α κ} {k : κ} : get? ms k = none ↔ k ∉ keys ms := by
  induction ms with
  | nil => simp
  | cons m ms ih =>
    obtain ⟨k', v⟩ := m
    by_cases h : k = k' <;> simp [get?_cons, h, ih]

theorem mem_of_get? {ms : Members α κ} {k : κ} {v : α} (h : get? ms k = some v) :
    (k, v) ∈ ms := by
  induction ms with
  | nil => cases h
  | cons m ms ih =>
    obtain ⟨k', v'⟩ := m
    rw [get?_cons] at h
    by_cases hk : k = k'
    · rw [if_pos hk] at h
      rw [hk, Option.some.inj h]
      exact List.mem_cons_self
    · rw [if_neg hk] at h
      exact List.mem_cons_of_mem _ (ih h)

theorem set_of_notMem {ms : Members α κ} {k : κ} (v : α) (h : k ∉ keys ms) :
    set ms k v = ms ++ [(k, v)] := by
  induction ms with
  | nil => rfl
  | cons m ms ih =>
    obtain ⟨k', v'⟩ := m
    simp only [keys_cons, List.mem_cons, not_or] at h
    rw [set, if_neg (Ne.symm h.1), ih h.2, List.cons_append]

theorem keys_set_of_mem {ms : Members α κ} {k : κ} (v : α) (h : k ∈ keys ms) :
    keys (set ms k v) = keys ms := by
  induction ms with
  | nil => simp at h
  | cons m ms ih =>
    obtain ⟨k', v'⟩ := m
    by_cases hk : k' = k
    · simp [set, hk]
    · have hmem : k ∈ keys ms := by
        simpa [Ne.symm hk] using h
      simp [set, hk, ih hmem]

theorem keys_set_of_notMem {ms : Members α κ} {k : κ} (v : α) (h : k ∉ keys ms) :
    keys (set ms k v) = keys ms ++ [k] := by
  rw [set_of_notMem v h, keys, List.map_append]
  rfl

end Members

end TableSeeder
