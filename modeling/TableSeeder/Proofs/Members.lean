import Mathlib.Data.List.Perm.Basic
import TableSeeder.Proofs.Settings.Variables

/-! Members as mappings. With distinct names they are what is found under each name. A merge comes
to the names in the order in which they first came, each with the value that came last. -/

namespace TableSeeder

section Duplicates

variable {α : Type} [BEq α] [LawfulBEq α]

theorem eraseDups_of_nodup {l : List α} (h : l.Nodup) : l.eraseDups = l := by
  induction l with
  | nil => rfl
  | cons a l ih =>
    rw [List.nodup_cons] at h
    have hkept : l.filter (fun b => !b == a) = l := by
      rw [List.filter_eq_self]
      intro b hb
      have hne : b ≠ a := fun heq => h.1 (heq ▸ hb)
      simpa using hne
    rw [List.eraseDups_cons, hkept, ih h.2]

theorem nodup_eraseDups : ∀ l : List α, l.eraseDups.Nodup
  | [] => List.nodup_nil
  | a :: l => by
    have ih := nodup_eraseDups (l.filter fun b => !b == a)
    rw [List.eraseDups_cons, List.nodup_cons]
    exact ⟨by simp, ih⟩
termination_by l => l.length
decreasing_by exact Nat.lt_succ_of_le (List.length_filter_le _ _)

theorem eraseDups_filter (p : α → Bool) : ∀ l : List α,
    (l.filter p).eraseDups = l.eraseDups.filter p
  | [] => rfl
  | a :: l => by
    have ih := eraseDups_filter p (l.filter fun b => !b == a)
    rw [List.filter_filter] at ih
    rw [List.eraseDups_cons]
    cases ha : p a with
    | true =>
      rw [List.filter_cons_of_pos ha, List.filter_cons_of_pos ha, List.eraseDups_cons,
        List.filter_filter, ← ih]
      congr 3
      funext b
      exact Bool.and_comm ..
    | false =>
      rw [List.filter_cons_of_neg (by simp [ha]), List.filter_cons_of_neg (by simp [ha]), ← ih]
      congr 2
      funext b
      by_cases hb : b = a
      · simp [hb, ha]
      · simp [hb]
termination_by l => l.length
decreasing_by exact Nat.lt_succ_of_le (List.length_filter_le _ _)

theorem eraseDups_append_eraseDups (l l' : List α) :
    (l ++ l'.eraseDups).eraseDups = (l ++ l').eraseDups := by
  rw [List.eraseDups_append, List.eraseDups_append, List.removeAll, List.removeAll,
    ← eraseDups_filter, eraseDups_of_nodup (nodup_eraseDups _)]

end Duplicates

namespace Members

variable {α β κ : Type}

theorem last?_append (p : κ → Bool) (ms ms' : Members α κ) :
    last? p (ms ++ ms') = (last? p ms').or (last? p ms) := by
  unfold last?
  rw [List.reverse_append, List.find?_append, Option.map_or]

theorem last?_mapValues (f : α → β) (p : κ → Bool) (ms : Members α κ) :
    last? p (ms.mapValues f) = (last? p ms).map f := by
  induction ms with
  | nil => rfl
  | cons m ms ih =>
    obtain ⟨k, v⟩ := m
    change last? p ((k, f v) :: mapValues f ms) = _
    rw [last?_cons, last?_cons, ih, Option.map_or]
    cases p k <;> rfl

theorem mapValues_id (ms : Members α κ) : ms.mapValues id = ms := List.map_id ms

theorem keys_mapValues (f : α → β) (ms : Members α κ) : (ms.mapValues f).keys = ms.keys := by
  rw [keys, mapValues, List.map_map]
  rfl

variable [DecidableEq κ]

theorem mem_iff_get? {ms : Members α κ} (h : (keys ms).Nodup) {k : κ} {v : α} :
    (k, v) ∈ ms ↔ get? ms k = some v := by
  induction ms with
  | nil => simp
  | cons m ms ih =>
    obtain ⟨k', v'⟩ := m
    rw [keys_cons, List.nodup_cons] at h
    rw [List.mem_cons, Prod.mk.injEq, ih h.2, get?_cons]
    by_cases hk : k = k'
    · subst hk
      simp [get?_eq_none.mpr h.1, eq_comm]
    · simp [hk]

theorem perm_iff_get? {ms ms' : Members α κ} (h : (keys ms).Nodup) (h' : (keys ms').Nodup) :
    ms.Perm ms' ↔ ∀ k, get? ms k = get? ms' k := by
  rw [List.perm_ext_iff_of_nodup (List.Nodup.of_map _ h) (List.Nodup.of_map _ h')]
  constructor
  · intro hmem k
    apply Option.ext
    intro v
    rw [← mem_iff_get? h, ← mem_iff_get? h', hmem]
  · rintro hget ⟨k, v⟩
    rw [mem_iff_get? h, mem_iff_get? h', hget]

theorem eq_of_perm {ms ms' : Members α κ} (h : (keys ms).Nodup) (hperm : ms.Perm ms')
    (hkeys : keys ms = keys ms') : ms = ms' := by
  apply List.ext_getElem hperm.length_eq
  intro i hi hi'
  have hname : ms[i].1 = ms'[i].1 := by
    have hget := List.getElem_of_eq hkeys (i := i) (by simpa [keys] using hi)
    simpa [keys] using hget
  have hmem : (ms[i].1, ms'[i].2) ∈ ms := hname ▸ hperm.mem_iff.mpr (List.getElem_mem hi')
  have hfound : get? ms ms[i].1 = some ms[i].2 := (mem_iff_get? h).mp (List.getElem_mem hi)
  have hfound' := (mem_iff_get? h).mp hmem
  exact Prod.ext hname (Option.some.inj (hfound.symm.trans hfound'))

theorem last?_of_nodup {ms : Members α κ} (h : ms.keys.Nodup) (k : κ) :
    last? (· = k) ms = ms.get? k := by
  induction ms with
  | nil => rfl
  | cons m ms ih =>
    obtain ⟨k', v⟩ := m
    rw [keys_cons, List.nodup_cons] at h
    rw [last?_cons, ih h.2, get?_cons]
    by_cases hk : k' = k
    · subst hk
      simp [get?_eq_none.mpr h.1]
    · simp [hk, Ne.symm hk]

theorem last?_eq_none {ms : Members α κ} {k : κ} (h : k ∉ ms.keys) :
    last? (· = k) ms = none := by
  unfold last?
  rw [Option.map_eq_none_iff, List.find?_eq_none]
  intro m hm
  have hne : m.1 ≠ k := by
    rintro rfl
    exact h (List.mem_map_of_mem (List.mem_reverse.mp hm))
  simpa using hne

theorem nodup_keys_merge {ms : Members α κ} (h : ms.keys.Nodup) (later : Members α κ) :
    (ms.merge later).keys.Nodup :=
  nodup_keys_foldl_set id later ms h

theorem get?_merge (ms later : Members α κ) (k : κ) :
    (ms.merge later).get? k = (last? (· = k) later).or (ms.get? k) :=
  get?_foldl_set id later ms k

/-- A name stays where it came first. -/
theorem keys_merge [BEq κ] [LawfulBEq κ] {ms : Members α κ} (h : ms.keys.Nodup)
    (later : Members α κ) : (ms.merge later).keys = (ms.keys ++ later.keys).eraseDups := by
  induction later generalizing ms with
  | nil => rw [merge_nil, keys_nil, List.append_nil, eraseDups_of_nodup h]
  | cons m later ih =>
    obtain ⟨k, v⟩ := m
    rw [merge_cons, ih (nodup_keys_set h k v), keys_cons]
    by_cases hk : k ∈ ms.keys
    · rw [keys_set_of_mem v hk, List.eraseDups_append, List.eraseDups_append, List.cons_removeAll]
      simp [hk]
    · rw [keys_set_of_notMem v hk, List.append_assoc, List.singleton_append]

theorem merge_nil_left {ms : Members α κ} (h : ms.keys.Nodup) : merge [] ms = ms := by
  have hall (acc later : Members α κ) (h : (acc ++ later).keys.Nodup) :
      acc.merge later = acc ++ later := by
    induction later generalizing acc with
    | nil => rw [merge_nil, List.append_nil]
    | cons m later ih =>
      have hm : m.1 ∉ acc.keys := by
        rw [keys, List.map_append, List.nodup_append] at h
        intro hmem
        exact h.2.2 m.1 hmem m.1 List.mem_cons_self rfl
      rw [merge_cons, set_of_notMem m.2 hm, ih _ (by rwa [List.append_assoc]), List.append_assoc]
      rfl
  exact hall [] ms h

theorem mapValues_merge (f : α → β) (ms later : Members α κ) :
    (ms.merge later).mapValues f = (ms.mapValues f).merge (later.mapValues f) := by
  have hset (ms : Members α κ) (k : κ) (v : α) :
      (ms.set k v).mapValues f = (ms.mapValues f).set k (f v) := by
    induction ms with
    | nil => rfl
    | cons m ms ih =>
      rw [set]
      by_cases hk : m.1 = k
      · rw [if_pos hk]
        exact (if_pos hk).symm
      · rw [if_neg hk]
        exact (congrArg ((m.1, f m.2) :: ·) ih).trans (if_neg hk).symm
  induction later generalizing ms with
  | nil => rfl
  | cons m later ih =>
    rw [merge_cons, ih, hset]
    rfl

theorem mem_set {ms : Members α κ} {k : κ} {v : α} {m : κ × α} (h : m ∈ ms.set k v) :
    m ∈ ms ∨ m = (k, v) := by
  induction ms with
  | nil => exact .inr (List.mem_singleton.mp h)
  | cons m' ms ih =>
    rw [set] at h
    split at h
    · rcases List.mem_cons.mp h with rfl | hm
      · rename_i hk
        exact .inr (Prod.ext hk rfl)
      · exact .inl (List.mem_cons_of_mem _ hm)
    · rcases List.mem_cons.mp h with rfl | hm
      · exact .inl List.mem_cons_self
      · exact (ih hm).imp_left (List.mem_cons_of_mem _)

theorem mem_merge {ms later : Members α κ} {m : κ × α} (h : m ∈ ms.merge later) :
    m ∈ ms ∨ m ∈ later := by
  induction later generalizing ms with
  | nil => exact .inl h
  | cons m' later ih =>
    rw [merge_cons] at h
    rcases ih h with hset | hlater
    · rcases mem_set hset with hm | rfl
      · exact .inl hm
      · exact .inr List.mem_cons_self
    · exact .inr (List.mem_cons_of_mem _ hlater)

end Members

end TableSeeder
