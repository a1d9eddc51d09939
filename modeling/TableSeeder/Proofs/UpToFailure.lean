import TableSeeder.Load

/-! The part of a list that a run gets through when it breaks off at the first failure, and loops
that get through just that part. -/

namespace TableSeeder

variable {α : Type}

def upToFailure (failure? : α → Option Failure) : List α → List α
  | [] => []
  | a :: as =>
    match failure? a with
    | some _ => [a]
    | none => a :: upToFailure failure? as

variable {failure? : α → Option Failure}

theorem upToFailure_cons_of_some {a : α} {f : Failure} (h : failure? a = some f) (as : List α) :
    upToFailure failure? (a :: as) = [a] := by
  rw [upToFailure, h]

theorem upToFailure_cons_of_none {a : α} (h : failure? a = none) (as : List α) :
    upToFailure failure? (a :: as) = a :: upToFailure failure? as := by
  rw [upToFailure, h]

theorem upToFailure_isPrefixOf (as : List α) : upToFailure failure? as <+: as := by
  induction as with
  | nil => exact List.prefix_rfl
  | cons a as ih =>
    cases ha : failure? a with
    | some f =>
      rw [upToFailure_cons_of_some ha]
      exact List.prefix_append [a] as
    | none =>
      rw [upToFailure_cons_of_none ha]
      exact List.cons_prefix_cons.mpr ⟨rfl, ih⟩

theorem mem_of_mem_upToFailure {a : α} {as : List α} (h : a ∈ upToFailure failure? as) :
    a ∈ as := (upToFailure_isPrefixOf as).subset h

theorem upToFailure_eq_self {as : List α} (h : as.findSome? failure? = none) :
    upToFailure failure? as = as := by
  induction as with
  | nil => rfl
  | cons a as ih =>
    rw [List.findSome?_eq_none_iff] at h
    have ha : failure? a = none := h a List.mem_cons_self
    have has : as.findSome? failure? = none :=
      List.findSome?_eq_none_iff.mpr fun b hb => h b (List.mem_cons_of_mem a hb)
    rw [upToFailure_cons_of_none ha, ih has]

theorem findSome?_range_eq_none {entry : Nat → α} {n : Nat}
    (h : ((List.range n).map entry).findSome? failure? = none) {k : Nat} (hk : k < n) :
    failure? (entry k) = none := by
  apply List.findSome?_eq_none_iff.mp h
  exact List.mem_map_of_mem (List.mem_range.mpr hk)

theorem exists_upToFailure_range {entry : Nat → α} {n : Nat} {f : Failure}
    (h : ((List.range n).map entry).findSome? failure? = some f) :
    ∃ k < n, (∀ i < k, failure? (entry i) = none) ∧ failure? (entry k) = some f ∧
      upToFailure failure? ((List.range n).map entry) =
        (List.range k).map entry ++ [entry k] := by
  induction n generalizing entry with
  | zero => cases h
  | succ n ih =>
    rw [List.range_succ_eq_map, List.map_cons, List.map_map] at h ⊢
    rw [List.findSome?_cons] at h
    cases h0 : failure? (entry 0) with
    | some g =>
      rw [h0] at h
      refine ⟨0, Nat.succ_pos n, fun i hi => absurd hi (Nat.not_lt_zero i), h0.trans h, ?_⟩
      exact upToFailure_cons_of_some h0 _
    | none =>
      rw [h0] at h
      obtain ⟨k, hk, hbefore, hfail, hup⟩ := ih h
      refine ⟨k + 1, Nat.succ_lt_succ hk, fun i hi => ?_, hfail, ?_⟩
      · cases i with
        | zero => exact h0
        | succ i => exact hbefore i (Nat.lt_of_succ_lt_succ hi)
      · rw [upToFailure_cons_of_none h0, hup, List.range_succ_eq_map (n := k), List.map_cons,
          List.map_map]
        rfl

theorem findSome?_range_eq_some {entry : Nat → α} {n k : Nat} {f : Failure} (hk : k < n)
    (hbefore : ∀ i < k, failure? (entry i) = none) (hfail : failure? (entry k) = some f) :
    ((List.range n).map entry).findSome? failure? = some f := by
  cases h : ((List.range n).map entry).findSome? failure? with
  | none =>
    rw [findSome?_range_eq_none h hk] at hfail
    cases hfail
  | some g =>
    obtain ⟨j, hj, hjbefore, hjfail, -⟩ := exists_upToFailure_range h
    have hjk : j = k := by
      rcases Nat.lt_trichotomy j k with hlt | heq | hlt
      · rw [hbefore j hlt] at hjfail
        cases hjfail
      · exact heq
      · rw [hjbefore k hlt] at hfail
        cases hfail
    rw [← hjfail, hjk, hfail]

theorem foldl_tally {entry : Nat → α} {count : Tally → α → Tally} {wrong? : Nat → Option Failure}
    {n : Nat} (h : ∀ k < n, ∀ t, count t (entry k) =
      ⟨t.attempted + 1, t.succeeded + (wrong? k).isNone.toNat,
        t.failed + (wrong? k).isSome.toNat⟩) :
    ((List.range n).map entry).foldl count {} =
      ⟨n, (List.range n).countP fun k => (wrong? k).isNone,
        (List.range n).countP fun k => (wrong? k).isSome⟩ := by
  induction n with
  | zero => rfl
  | succ n ih =>
    rw [List.range_succ, List.map_append, List.foldl_append,
      ih fun k hk => h k (Nat.lt_succ_of_lt hk), List.map_singleton, List.foldl_cons,
      List.foldl_nil, h n (Nat.lt_succ_self n)]
    simp only [List.countP_append, List.countP_singleton]
    cases wrong? n <;> rfl

theorem foldl_pair {σ τ : Type} (f : σ → α → σ) (g : τ → α → τ) (as : List α) (s : σ) (t : τ) :
    as.foldl (fun p a => (f p.1 a, g p.2 a)) (s, t) = (as.foldl f s, as.foldl g t) := by
  induction as generalizing s t with
  | nil => rfl
  | cons a as ih => exact ih (f s a) (g t a)

/-- A loop that makes one entry after another, each found in the state that the one before it has
left, and breaks off behind the first that fails. -/
structure Unrolls {σ ρ : Type} (loop : Nat → σ → ρ) (sound : σ → Prop) (entry : σ → Nat → α)
    (failure? : α → Option Failure) (effect : σ → α → σ) (ended : σ → ρ)
    (failed : Failure → σ → ρ) : Prop where
  zero (s : σ) : loop 0 s = ended s
  succ (n : Nat) {s : σ} (hs : sound s) : loop (n + 1) s =
    match failure? (entry s 0) with
    | some f => failed f (effect s (entry s 0))
    | none => loop n (effect s (entry s 0))
  sound_effect {s : σ} (hs : sound s) : sound (effect s (entry s 0))
  entry_succ (s : σ) (k : Nat) (h : failure? (entry s 0) = none) :
    entry s (k + 1) = entry (effect s (entry s 0)) k

theorem Unrolls.loop_eq {σ ρ : Type} {loop : Nat → σ → ρ} {sound : σ → Prop}
    {entry : σ → Nat → α} {effect : σ → α → σ} {ended : σ → ρ} {failed : Failure → σ → ρ}
    (h : Unrolls loop sound entry failure? effect ended failed) (n : Nat) {s : σ} (hs : sound s) :
    loop n s =
      let entries := (List.range n).map (entry s)
      let s' := (upToFailure failure? entries).foldl effect s
      match entries.findSome? failure? with
      | some f => failed f s'
      | none => ended s' := by
  induction n generalizing s with
  | zero => exact h.zero s
  | succ n ih =>
    rw [h.succ n hs, List.range_succ_eq_map, List.map_cons, List.map_map]
    cases h0 : failure? (entry s 0) with
    | some f =>
      dsimp only
      rw [upToFailure_cons_of_some h0, List.findSome?_cons, h0]
      rfl
    | none =>
      -- the entries behind the first one are those of the state it leaves
      have hentries : entry s ∘ Nat.succ = entry (effect s (entry s 0)) := by
        funext k
        exact h.entry_succ s k h0
      dsimp only
      rw [ih (h.sound_effect hs), hentries, upToFailure_cons_of_none h0, List.findSome?_cons, h0]
      rfl

end TableSeeder
