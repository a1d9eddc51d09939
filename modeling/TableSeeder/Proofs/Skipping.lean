import TableSeeder.Proofs.Calls
import TableSeeder.Proofs.Table.Requests

/-! Runs that go on behind the writes that the service refuses and behind no others that fail: what
their writes meet, and what comes of the whole run if each of its entries follows from it. -/

namespace TableSeeder

/-- What the writes of a run meet: whether the ids of the k-th are drawn, what its call fails by,
and whether all is well behind the call. -/
structure Conditions where
  drawn : Nat → Prop
  failure? : Nat → Option Failure
  followed : Nat → Prop

namespace Conditions

structure Passes (c : Conditions) (k : Nat) : Prop where
  drawn : c.drawn k
  refused (f) (hf : c.failure? k = some f) : f.IsFault
  followed : c.followed k

/-- A run of `n` writes makes the k-th just if all before it pass and its ids are drawn, returns
just if all pass, and fails by the first call that fails otherwise than by a refusal. -/
structure Skips (c : Conditions) (n : Nat) (outcome : Except Failure Summary) (es : List Event) :
    Prop where
  written_le : es.countP Event.isWrite ≤ n
  written_iff (k) (hk : k < n) :
    k < es.countP Event.isWrite ↔ (∀ i < k, c.Passes i) ∧ c.drawn k
  returns_iff : (∃ s, outcome = .ok s) ↔ ∀ k < n, c.Passes k
  counted (s) (hs : outcome = .ok s) : s.attempted = n ∧
    s.succeeded = ((List.range n).countP fun k => (c.failure? k).isNone) ∧
    s.failed = (List.range n).countP fun k => (c.failure? k).isSome
  stopped (k f) (hk : k < n) (hbefore : ∀ i < k, c.Passes i) (hdrawn : c.drawn k)
    (hf : c.failure? k = some f) (hfault : ¬ f.IsFault) : outcome = .error f

variable {α : Type} {c : Conditions} {entry : Nat → α} {failure? : α → Option Failure}
  {events : α → List Event} {count : Tally → α → Tally} {n : Nat}

structure Governs (c : Conditions) (entry : Nat → α) (failure? : α → Option Failure)
    (events : α → List Event) (count : Tally → α → Tally) : Prop where
  goesOn_iff (k) : failure? (entry k) = none ↔ c.Passes k
  stopped (k f) (hdrawn : c.drawn k) (hf : c.failure? k = some f) (hfault : ¬ f.IsFault) :
    failure? (entry k) = some f
  writes_le (k) : (events (entry k)).countP Event.isWrite ≤ 1
  writes_iff (k) : (events (entry k)).countP Event.isWrite = 1 ↔ c.drawn k
  count (k) (h : c.Passes k) (t : Tally) : count t (entry k) =
    ⟨t.attempted + 1, t.succeeded + (c.failure? k).isNone.toNat,
      t.failed + (c.failure? k).isSome.toNat⟩

namespace Governs

variable (h : c.Governs entry failure? events count)
include h

theorem countP_writes (hdrawn : ∀ k < n, c.drawn k) :
    (((List.range n).map entry).flatMap events).countP Event.isWrite = n := by
  induction n with
  | zero => rfl
  | succ n ih =>
    have hlast := (h.writes_iff n).mpr (hdrawn n (Nat.lt_succ_self n))
    rw [List.range_succ, List.map_append, List.flatMap_append, List.countP_append,
      ih fun k hk => hdrawn k (Nat.lt_succ_of_lt hk), List.map_singleton, List.flatMap_singleton,
      hlast]

theorem written_iff {k : Nat} (hk : k < n) :
    k < ((upToFailure failure? ((List.range n).map entry)).flatMap events).countP
        Event.isWrite ↔ (∀ i < k, c.Passes i) ∧ c.drawn k := by
  cases hf : ((List.range n).map entry).findSome? failure? with
  | none =>
    have hpasses : ∀ k < n, c.Passes k :=
      fun k hk => (h.goesOn_iff k).mp (findSome?_range_eq_none hf hk)
    rw [upToFailure_eq_self hf, h.countP_writes fun k hk => (hpasses k hk).drawn]
    exact iff_of_true hk ⟨fun i hi => hpasses i (Nat.lt_trans hi hk), (hpasses k hk).drawn⟩
  | some f =>
    -- the run stops at the j-th entry, which may have written itself
    obtain ⟨j, hj, hbefore, hfail, hup⟩ := exists_upToFailure_range hf
    have hpasses : ∀ i < j, c.Passes i := fun i hi => (h.goesOn_iff i).mp (hbefore i hi)
    have hstops : ¬ c.Passes j := by
      rw [← h.goesOn_iff, hfail]
      exact nofun
    rw [hup, List.flatMap_append, List.countP_append, List.flatMap_singleton,
      h.countP_writes fun k hk => (hpasses k hk).drawn]
    have hle := h.writes_le j
    constructor
    · intro hlt
      rcases Nat.lt_or_ge k j with hkj | hkj
      · exact ⟨fun i hi => hpasses i (Nat.lt_trans hi hkj), (hpasses k hkj).drawn⟩
      · obtain rfl : k = j := by omega
        exact ⟨hpasses, (h.writes_iff k).mp (by omega)⟩
    · rintro ⟨hall, hdrawn⟩
      rcases Nat.lt_trichotomy k j with hkj | rfl | hkj
      · omega
      · rw [(h.writes_iff k).mpr hdrawn]
        exact Nat.lt_succ_self k
      · exact absurd (hall j hkj) hstops

theorem written_le :
    ((upToFailure failure? ((List.range n).map entry)).flatMap events).countP Event.isWrite ≤
      n := by
  cases hf : ((List.range n).map entry).findSome? failure? with
  | none =>
    have hdrawn : ∀ k < n, c.drawn k :=
      fun k hk => ((h.goesOn_iff k).mp (findSome?_range_eq_none hf hk)).drawn
    rw [upToFailure_eq_self hf]
    exact Nat.le_of_eq (h.countP_writes hdrawn)
  | some f =>
    obtain ⟨j, hj, hbefore, -, hup⟩ := exists_upToFailure_range hf
    have hdrawn : ∀ i < j, c.drawn i := fun i hi => ((h.goesOn_iff i).mp (hbefore i hi)).drawn
    rw [hup, List.flatMap_append, List.countP_append, List.flatMap_singleton,
      h.countP_writes hdrawn]
    exact Nat.le_trans (Nat.add_le_add_left (h.writes_le j) j) hj

theorem skips {outcome : Except Failure Summary} {es : List Event} (duration : Float)
    (hes : es.countP Event.isWrite =
      ((upToFailure failure? ((List.range n).map entry)).flatMap events).countP Event.isWrite)
    (houtcome : outcome =
      match ((List.range n).map entry).findSome? failure? with
      | some f => .error f
      | none =>
        let t := (upToFailure failure? ((List.range n).map entry)).foldl count {}
        .ok ⟨t.attempted, t.succeeded, t.failed, duration⟩) : c.Skips n outcome es where
  written_le := by
    rw [hes]
    exact h.written_le
  written_iff k hk := by
    rw [hes]
    exact h.written_iff hk
  returns_iff := by
    rw [houtcome]
    cases hf : ((List.range n).map entry).findSome? failure? with
    | none =>
      refine iff_of_true ⟨_, rfl⟩ fun k hk => ?_
      exact (h.goesOn_iff k).mp (findSome?_range_eq_none hf hk)
    | some f =>
      obtain ⟨j, hj, -, hfail, -⟩ := exists_upToFailure_range hf
      refine iff_of_false nofun fun hall => ?_
      rw [(h.goesOn_iff j).mpr (hall j hj)] at hfail
      cases hfail
  counted s hs := by
    rw [houtcome] at hs
    cases hf : ((List.range n).map entry).findSome? failure? with
    | none =>
      have htally := foldl_tally (n := n) fun k hk =>
        h.count k ((h.goesOn_iff k).mp (findSome?_range_eq_none hf hk))
      rw [hf, upToFailure_eq_self hf, htally] at hs
      obtain rfl := Except.ok.inj hs
      exact ⟨rfl, rfl, rfl⟩
    | some f =>
      rw [hf] at hs
      cases hs
  stopped k f hk hbefore hdrawn hf hfault := by
    have hgoes : ∀ i < k, failure? (entry i) = none :=
      fun i hi => (h.goesOn_iff i).mpr (hbefore i hi)
    rw [houtcome, findSome?_range_eq_some hk hgoes (h.stopped k f hdrawn hf hfault)]

end Governs

end Conditions

end TableSeeder
