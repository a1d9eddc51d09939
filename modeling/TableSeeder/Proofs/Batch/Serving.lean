import TableSeeder.Proofs.Batch.Unfolding
import TableSeeder.Proofs.Table.Requests

/-! The requests of a batch run that go to the service: how one goes is settled by the draws for
its ids and by the reply to it. -/

namespace TableSeeder.Batch

variable {s : Script} {j size : Nat} {reply : Reply} {client : Nat}

/-- How a request to the service may go, with the draws from the j-th on and the reply to it. -/
inductive Served (s : Script) (j size : Nat) (reply : Reply) : Course → Prop where
  | undrawn {f : Failure} (hdraw : BreaksAtDraw s j size f) : Served s j size reply (.undrawn f)
  | broken {ids : List String} {f : Failure} (hids : s.draws j size = ids.map .ok)
      (hreply : ¬ reply.Settled) (hcause : ∀ g, reply.failure = some g → g = f) :
      Served s j size reply (.broken ids f)
  | rejected {ids : List String} {fault : Fault} (hids : s.draws j size = ids.map .ok)
      (hreply : reply.failure = some (.incident (.refused fault))) :
      Served s j size reply (.rejected ids (.ofFault fault))
  | written {ids : List String} {left : Nat} (hids : s.draws j size = ids.map .ok)
      (hreply : reply.failure = none) (hleft : Table.LeavesOver reply.value left) :
      Served s j size reply (.written ids (.int left))

theorem of_broken {ids : List String} {f : Failure} (h : ∀ r, f ≠ .rejected r) :
    Course.of (.ok ids) (.error f) = .broken ids f := by
  cases f with
  | rejected r => exact absurd rfl (h r)
  | _ => rfl

theorem served_course (hforeign : ∀ r, reply.failure ≠ some (.rejected r)) :
    Served s j size reply
      (.of ((s.draws j size).mapM id) ((Manner.client client).answer reply)) := by
  cases hids : (s.draws j size).mapM id with
  | error f => exact .undrawn (breaksAtDraw_of_mapM hids)
  | ok ids =>
    have hdrawn : s.draws j size = ids.map .ok := mapM_eq_ok_iff.mp hids
    unfold Manner.client
    dsimp only
    cases hfailure : reply.failure with
    | some f =>
      rw [hfailure] at hforeign
      -- of what a write can fail by, only a refusal is made a rejection
      by_cases hrefused : f.IsFault
      · obtain ⟨fault, rfl⟩ := hrefused
        exact .rejected hdrawn hfailure
      · have hf : Table.asRejection f = f := Table.asRejection_of_not_isFault hrefused
        dsimp only
        rw [hf, of_broken fun r hr => hforeign r (congrArg some hr)]
        apply Served.broken hdrawn
        · rintro (⟨fault, hfault⟩ | ⟨hnone, -⟩)
          · rw [hfailure] at hfault
            exact hrefused ⟨fault, Option.some.inj hfault⟩
          · rw [hfailure] at hnone
            cases hnone
        · intro g hg
          exact Option.some.inj (hg.symm.trans hfailure)
    | none =>
      dsimp only
      cases hleft : Table.unprocessed reply.value with
      | ok left => exact .written hdrawn hfailure (Table.unprocessed_eq_ok_iff.mp hleft)
      | error f =>
        change Served s j size reply (.of (.ok ids) (.error f))
        rw [of_broken (Table.ne_rejected_of_unprocessed hleft)]
        apply Served.broken hdrawn
        · rintro (⟨fault, hfault⟩ | ⟨-, left, hcounted⟩)
          · rw [hfailure] at hfault
            cases hfault
          · rw [Table.unprocessed_eq_ok_iff.mpr hcounted] at hleft
            cases hleft
        · intro g hg
          rw [hfailure] at hg
          cases hg

theorem exists_drawn_iff :
    (∃ ids : List String, s.draws j size = ids.map .ok) ↔
      ∀ i < size, ∃ id, s.id (j + i) = .ok id := by
  constructor
  · rintro ⟨ids, hids⟩ i hi
    have hmem : s.id (j + i) ∈ s.draws j size := List.mem_map_of_mem (List.mem_range.mpr hi)
    rw [hids] at hmem
    obtain ⟨id, -, hid⟩ := List.mem_map.mp hmem
    exact ⟨id, hid.symm⟩
  · intro h
    cases hids : (s.draws j size).mapM id with
    | ok ids => exact ⟨ids, mapM_eq_ok_iff.mp hids⟩
    | error f =>
      obtain ⟨i, hi, -, hfail⟩ := breaksAtDraw_of_mapM hids
      obtain ⟨id, hid⟩ := h i hi
      rw [hid] at hfail
      cases hfail

theorem not_drawn_of_breaksAtDraw {f : Failure} (h : BreaksAtDraw s j size f) :
    ¬ ∀ i < size, ∃ id, s.id (j + i) = .ok id := by
  obtain ⟨i, hi, -, hfail⟩ := h
  intro hdrawn
  obtain ⟨id, hid⟩ := hdrawn i hi
  rw [hid] at hfail
  cases hfail

namespace Served

variable {c : Course} (h : Served s j size reply c)
include h

theorem failure?_eq_none_iff :
    c.failure? = none ↔ (∀ i < size, ∃ id, s.id (j + i) = .ok id) ∧ reply.Settled := by
  cases h with
  | undrawn hdraw => exact iff_of_false nofun fun h => not_drawn_of_breaksAtDraw hdraw h.1
  | broken hids hreply hcause => exact iff_of_false nofun fun h => hreply h.2
  | rejected hids hreply =>
    exact iff_of_true rfl ⟨exists_drawn_iff.mp ⟨_, hids⟩, .inl ⟨_, hreply⟩⟩
  | written hids hreply hleft =>
    exact iff_of_true rfl ⟨exists_drawn_iff.mp ⟨_, hids⟩, .inr ⟨hreply, _, hleft⟩⟩

theorem writes_eq_one_iff : c.writes = 1 ↔ ∀ i < size, ∃ id, s.id (j + i) = .ok id := by
  cases h with
  | undrawn hdraw => exact iff_of_false nofun (not_drawn_of_breaksAtDraw hdraw)
  | broken hids _ _ => exact iff_of_true rfl (exists_drawn_iff.mp ⟨_, hids⟩)
  | rejected hids _ => exact iff_of_true rfl (exists_drawn_iff.mp ⟨_, hids⟩)
  | written hids _ _ => exact iff_of_true rfl (exists_drawn_iff.mp ⟨_, hids⟩)

theorem failure?_of_not_isFault (hdrawn : ∀ i < size, ∃ id, s.id (j + i) = .ok id) {f : Failure}
    (hf : reply.failure = some f) (hfault : ¬ f.IsFault) : c.failure? = some f := by
  cases h with
  | undrawn hdraw => exact absurd hdrawn (not_drawn_of_breaksAtDraw hdraw)
  | broken _ _ hcause => rw [hcause f hf]; rfl
  | rejected _ hreply =>
    rw [hreply] at hf
    exact absurd ⟨_, (Option.some.inj hf).symm⟩ hfault
  | written _ hreply _ =>
    rw [hreply] at hf
    cases hf

theorem count_eq (hgoes : c.failure? = none) (t : Tally) :
    c.count t = ⟨t.attempted + 1, t.succeeded + reply.failure.isNone.toNat,
      t.failed + reply.failure.isSome.toNat⟩ := by
  cases h with
  | undrawn _ => cases hgoes
  | broken _ _ _ => cases hgoes
  | rejected _ hreply =>
    rw [hreply]
    rfl
  | written _ hreply _ =>
    rw [hreply]
    rfl

end Served

end TableSeeder.Batch
