import TableSeeder.Proofs.Calls
import TableSeeder.Proofs.Load.Runs

/-! Loads that nothing breaks off, on any store that answers by the script: what they take, what
they count and which calls they make. -/

namespace TableSeeder

namespace Load

theorem Course.failure?_of_eq_none {id : Except Failure String} {write pause : Option Failure} :
    (Course.of id write pause).failure? = none ↔
      (∃ x, id = .ok x) ∧ (∀ f, write = some f → ∃ r, f = .rejected r) ∧ pause = none := by
  cases id with
  | error f => exact iff_of_false nofun fun ⟨⟨x, hx⟩, _⟩ => nomatch hx
  | ok x =>
    cases write with
    | none => exact ⟨fun h => ⟨⟨x, rfl⟩, fun _ => nofun, h⟩, fun h => h.2.2⟩
    | some f =>
      cases f with
      | rejected r =>
        refine ⟨fun h => ⟨⟨x, rfl⟩, fun f hf => ⟨r, (Option.some.inj hf).symm⟩, h⟩, fun h => h.2.2⟩
      | _ =>
        refine iff_of_false nofun fun ⟨_, hwrite, _⟩ => ?_
        obtain ⟨r, hr⟩ := hwrite _ rfl
        cases hr

section Settled

variable {m : Manner} {interval : Interval} {w : World} {n k : Nat}

theorem rounds_settled_iff :
    (rounds m interval 0 w n).findSome? Round.failure? = none ↔
      ∀ k < n, (∃ id, w.script.id (w.ids + k) = .ok id) ∧
        (∀ f, m.failure? (w.script.write (w.writes + k)) = some f → ∃ r, f = .rejected r) ∧
        w.script.pauseFailure? interval (w.sleeps + k) = none := by
  constructor
  · intro h k hk
    exact Course.failure?_of_eq_none.mp (findSome?_range_eq_none h hk)
  · intro h
    rw [List.findSome?_eq_none_iff]
    intro r hr
    obtain ⟨k, hk, rfl⟩ := List.mem_map.mp hr
    exact Course.failure?_of_eq_none.mpr (h k (List.mem_range.mp hk))

theorem count_round (h : (round m interval 0 w k).failure? = none) (t : Tally) :
    (round m interval 0 w k).count t =
      ⟨t.attempted + 1,
        t.succeeded + (m.failure? (w.script.write (w.writes + k))).isNone.toNat,
        t.failed + (m.failure? (w.script.write (w.writes + k))).isSome.toNat⟩ := by
  obtain ⟨⟨id, hid⟩, hwrite, -⟩ := Course.failure?_of_eq_none.mp h
  rw [Round.count, round]
  dsimp only
  rw [hid]
  cases hf : m.failure? (w.script.write (w.writes + k)) with
  | none => rfl
  | some f =>
    obtain ⟨r, rfl⟩ := hwrite f hf
    rfl

theorem count_rounds (h : (rounds m interval 0 w n).findSome? Round.failure? = none) :
    (rounds m interval 0 w n).foldl Round.count {} =
      ⟨n, (List.range n).countP fun k => (m.failure? (w.script.write (w.writes + k))).isNone,
        (List.range n).countP fun k => (m.failure? (w.script.write (w.writes + k))).isSome⟩ := by
  apply foldl_tally
  intro k hk
  exact count_round (findSome?_range_eq_none h hk)

theorem calls_round (h : (round m interval 0 w k).failure? = none) (table : String)
    (hnote : ∀ table item, (m.note table item).isCall = true) {id : String}
    (hid : w.script.id (w.ids + k) = .ok id) :
    ((round m interval 0 w k).events m table interval).filter Event.isCall =
      [m.note table (Record.single id).item, .sleep interval] := by
  obtain ⟨-, hwrite, -⟩ := Course.failure?_of_eq_none.mp h
  have hcall := hnote table (Record.single id).item
  rw [Round.events, round]
  dsimp only
  rw [hid]
  cases hf : m.failure? (w.script.write (w.writes + k)) with
  | none => simp [Course.of, hcall]
  | some f =>
    obtain ⟨r, rfl⟩ := hwrite f hf
    simp [Course.of, hcall]

theorem calls_rounds (h : (rounds m interval 0 w n).findSome? Round.failure? = none)
    (table : String) (hnote : ∀ table item, (m.note table item).isCall = true)
    {ids : Nat → String} (hids : ∀ k < n, w.script.id (w.ids + k) = .ok (ids k)) :
    ((rounds m interval 0 w n).flatMap (Round.events m table interval)).filter Event.isCall =
      (List.range n).flatMap fun k =>
        [m.note table (Record.single (ids k)).item, .sleep interval] := by
  rw [List.filter_flatMap, rounds, List.flatMap_map, List.flatMap_def, List.flatMap_def]
  congr 1
  apply List.map_congr_left
  intro k hk
  have hk : k < n := List.mem_range.mp hk
  exact calls_round (findSome?_range_eq_none h hk) table hnote (hids k hk)

end Settled

end Load

end TableSeeder
