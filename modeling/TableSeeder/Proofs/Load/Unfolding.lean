import TableSeeder.Proofs.Load.Runs

/-! What is seen of a load, as an unfolding of the script: a fresh load shows what its rounds show,
one after another, up to the first that fails, and ends in the failure of that one. -/

namespace TableSeeder

def Event.isShown : Event → Bool
  | .out _ => true
  | .put _ _ => true
  | .sleep _ => true
  | _ => false

namespace Load

/-- What is seen of an iteration: its progress line and its write, once there is an id; the message
of a rejection; and the pause, unless the write broke off the load. -/
def Round.shown (table : String) (interval : Interval) (r : Round) : List Event :=
  match r.course with
  | .undrawn _ => []
  | .broken id _ => [.out (echoed (progressLine r.number)), .put table (Record.single id).item]
  | .settled id none _ =>
    [.out (echoed (progressLine r.number)), .put table (Record.single id).item, .sleep interval]
  | .settled id (some j) _ =>
    [.out (echoed (progressLine r.number)), .put table (Record.single id).item,
      .out (echoed (echoText j.message)), .sleep interval]

theorem Round.filter_events (table : String) (interval : Interval) (r : Round) :
    (r.events .scripted table interval).filter Event.isShown = r.shown table interval := by
  unfold Round.events Round.shown
  cases r.course with
  | undrawn f => rfl
  | broken id f => rfl
  | settled id j pause => cases j <;> rfl

theorem filter_trace_effects (table : String) (interval : Interval) (rs : List Round) (w : World) :
    (rs.foldl (Round.effect .scripted table interval) w).trace.toList.filter Event.isShown =
      w.trace.toList.filter Event.isShown ++ rs.flatMap (Round.shown table interval) := by
  rw [trace_effects, List.filter_append, List.filter_flatMap]
  simp only [Round.filter_events]

theorem filter_trace_log (w : World) (e : Log.Entry) :
    (w.emit (.log e)).trace.toList.filter Event.isShown = w.trace.toList.filter Event.isShown := by
  rw [World.trace_emit, List.filter_append]
  exact List.append_nil _

end Load

namespace Loader
open Load

theorem run_eq_unfolding (table : String) {n : Int} {interval : Interval} {w : World}
    (hw : w.script.Logs) (hn : 1 ≤ n) (hi : interval.isNegative = false) :
    let rs := rounds .scripted interval 0 w n.toNat
    let made := upToFailure Round.failure? rs
    let result := Loader.run { store := .scripted, table } n interval w
    result.2.2.trace.toList.filter Event.isShown =
        w.trace.toList.filter Event.isShown ++ made.flatMap (Round.shown table interval) ∧
      result.2.2.ids = w.ids + made.length ∧
      (match rs.findSome? Round.failure? with
        | some f => result.1 = .error f
        | none => (∃ s, result.1 = .ok s) ∧ (made.length : Int) = n) := by
  intro rs made result
  have hresult : result = Loader.execute { store := .scripted, table } n.toNat interval w :=
    run_of_fresh rfl hn hi w
  cases hf : rs.findSome? Round.failure? with
  | some f =>
    rw [hresult, execute_of_failure Store.scripted_follows hw hf]
    refine ⟨?_, ids_effects .., rfl⟩
    rw [filter_trace_log, reached, filter_trace_effects, filter_trace_log]
    rfl
  | none =>
    -- nothing fails, so all rounds have been made
    have hmade : made = rs := upToFailure_eq_self hf
    rw [hresult, execute_of_none Store.scripted_follows hw hf]
    refine ⟨?_, ids_effects .., ⟨_, rfl⟩, ?_⟩
    · rw [filter_trace_log, reached, filter_trace_effects, filter_trace_log]
      rfl
    · have hlength : rs.length = n.toNat := by
        change ((List.range n.toNat).map _).length = n.toNat
        rw [List.length_map, List.length_range]
      rw [hmade, hlength]
      omega

theorem run_eq_unfolding_troubled :
    let result := Loader.run { store := .scripted, table := "t" } 5 (.real 0.5) .troubled
    (World.troubled.script.Logs ∧ (1 : Int) ≤ 5 ∧ (Interval.real 0.5).isNegative = false) ∧
      result.2.2.trace.toList.filter Event.isShown =
        [.out (echoed (progressLine 1)), .put "t" (Record.single "id-1").item, .sleep (.real 0.5),
          .out (echoed (progressLine 2)), .put "t" (Record.single "id-2").item,
          .out (echoed "throttled"), .sleep (.real 0.5),
          .out (echoed (progressLine 3)), .put "t" (Record.single "id-3").item] ∧
      result.2.2.ids = 3 ∧ result.1 = .error (.incident .noCredentials) := by
  have hn : (1 : Int) ≤ 5 := by decide
  have hi : (Interval.real 0.5).isNegative = false := by decide
  exact ⟨⟨World.troubled_logs, hn, hi⟩, run_eq_unfolding "t" World.troubled_logs hn hi⟩

end Loader

end TableSeeder
