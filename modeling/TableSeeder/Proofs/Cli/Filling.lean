import TableSeeder.Proofs.Batch.Serving
import TableSeeder.Proofs.Cli.Bounds
import TableSeeder.Proofs.Cli.Cancelling
import TableSeeder.Proofs.Cli.Service

/-! The command that writes in batches, as it is seen from outside: its requests, the lines and
warnings on the answers to them, and how it ends. -/

namespace TableSeeder

namespace Cli
open Batch Log

section Requests

variable {script : Script} {log : Log.Entry → Option Failure} {clock : Float} {region : String}
  {k n : Nat}

abbrev served (script : Script) (log : Log.Entry → Option Failure) (clock : Float)
    (region : String) : World := opened { script with log } clock region

theorem total_request (w : World) (k : Nat) :
    (request (.client 1) maxBatchSize 0 w k).total = (k + 1) * maxBatchSize := by
  unfold request
  rw [Nat.zero_add]

end Requests

section Run

variable {script : Script} {s : Settings}

theorem perform_batch (hlogs : script.Logs) {count : Option Int}
    (hcount : 1 ≤ count.getD s.batches) (table : Option String) (clock : Float) :
    let w := opened script clock s.region
    let rs := requests (.client 1) maxBatchSize 0 w (count.getD s.batches).toNat
    let made := upToFailure Request.failure? rs
    let t := made.foldl Request.count {}
    let w' := made.foldl (Request.effect (.client 1) (tableOf s table)) w
    let result := (Command.batch table count).perform s { script, clock }
    (∃ f, script.create s.region 0 = some f ∧
        result = (.error f, ({ script, clock } : World).attempted s.region)) ∨
      script.create s.region 0 = none ∧
        ((∃ f, rs.findSome? Request.failure? = some f ∧ result = (.error f, w')) ∨
          rs.findSome? Request.failure? = none ∧ result = (.ok (), w'.echoError
            (Summary.report ⟨t.attempted, t.succeeded, t.failed, w'.clock - w.clock⟩))) := by
  intro w rs made t w' result
  have hopen := openStore_initial s script clock
  cases hcreate : script.create s.region 0 with
  | some f =>
    rw [hcreate] at hopen
    refine .inl ⟨f, rfl, ?_⟩
    change (Command.batch table count).perform s { script, clock } = _
    rw [Command.perform, hopen]
  | none =>
    rw [hcreate] at hopen
    have hw : w.script.Logs := hlogs
    have hresult : result =
        report (run (Table.store 1) (tableOf s table) (count.getD s.batches) maxBatchSize w) := by
      change (Command.batch table count).perform s { script, clock } = _
      rw [Command.perform, countOr_eq_getD hcount, hopen]
    -- the store answers by the script, so the loop is its requests
    rw [run_eq_iterate hcount (by decide) (by decide), Int.toNat_natCast,
      iterate_eq (Table.store_follows 1) hw] at hresult
    refine .inr ⟨rfl, ?_⟩
    rw [hresult]
    cases hfails : rs.findSome? Request.failure? with
    | some f =>
      refine .inl ⟨f, rfl, ?_⟩
      dsimp only
      rw [hfails]
      rfl
    | none =>
      refine .inr ⟨rfl, ?_⟩
      rw [← Summary.render_eq_report]
      dsimp only
      rw [hfails]
      rfl

end Run

end Cli

end TableSeeder
