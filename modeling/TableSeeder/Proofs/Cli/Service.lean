import TableSeeder.Cli.Execution
import TableSeeder.Proofs.Registry.Steps
import TableSeeder.Proofs.Table.Requests

/-! The commands that write, up to their first write: one client, or none. And what they have in
common at their end: only a command that fails exits badly. -/

namespace TableSeeder

namespace Cli

theorem openStore_eq (s : Settings) (w : World) :
    openStore s w =
      match w.script.create s.region (w.creations.count s.region) with
      | some f => (.error f, w.attempted s.region)
      | none => (.ok (Table.store (w.clients + 1)),
          { w.attempted s.region with clients := w.clients + 1 }) := by
  have hnone : ({} : Registry).clients.get? s.region = none := rfl
  rw [openStore, Registry.get_of_none hnone]
  cases w.script.create s.region (w.creations.count s.region) <;> rfl

/-- The world once the first client is there. -/
def opened (script : Script) (clock : Float) (region : String) : World :=
  { ({ script, clock } : World).attempted region with clients := 1 }

theorem openStore_initial (s : Settings) (script : Script) (clock : Float) :
    openStore s { script, clock } =
      match script.create s.region 0 with
      | some f => (.error f, ({ script, clock } : World).attempted s.region)
      | none => (.ok (Table.store 1), opened script clock s.region) :=
  openStore_eq s { script, clock }

theorem ofOutcome_eq_zero_iff {outcome : Except Failure Unit} :
    Exit.ofOutcome outcome = .code 0 ↔ outcome = .ok () := by
  cases outcome with
  | ok _ => exact iff_of_true rfl rfl
  | error f =>
    refine iff_of_false (fun h => ?_) nofun
    cases f with
    | incident i =>
      cases i with
      | signal kind text => cases kind <;> cases h
      | _ => cases h
    | _ => cases h

end Cli

end TableSeeder
