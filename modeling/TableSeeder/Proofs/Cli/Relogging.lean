import TableSeeder.Proofs.Batch.Requests
import TableSeeder.Proofs.Cli.Bounds
import TableSeeder.Proofs.Cli.Service
import TableSeeder.Proofs.Load.Runs

/-! The commands that write in two worlds that differ in how entries are logged: as long as each
plain entry can be logged in either, they do the same, down to the entries. -/

namespace TableSeeder

namespace World

def relog (log : Log.Entry → Option Failure) (w : World) : World :=
  { w with script := { w.script with log } }

variable {log : Log.Entry → Option Failure}

theorem foldl_relog {α : Type} {effect : World → α → World}
    (h : ∀ w a, effect (w.relog log) a = (effect w a).relog log) (as : List α) (w : World) :
    as.foldl effect (w.relog log) = (as.foldl effect w).relog log := by
  induction as generalizing w with
  | nil => rfl
  | cons a as ih => rw [List.foldl_cons, List.foldl_cons, h, ih]

theorem emitAll_relog (w : World) (es : List Event) :
    (w.relog log).emitAll es = (w.emitAll es).relog log := foldl_relog (fun _ _ => rfl) es w

end World

namespace Load

variable {log : Log.Entry → Option Failure}

theorem Round.effect_relog (m : Manner) (table : String) (interval : Interval) (w : World)
    (r : Round) :
    r.effect m table interval (w.relog log) = (r.effect m table interval w).relog log := by
  unfold effect
  rw [World.emitAll_relog]
  rfl

theorem rounds_relog (m : Manner) (interval : Interval) (done : Nat) (w : World) (n : Nat) :
    rounds m interval done (w.relog log) n = rounds m interval done w n := rfl

end Load

namespace Loader

variable {log : Log.Entry → Option Failure} {l : Loader} {m : Manner} {interval : Interval}
  {w : World} {n : Nat}

theorem reached_relog :
    l.reached m interval (w.relog log) n = (l.reached m interval w n).relog log :=
  World.foldl_relog (Load.Round.effect_relog m l.table interval) (made m interval w n)
    (w.emit (.log (Load.started l.table n interval)))

theorem summary_relog : l.summary m interval (w.relog log) n = l.summary m interval w n := by
  unfold summary
  rw [reached_relog]
  rfl

theorem execute_relog (hs : l.store.Follows m) (hw : w.script.Logs)
    (hrelog : (w.relog log).script.Logs) :
    l.execute n interval (w.relog log) =
      let r := l.execute n interval w
      (r.1, r.2.1, r.2.2.relog log) := by
  rw [execute_eq_finish hs hrelog, execute_eq_finish hs hw, Load.rounds_relog, reached_relog,
    summary_relog]
  cases (Load.rounds m interval 0 w n).findSome? Load.Round.failure? <;> rfl

end Loader

namespace Batch

variable {log : Log.Entry → Option Failure} {store : Store} {m : Manner} {w : World}

theorem Request.effect_relog (m : Manner) (table : String) (w : World) (r : Request) :
    r.effect m table (w.relog log) = (r.effect m table w).relog log := by
  unfold effect
  rw [World.emitAll_relog]
  rfl

theorem requests_relog (m : Manner) (size done : Nat) (w : World) (n : Nat) :
    requests m size done (w.relog log) n = requests m size done w n := rfl

theorem iterate_relog (hs : store.Follows m) (hw : w.script.Logs)
    (hrelog : (w.relog log).script.Logs) (table : String) (size n : Nat) (t : Tally) :
    iterate store table size n t (w.relog log) =
      let r := iterate store table size n t w
      (r.1, r.2.relog log) := by
  rw [iterate_eq hs hrelog, iterate_eq hs hw, requests_relog]
  dsimp only
  rw [World.foldl_relog (Request.effect_relog m table)]

end Batch

namespace Cli

def Command.writes : Command → Bool
  | .run .. | .batch .. => true
  | _ => false

variable {log : Log.Entry → Option Failure} {w : World}

theorem Command.logs_of_writes {c : Command} (h : c.writes = true) : c.logs = true := by
  cases c <;> first | rfl | cases h

theorem openStore_cases (s : Settings) (w : World) :
    ∃ w', w'.script = w.script ∧ ((∃ f, openStore s w = (.error f, w')) ∨
      ∃ client, openStore s w = (.ok (Table.store client), w')) := by
  rw [openStore_eq]
  cases w.script.create s.region (w.creations.count s.region) with
  | some f => exact ⟨w.attempted s.region, rfl, .inl ⟨f, rfl⟩⟩
  | none =>
    exact ⟨{ w.attempted s.region with clients := w.clients + 1 }, rfl, .inr ⟨w.clients + 1, rfl⟩⟩

theorem openStore_relog (s : Settings) :
    openStore s (w.relog log) = let r := openStore s w; (r.1, r.2.relog log) := by
  rw [openStore_eq, openStore_eq]
  dsimp only [World.relog]
  cases w.script.create s.region (w.creations.count s.region) <;> rfl

theorem report_relog (r : Except Failure Summary × World) :
    report (r.1, r.2.relog log) = ((report r).1, (report r).2.relog log) := by
  obtain ⟨f | summary, w⟩ := r <;> rfl

theorem load_relog {m : Manner} {store : Store} {n : Int} {interval : Interval}
    (hs : store.Follows m) (hgood : Loader.badArgument? n interval = none) (hw : w.script.Logs)
    (hrelog : (w.relog log).script.Logs) (table : String) :
    load store table n interval (w.relog log) =
      let r := load store table n interval w
      (r.1, r.2.relog log) := by
  obtain ⟨hn, hi⟩ := Loader.badArgument?_eq_none.mp hgood
  unfold load
  rw [Loader.run_of_fresh rfl hn hi, Loader.run_of_fresh rfl hn hi,
    Loader.execute_relog hs hw hrelog]

theorem run_relog {m : Manner} {store : Store} {n size : Int} (hs : store.Follows m)
    (hw : w.script.Logs) (hrelog : (w.relog log).script.Logs) (table : String) :
    Batch.run store table n size (w.relog log) =
      let r := Batch.run store table n size w
      (r.1, r.2.relog log) := by
  rw [Batch.run_eq, Batch.run_eq, Batch.iterate_relog hs hw hrelog]
  cases Batch.badArgument? n size with
  | some a => rfl
  | none =>
    dsimp only
    rcases Batch.iterate store table size.toNat n.toNat {} w with ⟨f | t, w'⟩ <;> rfl

/-- How entries are logged shows in no failure, call or line of a command that writes. -/
theorem perform_relog {c : Command} {s : Settings} (hc : c.writes = true)
    (hgood : c.badArgument? s = none) (hw : w.script.Logs)
    (hrelog : (w.relog log).script.Logs) :
    c.perform s (w.relog log) = let r := c.perform s w; (r.1, r.2.relog log) := by
  -- opening the store logs nothing, so both runs go on alike from there
  have hopen : openStore s (w.relog log) = _ := openStore_relog s
  obtain ⟨w', hscript, hcase⟩ := openStore_cases s w
  have hlogs : w'.script.Logs := hscript ▸ hw
  have hrelogs : (w'.relog log).script.Logs := by
    unfold World.relog
    rw [hscript]
    exact hrelog
  cases c with
  | info => cases hc
  | check => cases hc
  | run count x =>
    unfold Command.perform
    dsimp only
    rw [hopen]
    rcases hcase with ⟨f, hcase⟩ | ⟨client, hcase⟩
    · rw [hcase]
    · rw [hcase]
      dsimp only
      rw [load_relog (Table.store_follows client) hgood hlogs hrelogs, report_relog]
  | batch table count =>
    unfold Command.perform
    dsimp only
    rw [hopen]
    rcases hcase with ⟨f, hcase⟩ | ⟨client, hcase⟩
    · rw [hcase]
    · rw [hcase]
      dsimp only
      rw [run_relog (Table.store_follows client) hlogs hrelogs, report_relog]

end Cli

end TableSeeder
