import TableSeeder.Proofs.Calls
import TableSeeder.Proofs.Cli.Bounds
import TableSeeder.Proofs.Table.Requests

/-! What the facilities of the surroundings keep, a whole command keeps: its loops and retries go
from step to step, and what it makes of a failure on the way is a failure of the same kind. -/

namespace TableSeeder

/-- Refusals are what a run answers to arguments that are no good and to a second start. -/
def Failure.isRefusal : Failure → Bool
  | badArgument _ | alreadyRun _ => true
  | _ => false

def Leaves {α : Type} (P : Option Failure → World → Prop) (r : Except Failure α × World) : Prop :=
  P (failureOf? r.1) r.2

theorem Leaves.outcome {α : Type} {P : Option Failure → World → Prop} {r : Except Failure α × World}
    (h : Leaves P r) :
    (∃ f w, r = (.error f, w) ∧ P (some f) w) ∨ ∃ a w, r = (.ok a, w) ∧ P none w := by
  obtain ⟨f | a, w⟩ := r
  · exact .inl ⟨f, w, rfl, h⟩
  · exact .inr ⟨a, w, rfl, h⟩

/-- A property that each facility keeps, and each failure that a command meets or makes up. -/
structure StepInvariant (P : Option Failure → World → Prop) : Prop where
  nextId {w : World} (h : P none w) : Leaves P (World.nextId w)
  nextWrite {w : World} {e : Event} (he : e.isWrite = true) (h : P none w) :
    Leaves P (World.nextWrite (w.emit e))
  nextIdentity {w : World} (client : Nat) (h : P none w) :
    Leaves P (World.nextIdentity (w.emit (.callerIdentity client)))
  sleep {w : World} (interval : Interval) (h : P none w) : Leaves P (World.sleep interval w)
  createClient {w : World} (region : String) (h : P none w) :
    Leaves P (World.createClient region w)
  createIdentityClient {w : World} (region : String) (h : P none w) :
    Leaves P (World.createIdentityClient region w)
  log {w : World} {e : Log.Entry} (he : e.Plain) (h : P none w) : Leaves P (World.log e w)
  logFailing {w : World} {e : Log.Entry} {f : Failure} (he : e.Plain) (h : P (some f) w) :
    P (some (World.logFailing e f w).1) (World.logFailing e f w).2
  echo {w : World} (text : String) (h : P none w) : P none (w.echo text)
  fail {w : World} {f : Failure} (hf : f.isRefusal = false) (h : P none w) : P (some f) w
  reject {w : World} {f : Failure} (h : P (some f) w) : P (some (Table.asRejection f)) w
  overcome {w : World} {f : Failure} (hf : f.isInterrupt = false) (h : P (some f) w) : P none w

section Failures

theorem Table.isRefusal_of_rowOf {item : Item} {f : Failure} (h : rowOf item = .error f) :
    f.isRefusal = false := by
  obtain ⟨u, -, rfl⟩ := error_of_mapError h
  rfl

theorem Table.isRefusal_of_rowsOf {items : List Item} {f : Failure} (h : rowsOf items = .error f) :
    f.isRefusal = false := by
  induction items with
  | nil => cases h
  | cons item items ih =>
    unfold rowsOf at h
    split at h
    · rename_i hrow
      obtain rfl := Except.error.inj h
      exact isRefusal_of_rowOf hrow
    split at h
    · rename_i hrows
      obtain rfl := Except.error.inj h
      exact ih hrows
    · cases h

theorem Table.isRefusal_of_unprocessed {response : Value} {f : Failure}
    (h : unprocessed response = .error f) : f.isRefusal = false := by
  rcases error_of_unprocessed h with ⟨type, rfl⟩ | ⟨type, member, rfl⟩ <;> rfl

theorem Credentials.isRefusal_of_accountOf {identity : Value} {f : Failure}
    (h : accountOf identity = .error f) : f.isRefusal = false := by
  unfold accountOf at h
  split at h
  · split at h
    · split at h
      · cases h
      · obtain rfl := Except.error.inj h
        rfl
    · obtain rfl := Except.error.inj h
      rfl
  · obtain rfl := Except.error.inj h
    rfl

theorem Credentials.not_isInterrupt_of_isTransient {f : Failure} (h : isTransient f = true) :
    f.isInterrupt = false := by
  cases f with
  | incident i =>
    cases i with
    | outage o url => rfl
    | _ => cases h
  | _ => cases h

theorem Credentials.resolved_plain (account : Value) (region : String) :
    (resolved account region).Plain := rfl

end Failures

namespace StepInvariant

variable {P : Option Failure → World → Prop} (hP : StepInvariant P) {w : World}
include hP

theorem nextIds (h : P none w) (n : Nat) : Leaves P (World.nextIds n w) := by
  induction n generalizing w with
  | zero => exact h
  | succ n ih =>
    rw [World.nextIds]
    obtain ⟨f, w, hid, h⟩ | ⟨id, w, hid, h⟩ := (hP.nextId h).outcome
    · rw [hid]
      exact h
    · rw [hid]
      dsimp only
      obtain ⟨f, w, hids, h⟩ | ⟨ids, w, hids, h⟩ := (ih h).outcome <;> rw [hids] <;> exact h

section Store

theorem put (h : P none w) (client : Nat) (table : String) (item : Item) :
    Leaves P ((Table.store client).put table item w) := by
  change Leaves P (Table.put client table item w)
  rw [Table.put]
  cases hrow : Table.rowOf item with
  | error f => exact hP.fail (Table.isRefusal_of_rowOf hrow) h
  | ok row =>
    dsimp only
    obtain ⟨f, w, hanswer, h⟩ | ⟨response, w, hanswer, h⟩ :=
      (hP.nextWrite (e := .putItem client table row) rfl h).outcome
    · rw [hanswer]
      exact hP.reject h
    · rw [hanswer]
      exact h

theorem putBatch (h : P none w) (client : Nat) (table : String) (items : List Item) :
    Leaves P ((Table.store client).putBatch table items w) := by
  change Leaves P (Table.putBatch client table items w)
  rw [Table.putBatch]
  cases hrows : Table.rowsOf items with
  | error f => exact hP.fail (Table.isRefusal_of_rowsOf hrows) h
  | ok rows =>
    dsimp only
    obtain ⟨f, w, hanswer, h⟩ | ⟨response, w, hanswer, h⟩ :=
      (hP.nextWrite (e := .batchWrite client [(table, rows.map PutRequest.mk)]) rfl h).outcome
    · rw [hanswer]
      exact hP.reject h
    · rw [hanswer]
      dsimp only
      cases hleft : Table.unprocessed response with
      | error f => exact hP.fail (Table.isRefusal_of_unprocessed hleft) h
      | ok n => exact h

theorem get (r : Registry) (h : P none w) (region : String) :
    P (failureOf? (r.get region w).1) (r.get region w).2.2 := by
  rw [Registry.get]
  cases r.clients.get? region with
  | some client => exact h
  | none =>
    dsimp only
    obtain ⟨f, w, hcreate, h⟩ | ⟨client, w, hcreate, h⟩ := (hP.createClient region h).outcome <;>
      rw [hcreate] <;> exact h

end Store

section Load
open Load

theorem attempt (h : P none w) (client : Nat) (table : String) (n : Nat) (id : String)
    (t : Tally) : Leaves P (Load.attempt (Table.store client) table n id t w) := by
  rw [Load.attempt]
  obtain ⟨f, w, hput, h⟩ | ⟨_, w, hput, h⟩ :=
    (hP.put h client table (Record.single id).item).outcome
  · rw [hput]
    cases f with
    | rejected r =>
      -- a rejection costs only the write, and the load goes on
      have hgoes := hP.echo (echoText r.message) (hP.overcome rfl h)
      dsimp only
      obtain ⟨f, w, hlog, h⟩ | ⟨_, w, hlog, h⟩ :=
        (hP.log (rejected_plain n r table) hgoes).outcome <;> rw [hlog] <;> exact h
    | _ => exact h
  · rw [hput]
    dsimp only
    obtain ⟨f, w, hlog, h⟩ | ⟨_, w, hlog, h⟩ :=
      (hP.log (accepted_plain n) h).outcome <;> rw [hlog] <;> exact h

theorem iterations (h : P none w) (client : Nat) (table : String) (interval : Interval)
    (count : Nat) (t : Tally) :
    P (iterate (Table.store client) table interval count t w).1
      (iterate (Table.store client) table interval count t w).2.2 := by
  -- an iteration may leave any tally and any world that the property holds of
  induction count generalizing t w with
  | zero => exact h
  | succ count ih =>
    rw [iterate]
    obtain ⟨f, w, hid, h⟩ | ⟨id, w, hid, h⟩ := (hP.nextId h).outcome <;> rw [hid]
    · exact h
    dsimp only
    obtain ⟨f, w, hattempt, h⟩ | ⟨t, w, hattempt, h⟩ :=
      (hP.attempt (hP.echo ("Writing item #" ++ toString (t.attempted + 1)) h) client table
        (t.attempted + 1) id { t with attempted := t.attempted + 1 }).outcome <;> rw [hattempt]
    · exact h
    dsimp only
    obtain ⟨f, w, hsleep, h⟩ | ⟨_, w, hsleep, h⟩ := (hP.sleep interval h).outcome <;>
      rw [hsleep]
    · exact h
    · exact ih h t

theorem finish (h : P none w) (client : Nat) (table : String) (n : Nat) (interval : Interval)
    (start : Float) :
    let l : Loader := { store := Table.store client, table }
    P (failureOf? (l.finish n interval start w).1) (l.finish n interval start w).2.2 := by
  intro l
  have hiterate := hP.iterations h client table interval n {}
  rw [Loader.finish]
  generalize iterate (Table.store client) table interval n {} w = made at hiterate ⊢
  obtain ⟨f | _, t, w⟩ := made
  · dsimp only
    obtain ⟨f, w, hlog, h⟩ | ⟨_, w, hlog, h⟩ :=
      (hP.log (completed_plain _) hiterate).outcome <;> rw [hlog] <;> exact h
  · exact hP.logFailing (aborted_plain table t) hiterate

theorem load {n : Int} {interval : Interval} (hgood : Loader.badArgument? n interval = none)
    (h : P none w) (client : Nat) (table : String) :
    Leaves P (TableSeeder.load (Table.store client) table n interval w) := by
  let l : Loader := { store := Table.store client, table }
  suffices hrun : P (failureOf? (l.run n interval w).1) (l.run n interval w).2.2 from hrun
  rw [Loader.run_of_goodArguments hgood, if_neg (not_not_intro rfl), Loader.execute]
  obtain ⟨f, w', hlog, h⟩ | ⟨_, w', hlog, h⟩ :=
    (hP.log (started_plain table n.toNat interval) h).outcome <;> rw [hlog]
  · exact h
  · exact hP.finish h client table n.toNat interval w.clock

end Load

section Batch
open Batch

theorem send (h : P none w) (client : Nat) (table : String) (ids : List String) (total : Nat)
    (t : Tally) : Leaves P (Batch.send (Table.store client) table ids total t w) := by
  rw [Batch.send]
  obtain ⟨f, w, hput, h⟩ | ⟨unprocessed, w, hput, h⟩ :=
    (hP.putBatch h client table (ids.map fun id => (Record.batched id).item)).outcome <;> rw [hput]
  · cases f with
    | rejected r => exact hP.echo _ (hP.overcome rfl h)
    | _ => exact h
  · have hwarn : Leaves P (warnUnprocessed table unprocessed w) := by
      unfold warnUnprocessed
      split
      · exact hP.log (leftOver_plain unprocessed table) h
      · exact h
    dsimp only
    obtain ⟨f, w, hwarned, h⟩ | ⟨_, w, hwarned, h⟩ := hwarn.outcome <;> rw [hwarned]
    · exact h
    · exact hP.echo _ h

theorem requests (h : P none w) (client : Nat) (table : String) (size count : Nat) (t : Tally) :
    Leaves P (iterate (Table.store client) table size count t w) := by
  induction count generalizing t w with
  | zero => exact h
  | succ count ih =>
    rw [iterate]
    obtain ⟨f, w, hids, h⟩ | ⟨ids, w, hids, h⟩ := (hP.nextIds h size).outcome <;> rw [hids]
    · exact h
    dsimp only
    obtain ⟨f, w, hsend, h⟩ | ⟨t, w, hsend, h⟩ :=
      (hP.send h client table ids ((t.attempted + 1) * size)
        { t with attempted := t.attempted + 1 }).outcome <;> rw [hsend]
    · exact h
    · exact ih h t

theorem fill {batches size : Int} (hgood : badArgument? batches size = none) (h : P none w)
    (client : Nat) (table : String) :
    Leaves P (Batch.run (Table.store client) table batches size w) := by
  rw [run_eq, hgood]
  dsimp only
  obtain ⟨f, w, hiterate, h⟩ | ⟨t, w, hiterate, h⟩ :=
    (hP.requests h client table size.toNat batches.toNat {}).outcome <;> rw [hiterate] <;> exact h

end Batch

section Check
open Credentials

theorem identify (h : P none w) (region : String) (client : Option Nat) :
    Leaves P (Credentials.attempt region client w) := by
  have hclient : Leaves P (identityClient region client w) := by
    cases client with
    | none => exact hP.createIdentityClient region h
    | some client => exact h
  rw [Credentials.attempt]
  obtain ⟨f, w, hcreate, h⟩ | ⟨n, w, hcreate, h⟩ := hclient.outcome <;> rw [hcreate]
  · exact h
  dsimp only
  obtain ⟨f, w, hidentity, h⟩ | ⟨identity, w, hidentity, h⟩ :=
    (hP.nextIdentity n h).outcome <;> rw [hidentity]
  · exact h
  dsimp only
  cases haccount : accountOf identity with
  | error f => exact hP.fail (isRefusal_of_accountOf haccount) h
  | ok account =>
    dsimp only
    obtain ⟨f, w, hlog, h⟩ | ⟨_, w, hlog, h⟩ :=
      (hP.log (resolved_plain account region) h).outcome <;> rw [hlog] <;> exact h

theorem check (h : P none w) (region : String) (client : Option Nat) :
    Leaves P (Credentials.check region client w) := by
  rw [Credentials.check]
  obtain ⟨f, w, hattempt, h⟩ | ⟨account, w, hattempt, h⟩ :=
    (hP.identify h region client).outcome <;> rw [hattempt]
  · dsimp only
    split
    · rename_i htransient
      have hgoes := hP.overcome (not_isInterrupt_of_isTransient htransient) h
      obtain ⟨g, w, hsleep, h⟩ | ⟨_, w, hsleep, h⟩ := (hP.sleep pause hgoes).outcome <;>
        rw [hsleep]
      · exact h
      · exact hP.identify h region client
    · exact h
  · exact h

end Check

/-- A command whose arguments are good keeps what its steps keep. If it fails it has reported
nothing, and if it succeeds at most a summary at its end. -/
theorem perform (h : P none w) (c : Cli.Command) (s : Settings) (hgood : c.badArgument? s = none) :
    let done := c.perform s w
    ∃ w', P (failureOf? done.1) w' ∧
      (done.2 = w' ∨ done.1 = .ok () ∧ ∃ summary : Summary,
        done.2 = w'.echoError summary.render) := by
  have hreport {r : Except Failure Summary × World} (hr : Leaves P r) :
      ∃ w', P (failureOf? (Cli.report r).1) w' ∧ ((Cli.report r).2 = w' ∨
        (Cli.report r).1 = .ok () ∧ ∃ summary : Summary,
          (Cli.report r).2 = w'.echoError summary.render) := by
    obtain ⟨f | summary, w⟩ := r
    · exact ⟨w, hr, .inl rfl⟩
    · exact ⟨w, hr, .inr ⟨rfl, summary, rfl⟩⟩
  have hget := hP.get {} h s.region
  cases c with
  | info => exact ⟨_, hP.echo (Cli.infoLine s) h, .inl rfl⟩
  | check =>
    rw [Cli.Command.perform]
    obtain ⟨f, w, hcheck, h⟩ | ⟨account, w, hcheck, h⟩ :=
      (hP.check h s.region none).outcome <;> rw [hcheck]
    · exact ⟨w, h, .inl rfl⟩
    · exact ⟨_, hP.echo (Cli.checkLine s account) h, .inl rfl⟩
  | run iterations interval =>
    rw [Cli.Command.perform, Cli.openStore]
    generalize Registry.get {} s.region w = opened at hget ⊢
    obtain ⟨f | client, r, w⟩ := opened
    · exact ⟨w, hget, .inl rfl⟩
    · exact hreport (hP.load hgood hget client s.table)
  | batch table batches =>
    rw [Cli.Command.perform, Cli.openStore]
    generalize Registry.get {} s.region w = opened at hget ⊢
    obtain ⟨f | client, r, w⟩ := opened
    · exact ⟨w, hget, .inl rfl⟩
    · exact hreport (hP.fill hgood hget client _)

end StepInvariant

end TableSeeder
