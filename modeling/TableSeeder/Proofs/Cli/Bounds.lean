import TableSeeder.Proofs.Batch.Requests
import TableSeeder.Proofs.Load.Guard
import TableSeeder.Proofs.Outcomes
import TableSeeder.Cli.Execution

/-! Bounds on what a run is asked for: no command line that is accepted and no settings that are
sound ask for less than one iteration or for a pause that is not at least zero. -/

namespace TableSeeder

namespace Settings

theorem le_of_nonnegative {x y : Float} (h : nonnegative x = .ok y) : 0.0 ≤ y := by
  unfold nonnegative at h
  split at h
  · obtain rfl := Except.ok.inj h
    assumption
  · cases h

theorem le_of_readCount {v : Value} {n : Int} (h : readCount v = .ok n) : 1 ≤ n := by
  obtain ⟨k, -, habove⟩ := ok_of_bind h
  unfold above at habove
  split at habove
  · obtain rfl := Except.ok.inj habove
    omega
  · cases habove

theorem le_of_readInterval {v : Value} {x : Float} (h : readInterval v = .ok x) : 0.0 ≤ x := by
  obtain ⟨y, -, hy⟩ := ok_of_bind h
  exact le_of_nonnegative hy

theorem of_resolve {α : Type} {l : Layers} {f : Field} {default a : α}
    {read : Value → Except Cause α} {p : α → Prop} (hdefault : p default)
    (hread : ∀ v a, read v = .ok a → p a) (h : resolve l f default read = .ok a) : p a := by
  unfold resolve at h
  split at h
  · exact Except.ok.inj h ▸ hdefault
  · exact hread _ a (ok_of_mapError h)

structure Sound (s : Settings) : Prop where
  iterations : 1 ≤ s.iterations
  interval : 0.0 ≤ s.interval
  batches : 1 ≤ s.batches

theorem sound_of_load {sources : Sources} {s : Settings} (h : load sources = .ok s) :
    s.Sound := by
  unfold load at h
  split at h
  · cases h
  have hread := ok_of_mapError h
  unfold read at hread
  dsimp only at hread
  split at hread
  · rename_i hiterations hinterval hbatches _ _
    obtain rfl := Except.ok.inj hread
    constructor
    · exact of_resolve (by decide) (fun _ _ => le_of_readCount) hiterations
    · exact of_resolve (by decide) (fun _ _ => le_of_readInterval) hinterval
    · exact of_resolve (by decide) (fun _ _ => le_of_readCount) hbatches
  · cases hread

end Settings

namespace Cli

theorem le_of_countOf {values : List (Flag × String)} {f : Flag} {n : Int}
    (h : countOf values f = some n) : 1 ≤ n := by
  obtain ⟨text, -, hread⟩ := Option.bind_eq_some_iff.mp h
  obtain ⟨k, -, hleast⟩ := ok_of_bind (ok_of_toOption hread)
  unfold Settings.atLeast at hleast
  split at hleast
  · obtain rfl := Except.ok.inj hleast
    assumption
  · cases hleast

theorem le_of_secondsOf {values : List (Flag × String)} {f : Flag} {x : Float}
    (h : secondsOf values f = some x) : 0.0 ≤ x := by
  obtain ⟨text, -, hread⟩ := Option.bind_eq_some_iff.mp h
  obtain ⟨y, -, hy⟩ := ok_of_bind (ok_of_toOption hread)
  exact Settings.le_of_nonnegative hy

theorem command_of_parse {args : List String} {c : Command} (h : parse args = .ok c) :
    ∃ name t, commandOf name t = (c, []) := by
  unfold parse at h
  split at h
  · cases h
  · cases h
  split at h
  · rename_i name _
    unfold readCommand at h
    split at h
    · cases h
    rename_i t _
    split at h
    · cases h
    · rename_i hcommand
      obtain rfl := Except.ok.inj h
      exact ⟨name, t, hcommand⟩
    · cases h
  · cases h

section Accepted

/-- No count that is accepted is taken for none. -/
theorem countOr_eq_getD {n : Option Int} {d : Int} (h : 1 ≤ n.getD d) : countOr n d = n.getD d := by
  cases n with
  | none => rfl
  | some n =>
    rw [Option.getD_some] at h
    have hn : n ≠ 0 := by omega
    rw [countOr, if_neg hn, Option.getD_some]

variable {args : List String} {sources : Settings.Sources} {s : Settings}

theorem bounds_of_run {n : Option Int} {x : Option Float}
    (hparse : parse args = .ok (.run n x)) (hload : Settings.load sources = .ok s) :
    1 ≤ n.getD s.iterations ∧ 0.0 ≤ x.getD s.interval := by
  obtain ⟨name, t, hcommand⟩ := command_of_parse hparse
  have hsound := Settings.sound_of_load hload
  cases name with
  | run =>
    obtain ⟨rfl, rfl⟩ := Command.run.inj (congrArg Prod.fst hcommand)
    constructor
    · cases hn : countOf t.values .iterations with
      | none => exact hsound.iterations
      | some n => exact le_of_countOf hn
    · cases hx : secondsOf t.values .interval with
      | none => exact hsound.interval
      | some x => exact le_of_secondsOf hx
  | _ => cases hcommand

theorem bounds_of_batch {table : Option String} {n : Option Int}
    (hparse : parse args = .ok (.batch table n)) (hload : Settings.load sources = .ok s) :
    1 ≤ n.getD s.batches := by
  obtain ⟨name, t, hcommand⟩ := command_of_parse hparse
  cases name with
  | batch =>
    obtain ⟨-, rfl⟩ := Command.batch.inj (congrArg Prod.fst hcommand)
    cases hn : countOf t.values .batches with
    | none => exact (Settings.sound_of_load hload).batches
    | some n => exact le_of_countOf hn
  | _ => cases hcommand

def Command.badArgument? (s : Settings) : Command → Option BadArgument
  | .run n x => Loader.badArgument? (countOr n s.iterations) (.real (x.getD s.interval))
  | .batch _ n => Batch.badArgument? (countOr n s.batches) maxBatchSize
  | _ => none

theorem good_of_parse {c : Command} (hparse : parse args = .ok c)
    (hload : Settings.load sources = .ok s) : c.badArgument? s = none := by
  cases c with
  | run n x =>
    obtain ⟨hn, hx⟩ := bounds_of_run hparse hload
    rw [Command.badArgument?, countOr_eq_getD hn]
    exact Loader.badArgument?_eq_none.mpr ⟨hn, Interval.isNegative_eq_false hx⟩
  | batch table n =>
    have hn := bounds_of_batch hparse hload
    rw [Command.badArgument?, countOr_eq_getD hn]
    exact Batch.badArgument?_eq_none.mpr ⟨hn, by decide, by decide⟩
  | _ => rfl

end Accepted

end Cli

end TableSeeder
