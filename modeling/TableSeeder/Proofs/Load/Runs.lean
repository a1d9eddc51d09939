import TableSeeder.Proofs.Load.Rounds

/-! A whole run of a loader: refused outright, or a first entry, the rounds up to the first that
fails, and a last entry. -/

namespace TableSeeder.Loader

def badArgument? (n : Int) (interval : Interval) : Option BadArgument :=
  if n ≤ 0 then some (.iterations n)
  else if interval.isNegative then some (.interval interval)
  else none

theorem badArgument?_eq_none {n : Int} {interval : Interval} :
    badArgument? n interval = none ↔ 1 ≤ n ∧ interval.isNegative = false := by
  unfold badArgument?
  by_cases hn : n ≤ 0
  · rw [if_pos hn]
    constructor
    · intro h
      cases h
    · rintro ⟨h, _⟩
      omega
  · rw [if_neg hn]
    cases interval.isNegative with
    | true =>
      constructor
      · intro h
        cases h
      · rintro ⟨_, h⟩
        cases h
    | false => exact ⟨fun _ => ⟨by omega, rfl⟩, fun _ => rfl⟩

theorem run_of_badArgument {l : Loader} {n : Int} {interval : Interval} {a : BadArgument}
    (h : badArgument? n interval = some a) (w : World) :
    l.run n interval w = (.error (.badArgument a), l, w) := by
  unfold badArgument? at h
  unfold run
  by_cases hn : n ≤ 0
  · rw [if_pos hn] at h ⊢
    rw [Option.some.inj h]
  · rw [if_neg hn] at h ⊢
    by_cases hi : interval.isNegative = true
    · rw [if_pos hi] at h ⊢
      rw [Option.some.inj h]
    · rw [if_neg hi] at h
      cases h

theorem run_of_goodArguments {l : Loader} {n : Int} {interval : Interval}
    (h : badArgument? n interval = none) (w : World) :
    l.run n interval w =
      if l.phase ≠ .notStarted then (.error (.alreadyRun l.phase), l, w)
      else l.execute n.toNat interval w := by
  obtain ⟨hn, hi⟩ := badArgument?_eq_none.mp h
  have hn' : ¬ n ≤ 0 := by omega
  rw [run, if_neg hn', hi, if_neg Bool.false_ne_true]

theorem run_of_fresh {l : Loader} {n : Int} {interval : Interval} (hl : l.phase = .notStarted)
    (hn : 1 ≤ n) (hi : interval.isNegative = false) (w : World) :
    l.run n interval w = l.execute n.toNat interval w := by
  rw [run_of_goodArguments (badArgument?_eq_none.mpr ⟨hn, hi⟩), hl, if_neg (not_not_intro rfl)]

open Load

def made (m : Manner) (interval : Interval) (w : World) (n : Nat) : List Round :=
  upToFailure Round.failure? (rounds m interval 0 w n)

def tally (m : Manner) (interval : Interval) (w : World) (n : Nat) : Tally :=
  (made m interval w n).foldl Round.count {}

def reached (l : Loader) (m : Manner) (interval : Interval) (w : World) (n : Nat) : World :=
  (made m interval w n).foldl (Round.effect m l.table interval)
    (w.emit (.log (started l.table n interval)))

def summary (l : Loader) (m : Manner) (interval : Interval) (w : World) (n : Nat) : Summary where
  attempted := (tally m interval w n).attempted
  succeeded := (tally m interval w n).succeeded
  failed := (tally m interval w n).failed
  duration := (l.reached m interval w n).clock - w.clock

section Execute

variable {l : Loader} {m : Manner} {interval : Interval} {w : World} {n : Nat}

theorem execute_eq_finish (hs : l.store.Follows m) (hw : w.script.Logs) :
    l.execute n interval w =
      match (rounds m interval 0 w n).findSome? Round.failure? with
      | some f =>
        (.error f, { l with phase := .aborted },
          (l.reached m interval w n).emit (.log (aborted l.table (tally m interval w n))))
      | none =>
        (.ok (l.summary m interval w n), { l with phase := .completed },
          (l.reached m interval w n).emit (.log (completed (l.summary m interval w n)))) := by
  have hbegun : (w.emit (.log (started l.table n interval))).script.Logs := hw
  have hend : (l.reached m interval w n).script.Logs := by
    rw [reached, script_effects]
    exact hw
  -- the first entry leaves the script and its counters alone, so the rounds are those of `w`
  have hiterate : iterate l.store l.table interval n {}
      (w.emit (.log (started l.table n interval))) =
        ((rounds m interval 0 w n).findSome? Round.failure?, tally m interval w n,
          l.reached m interval w n) := iterate_eq hs hbegun l.table interval n {}
  rw [execute, World.log_eq hw (started_plain l.table n interval)]
  dsimp only
  rw [finish, hiterate]
  cases (rounds m interval 0 w n).findSome? Round.failure? with
  | some f =>
    dsimp only
    rw [World.logFailing_eq hend (aborted_plain _ _)]
  | none =>
    dsimp only
    rw [World.log_eq hend (completed_plain _)]
    rfl

theorem execute_of_failure (hs : l.store.Follows m) (hw : w.script.Logs) {f : Failure}
    (hf : (rounds m interval 0 w n).findSome? Round.failure? = some f) :
    l.execute n interval w =
      (.error f, { l with phase := .aborted },
        (l.reached m interval w n).emit (.log (aborted l.table (tally m interval w n)))) := by
  rw [execute_eq_finish hs hw, hf]

theorem execute_of_none (hs : l.store.Follows m) (hw : w.script.Logs)
    (hf : (rounds m interval 0 w n).findSome? Round.failure? = none) :
    l.execute n interval w =
      (.ok (l.summary m interval w n), { l with phase := .completed },
        (l.reached m interval w n).emit (.log (completed (l.summary m interval w n)))) := by
  rw [execute_eq_finish hs hw, hf]

end Execute

end TableSeeder.Loader
