import TableSeeder.Proofs.Load.Runs

/-! One loader through any sequence of calls: at most one of them starts the load, and all others
are refused and leave everything as it was. -/

namespace TableSeeder

structure Call where
  iterations : Int
  interval : Interval

def Call.Good (c : Call) : Prop := 1 ≤ c.iterations ∧ c.interval.isNegative = false

theorem Call.not_good_iff {c : Call} :
    ¬ c.Good ↔ c.iterations ≤ 0 ∨ c.interval.isNegative = true := by
  constructor
  · intro h
    by_cases hn : c.iterations ≤ 0
    · exact .inl hn
    · cases hi : c.interval.isNegative with
      | true => exact .inr rfl
      | false => exact absurd ⟨by omega, hi⟩ h
  · rintro (h | h) ⟨hn, hi⟩
    · omega
    · rw [h] at hi
      cases hi

structure Turn where
  call : Call
  found : Loader × World
  outcome : Except Failure Summary
  left : Loader × World

def Event.isPut : Event → Bool
  | .put _ _ => true
  | _ => false

namespace Turn

def Idle (t : Turn) : Prop := t.left = t.found

def events (t : Turn) : List Event := t.left.2.trace.toList.drop t.found.2.trace.size

def puts (t : Turn) : List Event := t.events.filter Event.isPut

theorem Idle.puts_eq_nil {t : Turn} (h : t.Idle) : t.puts = [] := by
  have hevents : t.events = [] := by
    rw [events, h, ← Array.length_toList, List.drop_length]
  rw [puts, hevents, List.filter_nil]

end Turn

namespace Loader

def history : List Call → Loader → World → List Turn
  | [], _, _ => []
  | c :: cs, l, w =>
    let (outcome, l', w') := l.run c.iterations c.interval w
    ⟨c, (l, w), outcome, (l', w')⟩ :: history cs l' w'

theorem history_cons (c : Call) (cs : List Call) (l : Loader) (w : World) :
    history (c :: cs) l w =
      ⟨c, (l, w), (l.run c.iterations c.interval w).1, (l.run c.iterations c.interval w).2⟩ ::
        history cs (l.run c.iterations c.interval w).2.1 (l.run c.iterations c.interval w).2.2 :=
  rfl

theorem history_calls (cs : List Call) (l : Loader) (w : World) :
    (history cs l w).map Turn.call = cs := by
  induction cs generalizing l w with
  | nil => rfl
  | cons c cs ih => rw [history_cons, List.map_cons, ih]

theorem run_of_history {cs : List Call} {l : Loader} {w : World} {t : Turn}
    (ht : t ∈ history cs l w) :
    t.found.1.run t.call.iterations t.call.interval t.found.2 = (t.outcome, t.left) := by
  induction cs generalizing l w with
  | nil => cases ht
  | cons c cs ih =>
    rw [history_cons] at ht
    rcases List.mem_cons.mp ht with rfl | h
    · rfl
    · exact ih h

def endPhase : Except Failure Summary → Phase
  | .ok _ => .completed
  | .error _ => .aborted

theorem run_of_bad {c : Call} (hc : ¬ c.Good) (l : Loader) (w : World) :
    ∃ a, l.run c.iterations c.interval w = (.error (.badArgument a), l, w) := by
  cases ha : badArgument? c.iterations c.interval with
  | none => exact absurd (badArgument?_eq_none.mp ha) hc
  | some a => exact ⟨a, run_of_badArgument ha w⟩

theorem run_of_started {l : Loader} {c : Call} (hl : l.phase ≠ .notStarted) (hc : c.Good)
    (w : World) : l.run c.iterations c.interval w = (.error (.alreadyRun l.phase), l, w) := by
  rw [run_of_goodArguments (badArgument?_eq_none.mpr hc), if_pos hl]

theorem phase_of_start {l : Loader} {m : Manner} {w : World} {c : Call} (hs : l.store.Follows m)
    (hw : w.script.Logs) (hl : l.phase = .notStarted) (hc : c.Good) :
    (l.run c.iterations c.interval w).2.1.phase =
      endPhase (l.run c.iterations c.interval w).1 := by
  rw [run_of_fresh hl hc.1 hc.2]
  cases hf : (Load.rounds m c.interval 0 w c.iterations.toNat).findSome? Load.Round.failure? with
  | some f => rw [execute_of_failure hs hw hf, endPhase]
  | none => rw [execute_of_none hs hw hf, endPhase]

theorem endPhase_cases (outcome : Except Failure Summary) :
    endPhase outcome = .completed ∨ endPhase outcome = .aborted := by
  cases outcome with
  | ok s => exact .inl rfl
  | error f => exact .inr rfl

theorem endPhase_ne_notStarted (outcome : Except Failure Summary) :
    endPhase outcome ≠ .notStarted := by
  cases outcome <;> exact Phase.noConfusion

/-- Between calls: the store answers by the script, entries can be logged, and no load is
running. -/
structure Rests (m : Manner) (l : Loader) (w : World) : Prop where
  follows : l.store.Follows m
  logs : w.script.Logs
  phase_ne : l.phase ≠ .running

theorem Rests.run {l : Loader} {m : Manner} {w : World} (h : Rests m l w) (c : Call) :
    Rests m (l.run c.iterations c.interval w).2.1 (l.run c.iterations c.interval w).2.2 := by
  by_cases hc : c.Good
  · by_cases hl : l.phase = .notStarted
    · have hend : (l.reached m c.interval w c.iterations.toNat).script.Logs := by
        rw [reached, Load.script_effects]
        exact h.logs
      rw [run_of_fresh hl hc.1 hc.2]
      cases hf : (Load.rounds m c.interval 0 w c.iterations.toNat).findSome?
          Load.Round.failure? with
      | some f =>
        rw [execute_of_failure h.follows h.logs hf]
        exact ⟨h.follows, hend, Phase.noConfusion⟩
      | none =>
        rw [execute_of_none h.follows h.logs hf]
        exact ⟨h.follows, hend, Phase.noConfusion⟩
    · rw [run_of_started hl hc]
      exact h
  · obtain ⟨a, ha⟩ := run_of_bad hc l w
    rw [ha]
    exact h

theorem Rests.history {cs : List Call} {l : Loader} {m : Manner} {w : World} (h : Rests m l w)
    {t : Turn} (ht : t ∈ history cs l w) : Rests m t.left.1 t.left.2 := by
  induction cs generalizing l w with
  | nil => cases ht
  | cons c cs ih =>
    rw [history_cons] at ht
    rcases List.mem_cons.mp ht with rfl | hrest
    · exact h.run c
    · exact ih (h.run c) hrest

theorem history_of_started {cs : List Call} {l : Loader} {w : World} (hl : l.phase ≠ .notStarted)
    {t : Turn} (ht : t ∈ history cs l w) : t.found = (l, w) ∧ t.Idle := by
  induction cs with
  | nil => cases ht
  | cons c cs ih =>
    have hrun : ∃ f, l.run c.iterations c.interval w = (.error f, l, w) := by
      by_cases hc : c.Good
      · exact ⟨_, run_of_started hl hc w⟩
      · obtain ⟨a, ha⟩ := run_of_bad hc l w
        exact ⟨_, ha⟩
    obtain ⟨f, hf⟩ := hrun
    rw [history_cons, hf] at ht
    rcases List.mem_cons.mp ht with rfl | h
    · exact ⟨rfl, rfl⟩
    · exact ih h

section Fresh

variable {l : Loader} {m : Manner} {w : World}

theorem found_of_history (hs : l.store.Follows m) (hw : w.script.Logs)
    (hl : l.phase = .notStarted) {cs : List Call} {before after : List Turn} {t : Turn}
    (h : history cs l w = before ++ t :: after) :
    ((∀ p ∈ before, ¬ p.call.Good) → t.found = (l, w)) ∧
      ((∃ p ∈ before, p.call.Good) →
        t.found.1.phase = .completed ∨ t.found.1.phase = .aborted) := by
  induction cs generalizing before with
  | nil => cases before <;> cases h
  | cons c cs ih =>
    rw [history_cons] at h
    cases before with
    | nil =>
      obtain ⟨rfl, _⟩ := List.cons.inj h
      exact ⟨fun _ => rfl, fun ⟨p, hp, _⟩ => nomatch hp⟩
    | cons p before =>
      obtain ⟨hp, hrest⟩ := List.cons.inj h
      have hcall : p.call = c := by rw [← hp]
      by_cases hc : c.Good
      -- the first call starts the load, so each call behind it finds the load at its end
      · have hphase := phase_of_start hs hw hl hc
        have hleft : (l.run c.iterations c.interval w).2.1.phase ≠ .notStarted := by
          rw [hphase]
          exact endPhase_ne_notStarted _
        have ht : t ∈ history cs (l.run c.iterations c.interval w).2.1
            (l.run c.iterations c.interval w).2.2 := by
          rw [hrest]
          exact List.mem_append_right before List.mem_cons_self
        have hfound := (history_of_started hleft ht).1
        constructor
        · intro hbefore
          exact absurd (hcall ▸ hc) (hbefore p List.mem_cons_self)
        · intro _
          rw [hfound, hphase]
          exact endPhase_cases _
      · obtain ⟨a, ha⟩ := run_of_bad hc l w
        rw [ha] at hrest
        obtain ⟨hfresh, hended⟩ := ih hrest
        constructor
        · intro hbefore
          exact hfresh fun q hq => hbefore q (List.mem_cons_of_mem p hq)
        · rintro ⟨q, hq, hgood⟩
          rcases List.mem_cons.mp hq with rfl | hq
          · exact absurd (hcall ▸ hgood) hc
          · exact hended ⟨q, hq, hgood⟩

theorem history_pairwise_idle (hs : l.store.Follows m) (hw : w.script.Logs)
    (hl : l.phase = .notStarted) (cs : List Call) :
    (history cs l w).Pairwise fun a b => a.Idle ∨ b.Idle := by
  induction cs with
  | nil => exact List.Pairwise.nil
  | cons c cs ih =>
    rw [history_cons]
    by_cases hc : c.Good
    · have hleft : (l.run c.iterations c.interval w).2.1.phase ≠ .notStarted := by
        rw [phase_of_start hs hw hl hc]
        exact endPhase_ne_notStarted _
      refine List.pairwise_cons.mpr ⟨fun t ht => .inr (history_of_started hleft ht).2, ?_⟩
      exact List.pairwise_of_forall_mem_list fun t ht _ _ => .inl (history_of_started hleft ht).2
    · obtain ⟨a, ha⟩ := run_of_bad hc l w
      rw [ha]
      exact List.pairwise_cons.mpr ⟨fun _ _ => .inl rfl, ih⟩

end Fresh

theorem outcome_of_bad {cs : List Call} {l : Loader} {w : World} {t : Turn}
    (ht : t ∈ history cs l w) (hc : ¬ t.call.Good) :
    (∃ a, t.outcome = .error (.badArgument a)) ∧ t.Idle := by
  obtain ⟨a, ha⟩ := run_of_bad hc t.found.1 t.found.2
  have hrun := (run_of_history ht).symm.trans ha
  exact ⟨⟨a, congrArg Prod.fst hrun⟩, congrArg Prod.snd hrun⟩

theorem outcome_of_good {l : Loader} {m : Manner} {w : World} (hs : l.store.Follows m)
    (hw : w.script.Logs) (hl : l.phase = .notStarted) {cs : List Call} {before after : List Turn}
    {t : Turn} (h : history cs l w = before ++ t :: after) (hc : t.call.Good) :
    ((∀ p ∈ before, ¬ p.call.Good) →
      t.found.1.phase = .notStarted ∧ t.left.1.phase = endPhase t.outcome) ∧
    ((∃ p ∈ before, p.call.Good) →
      (t.found.1.phase = .completed ∨ t.found.1.phase = .aborted) ∧
        t.outcome = .error (.alreadyRun t.found.1.phase) ∧ t.Idle) := by
  have ht : t ∈ history cs l w := h ▸ List.mem_append_right before List.mem_cons_self
  have hrun := run_of_history ht
  obtain ⟨hfresh, hended⟩ := found_of_history hs hw hl h
  constructor
  · intro hbefore
    -- the calls before have all been refused and have left everything as it was
    have hfound := hfresh hbefore
    have hnew : t.found.1.phase = .notStarted :=
      (congrArg (fun p => p.1.phase) hfound).trans hl
    have hfollows : t.found.1.store.Follows m := by
      rw [hfound]
      exact hs
    have hlogs : t.found.2.script.Logs := by
      rw [hfound]
      exact hw
    have hphase := phase_of_start hfollows hlogs hnew hc
    rw [hrun] at hphase
    exact ⟨hnew, hphase⟩
  · intro hbefore
    have hphase := hended hbefore
    have hne : t.found.1.phase ≠ .notStarted := by
      rcases hphase with h | h <;> rw [h] <;> exact Phase.noConfusion
    rw [run_of_started hne hc] at hrun
    exact ⟨hphase, (congrArg Prod.fst hrun).symm, (congrArg Prod.snd hrun).symm⟩

/-- Bad arguments are refused whatever the phase; the first good ones start the load, which is then
completed or aborted; later ones are refused by the phase. -/
theorem history_starts_once (table : String) (cs : List Call) {w : World} (hw : w.script.Logs) :
    let turns := history cs { store := .scripted, table } w
    turns.map Turn.call = cs ∧
      (∀ t ∈ turns, t.left.1.phase ≠ .running) ∧
      (∀ t ∈ turns, t.call.iterations ≤ 0 ∨ t.call.interval.isNegative = true →
        (∃ a, t.outcome = .error (.badArgument a)) ∧ t.Idle) ∧
      (∀ before t after, turns = before ++ t :: after → t.call.Good →
        ((∀ p ∈ before, ¬ p.call.Good) →
          t.found.1.phase = .notStarted ∧ t.left.1.phase = endPhase t.outcome) ∧
        ((∃ p ∈ before, p.call.Good) →
          (t.found.1.phase = .completed ∨ t.found.1.phase = .aborted) ∧
            t.outcome = .error (.alreadyRun t.found.1.phase) ∧ t.Idle)) ∧
      turns.Pairwise (fun a b => a.puts = [] ∨ b.puts = []) ∧
      (Failure.alreadyRun .completed).message = "loader already completed" ∧
      (Failure.alreadyRun .aborted).message = "loader already aborted" := by
  intro turns
  have hs : Store.scripted.Follows .scripted := Store.scripted_follows
  have hrests : Rests .scripted { store := .scripted, table } w := ⟨hs, hw, Phase.noConfusion⟩
  refine ⟨history_calls .., ?_, ?_, ?_, ?_, rfl, rfl⟩
  · intro t ht
    exact (hrests.history ht).phase_ne
  · intro t ht hc
    exact outcome_of_bad ht (Call.not_good_iff.mpr hc)
  · intro before t after h hc
    exact outcome_of_good hs hw rfl h hc
  · apply (history_pairwise_idle hs hw rfl cs).imp
    intro a b h
    exact h.imp Turn.Idle.puts_eq_nil Turn.Idle.puts_eq_nil

theorem history_starts_once_troubled :
    let calls : List Call := [⟨0, .real 0.5⟩, ⟨3, .real 0.5⟩, ⟨1, .whole (-1)⟩, ⟨2, .whole 0⟩]
    let turns := history calls { store := .scripted, table := "t" } .troubled
    World.troubled.script.Logs ∧
      turns.map (fun t => t.left.1.phase) = [.notStarted, .aborted, .aborted, .aborted] ∧
      turns.map Turn.call = calls ∧
      (∀ t ∈ turns, t.left.1.phase ≠ .running) ∧
      turns.Pairwise (fun a b => a.puts = [] ∨ b.puts = []) := by
  intro calls turns
  obtain ⟨hcalls, hrunning, _, _, hputs, _⟩ :=
    history_starts_once "t" calls World.troubled_logs
  exact ⟨World.troubled_logs, rfl, hcalls, hrunning, hputs⟩

end Loader

end TableSeeder
