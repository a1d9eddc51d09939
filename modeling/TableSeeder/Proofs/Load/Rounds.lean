import TableSeeder.Load
import TableSeeder.Proofs.Surroundings
import TableSeeder.Proofs.UpToFailure

/-! The iterations of a load as rounds read off the script: what each does to the tally and to the
world, and that the loop goes through the rounds up to the first that fails. -/

namespace TableSeeder.Load

/-- How an iteration goes: no id is drawn, or the write breaks off the load, or it is settled, with
or without a rejection, and the pause follows. -/
inductive Course where
  | undrawn (f : Failure)
  | broken (id : String) (f : Failure)
  | settled (id : String) (rejection? : Option Rejection) (pauseFailure? : Option Failure)

def Course.of : Except Failure String → Option Failure → Option Failure → Course
  | .error f, _, _ => .undrawn f
  | .ok id, none, pause => .settled id none pause
  | .ok id, some (.rejected r), pause => .settled id (some r) pause
  | .ok id, some f, _ => .broken id f

namespace Course

def failure? : Course → Option Failure
  | undrawn f => some f
  | broken _ f => some f
  | settled _ _ pause => pause

theorem eq_settled {c : Course} (h : c.failure? = none) : ∃ id j, c = settled id j none := by
  cases c with
  | undrawn f => cases h
  | broken id f => cases h
  | settled id j pause =>
    obtain rfl : pause = none := h
    exact ⟨id, j, rfl⟩

def writes : Course → Nat
  | undrawn _ => 0
  | _ => 1

def sleeps : Course → Nat
  | settled .. => 1
  | _ => 0

def count (t : Tally) : Course → Tally
  | undrawn _ => t
  | broken .. => { t with attempted := t.attempted + 1 }
  | settled _ none _ => { t with attempted := t.attempted + 1, succeeded := t.succeeded + 1 }
  | settled _ (some _) _ => { t with attempted := t.attempted + 1, failed := t.failed + 1 }

end Course

structure Round where
  number : Nat
  cost : Float
  course : Course

/-- The k-th iteration from here, after `done` others. -/
def round (m : Manner) (interval : Interval) (done : Nat) (w : World) (k : Nat) : Round where
  number := done + k + 1
  cost := (w.script.write (w.writes + k)).cost
  course := .of (w.script.id (w.ids + k)) (m.failure? (w.script.write (w.writes + k)))
    (w.script.pauseFailure? interval (w.sleeps + k))

theorem round_zero (m : Manner) (interval : Interval) (done : Nat) (w : World) :
    round m interval done w 0 =
      ⟨done + 1, (w.script.write w.writes).cost, .of (w.script.id w.ids)
        (m.failure? (w.script.write w.writes)) (w.script.pauseFailure? interval w.sleeps)⟩ := rfl

def rounds (m : Manner) (interval : Interval) (done : Nat) (w : World) (n : Nat) : List Round :=
  (List.range n).map (round m interval done w)

def progressLine (n : Nat) : String := "Writing item #" ++ toString n

namespace Round

def failure? (r : Round) : Option Failure := r.course.failure?

def events (m : Manner) (table : String) (interval : Interval) (r : Round) : List Event :=
  let begun id := [.out (echoed (progressLine r.number)), m.note table (Record.single id).item]
  match r.course with
  | .undrawn _ => []
  | .broken id _ => begun id
  | .settled id none _ => begun id ++ [.log (accepted r.number), .sleep interval]
  | .settled id (some j) _ =>
    begun id ++
      [.out (echoed (echoText j.message)), .log (rejected r.number j table), .sleep interval]

def clockAfter (interval : Interval) (clock : Float) (r : Round) : Float :=
  match r.course with
  | .undrawn _ => clock
  | .settled _ _ none => clock + r.cost + interval.seconds?.getD 0.0
  | _ => clock + r.cost

def count (t : Tally) (r : Round) : Tally := r.course.count t

def effect (m : Manner) (table : String) (interval : Interval) (w : World) (r : Round) : World :=
  { w.emitAll (r.events m table interval) with
    clock := r.clockAfter interval w.clock
    ids := w.ids + 1
    writes := w.writes + r.course.writes
    sleeps := w.sleeps + r.course.sleeps }

@[simp] theorem script_effect (m : Manner) (table : String) (interval : Interval) (w : World)
    (r : Round) : (r.effect m table interval w).script = w.script :=
  World.script_emitAll w (r.events m table interval)

end Round

theorem accepted_plain (n : Nat) : (accepted n).Plain := rfl

theorem rejected_plain (n : Nat) (r : Rejection) (table : String) :
    (rejected n r table).Plain := rfl

theorem aborted_plain (table : String) (t : Tally) : (aborted table t).Plain := rfl

theorem completed_plain (s : Summary) : (completed s).Plain := rfl

theorem started_plain (table : String) (n : Nat) (interval : Interval) :
    (started table n interval).Plain := rfl

section Follows

variable {store : Store} {m : Manner} {w : World}

theorem attempt_eq (hs : store.Follows m) (hw : w.script.Logs) (table : String) (n : Nat)
    (id : String) (t : Tally) :
    attempt store table n id t w =
      let sent := (w.emit (m.note table (Record.single id).item)).answered
        (w.script.write w.writes)
      match m.failure? (w.script.write w.writes) with
      | none => (.ok { t with succeeded := t.succeeded + 1 }, sent.emit (.log (accepted n)))
      | some (.rejected r) =>
        (.ok { t with failed := t.failed + 1 },
          (sent.echo (echoText r.message)).emit (.log (rejected n r table)))
      | some f => (.error f, sent) := by
  rw [attempt, hs.put_single]
  generalize hsent : (w.emit (m.note table (Record.single id).item)).answered
    (w.script.write w.writes) = sent
  have hlogs : sent.script.Logs := by
    rw [← hsent]
    exact hw
  cases m.failure? (w.script.write w.writes) with
  | none =>
    dsimp only
    rw [World.log_eq hlogs (accepted_plain n)]
  | some f =>
    cases f with
    | rejected r =>
      have hecho : (sent.echo (echoText r.message)).script.Logs := hlogs
      dsimp only
      rw [World.log_eq hecho (rejected_plain n r table)]
    | _ => rfl

theorem iterate_succ (hs : store.Follows m) (hw : w.script.Logs) (table : String)
    (interval : Interval) (count : Nat) (t : Tally) :
    iterate store table interval (count + 1) t w =
      let r := round m interval t.attempted w 0
      match r.failure? with
      | some f => (some f, r.count t, r.effect m table interval w)
      | none => iterate store table interval count (r.count t) (r.effect m table interval w) := by
  rw [round_zero, iterate, World.nextId]
  cases w.script.id w.ids with
  | error f => rfl
  | ok id =>
    have hdrawn : (({ w with ids := w.ids + 1 } : World).echo
        ("Writing item #" ++ toString (t.attempted + 1))).script.Logs := hw
    -- the progress line is out when the write is attempted
    have hattempt := attempt_eq hs hdrawn table (t.attempted + 1) id
      { t with attempted := t.attempted + 1 }
    simp only [World.script_echo, World.writes_echo] at hattempt
    dsimp only
    rw [hattempt]
    cases m.failure? (w.script.write w.writes) with
    | none =>
      dsimp only [Course.of]
      rw [World.sleep_eq]
      simp only [World.script_emit, World.sleeps_emit, World.script_answered,
        World.sleeps_answered, World.script_echo, World.sleeps_echo]
      cases w.script.pauseFailure? interval w.sleeps <;> cases w <;> rfl
    | some f =>
      cases f with
      | rejected j =>
        dsimp only [Course.of]
        rw [World.sleep_eq]
        simp only [World.script_emit, World.sleeps_emit, World.script_answered,
          World.sleeps_answered, World.script_echo, World.sleeps_echo]
        cases w.script.pauseFailure? interval w.sleeps <;> cases w <;> rfl
      | _ =>
        cases w
        rfl

theorem round_succ (m : Manner) (table : String) (interval : Interval) (t : Tally) (w : World)
    (k : Nat) (h : (round m interval t.attempted w 0).failure? = none) :
    round m interval t.attempted w (k + 1) =
      round m interval ((round m interval t.attempted w 0).count t).attempted
        ((round m interval t.attempted w 0).effect m table interval w) k := by
  obtain ⟨id, j, hc⟩ := Course.eq_settled h
  have hcount : ((round m interval t.attempted w 0).count t).attempted = t.attempted + 1 := by
    rw [Round.count, hc]
    cases j <;> rfl
  rw [hcount]
  simp only [round, Round.effect, World.script_emitAll] at hc ⊢
  rw [hc]
  simp only [Course.writes, Course.sleeps]
  rw [Nat.add_right_comm, Nat.add_right_comm w.ids, Nat.add_right_comm w.writes,
    Nat.add_right_comm w.sleeps]
  rfl

theorem iterate_unrolls (hs : store.Follows m) (table : String) (interval : Interval) :
    Unrolls (fun n (s : Tally × World) => iterate store table interval n s.1 s.2)
      (fun s => s.2.script.Logs) (fun s => round m interval s.1.attempted s.2) Round.failure?
      (fun s r => (r.count s.1, r.effect m table interval s.2)) (fun s => (none, s))
      (fun f s => (some f, s)) where
  zero _ := rfl
  succ n s hw := iterate_succ hs hw table interval n s.1
  sound_effect hw := by
    rw [Round.script_effect]
    exact hw
  entry_succ s k h := round_succ m table interval s.1 s.2 k h

theorem iterate_eq (hs : store.Follows m) (hw : w.script.Logs) (table : String)
    (interval : Interval) (n : Nat) (t : Tally) :
    iterate store table interval n t w =
      let rs := rounds m interval t.attempted w n
      let made := upToFailure Round.failure? rs
      (rs.findSome? Round.failure?, made.foldl Round.count t,
        made.foldl (Round.effect m table interval) w) := by
  have h := (iterate_unrolls hs table interval).loop_eq n (show (t, w).2.script.Logs from hw)
  dsimp only at h
  rw [foldl_pair Round.count (Round.effect m table interval), ← rounds] at h
  dsimp only
  rw [h]
  cases (rounds m interval t.attempted w n).findSome? Round.failure? <;> rfl

end Follows

section Effects

variable (m : Manner) (table : String) (interval : Interval) (rs : List Round) (w : World)

theorem script_effects : (rs.foldl (Round.effect m table interval) w).script = w.script := by
  induction rs generalizing w with
  | nil => rfl
  | cons r rs ih => rw [List.foldl_cons, ih, Round.script_effect]

theorem trace_effects : (rs.foldl (Round.effect m table interval) w).trace.toList =
    w.trace.toList ++ rs.flatMap (Round.events m table interval) := by
  induction rs generalizing w with
  | nil => rw [List.foldl_nil, List.flatMap_nil, List.append_nil]
  | cons r rs ih =>
    have hr : (r.effect m table interval w).trace.toList =
        w.trace.toList ++ r.events m table interval := World.trace_emitAll w _
    rw [List.foldl_cons, ih, hr, List.flatMap_cons, List.append_assoc]

theorem clock_effects : (rs.foldl (Round.effect m table interval) w).clock =
    rs.foldl (Round.clockAfter interval) w.clock := by
  induction rs generalizing w with
  | nil => rfl
  | cons r rs ih => exact ih (r.effect m table interval w)

theorem ids_effects : (rs.foldl (Round.effect m table interval) w).ids = w.ids + rs.length := by
  induction rs generalizing w with
  | nil => rfl
  | cons r rs ih =>
    rw [List.foldl_cons, ih, List.length_cons, Nat.add_comm rs.length, ← Nat.add_assoc]
    rfl

end Effects

end TableSeeder.Load
