import TableSeeder.Batch
import TableSeeder.Proofs.Surroundings
import TableSeeder.Proofs.UpToFailure

/-! The requests of a batch run read off the script: which ids each draws, what it does to the
tally and to the world, and that the loop goes through the requests up to the first that fails. -/

namespace TableSeeder

def drawFailure? : Except Failure String → Option Failure
  | .error f => some f
  | .ok _ => none

def Script.draws (s : Script) (k n : Nat) : List (Except Failure String) :=
  (List.range n).map fun i => s.id (k + i)

theorem Script.draws_succ (s : Script) (k n : Nat) :
    s.draws k (n + 1) = s.id k :: s.draws (k + 1) n := by
  rw [draws, draws, List.range_succ_eq_map, List.map_cons, List.map_map]
  congr 1
  apply List.map_congr_left
  intro i _
  rw [Function.comp_apply, Nat.succ_eq_add_one, Nat.add_assoc, Nat.add_comm 1]

theorem mapM_eq_error_iff {ds : List (Except Failure String)} {f : Failure} :
    ds.mapM id = .error f ↔ ds.findSome? drawFailure? = some f := by
  induction ds with
  | nil => simp [pure, Except.pure]
  | cons d ds ih =>
    cases d with
    | error g =>
      rw [List.findSome?_cons, drawFailure?, List.mapM_cons]
      simp [bind, Except.bind]
    | ok x =>
      rw [List.findSome?_cons, drawFailure?, ← ih, List.mapM_cons]
      cases hds : ds.mapM id <;> simp [bind, Except.bind, pure, Except.pure]

theorem mapM_eq_ok_iff {ds : List (Except Failure String)} {ids : List String} :
    ds.mapM id = .ok ids ↔ ds = ids.map .ok := by
  induction ds generalizing ids with
  | nil => simp [pure, Except.pure, eq_comm]
  | cons d ds ih =>
    rw [List.mapM_cons]
    cases d with
    | error g => cases ids <;> simp [bind, Except.bind]
    | ok x =>
      cases hds : ds.mapM id with
      | error g =>
        refine iff_of_false nofun fun h => ?_
        cases ids with
        | nil => cases h
        | cons y ids =>
          rw [ih.mpr (List.cons.inj h).2] at hds
          cases hds
      | ok rest =>
        have hrest := ih.mp hds
        cases ids with
        | nil => simp [bind, Except.bind, pure, Except.pure]
        | cons y ids =>
          rw [hrest]
          simp [bind, Except.bind, pure, Except.pure, List.map_inj_right]

theorem length_of_mapM {ds : List (Except Failure String)} {ids : List String}
    (h : ds.mapM id = .ok ids) : ids.length = ds.length := by
  rw [mapM_eq_ok_iff.mp h, List.length_map]

theorem upToFailure_of_mapM {ds : List (Except Failure String)} {ids : List String}
    (h : ds.mapM id = .ok ids) : upToFailure drawFailure? ds = ds := by
  apply upToFailure_eq_self
  cases hf : ds.findSome? drawFailure? with
  | none => rfl
  | some f =>
    rw [mapM_eq_error_iff.mpr hf] at h
    cases h

theorem World.nextIds_eq (n : Nat) (w : World) :
    World.nextIds n w =
      let ds := w.script.draws w.ids n
      (ds.mapM id, { w with ids := w.ids + (upToFailure drawFailure? ds).length }) := by
  induction n generalizing w with
  | zero => rfl
  | succ n ih =>
    rw [World.nextIds, World.nextId, Script.draws_succ]
    cases hid : w.script.id w.ids with
    | error f => rfl
    | ok x =>
      have hrest := ih { w with ids := w.ids + 1 }
      dsimp only at hrest ⊢
      rw [hrest, upToFailure_cons_of_none rfl, List.mapM_cons, List.length_cons,
        Nat.add_right_comm, ← Nat.add_assoc]
      cases (w.script.draws (w.ids + 1) n).mapM id <;> rfl

namespace Batch

/-- How a request goes: an id cannot be drawn, or the request breaks off the run, or it is
rejected, or it is answered with what has been left unprocessed. -/
inductive Course where
  | undrawn (f : Failure)
  | broken (ids : List String) (f : Failure)
  | rejected (ids : List String) (r : Rejection)
  | written (ids : List String) (unprocessed : Value)

def Course.of : Except Failure (List String) → Except Failure Value → Course
  | .error f, _ => .undrawn f
  | .ok ids, .ok unprocessed => .written ids unprocessed
  | .ok ids, .error (.rejected r) => .rejected ids r
  | .ok ids, .error f => .broken ids f

namespace Course

def failure? : Course → Option Failure
  | undrawn f => some f
  | broken _ f => some f
  | _ => none

def writes : Course → Nat
  | undrawn _ => 0
  | _ => 1

def count (t : Tally) : Course → Tally
  | undrawn _ => t
  | broken .. => { t with attempted := t.attempted + 1 }
  | rejected .. => { t with attempted := t.attempted + 1, failed := t.failed + 1 }
  | written .. => { t with attempted := t.attempted + 1, succeeded := t.succeeded + 1 }

theorem of_goes_on {ids : Except Failure (List String)} {answer : Except Failure Value}
    (h : (of ids answer).failure? = none) :
    (∃ xs, ids = .ok xs) ∧ (of ids answer).writes = 1 ∧
      ∀ t, (count t (of ids answer)).attempted = t.attempted + 1 := by
  cases ids with
  | error f => cases h
  | ok xs =>
    cases answer with
    | ok unprocessed => exact ⟨⟨xs, rfl⟩, rfl, fun _ => rfl⟩
    | error f =>
      cases f with
      | rejected r => exact ⟨⟨xs, rfl⟩, rfl, fun _ => rfl⟩
      | _ => cases h

end Course

structure Request where
  total : Nat
  draws : Nat
  cost : Float
  course : Course

/-- The k-th request from here, after `done` others. -/
def request (m : Manner) (size done : Nat) (w : World) (k : Nat) : Request :=
  let ds := w.script.draws (w.ids + k * size) size
  let reply := w.script.write (w.writes + k)
  { total := (done + k + 1) * size
    draws := (upToFailure drawFailure? ds).length
    cost := reply.cost
    course := .of (ds.mapM id) (m.answer reply) }

def requests (m : Manner) (size done : Nat) (w : World) (n : Nat) : List Request :=
  (List.range n).map (request m size done w)

def leftOverWarning (unprocessed : Value) (table : String) : Log.Entry :=
  ⟨"item_loader.batch", 30, "Batch returned unprocessed items",
    [("unprocessed", unprocessed), ("table", .text table)]⟩

theorem leftOver_eq (unprocessed : Value) (table : String) :
    leftOver unprocessed table = leftOverWarning unprocessed table := rfl

def warnings (table : String) (unprocessed : Value) : List Event :=
  if unprocessed.truthy then [.log (leftOverWarning unprocessed table)] else []

def items (ids : List String) : List Item := ids.map fun id => (Record.batched id).item

namespace Request

def failure? (r : Request) : Option Failure := r.course.failure?

def events (m : Manner) (table : String) (r : Request) : List Event :=
  match r.course with
  | .undrawn _ => []
  | .broken ids _ => [m.noteBatch table (items ids)]
  | .rejected ids j =>
    [m.noteBatch table (items ids), .out (echoed ("Err: " ++ j.message.shown))]
  | .written ids unprocessed =>
    m.noteBatch table (items ids) :: warnings table unprocessed ++
      [.out (echoed ("Written " ++ toString r.total ++ " records"))]

def clockAfter (clock : Float) (r : Request) : Float :=
  match r.course with
  | .undrawn _ => clock
  | _ => clock + r.cost

def count (t : Tally) (r : Request) : Tally := r.course.count t

def effect (m : Manner) (table : String) (w : World) (r : Request) : World :=
  { w.emitAll (r.events m table) with
    clock := r.clockAfter w.clock
    ids := w.ids + r.draws
    writes := w.writes + r.course.writes }

@[simp] theorem script_effect (m : Manner) (table : String) (w : World) (r : Request) :
    (r.effect m table w).script = w.script := World.script_emitAll w (r.events m table)

end Request

theorem leftOver_plain (unprocessed : Value) (table : String) :
    (leftOver unprocessed table).Plain := rfl

section Follows

variable {store : Store} {m : Manner} {w : World}

theorem send_eq (hs : store.Follows m) (hw : w.script.Logs) (table : String) (ids : List String)
    (total : Nat) (t : Tally) :
    send store table ids total t w =
      let sent := (w.emit (m.noteBatch table (items ids))).answered (w.script.write w.writes)
      match m.answer (w.script.write w.writes) with
      | .ok unprocessed =>
        (.ok { t with succeeded := t.succeeded + 1 },
          (sent.emitAll (warnings table unprocessed)).echo
            ("Written " ++ toString total ++ " records"))
      | .error (.rejected r) =>
        (.ok { t with failed := t.failed + 1 }, sent.echo ("Err: " ++ r.message.shown))
      | .error f => (.error f, sent) := by
  rw [send, hs.putBatch_batched, ← items]
  -- nothing below looks into the world in which the request has been answered
  generalize hsent : (w.emit (m.noteBatch table (items ids))).answered
    (w.script.write w.writes) = sent
  have hlogs : sent.script.Logs := by
    rw [← hsent]
    exact hw
  cases m.answer (w.script.write w.writes) with
  | error f => cases f <;> rfl
  | ok unprocessed =>
    dsimp only
    rw [warnUnprocessed, warnings]
    cases unprocessed.truthy with
    | false => rfl
    | true =>
      rw [if_pos rfl, World.log_eq hlogs (leftOver_plain unprocessed table), leftOver_eq]
      rfl

theorem iterate_succ (hs : store.Follows m) (hw : w.script.Logs) (table : String)
    (size count : Nat) (t : Tally) :
    iterate store table size (count + 1) t w =
      let r := request m size t.attempted w 0
      match r.failure? with
      | some f => (.error f, r.effect m table w)
      | none => iterate store table size count (r.count t) (r.effect m table w) := by
  have hzero : w.ids + 0 * size = w.ids := by rw [Nat.zero_mul, Nat.add_zero]
  rw [iterate, World.nextIds_eq, request, hzero]
  dsimp only
  generalize hdraws : w.script.draws w.ids size = ds
  cases hids : ds.mapM id with
  | error f => rfl
  | ok ids =>
    have hdrawn : ({ w with ids := w.ids + (upToFailure drawFailure? ds).length } :
        World).script.Logs := hw
    dsimp only
    rw [send_eq hs hdrawn]
    dsimp only [Nat.add_zero]
    cases m.answer (w.script.write w.writes) with
    | ok unprocessed =>
      dsimp only [Request.failure?, Request.effect, Request.events, Course.of, Course.failure?]
      unfold warnings
      cases unprocessed.truthy <;> rfl
    | error f => cases f <;> rfl

theorem request_succ (m : Manner) (table : String) (size : Nat) (t : Tally) (w : World) (k : Nat)
    (h : (request m size t.attempted w 0).failure? = none) :
    request m size t.attempted w (k + 1) =
      request m size ((request m size t.attempted w 0).count t).attempted
        ((request m size t.attempted w 0).effect m table w) k := by
  obtain ⟨⟨ids, hids⟩, hwrites, hattempted⟩ := Course.of_goes_on h
  have hcount : ((request m size t.attempted w 0).count t).attempted = t.attempted + 1 :=
    hattempted t
  have heffect : ((request m size t.attempted w 0).effect m table w).writes = w.writes + 1 :=
    congrArg (w.writes + ·) hwrites
  have hdraws : ((request m size t.attempted w 0).effect m table w).ids = w.ids + size := by
    -- with all ids drawn, none of the draws has been left out
    have hall := congrArg List.length (upToFailure_of_mapM hids)
    rw [Script.draws, List.length_map, List.length_range] at hall
    exact congrArg (w.ids + ·) hall
  have hnext : w.ids + (k + 1) * size = w.ids + size + k * size := by
    rw [Nat.succ_mul]
    omega
  rw [hcount]
  unfold request at hdraws heffect ⊢
  rw [hdraws, heffect, Request.script_effect, hnext, Nat.add_right_comm t.attempted,
    Nat.add_right_comm w.writes]
  rfl

theorem iterate_unrolls (hs : store.Follows m) (table : String) (size : Nat) :
    Unrolls (fun n (s : Tally × World) => iterate store table size n s.1 s.2)
      (fun s => s.2.script.Logs) (fun s => request m size s.1.attempted s.2) Request.failure?
      (fun s r => (r.count s.1, r.effect m table s.2)) (fun s => (.ok s.1, s.2))
      (fun f s => (.error f, s.2)) where
  zero _ := rfl
  succ n s hw := iterate_succ hs hw table size n s.1
  sound_effect hw := by
    rw [Request.script_effect]
    exact hw
  entry_succ s k h := request_succ m table size s.1 s.2 k h

/-- The loop goes through the requests up to the first that fails. -/
theorem iterate_eq (hs : store.Follows m) (hw : w.script.Logs) (table : String) (size n : Nat)
    (t : Tally) :
    iterate store table size n t w =
      let rs := requests m size t.attempted w n
      let made := upToFailure Request.failure? rs
      ((match rs.findSome? Request.failure? with
        | some f => .error f
        | none => .ok (made.foldl Request.count t)),
        made.foldl (Request.effect m table) w) := by
  have h := (iterate_unrolls hs table size).loop_eq n (show (t, w).2.script.Logs from hw)
  dsimp only at h
  rw [foldl_pair Request.count (Request.effect m table), ← requests] at h
  dsimp only
  rw [h]
  cases (requests m size t.attempted w n).findSome? Request.failure? <;> rfl

end Follows

section Effects

variable (m : Manner) (table : String) (rs : List Request) (w : World)

theorem trace_effects : (rs.foldl (Request.effect m table) w).trace.toList =
    w.trace.toList ++ rs.flatMap (Request.events m table) := by
  induction rs generalizing w with
  | nil => simp
  | cons r rs ih =>
    have hr : (r.effect m table w).trace.toList = w.trace.toList ++ r.events m table :=
      World.trace_emitAll w _
    rw [List.foldl_cons, ih, hr, List.flatMap_cons, List.append_assoc]

theorem clock_effects : (rs.foldl (Request.effect m table) w).clock =
    rs.foldl Request.clockAfter w.clock := by
  induction rs generalizing w with
  | nil => rfl
  | cons r rs ih => exact ih (r.effect m table w)

theorem ids_effects : (rs.foldl (Request.effect m table) w).ids =
    rs.foldl (fun drawn r => drawn + r.draws) w.ids := by
  induction rs generalizing w with
  | nil => rfl
  | cons r rs ih => exact ih (r.effect m table w)

end Effects

section Guard

def badArgument? (batches size : Int) : Option BadArgument :=
  if batches ≤ 0 then some (.batches batches)
  else if size < 1 ∨ maxBatchSize < size then some (.batchSize size)
  else none

theorem badArgument?_eq_none {batches size : Int} :
    badArgument? batches size = none ↔ 1 ≤ batches ∧ 1 ≤ size ∧ size ≤ maxBatchSize := by
  unfold badArgument?
  split
  · exact iff_of_false nofun fun h => by omega
  split
  · exact iff_of_false nofun fun h => by omega
  · exact iff_of_true rfl (by omega)

theorem run_eq (store : Store) (table : String) (batches size : Int) (w : World) :
    run store table batches size w =
      match badArgument? batches size with
      | some a => (.error (.badArgument a), w)
      | none =>
        match iterate store table size.toNat batches.toNat {} w with
        | (.error f, w') => (.error f, w')
        | (.ok t, w') => (.ok ⟨t.attempted, t.succeeded, t.failed, w'.clock - w.clock⟩, w') := by
  unfold run badArgument?
  split
  · rfl
  split <;> rfl

end Guard

end Batch

end TableSeeder
