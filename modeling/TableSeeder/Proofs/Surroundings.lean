import TableSeeder.World

/-! What runs can rely on: entries that can be logged, stores that answer each request by the next
reply of the script, and pauses that end or fail. -/

namespace TableSeeder

def Log.Entry.Plain (e : Log.Entry) : Prop := e.fields.get? "getMessage" = none

/-- Plain entries can be logged, as they can while the clock tells a time. -/
def Script.Logs (s : Script) : Prop := ∀ e : Log.Entry, e.Plain → s.log e = none

def Script.pauseFailure? (s : Script) (interval : Interval) (k : Nat) : Option Failure :=
  match s.sleep k, interval.seconds? with
  | some f, _ => some f
  | none, none => some .endlessPause
  | none, some _ => none

theorem Script.pauseFailure?_real (s : Script) (x : Float) (k : Nat) :
    s.pauseFailure? (.real x) k = s.sleep k := by
  unfold Script.pauseFailure?
  cases s.sleep k <;> rfl

def Reply.isRejection (r : Reply) : Bool :=
  match r.failure with
  | some (.rejected _) => true
  | _ => false

/-- Ids in order, and the given replies to the first writes; nothing else ever fails. -/
def Script.replying (replies : List Reply) : Script where
  id k := .ok ("id-" ++ toString (k + 1))
  write k := replies.getD k {}
  identity _ := {}
  sleep _ := none
  create _ _ := none
  createIdentity _ _ := none
  close _ := none

def World.troubled : World where
  script := .replying [{ value := .int 4 },
    { failure := some (.rejected ⟨.text "throttled", .null, none⟩) },
    { failure := some (.incident .noCredentials) }]

theorem World.troubled_logs : World.troubled.script.Logs := fun _ _ => rfl

/-- How a store notes its requests, and what it makes of the replies to them. -/
structure Manner where
  note : String → Item → Event
  noteBatch : String → List Item → Event
  failure? : Reply → Option Failure
  answer : Reply → Except Failure Value

namespace World

@[simp] theorem script_emit (w : World) (e : Event) : (w.emit e).script = w.script := rfl

@[simp] theorem writes_emit (w : World) (e : Event) : (w.emit e).writes = w.writes := rfl

@[simp] theorem sleeps_emit (w : World) (e : Event) : (w.emit e).sleeps = w.sleeps := rfl

@[simp] theorem script_echo (w : World) (text : String) : (w.echo text).script = w.script := rfl

@[simp] theorem writes_echo (w : World) (text : String) : (w.echo text).writes = w.writes := rfl

@[simp] theorem sleeps_echo (w : World) (text : String) : (w.echo text).sleeps = w.sleeps := rfl

@[simp] theorem trace_emit (w : World) (e : Event) :
    (w.emit e).trace.toList = w.trace.toList ++ [e] := Array.toList_push

def emitAll (w : World) (es : List Event) : World := es.foldl emit w

@[simp] theorem script_emitAll (w : World) (es : List Event) :
    (w.emitAll es).script = w.script := by
  induction es generalizing w with
  | nil => rfl
  | cons e es ih => exact ih (w.emit e)

theorem trace_emitAll (w : World) (es : List Event) :
    (w.emitAll es).trace.toList = w.trace.toList ++ es := by
  induction es generalizing w with
  | nil => rw [List.append_nil, emitAll, List.foldl_nil]
  | cons e es ih =>
    have h := ih (w.emit e)
    rwa [trace_emit, List.append_assoc] at h

theorem log_eq {w : World} {e : Log.Entry} (hw : w.script.Logs) (he : e.Plain) :
    World.log e w = (.ok (), w.emit (.log e)) := by
  rw [World.log, hw e he]

theorem logFailing_eq {w : World} {e : Log.Entry} (hw : w.script.Logs) (he : e.Plain)
    (f : Failure) : World.logFailing e f w = (f, w.emit (.log e)) := by
  rw [World.logFailing, log_eq hw he]

def answered (w : World) (r : Reply) : World :=
  { w with clock := w.clock + r.cost, writes := w.writes + 1 }

@[simp] theorem script_answered (w : World) (r : Reply) : (w.answered r).script = w.script := rfl

@[simp] theorem sleeps_answered (w : World) (r : Reply) : (w.answered r).sleeps = w.sleeps := rfl

theorem nextWrite_eq (w : World) :
    World.nextWrite w =
      ((match (w.script.write w.writes).failure with
        | some f => .error f
        | none => .ok (w.script.write w.writes).value),
        w.answered (w.script.write w.writes)) := by
  unfold World.nextWrite World.answer
  cases (w.script.write w.writes).failure <;> rfl

theorem sleep_eq (interval : Interval) (w : World) :
    World.sleep interval w =
      match w.script.pauseFailure? interval w.sleeps with
      | some f => (.error f, { w.emit (.sleep interval) with sleeps := w.sleeps + 1 })
      | none =>
        (.ok (), { w.emit (.sleep interval) with
          sleeps := w.sleeps + 1, clock := w.clock + interval.seconds?.getD 0.0 }) := by
  unfold World.sleep Script.pauseFailure?
  cases hs : w.script.sleep w.sleeps with
  | some f => rfl
  | none =>
    cases hi : interval.seconds? with
    | none => rfl
    | some s => rfl

def rejections (w : World) (n : Nat) : Nat :=
  (List.range n).countP fun k => (w.script.write (w.writes + k)).isRejection

def acceptances (w : World) (n : Nat) : Nat :=
  (List.range n).countP fun k => ¬ (w.script.write (w.writes + k)).isRejection

theorem acceptances_add_rejections (w : World) (n : Nat) :
    w.acceptances n + w.rejections n = n := by
  have h := List.length_eq_countP_add_countP
    (fun k => (w.script.write (w.writes + k)).isRejection) (l := List.range n)
  rw [List.length_range, Nat.add_comm] at h
  exact h.symm

theorem rejections_succ (w : World) (n : Nat) :
    w.rejections (n + 1) =
      w.rejections n + (w.script.write (w.writes + n)).isRejection.toNat := by
  rw [rejections, List.range_succ, List.countP_append, List.countP_singleton]
  cases (w.script.write (w.writes + n)).isRejection <;> rfl

theorem acceptances_succ (w : World) (n : Nat) :
    w.acceptances (n + 1) =
      w.acceptances n + (!(w.script.write (w.writes + n)).isRejection).toNat := by
  rw [acceptances, List.range_succ, List.countP_append, List.countP_singleton]
  cases (w.script.write (w.writes + n)).isRejection <;> rfl

end World

/-- Each request for fresh records is noted once and answered by the next reply. -/
structure Store.Follows (store : Store) (m : Manner) : Prop where
  put_single (table id : String) (w : World) :
    store.put table (Record.single id).item w =
      ((match m.failure? (w.script.write w.writes) with
        | some f => .error f
        | none => .ok ()),
        (w.emit (m.note table (Record.single id).item)).answered (w.script.write w.writes))
  putBatch_batched (table : String) (ids : List String) (w : World) :
    store.putBatch table (ids.map fun id => (Record.batched id).item) w =
      (m.answer (w.script.write w.writes),
        (w.emit (m.noteBatch table (ids.map fun id => (Record.batched id).item))).answered
          (w.script.write w.writes))

def Manner.scripted : Manner where
  note := .put
  noteBatch := .putBatch
  failure? r := r.failure
  answer r :=
    match r.failure with
    | some f => .error f
    | none => .ok r.value

theorem Store.scripted_follows : Store.scripted.Follows .scripted where
  put_single table id w := by
    simp only [Store.scripted, World.nextWrite_eq, World.script_emit, World.writes_emit,
      Manner.scripted]
    cases (w.script.write w.writes).failure <;> rfl
  putBatch_batched table ids w := World.nextWrite_eq _

end TableSeeder
