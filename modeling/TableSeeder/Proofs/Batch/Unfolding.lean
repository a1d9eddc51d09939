import TableSeeder.Proofs.Batch.Requests

/-! A batch run as an unfolding of the script: one request after another, without a pause, up to
the first that fails; and what the counters and the console lines then amount to. -/

namespace TableSeeder

def Event.isPutBatch : Event → Bool
  | .putBatch _ _ => true
  | _ => false

def Event.isLine : Event → Bool
  | .out _ => true
  | _ => false

namespace Batch

theorem warnings_int (table : String) (count : Int) :
    warnings table (.int count) =
      if count = 0 then [] else [.log (leftOverWarning (.int count) table)] := by
  unfold warnings Value.truthy
  by_cases h : count = 0 <;> simp [h]

def Course.ids? : Course → Option (List String)
  | undrawn _ => none
  | broken ids _ => some ids
  | rejected ids _ => some ids
  | written ids _ => some ids

namespace Request

theorem mem_events {table : String} {r : Request} {e : Event}
    (h : e ∈ r.events .scripted table) :
    (∃ ids, r.course.ids? = some ids ∧ e = .putBatch table (items ids)) ∨
      (∃ entry, e = .log entry) ∨ ∃ text, e = .out text := by
  unfold events at h
  cases hc : r.course with
  | undrawn f =>
    rw [hc] at h
    cases h
  | broken ids f =>
    rw [hc] at h
    exact .inl ⟨ids, rfl, List.mem_singleton.mp h⟩
  | rejected ids j =>
    rw [hc] at h
    rcases List.mem_cons.mp h with he | he
    · exact .inl ⟨ids, rfl, he⟩
    · exact .inr (.inr ⟨_, List.mem_singleton.mp he⟩)
  | written ids unprocessed =>
    rw [hc] at h
    rcases List.mem_append.mp h with he | he
    · rcases List.mem_cons.mp he with he | he
      · exact .inl ⟨ids, rfl, he⟩
      · unfold warnings at he
        split at he
        · exact .inr (.inl ⟨_, List.mem_singleton.mp he⟩)
        · cases he
    · exact .inr (.inr ⟨_, List.mem_singleton.mp he⟩)

structure GoesOn (table : String) (reply : Reply) (r : Request) : Prop where
  requests : (r.events .scripted table).countP Event.isPutBatch = 1
  lines : (r.events .scripted table).countP Event.isLine = 1
  count (t : Tally) : r.count t =
    ⟨t.attempted + 1, t.succeeded + (!reply.isRejection).toNat, t.failed + reply.isRejection.toNat⟩
  clock (c : Float) : r.clockAfter c = c + reply.cost

end Request

section Scripted

variable (table : String) {size : Nat} {w : World} {k : Nat}

theorem length_ids {ids : List String}
    (h : (request .scripted size 0 w k).course.ids? = some ids) : ids.length = size := by
  unfold request at h
  dsimp only at h
  cases hids : (w.script.draws (w.ids + k * size) size).mapM id with
  | error f =>
    rw [hids] at h
    cases h
  | ok xs =>
    rw [hids] at h
    have hxs : xs = ids := by
      cases hanswer : Manner.scripted.answer (w.script.write (w.writes + k)) with
      | ok unprocessed =>
        rw [hanswer] at h
        exact Option.some.inj h
      | error f =>
        rw [hanswer] at h
        cases f <;> exact Option.some.inj h
    rw [← hxs, length_of_mapM hids, Script.draws, List.length_map, List.length_range]

theorem goesOn (h : (request .scripted size 0 w k).failure? = none) :
    (request .scripted size 0 w k).GoesOn table (w.script.write (w.writes + k)) := by
  unfold request at h ⊢
  generalize w.script.write (w.writes + k) = reply at h ⊢
  dsimp only at h ⊢
  obtain ⟨⟨ids, hids⟩, _, _⟩ := Course.of_goes_on h
  rw [hids] at h ⊢
  obtain ⟨cost, failure, value⟩ := reply
  cases failure with
  | none =>
    dsimp only [Manner.scripted, Course.of]
    refine ⟨?_, ?_, fun t => rfl, fun c => rfl⟩
    · dsimp only [Request.events, warnings]
      cases value.truthy <;> rfl
    · dsimp only [Request.events, warnings]
      cases value.truthy <;> rfl
  | some f =>
    cases f with
    | rejected j => exact ⟨rfl, rfl, fun t => rfl, fun c => rfl⟩
    | _ => cases h

/-- As long as no request breaks off the run, each has been made and has got its line, and the
counters and the clock follow the replies. -/
theorem requests_of_goesOn (h : ∀ i < k, (request .scripted size 0 w i).failure? = none) :
    let rs := requests .scripted size 0 w k
    (rs.flatMap (Request.events .scripted table)).countP Event.isPutBatch = k ∧
      (rs.flatMap (Request.events .scripted table)).countP Event.isLine = k ∧
      rs.foldl Request.count {} = ⟨k, w.acceptances k, w.rejections k⟩ ∧
      ∀ c, rs.foldl Request.clockAfter c =
        (List.range k).foldl (fun c i => c + (w.script.write (w.writes + i)).cost) c := by
  induction k with
  | zero => exact ⟨rfl, rfl, rfl, fun _ => rfl⟩
  | succ k ih =>
    obtain ⟨hrequests, hlines, hcount, hclock⟩ := ih fun i hi => h i (Nat.lt_succ_of_lt hi)
    have hk := goesOn table (h k (Nat.lt_succ_self k))
    have hrs : requests .scripted size 0 w (k + 1) =
        requests .scripted size 0 w k ++ [request .scripted size 0 w k] := by
      rw [requests, List.range_succ, List.map_append]
      rfl
    dsimp only
    rw [hrs, List.flatMap_append, List.flatMap_singleton, List.countP_append, List.countP_append,
      hrequests, hlines, hk.requests, hk.lines, List.foldl_append, hcount, List.foldl_cons,
      List.foldl_nil, hk.count, World.acceptances_succ, World.rejections_succ]
    refine ⟨rfl, rfl, rfl, fun c => ?_⟩
    rw [List.foldl_append, hclock, List.foldl_cons, List.foldl_nil, hk.clock, List.range_succ,
      List.foldl_append]
    rfl

/-- The draws for `n` ids from the k-th on come to a first one that fails. -/
def BreaksAtDraw (s : Script) (k n : Nat) (f : Failure) : Prop :=
  ∃ i < n, (∀ j < i, ∃ x, s.id (k + j) = .ok x) ∧ s.id (k + i) = .error f

theorem breaksAtDraw_of_mapM {s : Script} {k n : Nat} {f : Failure}
    (h : (s.draws k n).mapM id = .error f) : BreaksAtDraw s k n f := by
  obtain ⟨i, hi, hbefore, hfail, _⟩ := exists_upToFailure_range (mapM_eq_error_iff.mp h)
  refine ⟨i, hi, ?_, ?_⟩
  · intro j hj
    have hdraw := hbefore j hj
    cases hid : s.id (k + j) with
    | ok x => exact ⟨x, rfl⟩
    | error g =>
      rw [hid] at hdraw
      cases hdraw
  · cases hid : s.id (k + i) with
    | ok x =>
      rw [hid] at hfail
      cases hfail
    | error g =>
      rw [hid] at hfail
      rw [Option.some.inj hfail]

theorem breaksOff {f : Failure} (h : (request .scripted size 0 w k).failure? = some f) :
    let es := (request .scripted size 0 w k).events .scripted table
    es.countP Event.isLine = 0 ∧
      (es.countP Event.isPutBatch = 0 ∧ BreaksAtDraw w.script (w.ids + k * size) size f ∨
        es.countP Event.isPutBatch = 1 ∧ (w.script.write (w.writes + k)).failure = some f ∧
          (w.script.write (w.writes + k)).isRejection = false) := by
  unfold request at h ⊢
  generalize w.script.write (w.writes + k) = reply at h ⊢
  dsimp only at h ⊢
  cases hids : (w.script.draws (w.ids + k * size) size).mapM id with
  | error g =>
    rw [hids] at h
    obtain rfl := Option.some.inj h
    exact ⟨rfl, .inl ⟨rfl, breaksAtDraw_of_mapM hids⟩⟩
  | ok ids =>
    rw [hids] at h
    obtain ⟨cost, failure, value⟩ := reply
    cases failure with
    | none => cases h
    | some g =>
      cases g with
      | rejected j => cases h
      | _ =>
        obtain rfl := Option.some.inj h
        exact ⟨rfl, .inr ⟨rfl, rfl, rfl⟩⟩

end Scripted

theorem run_eq_iterate {batches size : Int} (hb : 1 ≤ batches) (hs : 1 ≤ size) (hm : size ≤ 25)
    (store : Store) (table : String) (w : World) :
    run store table batches size w =
      match iterate store table size.toNat batches.toNat {} w with
      | (.error f, w') => (.error f, w')
      | (.ok t, w') => (.ok ⟨t.attempted, t.succeeded, t.failed, w'.clock - w.clock⟩, w') := by
  rw [run_eq]
  cases hgood : badArgument? batches size with
  | some a =>
    rw [badArgument?_eq_none.mpr ⟨hb, hs, hm⟩] at hgood
    cases hgood
  | none => rfl

/-- The accounts of a run that returns; the counters are in batches. -/
structure Completed (w : World) (batches : Int) (es : List Event) (s : Summary) : Prop where
  attempted : (s.attempted : Int) = batches
  failed : s.failed = w.rejections s.attempted
  total : s.succeeded + s.failed = s.attempted
  requests : es.countP Event.isPutBatch = s.attempted
  lines : es.countP Event.isLine = s.attempted
  duration : s.duration = (List.range s.attempted).foldl
    (fun clock k => clock + (w.script.write (w.writes + k)).cost) w.clock - w.clock

/-- The accounts of a run that breaks off after `k` batches, by a draw or by a request. -/
structure Broken (w : World) (batches : Int) (size : Nat) (es : List Event) (f : Failure)
    (k : Nat) : Prop where
  reached : (k : Int) < batches
  lines : es.countP Event.isLine = k
  cause :
    es.countP Event.isPutBatch = k ∧ BreaksAtDraw w.script (w.ids + k * size) size f ∨
      es.countP Event.isPutBatch = k + 1 ∧ (w.script.write (w.writes + k)).failure = some f ∧
        (w.script.write (w.writes + k)).isRejection = false

section Accounts

variable (table : String) {size n : Nat} {w : World}

theorem completed_accounts
    (h : (requests .scripted size 0 w n).findSome? Request.failure? = none) :
    let made := upToFailure Request.failure? (requests .scripted size 0 w n)
    let t := made.foldl Request.count {}
    let w' := made.foldl (Request.effect .scripted table) w
    Completed w n (made.flatMap (Request.events .scripted table))
      ⟨t.attempted, t.succeeded, t.failed, w'.clock - w.clock⟩ := by
  have hbefore : ∀ i < n, (request .scripted size 0 w i).failure? = none :=
    fun _ hi => findSome?_range_eq_none h hi
  obtain ⟨hrequests, hlines, hcount, hclock⟩ := requests_of_goesOn table hbefore
  dsimp only
  rw [upToFailure_eq_self h, hcount, clock_effects, hclock]
  exact ⟨rfl, rfl, w.acceptances_add_rejections n, hrequests, hlines, rfl⟩

theorem broken_accounts {f : Failure}
    (h : (requests .scripted size 0 w n).findSome? Request.failure? = some f) :
    let made := upToFailure Request.failure? (requests .scripted size 0 w n)
    ∃ k, Broken w n size (made.flatMap (Request.events .scripted table)) f k := by
  obtain ⟨k, hk, hbefore, hfail, hup⟩ := exists_upToFailure_range h
  have hmade : upToFailure Request.failure? (requests .scripted size 0 w n) =
      requests .scripted size 0 w k ++ [request .scripted size 0 w k] := hup
  obtain ⟨hrequests, hlines, _, _⟩ := requests_of_goesOn table hbefore
  obtain ⟨hline, hcause⟩ := breaksOff table hfail
  dsimp only
  rw [hmade, List.flatMap_append, List.flatMap_singleton]
  refine ⟨k, Int.ofNat_lt.mpr hk, ?_, ?_⟩
  · rw [List.countP_append, hlines, hline]
    rfl
  · rw [List.countP_append, hrequests]
    rcases hcause with ⟨hcount, hdraw⟩ | ⟨hcount, hreply⟩
    · exact .inl ⟨congrArg (k + ·) hcount, hdraw⟩
    · exact .inr ⟨congrArg (k + ·) hcount, hreply⟩

theorem mem_events_of_run {e : Event}
    (h : e ∈ (upToFailure Request.failure? (requests .scripted size 0 w n)).flatMap
      (Request.events .scripted table)) :
    (∃ ids : List String, ids.length = size ∧ e = .putBatch table (items ids)) ∨
      (∃ entry, e = .log entry) ∨ ∃ text, e = .out text := by
  obtain ⟨r, hr, her⟩ := List.mem_flatMap.mp h
  obtain ⟨k, _, rfl⟩ := List.mem_map.mp (mem_of_mem_upToFailure hr)
  rcases Request.mem_events her with ⟨ids, hids, heq⟩ | hother
  · exact .inl ⟨ids, length_ids hids, heq⟩
  · exact .inr hother

end Accounts

/-- The run does what its requests do, one after another, up to the first that fails. -/
theorem run_eq_requests (table : String) {batches size : Int} {w : World} (hw : w.script.Logs)
    (hb : 1 ≤ batches) (hs : 1 ≤ size) (hm : size ≤ 25) :
    let rs := requests .scripted size.toNat 0 w batches.toNat
    let made := upToFailure Request.failure? rs
    let es := made.flatMap (Request.events .scripted table)
    let result := run .scripted table batches size w
    result.2.trace.toList = w.trace.toList ++ es ∧
      result.2.ids = made.foldl (fun drawn r => drawn + r.draws) w.ids ∧
      (∀ i, .sleep i ∉ es) ∧
      (∀ t items, .putBatch t items ∈ es → t = table ∧ (items.length : Int) = size) ∧
      (∀ count : Int, warnings table (.int count) =
        if count = 0 then [] else [.log (leftOverWarning (.int count) table)]) ∧
      (match rs.findSome? Request.failure? with
        | some f => result.1 = .error f ∧ ∃ k, Broken w batches size.toNat es f k
        | none => ∃ s, result.1 = .ok s ∧ Completed w batches es s) := by
  intro rs made es result
  have hbatches : (batches.toNat : Int) = batches := Int.toNat_of_nonneg (by omega)
  have hsize : (size.toNat : Int) = size := Int.toNat_of_nonneg (by omega)
  have hresult : result = run .scripted table batches size w := rfl
  rw [run_eq_iterate hb hs hm, iterate_eq Store.scripted_follows hw] at hresult
  -- whether or not the run breaks off, it leaves what its requests have done
  have hworld : result.2 = made.foldl (Request.effect .scripted table) w := by
    rw [hresult]
    dsimp only
    cases rs.findSome? Request.failure? <;> rfl
  refine ⟨?_, ?_, ?_, ?_, warnings_int table, ?_⟩
  · rw [hworld, trace_effects]
  · rw [hworld, ids_effects]
  · intro i hi
    rcases mem_events_of_run table hi with ⟨_, _, h⟩ | ⟨_, h⟩ | ⟨_, h⟩ <;> cases h
  · intro t its hits
    rcases mem_events_of_run table hits with ⟨ids, hlength, h⟩ | ⟨_, h⟩ | ⟨_, h⟩
    · obtain ⟨rfl, rfl⟩ := Event.putBatch.inj h
      rw [items, List.length_map, hlength, hsize]
      exact ⟨rfl, rfl⟩
    · cases h
    · cases h
  · cases hf : rs.findSome? Request.failure? with
    | some f =>
      have hbroken := broken_accounts table hf
      rw [hbatches] at hbroken
      refine ⟨?_, hbroken⟩
      rw [hresult]
      dsimp only
      rw [hf]
    | none =>
      have hcompleted := completed_accounts table hf
      rw [hbatches] at hcompleted
      refine ⟨_, ?_, hcompleted⟩
      rw [hresult]
      dsimp only
      rw [hf]

theorem run_eq_requests_troubled :
    let result := run .scripted "t" 5 2 .troubled
    (World.troubled.script.Logs ∧ (1 : Int) ≤ 5 ∧ (1 : Int) ≤ 2 ∧ (2 : Int) ≤ 25) ∧
      result.2.trace.toList =
        [.putBatch "t" (items ["id-1", "id-2"]), .log (leftOverWarning (.int 4) "t"),
          .out (echoed "Written 2 records"), .putBatch "t" (items ["id-3", "id-4"]),
          .out (echoed "Err: throttled"), .putBatch "t" (items ["id-5", "id-6"])] ∧
      result.1 = .error (.incident .noCredentials) := by
  have hb : (1 : Int) ≤ 5 := by decide
  have hs : (1 : Int) ≤ 2 := by decide
  have hm : (2 : Int) ≤ 25 := by decide
  obtain ⟨htrace, _, _, _, _, hend⟩ := run_eq_requests "t" World.troubled_logs hb hs hm
  exact ⟨⟨World.troubled_logs, hb, hs, hm⟩, htrace, hend.1⟩

end Batch

end TableSeeder
