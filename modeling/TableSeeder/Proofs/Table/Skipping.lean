import TableSeeder.Proofs.Batch.Serving
import TableSeeder.Proofs.Load.Accounting
import TableSeeder.Proofs.Load.Settling
import TableSeeder.Proofs.Skipping
import TableSeeder.Proofs.Table.Rejections

/-! Runs on the store of a client: what the client fails by is rejected just if the service has
refused the request, and loads and batch runs go on behind these failures alone. -/

namespace TableSeeder

variable {w : World} {client size : Nat} {table : String} {interval : Interval}

namespace Load

def conditions (interval : Interval) (w : World) : Conditions where
  drawn k := ∃ id, w.script.id (w.ids + k) = .ok id
  failure? k := (w.script.write (w.writes + k)).failure
  followed k := w.script.pauseFailure? interval (w.sleeps + k) = none

theorem of_broken {id : String} {f : Failure} (h : ∀ r, f ≠ .rejected r)
    (pause : Option Failure) : Course.of (.ok id) (some f) pause = .broken id f := by
  cases f with
  | rejected r => exact absurd rfl (h r)
  | _ => rfl

theorem Course.writes_of_eq_one_iff {id : Except Failure String} {write pause : Option Failure} :
    (Course.of id write pause).writes = 1 ↔ ∃ x, id = .ok x := by
  cases id with
  | error f => exact iff_of_false nofun nofun
  | ok x =>
    refine iff_of_true ?_ ⟨x, rfl⟩
    cases write with
    | none => rfl
    | some f => cases f <;> rfl

theorem Course.writes_le (c : Course) : c.writes ≤ 1 := by
  cases c <;> simp [writes]

theorem writes_round (client : Nat) (table : String) (interval : Interval) (r : Round) :
    (r.events (.client client) table interval).countP Event.isWrite = r.course.writes := by
  unfold Round.events
  cases r.course with
  | settled id j pause => cases j <;> rfl
  | _ => rfl

theorem governs (hforeign : w.script.Foreign) (client : Nat) (table : String)
    (interval : Interval) :
    (conditions interval w).Governs (round (.client client) interval 0 w) Round.failure?
      (Round.events (.client client) table interval) Round.count where
  goesOn_iff k := by
    refine Course.failure?_of_eq_none.trans ?_
    rw [Manner.client, Table.rejected_of_map_iff (hforeign _)]
    exact ⟨fun h => ⟨h.1, h.2.1, h.2.2⟩, fun h => ⟨h.drawn, h.refused, h.followed⟩⟩
  stopped k f hdrawn hf hfault := by
    obtain ⟨id, hid⟩ := hdrawn
    have hwrite : (Manner.client client).failure? (w.script.write (w.writes + k)) = some f := by
      have hmap := congrArg (Option.map Table.asRejection) hf
      rwa [Option.map_some, Table.asRejection_of_not_isFault hfault] at hmap
    -- what a client fails by is no rejection of the store
    have hbroken : ∀ r, f ≠ .rejected r := by
      rintro r rfl
      exact hforeign _ r hf
    rw [Round.failure?, round]
    dsimp only
    rw [hid, hwrite, of_broken hbroken]
    rfl
  writes_le k := by
    rw [writes_round]
    exact Course.writes_le _
  writes_iff k := by
    rw [writes_round]
    exact Course.writes_of_eq_one_iff
  count k h t := by
    have hgoes : (round (.client client) interval 0 w k).failure? = none := by
      refine Course.failure?_of_eq_none.mpr ⟨h.drawn, ?_, h.followed⟩
      exact (Table.rejected_of_map_iff (hforeign _)).mpr h.refused
    rw [count_round hgoes, Manner.client]
    dsimp only
    rw [Option.isNone_map, Option.isSome_map]
    rfl

end Load

namespace Batch

def conditions (size : Nat) (w : World) : Conditions where
  drawn k := ∀ i < size, ∃ id, w.script.id (w.ids + k * size + i) = .ok id
  failure? k := (w.script.write (w.writes + k)).failure
  followed k := (w.script.write (w.writes + k)).failure = none →
    ∃ left, Table.LeavesOver (w.script.write (w.writes + k)).value left

theorem settled_iff {reply : Reply} :
    reply.Settled ↔ (∀ f, reply.failure = some f → f.IsFault) ∧
      (reply.failure = none → ∃ left, Table.LeavesOver reply.value left) := by
  unfold Reply.Settled
  cases reply.failure with
  | none => simp
  | some f => simp [Failure.IsFault]

theorem Course.writes_le (c : Course) : c.writes ≤ 1 := by
  cases c <;> simp [writes]

theorem writes_request (client : Nat) (table : String) (r : Request) :
    (r.events (.client client) table).countP Event.isWrite = r.course.writes := by
  unfold Request.events
  cases r.course with
  | written ids unprocessed =>
    dsimp only [warnings]
    cases unprocessed.truthy <;> rfl
  | _ => rfl

theorem governs (hforeign : w.script.Foreign) (client size : Nat) (table : String) :
    (conditions size w).Governs (request (.client client) size 0 w) Request.failure?
      (Request.events (.client client) table) Request.count := by
  have hserved (k : Nat) : Served w.script (w.ids + k * size) size
      (w.script.write (w.writes + k)) (request (.client client) size 0 w k).course :=
    served_course (hforeign _)
  have hgoes (k : Nat) : (request (.client client) size 0 w k).failure? = none ↔
      (conditions size w).Passes k := by
    refine (hserved k).failure?_eq_none_iff.trans ?_
    rw [settled_iff]
    exact ⟨fun h => ⟨h.1, h.2.1, h.2.2⟩, fun h => ⟨h.drawn, h.refused, h.followed⟩⟩
  refine ⟨hgoes, fun k f hdrawn => (hserved k).failure?_of_not_isFault hdrawn, fun k => ?_,
    fun k => ?_, fun k h => (hserved k).count_eq ((hgoes k).mpr h)⟩
  · rw [writes_request]
    exact Course.writes_le _
  · rw [writes_request]
    exact (hserved k).writes_eq_one_iff

end Batch

namespace Table

section Runs

variable (hlogs : w.script.Logs) (hforeign : w.script.Foreign)
include hlogs hforeign

theorem load_skips {n : Int} (hn : 1 ≤ n) (hi : interval.isNegative = false) (client : Nat)
    (table : String) :
    let result := Loader.run { store := store client, table } n interval w
    ∃ es, result.2.2.trace.toList = w.trace.toList ++ es ∧
      (Load.conditions interval w).Skips n.toNat result.1 es := by
  intro result
  let l : Loader := { store := store client, table }
  have hrun : result = _ := (Loader.run_of_fresh rfl hn hi w).trans
    (Loader.execute_eq_finish (store_follows client) hlogs)
  obtain ⟨e, hworld⟩ : ∃ e, result.2.2 =
      (l.reached (.client client) interval w n.toNat).emit (.log e) := by
    rw [hrun]
    cases (Load.rounds (.client client) interval 0 w n.toNat).findSome? Load.Round.failure? with
    | some f => exact ⟨_, rfl⟩
    | none => exact ⟨_, rfl⟩
  rw [hworld, Loader.trace_reached]
  refine ⟨_, rfl, (Load.governs hforeign client table interval).skips
    (l.summary (.client client) interval w n.toNat).duration ?_ ?_⟩
  · rw [List.countP_append, List.countP_append]
    exact Nat.zero_add _
  · rw [hrun, Load.rounds]
    cases ((List.range n.toNat).map (Load.round (.client client) interval 0 w)).findSome?
      Load.Round.failure? <;> rfl

theorem batch_skips {batches size : Int} (hb : 1 ≤ batches) (hs : 1 ≤ size) (hm : size ≤ 25)
    (client : Nat) (table : String) :
    let result := Batch.run (store client) table batches size w
    ∃ es, result.2.trace.toList = w.trace.toList ++ es ∧
      (Batch.conditions size.toNat w).Skips batches.toNat result.1 es := by
  intro result
  have hrun : result = _ := Batch.run_eq_iterate hb hs hm (store client) table w
  rw [Batch.iterate_eq (store_follows client) hlogs, Batch.requests] at hrun
  dsimp only at hrun
  have hworld : result.2 = (upToFailure Batch.Request.failure? ((List.range batches.toNat).map
      (Batch.request (.client client) size.toNat 0 w))).foldl
        (Batch.Request.effect (.client client) table) w := by
    rw [hrun]
    cases ((List.range batches.toNat).map (Batch.request (.client client) size.toNat 0
      w)).findSome? Batch.Request.failure? <;> rfl
  rw [hworld, Batch.trace_effects]
  refine ⟨_, rfl, (Batch.governs hforeign client size.toNat table).skips
    (result.2.clock - w.clock) rfl ?_⟩
  rw [hworld, hrun]
  cases ((List.range batches.toNat).map (Batch.request (.client client) size.toNat 0
    w)).findSome? Batch.Request.failure? <;> rfl

end Runs

/-- A refusal by the service, and nothing else that a client fails by, is rejected in the words of
the service, and costs a run only its write. -/
theorem store_rejects_faults (hlogs : w.script.Logs) (hforeign : w.script.Foreign) (client : Nat)
    (table : String) :
    (∀ f, (w.script.write w.writes).failure = some f →
      (∀ item, (∀ v ∈ Value.leavesOfMembers item, v.Storable) →
        ∃ g, (put client table item w).1 = .error g ∧ Translated f g) ∧
      (∀ items, (∀ item ∈ items, ∀ v ∈ Value.leavesOfMembers item, v.Storable) →
        ∃ g, (putBatch client table items w).1 = .error g ∧ Translated f g)) ∧
      (∀ (n : Int) (interval : Interval), 1 ≤ n → interval.isNegative = false →
        let result := Loader.run { store := store client, table } n interval w
        ∃ es, result.2.2.trace.toList = w.trace.toList ++ es ∧
          (Load.conditions interval w).Skips n.toNat result.1 es) ∧
      ∀ batches size : Int, 1 ≤ batches → 1 ≤ size → size ≤ 25 →
        let result := Batch.run (store client) table batches size w
        ∃ es, result.2.trace.toList = w.trace.toList ++ es ∧
          (Batch.conditions size.toNat w).Skips batches.toNat result.1 es := by
  refine ⟨fun f hf => ⟨?_, ?_⟩, ?_, ?_⟩
  · intro item hitem
    exact put_translates hforeign hf hitem client table
  · intro items hitems
    exact putBatch_translates hforeign hf hitems client table
  · intro n interval hn hi
    exact load_skips hlogs hforeign hn hi client table
  · intro batches size hb hs hm
    exact batch_skips hlogs hforeign hb hs hm client table

theorem store_rejects_faults_throttled :
    let fault : Fault :=
      { response := [("Error", .object [("Message", .text "slow down"),
          ("Code", .text "ThrottlingException")])]
        operation := "PutItem" }
    let rejection : Rejection := ⟨.text "slow down", .text "ThrottlingException", some fault⟩
    let w : World := { script := .replying [{ failure := some (.incident (.refused fault)) },
      { failure := some (.incident .noCredentials) }] }
    (w.script.Logs ∧ w.script.Foreign) ∧
      (put 1 "t" [("DATA", .text "x")] w).1 = .error (.rejected rejection) ∧
      (putBatch 1 "t" [[("DATA", .text "x")], []] w).1 = .error (.rejected rejection) ∧
      (∃ es, (Loader.run ⟨store 1, "t", .notStarted⟩ 3 (.real 0.5) w).2.2.trace.toList =
        w.trace.toList ++ es ∧ es.countP Event.isWrite = 2) ∧
      (Loader.run ⟨store 1, "t", .notStarted⟩ 3 (.real 0.5) w).1 =
        .error (.incident .noCredentials) ∧
      (∃ es, (Batch.run (store 1) "t" 3 2 w).2.trace.toList = w.trace.toList ++ es ∧
        es.countP Event.isWrite = 2) ∧
      (Batch.run (store 1) "t" 3 2 w).1 = .error (.incident .noCredentials) := by
  intro fault rejection w
  have hwrite (k : Nat) {f : Failure} (hf : (w.script.write k).failure = some f) :
      f = .incident (.refused fault) ∨ f = .incident .noCredentials := by
    rcases k with _ | _ | k
    · exact .inl (Option.some.inj hf).symm
    · exact .inr (Option.some.inj hf).symm
    · cases hf
  have hlogs : w.script.Logs := fun _ _ => rfl
  have hforeign : w.script.Foreign := by
    intro k r hr
    rcases hwrite k hr with h | h <;> cases h
  obtain ⟨hcalls, hload, hbatch⟩ := store_rejects_faults hlogs hforeign 1 "t"
  obtain ⟨hput, hputBatch⟩ := hcalls (.incident (.refused fault)) rfl
  have hexplained {g : Failure} (hg : Translated (.incident (.refused fault)) g) :
      g = .rejected rejection := by
    refine (hg.explained fault _ rfl (.object rfl) ?_).1
    intro v hv
    exact .inr ⟨"slow down", (Option.some.inj hv).symm⟩
  -- the run goes on behind the first write and stops at the second
  have hskips {c : Conditions} {outcome : Except Failure Summary} {es : List Event}
      (h : c.Skips 3 outcome es) (hzero : c.Passes 0) (hdrawn : c.drawn 1)
      (hf : c.failure? 1 = some (.incident .noCredentials)) :
      es.countP Event.isWrite = 2 ∧ outcome = .error (.incident .noCredentials) := by
    have hbefore : ∀ i < 1, c.Passes i := by
      intro i hi
      rwa [Nat.lt_one_iff.mp hi]
    have hfault : ¬ (Failure.incident .noCredentials).IsFault := nofun
    have hsecond := (h.written_iff 1 (by decide)).mpr ⟨hbefore, hdrawn⟩
    have hthird : ¬ 2 < es.countP Event.isWrite := by
      rw [h.written_iff 2 (by decide)]
      rintro ⟨hall, -⟩
      exact hfault ((hall 1 (by decide)).refused _ hf)
    exact ⟨by omega, h.stopped 1 _ (by decide) hbefore hdrawn hf hfault⟩
  have hrefused (f : Failure) (hf : (w.script.write 0).failure = some f) : f.IsFault :=
    ⟨fault, (Option.some.inj hf).symm⟩
  have hid (k : Nat) : ∃ id, w.script.id k = .ok id := ⟨_, rfl⟩
  have hfails : (w.script.write 0).failure ≠ none := Option.some_ne_none _
  refine ⟨⟨hlogs, hforeign⟩, ?_, ?_, ?_⟩
  · obtain ⟨g, hg, htranslated⟩ := hput [("DATA", .text "x")] (by simp [Value.leavesOfMembers,
      Value.leaves, Value.Storable])
    rw [hg, hexplained htranslated]
  · obtain ⟨g, hg, htranslated⟩ := hputBatch [[("DATA", .text "x")], []] (by
      simp [Value.leavesOfMembers, Value.leaves, Value.Storable])
    rw [hg, hexplained htranslated]
  · obtain ⟨es, htrace, hes⟩ := hload 3 (.real 0.5) (by decide) (by decide)
    obtain ⟨es', htrace', hes'⟩ := hbatch 3 2 (by decide) (by decide) (by decide)
    obtain ⟨hcount, houtcome⟩ := hskips hes ⟨hid _, hrefused, rfl⟩ (hid _) rfl
    have hpasses : (Batch.conditions 2 w).Passes 0 :=
      ⟨fun _ _ => hid _, hrefused, fun hnone => absurd hnone hfails⟩
    obtain ⟨hcount', houtcome'⟩ := hskips hes' hpasses (fun _ _ => hid _) rfl
    exact ⟨⟨es, htrace, hcount⟩, houtcome, ⟨es', htrace', hcount'⟩, houtcome'⟩

end Table

end TableSeeder
