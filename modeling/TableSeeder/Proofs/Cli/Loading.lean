import TableSeeder.Proofs.Cli.Bounds
import TableSeeder.Proofs.Cli.Cancelling
import TableSeeder.Proofs.Cli.Service
import TableSeeder.Proofs.Load.Accounting
import TableSeeder.Proofs.Load.Guard
import TableSeeder.Proofs.Load.Settling

/-! The command that loads: it exits well just when nothing goes wrong but writes that the service
refuses, and then it has made every write and every pause it was asked for. -/

namespace TableSeeder

namespace Cli
open Load Loader Log

/-- Nothing goes wrong but writes that the service refuses. -/
structure Smooth (script : Script) (region : String) (n : Nat) : Prop where
  client : script.create region 0 = none
  ids : ∀ k < n, ∃ id, script.id k = .ok id
  writes : ∀ k < n, ∀ f, (script.write k).failure = some f → ∃ fault, f = .incident (.refused fault)
  pauses : ∀ k < n, script.sleep k = none

/-- What is seen of a load that exits well: one client, as many writes through it as pauses, and at
the end the only summary, which counts the writes. -/
structure Loaded (script : Script) (s : Settings) (n : Nat) (pause : Float) (es : List Event) :
    Prop where
  calls : ∃ ids : Nat → String, (∀ k < n, script.id k = .ok (ids k)) ∧
    es.filter Event.isCall = .create s.region :: (List.range n).flatMap fun k =>
      [.putItem 1 s.table (Record.single (ids k)).row, .sleep (.real pause)]
  summary : ∃ (before : List Event) (summary : Summary),
    es = before ++ [.err (echoed summary.report)] ∧
    (∀ other : Summary, .err (echoed other.report) ∉ before) ∧ summary.attempted = n ∧
    summary.failed = (List.range n).countP (fun k => (script.write k).failure.isSome) ∧
    summary.succeeded + summary.failed = summary.attempted

section Run

variable {script : Script} {clock : Float} {s : Settings} {n : Nat} {pause : Float}

theorem rounds_opened_iff (hforeign : script.Foreign) (hcreate : script.create s.region 0 = none)
    (log : Log.Entry → Option Failure) (clock : Float) (n : Nat) (pause : Float) :
    (rounds (.client 1) (.real pause) 0 (opened { script with log } clock s.region) n).findSome?
      Round.failure? = none ↔ Smooth script s.region n := by
  have hwrite (k : Nat) := Table.rejected_of_map_iff (hforeign k)
  rw [rounds_settled_iff]
  change (∀ k < n, (∃ id, script.id (0 + k) = .ok id) ∧
    (∀ f, (script.write (0 + k)).failure.map Table.asRejection = some f → ∃ r, f = .rejected r) ∧
      script.pauseFailure? (.real pause) (0 + k) = none) ↔ _
  simp only [Nat.zero_add, Script.pauseFailure?_real, hwrite]
  constructor
  · intro h
    exact ⟨hcreate, fun k hk => (h k hk).1, fun k hk => (h k hk).2.1, fun k hk => (h k hk).2.2⟩
  · intro h k hk
    exact ⟨h.ids k hk, h.writes k hk, h.pauses k hk⟩

theorem perform_run {count : Option Int} {x : Option Float} (hlogs : script.Logs)
    (hcount : 1 ≤ count.getD s.iterations) (hx : 0.0 ≤ x.getD s.interval) :
    let m := Manner.client 1
    let l : Loader := { store := Table.store 1, table := s.table }
    let interval := Interval.real (x.getD s.interval)
    let n := (count.getD s.iterations).toNat
    let w := opened script clock s.region
    (Command.run count x).perform s { script, clock } =
      match script.create s.region 0 with
      | some f => (.error f, ({ script, clock } : World).attempted s.region)
      | none =>
        match (rounds m interval 0 w n).findSome? Round.failure? with
        | some f =>
          (.error f,
            (l.reached m interval w n).emit (.log (aborted s.table (tally m interval w n))))
        | none =>
          (.ok (), ((l.reached m interval w n).emit
            (.log (completed (l.summary m interval w n)))).echoError
              (l.summary m interval w n).report) := by
  intro m l interval n w
  rw [Command.perform, countOr_eq_getD hcount, openStore_initial]
  cases hcreate : script.create s.region 0 with
  | some f => rfl
  | none =>
    have hw : w.script.Logs := hlogs
    have hi : interval.isNegative = false := Interval.isNegative_eq_false hx
    have hrun : l.run (count.getD s.iterations) interval w = _ :=
      (run_of_fresh rfl hcount hi w).trans (execute_eq_finish (Table.store_follows 1) hw)
    change report (load (Table.store 1) s.table (count.getD s.iterations) interval w) = _
    rw [load, hrun]
    simp only [← Summary.render_eq_report]
    cases (rounds m interval 0 w n).findSome? Round.failure? <;> rfl

theorem err_notMem_events (client : Nat) (table : String) (interval : Interval) (r : Round)
    (text : String) : .err text ∉ r.events (.client client) table interval := by
  unfold Round.events
  cases r.course with
  | undrawn f => simp
  | broken id f => simp [Manner.client]
  | settled id j pause => cases j <;> simp [Manner.client]

theorem summary_opened {log : Log.Entry → Option Failure} {l : Loader}
    (h : (rounds (.client 1) (.real pause) 0 (opened { script with log } clock s.region)
      n).findSome? Round.failure? = none) :
    let summary := l.summary (.client 1) (.real pause) (opened { script with log } clock s.region) n
    summary.attempted = n ∧
      summary.failed = (List.range n).countP (fun k => (script.write k).failure.isSome) ∧
      summary.succeeded + summary.failed = summary.attempted := by
  intro summary
  have htally : tally (.client 1) (.real pause) (opened { script with log } clock s.region) n = _ :=
    (congrArg (fun rs => rs.foldl Round.count {}) (upToFailure_eq_self h)).trans (count_rounds h)
  have hmap (k : Nat) : ((script.write (0 + k)).failure.map Table.asRejection).isSome =
      (script.write k).failure.isSome := by rw [Nat.zero_add, Option.isSome_map]
  have hnone (k : Nat) : ((script.write (0 + k)).failure.map Table.asRejection).isNone =
      decide (¬ (script.write k).failure.isSome) := by
    rw [Nat.zero_add]
    cases (script.write k).failure <;> rfl
  have hfailed : summary.failed =
      (List.range n).countP (fun k => (script.write k).failure.isSome) := by
    refine (congrArg Tally.failed htally).trans ?_
    simp only [← hmap]
    rfl
  have hsucceeded : summary.succeeded =
      (List.range n).countP (fun k => ¬ (script.write k).failure.isSome) := by
    refine (congrArg Tally.succeeded htally).trans ?_
    simp only [← hnone]
    rfl
  refine ⟨congrArg Tally.attempted htally, hfailed, ?_⟩
  have htotal := List.length_eq_countP_add_countP (fun k => (script.write k).failure.isSome)
    (l := List.range n)
  have hattempted : summary.attempted = n := congrArg Tally.attempted htally
  rw [List.length_range] at htotal
  rw [hsucceeded, hfailed, hattempted]
  omega

theorem loaded_of_smooth {log : Log.Entry → Option Failure} {setup : Setup} {wall : Float}
    (hhandlers : setup.handlers ≠ []) {complaints : List Event}
    (hcomplaints : ∀ e ∈ complaints, ∃ line, e = .err line ∧ StartsRecord line)
    (hsmooth : Smooth script s.region n)
    (h : (rounds (.client 1) (.real pause) 0 (opened { script with log } clock s.region)
      n).findSome? Round.failure? = none) :
    let l : Loader := { store := Table.store 1, table := s.table }
    let w := opened { script with log } clock s.region
    let summary := l.summary (.client 1) (.real pause) w n
    Loaded script s n pause (complaints ++ present setup wall
      (((l.reached (.client 1) (.real pause) w n).emit (.log (completed summary))).echoError
        summary.report).trace.toList) := by
  intro l w summary
  let es := (rounds (.client 1) (.real pause) 0 w n).flatMap
    (Round.events (.client 1) s.table (.real pause))
  let trace := .create s.region :: (.log (started s.table n (.real pause)) :: es ++
    [.log (completed summary)])
  have htrace : ((l.reached (.client 1) (.real pause) w n).emit
      (.log (completed summary))).trace.toList = trace := by
    have hmade : made (.client 1) (.real pause) w n = rounds (.client 1) (.real pause) 0 w n :=
      upToFailure_eq_self h
    rw [trace_reached, hmade]
    rfl
  -- the load itself puts nothing on the error stream, and no record begins like a summary
  have hsilent (text : String) : .err text ∉ trace := by
    have hes : .err text ∉ es := by
      intro htext
      obtain ⟨r, -, hr⟩ := List.mem_flatMap.mp htext
      exact err_notMem_events 1 s.table (.real pause) r text hr
    simp [trace, hes]
  rw [World.echoError, World.trace_emit, htrace]
  constructor
  · let ids (k : Nat) : String := (script.id k).toOption.getD ""
    have hids : ∀ k < n, script.id k = .ok (ids k) := by
      intro k hk
      obtain ⟨id, hid⟩ := hsmooth.ids k hk
      have hname : ids k = id :=
        congrArg (fun drawn : Except Failure String => drawn.toOption.getD "") hid
      rw [hid, hname]
    have hdrawn : ∀ k < n, w.script.id (w.ids + k) = .ok (ids k) := by
      intro k hk
      have hzero : w.ids + k = k := Nat.zero_add k
      rw [hzero]
      exact hids k hk
    have hcalls := calls_rounds h s.table (fun _ _ => rfl) hdrawn
    refine ⟨ids, hids, ?_⟩
    rw [List.filter_append, calls_complaints hcomplaints, List.nil_append, calls_present,
      List.filter_append]
    have hfilter : trace.filter Event.isCall = .create s.region :: es.filter Event.isCall := by
      change Event.create s.region ::
        (es ++ [Event.log (completed summary)]).filter Event.isCall = _
      rw [List.filter_append]
      exact congrArg (Event.create s.region :: ·) (List.append_nil _)
    rw [hfilter, List.cons_append, List.filter_cons_of_neg Bool.false_ne_true, List.filter_nil,
      List.append_nil]
    exact congrArg (Event.create s.region :: ·) hcalls
  · refine ⟨complaints ++ present setup wall trace, summary, ?_, ?_, summary_opened h⟩
    · rw [present, List.filterMap_append, List.append_assoc]
      rfl
    · intro other hother
      apply not_startsRecord_summary other
      rcases List.mem_append.mp hother with hother | hother
      · obtain ⟨line, hline, hstarts⟩ := hcomplaints _ hother
        rwa [Event.err.inj hline]
      · exact (err_of_mem_present hhandlers hother).resolve_left (hsilent _)

end Run

/-- The program exits well just when nothing goes wrong but writes that the service refuses, and
then, and only then, it has made the whole load and reports it. -/
theorem runProgram_load {args : List String} {sources : Settings.Sources} {wall : Float}
    {count : Option Int} {x : Option Float} {s : Settings}
    (h : Ready args sources wall (.run count x) s) (hlevel : (Level.ofName? s.logLevel).isSome)
    {script : Script} (hforeign : script.Foreign) (clock : Float) :
    let n := count.getD s.iterations
    let result := runProgram args sources wall { script, clock }
    1 ≤ n ∧ (result.1 = .code 0 ↔ Smooth script s.region n.toNat) ∧
      (result.1 = .code 0 → Loaded script s n.toNat (x.getD s.interval) result.2) ∧
      (result.1 ≠ .code 0 → ∀ summary : Summary, .err (echoed summary.report) ∉ result.2) := by
  intro n result
  obtain ⟨hn, hx⟩ := bounds_of_run h.parsed h.loaded
  have hlogs : (Command.run count x).logs = true := rfl
  obtain ⟨complaints, hcomplaints, hrun⟩ := h.runProgram_eq_execute { script, clock }
  obtain ⟨setup, hhandlers, hexecute⟩ :=
    execute_of_level wall hlogs hlevel { script, clock }
  have hresult : result = _ := hrun
  rw [hexecute] at hresult
  have hperform : (Command.run count x).perform s (logged setup wall { script, clock }) = _ :=
    perform_run (logged_logs h.ticks setup { script, clock }) hn hx
  have hexit : result.1 = .code 0 ↔ Smooth script s.region n.toNat := by
    rw [hresult, ofOutcome_eq_zero_iff, hperform]
    cases hcreate : script.create s.region 0 with
    | some f => exact iff_of_false nofun fun hsmooth => nomatch hcreate.symm.trans hsmooth.client
    | none =>
      have hiff := rounds_opened_iff hforeign hcreate (setup.failure? wall) clock n.toNat
        (x.getD s.interval)
      rw [← hiff]
      dsimp only
      cases (rounds (.client 1) (.real (x.getD s.interval)) 0
        (opened { script with log := setup.failure? wall } clock s.region) n.toNat).findSome?
          Round.failure? with
      | some f => exact iff_of_false nofun nofun
      | none => exact iff_of_true rfl rfl
  refine ⟨hn, hexit, fun hzero => ?_, fun hzero summary htext => ?_⟩
  · have hsmooth := hexit.mp hzero
    have hrounds := (rounds_opened_iff hforeign hsmooth.client (setup.failure? wall) clock n.toNat
      (x.getD s.interval)).mpr hsmooth
    dsimp only at hperform
    rw [hsmooth.client] at hperform
    dsimp only at hperform
    rw [hrounds] at hperform
    rw [hresult, hperform]
    exact loaded_of_smooth hhandlers hcomplaints hsmooth hrounds
  -- a command that fails has put nothing but records on the error stream
  · obtain ⟨outcome, log, w, -, houtcome, -, hrecords⟩ :=
      h.runProgram_heeds hlogs hlevel script clock
    have hfails : ∃ f, outcome = .error f := by
      cases outcome with
      | error f => exact ⟨f, rfl⟩
      | ok _ => exact absurd houtcome hzero
    exact not_startsRecord_summary summary (hrecords hfails _ htext)

theorem runProgram_load_refused :
    let fault : Fault :=
      { response := [("Error", .object [("Code", .text "ThrottlingException")])]
        operation := "PutItem" }
    let script := Script.replying [{ failure := some (.incident (.refused fault)) }]
    let result := runProgram ["run", "-n", "2", "-i", "0.5"] {} 1700000000.0 { script }
    Ready ["run", "-n", "2", "-i", "0.5"] {} 1700000000.0 (.run (some 2) (some 0.5)) {} ∧
      script.Foreign ∧ result.1 = .code 0 ∧ Loaded script {} 2 0.5 result.2 := by
  intro fault script result
  have hready : Ready ["run", "-n", "2", "-i", "0.5"] {} 1700000000.0
      (.run (some 2) (some 0.5)) {} := ⟨rfl, rfl, 1700000000, rfl⟩
  have hwrite (k : Nat) {f : Failure} (hf : (script.write k).failure = some f) :
      f = .incident (.refused fault) := by
    cases k with
    | zero => exact (Option.some.inj hf).symm
    | succ k => cases hf
  have hforeign : script.Foreign := fun k r hr => nomatch hwrite k hr
  have hsmooth : Smooth script "us-west-2" 2 :=
    ⟨rfl, fun k _ => ⟨_, rfl⟩, fun k _ f hf => ⟨fault, hwrite k hf⟩, fun _ _ => rfl⟩
  obtain ⟨-, hexit, hloaded, -⟩ := runProgram_load hready rfl hforeign 0.0
  have hzero : result.1 = .code 0 := hexit.mpr hsmooth
  exact ⟨hready, hforeign, hzero, hloaded hzero⟩

end Cli

end TableSeeder
