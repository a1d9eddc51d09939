import TableSeeder.Proofs.Cli.Filling
import TableSeeder.Proofs.Cli.Loading
import TableSeeder.Proofs.Cli.Relogging
import TableSeeder.Proofs.Settings.Precedence

/-! What level and format of the log have no say in: how a command that writes ends, what it calls,
where it sleeps and what it prints. Only the lines of the log itself differ. -/

namespace TableSeeder

def Event.isAside : Event → Bool
  | .log _ | .err _ => true
  | _ => false

namespace Cli
open Log

inductive ConsoleLine (replies : Nat → Reply) : Command → String → Prop where
  | progress {count : Option Int} {x : Option Float} (k : Nat) :
      ConsoleLine replies (.run count x) ("Writing item #" ++ toString (k + 1))
  | message {count : Option Int} {x : Option Float} {k : Nat} {f : Failure} {r : Rejection}
      (h : (replies k).failure = some f) (hr : Table.asRejection f = .rejected r) :
      ConsoleLine replies (.run count x) (echoText r.message)
  | written {table : Option String} {count : Option Int} (k : Nat) :
      ConsoleLine replies (.batch table count)
        ("Written " ++ toString ((k + 1) * maxBatchSize) ++ " records")
  | refused {table : Option String} {count : Option Int} {k : Nat} {f : Failure} {r : Rejection}
      (h : (replies k).failure = some f) (hr : Table.asRejection f = .rejected r) :
      ConsoleLine replies (.batch table count) ("Err: " ++ r.message.shown)

section Settings

variable {s t : Settings}

theorem perform_congr
    (h : ∀ f, f ∉ [Settings.Field.logLevel, .logJson] → s.get f = t.get f) (c : Command) :
    c.perform s = c.perform t := by
  have hregion := Value.text.inj (h .region (by decide))
  have htable := Value.text.inj (h .table (by decide))
  have hiterations := Value.int.inj (h .iterations (by decide))
  have hinterval := Value.float.inj (h .interval (by decide))
  have hbatches := Value.int.inj (h .batches (by decide))
  obtain ⟨region, table, iterations, interval, batches, logLevel, logJson⟩ := s
  dsimp only at hregion htable hiterations hinterval hbatches
  subst hregion htable hiterations hinterval hbatches
  cases c <;> rfl

end Settings

section Lines

theorem rejection_of_course {id : Except Failure String} {write pause pause' : Option Failure}
    {id' : String} {r : Rejection}
    (h : Load.Course.of id write pause = .settled id' (some r) pause') :
    write = some (.rejected r) := by
  unfold Load.Course.of at h
  split at h
  · cases h
  · cases h
  · cases h
    rfl
  · cases h

theorem rejection_of_batch {ids : Except Failure (List String)} {answer : Except Failure Value}
    {ids' : List String} {r : Rejection}
    (h : Batch.Course.of ids answer = .rejected ids' r) : answer = .error (.rejected r) := by
  unfold Batch.Course.of at h
  split at h
  · cases h
  · cases h
  · cases h
    rfl
  · cases h

theorem out_of_round {r : Load.Round} {table text : String} {interval : Interval}
    (h : .out text ∈ r.events (.client 1) table interval) :
    text = echoed (Load.progressLine r.number) ∨
      ∃ id j pause, r.course = .settled id (some j) pause ∧
        text = echoed (echoText j.message) := by
  unfold Load.Round.events at h
  cases hcourse : r.course with
  | undrawn f => simp [hcourse] at h
  | broken id f =>
    rw [hcourse] at h
    exact .inl (by simpa [Manner.client] using h)
  | settled id j pause =>
    rw [hcourse] at h
    cases j with
    | none => exact .inl (by simpa [Manner.client] using h)
    | some j =>
      have h : text = echoed (Load.progressLine r.number) ∨ text = echoed (echoText j.message) := by
        simpa [Manner.client] using h
      exact h.imp_right fun htext => ⟨id, j, pause, rfl, htext⟩

theorem out_of_request {r : Batch.Request} {table text : String}
    (h : .out text ∈ r.events (.client 1) table) :
    text = echoed ("Written " ++ toString r.total ++ " records") ∨
      ∃ ids j, r.course = .rejected ids j ∧ text = echoed ("Err: " ++ j.message.shown) := by
  unfold Batch.Request.events at h
  cases hcourse : r.course with
  | undrawn f => simp [hcourse] at h
  | broken ids f => simp [hcourse, Manner.client] at h
  | rejected ids j =>
    rw [hcourse] at h
    have htext : text = echoed ("Err: " ++ j.message.shown) := by simpa [Manner.client] using h
    exact .inr ⟨ids, j, rfl, htext⟩
  | written ids unprocessed =>
    rw [hcourse] at h
    have hwarning : Event.out text ∉ Batch.warnings table unprocessed := by
      unfold Batch.warnings
      split <;> simp
    exact .inl (by simpa [Manner.client, hwarning] using h)

theorem failure_of_answer {client : Nat} {reply : Reply} {r : Rejection}
    (h : (Manner.client client).answer reply = .error (.rejected r)) :
    ∃ f, reply.failure = some f ∧ Table.asRejection f = .rejected r := by
  unfold Manner.client at h
  dsimp only at h
  cases hfailure : reply.failure with
  | some f =>
    rw [hfailure] at h
    exact ⟨f, rfl, Except.error.inj h⟩
  | none =>
    rw [hfailure] at h
    exact absurd rfl (Table.ne_rejected_of_unprocessed (error_of_map h) r)

end Lines

section Printed

variable {script : Script} {clock : Float} {s : Settings} {text : String}

theorem out_of_reached {l : Loader} {interval : Interval} {n : Nat} {e : Log.Entry}
    (h : .out text ∈ ((l.reached (.client 1) interval (opened script clock s.region) n).emit
      (.log e)).trace.toList) (count : Option Int) (x : Option Float) :
    ∃ line, ConsoleLine script.write (.run count x) line ∧ text = echoed line := by
  rw [Loader.trace_reached] at h
  have hround : ∃ r ∈ Loader.made (.client 1) interval (opened script clock s.region) n,
      .out text ∈ r.events (.client 1) l.table interval := by
    have hsilent : .out text ∉ (opened script clock s.region).trace.toList := by
      simp [opened, World.attempted]
    simpa [hsilent] using h
  obtain ⟨r, hr, htext⟩ := hround
  obtain ⟨k, -, rfl⟩ := List.mem_map.mp (mem_of_mem_upToFailure hr)
  rcases out_of_round htext with htext | ⟨id, j, pause, hcourse, htext⟩
  · refine ⟨_, ?_, htext⟩
    have hnumber : (Load.round (.client 1) interval 0 (opened script clock s.region) k).number =
        k + 1 := congrArg (· + 1) (Nat.zero_add k)
    rw [hnumber]
    exact .progress k
  · have hfailure := rejection_of_course hcourse
    obtain ⟨f, hf, hj⟩ := Option.map_eq_some_iff.mp hfailure
    exact ⟨_, .message hf hj, htext⟩

theorem out_of_effects {n : Nat} {table : String}
    (h : .out text ∈ ((upToFailure Batch.Request.failure?
      (Batch.requests (.client 1) maxBatchSize 0 (opened script clock s.region) n)).foldl
        (Batch.Request.effect (.client 1) table) (opened script clock s.region)).trace.toList)
    (table? : Option String) (count : Option Int) :
    ∃ line, ConsoleLine script.write (.batch table? count) line ∧ text = echoed line := by
  rw [Batch.trace_effects] at h
  have hrequest : ∃ r ∈ upToFailure Batch.Request.failure?
      (Batch.requests (.client 1) maxBatchSize 0 (opened script clock s.region) n),
        .out text ∈ r.events (.client 1) table := by
    have hsilent : .out text ∉ (opened script clock s.region).trace.toList := by
      simp [opened, World.attempted]
    simpa [hsilent] using h
  obtain ⟨r, hr, htext⟩ := hrequest
  obtain ⟨k, -, rfl⟩ := List.mem_map.mp (mem_of_mem_upToFailure hr)
  rcases out_of_request htext with htext | ⟨ids, j, hcourse, htext⟩
  · rw [total_request] at htext
    exact ⟨_, .written k, htext⟩
  · obtain ⟨f, hf, hj⟩ := failure_of_answer (rejection_of_batch hcourse)
    exact ⟨_, .refused hf hj, htext⟩

theorem out_of_echoError {w : World} {summary : String}
    (h : .out text ∈ (w.echoError summary).trace.toList) : .out text ∈ w.trace.toList := by
  rw [World.echoError, World.trace_emit] at h
  simpa using h

theorem console_of_run {count : Option Int} {x : Option Float} (hlogs : script.Logs)
    (hcount : 1 ≤ count.getD s.iterations) (hx : 0.0 ≤ x.getD s.interval)
    (h : .out text ∈ ((Command.run count x).perform s { script, clock }).2.trace.toList) :
    ∃ line, ConsoleLine script.write (.run count x) line ∧ text = echoed line := by
  have hperform : (Command.run count x).perform s { script, clock } = _ :=
    perform_run hlogs hcount hx
  rw [hperform] at h
  cases hcreate : script.create s.region 0 with
  | some f =>
    rw [hcreate] at h
    simp [World.attempted] at h
  | none =>
    rw [hcreate] at h
    dsimp only at h
    split at h
    · exact out_of_reached h count x
    · exact out_of_reached (out_of_echoError h) count x

theorem console_of_batch {table : Option String} {count : Option Int} (hlogs : script.Logs)
    (hcount : 1 ≤ count.getD s.batches)
    (h : .out text ∈ ((Command.batch table count).perform s { script, clock }).2.trace.toList) :
    ∃ line, ConsoleLine script.write (.batch table count) line ∧ text = echoed line := by
  rcases perform_batch hlogs hcount table clock with
    ⟨f, -, hperform⟩ | ⟨-, ⟨f, -, hperform⟩ | ⟨-, hperform⟩⟩
  · rw [hperform] at h
    simp [World.attempted] at h
  · rw [hperform] at h
    exact out_of_effects h table count
  · rw [hperform] at h
    exact out_of_effects (out_of_echoError h) table count

end Printed

section Agreement

variable {args : List String} {a b : Settings.Sources} {wall : Float} {c : Command}
  {s t : Settings}

/-- What is seen of a command that writes is its trace behind the complaints about the file. Only
the last event can be a summary. -/
structure Seen (script : Script) (c : Command) (s : Settings) (done : Except Failure Unit × World)
    (result : Exit × List Event) : Prop where
  exit : result.1 = Exit.ofOutcome done.1
  events : result.2.filter (!·.isAside) = done.2.trace.toList.filter (!·.isAside)
  summary (summary : Summary) : .err (echoed summary.report) ∈ result.2 ↔
    .err (echoed summary.report) ∈ done.2.trace.toList
  final (summary : Summary) : .err (echoed summary.report) ∈ result.2 →
    result.2.getLast? = some (.err (echoed summary.report))
  printed (text : String) : .out text ∈ result.2 →
    ∃ line, ConsoleLine script.write c line ∧ text = echoed line

theorem Ready.console (h : Ready args a wall c s) (hc : c.writes = true) {script : Script}
    {clock : Float} (hlogs : script.Logs) {text : String}
    (htext : .out text ∈ (c.perform s { script, clock }).2.trace.toList) :
    ∃ line, ConsoleLine script.write c line ∧ text = echoed line := by
  cases c with
  | info => cases hc
  | check => cases hc
  | run count x =>
    obtain ⟨hn, hx⟩ := bounds_of_run h.parsed h.loaded
    exact console_of_run hlogs hn hx htext
  | batch table count => exact console_of_batch hlogs (bounds_of_batch h.parsed h.loaded) htext

theorem Ready.summary_last (h : Ready args a wall c s) {script : Script} (hlogs : script.Logs)
    {clock : Float} {text : String}
    (htext : .err text ∈ (c.perform s { script, clock }).2.trace.toList) :
    ∃ es, (c.perform s { script, clock }).2.trace.toList = es ++ [.err text] := by
  obtain ⟨w, hheeded, hleft⟩ := (heeded_invariant hlogs).perform (Heeded.initial _ clock) c s
    (good_of_parse h.parsed h.loaded)
  rcases hleft with hleft | ⟨-, summary, hleft⟩
  · rw [hleft] at htext
    exact absurd htext (hheeded.silent text)
  · have htrace : (c.perform s { script, clock }).2.trace.toList =
        w.trace.toList ++ [.err (echoed summary.report)] := by
      rw [hleft, ← Summary.render_eq_report]
      exact World.trace_emit w _
    rw [htrace, List.mem_append] at htext
    have hsame := List.mem_singleton.mp (htext.resolve_left (hheeded.silent text))
    rw [hsame]
    exact ⟨w.trace.toList, htrace⟩

theorem Ready.seen (h : Ready args a wall c s) (hc : c.writes = true)
    (hlevel : (Level.ofName? s.logLevel).isSome) (script : Script) (clock : Float) :
    ∃ log, ({ script with log } : Script).Logs ∧
      Seen script c s (c.perform s { script := { script with log }, clock })
        (runProgram args a wall { script, clock }) := by
  obtain ⟨complaints, hcomplaints, hrun⟩ := h.runProgram_eq_execute { script, clock }
  obtain ⟨setup, hhandlers, hexecute⟩ :=
    execute_of_level wall (Command.logs_of_writes hc) hlevel { script, clock }
  let log := setup.failure? wall
  have hlogs : ({ script with log } : Script).Logs := logged_logs h.ticks setup { script, clock }
  let done := c.perform s { script := { script with log }, clock }
  have hresult : runProgram args a wall { script, clock } =
      (Exit.ofOutcome done.1, complaints ++ present setup wall done.2.trace.toList) := by
    rw [hrun, hexecute]
    rfl
  -- a summary that is seen comes from the command, since no record begins like one
  have hown (summary : Summary)
      (hmem : .err (echoed summary.report) ∈ complaints ++ present setup wall done.2.trace.toList) :
      .err (echoed summary.report) ∈ done.2.trace.toList :=
    (err_of_mem_seen hcomplaints hhandlers hmem).resolve_right (not_startsRecord_summary summary)
  have hevents : (complaints ++ present setup wall done.2.trace.toList).filter (!·.isAside) =
      done.2.trace.toList.filter (!·.isAside) := by
    rw [List.filter_append, filter_complaints (fun _ => rfl) hcomplaints, List.nil_append,
      filter_present (fun _ => rfl) fun _ => rfl]
  refine ⟨log, hlogs, ?_⟩
  rw [hresult]
  refine ⟨rfl, hevents, fun summary => ⟨hown summary, fun hmem => ?_⟩, fun summary hmem => ?_,
    fun text hmem => ?_⟩
  · exact List.mem_append_right complaints (mem_present (e := .err _) (fun _ => nofun) hmem)
  · obtain ⟨es, hes⟩ := h.summary_last hlogs (hown summary hmem)
    change (complaints ++ present setup wall done.2.trace.toList).getLast? = _
    rw [hes, present_append, ← List.append_assoc]
    exact List.getLast?_concat
  · have hfilter : .out text ∈ done.2.trace.toList.filter (!·.isAside) := by
      rw [← hevents]
      exact List.mem_filter.mpr ⟨hmem, rfl⟩
    exact h.console hc hlogs (List.mem_of_mem_filter hfilter)

/-- Two runs whose sources differ in nothing but level and format of the log end alike, make the
same calls and print the same lines, and if one reports a summary, so does the other. -/
theorem runProgram_agrees (ha : Ready args a wall c s) (hb : Ready args b wall c t)
    (hc : c.writes = true) (hs : (Level.ofName? s.logLevel).isSome)
    (ht : (Level.ofName? t.logLevel).isSome) (hplain : a.Plain) (hplain' : b.Plain)
    (hagree : a.AgreeBut [.logLevel, .logJson] b) (script : Script) (clock : Float) :
    let ra := runProgram args a wall { script, clock }
    let rb := runProgram args b wall { script, clock }
    ra.1 = rb.1 ∧ ra.2.filter (!·.isAside) = rb.2.filter (!·.isAside) ∧
      (∀ summary : Summary,
        (.err (echoed summary.report) ∈ ra.2 ↔ .err (echoed summary.report) ∈ rb.2) ∧
        (.err (echoed summary.report) ∈ ra.2 →
          ra.2.getLast? = some (.err (echoed summary.report)) ∧
            rb.2.getLast? = some (.err (echoed summary.report)))) ∧
      ∀ text, .out text ∈ ra.2 →
        ∃ line, ConsoleLine script.write c line ∧ text = echoed line := by
  intro ra rb
  obtain ⟨log, hlogs, hseen⟩ := ha.seen hc hs script clock
  obtain ⟨log', hlogs', hseen'⟩ := hb.seen hc ht script clock
  have hget : ∀ f, f ∉ [Settings.Field.logLevel, .logJson] → s.get f = t.get f :=
    fun f hf => Settings.get_eq_of_agreeBut hplain hplain' ha.loaded hb.loaded hagree hf
  -- both runs are runs of one command in worlds that differ in their logs
  have hrelog : c.perform t { script := { script with log := log' }, clock } =
      let done := c.perform s { script := { script with log }, clock }
      (done.1, done.2.relog log') := by
    rw [← perform_congr hget c]
    exact perform_relog (w := { script := { script with log }, clock }) hc
      (good_of_parse ha.parsed ha.loaded) hlogs hlogs'
  rw [hrelog] at hseen'
  have hsummary (summary : Summary) :
      .err (echoed summary.report) ∈ ra.2 ↔ .err (echoed summary.report) ∈ rb.2 :=
    (hseen.summary summary).trans (hseen'.summary summary).symm
  refine ⟨hseen.exit.trans hseen'.exit.symm, hseen.events.trans hseen'.events.symm,
    fun summary => ⟨hsummary summary, fun h => ?_⟩, hseen.printed⟩
  exact ⟨hseen.final summary h, hseen'.final summary ((hsummary summary).mp h)⟩

end Agreement

def verbose : Settings.Sources where
  environment := [("LOG_LEVEL", "debug"), ("ITEM_LOADER_TABLE", "t"), ("log_json", "1")]

def terse : Settings.Sources where
  environment := [("ITEM_LOADER_TABLE", "t")]
  file := some "log_level=ERROR\n"

theorem runProgram_agrees_verbose :
    let ra := runProgram ["run", "-n", "3"] verbose 1700000000.0 .troubled
    let rb := runProgram ["run", "-n", "3"] terse 1700000000.0 .troubled
    (Ready ["run", "-n", "3"] verbose 1700000000.0 (.run (some 3) none)
        { table := "t", logLevel := "debug", logJson := true } ∧
      Ready ["run", "-n", "3"] terse 1700000000.0 (.run (some 3) none)
        { table := "t", logLevel := "ERROR" } ∧
      verbose.Plain ∧ terse.Plain ∧ verbose.AgreeBut [.logLevel, .logJson] terse) ∧
    ra.1 = rb.1 ∧ ra.2.filter (!·.isAside) = rb.2.filter (!·.isAside) := by
  have hticks : Ticks 1700000000.0 := ⟨1700000000, rfl⟩
  have hverbose : Ready ["run", "-n", "3"] verbose 1700000000.0 (.run (some 3) none)
      { table := "t", logLevel := "debug", logJson := true } := ⟨rfl, rfl, hticks⟩
  have hterse : Ready ["run", "-n", "3"] terse 1700000000.0 (.run (some 3) none)
      { table := "t", logLevel := "ERROR" } := ⟨rfl, rfl, hticks⟩
  have hplain : verbose.Plain := fun _ => nofun
  have hplain' : terse.Plain := fun _ => nofun
  have hagree : verbose.AgreeBut [.logLevel, .logJson] terse := ⟨rfl, rfl, rfl⟩
  obtain ⟨hexit, hevents, -⟩ := runProgram_agrees hverbose hterse rfl rfl rfl hplain hplain' hagree
    World.troubled.script 0.0
  exact ⟨⟨hverbose, hterse, hplain, hplain', hagree⟩, hexit, hevents⟩

/-- A file may refer to the level, and then what is called differs with it; and where the clock
tells no number, a run fails on the first entry that its level lets through. -/
theorem runProgram_differs :
    let referring (level : String) : Settings.Sources :=
      { environment := [("LOG_LEVEL", level)], file := some "AWS_REGION=$\x7bLOG_LEVEL\x7d\n" }
    let naming (level : String) : Settings.Sources := { environment := [("LOG_LEVEL", level)] }
    let unopened : Script :=
      { Script.replying [] with create := fun _ _ => some (.incident .noCredentials) }
    ((runProgram ["run"] (referring "INFO") 1700000000.0 { script := unopened }).2 =
        [.create "INFO"] ∧
      (runProgram ["run"] (referring "DEBUG") 1700000000.0 { script := unopened }).2 =
        [.create "DEBUG"]) ∧
    (runProgram ["run", "-n", "1", "-i", "0"] (naming "INFO") (0.0 / 0.0)
        { script := .replying [] }).1 = .escaped (.unlogged (.clock .notNumber)) ∧
      (runProgram ["run", "-n", "1", "-i", "0"] (naming "CRITICAL") (0.0 / 0.0)
        { script := .replying [] }).1 = .code 0 :=
  ⟨⟨rfl, rfl⟩, rfl, rfl⟩

end Cli

end TableSeeder
