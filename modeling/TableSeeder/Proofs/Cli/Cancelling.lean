import TableSeeder.Proofs.Cli.Presentation
import TableSeeder.Proofs.Invariance

/-! A program that is interrupted: it stops at once and says so by its exit code alone, since the
last resort, which would report the interrupt, is never reached. That a command heeds an interrupt
is one of the things that are kept from step to step: neither the store behind a client nor the
check that tries again takes an interrupt for anything else. -/

namespace TableSeeder

theorem Table.isInterrupt_asRejection (f : Failure) :
    (asRejection f).isInterrupt = f.isInterrupt := by
  cases f with
  | incident i => cases i <;> rfl
  | _ => rfl

theorem heeded_invariant {s : Script} (hs : s.Logs) : StepInvariant (Heeded s) where
  nextId h := nextId_heeds h
  nextWrite he h := nextWrite_heeds h he
  nextIdentity client h := nextIdentity_heeds h client
  sleep interval h := sleep_heeds h interval
  createClient region h := createClient_heeds h region
  createIdentityClient region h := createIdentityClient_heeds h region
  log he h := by
    rw [World.log_eq (h.script ▸ hs) he]
    exact h.logged _
  logFailing he h := by
    rw [World.logFailing_eq (h.script ▸ hs) he]
    exact h.logged _
  echo text h := h.echo text
  fail _ h := h.fail _
  reject h := h.convert (Table.isInterrupt_asRejection _)
  overcome hf h := h.overcome hf

namespace Cli
open Log

theorem ofOutcome_of_isInterrupt {f : Failure} (hf : f.isInterrupt = true) :
    Exit.ofOutcome (.error f) = .code 130 := by
  cases f with
  | incident i =>
    cases i with
    | signal kind text =>
      cases kind with
      | interrupt => rfl
      | _ => cases hf
    | _ => cases hf
  | _ => cases hf

section Run

variable {args : List String} {sources : Settings.Sources} {wall : Float} {c : Command}
  {s : Settings}

theorem Ready.runProgram_heeds (h : Ready args sources wall c s) (hc : c.logs = true)
    (hlevel : (Level.ofName? s.logLevel).isSome) (script : Script) (clock : Float) :
    let result := runProgram args sources wall { script, clock }
    ∃ outcome log w, Heeded { script with log } (failureOf? outcome) w ∧
      result.1 = Exit.ofOutcome outcome ∧ result.2.filter Event.isCall = w.calls ∧
      ((∃ f, outcome = .error f) → ∀ text, .err text ∈ result.2 → StartsRecord text) := by
  intro result
  obtain ⟨complaints, hcomplaints, hrun⟩ := h.runProgram_eq_execute { script, clock }
  obtain ⟨setup, hhandlers, hexecute⟩ := execute_of_level wall hc hlevel { script, clock }
  have hlogs := logged_logs h.ticks setup { script, clock }
  obtain ⟨w, hheeded, hleft⟩ := (heeded_invariant hlogs).perform (Heeded.initial _ clock) c s
    (good_of_parse h.parsed h.loaded)
  have hresult : result = _ := hrun
  rw [hexecute] at hresult
  refine ⟨_, _, w, hheeded, by rw [hresult]; rfl, ?_, ?_⟩
  · rw [hresult, List.filter_append, calls_complaints hcomplaints, List.nil_append, calls_present]
    rcases hleft with hleft | ⟨-, summary, hleft⟩
    · exact congrArg World.calls hleft
    · refine (congrArg World.calls hleft).trans ?_
      rw [World.calls_push (w := w) rfl]
      exact List.append_nil _
  · rintro ⟨f, hf⟩ text htext
    rw [hresult] at htext
    refine (err_of_mem_seen hcomplaints hhandlers htext).resolve_left fun htext => ?_
    rcases hleft with hleft | ⟨hok, -⟩
    · exact absurd (congrArg (fun w : World => w.trace.toList) hleft ▸ htext)
        (hheeded.silent text)
    · cases hf.symm.trans hok

theorem Ready.level_of_call (h : Ready args sources wall c s) {script : Script} {clock : Float}
    {e : Event}
    (he : e ∈ (runProgram args sources wall { script, clock }).2.filter Event.isCall) :
    c.logs = true ∧ (Level.ofName? s.logLevel).isSome := by
  obtain ⟨complaints, hcomplaints, hrun⟩ := h.runProgram_eq_execute { script, clock }
  rw [hrun, List.filter_append, calls_complaints hcomplaints, List.nil_append] at he
  have hlogs (hc : c.logs = true) : (Level.ofName? s.logLevel).isSome := by
    rw [Option.isSome_iff_ne_none]
    intro hlevel
    rw [execute_of_no_level hc hlevel] at he
    cases he
  cases c with
  | info =>
    have hinfo : (execute .info s wall { script, clock }).2 =
        present {} wall [.out (echoed (infoLine s))] := rfl
    rw [hinfo, calls_present] at he
    cases he
  | check => exact ⟨rfl, hlogs rfl⟩
  | run iterations interval => exact ⟨rfl, hlogs rfl⟩
  | batch table batches => exact ⟨rfl, hlogs rfl⟩

/-- A call that meets an interrupt is the last one. The program exits with 130 and reports neither
a summary nor that it has been cancelled. -/
theorem runProgram_interrupted (h : Ready args sources wall c s) {script : Script} {clock : Float}
    {before after : List Event} {e : Event} {f : Failure}
    (hcalls : (runProgram args sources wall { script, clock }).2.filter Event.isCall =
      before ++ e :: after)
    (hmeets : script.meets before e = some f) (hf : f.isInterrupt = true) :
    let result := runProgram args sources wall { script, clock }
    after = [] ∧ result.1 = .code 130 ∧
      (∀ summary : Summary, .err (echoed summary.report) ∉ result.2) ∧
      .err (echoed "Cancelled by user.") ∉ result.2 := by
  intro result
  obtain ⟨hc, hlevel⟩ := h.level_of_call (hcalls ▸ List.mem_append_right before List.mem_cons_self)
  obtain ⟨outcome, log, w, hheeded, hexit, hsame, hrecords⟩ :=
    h.runProgram_heeds hc hlevel script clock
  obtain ⟨hlast, g, hg, hinterrupt⟩ :=
    hheeded.heeded before e after f (hsame.symm.trans hcalls) hmeets hf
  obtain rfl : outcome = .error g := by
    cases outcome with
    | error g' => rw [Option.some.inj hg]
    | ok _ => cases hg
  have hline := hrecords ⟨g, rfl⟩
  exact ⟨hlast, hexit.trans (ofOutcome_of_isInterrupt hinterrupt),
    fun summary htext => not_startsRecord_summary summary (hline _ htext),
    fun htext => not_startsRecord_cancelled (hline _ htext)⟩

end Run

def impatient : Script :=
  { Script.replying [] with
    identity := fun k =>
      { failure := some (.incident
          (if k = 0 then .outage .readTimeout "sts" else .signal .interrupt "")) } }

theorem runProgram_interrupted_impatient :
    let result := runProgram ["check"] {} 1700000000.0 { script := impatient }
    let before := [.createIdentity "us-west-2", .callerIdentity 1, .sleep (.real 0.5),
      .createIdentity "us-west-2"]
    Ready ["check"] {} 1700000000.0 .check {} ∧
      result.2.filter Event.isCall = before ++ .callerIdentity 2 :: [] ∧
      impatient.meets before (.callerIdentity 2) = some (.incident (.signal .interrupt "")) ∧
      result.1 = .code 130 := by
  intro result before
  have hready : Ready ["check"] {} 1700000000.0 .check {} :=
    ⟨rfl, rfl, 1700000000, rfl⟩
  have hcalls : result.2.filter Event.isCall = before ++ .callerIdentity 2 :: [] := rfl
  have hinterrupted := runProgram_interrupted hready hcalls rfl rfl
  exact ⟨hready, hcalls, rfl, hinterrupted.2.1⟩

/-- The interrupt is met, and yet nothing at all is written. -/
theorem runProgram_unreported :
    let result := runProgram ["check"] {} 1700000000.0 { script := impatient }
    let before := [.createIdentity "us-west-2", .callerIdentity 1, .sleep (.real 0.5),
      .createIdentity "us-west-2"]
    Ready ["check"] {} 1700000000.0 .check {} ∧
      result.2 = before ++ [.callerIdentity 2] ∧
      impatient.meets before (.callerIdentity 2) = some (.incident (.signal .interrupt "")) ∧
      .err (echoed "Cancelled by user.") ∉ result.2 := by
  intro result before
  have hresult : result.2 = before ++ [.callerIdentity 2] := rfl
  refine ⟨⟨rfl, rfl, 1700000000, rfl⟩, hresult, rfl, ?_⟩
  rw [hresult]
  simp [before]

end Cli

end TableSeeder
