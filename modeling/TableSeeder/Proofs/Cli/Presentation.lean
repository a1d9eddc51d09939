import TableSeeder.Proofs.Calls
import TableSeeder.Proofs.Log.Writing
import TableSeeder.Cli.Execution

/-! A whole run of the program around its command: which lines come out before it, how its trace is
seen from outside, and that no record is taken for a summary or for a last word. -/

namespace TableSeeder

theorem Terminal.strip_cons {c : Char} (hc : c ≠ '\x1b') (cs : List Char) :
    strip (c :: cs) = c :: strip cs := by
  have hplain : afterSequence? (c :: cs) = none := by
    unfold afterSequence?
    split
    · rename_i h
      exact absurd (List.cons.inj h).1 hc
    · rfl
  rw [strip]
  split
  · rename_i h
    rw [hplain] at h
    cases h
  · rfl

section Reports

def Summary.report (s : Summary) : String :=
  "\x7b\n  \"attempted\": " ++ toString s.attempted ++ ",\n  \"succeeded\": " ++
    toString s.succeeded ++ ",\n  \"failed\": " ++ toString s.failed ++
      ",\n  \"duration_seconds\": " ++ Json.render (.float s.duration : Value) ++ "\n\x7d"

theorem Json.render_natCast (n : Nat) : render (.int n : Value) = toString n :=
  String.ofList_toList

theorem Summary.render_eq_report (s : Summary) : s.render = s.report := by
  have hattempted : String.ofList (Json.text "attempted") = "\"attempted\"" := rfl
  have hsucceeded : String.ofList (Json.text "succeeded") = "\"succeeded\"" := rfl
  have hfailed : String.ofList (Json.text "failed") = "\"failed\"" := rfl
  have hduration : String.ofList (Json.text "duration_seconds") = "\"duration_seconds\"" := rfl
  unfold Summary.render Json.renderLines Summary.members Summary.report
  simp only [List.map_cons, List.map_nil, Json.render_natCast, hattempted, hsucceeded, hfailed,
    hduration, String.intercalate_cons_cons, String.intercalate_singleton]
  simp [← String.toList_inj]

end Reports

namespace Cli
open Log

/-- The program gets as far as carrying out a command, and the clock tells a time. -/
structure Ready (args : List String) (sources : Settings.Sources) (wall : Float) (c : Command)
    (s : Settings) : Prop where
  parsed : parse args = .ok c
  loaded : Settings.load sources = .ok s
  ticks : Ticks wall

section Lines

theorem not_startsRecord_summary (s : Summary) : ¬ StartsRecord (echoed s.report) := by
  rintro ⟨c, cs, hline, -, hopen⟩
  obtain ⟨rest, hrest⟩ : ∃ rest, s.report.toList = '{' :: '\n' :: rest := by
    unfold Summary.report
    simp only [String.append_assoc, String.toList_append]
    exact ⟨_, rfl⟩
  rw [echoed, hrest, Terminal.strip_cons (by decide), Terminal.strip_cons (by decide),
    String.toList_append, String.toList_ofList] at hline
  obtain ⟨rfl, rfl⟩ := List.cons.inj hline
  cases hopen rfl

theorem not_startsRecord_cancelled : ¬ StartsRecord (echoed "Cancelled by user.") := by
  rintro ⟨c, cs, hline, hc, -⟩
  obtain ⟨rest, hrest⟩ : ∃ rest, "Cancelled by user.".toList = 'C' :: rest := ⟨_, rfl⟩
  rw [echoed, hrest, Terminal.strip_cons (by decide), String.toList_append,
    String.toList_ofList] at hline
  exact hc (List.cons.inj hline).1.symm

end Lines

section Present

variable {setup : Setup} {wall : Float}

theorem present_append (es es' : List Event) :
    present setup wall (es ++ es') = present setup wall es ++ present setup wall es' := by
  rw [present, present, present, List.filterMap_append]

theorem present_cons (e : Event) (es : List Event) :
    present setup wall (e :: es) = present setup wall [e] ++ present setup wall es :=
  present_append [e] es

theorem present_singleton (setup : Setup) (wall : Float) (e : Event) :
    (∃ entry, e = .log entry ∧ (present setup wall [e] = [] ∨
      ∃ line, line ≠ "" ∧ setup.writeEntry wall entry = .ok line ∧
        present setup wall [e] = [.err line])) ∨
      (∀ entry, e ≠ .log entry) ∧ present setup wall [e] = [e] := by
  cases e with
  | log entry =>
    refine .inl ⟨entry, rfl, ?_⟩
    rw [present, List.filterMap_cons]
    dsimp only
    cases setup.writeEntry wall entry with
    | error f => exact .inl rfl
    | ok line =>
      by_cases hline : line = ""
      · rw [hline]
        exact .inl rfl
      · dsimp only
        rw [if_neg hline]
        exact .inr ⟨line, hline, rfl, rfl⟩
  | _ => exact .inr ⟨fun _ => nofun, rfl⟩

theorem filter_present {p : Event → Bool} (hlog : ∀ entry, p (.log entry) = false)
    (herr : ∀ text, p (.err text) = false) (es : List Event) :
    (present setup wall es).filter p = es.filter p := by
  induction es with
  | nil => rfl
  | cons e es ih =>
    have hone : (present setup wall [e]).filter p = [e].filter p := by
      rcases present_singleton setup wall e with
        ⟨entry, rfl, hnone | ⟨line, -, -, hline⟩⟩ | ⟨-, hsame⟩
      · simp [hnone, hlog]
      · simp [hline, hlog, herr]
      · rw [hsame]
    rw [present_cons, List.filter_append, ih, hone, ← List.filter_append]
    rfl

theorem calls_present (es : List Event) :
    (present setup wall es).filter Event.isCall = es.filter Event.isCall :=
  filter_present (fun _ => rfl) (fun _ => rfl) es

theorem mem_present {e : Event} (he : ∀ entry, e ≠ .log entry) {es : List Event} (h : e ∈ es) :
    e ∈ present setup wall es := by
  refine List.mem_filterMap.mpr ⟨e, h, ?_⟩
  cases e with
  | log entry => exact absurd rfl (he entry)
  | _ => rfl

theorem err_of_mem_present (hs : setup.handlers ≠ []) {es : List Event} {text : String}
    (h : .err text ∈ present setup wall es) : .err text ∈ es ∨ StartsRecord text := by
  induction es with
  | nil => cases h
  | cons e es ih =>
    rw [present_cons, List.mem_append] at h
    rcases h with h | h
    · rcases present_singleton setup wall e with
        ⟨entry, rfl, hnone | ⟨line, hne, hwrite, hline⟩⟩ | ⟨-, hsame⟩
      · rw [hnone] at h
        cases h
      · rw [hline, List.mem_singleton] at h
        obtain rfl := Event.err.inj h
        exact .inr ((Setup.startsRecord_of_writeEntry hs hwrite).resolve_left hne)
      · rw [hsame, List.mem_singleton] at h
        rw [← h]
        exact .inl List.mem_cons_self
    · exact (ih h).imp_left (List.mem_cons_of_mem e)

end Present

section Complaints

variable {wall : Float}

theorem render_ofString (s : String) : (Points.ofString s).render = s := by
  rw [Points.render, Points.ofString, Points.ofChars, List.flatMap_map]
  exact (congrArg String.ofList (List.flatMap_singleton' s.toList)).trans String.ofList_toList

theorem writeEntry_complaint (hwall : Ticks wall) (message : String) :
    ({} : Setup).writeEntry wall (complaint message) = .ok (message ++ "\n") := by
  obtain ⟨now, hnow⟩ := hwall
  unfold Setup.writeEntry Setup.write
  rw [hnow]
  exact congrArg (fun line => Except.ok (line ++ "\n")) (render_ofString message)

theorem startsRecord_of_complaint {message : String} {cs : List Char}
    (h : message.toList = 'p' :: cs) : StartsRecord (message ++ "\n") :=
  (startsRecord_of_cons h (by decide) (by decide)).append "\n"

theorem complain_eq (hwall : Ticks wall) (messages : List String) :
    complain wall messages = (none, messages.map fun message => .err (message ++ "\n")) := by
  induction messages with
  | nil => rfl
  | cons message messages ih =>
    rw [complain, writeEntry_complaint hwall, ih]
    rfl

theorem mem_complaints {sources : Settings.Sources} {message : String}
    (h : message ∈ Settings.complaints sources) : ∃ cs, message.toList = 'p' :: cs := by
  unfold Settings.complaints at h
  split at h
  · obtain ⟨line, -, rfl⟩ := List.mem_map.mp h
    rw [String.toList_append]
    exact ⟨_, rfl⟩
  · cases h

end Complaints

section Run

variable {args : List String} {sources : Settings.Sources} {wall : Float} {c : Command}
  {s : Settings}

theorem Ready.runProgram_eq_execute (h : Ready args sources wall c s) (w : World) :
    ∃ complaints, (∀ e ∈ complaints, ∃ line, e = .err line ∧ StartsRecord line) ∧
      runProgram args sources wall w =
        ((execute c s wall w).1, complaints ++ (execute c s wall w).2) := by
  refine ⟨(complain wall (Settings.complaints sources)).2, fun e he => ?_, ?_⟩
  · rw [complain_eq h.ticks] at he
    obtain ⟨message, hmessage, rfl⟩ := List.mem_map.mp he
    obtain ⟨cs, hcs⟩ := mem_complaints hmessage
    exact ⟨_, rfl, startsRecord_of_complaint hcs⟩
  · rw [runProgram, h.parsed, complain_eq h.ticks]
    dsimp only
    rw [executeWith, h.loaded]

theorem filter_complaints {complaints : List Event} {p : Event → Bool}
    (hp : ∀ text, p (.err text) = false)
    (h : ∀ e ∈ complaints, ∃ line, e = .err line ∧ StartsRecord line) :
    complaints.filter p = [] := by
  rw [List.filter_eq_nil_iff]
  intro e he
  obtain ⟨line, rfl, -⟩ := h e he
  rw [hp]
  exact Bool.false_ne_true

theorem calls_complaints {complaints : List Event}
    (h : ∀ e ∈ complaints, ∃ line, e = .err line ∧ StartsRecord line) :
    complaints.filter Event.isCall = [] := filter_complaints (fun _ => rfl) h

theorem err_of_mem_seen {complaints es : List Event} {setup : Setup} {text : String}
    (hcomplaints : ∀ e ∈ complaints, ∃ line, e = .err line ∧ StartsRecord line)
    (hs : setup.handlers ≠ []) (h : .err text ∈ complaints ++ present setup wall es) :
    .err text ∈ es ∨ StartsRecord text := by
  rcases List.mem_append.mp h with h | h
  · obtain ⟨line, hline, hstarts⟩ := hcomplaints _ h
    rw [← Event.err.inj hline] at hstarts
    exact .inr hstarts
  · exact err_of_mem_present hs h

theorem execute_single (wall : Float) (hc : c.logs = true) {level : Int}
    (hlevel : Level.ofName? s.logLevel = some level) (w : World) :
    execute c s wall w =
      (Exit.ofOutcome (c.perform s (logged (.single level s.logJson) wall w)).1,
        present (.single level s.logJson) wall
          (c.perform s (logged (.single level s.logJson) wall w)).2.trace.toList) := by
  rw [execute, setupFor, if_pos hc, Setup.configure_single hlevel]

theorem execute_of_level (wall : Float) (hc : c.logs = true)
    (hlevel : (Level.ofName? s.logLevel).isSome) (w : World) :
    ∃ setup : Setup, setup.handlers ≠ [] ∧ execute c s wall w =
      (Exit.ofOutcome (c.perform s (logged setup wall w)).1,
        present setup wall (c.perform s (logged setup wall w)).2.trace.toList) := by
  obtain ⟨level, hlevel⟩ := Option.isSome_iff_exists.mp hlevel
  exact ⟨_, by simp [Setup.single], execute_single wall hc hlevel w⟩

theorem execute_of_no_level (hc : c.logs = true) (hlevel : Level.ofName? s.logLevel = none)
    (w : World) : execute c s wall w = (.escaped .unknownLevel, []) := by
  rw [execute, setupFor, if_pos hc, Setup.configure_unknown hlevel]

end Run

theorem logged_logs {wall : Float} (hwall : Ticks wall) (setup : Setup) (w : World) :
    (logged setup wall w).script.Logs := fun e _ => setup.failure?_eq_none hwall e

end Cli

end TableSeeder
