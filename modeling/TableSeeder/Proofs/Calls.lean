import TableSeeder.Proofs.Registry.Steps

/-! Calls: the events by which the program reaches out. What a call meets is read off the script by
the calls before it, and an interrupt that a call meets is heeded when no call comes after it and
the failure that is left is an interrupt. -/

namespace TableSeeder

namespace Event

def isCall : Event → Bool
  | log _ | out _ | err _ => false
  | _ => true

@[simp] theorem isCall_log (e : Log.Entry) : (log e).isCall = false := rfl

@[simp] theorem isCall_out (text : String) : (out text).isCall = false := rfl

@[simp] theorem isCall_err (text : String) : (err text).isCall = false := rfl

@[simp] theorem isCall_sleep (i : Interval) : (sleep i).isCall = true := rfl

def isWrite : Event → Bool
  | put .. | putBatch .. | putItem .. | batchWrite .. => true
  | _ => false

def isIdentity : Event → Bool
  | callerIdentity _ => true
  | _ => false

def isSleep : Event → Bool
  | sleep _ => true
  | _ => false

def isCreation (region : String) : Event → Bool
  | create r => r == region
  | _ => false

def isIdentityCreation (region : String) : Event → Bool
  | createIdentity r => r == region
  | _ => false

end Event

def Script.meets (s : Script) (before : List Event) (e : Event) : Option Failure :=
  match e with
  | .put .. | .putBatch .. | .putItem .. | .batchWrite .. =>
    (s.write (before.countP Event.isWrite)).failure
  | .callerIdentity _ => (s.identity (before.countP Event.isIdentity)).failure
  | .sleep _ => s.sleep (before.countP Event.isSleep)
  | .create region => s.create region (before.countP (Event.isCreation region))
  | .createIdentity region =>
    s.createIdentity region (before.countP (Event.isIdentityCreation region))
  | .close _ region => s.close region
  | .log _ | .out _ | .err _ => none

namespace World

def calls (w : World) : List Event := w.trace.toList.filter Event.isCall

theorem calls_push {w w' : World} {e : Event} (h : w'.trace = w.trace.push e) :
    w'.calls = w.calls ++ if e.isCall then [e] else [] := by
  rw [calls, h, Array.toList_push, List.filter_append, ← calls]
  cases he : e.isCall <;> simp [he]

/-- The counters agree with the calls that have been made. -/
structure Synced (w : World) : Prop where
  writes : w.writes = w.calls.countP Event.isWrite
  identities : w.identities = w.calls.countP Event.isIdentity
  sleeps : w.sleeps = w.calls.countP Event.isSleep
  creations (region) : w.creations.count region = w.calls.countP (Event.isCreation region)
  identityCreations (region) :
    w.identityCreations.count region = w.calls.countP (Event.isIdentityCreation region)

theorem Synced.push {w w' : World} {e : Event} (h : w.Synced) (he : e.isCall = true)
    (htrace : w'.trace = w.trace.push e)
    (hwrites : w'.writes = w.writes + [e].countP Event.isWrite)
    (hidentities : w'.identities = w.identities + [e].countP Event.isIdentity)
    (hsleeps : w'.sleeps = w.sleeps + [e].countP Event.isSleep)
    (hcreations : ∀ region, w'.creations.count region =
      w.creations.count region + [e].countP (Event.isCreation region))
    (hidentityCreations : ∀ region, w'.identityCreations.count region =
      w.identityCreations.count region + [e].countP (Event.isIdentityCreation region)) :
    w'.Synced := by
  have hcalls (p : Event → Bool) : w'.calls.countP p = w.calls.countP p + [e].countP p := by
    rw [calls_push htrace, he, if_pos rfl, List.countP_append]
  refine ⟨?_, ?_, ?_, fun region => ?_, fun region => ?_⟩
  · rw [hcalls, ← h.writes, hwrites]
  · rw [hcalls, ← h.identities, hidentities]
  · rw [hcalls, ← h.sleeps, hsleeps]
  · rw [hcalls, ← h.creations, hcreations]
  · rw [hcalls, ← h.identityCreations, hidentityCreations]

end World

def failureOf? {α : Type} : Except Failure α → Option Failure
  | .error f => some f
  | .ok _ => none

/-- Nothing has met an interrupt but perhaps the last call, and then the failure is an interrupt.
So far nothing has been reported as an error. -/
structure Heeded (s : Script) (failure? : Option Failure) (w : World) : Prop where
  script : w.script = s
  synced : w.Synced
  heeded (before e after f) : w.calls = before ++ e :: after → s.meets before e = some f →
    f.isInterrupt = true → after = [] ∧ ∃ g, failure? = some g ∧ g.isInterrupt = true
  silent (text) : .err text ∉ w.trace.toList

def Heeds {α : Type} (s : Script) (r : Except Failure α × World) : Prop :=
  Heeded s (failureOf? r.1) r.2

namespace Heeded

variable {s : Script} {failure? : Option Failure} {w w' : World} {e : Event} {f g : Failure}

theorem initial (s : Script) (clock : Float) : Heeded s none { script := s, clock } where
  script := rfl
  synced := ⟨rfl, rfl, rfl, fun _ => rfl, fun _ => rfl⟩
  heeded before e after _ h := by cases before <;> cases h
  silent _ := nofun

theorem exchange (h : Heeded s failure? w) {failure?' : Option Failure}
    (hf : ∀ f, failure? = some f → f.isInterrupt = true →
      ∃ g, failure?' = some g ∧ g.isInterrupt = true) : Heeded s failure?' w := by
  refine ⟨h.script, h.synced, fun before e after f hsplit hmeets hinterrupt => ?_, h.silent⟩
  obtain ⟨hlast, g, hg, hinterrupt⟩ := h.heeded before e after f hsplit hmeets hinterrupt
  exact ⟨hlast, hf g hg hinterrupt⟩

theorem fail (h : Heeded s none w) (failure? : Option Failure) : Heeded s failure? w :=
  h.exchange fun _ => nofun

theorem overcome (h : Heeded s (some f) w) (hf : f.isInterrupt = false) : Heeded s none w := by
  apply h.exchange
  intro g hg hinterrupt
  rw [← Option.some.inj hg, hf] at hinterrupt
  cases hinterrupt

theorem convert (h : Heeded s (some f) w) (hf : g.isInterrupt = f.isInterrupt) :
    Heeded s (some g) w := by
  apply h.exchange
  intro f' hf' hinterrupt
  rw [← Option.some.inj hf', ← hf] at hinterrupt
  exact ⟨g, rfl, hinterrupt⟩

theorem emit (h : Heeded s failure? w) (he : e.isCall = false) (herr : ∀ text, e ≠ .err text) :
    Heeded s failure? (w.emit e) := by
  have hcalls : (w.emit e).calls = w.calls := by
    rw [World.calls_push (w := w) rfl, he, if_neg Bool.false_ne_true, List.append_nil]
  refine ⟨h.script, ?_, fun before e' after => ?_, fun text htext => ?_⟩
  · obtain ⟨hwrites, hidentities, hsleeps, hcreations, hidentityCreations⟩ := h.synced
    rw [← hcalls] at hwrites hidentities hsleeps
    refine ⟨hwrites, hidentities, hsleeps, fun region => ?_, fun region => ?_⟩
    · rw [hcalls]
      exact hcreations region
    · rw [hcalls]
      exact hidentityCreations region
  · rw [hcalls]
    exact h.heeded before e' after
  · rw [World.trace_emit, List.mem_append, List.mem_singleton] at htext
    rcases htext with htext | htext
    · exact h.silent text htext
    · exact herr text htext.symm

theorem echo (h : Heeded s failure? w) (text : String) : Heeded s failure? (w.echo text) :=
  h.emit rfl fun _ => nofun

theorem logged (h : Heeded s failure? w) (e : Log.Entry) : Heeded s failure? (w.emit (.log e)) :=
  h.emit rfl fun _ => nofun

theorem call (h : Heeded s none w) (he : e.isCall = true) (hscript : w'.script = w.script)
    (htrace : w'.trace = w.trace.push e) (hsynced : w'.Synced)
    (hmeets : ∀ f, s.meets w.calls e = some f → failure? = some f) : Heeded s failure? w' := by
  have hcalls : w'.calls = w.calls ++ [e] := by
    rw [World.calls_push htrace, he, if_pos rfl]
  refine ⟨hscript.trans h.script, hsynced, fun before e' after f hsplit hf hinterrupt => ?_,
    fun text htext => ?_⟩
  · rw [hcalls] at hsplit
    -- either the new call comes after a call that has met an interrupt, or it meets one itself
    obtain ⟨rest, hbefore, hlast⟩ | ⟨rest, hbefore, hlast⟩ :=
      List.append_eq_append_iff.mp hsplit
    · cases rest with
      | nil =>
        rw [List.append_nil] at hbefore
        obtain ⟨rfl, rfl⟩ := List.cons.inj hlast
        rw [hbefore] at hf
        exact ⟨rfl, f, hmeets f hf, hinterrupt⟩
      | cons e'' rest =>
        have hnil := (List.cons.inj hlast).2
        cases rest <;> cases hnil
    · cases rest with
      | nil =>
        rw [List.append_nil] at hbefore
        obtain ⟨rfl, rfl⟩ := List.cons.inj hlast
        rw [← hbefore] at hf
        exact ⟨rfl, f, hmeets f hf, hinterrupt⟩
      | cons e'' rest =>
        rw [List.cons_append] at hlast
        obtain ⟨rfl, -⟩ := List.cons.inj hlast
        obtain ⟨-, g, hg, -⟩ := h.heeded before e' rest f hbefore hf hinterrupt
        cases hg
  · rw [htrace, Array.toList_push, List.mem_append, List.mem_singleton] at htext
    rcases htext with htext | rfl
    · exact h.silent text htext
    · cases he

end Heeded

section Facilities

variable {s : Script} {w : World}

theorem nextId_heeds (h : Heeded s none w) : Heeds s (World.nextId w) := by
  obtain ⟨hscript, ⟨hwrites, hidentities, hsleeps, hcreations, hidentityCreations⟩, hheeded,
    hsilent⟩ := h
  exact Heeded.fail (w := { w with ids := w.ids + 1 })
    ⟨hscript, ⟨hwrites, hidentities, hsleeps, hcreations, hidentityCreations⟩, hheeded, hsilent⟩ _

theorem nextWrite_heeds (h : Heeded s none w) {e : Event} (he : e.isWrite = true) :
    Heeds s (World.nextWrite (w.emit e)) := by
  have hcall : e.isCall = true := by cases e <;> first | rfl | cases he
  have hmeets : s.meets w.calls e = (w.script.write w.writes).failure := by
    rw [h.script, h.synced.writes]
    cases e <;> first | rfl | cases he
  have hsynced : ((w.emit e).answered ((w.emit e).script.write (w.emit e).writes)).Synced := by
    apply h.synced.push hcall rfl
    · rw [List.countP_singleton, he]
      rfl
    all_goals cases e <;> first | exact fun _ => rfl | rfl | cases he
  rw [World.nextWrite_eq]
  refine h.call hcall rfl rfl hsynced fun f hf => ?_
  rw [hmeets] at hf
  dsimp only [World.script_emit, World.writes_emit]
  rw [hf]
  rfl

theorem nextIdentity_heeds (h : Heeded s none w) (client : Nat) :
    Heeds s (World.nextIdentity (w.emit (.callerIdentity client))) := by
  have hmeets : s.meets w.calls (.callerIdentity client) =
      (w.script.identity w.identities).failure := by
    rw [h.script, h.synced.identities]
    rfl
  unfold World.nextIdentity World.answer
  dsimp only [World.script_emit]
  cases hf : (w.script.identity (w.emit (.callerIdentity client)).identities).failure <;>
    refine h.call (e := .callerIdentity client) rfl rfl rfl
      (h.synced.push rfl rfl rfl rfl rfl (fun _ => rfl) fun _ => rfl) fun f hf' => ?_
  · rw [hmeets] at hf'
    cases hf.symm.trans hf'
  · rw [hmeets] at hf'
    exact hf.symm.trans hf'

theorem sleep_heeds (h : Heeded s none w) (interval : Interval) :
    Heeds s (World.sleep interval w) := by
  have hmeets : s.meets w.calls (.sleep interval) = w.script.sleep w.sleeps := by
    rw [h.script, h.synced.sleeps]
    rfl
  rw [World.sleep_eq]
  unfold Script.pauseFailure?
  cases hf : w.script.sleep w.sleeps <;> cases interval.seconds? <;>
    refine h.call (e := .sleep interval) rfl rfl rfl
      (h.synced.push rfl rfl rfl rfl rfl (fun _ => rfl) fun _ => rfl) fun f hf' => ?_ <;>
    rw [hmeets, hf] at hf' <;> first | exact hf' | cases hf'

theorem createClient_heeds (h : Heeded s none w) (region : String) :
    Heeds s (World.createClient region w) := by
  have hmeets : s.meets w.calls (.create region) =
      w.script.create region (w.creations.count region) := by
    rw [h.script, h.synced.creations]
    rfl
  have hcount (r : String) : (region :: w.creations).count r =
      w.creations.count r + [Event.create region].countP (Event.isCreation r) := by
    rw [List.count_cons, List.countP_singleton]
    rfl
  rw [World.createClient_eq]
  cases hf : w.script.create region (w.creations.count region) <;>
    refine h.call (e := .create region) rfl rfl rfl
      (h.synced.push rfl rfl rfl rfl rfl hcount fun _ => rfl) fun f hf' => ?_ <;>
    rw [hmeets, hf] at hf' <;> exact hf'

theorem createIdentityClient_heeds (h : Heeded s none w) (region : String) :
    Heeds s (World.createIdentityClient region w) := by
  have hmeets : s.meets w.calls (.createIdentity region) =
      w.script.createIdentity region (w.identityCreations.count region) := by
    rw [h.script, h.synced.identityCreations]
    rfl
  have hcount (r : String) : (region :: w.identityCreations).count r =
      w.identityCreations.count r +
        [Event.createIdentity region].countP (Event.isIdentityCreation r) := by
    rw [List.count_cons, List.countP_singleton]
    rfl
  unfold World.createIdentityClient World.created
  dsimp only
  cases hf : w.script.createIdentity region (w.identityCreations.count region) <;>
    refine h.call (e := .createIdentity region) rfl rfl rfl
      (h.synced.push rfl rfl rfl rfl rfl (fun _ => rfl) hcount) fun f hf' => ?_ <;>
    rw [hmeets, hf] at hf' <;> exact hf'

end Facilities

end TableSeeder
