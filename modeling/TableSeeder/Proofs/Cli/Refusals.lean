import TableSeeder.Proofs.Invariance
import TableSeeder.Proofs.Log.Writing

/-! What the command line and the settings let through is good enough for every run: no run that a
command starts is refused, whatever the surroundings do. -/

namespace TableSeeder

inductive Script.Raises (s : Script) : Failure → Prop where
  | id {k : Nat} {f : Failure} (h : s.id k = .error f) : s.Raises f
  | write {k : Nat} {f : Failure} (h : (s.write k).failure = some f) : s.Raises f
  | identity {k : Nat} {f : Failure} (h : (s.identity k).failure = some f) : s.Raises f
  | sleep {k : Nat} {f : Failure} (h : s.sleep k = some f) : s.Raises f
  | create {region : String} {k : Nat} {f : Failure} (h : s.create region k = some f) : s.Raises f
  | createIdentity {region : String} {k : Nat} {f : Failure}
      (h : s.createIdentity region k = some f) : s.Raises f
  | log {e : Log.Entry} {f : Failure} (h : s.log e = some f) : s.Raises f

/-- If what has failed is a refusal, then it comes from the surroundings. -/
structure Unrefused (s : Script) (failure? : Option Failure) (w : World) : Prop where
  script : w.script = s
  raised (f : Failure) : failure? = some f → f.isRefusal = true → s.Raises f

namespace Unrefused

variable {s : Script} {w w' : World}

theorem going (h : w.script = s) : Unrefused s none w := ⟨h, fun _ => nofun⟩

theorem raises {f : Failure} (h : w.script = s) (hf : s.Raises f) : Unrefused s (some f) w := by
  refine ⟨h, fun g hg _ => ?_⟩
  rwa [← Option.some.inj hg]

theorem own {f : Failure} (h : w.script = s) (hf : f.isRefusal = false) :
    Unrefused s (some f) w := by
  refine ⟨h, fun g hg hrefusal => ?_⟩
  rw [← Option.some.inj hg, hf] at hrefusal
  cases hrefusal

theorem sleep (h : w.script = s) (interval : Interval) :
    Leaves (Unrefused s) (World.sleep interval w) := by
  rw [World.sleep_eq, h]
  unfold Script.pauseFailure?
  cases hsleep : s.sleep w.sleeps with
  | some f => exact raises h (.sleep hsleep)
  | none =>
    cases interval.seconds? with
    | none => exact own h rfl
    | some x => exact going h

theorem nextIdentity (h : w.script = s) (e : Event) :
    Leaves (Unrefused s) (World.nextIdentity (w.emit e)) := by
  unfold World.nextIdentity World.answer
  dsimp only [World.script_emit]
  rw [h]
  cases hanswer : (s.identity (w.emit e).identities).failure with
  | some f => exact raises rfl (.identity hanswer)
  | none => exact going rfl

theorem createIdentityClient (h : w.script = s) (region : String) :
    Leaves (Unrefused s) (World.createIdentityClient region w) := by
  unfold World.createIdentityClient World.created
  dsimp only
  rw [h]
  cases hcreate : s.createIdentity region (w.identityCreations.count region) with
  | some f => exact raises h (.createIdentity hcreate)
  | none => exact going h

theorem asRejection_of_isRefusal {f : Failure}
    (h : (Table.asRejection f).isRefusal = true) : Table.asRejection f = f := by
  cases f with
  | incident i => cases i <;> first | rfl | cases h
  | _ => rfl

end Unrefused

open Unrefused in
theorem unrefused_invariant (s : Script) : StepInvariant (Unrefused s) where
  nextId {w} h := by
    unfold World.nextId
    rw [h.script]
    cases hid : s.id w.ids with
    | error f => exact raises rfl (.id hid)
    | ok id => exact going rfl
  nextWrite {w e} _ h := by
    rw [World.nextWrite_eq]
    dsimp only [World.script_emit, World.writes_emit]
    rw [h.script]
    cases hwrite : (s.write w.writes).failure with
    | some f => exact raises h.script (.write hwrite)
    | none => exact going h.script
  nextIdentity client h := nextIdentity h.script _
  sleep interval h := sleep h.script interval
  createClient {w} region h := by
    rw [World.createClient_eq, h.script]
    cases hcreate : s.create region (w.creations.count region) with
    | some f => exact raises h.script (.create hcreate)
    | none => exact going h.script
  createIdentityClient region h := createIdentityClient h.script region
  log {w e} _ h := by
    unfold World.log
    rw [h.script]
    cases hlog : s.log e with
    | some f => exact raises h.script (.log hlog)
    | none => exact going h.script
  logFailing {w e f} _ h := by
    unfold World.logFailing World.log
    rw [h.script]
    cases hlog : s.log e with
    | some g => exact raises h.script (.log hlog)
    | none => exact ⟨h.script, h.raised⟩
  echo _ h := ⟨h.script, h.raised⟩
  fail hf h := own h.script hf
  reject {w f} h := by
    refine ⟨h.script, fun g hg hrefusal => ?_⟩
    obtain rfl := Option.some.inj hg
    -- the store makes a refusal of nothing but this refusal
    have hsame := asRejection_of_isRefusal hrefusal
    rw [hsame] at hrefusal ⊢
    exact h.raised f rfl hrefusal
  overcome _ h := going h.script

namespace Cli

variable {args : List String} {sources : Settings.Sources} {wall : Float} {c : Command}
  {s : Settings}

theorem not_isRefusal_of_failure? {setup : Log.Setup} {e : Log.Entry} {f : Failure}
    (h : setup.failure? wall e = some f) : f.isRefusal = false := by
  unfold Log.Setup.failure? at h
  split at h
  · obtain rfl := Option.some.inj h
    rfl
  · cases h

theorem raises_of_logged {setup : Log.Setup} {w : World} {f : Failure}
    (h : (logged setup wall w).script.Raises f) (hf : f.isRefusal = true) : w.script.Raises f := by
  cases h with
  | id h => exact .id h
  | write h => exact .write h
  | identity h => exact .identity h
  | sleep h => exact .sleep h
  | create h => exact .create h
  | createIdentity h => exact .createIdentity h
  | log h =>
    rw [not_isRefusal_of_failure? h] at hf
    cases hf

theorem eq_of_escaped {outcome : Except Failure Unit} {f : Failure}
    (h : Exit.ofOutcome outcome = .escaped f) : outcome = .error f := by
  unfold Exit.ofOutcome at h
  split at h
  · cases h
  · cases h
  · cases h
  · rw [Exit.escaped.inj h]

theorem not_isRefusal_of_setupFor {f : Failure} (h : setupFor c s = .error f) :
    f.isRefusal = false := by
  unfold setupFor at h
  split at h
  · cases hlevel : Log.Level.ofName? s.logLevel with
    | none =>
      rw [Log.Setup.configure_unknown hlevel] at h
      obtain rfl := Except.error.inj h
      rfl
    | some n =>
      obtain ⟨setup, hsetup, -⟩ :=
        Log.Setup.configure_known (Option.isSome_iff_exists.mpr ⟨n, hlevel⟩) {} s.logJson
      rw [hsetup] at h
      cases h
  · cases h

theorem not_isRefusal_of_complain {messages : List String} {f : Failure} {es : List Event}
    (h : complain wall messages = (some f, es)) : f.isRefusal = false := by
  induction messages generalizing es with
  | nil => cases h
  | cons message messages ih =>
    unfold complain at h
    split at h
    · obtain ⟨hf, -⟩ := Prod.mk.inj h
      obtain rfl := Option.some.inj hf
      rfl
    · obtain ⟨hf, -⟩ := Prod.mk.inj h
      exact ih (Prod.ext hf rfl)

theorem raises_of_execute (hgood : c.badArgument? s = none) {w : World} {f : Failure}
    (h : (execute c s wall w).1 = .escaped f) (hf : f.isRefusal = true) : w.script.Raises f := by
  unfold execute at h
  split at h
  · rename_i hsetup
    obtain rfl := Exit.escaped.inj h
    rw [not_isRefusal_of_setupFor hsetup] at hf
    cases hf
  · rename_i setup _
    obtain ⟨w', hunrefused, -⟩ := (unrefused_invariant (logged setup wall w).script).perform
      (Unrefused.going rfl) c s hgood
    rw [eq_of_escaped h] at hunrefused
    exact raises_of_logged (hunrefused.raised f rfl hf) hf

/-- The arguments of a run are good whichever way they come, and so no run is refused. -/
theorem runProgram_unrefused (hparse : parse args = .ok c) (hload : Settings.load sources = .ok s)
    (wall : Float) (w : World) :
    s.Sound ∧ s.interval.isNaN = false ∧ c.badArgument? s = none ∧
      ∀ f, (runProgram args sources wall w).1 = .escaped f → f.isRefusal = true →
        w.script.Raises f := by
  have hsound := Settings.sound_of_load hload
  have hgood := good_of_parse hparse hload
  refine ⟨hsound, Interval.isNaN_of_zero_le hsound.interval, hgood, fun f h hf => ?_⟩
  unfold runProgram executeWith at h
  rw [hparse, hload] at h
  dsimp only at h
  split at h
  · rename_i hcomplain
    obtain rfl := Exit.escaped.inj h
    rw [not_isRefusal_of_complain hcomplain] at hf
    cases hf
  · exact raises_of_execute hgood h hf

theorem runProgram_unrefused_least :
    let sources : Settings.Sources :=
      { environment := [("ITEM_LOADER_ITERATIONS", "1"), ("item_loader_interval", "-0.0")] }
    let s : Settings := { iterations := 1, interval := -0.0 }
    (parse ["run"] = .ok (.run none none) ∧ Settings.load sources = .ok s) ∧
      s.Sound ∧ s.interval.isNaN = false ∧ (Command.run none none).badArgument? s = none ∧
      ∀ f, (runProgram ["run"] sources 1700000000.0 .troubled).1 = .escaped f →
        f.isRefusal = true → World.troubled.script.Raises f := by
  have hparse : parse ["run"] = .ok (.run none none) := rfl
  have hload : Settings.load
        { environment := [("ITEM_LOADER_ITERATIONS", "1"), ("item_loader_interval", "-0.0")] } =
      .ok { iterations := 1, interval := -0.0 } := rfl
  exact ⟨⟨hparse, hload⟩, runProgram_unrefused hparse hload 1700000000.0 .troubled⟩

end Cli

end TableSeeder
