import TableSeeder.Proofs.Invariance

/-! The credential check as one attempt, or two with a pause between them: what an attempt makes of
its client and of the answer, and that nothing but an outage earns the second. -/

namespace TableSeeder

/-- What the next attempt will use: how many identity clients were to be created, how many clients
there are, and how many identities have been asked for. -/
structure Credentials.Counts where
  created : Nat
  clients : Nat
  asked : Nat

def World.counts (region : String) (w : World) : Credentials.Counts :=
  ⟨w.identityCreations.count region, w.clients, w.identities⟩

namespace World

@[simp] theorem identities_emit (w : World) (e : Event) :
    (w.emit e).identities = w.identities := rfl

def identified (w : World) (r : Reply) : World :=
  { w with clock := w.clock + r.cost, identities := w.identities + 1 }

theorem nextIdentity_eq (w : World) :
    World.nextIdentity w =
      ((match (w.script.identity w.identities).failure with
        | some f => .error f
        | none => .ok (w.script.identity w.identities).value),
        w.identified (w.script.identity w.identities)) := by
  unfold World.nextIdentity World.answer
  cases (w.script.identity w.identities).failure <;> rfl

def rested (w : World) (i : Interval) : World :=
  { w.emit (.sleep i) with
    clock := w.clock + i.seconds?.getD 0.0
    sleeps := w.sleeps + 1 }

theorem sleep_real (x : Float) (w : World) :
    World.sleep (.real x) w =
      match w.script.sleep w.sleeps with
      | some f => (.error f, { w.emit (.sleep (.real x)) with sleeps := w.sleeps + 1 })
      | none => (.ok (), w.rested (.real x)) := by
  rw [sleep_eq, Script.pauseFailure?_real]
  cases w.script.sleep w.sleeps <;> rfl

end World

namespace Credentials

inductive Transient : Failure → Prop where
  | endpoint (url : String) : Transient (.incident (.outage .endpoint url))
  | connectTimeout (url : String) : Transient (.incident (.outage .connectTimeout url))
  | readTimeout (url : String) : Transient (.incident (.outage .readTimeout url))

inductive Answered (reply : Reply) : Except Failure Value → Prop where
  | failed {f : Failure} (hfailure : reply.failure = some f) : Answered reply (.error f)
  | shapeless (hfailure : reply.failure = none) (hvalue : ∀ ms, reply.value ≠ .object ms) :
      Answered reply (.error (.noMember reply.value.typeName "get"))
  | unaccounted {ms : Members Value} (hfailure : reply.failure = none)
      (hvalue : reply.value = .object ms)
      (haccount : ∀ v, ms.get? "Account" = some v → v.truthy = false) :
      Answered reply (.error .noAccount)
  | accounted {ms : Members Value} {account : Value} (hfailure : reply.failure = none)
      (hvalue : reply.value = .object ms) (haccount : ms.get? "Account" = some account)
      (htruthy : account.truthy = true) : Answered reply (.ok account)

def records (region : String) : Except Failure Value → List Event
  | .ok account =>
    [.log ⟨"item_loader.infrastructure.credentials", 10, "Credentials resolved",
      [("account", account), ("region", .text region)]⟩]
  | .error _ => []

/-- One attempt: it asks through the client that was passed, or through a new one. -/
inductive Attempted (s : Script) (region : String) (client : Option Nat) (c : Counts) :
    Counts → List Event → Except Failure Value → Prop where
  | passed {n : Nat} {outcome : Except Failure Value} (hclient : client = some n)
      (hanswer : Answered (s.identity c.asked) outcome) :
      Attempted s region client c { c with asked := c.asked + 1 }
        (.callerIdentity n :: records region outcome) outcome
  | unbuilt {f : Failure} (hclient : client = none)
      (hcreate : s.createIdentity region c.created = some f) :
      Attempted s region client c { c with created := c.created + 1 } [.createIdentity region]
        (.error f)
  | built {outcome : Except Failure Value} (hclient : client = none)
      (hcreate : s.createIdentity region c.created = none)
      (hanswer : Answered (s.identity c.asked) outcome) :
      Attempted s region client c ⟨c.created + 1, c.clients + 1, c.asked + 1⟩
        (.createIdentity region :: .callerIdentity (c.clients + 1) :: records region outcome)
        outcome

/-- The whole check: an attempt, and, if an outage breaks it off, a pause and one more. -/
inductive Checked (s : Script) (region : String) (client : Option Nat) (c : Counts) (slept : Nat) :
    List Event → Except Failure Value → Prop where
  | settled {c' : Counts} {es : List Event} {outcome : Except Failure Value}
      (hattempt : Attempted s region client c c' es outcome)
      (hsettled : ∀ f, outcome = .error f → ¬ Transient f) :
      Checked s region client c slept es outcome
  | restless {c' : Counts} {es : List Event} {f g : Failure}
      (hattempt : Attempted s region client c c' es (.error f)) (hf : Transient f)
      (hsleep : s.sleep slept = some g) :
      Checked s region client c slept (es ++ [.sleep (.real 0.5)]) (.error g)
  | retried {c' c'' : Counts} {es es' : List Event} {f : Failure}
      {outcome : Except Failure Value} (hattempt : Attempted s region client c c' es (.error f))
      (hf : Transient f) (hsleep : s.sleep slept = none)
      (hretry : Attempted s region client c' c'' es' outcome) :
      Checked s region client c slept (es ++ .sleep (.real 0.5) :: es') outcome

def ask (region : String) (n : Nat) : Step Value := fun w =>
  match World.nextIdentity (w.emit (.callerIdentity n)) with
  | (.error f, w) => (.error f, w)
  | (.ok identity, w) =>
    match accountOf identity with
    | .error f => (.error f, w)
    | .ok account =>
      match World.log (resolved account region) w with
      | (.error f, w) => (.error f, w)
      | (.ok _, w) => (.ok account, w)

structure Advanced (region : String) (client : Option Nat) (w : World) (es : List Event)
    (result : Except Failure Value × World) : Prop where
  attempted : Attempted w.script region client (w.counts region) (result.2.counts region) es
    result.1
  trace : result.2.trace.toList = w.trace.toList ++ es
  script : result.2.script = w.script
  sleeps : result.2.sleeps = w.sleeps

structure Modest (region : String) (client : Option Nat) (attempts pauses : Nat)
    (es : List Event) (outcome : Except Failure Value) : Prop where
  asked_le : es.countP Event.isIdentity ≤ attempts
  asked_eq (n) (hclient : client = some n) : es.countP Event.isIdentity = attempts
  uncreated (n) (hclient : client = some n) (r) : es.countP (Event.isIdentityCreation r) = 0
  created (hclient : client = none) : es.countP (Event.isIdentityCreation region) = attempts
  slept : es.countP Event.isSleep = pauses
  recorded : (es.filter fun e => !e.isCall) = records region outcome

theorem isTransient_iff {f : Failure} : isTransient f = true ↔ Transient f := by
  constructor
  · intro h
    unfold isTransient at h
    split at h
    · exact .endpoint _
    · exact .connectTimeout _
    · exact .readTimeout _
    · cases h
  · rintro (url | url | url) <;> rfl

theorem answered_iff {reply : Reply} {outcome : Except Failure Value} :
    Answered reply outcome ↔ outcome =
      match reply.failure with
      | some f => .error f
      | none => accountOf reply.value := by
  constructor
  · rintro (hfailure | ⟨hfailure, hvalue⟩ | ⟨hfailure, hvalue, haccount⟩ |
      ⟨hfailure, hvalue, haccount, htruthy⟩)
    · rw [hfailure]
    · rw [hfailure]
      cases hv : reply.value with
      | object ms => exact absurd hv (hvalue ms)
      | _ => rfl
    · rename_i ms
      rw [hfailure, hvalue]
      dsimp only [accountOf]
      cases hv : ms.get? "Account" with
      | none => rfl
      | some v => simp [haccount v hv]
    · rw [hfailure, hvalue]
      simp [accountOf, haccount, htruthy]
  · rintro rfl
    cases hfailure : reply.failure with
    | some f => exact .failed hfailure
    | none =>
      dsimp only
      unfold accountOf
      split
      · rename_i ms hvalue
        split
        · rename_i account haccount
          split
          · rename_i htruthy
            exact .accounted hfailure hvalue haccount htruthy
          · rename_i hfalsy
            refine .unaccounted hfailure hvalue fun v hv => ?_
            rw [← Option.some.inj (haccount.symm.trans hv)]
            exact eq_false_of_ne_true hfalsy
        · rename_i hmissing
          refine .unaccounted hfailure hvalue fun v hv => ?_
          cases hmissing.symm.trans hv
      · rename_i v hvalue
        exact .shapeless hfailure hvalue

section Unique

variable {s : Script} {region : String} {client : Option Nat} {c c' c'' : Counts} {slept : Nat}
  {es es' : List Event} {outcome outcome' : Except Failure Value}

theorem Answered.unique {reply : Reply} (h : Answered reply outcome)
    (h' : Answered reply outcome') : outcome = outcome' :=
  (answered_iff.mp h).trans (answered_iff.mp h').symm

theorem Attempted.unique (h : Attempted s region client c c' es outcome)
    (h' : Attempted s region client c c'' es' outcome') :
    c' = c'' ∧ es = es' ∧ outcome = outcome' := by
  cases h with
  | passed hclient hanswer =>
    cases h' with
    | passed hclient' hanswer' =>
      obtain rfl := Option.some.inj (hclient.symm.trans hclient')
      obtain rfl := hanswer.unique hanswer'
      exact ⟨rfl, rfl, rfl⟩
    | unbuilt hclient' _ => cases hclient.symm.trans hclient'
    | built hclient' _ _ => cases hclient.symm.trans hclient'
  | unbuilt hclient hcreate =>
    cases h' with
    | passed hclient' _ => cases hclient.symm.trans hclient'
    | unbuilt _ hcreate' =>
      obtain rfl := Option.some.inj (hcreate.symm.trans hcreate')
      exact ⟨rfl, rfl, rfl⟩
    | built _ hcreate' _ => cases hcreate.symm.trans hcreate'
  | built hclient hcreate hanswer =>
    cases h' with
    | passed hclient' _ => cases hclient.symm.trans hclient'
    | unbuilt _ hcreate' => cases hcreate.symm.trans hcreate'
    | built _ _ hanswer' =>
      obtain rfl := hanswer.unique hanswer'
      exact ⟨rfl, rfl, rfl⟩

theorem Checked.unique (h : Checked s region client c slept es outcome)
    (h' : Checked s region client c slept es' outcome') : es = es' ∧ outcome = outcome' := by
  cases h with
  | settled hattempt hsettled =>
    cases h' with
    | settled hattempt' _ => exact (hattempt.unique hattempt').2
    | restless hattempt' hf _ =>
      exact absurd hf (hsettled _ (hattempt.unique hattempt').2.2)
    | retried hattempt' hf _ _ =>
      exact absurd hf (hsettled _ (hattempt.unique hattempt').2.2)
  | restless hattempt hf hsleep =>
    cases h' with
    | settled hattempt' hsettled =>
      exact absurd hf (hsettled _ (hattempt.unique hattempt').2.2.symm)
    | restless hattempt' _ hsleep' =>
      obtain ⟨-, rfl, -⟩ := hattempt.unique hattempt'
      obtain rfl := Option.some.inj (hsleep.symm.trans hsleep')
      exact ⟨rfl, rfl⟩
    | retried _ _ hsleep' _ => cases hsleep.symm.trans hsleep'
  | retried hattempt hf hsleep hretry =>
    cases h' with
    | settled hattempt' hsettled =>
      exact absurd hf (hsettled _ (hattempt.unique hattempt').2.2.symm)
    | restless _ _ hsleep' => cases hsleep.symm.trans hsleep'
    | retried hattempt' _ _ hretry' =>
      obtain ⟨rfl, rfl, -⟩ := hattempt.unique hattempt'
      obtain ⟨-, rfl, rfl⟩ := hretry.unique hretry'
      exact ⟨rfl, rfl⟩

end Unique

section Steps

variable {w : World} (hw : w.script.Logs) (region : String)
include hw

theorem ask_eq (n : Nat) :
    ask region n w =
      let reply := w.script.identity w.identities
      let outcome := match reply.failure with
        | some f => .error f
        | none => accountOf reply.value
      (outcome, ((w.emit (.callerIdentity n)).identified reply).emitAll
        (records region outcome)) := by
  rw [ask, World.nextIdentity_eq, World.script_emit, World.identities_emit]
  dsimp only
  generalize hasked : (w.emit (.callerIdentity n)).identified
    (w.script.identity w.identities) = asked
  have hlogs : asked.script.Logs := by
    rw [← hasked]
    exact hw
  cases (w.script.identity w.identities).failure with
  | some f => rfl
  | none =>
    dsimp only
    cases accountOf (w.script.identity w.identities).value with
    | error f => rfl
    | ok account =>
      dsimp only
      rw [World.log_eq hlogs (resolved_plain account region)]
      rfl

theorem ask_spec (n : Nat) :
    let result := ask region n w
    Answered (w.script.identity w.identities) result.1 ∧
      result.2.trace.toList =
        w.trace.toList ++ .callerIdentity n :: records region result.1 ∧
      result.2.script = w.script ∧ result.2.sleeps = w.sleeps ∧
      result.2.counts region = { w.counts region with asked := w.identities + 1 } := by
  intro result
  have hresult : result = _ := ask_eq hw region n
  have hanswer : Answered (w.script.identity w.identities) result.1 := by
    rw [hresult]
    exact answered_iff.mpr rfl
  have hworld : result.2 = ((w.emit (.callerIdentity n)).identified
      (w.script.identity w.identities)).emitAll (records region result.1) := by
    rw [hresult]
  refine ⟨hanswer, ?_⟩
  rw [hworld]
  refine ⟨?_, World.script_emitAll _ _, ?_⟩
  · rw [World.trace_emitAll]
    exact (congrArg (· ++ _) (World.trace_emit w _)).trans (List.append_assoc _ _ _)
  · cases result.1 <;> exact ⟨rfl, rfl⟩

theorem attempt_advances (client : Option Nat) :
    ∃ es, Advanced region client w es (attempt region client w) := by
  cases client with
  | some n =>
    obtain ⟨hanswer, htrace, hscript, hsleeps, hcounts⟩ := ask_spec hw region n
    have hattempt : attempt region (some n) w = ask region n w := rfl
    rw [hattempt]
    refine ⟨_, ?_, htrace, hscript, hsleeps⟩
    rw [hcounts]
    exact .passed rfl hanswer
  | none =>
    -- the creation is counted before it is known whether it succeeds
    let tried : World := { w.emit (.createIdentity region) with
      identityCreations := region :: w.identityCreations }
    have htried : tried.counts region = { w.counts region with
        created := (w.counts region).created + 1 } := by
      rw [World.counts, List.count_cons_self]
      rfl
    cases hcreate : w.script.createIdentity region (w.identityCreations.count region) with
    | some f =>
      have hattempt : attempt region none w = (.error f, tried) := by
        rw [attempt, identityClient, World.createIdentityClient, hcreate]
        rfl
      rw [hattempt]
      refine ⟨_, ?_, World.trace_emit w _, rfl, rfl⟩
      dsimp only
      rw [htried]
      exact .unbuilt rfl hcreate
    | none =>
      let built : World := { tried with clients := w.clients + 1 }
      have hattempt : attempt region none w = ask region (w.clients + 1) built := by
        rw [attempt, identityClient, World.createIdentityClient, hcreate]
        rfl
      have hlogs : built.script.Logs := hw
      obtain ⟨hanswer, htrace, hscript, hsleeps, hcounts⟩ :=
        ask_spec hlogs region (w.clients + 1)
      have hbuilt : built.counts region = ⟨(w.counts region).created + 1, w.clients + 1,
          w.identities⟩ := congrArg (fun c : Counts => { c with clients := w.clients + 1 }) htried
      rw [hattempt]
      refine ⟨.createIdentity region :: .callerIdentity (w.clients + 1) ::
        records region (ask region (w.clients + 1) built).1, ?_, ?_, hscript, hsleeps⟩
      · rw [hcounts, hbuilt]
        exact .built rfl hcreate hanswer
      · rw [htrace]
        exact (congrArg (· ++ _) (World.trace_emit w _)).trans (List.append_assoc _ _ _)

theorem retry_advances {client : Option Nat} {es : List Event} {f : Failure} {w' : World}
    (h : Advanced region client w es (.error f, w')) :
    let result := attempt region client (w'.rested pause)
    ∃ c es', result.2.trace.toList = w.trace.toList ++ (es ++ .sleep (.real 0.5) :: es') ∧
      Attempted w.script region client (w'.counts region) c es' result.1 := by
  intro result
  have hscript : (w'.rested pause).script = w.script := h.script
  have hlogs : (w'.rested pause).script.Logs := by
    rw [hscript]
    exact hw
  have htrace : (w'.rested pause).trace.toList = w.trace.toList ++ es ++ [.sleep (.real 0.5)] := by
    rw [← h.trace]
    exact World.trace_emit w' _
  obtain ⟨es', hretry⟩ := attempt_advances hlogs region client
  have hretried := hretry.attempted
  rw [hscript] at hretried
  refine ⟨_, es', ?_, hretried⟩
  rw [hretry.trace, htrace, List.append_assoc, List.append_assoc]
  rfl

theorem check_checked (client : Option Nat) :
    ∃ es, (check region client w).2.trace.toList = w.trace.toList ++ es ∧
      Checked w.script region client (w.counts region) w.sleeps es (check region client w).1 := by
  obtain ⟨es, hattempt⟩ := attempt_advances hw region client
  rw [check]
  generalize attempt region client w = first at hattempt
  obtain ⟨f | account, w'⟩ := first
  · dsimp only
    by_cases hf : isTransient f = true
    · have houtage : Transient f := isTransient_iff.mp hf
      rw [if_pos hf, pause, World.sleep_real, hattempt.script, hattempt.sleeps]
      cases hsleep : w.script.sleep w.sleeps with
      | some g =>
        refine ⟨_, ?_, .restless hattempt.attempted houtage hsleep⟩
        rw [← List.append_assoc, ← hattempt.trace]
        exact World.trace_emit w' _
      | none =>
        obtain ⟨c, es', htrace, hretry⟩ := retry_advances hw region hattempt
        exact ⟨_, htrace, .retried hattempt.attempted houtage hsleep hretry⟩
    · rw [if_neg hf]
      refine ⟨es, hattempt.trace, .settled hattempt.attempted fun g hg => ?_⟩
      rwa [← isTransient_iff, ← Except.error.inj hg]
  · refine ⟨es, hattempt.trace, .settled hattempt.attempted fun g hg => ?_⟩
    cases hg

end Steps

section Counting

variable {s : Script} {region : String} {client : Option Nat} {c c' : Counts} {slept : Nat}
  {es es' : List Event} {outcome : Except Failure Value} {attempts pauses : Nat}

theorem countP_records {p : Event → Bool} (hp : ∀ e, p (.log e) = false) (region : String)
    (outcome : Except Failure Value) : (records region outcome).countP p = 0 := by
  cases outcome with
  | error f => rfl
  | ok account => rw [records, List.countP_singleton, hp, if_neg Bool.false_ne_true]

theorem filter_records (region : String) (outcome : Except Failure Value) :
    ((records region outcome).filter fun e => !e.isCall) = records region outcome := by
  cases outcome <;> rfl

theorem Attempted.modest (h : Attempted s region client c c' es outcome) :
    Modest region client 1 0 es outcome := by
  have hasked (n : Nat) :
      (Event.callerIdentity n :: records region outcome).countP Event.isIdentity = 1 := by
    rw [List.countP_cons_of_pos rfl, countP_records fun _ => rfl]
  have hcreated (r : String) :=
    countP_records (p := Event.isIdentityCreation r) (fun _ => rfl) region
  have hslept := countP_records (p := Event.isSleep) (fun _ => rfl) region
  cases h with
  | passed hclient hanswer =>
    refine ⟨Nat.le_of_eq (hasked _), fun _ _ => hasked _, ?_, ?_, ?_, ?_⟩
    · simp [hcreated, Event.isIdentityCreation]
    · simp [hclient]
    · simp [hslept, Event.isSleep]
    · exact filter_records region outcome
  | unbuilt hclient hcreate =>
    refine ⟨Nat.zero_le 1, ?_, ?_, ?_, rfl, rfl⟩
    · simp [hclient]
    · simp [hclient]
    · simp [Event.isIdentityCreation]
  | built hclient hcreate hanswer =>
    refine ⟨?_, ?_, ?_, ?_, ?_, ?_⟩
    · rw [List.countP_cons_of_neg Bool.false_ne_true]
      exact Nat.le_of_eq (hasked _)
    · simp [hclient]
    · simp [hclient]
    · simp [hcreated, Event.isIdentityCreation]
    · simp [hslept, Event.isSleep]
    · exact filter_records region outcome

theorem modest_nil (f : Failure) : Modest region client 0 0 [] (.error f) :=
  ⟨Nat.le_refl 0, fun _ _ => rfl, fun _ _ _ => rfl, fun _ => rfl, rfl, rfl⟩

theorem Modest.append {f : Failure} (h : Modest region client 1 0 es (.error f))
    (h' : Modest region client attempts pauses es' outcome) :
    Modest region client (attempts + 1) (pauses + 1) (es ++ .sleep (.real 0.5) :: es')
      outcome := by
  have hcount (p : Event → Bool) (hp : p (.sleep (.real 0.5)) = false) :
      (es ++ .sleep (.real 0.5) :: es').countP p = es'.countP p + es.countP p := by
    rw [List.countP_append, List.countP_cons_of_neg (by simp [hp]), Nat.add_comm]
  refine ⟨?_, fun n hn => ?_, fun n hn r => ?_, fun hn => ?_, ?_, ?_⟩
  · rw [hcount _ rfl]
    exact Nat.add_le_add h'.asked_le h.asked_le
  · rw [hcount _ rfl, h'.asked_eq n hn, h.asked_eq n hn]
  · rw [hcount _ rfl, h'.uncreated n hn r, h.uncreated n hn r]
  · rw [hcount _ rfl, h'.created hn, h.created hn]
  · rw [List.countP_append, List.countP_cons_of_pos rfl, h.slept, h'.slept, Nat.zero_add]
  · rw [List.filter_append, h.recorded, List.filter_cons_of_neg (by simp), h'.recorded]
    rfl

theorem Checked.modest (h : Checked s region client c slept es outcome) :
    ∃ attempts pauses, attempts ≤ pauses + 1 ∧ pauses ≤ 1 ∧
      Modest region client attempts pauses es outcome := by
  cases h with
  | settled hattempt _ => exact ⟨1, 0, by decide, by decide, hattempt.modest⟩
  | restless hattempt _ _ =>
    exact ⟨1, 1, by decide, by decide, hattempt.modest.append (modest_nil _)⟩
  | retried hattempt _ _ hretry =>
    exact ⟨2, 1, by decide, by decide, hattempt.modest.append hretry.modest⟩

end Counting

/-- The check is settled by its first attempt unless an outage breaks that off; then it pauses and
is settled by a second. -/
theorem check_retries_once {w : World} (hw : w.script.Logs) (region : String)
    (client : Option Nat) :
    let result := check region client w
    ∃ es attempts pauses, result.2.trace.toList = w.trace.toList ++ es ∧
      (∀ es' outcome, Checked w.script region client (w.counts region) w.sleeps es' outcome ↔
        es' = es ∧ outcome = result.1) ∧
      attempts ≤ pauses + 1 ∧ pauses ≤ 1 ∧
      Modest region client attempts pauses es result.1 := by
  intro result
  obtain ⟨es, htrace, hchecked⟩ := check_checked hw region client
  obtain ⟨attempts, pauses, hattempts, hpauses, hmodest⟩ := hchecked.modest
  refine ⟨es, attempts, pauses, htrace, fun es' outcome => ?_, hattempts, hpauses, hmodest⟩
  constructor
  · intro h
    exact h.unique hchecked
  · rintro ⟨rfl, rfl⟩
    exact hchecked

theorem check_retries_once_unreached :
    let w : World := { script := { Script.replying [] with
      identity := fun k =>
        if k = 0 then { failure := some (.incident (.outage .endpoint "https://sts")) }
        else { value := .object [("Account", .text "123")] } } }
    let result := check "eu-west-1" none w
    w.script.Logs ∧ result.1 = .ok (.text "123") ∧
      result.2.trace.toList = w.trace.toList ++
        [.createIdentity "eu-west-1", .callerIdentity 1, .sleep (.real 0.5),
          .createIdentity "eu-west-1", .callerIdentity 2,
          .log ⟨"item_loader.infrastructure.credentials", 10, "Credentials resolved",
            [("account", .text "123"), ("region", .text "eu-west-1")]⟩] := by
  intro w result
  have hlogs : w.script.Logs := fun _ _ => rfl
  have hfirst : Attempted w.script "eu-west-1" none (w.counts "eu-west-1") _ _ _ :=
    .built rfl rfl (.failed rfl)
  have hsecond : Attempted w.script "eu-west-1" none ⟨1, 1, 1⟩ _ _ _ :=
    .built rfl rfl (.accounted rfl rfl rfl rfl)
  obtain ⟨es, -, -, htrace, hchecked, -⟩ := check_retries_once hlogs "eu-west-1" none
  obtain ⟨hes, houtcome⟩ := (hchecked _ _).mp (.retried hfirst (.endpoint _) rfl hsecond)
  rw [← hes] at htrace
  exact ⟨hlogs, houtcome.symm, htrace⟩

end Credentials

end TableSeeder
