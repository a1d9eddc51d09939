import Mathlib.Data.List.Nodup
import Mathlib.Data.List.Range
import TableSeeder.Proofs.Registry.Visits

/-! The clients of a session through any sequence of demands: which are kept, which have been
closed, and that each client that has ever been created is one or the other. -/

namespace TableSeeder

open Visit

/-- The books about the clients of a session after the visits made so far. -/
structure Ledger (start : World) (past : List Visit) (s : Session) (w : World) : Prop where
  script : w.script = start.script
  clients : s.registry.clients = kept past
  regions : (kept past).keys.Nodup
  attempts (region) : w.creations.count region =
    start.creations.count region + (past.flatMap attempts).count region
  total : w.clients = start.clients + (past.flatMap built).length
  numbers : (past.flatMap built).map Prod.snd =
    List.range' (start.clients + 1) (past.flatMap built).length
  sublist : (past.flatMap closed ++ kept past).Sublist (past.flatMap built)
  balance : (∀ v ∈ past, v.demand.Quiet) → past.flatMap closed ++ kept past = past.flatMap built

structure Entry (past : List Visit) (w : World) (v : Visit) : Prop where
  script : v.left.2.script = w.script
  clients : v.left.1.registry.clients = kept (past ++ [v])
  regions : (kept (past ++ [v])).keys.Nodup
  attempts (region) : v.left.2.creations.count region =
    w.creations.count region + v.attempts.count region
  total : v.left.2.clients = w.clients + v.built.length
  numbers : v.built.map Prod.snd = List.range' (w.clients + 1) v.built.length
  sublist : (v.closed ++ kept (past ++ [v])).Sublist (kept past ++ v.built)
  balance : v.demand.Quiet → v.closed ++ kept (past ++ [v]) = kept past ++ v.built

namespace Registry

theorem findSome?_of_quiet {fails : String → Option Failure} (h : (Demand.closeAll fails).Quiet)
    (ms : Members Nat) : ms.findSome? (interruption? fails) = none := by
  rw [List.findSome?_eq_none_iff]
  intro m _
  rw [interruption?, Option.filter_eq_none_iff]
  intro f hf
  rw [h m.1 f hf]
  exact Bool.false_ne_true

theorem closed_closing (fails : String → Option Failure) (m : String × Nat) :
    (closing fails m).filterMap Event.closed? = [m] := by
  unfold closing
  cases fails m.1 with
  | none => rfl
  | some f =>
    dsimp only
    cases f.isInterrupt <;> rfl

theorem created_closing (fails : String → Option Failure) (m : String × Nat) :
    (closing fails m).filterMap Event.created? = [] := by
  unfold closing
  cases fails m.1 with
  | none => rfl
  | some f =>
    dsimp only
    cases f.isInterrupt <;> rfl

end Registry

/-- Which clients have been built, closed and kept: none is built or closed twice or kept when it
has been closed, and unless an interrupt ends a closing, each one is closed or kept. -/
structure Visit.Accounts (vs : List Visit) : Prop where
  distinct : ((vs.flatMap built).map Prod.snd).Nodup
  once : ((vs.flatMap closed ++ kept vs).map Prod.snd).Nodup
  sublist : (vs.flatMap closed ++ kept vs).Sublist (vs.flatMap built)
  balance : (∀ v ∈ vs, v.demand.Quiet) → vs.flatMap closed ++ kept vs = vs.flatMap built

namespace Ledger

variable {start : World} {past : List Visit} {s : Session} {w : World} {v : Visit}

theorem initial (environment : Members String) (file : Option String) :
    Ledger start [] { environment, file } start where
  script := rfl
  clients := rfl
  regions := List.nodup_nil
  attempts _ := rfl
  total := rfl
  numbers := rfl
  sublist := .slnil
  balance _ := rfl

theorem add (h : Ledger start past s w) (e : Entry past w v) :
    Ledger start (past ++ [v]) v.left.1 v.left.2 where
  script := e.script.trans h.script
  clients := e.clients
  regions := e.regions
  attempts region := by
    rw [e.attempts, h.attempts, List.flatMap_append, List.flatMap_singleton, List.count_append,
      Nat.add_assoc]
  total := by
    rw [e.total, h.total, List.flatMap_append, List.flatMap_singleton, List.length_append,
      Nat.add_assoc]
  numbers := by
    rw [List.flatMap_append, List.flatMap_singleton, List.map_append, List.length_append,
      h.numbers, e.numbers, h.total, ← List.range'_append_1]
    congr 2
    omega
  sublist := by
    rw [List.flatMap_append, List.flatMap_append, List.flatMap_singleton, List.flatMap_singleton,
      List.append_assoc]
    have hv := e.sublist.append_left (past.flatMap Visit.closed)
    rw [← List.append_assoc _ (kept past)] at hv
    exact hv.trans (h.sublist.append_right v.built)
  balance hquiet := by
    have hpast := h.balance fun v hv => hquiet v (List.mem_append_left _ hv)
    have hv := e.balance (hquiet v (List.mem_append_right _ List.mem_cons_self))
    rw [List.flatMap_append, List.flatMap_append, List.flatMap_singleton, List.flatMap_singleton,
      List.append_assoc, hv, ← List.append_assoc, hpast]

theorem add_open (h : Ledger start past v.found.1 v.found.2) (hcloses : v.closes = false)
    (hclosed : v.closed = [])
    (hclients : v.left.1.registry.clients = v.found.1.registry.clients ++ v.built)
    (hregions : (kept past ++ v.built).keys.Nodup)
    (hscript : v.left.2.script = v.found.2.script)
    (hattempts : ∀ region, v.left.2.creations.count region =
      v.found.2.creations.count region + v.attempts.count region)
    (htotal : v.left.2.clients = v.found.2.clients + v.built.length)
    (hnumbers : v.built.map Prod.snd = List.range' (v.found.2.clients + 1) v.built.length) :
    kept (past ++ [v]) = kept past ++ v.built ∧
      Ledger start (past ++ [v]) v.left.1 v.left.2 := by
  have hkept : kept (past ++ [v]) = kept past ++ v.built := by
    rw [kept_concat, hcloses, if_neg Bool.false_ne_true]
  have hbalance : v.closed ++ kept (past ++ [v]) = kept past ++ v.built := by
    rw [hclosed, hkept, List.nil_append]
  refine ⟨hkept, h.add ⟨hscript, ?_, ?_, hattempts, htotal, hnumbers, ?_, fun _ => hbalance⟩⟩
  · rw [hclients, h.clients, hkept]
  · rw [hkept]
    exact hregions
  · rw [hbalance]

theorem add_still (h : Ledger start past v.found.1 v.found.2) (hcloses : v.closes = false)
    (hworld : v.left.2 = v.found.2)
    (hregistry : v.left.1.registry = v.found.1.registry) :
    kept (past ++ [v]) = kept past ∧ Ledger start (past ++ [v]) v.left.1 v.left.2 := by
  have hevents : v.events = [] := events_eq (by rw [hworld, List.append_nil])
  have hattempts : v.attempts = [] := by rw [Visit.attempts, hevents, List.filterMap_nil]
  have hbuilt : v.built = [] := by rw [built, hattempts]
  have hclosed : v.closed = [] := by rw [closed, hevents, List.filterMap_nil]
  have hadd := h.add_open hcloses hclosed
  rw [hattempts, hbuilt, List.append_nil, List.append_nil, hworld, hregistry] at hadd
  rw [hworld]
  exact hadd rfl h.regions rfl (fun _ => rfl) rfl rfl

theorem add_attempt (h : Ledger start past v.found.1 v.found.2) (hcloses : v.closes = false)
    {region : String} (hnone : (kept past).get? region = none)
    (hevents : v.events = [.create region])
    (hworld : v.left.2 =
      { v.found.2.attempted region with clients := v.found.2.clients + v.built.length })
    (hbuilt : v.built = [] ∨ v.built = [(region, v.found.2.clients + 1)])
    (hclients : v.left.1.registry.clients = v.found.1.registry.clients ++ v.built) :
    kept (past ++ [v]) = kept past ++ v.built ∧
      Ledger start (past ++ [v]) v.left.1 v.left.2 := by
  have hclosed : v.closed = [] := by
    rw [closed, hevents]
    rfl
  apply h.add_open hcloses hclosed hclients
  · have hnew := Members.get?_eq_none.mp hnone
    rcases hbuilt with hbuilt | hbuilt
    · rw [hbuilt, List.append_nil]
      exact h.regions
    · rw [hbuilt, Members.keys, List.map_append]
      refine List.nodup_append.mpr ⟨h.regions, List.pairwise_singleton _ _, ?_⟩
      intro r hr r' hr' heq
      rw [heq, List.mem_singleton.mp hr'] at hr
      exact hnew hr
  · rw [hworld]
    rfl
  · intro r
    rw [hworld, attempts_of_create hevents]
    exact List.count_cons.trans (congrArg _ List.count_singleton.symm)
  · rw [hworld]
  · rcases hbuilt with hbuilt | hbuilt <;> rw [hbuilt] <;> rfl

theorem add_closing (h : Ledger start past s w) (hw : w.script.Logs)
    (fails : String → Option Failure) :
    let v := s.visit (.closeAll fails) w
    v.outcome = ((kept past).findSome? (Registry.interruption? fails)).elim (.ok none) .error ∧
      v.closed = upToFailure (Registry.interruption? fails) (kept past) ∧
      kept (past ++ [v]) = [] ∧ Ledger start (past ++ [v]) v.left.1 v.left.2 := by
  intro v
  -- the failures of this closing stand in for those of the script while it lasts
  let closing : World := { w with script := { w.script with close := fails } }
  let es := (upToFailure (Registry.interruption? fails) (kept past)).flatMap
    (Registry.closing fails)
  have hanswer : s.answer (.closeAll fails) w =
      (((kept past).findSome? (Registry.interruption? fails)).elim (.ok none) .error,
        { s with registry := {} }, { w with trace := (closing.emitAll es).trace }) := by
    have hclosing : closing.script.Logs := hw
    have hworld := congrArg (fun w' : World => { w' with script := w.script })
      (World.emitAll_eq closing es)
    rw [Session.answer, Session.closeAll, Registry.closeAll_eq _ hclosing, h.clients]
    exact congrArg (fun w' => (_, _, w')) hworld
  have hv : v = ⟨.closeAll fails, (s, w), (s.answer (.closeAll fails) w).1,
    (s.answer (.closeAll fails) w).2⟩ := rfl
  rw [hanswer] at hv
  have hevents : v.events = es := by
    apply events_eq
    rw [hv]
    exact World.trace_emitAll closing es
  have hattempts : v.attempts = [] := by
    rw [Visit.attempts, hevents, List.filterMap_flatMap]
    exact List.flatMap_eq_nil_iff.mpr fun m _ => Registry.created_closing fails m
  have hbuilt : v.built = [] := by rw [built, hattempts]
  have hclosed : v.closed = upToFailure (Registry.interruption? fails) (kept past) := by
    rw [closed, hevents, List.filterMap_flatMap]
    simp only [Registry.closed_closing, List.flatMap_singleton']
  have hkept : kept (past ++ [v]) = [] := by
    rw [kept_concat]
    exact if_pos rfl
  refine ⟨?_, hclosed, hkept, h.add ⟨?_, ?_, ?_, fun region => ?_, ?_, ?_, ?_, fun hquiet => ?_⟩⟩
  · rw [hv]
  · rw [hv]
  · rw [hkept, hv]
  · rw [hkept]
    exact List.nodup_nil
  · rw [hattempts, hv]
    rfl
  · rw [hbuilt, hv]
    rfl
  · rw [hbuilt]
    rfl
  · rw [hclosed, hkept, hbuilt, List.append_nil, List.append_nil]
    exact (upToFailure_isPrefixOf _).sublist
  · have hall := Registry.findSome?_of_quiet hquiet (kept past)
    rw [hclosed, hkept, hbuilt, List.append_nil, List.append_nil, upToFailure_eq_self hall]

theorem closes_of_region {d : Demand} {region : String} (hd : s.region? d = some region) :
    (s.visit d w).closes = false ∧ ∀ fails, d ≠ .closeAll fails := by
  cases d with
  | closeAll fails => cases hd
  | _ => exact ⟨rfl, fun _ => nofun⟩

theorem visit_of_kept (h : Ledger start past s w) {d : Demand} {region : String} {client : Nat}
    (hd : s.region? d = some region) (hg : (kept past).get? region = some client) :
    let v := s.visit d w
    v.Sound start past ∧ Ledger start (past ++ [v]) v.left.1 v.left.2 := by
  intro v
  obtain ⟨hcloses, hopen⟩ := closes_of_region (w := w) hd
  obtain ⟨houtcome, hregistry, hworld⟩ := Session.answer_of_region hd w
  have hget : s.registry.get region w = (.ok client, s.registry, w) :=
    Registry.get_of_some (by rw [h.clients, hg]) w
  rw [hget] at houtcome hregistry hworld
  obtain ⟨hkept, hledger⟩ := add_still (v := v) h hcloses hworld hregistry
  refine ⟨⟨hledger.clients, hledger.regions, fun r c hr hc => ?_, fun r hr hc => ?_,
    fun fails hv => (hopen fails hv).elim, fun fails _ hv => (hopen fails hv).elim,
    fun hv => absurd (hd.symm.trans hv) nofun, fun c hc => ⟨region, hd, ?_⟩⟩, hledger⟩
  · obtain rfl : region = r := Option.some.inj (hd.symm.trans hr)
    obtain rfl : client = c := Option.some.inj (hg.symm.trans hc)
    exact ⟨houtcome, hworld, hkept⟩
  · obtain rfl : region = r := Option.some.inj (hd.symm.trans hr)
    rw [hg] at hc
    cases hc
  · obtain rfl : client = c := Option.some.inj (Except.ok.inj (houtcome.symm.trans hc))
    rw [hkept]
    exact Members.mem_of_get? hg

theorem attempt_of_unkept (h : Ledger start past s w) {d : Demand} {region : String}
    (hd : s.region? d = some region) (hg : (kept past).get? region = none) :
    let v := s.visit d w
    v.events = [.create region] ∧
      v.Attempted past region (start.script.create region
        (start.creations.count region + (past.flatMap Visit.attempts).count region)) ∧
      Ledger start (past ++ [v]) v.left.1 v.left.2 := by
  intro v
  obtain ⟨hcloses, -⟩ := closes_of_region (w := w) hd
  obtain ⟨houtcome, hregistry, hworld⟩ := Session.answer_of_region hd w
  have hnone : s.registry.clients.get? region = none := by rw [h.clients, hg]
  -- the visits before tell how often the region has been attempted
  have hscript : w.script.create region (w.creations.count region) =
      start.script.create region
        (start.creations.count region + (past.flatMap Visit.attempts).count region) := by
    rw [h.script, h.attempts]
  rw [Registry.get_of_none hnone, hscript] at houtcome hregistry hworld
  have hevents {total : Nat} (hleft : v.left.2 = { w.attempted region with clients := total }) :
      v.events = [.create region] := by
    apply events_eq
    rw [hleft]
    exact World.trace_emit w (.create region)
  cases hf : start.script.create region
      (start.creations.count region + (past.flatMap Visit.attempts).count region) with
  | some f =>
    rw [hf] at houtcome hregistry hworld
    have hcreated := hevents hworld
    have hbuilt : v.built = [] := built_of_error houtcome
    obtain ⟨hkept, hledger⟩ := add_attempt (v := v) h hcloses hg hcreated
      (by rw [hbuilt]; exact hworld) (.inl hbuilt)
      (by rw [hbuilt, List.append_nil]; exact congrArg Registry.clients hregistry)
    rw [hbuilt, List.append_nil] at hkept
    exact ⟨hcreated, ⟨houtcome, hkept⟩, hledger⟩
  | none =>
    rw [hf] at houtcome hregistry hworld
    have hcreated := hevents hworld
    have hbuilt : v.built = [(region, w.clients + 1)] := built_of_create hcreated houtcome
    obtain ⟨hkept, hledger⟩ := add_attempt (v := v) h hcloses hg hcreated
      (by rw [hbuilt]; exact hworld) (.inr hbuilt)
      (by rw [hbuilt]; exact congrArg Registry.clients hregistry)
    rw [hbuilt] at hkept
    exact ⟨hcreated, ⟨w.clients + 1, houtcome, hkept⟩, hledger⟩

theorem visit_of_unkept (h : Ledger start past s w) {d : Demand} {region : String}
    (hd : s.region? d = some region) (hg : (kept past).get? region = none) :
    let v := s.visit d w
    v.Sound start past ∧ Ledger start (past ++ [v]) v.left.1 v.left.2 := by
  intro v
  obtain ⟨-, hopen⟩ := closes_of_region (w := w) hd
  obtain ⟨hcreated, hattempted, hledger⟩ := h.attempt_of_unkept hd hg
  refine ⟨⟨hledger.clients, hledger.regions, fun r c hr hc => ?_, fun r hr _ => ?_,
    fun fails hv => (hopen fails hv).elim, fun fails _ hv => (hopen fails hv).elim,
    fun hv => absurd (hd.symm.trans hv) nofun,
    fun c hc => ⟨region, hd, hattempted.mem_kept hc⟩⟩, hledger⟩
  · obtain rfl : region = r := Option.some.inj (hd.symm.trans hr)
    rw [hg] at hc
    cases hc
  · obtain rfl : region = r := Option.some.inj (hd.symm.trans hr)
    exact ⟨hcreated, hattempted⟩

theorem visit_of_closing (h : Ledger start past s w) (hstart : start.script.Logs)
    (fails : String → Option Failure) :
    let v := s.visit (.closeAll fails) w
    v.Sound start past ∧ Ledger start (past ++ [v]) v.left.1 v.left.2 := by
  intro v
  have hw : w.script.Logs := by
    rw [h.script]
    exact hstart
  obtain ⟨houtcome, hclosed, hkept, hledger⟩ := h.add_closing hw fails
  have hfails {fails' : String → Option Failure} (hv : v.demand = .closeAll fails') :
      fails' = fails := (Demand.closeAll.inj hv).symm
  refine ⟨⟨hledger.clients, hledger.regions, fun _ _ => nofun, fun _ => nofun,
    fun fails' hv hquiet => ?_, fun fails' f hv hf => ?_, fun _ => nofun, fun client hv => ?_⟩,
    hledger⟩
  · have hall := Registry.findSome?_of_quiet hquiet (kept past)
    rw [hall] at houtcome
    rw [upToFailure_eq_self hall] at hclosed
    exact ⟨houtcome, hclosed, hkept⟩
  · rw [hfails hv] at hf ⊢
    rw [hf] at houtcome
    exact ⟨houtcome, hclosed, hkept⟩
  · rw [hv] at houtcome
    cases hf : (kept past).findSome? (Registry.interruption? fails) <;> rw [hf] at houtcome <;>
      cases houtcome

theorem visit_of_idle (h : Ledger start past s w) {d : Demand} (hd : s.region? d = none)
    (hcloses : (s.visit d w).closes = false) :
    let v := s.visit d w
    v.Sound start past ∧ Ledger start (past ++ [v]) v.left.1 v.left.2 := by
  intro v
  have hopen (fails : String → Option Failure) : d ≠ .closeAll fails := by
    rintro rfl
    cases hcloses
  obtain ⟨fails, hfails⟩ | ⟨hregistry, hworld, houtcome⟩ := Session.answer_of_no_region hd w
  · exact absurd hfails (hopen fails)
  obtain ⟨hkept, hledger⟩ := add_still (v := v) h hcloses hworld hregistry
  have hregion {r : String} (hr : v.region? = some r) : False := by
    cases hd.symm.trans hr
  exact ⟨⟨hledger.clients, hledger.regions, fun r c hr => (hregion hr).elim,
    fun r hr => (hregion hr).elim, fun fails hv => absurd hv (hopen fails),
    fun fails _ hv => absurd hv (hopen fails), fun _ _ => ⟨hworld, hkept⟩,
    fun client hv => absurd hv (houtcome client)⟩, hledger⟩

theorem visit (h : Ledger start past s w) (hstart : start.script.Logs) (d : Demand) :
    let v := s.visit d w
    v.Sound start past ∧ Ledger start (past ++ [v]) v.left.1 v.left.2 := by
  cases hd : s.region? d with
  | some region =>
    cases hg : (kept past).get? region with
    | some client => exact h.visit_of_kept hd hg
    | none => exact h.visit_of_unkept hd hg
  | none =>
    cases d with
    | closeAll fails => exact h.visit_of_closing hstart fails
    | _ => exact h.visit_of_idle hd rfl

theorem visits (h : Ledger start past s w) (hstart : start.script.Logs) (ds : List Demand) :
    (∃ s' w', Ledger start (past ++ Session.visits ds s w) s' w') ∧
      ∀ before v after, Session.visits ds s w = before ++ v :: after →
        v.Sound start (past ++ before) ∧
          ∃ s' w', Ledger start (past ++ before ++ [v]) s' w' := by
  induction ds generalizing past s w with
  | nil => exact ⟨⟨s, w, by rwa [Session.visits, List.append_nil]⟩, fun before v after hv =>
      absurd hv.symm (List.append_ne_nil_of_right_ne_nil _ (List.cons_ne_nil v after))⟩
  | cons d ds ih =>
    obtain ⟨hsound, hledger⟩ := h.visit hstart d
    obtain ⟨hall, heach⟩ := ih hledger
    rw [Session.visits]
    refine ⟨?_, fun before v after hv => ?_⟩
    · rwa [List.append_assoc] at hall
    · cases before with
      | nil =>
        obtain ⟨rfl, _⟩ := List.cons.inj hv
        rw [List.append_nil]
        exact ⟨hsound, _, _, hledger⟩
      | cons first before =>
        obtain ⟨rfl, hrest⟩ := List.cons.inj hv
        have hv := heach before v after hrest
        rwa [List.append_assoc _ [_]] at hv

theorem accounts (h : Ledger start past s w) : Accounts past := by
  have hbuilt : ((past.flatMap built).map Prod.snd).Nodup := by
    rw [h.numbers]
    exact List.nodup_range'
  exact ⟨hbuilt, hbuilt.sublist (h.sublist.map Prod.snd), h.sublist, h.balance⟩

end Ledger

namespace Session

/-- Through any demands each visit does what it should, no client is handed out once it has been
closed, and none serves two regions. -/
theorem visits_keep_clients (environment : Members String) (file : Option String)
    (ds : List Demand) {w : World} (hw : w.script.Logs) :
    let vs := visits ds { environment, file } w
    vs.map Visit.demand = ds ∧ Accounts vs ∧
      (∀ before v after, vs = before ++ v :: after →
        v.Sound w before ∧ Accounts (before ++ [v]) ∧
          ∀ client, v.outcome = .ok (some client) →
            client ∉ (before.flatMap closed).map Prod.snd) ∧
      (∀ v ∈ vs, ∀ v' ∈ vs, ∀ client, v.outcome = .ok (some client) →
        v'.outcome = .ok (some client) → v.region? = v'.region?) := by
  intro vs
  obtain ⟨⟨s, w', hledger⟩, heach⟩ := (Ledger.initial environment file).visits hw ds
  have haccounts : Accounts vs := hledger.accounts
  -- a client that is handed out has been built for the region it is handed out for
  have hbuilt {v : Visit} (hv : v ∈ vs) {client : Nat} (hclient : v.outcome = .ok (some client)) :
      ∃ region, v.region? = some region ∧ (region, client) ∈ vs.flatMap Visit.built := by
    obtain ⟨before, after, hsplit⟩ := List.append_of_mem hv
    obtain ⟨hsound, _, _, hbefore⟩ := heach before v after hsplit
    obtain ⟨region, hregion, hkept⟩ := hsound.handed client hclient
    have hmem := hbefore.sublist.subset (List.mem_append_right _ hkept)
    refine ⟨region, hregion, ?_⟩
    rw [hsplit, List.append_cons, List.flatMap_append]
    exact List.mem_append_left _ hmem
  refine ⟨visits_demands .., haccounts, fun before v after hsplit => ?_,
    fun v hv v' hv' client hclient hclient' => ?_⟩
  · obtain ⟨hsound, _, _, hbefore⟩ := heach before v after hsplit
    refine ⟨hsound, hbefore.accounts, fun client hclient hclosed => ?_⟩
    obtain ⟨region, _, hkept⟩ := hsound.handed client hclient
    have honce := hbefore.accounts.once
    rw [List.map_append, List.nodup_append] at honce
    apply honce.2.2 client _ client (List.mem_map_of_mem hkept) rfl
    rw [List.flatMap_append, List.map_append]
    exact List.mem_append_left _ hclosed
  · obtain ⟨region, hregion, hmem⟩ := hbuilt hv hclient
    obtain ⟨region', hregion', hmem'⟩ := hbuilt hv' hclient'
    -- no number is used twice, so both stand for one client
    have hsame := List.inj_on_of_nodup_map haccounts.distinct hmem hmem' rfl
    rw [hregion, hregion', (Prod.mk.inj hsame).1]

theorem visits_keep_clients_reluctant :
    let w : World :=
      { script := { Script.replying [] with
          create := fun _ k => if k = 0 then some (.incident .noCredentials) else none } }
    let fails (region : String) : Option Failure :=
      if region = "eu-west-1" then some (.incident (.signal .system "gone")) else none
    let ds : List Demand := [.client "eu-west-1", .client "eu-west-1", .store none, .store none,
      .manager, .client "eu-west-1", .closeAll fails, .closeAll fails, .client "us-west-2"]
    let vs := visits ds {} w
    w.script.Logs ∧ Accounts vs ∧
      vs.map (fun v => v.outcome.toOption.join) =
        [none, some 1, none, some 2, none, some 1, none, none, some 3] ∧
      vs.flatMap closed = [("eu-west-1", 1), ("us-west-2", 2)] ∧ kept vs = [("us-west-2", 3)] := by
  intro w fails ds vs
  have hw : w.script.Logs := fun _ _ => rfl
  have hvisits := visits_keep_clients [] none ds hw
  exact ⟨hw, hvisits.2.1, by decide +kernel, by decide +kernel, by decide +kernel⟩

end Session

end TableSeeder
