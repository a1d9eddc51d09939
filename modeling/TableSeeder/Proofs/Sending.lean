import TableSeeder.Proofs.Batch.Requests
import TableSeeder.Proofs.Load.Runs
import TableSeeder.Proofs.Record.Wire

/-! What runs send. Every id that is drawn for a request goes into one record and every record into
one request, in the order of the draws and whatever becomes of the requests. -/

namespace TableSeeder

abbrev Sending := String × List Item

def Event.sending? : Event → Option Sending
  | .put table item => some (table, [item])
  | .putBatch table items => some (table, items)
  | _ => none

namespace World

def sendings (w : World) : List Sending := w.trace.toList.filterMap Event.sending?

def sent (w : World) : List Item := w.sendings.flatMap Prod.snd

def Draws (w : World) (ids : List String) : Prop :=
  w.script.draws w.ids ids.length = ids.map .ok

def DrawsDistinct (w : World) : Prop :=
  ∀ i j id, w.script.id (w.ids + i) = .ok id → w.script.id (w.ids + j) = .ok id → i = j

/-- Nothing but these requests is added, as far as requests and draws are concerned. -/
structure Adds (ss : List Sending) (w w' : World) : Prop where
  script : w'.script = w.script
  ids : w'.ids = w.ids
  sendings : w'.sendings = w.sendings ++ ss

variable {w w' w'' : World} {ss ss' : List Sending}

theorem Adds.refl (w : World) : Adds [] w w := ⟨rfl, rfl, (List.append_nil _).symm⟩

theorem Adds.trans (h : Adds ss w w') (h' : Adds ss' w' w'') : Adds (ss ++ ss') w w'' where
  script := h'.script.trans h.script
  ids := h'.ids.trans h.ids
  sendings := by rw [h'.sendings, h.sendings, List.append_assoc]

theorem Adds.quiet (h : Adds ss w w') (h' : Adds [] w' w'') : Adds ss w w'' :=
  List.append_nil ss ▸ h.trans h'

theorem Adds.outcome {α : Type} {r : Except Failure α × World} (h : Adds ss w r.2) :
    (∃ f w', r = (.error f, w') ∧ Adds ss w w') ∨ ∃ a w', r = (.ok a, w') ∧ Adds ss w w' := by
  obtain ⟨f | a, w'⟩ := r
  · exact .inl ⟨f, w', rfl, h⟩
  · exact .inr ⟨a, w', rfl, h⟩

theorem adds_emit (w : World) (e : Event) : Adds e.sending?.toList w (w.emit e) where
  script := rfl
  ids := rfl
  sendings := by
    rw [World.sendings, trace_emit, List.filterMap_append, ← World.sendings, List.filterMap_cons]
    cases e.sending? <;> rfl

theorem adds_log (e : Log.Entry) (w : World) : Adds [] w (World.log e w).2 := by
  unfold World.log
  cases w.script.log e with
  | some f => exact .refl w
  | none => exact adds_emit w (.log e)

theorem adds_logFailing (e : Log.Entry) (f : Failure) (w : World) :
    Adds [] w (World.logFailing e f w).2 := by
  unfold World.logFailing
  obtain ⟨g, w', hlog, h⟩ | ⟨_, w', hlog, h⟩ := (adds_log e w).outcome <;> rw [hlog] <;> exact h

theorem adds_echo (w : World) (text : String) : Adds [] w (w.echo text) :=
  adds_emit w (.out (echoed text))

theorem adds_sleep (interval : Interval) (w : World) : Adds [] w (World.sleep interval w).2 := by
  have hslept := adds_emit w (.sleep interval)
  rw [World.sleep_eq]
  cases w.script.pauseFailure? interval w.sleeps <;>
    exact ⟨hslept.script, hslept.ids, hslept.sendings⟩

theorem adds_answered (w : World) (e : Event) (r : Reply) :
    Adds e.sending?.toList w ((w.emit e).answered r) := by
  have hemit := adds_emit w e
  exact ⟨hemit.script, hemit.ids, hemit.sendings⟩

end World

section Draws

variable {w w' : World}

theorem Script.draws_add (s : Script) (k m n : Nat) :
    s.draws k (m + n) = s.draws k m ++ s.draws (k + m) n := by
  rw [draws, List.range_add, List.map_append, List.map_map]
  congr 1
  apply List.map_congr_left
  intro i _
  rw [Function.comp_apply, Nat.add_assoc]

theorem World.draws_nil (w : World) : w.Draws [] := rfl

theorem World.Draws.append {ids more : List String} (h : w.Draws ids)
    (hscript : w'.script = w.script) (hids : w'.ids = w.ids + ids.length) (hmore : w'.Draws more) :
    w.Draws (ids ++ more) := by
  rw [Draws, hscript, hids] at hmore
  rw [Draws, List.length_append, Script.draws_add, h, hmore, List.map_append]

theorem World.Draws.nodup {ids : List String} (h : w.Draws ids) (hw : w.DrawsDistinct) :
    ids.Nodup := by
  have hdraws : (w.script.draws w.ids ids.length).Nodup := by
    apply List.Nodup.map_on _ List.nodup_range
    intro i hi j _ hij
    have hmem : w.script.id (w.ids + i) ∈ w.script.draws w.ids ids.length :=
      List.mem_map_of_mem hi
    rw [h] at hmem
    obtain ⟨id, -, hid⟩ := List.mem_map.mp hmem
    exact hw i j id hid.symm (hij.symm.trans hid.symm)
  rw [h] at hdraws
  exact hdraws.of_map

theorem World.Draws.eq {ids ids' : List String} (h : w.Draws ids) (h' : w'.Draws ids')
    (hsource : ∀ k, w'.script.id (w'.ids + k) = w.script.id (w.ids + k))
    (hlength : ids.length = ids'.length) : ids = ids' := by
  have hdraws : w'.script.draws w'.ids ids'.length = w.script.draws w.ids ids.length := by
    rw [hlength]
    exact List.map_congr_left fun k _ => hsource k
  rw [h, h'] at hdraws
  exact (List.map_injective_iff.mpr (fun _ _ => Except.ok.inj) hdraws).symm

end Draws

section Store
open World

theorem adds_put (table : String) (item : Item) (w : World) :
    Adds [(table, [item])] w (Store.scripted.put table item w).2 := by
  have hput := adds_answered w (.put table item) (w.script.write w.writes)
  simp only [Store.scripted, World.nextWrite_eq, World.script_emit, World.writes_emit]
  cases (w.script.write w.writes).failure <;> exact hput

theorem adds_putBatch (table : String) (items : List Item) (w : World) :
    Adds [(table, items)] w (Store.scripted.putBatch table items w).2 := by
  have hput := adds_answered w (.putBatch table items) (w.script.write w.writes)
  change Adds _ w (World.nextWrite (w.emit (.putBatch table items))).2
  rw [World.nextWrite_eq]
  exact hput

end Store

/-- From `w` on these ids have been drawn and these requests have been made. -/
structure Sends (w : World) (ids : List String) (ss : List Sending) (w' : World) : Prop where
  script : w'.script = w.script
  draws : w.Draws ids
  sendings : w'.sendings = w.sendings ++ ss

namespace Sends

variable {w w' w'' : World} {ids more : List String} {ss ss' : List Sending}

theorem undrawn (w : World) (k : Nat) : Sends w [] [] { w with ids := k } :=
  ⟨rfl, w.draws_nil, (List.append_nil _).symm⟩

theorem quiet (h : Sends w ids ss w') (h' : w'.Adds [] w'') : Sends w ids ss w'' where
  script := h'.script.trans h.script
  draws := h.draws
  sendings := by rw [h'.sendings, List.append_nil, h.sendings]

theorem append (h : Sends w ids ss w') (hids : w'.ids = w.ids + ids.length)
    (h' : Sends w' more ss' w'') : Sends w (ids ++ more) (ss ++ ss') w'' where
  script := h'.script.trans h.script
  draws := h.draws.append h.script hids h'.draws
  sendings := by rw [h'.sendings, h.sendings, List.append_assoc]

end Sends

namespace Load
open World

variable (table : String)

def sending (id : String) : Sending := (table, [(Record.single id).item])

theorem attempt_adds (n : Nat) (id : String) (t : Tally) (w : World) :
    Adds [sending table id] w (attempt .scripted table n id t w).2 := by
  unfold attempt
  obtain ⟨f, w', hput, h⟩ | ⟨_, w', hput, h⟩ := (adds_put table (Record.single id).item w).outcome
  · rw [hput]
    cases f with
    | rejected r =>
      dsimp only
      obtain ⟨g, w'', hlog, hlogged⟩ | ⟨_, w'', hlog, hlogged⟩ :=
        (adds_log (rejected n r table) (w'.echo (echoText r.message))).outcome <;> rw [hlog] <;>
        exact (h.quiet (adds_echo w' _)).quiet hlogged
    | _ => exact h
  · rw [hput]
    dsimp only
    obtain ⟨g, w'', hlog, hlogged⟩ | ⟨_, w'', hlog, hlogged⟩ :=
      (adds_log (accepted n) w').outcome <;> rw [hlog] <;> exact h.quiet hlogged

/-- The loop sends the record of each id that it draws, and without a failure it draws them all. -/
theorem iterate_sends (interval : Interval) (n : Nat) (t : Tally) (w : World) :
    ∃ ids, Sends w ids (ids.map (sending table)) (iterate .scripted table interval n t w).2.2 ∧
      ((iterate .scripted table interval n t w).1 = none → ids.length = n) := by
  induction n generalizing t w with
  | zero => exact ⟨[], .undrawn w w.ids, fun _ => rfl⟩
  | succ n ih =>
    rw [iterate, World.nextId]
    cases hid : w.script.id w.ids with
    | error f => exact ⟨[], .undrawn w _, fun h => by cases h⟩
    | ok id =>
      have hdraw : w.Draws [id] := by
        rw [World.Draws, List.length_singleton, Script.draws_succ, hid]
        rfl
      have hsends {w' : World} (h : Adds [sending table id] { w with ids := w.ids + 1 } w') :
          Sends w [id] [sending table id] w' := ⟨h.script, hdraw, h.sendings⟩
      have hbegun := adds_echo { w with ids := w.ids + 1 }
        ("Writing item #" ++ toString (t.attempted + 1))
      dsimp only
      -- whatever fails from here on, the record of this id has been sent
      obtain ⟨f, w', hmade, h⟩ | ⟨t', w', hmade, h⟩ :=
        (hbegun.trans (attempt_adds table (t.attempted + 1) id _ _)).outcome
      · rw [hmade]
        exact ⟨[id], hsends h, fun h => by cases h⟩
      · rw [hmade]
        dsimp only
        obtain ⟨f, w'', hslept, h'⟩ | ⟨_, w'', hslept, h'⟩ := (adds_sleep interval w').outcome
        · rw [hslept]
          exact ⟨[id], hsends (h.quiet h'), fun h => by cases h⟩
        · rw [hslept]
          obtain ⟨ids, hids, hall⟩ := ih t' w''
          refine ⟨id :: ids, (hsends (h.quiet h')).append (h.quiet h').ids hids, fun hnone => ?_⟩
          rw [List.length_cons, hall hnone]

end Load

namespace Batch
open World

variable (table : String)

def sending (ids : List String) : Sending := (table, items ids)

theorem warnUnprocessed_adds (unprocessed : Value) (w : World) :
    Adds [] w (warnUnprocessed table unprocessed w).2 := by
  unfold warnUnprocessed
  split
  · exact adds_log _ w
  · exact .refl w

theorem send_adds (ids : List String) (total : Nat) (t : Tally) (w : World) :
    Adds [sending table ids] w (send .scripted table ids total t w).2 := by
  rw [send, ← items]
  obtain ⟨f, w', hput, h⟩ | ⟨unprocessed, w', hput, h⟩ :=
    (adds_putBatch table (items ids) w).outcome
  · rw [hput]
    cases f with
    | rejected r => exact h.quiet (adds_echo w' _)
    | _ => exact h
  · rw [hput]
    dsimp only
    obtain ⟨g, w'', hwarn, hwarned⟩ | ⟨_, w'', hwarn, hwarned⟩ :=
      (warnUnprocessed_adds table unprocessed w').outcome
    · rw [hwarn]
      exact h.quiet hwarned
    · rw [hwarn]
      exact (h.quiet hwarned).quiet (adds_echo w'' _)

/-- The loop sends the ids that it draws in groups, and no group before it is complete. -/
theorem iterate_sends (size n : Nat) (t : Tally) (w : World) :
    ∃ groups : List (List String),
      Sends w groups.flatten (groups.map (sending table))
          (iterate .scripted table size n t w).2 ∧
        (∀ ids ∈ groups, ids.length = size) ∧
        ∀ t', (iterate .scripted table size n t w).1 = .ok t' →
          groups.flatten.length = n * size := by
  induction n generalizing t w with
  | zero => exact ⟨[], .undrawn w w.ids, nofun, fun _ _ => (Nat.zero_mul size).symm⟩
  | succ n ih =>
    rw [iterate, World.nextIds_eq]
    dsimp only
    generalize hdraws : w.script.draws w.ids size = ds
    cases hids : ds.mapM id with
    | error f =>
      -- the ids before the failing draw are lost with their group
      exact ⟨[], .undrawn w _, nofun, fun _ h => by cases h⟩
    | ok ids =>
      have hall : ids.length = size := by
        rw [length_of_mapM hids, ← hdraws, Script.draws, List.length_map, List.length_range]
      have hdraw : w.Draws ids := by
        rw [World.Draws, hall, hdraws, mapM_eq_ok_iff.mp hids]
      have hcount : (upToFailure drawFailure? ds).length = ids.length := by
        rw [upToFailure_of_mapM hids, length_of_mapM hids]
      have hsends {w' : World}
          (h : Adds [sending table ids] { w with ids := w.ids + ids.length } w') :
          Sends w ids [sending table ids] w' := ⟨h.script, hdraw, h.sendings⟩
      dsimp only
      rw [hcount]
      obtain ⟨f, w', hmade, h⟩ | ⟨t', w', hmade, h⟩ :=
        (send_adds table ids ((t.attempted + 1) * size) { t with attempted := t.attempted + 1 }
          { w with ids := w.ids + ids.length }).outcome
      · rw [hmade]
        refine ⟨[ids], ?_, List.forall_mem_singleton.mpr hall, fun _ h => by cases h⟩
        rw [List.flatten_singleton]
        exact hsends h
      · rw [hmade]
        obtain ⟨groups, hgroups, hsizes, htotal⟩ := ih t' w'
        refine ⟨ids :: groups, (hsends h).append h.ids hgroups,
          List.forall_mem_cons.mpr ⟨hall, hsizes⟩, fun t'' hdone => ?_⟩
        rw [List.flatten_cons, List.length_append, hall, htotal t'' hdone, Nat.succ_mul,
          Nat.add_comm]

end Batch

section Runs

variable (table : String)

theorem Loader.execute_sends (l : Loader) (hl : l.store = .scripted) (n : Nat)
    (interval : Interval) (w : World) :
    ∃ ids, Sends w ids (ids.map (Load.sending l.table)) (l.execute n interval w).2.2 ∧
      ∀ s, (l.execute n interval w).1 = .ok s → ids.length = n := by
  unfold execute
  dsimp only
  obtain ⟨f, w', hlog, h⟩ | ⟨_, w', hlog, h⟩ :=
    (World.adds_log (Load.started l.table n interval) w).outcome
  · rw [hlog]
    exact ⟨[], (Sends.undrawn w w.ids).quiet h, fun _ h => by cases h⟩
  · rw [hlog]
    dsimp only
    rw [finish, hl]
    obtain ⟨ids, hids, hall⟩ := Load.iterate_sends l.table interval n {} w'
    have hsends := ((Sends.undrawn w w.ids).quiet h).append h.ids hids
    rcases hmade : Load.iterate .scripted l.table interval n {} w' with ⟨f | _, t, w''⟩
    · rw [hmade] at hsends hall
      exact ⟨ids, hsends.quiet (World.adds_log _ w''), fun _ _ => hall rfl⟩
    · rw [hmade] at hsends
      exact ⟨ids, hsends.quiet (World.adds_logFailing _ _ w''), fun _ h => by cases h⟩

theorem Loader.run_sends (phase : Phase) (n : Int) (interval : Interval) (w : World) :
    let result := Loader.run { store := .scripted, table, phase } n interval w
    ∃ ids, Sends w ids (ids.map (Load.sending table)) result.2.2 ∧
      ∀ s, result.1 = .ok s → (ids.length : Int) = n := by
  intro result
  have hrefused (f : Failure) (h : result = (.error f, ⟨.scripted, table, phase⟩, w)) :
      ∃ ids, Sends w ids (ids.map (Load.sending table)) result.2.2 ∧
        ∀ s, result.1 = .ok s → (ids.length : Int) = n := by
    rw [h]
    exact ⟨[], .undrawn w w.ids, nofun⟩
  cases hbad : badArgument? n interval with
  | some a => exact hrefused _ (run_of_badArgument hbad w)
  | none =>
    have hrun := run_of_goodArguments (l := ⟨.scripted, table, phase⟩) hbad w
    by_cases hphase : phase ≠ .notStarted
    · exact hrefused _ (hrun.trans (if_pos hphase))
    · rw [if_neg hphase] at hrun
      obtain ⟨ids, hids, hall⟩ := execute_sends ⟨.scripted, table, phase⟩ rfl n.toNat interval w
      rw [← hrun] at hids hall
      have hn : 1 ≤ n := (badArgument?_eq_none.mp hbad).1
      refine ⟨ids, hids, fun s hs => ?_⟩
      rw [hall s hs]
      omega

theorem Batch.run_sends (batches size : Int) (w : World) :
    let result := run .scripted table batches size w
    ∃ groups : List (List String),
      Sends w groups.flatten (groups.map (sending table)) result.2 ∧
        (∀ ids ∈ groups, (ids.length : Int) = size) ∧
        ∀ s, result.1 = .ok s → (groups.flatten.length : Int) = batches * size := by
  intro result
  have hresult : result = run .scripted table batches size w := rfl
  rw [run_eq] at hresult
  cases hbad : badArgument? batches size with
  | some a =>
    rw [hbad] at hresult
    rw [hresult]
    exact ⟨[], .undrawn w w.ids, nofun, nofun⟩
  | none =>
    obtain ⟨hbatches, hsize, -⟩ := badArgument?_eq_none.mp hbad
    obtain ⟨groups, hgroups, hsizes, htotal⟩ :=
      iterate_sends table size.toNat batches.toNat {} w
    rw [hbad] at hresult
    rw [hresult]
    rcases hmade : iterate .scripted table size.toNat batches.toNat {} w with ⟨f | t, w'⟩
    · rw [hmade] at hgroups
      exact ⟨groups, hgroups, fun ids hids => by rw [hsizes ids hids]; omega, nofun⟩
    · rw [hmade] at hgroups htotal
      refine ⟨groups, hgroups, fun ids hids => by rw [hsizes ids hids]; omega, fun _ _ => ?_⟩
      rw [htotal t rfl, Int.natCast_mul]
      congr 1 <;> omega

end Runs

end TableSeeder
