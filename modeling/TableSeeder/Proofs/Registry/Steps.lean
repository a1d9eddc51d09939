import TableSeeder.Proofs.Surroundings
import TableSeeder.Proofs.UpToFailure
import TableSeeder.Session

/-! What asking for a client and closing all clients come to: a kept client is found without any
effect, another one is created in a single attempt, and a closing goes through the kept clients in
order until an interrupt ends it. -/

namespace TableSeeder

namespace World

def attempted (w : World) (region : String) : World :=
  { w.emit (.create region) with creations := region :: w.creations }

theorem createClient_eq (region : String) (w : World) :
    World.createClient region w =
      match w.script.create region (w.creations.count region) with
      | some f => (.error f, w.attempted region)
      | none => (.ok (w.clients + 1), { w.attempted region with clients := w.clients + 1 }) := by
  unfold World.createClient World.created
  cases w.script.create region (w.creations.count region) <;> rfl

theorem emitAll_append (w : World) (es es' : List Event) :
    w.emitAll (es ++ es') = (w.emitAll es).emitAll es' := List.foldl_append

theorem emitAll_eq (w : World) (es : List Event) :
    w.emitAll es = { w with trace := (w.emitAll es).trace } := by
  induction es generalizing w with
  | nil => rfl
  | cons e es ih => exact ih (w.emit e)

end World

namespace Registry

theorem get_of_some {r : Registry} {region : String} {client : Nat}
    (h : r.clients.get? region = some client) (w : World) :
    r.get region w = (.ok client, r, w) := by
  rw [get, h]

theorem get_of_none {r : Registry} {region : String} (h : r.clients.get? region = none)
    (w : World) :
    r.get region w =
      match w.script.create region (w.creations.count region) with
      | some f => (.error f, r, w.attempted region)
      | none => (.ok (w.clients + 1), ⟨r.clients ++ [(region, w.clients + 1)]⟩,
          { w.attempted region with clients := w.clients + 1 }) := by
  have hset := Members.set_of_notMem (w.clients + 1) (Members.get?_eq_none.mp h)
  rw [get, h]
  dsimp only
  rw [World.createClient_eq]
  cases w.script.create region (w.creations.count region) with
  | some f => rfl
  | none =>
    dsimp only
    rw [hset]

theorem ignored_plain (region : String) : (ignored region).Plain := rfl

def interruption? (fails : String → Option Failure) (kept : String × Nat) : Option Failure :=
  (fails kept.1).filter Failure.isInterrupt

def closing (fails : String → Option Failure) (kept : String × Nat) : List Event :=
  .close kept.2 kept.1 ::
    match fails kept.1 with
    | some f => if f.isInterrupt then [] else [.log (ignored kept.1)]
    | none => []

theorem closeEach_eq (ms : Members Nat) {w : World} (hw : w.script.Logs) :
    closeEach ms w =
      let fails := w.script.close
      (ms.findSome? (interruption? fails),
        w.emitAll ((upToFailure (interruption? fails) ms).flatMap (closing fails))) := by
  induction ms generalizing w with
  | nil => rfl
  | cons m ms ih =>
    obtain ⟨region, client⟩ := m
    have hrest (e : Event) := ih (w := w.emit e) hw
    have hnext (e e' : Event) := ih (w := (w.emit e).emit e') hw
    have hnoted := World.log_eq (w := w.emit (.close client region)) hw (ignored_plain region)
    simp only [World.script_emit] at hrest hnext
    dsimp only
    rw [closeEach, World.script_emit, List.findSome?_cons]
    -- the client is closed, or an interrupt stops the closing, or the failure is noted
    cases hf : w.script.close region with
    | none =>
      have hgoes : interruption? w.script.close (region, client) = none := by
        rw [interruption?, hf]
        rfl
      dsimp only
      rw [hrest, hgoes, upToFailure_cons_of_none hgoes, List.flatMap_cons, World.emitAll_append,
        closing, hf]
      rfl
    | some f =>
      dsimp only
      cases hi : f.isInterrupt with
      | true =>
        have hstops : interruption? w.script.close (region, client) = some f := by
          rw [interruption?, hf]
          exact Option.filter_some_pos hi
        rw [if_pos rfl, hstops, upToFailure_cons_of_some hstops, List.flatMap_singleton, closing,
          hf]
        dsimp only
        rw [if_pos hi]
        rfl
      | false =>
        have hgoes : interruption? w.script.close (region, client) = none := by
          rw [interruption?, hf]
          exact Option.filter_some_neg hi
        rw [if_neg Bool.false_ne_true, hnoted]
        dsimp only
        rw [hnext, hgoes, upToFailure_cons_of_none hgoes, List.flatMap_cons,
          World.emitAll_append, closing, hf]
        dsimp only
        rw [hi]
        rfl

theorem closeAll_eq (r : Registry) {w : World} (hw : w.script.Logs) :
    r.closeAll w =
      let fails := w.script.close
      (r.clients.findSome? (interruption? fails), {},
        w.emitAll ((upToFailure (interruption? fails) r.clients).flatMap (closing fails))) := by
  rw [closeAll, closeEach_eq r.clients hw]

end Registry

theorem Session.registry_settings (s : Session) : s.settings.2.registry = s.registry := by
  unfold Session.settings
  cases s.cached with
  | some found => rfl
  | none =>
    unfold Session.build
    cases Settings.load { environment := s.environment, file := s.file } <;> rfl

end TableSeeder
