import TableSeeder.Proofs.Registry.Steps

/-! Demands on a session as visits: what each finds, does and leaves, and which clients have been
built, closed and kept when some of them are over. -/

namespace TableSeeder

inductive Demand where
  | manager
  | client (region : String)
  | store (given : Option Settings)
  | closeAll (fails : String → Option Failure)

def Demand.Quiet : Demand → Prop
  | closeAll fails => ∀ region f, fails region = some f → f.isInterrupt = false
  | _ => True

namespace Session

/-- There is a single registry, so asking for the manager changes nothing. -/
def answer (s : Session) (d : Demand) (w : World) :
    Except Failure (Option Nat) × Session × World :=
  match d with
  | .manager => (.ok none, s, w)
  | .client region => ((s.client region w).1.map some, (s.client region w).2)
  | .store given => ((s.storeClient given w).1.map some, (s.storeClient given w).2)
  | .closeAll fails =>
    let (failure, s, w') := s.closeAll { w with script := { w.script with close := fails } }
    (failure.elim (.ok none) .error, s, { w' with script := w.script })

def region? (s : Session) : Demand → Option String
  | .client region => some region
  | .store (some settings) => some settings.region
  | .store none => s.settings.1.toOption.map fun found => found.2.region
  | _ => none

end Session

def Event.created? : Event → Option String
  | .create region => some region
  | _ => none

def Event.closed? : Event → Option (String × Nat)
  | .close client region => some (region, client)
  | _ => none

structure Visit where
  demand : Demand
  found : Session × World
  outcome : Except Failure (Option Nat)
  left : Session × World

namespace Visit

def events (v : Visit) : List Event := v.left.2.trace.toList.drop v.found.2.trace.size

def region? (v : Visit) : Option String := v.found.1.region? v.demand

def attempts (v : Visit) : List String := v.events.filterMap Event.created?

def built (v : Visit) : Members Nat :=
  match v.attempts, v.outcome with
  | [region], .ok (some client) => [(region, client)]
  | _, _ => []

def closed (v : Visit) : Members Nat := v.events.filterMap Event.closed?

def closes (v : Visit) : Bool :=
  match v.demand with
  | .closeAll _ => true
  | _ => false

def kept (vs : List Visit) : Members Nat :=
  vs.foldl (fun ms v => if v.closes then [] else ms ++ v.built) []

theorem kept_concat (past : List Visit) (v : Visit) :
    kept (past ++ [v]) = if v.closes then [] else kept past ++ v.built := by
  rw [kept, List.foldl_append]
  rfl

theorem events_eq {v : Visit} {es : List Event}
    (h : v.left.2.trace.toList = v.found.2.trace.toList ++ es) : v.events = es := by
  rw [events, h, ← Array.length_toList, List.drop_left]

theorem attempts_of_create {v : Visit} {region : String} (h : v.events = [.create region]) :
    v.attempts = [region] := by
  rw [attempts, h]
  rfl

theorem built_of_error {v : Visit} {f : Failure} (h : v.outcome = .error f) : v.built = [] := by
  rw [built, h]
  rcases v.attempts with _ | ⟨_, _ | _⟩ <;> rfl

theorem built_of_create {v : Visit} {region : String} {client : Nat}
    (h : v.events = [.create region]) (hv : v.outcome = .ok (some client)) :
    v.built = [(region, client)] := by
  rw [built, attempts_of_create h, hv]

end Visit

open Visit

namespace Session

def visit (s : Session) (d : Demand) (w : World) : Visit :=
  ⟨d, (s, w), (s.answer d w).1, (s.answer d w).2⟩

def visits : List Demand → Session → World → List Visit
  | [], _, _ => []
  | d :: ds, s, w => s.visit d w :: visits ds (s.visit d w).left.1 (s.visit d w).left.2

theorem visits_demands (ds : List Demand) (s : Session) (w : World) :
    (visits ds s w).map Visit.demand = ds := by
  induction ds generalizing s w with
  | nil => rfl
  | cons d ds ih => rw [visits, List.map_cons, ih, visit]

theorem answer_of_region {s : Session} {d : Demand} {region : String}
    (h : s.region? d = some region) (w : World) :
    (s.answer d w).1 = (s.registry.get region w).1.map some ∧
      (s.answer d w).2.1.registry = (s.registry.get region w).2.1 ∧
      (s.answer d w).2.2 = (s.registry.get region w).2.2 := by
  cases d with
  | manager => cases h
  | closeAll fails => cases h
  | client r =>
    obtain rfl : r = region := Option.some.inj h
    exact ⟨rfl, rfl, rfl⟩
  | store given =>
    cases given with
    | some settings =>
      obtain rfl : settings.region = region := Option.some.inj h
      exact ⟨rfl, rfl, rfl⟩
    | none =>
      have hregistry := s.registry_settings
      rw [region?] at h
      rw [answer, storeClient]
      cases hs : s.settings with
      | mk outcome s' =>
        rw [hs] at h hregistry
        cases outcome with
        | error f => cases h
        | ok found =>
          obtain rfl : found.2.region = region := Option.some.inj h
          dsimp only [client]
          rw [hregistry]
          exact ⟨rfl, rfl, rfl⟩

theorem answer_of_no_region {s : Session} {d : Demand} (h : s.region? d = none) (w : World) :
    (∃ fails, d = .closeAll fails) ∨
      (s.answer d w).2.1.registry = s.registry ∧ (s.answer d w).2.2 = w ∧
        ∀ client, (s.answer d w).1 ≠ .ok (some client) := by
  cases d with
  | manager => exact .inr ⟨rfl, rfl, fun _ => nofun⟩
  | closeAll fails => exact .inl ⟨fails, rfl⟩
  | client r => cases h
  | store given =>
    cases given with
    | some settings => cases h
    | none =>
      have hregistry := s.registry_settings
      rw [region?] at h
      rw [answer, storeClient]
      cases hs : s.settings with
      | mk outcome s' =>
        rw [hs] at h hregistry
        cases outcome with
        | error f => exact .inr ⟨hregistry, rfl, fun _ => nofun⟩
        | ok found => cases h

end Session

/-- What comes of the attempt to create a client: the failure it meets, which leaves everything as
it was, or a client of the region, which is kept. -/
def Visit.Attempted (v : Visit) (past : List Visit) (region : String) : Option Failure → Prop
  | some f => v.outcome = .error f ∧ kept (past ++ [v]) = kept past
  | none => ∃ client, v.outcome = .ok (some client) ∧
      kept (past ++ [v]) = kept past ++ [(region, client)]

theorem Visit.Attempted.mem_kept {v : Visit} {past : List Visit} {region : String}
    {failure? : Option Failure} (h : v.Attempted past region failure?) {client : Nat}
    (hclient : v.outcome = .ok (some client)) : (region, client) ∈ kept (past ++ [v]) := by
  cases failure? with
  | some f => cases hclient.symm.trans h.1
  | none =>
    obtain ⟨built, hbuilt, hkept⟩ := h
    obtain rfl : client = built := Option.some.inj (Except.ok.inj (hclient.symm.trans hbuilt))
    rw [hkept]
    exact List.mem_append_right _ List.mem_cons_self

/-- What a visit does, given the visits before it: kept clients are handed out again, a region
without one is attempted once, and a closing closes what is kept and keeps nothing. What is handed
out is the client of the region asked for, and it is kept. -/
structure Visit.Sound (start : World) (past : List Visit) (v : Visit) : Prop where
  clients : v.left.1.registry.clients = kept (past ++ [v])
  regions : (kept (past ++ [v])).keys.Nodup
  found (region client) : v.region? = some region → (kept past).get? region = some client →
    v.outcome = .ok (some client) ∧ v.left.2 = v.found.2 ∧ kept (past ++ [v]) = kept past
  created (region) : v.region? = some region → (kept past).get? region = none →
    v.events = [.create region] ∧ v.Attempted past region (start.script.create region
      (start.creations.count region + (past.flatMap attempts).count region))
  closed (fails) : v.demand = .closeAll fails → v.demand.Quiet →
    v.outcome = .ok none ∧ v.closed = kept past ∧ kept (past ++ [v]) = []
  interrupted (fails f) : v.demand = .closeAll fails →
    (kept past).findSome? (Registry.interruption? fails) = some f →
    v.outcome = .error f ∧
      v.closed = upToFailure (Registry.interruption? fails) (kept past) ∧
      kept (past ++ [v]) = []
  idle : v.region? = none → v.closes = false →
    v.left.2 = v.found.2 ∧ kept (past ++ [v]) = kept past
  handed (client) : v.outcome = .ok (some client) →
    ∃ region, v.region? = some region ∧ (region, client) ∈ kept (past ++ [v])

end TableSeeder
