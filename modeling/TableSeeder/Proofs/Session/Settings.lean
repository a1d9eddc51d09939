import Mathlib.Data.List.DropRight
import TableSeeder.Proofs.Registry.Visits
import TableSeeder.Proofs.Settings.Variables

/-! The settings of a session through any sequence of moves. In force are the first sound settings
since the last clear, and every later reading gets these, whatever their sources have become. -/

namespace TableSeeder

inductive Move where
  | assign (changes : Members (Option String))
  | file (text : Option String)
  | clear
  | settings
  | demand (d : Demand)

inductive Answer where
  | nothing
  | settings (number : Nat) (s : Settings)
  | client (number : Nat)

namespace Session

def sources (s : Session) : Settings.Sources := { environment := s.environment, file := s.file }

def respond (s : Session) (m : Move) (w : World) : Except Failure Answer × Session × World :=
  match m with
  | .assign changes => (.ok .nothing, s.setVariables changes, w)
  | .file text => (.ok .nothing, s.setFile text, w)
  | .clear => (.ok .nothing, s.clear, w)
  | .settings => (s.settings.1.map fun found => .settings found.1 found.2, s.settings.2, w)
  | .demand d => ((s.answer d w).1.map fun client => client.elim .nothing .client, (s.answer d w).2)

end Session

structure Exchange where
  move : Move
  found : Session × World
  outcome : Except Failure Answer
  left : Session × World

namespace Session

def exchange (s : Session) (m : Move) (w : World) : Exchange :=
  ⟨m, (s, w), (s.respond m w).1, (s.respond m w).2⟩

def exchanges : List Move → Session → World → List Exchange
  | [], _, _ => []
  | m :: ms, s, w => s.exchange m w :: exchanges ms (s.exchange m w).left.1 (s.exchange m w).left.2

end Session

def Move.asks : Move → Bool
  | .settings | .demand (.store none) => true
  | _ => false

def Move.clears : Move → Bool
  | .clear => true
  | _ => false

def Move.assigned? (m : Move) (name : String) : Option (Option String) :=
  match m with
  | .assign changes => Members.last? (· = name) changes
  | _ => none

namespace Exchange

def sound? (x : Exchange) : Option (Nat × Settings) :=
  if x.move.asks then
    (Settings.load x.found.1.sources).toOption.map (x.found.1.built, ·)
  else none

/-- The first sound settings since the last clear. -/
def inForce (past : List Exchange) : Option (Nat × Settings) :=
  (past.rtakeWhile fun x => !x.move.clears).findSome? sound?

/-- The store stands on the client that is held for the region when the exchange is over: the one
held before it, or one for whose creation a single attempt was made. -/
structure Wraps (x : Exchange) (region : String) : Prop where
  kept (client) : x.found.1.registry.clients.get? region = some client →
    x.outcome = .ok (.client client) ∧ x.left.1.registry = x.found.1.registry ∧
      x.left.2 = x.found.2
  missed (f) : x.found.1.registry.clients.get? region = none →
    x.found.2.script.create region (x.found.2.creations.count region) = some f →
    x.outcome = .error f ∧ x.left.1.registry = x.found.1.registry
  created : x.found.1.registry.clients.get? region = none →
    x.found.2.script.create region (x.found.2.creations.count region) = none →
    ∃ client, x.outcome = .ok (.client client)
  held (client) : x.outcome = .ok (.client client) →
    x.left.1.registry.clients.get? region = some client

/-- What an exchange does about the settings, given the exchanges before it. -/
structure Faithful (past : List Exchange) (x : Exchange) : Prop where
  found : x.found.1.cached = inForce past
  left : x.left.1.cached = inForce (past ++ [x])
  recalled (number s) : inForce past = some (number, s) → x.move = .settings →
    x.outcome = .ok (.settings number s) ∧ x.left = x.found
  built (s) : inForce past = none → x.move = .settings →
    Settings.load x.found.1.sources = .ok s →
    x.outcome = .ok (.settings x.found.1.built s) ∧
      inForce (past ++ [x]) = some (x.found.1.built, s)
  refused (f) : inForce past = none → x.move.asks = true →
    Settings.load x.found.1.sources = .error f →
    x.outcome = .error f ∧ x.left = x.found ∧ inForce (past ++ [x]) = none
  served (given s) : x.move = .demand (.store given) →
    given.or ((inForce (past ++ [x])).map Prod.snd) = some s → x.Wraps s.region
  apart (s) : x.move = .demand (.store (some s)) →
    inForce (past ++ [x]) = inForce past ∧
      ∀ other : Session, other.registry = x.found.1.registry →
        (other.exchange x.move x.found.2).outcome = x.outcome ∧
          (other.exchange x.move x.found.2).left.1.cached = other.cached ∧
          (other.exchange x.move x.found.2).left.1.registry = x.left.1.registry ∧
          (other.exchange x.move x.found.2).left.2 = x.left.2
  environment (name) : x.left.1.environment.get? name =
    (x.move.assigned? name).getD (x.found.1.environment.get? name)

theorem inForce_concat (past : List Exchange) (x : Exchange) :
    inForce (past ++ [x]) = if x.move.clears then none else (inForce past).or x.sound? := by
  unfold inForce
  rw [List.rtakeWhile_concat]
  cases x.move.clears with
  | true => rfl
  | false =>
    rw [if_neg Bool.false_ne_true, if_pos (by rfl), List.findSome?_append]
    congr 1
    cases h : x.sound? <;> simp [h]

theorem sound?_of_not_asks {x : Exchange} (h : x.move.asks = false) : x.sound? = none := by
  rw [sound?, h]
  rfl

end Exchange

theorem Members.get?_erase {α : Type} (ms : Members α) (k key : String) :
    (ms.erase k).get? key = if key = k then none else ms.get? key := by
  by_cases h : key = k
  · rw [if_pos h, get?_eq_none]
    intro hmem
    obtain ⟨m, hm, rfl⟩ := List.mem_map.mp hmem
    have hk := (List.mem_filter.mp hm).2
    simp [h] at hk
  · rw [if_neg h]
    exact lookup_filter (p := fun name => name ≠ k) (by simpa using h) ms

namespace Session

theorem get?_setVariables (s : Session) (changes : Members (Option String)) (name : String) :
    (s.setVariables changes).environment.get? name =
      (Members.last? (· = name) changes).getD (s.environment.get? name) := by
  unfold setVariables
  dsimp only
  generalize s.environment = env
  induction changes generalizing env with
  | nil => rfl
  | cons change changes ih =>
    obtain ⟨k, value⟩ := change
    rw [List.foldl_cons, ih, Members.last?_cons]
    cases Members.last? (fun k => decide (k = name)) changes with
    | some v => rfl
    | none =>
      cases value with
      | some v => by_cases h : k = name <;> simp [Members.get?_set, h, Ne.symm]
      | none => by_cases h : k = name <;> simp [Members.get?_erase, h, Ne.symm]

section Reading

variable {s : Session}

theorem settings_of_cached {found : Nat × Settings} (h : s.cached = some found) :
    s.settings = (.ok found, s) := by
  rw [settings, h]

theorem settings_of_error {f : Failure} (h : s.cached = none)
    (hload : Settings.load s.sources = .error f) : s.settings = (.error f, s) := by
  have hbuild : s.build = (.error f, s) := by
    unfold build
    rw [show Settings.load { environment := s.environment, file := s.file } = .error f from hload]
  rw [settings, h]
  dsimp only
  rw [hbuild]

theorem settings_of_ok {v : Settings} (h : s.cached = none)
    (hload : Settings.load s.sources = .ok v) :
    s.settings =
      (.ok (s.built, v), { s with cached := some (s.built, v), built := s.built + 1 }) := by
  have hbuild : s.build = (.ok (s.built, v), { s with built := s.built + 1 }) := by
    unfold build
    rw [show Settings.load { environment := s.environment, file := s.file } = .ok v from hload]
  rw [settings, h]
  dsimp only
  rw [hbuild]

theorem kept_settings (s : Session) :
    let sound? := (Settings.load s.sources).toOption.map (s.built, ·)
    s.settings.2.cached = s.cached.or sound? ∧
      s.settings.2.built = s.built + if s.cached.isNone && sound?.isSome then 1 else 0 := by
  cases hcached : s.cached with
  | some found =>
    rw [settings_of_cached hcached]
    exact ⟨hcached, rfl⟩
  | none =>
    cases hload : Settings.load s.sources with
    | error f =>
      rw [settings_of_error hcached hload]
      exact ⟨hcached, rfl⟩
    | ok v =>
      rw [settings_of_ok hcached hload]
      exact ⟨rfl, rfl⟩

theorem answer_store_none (s : Session) (w : World) :
    s.answer (.store none) w =
      match s.settings with
      | (.error f, s) => (.error f, s, w)
      | (.ok found, s) => s.answer (.store (some found.2)) w := by
  rw [answer, storeClient]
  rcases s.settings with ⟨f | found, s'⟩ <;> rfl

end Reading

section Exchanges

variable {s : Session} {m : Move} {w : World}

theorem left_of_not_asks (h : m.asks = false) :
    (s.exchange m w).left.1.cached = (if m.clears then none else s.cached) ∧
      (s.exchange m w).left.1.built = s.built := by
  cases m with
  | assign changes => exact ⟨rfl, rfl⟩
  | file text => exact ⟨rfl, rfl⟩
  | clear => exact ⟨rfl, rfl⟩
  | settings => cases h
  | demand d =>
    cases d with
    | store given =>
      cases given with
      | none => cases h
      | some settings => exact ⟨rfl, rfl⟩
    | _ => exact ⟨rfl, rfl⟩

theorem left_of_asks (h : m.asks = true) :
    (s.exchange m w).left.1.cached = s.settings.2.cached ∧
      (s.exchange m w).left.1.built = s.settings.2.built := by
  cases m with
  | settings => exact ⟨rfl, rfl⟩
  | demand d =>
    cases d with
    | store given =>
      cases given with
      | some settings => cases h
      | none =>
        show (s.answer (.store none) w).2.1.cached = _ ∧ (s.answer (.store none) w).2.1.built = _
        rw [answer_store_none]
        rcases s.settings with ⟨f | found, s'⟩ <;> exact ⟨rfl, rfl⟩
    | _ => cases h
  | _ => cases h

theorem left_settings (s : Session) (m : Move) (w : World) :
    (s.exchange m w).left.1.cached =
        (if m.clears then none else s.cached.or (s.exchange m w).sound?) ∧
      (s.exchange m w).left.1.built =
        s.built + if s.cached.isNone && (s.exchange m w).sound?.isSome then 1 else 0 := by
  cases hasks : m.asks with
  | true =>
    have hclears : m.clears = false := by
      cases m with
      | clear => cases hasks
      | _ => rfl
    have hsound : (s.exchange m w).sound? = (Settings.load s.sources).toOption.map (s.built, ·) :=
      if_pos hasks
    obtain ⟨hcached, hbuilt⟩ := left_of_asks (s := s) (w := w) hasks
    rw [hcached, hbuilt, hsound, hclears]
    exact s.kept_settings
  | false =>
    have hsound : (s.exchange m w).sound? = none := Exchange.sound?_of_not_asks hasks
    obtain ⟨hcached, hbuilt⟩ := left_of_not_asks (s := s) (w := w) hasks
    rw [hcached, hbuilt, hsound]
    simp

end Exchanges

end Session

namespace Exchange

theorem wraps_of_get {x : Exchange} {region : String}
    (houtcome : x.outcome = (x.found.1.registry.get region x.found.2).1.map .client)
    (hregistry : x.left.1.registry = (x.found.1.registry.get region x.found.2).2.1)
    (hworld : x.left.2 = (x.found.1.registry.get region x.found.2).2.2) : x.Wraps region := by
  obtain ⟨move, ⟨s, w⟩, outcome, left⟩ := x
  dsimp only at houtcome hregistry hworld
  -- a kept client is handed out again, and without one a creation is attempted
  cases hfound : s.registry.clients.get? region with
  | some kept =>
    rw [Registry.get_of_some hfound] at houtcome hregistry hworld
    constructor
    · intro client hclient
      obtain rfl : kept = client := Option.some.inj (hfound.symm.trans hclient)
      exact ⟨houtcome, hregistry, hworld⟩
    · intro f hnone
      cases hfound.symm.trans hnone
    · intro hnone
      cases hfound.symm.trans hnone
    · intro client hclient
      cases houtcome.symm.trans hclient
      show left.1.registry.clients.get? region = some kept
      rw [hregistry]
      exact hfound
  | none =>
    rw [Registry.get_of_none hfound] at houtcome hregistry
    constructor
    · intro client hclient
      cases hfound.symm.trans hclient
    · intro f _ hf
      dsimp only at hf
      rw [hf] at houtcome hregistry
      exact ⟨houtcome, hregistry⟩
    · intro _ hf
      dsimp only at hf
      rw [hf] at houtcome
      exact ⟨w.clients + 1, houtcome⟩
    · intro client hclient
      cases hf : w.script.create region (w.creations.count region) with
      | some f =>
        rw [hf] at houtcome
        cases houtcome.symm.trans hclient
      | none =>
        rw [hf] at houtcome hregistry
        cases houtcome.symm.trans hclient
        have hnew : region ∉ s.registry.clients.keys := Members.get?_eq_none.mp hfound
        show left.1.registry.clients.get? region = some (w.clients + 1)
        rw [hregistry, ← Members.set_of_notMem _ hnew, Members.get?_set, if_pos rfl]

end Exchange

namespace Session

section Exchanges

variable {s : Session} {m : Move} {w : World} {past : List Exchange}

theorem wraps_of_region {d : Demand} {region : String} (h : s.region? d = some region) :
    (s.exchange (.demand d) w).Wraps region := by
  obtain ⟨houtcome, hregistry, hworld⟩ := answer_of_region h w
  refine Exchange.wraps_of_get ?_ hregistry hworld
  show (s.answer d w).1.map _ = (s.registry.get region w).1.map _
  rw [houtcome]
  cases (s.registry.get region w).1 <;> rfl

theorem inForce_exchange (h : s.cached = Exchange.inForce past) :
    Exchange.inForce (past ++ [s.exchange m w]) = (s.exchange m w).left.1.cached := by
  rw [Exchange.inForce_concat, (left_settings s m w).1, h]
  rfl

theorem settings_of_inForce (h : s.cached = Exchange.inForce past) (hasks : m.asks = true)
    {found : Nat × Settings}
    (hforce : Exchange.inForce (past ++ [s.exchange m w]) = some found) :
    s.settings.1 = .ok found := by
  rw [inForce_exchange h, (left_of_asks hasks).1, (kept_settings s).1] at hforce
  cases hcached : s.cached with
  | some kept =>
    rw [hcached, Option.some_or] at hforce
    rw [settings_of_cached hcached, Option.some.inj hforce]
  | none =>
    cases hload : Settings.load s.sources with
    | error f =>
      rw [hcached, hload] at hforce
      cases hforce
    | ok v =>
      rw [hcached, hload] at hforce
      rw [settings_of_ok hcached hload, ← Option.some.inj hforce]

theorem environment_exchange (name : String) :
    (s.exchange m w).left.1.environment.get? name =
      (m.assigned? name).getD (s.environment.get? name) := by
  have hsettings : s.settings.2.environment = s.environment := by
    cases hcached : s.cached with
    | some found => rw [settings_of_cached hcached]
    | none =>
      cases hload : Settings.load s.sources with
      | error f => rw [settings_of_error hcached hload]
      | ok v => rw [settings_of_ok hcached hload]
  cases m with
  | assign changes => exact get?_setVariables s changes name
  | settings =>
    show s.settings.2.environment.get? name = _
    rw [hsettings]
    rfl
  | demand d =>
    cases d with
    | store given =>
      cases given with
      | some settings => rfl
      | none =>
        show (s.answer (.store none) w).2.1.environment.get? name = s.environment.get? name
        rw [answer_store_none, ← hsettings]
        rcases s.settings with ⟨f | found, s'⟩ <;> rfl
    | _ => rfl
  | _ => rfl

theorem faithful_exchange (h : s.cached = Exchange.inForce past) (m : Move) (w : World) :
    (s.exchange m w).Faithful past := by
  constructor
  case found => exact h
  case left => exact (inForce_exchange h).symm
  case environment => exact environment_exchange
  case recalled =>
    intro number v hforce hm
    obtain rfl : m = .settings := hm
    have hsettings := settings_of_cached (h.trans hforce)
    show s.settings.1.map _ = _ ∧ (s.settings.2, w) = (s, w)
    rw [hsettings]
    exact ⟨rfl, rfl⟩
  case built =>
    intro v hforce hm hload
    obtain rfl : m = .settings := hm
    have hsettings := settings_of_ok (h.trans hforce) hload
    have hleft : (s.exchange .settings w).left.1 = s.settings.2 := rfl
    rw [inForce_exchange h, hleft, hsettings]
    show s.settings.1.map _ = _ ∧ _
    rw [hsettings]
    exact ⟨rfl, rfl⟩
  case refused =>
    intro f hforce hasks hload
    have hsettings := settings_of_error (h.trans hforce) hload
    -- only a reading and a store without settings of its own ask for the settings
    have hleft : (s.exchange m w).outcome = .error f ∧ (s.exchange m w).left = (s, w) := by
      cases m with
      | settings =>
        show s.settings.1.map _ = _ ∧ (s.settings.2, w) = (s, w)
        rw [hsettings]
        exact ⟨rfl, rfl⟩
      | demand d =>
        cases d with
        | store given =>
          cases given with
          | some settings => cases hasks
          | none =>
            show (s.answer (.store none) w).1.map _ = _ ∧ (s.answer (.store none) w).2 = _
            rw [answer_store_none, hsettings]
            exact ⟨rfl, rfl⟩
        | _ => cases hasks
      | _ => cases hasks
    refine ⟨hleft.1, hleft.2, ?_⟩
    rw [inForce_exchange h, hleft.2]
    exact h.trans hforce
  case served =>
    intro given v hm hgiven
    obtain rfl : m = .demand (.store given) := hm
    apply wraps_of_region
    cases given with
    | some settings =>
      obtain rfl : settings = v := Option.some.inj hgiven
      rfl
    | none =>
      obtain ⟨found, hforce, rfl⟩ := Option.map_eq_some_iff.mp hgiven
      show s.settings.1.toOption.map _ = _
      rw [settings_of_inForce h rfl hforce]
      rfl
  case apart =>
    intro v hm
    obtain rfl : m = .demand (.store (some v)) := hm
    refine ⟨?_, fun other hother => ?_⟩
    · rw [inForce_exchange h]
      exact h
    · show _ = (s.answer (.store (some v)) w).1.map _ ∧ _
      -- the settings are given, so those of the session play no part
      have hregion (s : Session) : s.region? (.store (some v)) = some v.region := rfl
      obtain ⟨houtcome, hregistry, hworld⟩ := answer_of_region (hregion s) w
      obtain ⟨houtcome', hregistry', hworld'⟩ := answer_of_region (hregion other) w
      rw [hother] at houtcome' hregistry' hworld'
      refine ⟨?_, rfl, hregistry'.trans hregistry.symm, hworld'.trans hworld.symm⟩
      show (other.answer (.store (some v)) w).1.map _ = _
      rw [houtcome, houtcome']
      rfl

end Exchanges

section Numbers

structure Numbered (least : Nat) (s : Session) : Prop where
  enough : least ≤ s.built
  kept (found) : s.cached = some found → least ≤ found.1 ∧ found.1 < s.built

theorem Numbered.exchange {least : Nat} {s : Session} (h : Numbered least s) (m : Move)
    (w : World) : Numbered least (s.exchange m w).left.1 := by
  obtain ⟨hcached, hbuilt⟩ := left_settings s m w
  refine ⟨hbuilt ▸ Nat.le_add_right_of_le h.enough, fun found hfound => ?_⟩
  rw [hcached] at hfound
  rw [hbuilt]
  split at hfound
  · cases hfound
  · rcases hkept : s.cached with _ | kept
    · -- what has just been built has the next number
      rw [hkept, Option.none_or] at hfound
      have hnumber : found.1 = s.built := by
        unfold Exchange.sound? at hfound
        split at hfound
        · obtain ⟨v, -, rfl⟩ := Option.map_eq_some_iff.mp hfound
          rfl
        · cases hfound
      simpa [hfound, hnumber] using h.enough
    · rw [hkept, Option.some_or] at hfound
      obtain rfl := Option.some.inj hfound
      have hold := h.kept kept hkept
      exact ⟨hold.1, Nat.lt_add_right _ hold.2⟩

theorem cached_of_answer {s : Session} {m : Move} {w : World} {number : Nat} {v : Settings}
    (h : (s.exchange m w).outcome = .ok (.settings number v)) :
    (s.exchange m w).left.1.cached = some (number, v) ∧
      ∀ found, s.cached = some found → found = (number, v) := by
  cases m with
  | settings =>
    change s.settings.1.map _ = _ at h
    show s.settings.2.cached = _ ∧ _
    cases hcached : s.cached with
    | some found =>
      rw [settings_of_cached hcached] at h ⊢
      cases h
      exact ⟨hcached, fun _ h => (Option.some.inj h).symm⟩
    | none =>
      cases hload : Settings.load s.sources with
      | error f =>
        rw [settings_of_error hcached hload] at h
        cases h
      | ok v =>
        rw [settings_of_ok hcached hload] at h ⊢
        cases h
        exact ⟨rfl, nofun⟩
  | demand d =>
    -- demands are answered by clients, never by settings
    change (s.answer d w).1.map _ = _ at h
    cases hanswer : (s.answer d w).1 with
    | error f =>
      rw [hanswer] at h
      cases h
    | ok client =>
      rw [hanswer] at h
      cases client <;> cases h
  | _ => cases h

variable {ms : List Move} {s : Session} {w : World} {before after : List Exchange} {x : Exchange}

theorem found_of_exchanges {K : Move → Prop} {I : Session → Prop}
    (hstep : ∀ s m w, K m → I s → I (s.exchange m w).left.1) (hs : I s)
    (hsplit : exchanges ms s w = before ++ x :: after) (hbefore : ∀ u ∈ before, K u.move) :
    I x.found.1 := by
  induction before generalizing ms s w with
  | nil =>
    cases ms with
    | nil => cases hsplit
    | cons m ms =>
      obtain ⟨rfl, -⟩ := List.cons.inj hsplit
      exact hs
  | cons first before ih =>
    cases ms with
    | nil => cases hsplit
    | cons m ms =>
      obtain ⟨rfl, hrest⟩ := List.cons.inj hsplit
      rw [List.forall_mem_cons] at hbefore
      exact ih (hstep s m w hbefore.1 hs) hrest hbefore.2

theorem exchanges_split (hsplit : exchanges ms s w = before ++ x :: after) :
    x = x.found.1.exchange x.move x.found.2 ∧ ∃ rest, after = exchanges rest x.left.1 x.left.2 := by
  induction before generalizing ms s w with
  | nil =>
    cases ms with
    | nil => cases hsplit
    | cons m ms =>
      obtain ⟨rfl, rfl⟩ := List.cons.inj hsplit
      exact ⟨rfl, ms, rfl⟩
  | cons first before ih =>
    cases ms with
    | nil => cases hsplit
    | cons m ms => exact ih (List.cons.inj hsplit).2

theorem numbered_of_exchanges {least : Nat} (hs : Numbered least s)
    (hsplit : exchanges ms s w = before ++ x :: after) : Numbered least x.found.1 :=
  found_of_exchanges (K := fun _ => True) (I := Numbered least) (fun _ m w _ h => h.exchange m w)
    hs hsplit fun _ _ => trivial

theorem built_le_of_exchanges (hsplit : exchanges ms s w = before ++ x :: after) :
    s.built ≤ x.found.1.built :=
  found_of_exchanges (K := fun _ => True) (I := fun s' => s.built ≤ s'.built)
    (fun s m w _ h => (left_settings s m w).2 ▸ Nat.le_add_right_of_le h) (Nat.le_refl _) hsplit
    fun _ _ => trivial

theorem numbered_of_clears {s : Session} {m : Move} {w : World} (h : m.clears = true) :
    Numbered s.built (s.exchange m w).left.1 := by
  obtain ⟨hcached, hbuilt⟩ := left_settings s m w
  rw [h] at hcached
  refine ⟨hbuilt ▸ Nat.le_add_right .., fun found hfound => ?_⟩
  cases hcached.symm.trans hfound

section Readings

variable {between : List Exchange} {x' : Exchange} {number number' : Nat} {v v' : Settings}
  (hsplit : exchanges ms s w = before ++ x :: (between ++ x' :: after))
  (hx : x.outcome = .ok (.settings number v)) (hx' : x'.outcome = .ok (.settings number' v'))
include hsplit hx hx'

theorem number_lt_of_clears {least : Nat} (hs : Numbered least s) {u : Exchange} (hu : u ∈ between)
    (hclear : u.move.clears = true) : number < number' := by
  obtain ⟨hexchange, rest, hrest⟩ := exchanges_split hsplit
  obtain ⟨first, second, rfl⟩ := List.append_of_mem hu
  rw [List.append_assoc, List.cons_append] at hrest
  obtain ⟨huexchange, more, hmore⟩ := exchanges_split hrest.symm
  obtain ⟨hexchange', -⟩ := exchanges_split hmore.symm
  rw [hexchange] at hx
  rw [hexchange'] at hx'
  have hnumber : number < x.left.1.built := by
    have hleft := (numbered_of_exchanges hs hsplit).exchange x.move x.found.2
    have hkept := (hleft.kept _ (cached_of_answer hx).1).2
    rwa [← hexchange] at hkept
  have hbuilt : x.left.1.built ≤ u.found.1.built := built_le_of_exchanges hrest.symm
  have hnumber' : u.found.1.built ≤ number' := by
    have hleft : Numbered u.found.1.built u.left.1 := by
      rw [huexchange]
      exact numbered_of_clears hclear
    have hlast := (numbered_of_exchanges hleft hmore.symm).exchange x'.move x'.found.2
    exact (hlast.kept _ (cached_of_answer hx').1).1
  exact Nat.lt_of_lt_of_le hnumber (Nat.le_trans hbuilt hnumber')

theorem number_eq_of_not_clears (h : ∀ u ∈ between, u.move.clears = false) : number = number' := by
  obtain ⟨hexchange, rest, hrest⟩ := exchanges_split hsplit
  obtain ⟨hexchange', -⟩ := exchanges_split hrest.symm
  rw [hexchange] at hx
  rw [hexchange'] at hx'
  have hcached : x.left.1.cached = some (number, v) := by
    rw [hexchange]
    exact (cached_of_answer hx).1
  have hkept : x'.found.1.cached = some (number, v) :=
    found_of_exchanges (K := fun m => m.clears = false)
      (I := fun s => s.cached = some (number, v))
      (fun s m w hm h => by rw [(left_settings s m w).1, hm, h]; rfl) hcached hrest.symm h
  exact congrArg Prod.fst ((cached_of_answer hx').2 _ hkept)

theorem number_eq_iff {least : Nat} (hs : Numbered least s) :
    number = number' ↔ ∀ u ∈ between, u.move.clears = false := by
  constructor
  · intro hnumber u hu
    by_contra hclear
    have hlt := number_lt_of_clears hsplit hx hx' hs hu (by simpa using hclear)
    exact Nat.ne_of_lt hlt hnumber
  · exact number_eq_of_not_clears hsplit hx hx'

end Readings

end Numbers

theorem faithful_exchanges {past : List Exchange} {s : Session}
    (h : s.cached = Exchange.inForce past)
    (ms : List Move) (w : World) :
    ∀ before x after, exchanges ms s w = before ++ x :: after → x.Faithful (past ++ before) := by
  induction ms generalizing past s w with
  | nil =>
    intro before x after hsplit
    exact absurd hsplit.symm (List.append_ne_nil_of_right_ne_nil _ (List.cons_ne_nil x after))
  | cons m ms ih =>
    intro before x after hsplit
    have hfirst := faithful_exchange h m w
    cases before with
    | nil =>
      obtain ⟨rfl, -⟩ := List.cons.inj hsplit
      rwa [List.append_nil]
    | cons first before =>
      obtain ⟨rfl, hrest⟩ := List.cons.inj hsplit
      have hx := ih hfirst.left _ before x after hrest
      rwa [List.append_assoc] at hx

theorem exchanges_moves (ms : List Move) (s : Session) (w : World) :
    (exchanges ms s w).map Exchange.move = ms := by
  induction ms generalizing s w with
  | nil => rfl
  | cons m ms ih => rw [exchanges, List.map_cons, ih, exchange]

/-- From a cleared session on every exchange is faithful to those before it, and two readings give
the same settings exactly if there is no clear between them. -/
theorem exchanges_keep_settings (ms : List Move) (s : Session) (w : World) :
    let xs := exchanges ms s.clear w
    xs.map Exchange.move = ms ∧
      (∀ before x after, xs = before ++ x :: after → x.Faithful before) ∧
      ∀ before x between x' after, xs = before ++ x :: (between ++ x' :: after) →
        ∀ number v number' v', x.outcome = .ok (.settings number v) →
          x'.outcome = .ok (.settings number' v') →
          (number = number' ↔ ∀ u ∈ between, u.move.clears = false) := by
  intro xs
  have hempty : s.clear.cached = Exchange.inForce [] := rfl
  have hnumbered : Numbered 0 s.clear := ⟨Nat.zero_le _, nofun⟩
  refine ⟨exchanges_moves ms s.clear w, fun before x after hsplit => ?_, ?_⟩
  · exact faithful_exchanges hempty ms w before x after hsplit
  · intro before x between x' after hsplit number v number' v' hx hx'
    exact number_eq_iff hsplit hx hx' hnumbered

def Answer.shown : Answer → Option (Nat × Option String)
  | .nothing => none
  | .settings number s => some (number, some s.region)
  | .client number => some (number, none)

theorem settings_of_shown {outcome : Except Failure Answer} {number : Nat} {region : String}
    (h : outcome.toOption.map Answer.shown = some (some (number, some region))) :
    ∃ v, outcome = .ok (.settings number v) := by
  rcases outcome with f | _ | ⟨number', v⟩ | client
  · cases h
  · cases h
  · cases h
    exact ⟨v, rfl⟩
  · cases h

theorem exchanges_keep_settings_troubled :
    let w : World := { script := Script.replying [] }
    let ms : List Move :=
      [.assign [("ITEM_LOADER_BATCHES", some "0"), ("AWS_REGION", some "eu-west-1")], .settings,
        .demand (.store none), .assign [("ITEM_LOADER_BATCHES", none)], .settings,
        .assign [("AWS_REGION", some "ap-south-1")], .demand (.store none),
        .demand (.store (some {})), .clear, .settings, .demand (.store none)]
    let xs := exchanges ms ({} : Session).clear w
    xs.map (fun x => x.outcome.toOption.map Answer.shown) =
        [some none, none, none, some none, some (some (0, some "eu-west-1")), some none,
          some (some (1, none)), some (some (2, none)), some none,
          some (some (1, some "ap-south-1")), some (some (3, none))] ∧
      (∃ x, xs[6]? = some x ∧ x.Faithful (xs.take 6) ∧ x.Wraps "eu-west-1") ∧
      ¬ ∀ u ∈ (xs.drop 5).take 4, u.move.clears = false := by
  intro w ms xs
  obtain ⟨-, hfaithful, hnumbers⟩ := exchanges_keep_settings ms {} w
  have hdrop {k : Nat} {x : Exchange} (h : xs[k]? = some x) : xs.drop k = x :: xs.drop (k + 1) := by
    obtain ⟨hlt, rfl⟩ := List.getElem?_eq_some_iff.mp h
    exact List.drop_eq_getElem_cons hlt
  have hread (k number : Nat) (region : String)
      (h : xs[k]?.map (fun x => x.outcome.toOption.map Answer.shown) =
        some (some (some (number, some region)))) :
      ∃ x v, xs[k]? = some x ∧ x.outcome = .ok (.settings number v) := by
    obtain ⟨x, hx, hshown⟩ := Option.map_eq_some_iff.mp h
    obtain ⟨v, hv⟩ := settings_of_shown hshown
    exact ⟨x, v, hx, hv⟩
  refine ⟨by decide +kernel, ?_, fun hclears => ?_⟩
  · have hstore : xs[6]?.map Exchange.move = some (.demand (.store none)) := by rfl
    obtain ⟨x, hx, hmove⟩ := Option.map_eq_some_iff.mp hstore
    have hregion : (Exchange.inForce (xs.take 7)).map (fun found => found.2.region) =
        some "eu-west-1" := by
      decide +kernel
    obtain ⟨found, hfound, hregion⟩ := Option.map_eq_some_iff.mp hregion
    rw [List.take_add_one, hx] at hfound
    have hsplit : xs = xs.take 6 ++ x :: xs.drop 7 := by
      rw [← hdrop hx, List.take_append_drop]
    have hfaithful := hfaithful (xs.take 6) x (xs.drop 7) hsplit
    have hwraps := hfaithful.served none found.2 hmove (by rw [← Option.toList_some, hfound]; rfl)
    rw [hregion] at hwraps
    exact ⟨x, hx, hfaithful, hwraps⟩
  · obtain ⟨x, v, hx, hv⟩ := hread 4 0 "eu-west-1" (by decide +kernel)
    obtain ⟨x', v', hx', hv'⟩ := hread 9 1 "ap-south-1" (by decide +kernel)
    have hsplit : xs = xs.take 4 ++ x :: ((xs.drop 5).take 4 ++ x' :: xs.drop 10) := by
      rw [← hdrop hx', ← List.drop_drop (i := 4) (j := 5), List.take_append_drop, ← hdrop hx,
        List.take_append_drop]
    exact absurd ((hnumbers _ x _ x' _ hsplit 0 v 1 v' hv hv').mpr hclears) Nat.zero_ne_one

end Session

end TableSeeder
