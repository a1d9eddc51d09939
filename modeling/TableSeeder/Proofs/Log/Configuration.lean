import Mathlib.Data.List.Infix
import TableSeeder.Proofs.Log.Writing

/-! A log that is set up again and again. In force are the level and the format of the last call
that took effect, and by these alone it is decided what becomes of a record of the program. -/

namespace TableSeeder.Log

inductive Act where
  | configure (level : String) (json force : Bool)
  | write (wall : Float) (name : String) (level : Int) (make : Except Error Record)

structure Deed where
  act : Act
  found : Setup
  outcome : Except Failure String
  left : Setup

namespace Setup

def perform (s : Setup) (a : Act) : Deed :=
  match a with
  | .configure level json force =>
    match s.configure (.text level) json force with
    | .error f => ⟨a, s, .error f, s⟩
    | .ok left => ⟨a, s, .ok "", left⟩
  | .write wall name level make => ⟨a, s, (s.write wall name level make).mapError .unlogged, s⟩

def deeds : List Act → Setup → List Deed
  | [], _ => []
  | a :: as, s => s.perform a :: deeds as (s.perform a).left

end Setup

def OfProgram (name : String) : Prop := "item_loader".toList <+: name.toList

namespace Deed

/-- What a deed puts in force, if it takes effect: a level, and whether records are shown as
JSON. -/
def effect? (d : Deed) : Option (Int × Bool) :=
  match d.act with
  | .configure level json force =>
    if force = true ∨ d.found.handlers = [] then (Level.ofName? level).map (·, json) else none
  | .write .. => none

def inForce (past : List Deed) : Option (Int × Bool) := past.reverse.findSome? effect?

/-- What a deed does, given the deeds before it and the setup before all of them. -/
structure Follows (start : Setup) (past : List Deed) (d : Deed) : Prop where
  handlers : d.left.handlers.length ≤ 1
  configured : d.found.handlers = [] ↔ inForce past = none
  unset : inForce (past ++ [d]) = none → d.left = start
  set (n json) : inForce (past ++ [d]) = some (n, json) → d.left.level = n ∧
    d.left.handlers = [.stream n (if json then .json else .console)]
  kept (level json) : d.act = .configure level json false → d.found.handlers ≠ [] →
    d.outcome = .ok "" ∧ d.left = d.found
  refused (level json force) : d.act = .configure level json force →
    force = true ∨ d.found.handlers = [] → Level.ofName? level = none →
    d.outcome = .error .unknownLevel ∧ d.left = d.found
  accepted (level json force n) : d.act = .configure level json force →
    force = true ∨ d.found.handlers = [] → Level.ofName? level = some n →
    d.outcome = .ok "" ∧ inForce (past ++ [d]) = some (n, json)
  written (wall name level make n json now r) : d.act = .write wall name level make →
    OfProgram name → inForce past = some (n, json) → n ≤ level → 0 < level →
    wholeSeconds wall = .ok now → make = .ok r →
    let formatted := Setup.formatted (if json then .json else .console) now r
    (∀ line, formatted = .ok line → d.outcome = .ok (line ++ "\n")) ∧
      ∀ e, formatted = .error e → d.outcome = .ok e.report
  passedOver (wall name level make n json) : d.act = .write wall name level make →
    OfProgram name → inForce past = some (n, json) → level < n → d.outcome = .ok ""

theorem inForce_concat (past : List Deed) (d : Deed) :
    inForce (past ++ [d]) = d.effect?.or (inForce past) := by
  rw [inForce, List.reverse_append, List.reverse_singleton, List.singleton_append,
    List.findSome?_cons, ← inForce]
  cases d.effect? <;> rfl

end Deed

namespace Setup

open Deed

section Names

theorem prefix_of_mem_parentsFrom {fuel : Nat} {reversed parent : List Char}
    (h : parent ∈ parentsFrom fuel reversed) : parent ≠ [] ∧ parent <+: reversed.reverse := by
  induction fuel generalizing reversed with
  | zero => cases h
  | succ fuel ih =>
    unfold parentsFrom at h
    split at h
    · rename_i dot before hcut
      have hbefore : before <:+ reversed :=
        (List.suffix_cons dot before).trans (hcut ▸ List.dropWhile_suffix _)
      split at h
      · cases h
      · rename_i hempty
        rcases List.mem_cons.mp h with rfl | h
        · exact ⟨by simpa using hempty, List.reverse_prefix.mpr hbefore⟩
        · obtain ⟨hne, hprefix⟩ := ih h
          have hrest : before.drop 1 <:+ reversed := (List.drop_suffix 1 before).trans hbefore
          exact ⟨hne, hprefix.trans (List.reverse_prefix.mpr hrest)⟩
    · cases h

theorem prefix_of_mem_parents {name parent : String} (h : parent ∈ parents name) :
    parent.toList ≠ [] ∧ parent.toList <+: name.toList := by
  obtain ⟨cs, hcs, rfl⟩ := List.mem_map.mp h
  obtain ⟨hne, hprefix⟩ := prefix_of_mem_parentsFrom hcs
  rw [List.reverse_reverse] at hprefix
  exact ⟨by rwa [String.toList_ofList], by rwa [String.toList_ofList]⟩

theorem head?_of_underLibrary {name : String} (h : underLibrary name = true) :
    ∃ library ∈ libraryNames, name.toList.head? = library.toList.head? := by
  obtain ⟨library, hlibrary, h⟩ := List.any_eq_true.mp h
  refine ⟨library, hlibrary, ?_⟩
  rcases Bool.or_eq_true_iff.mp h with h | h
  · rw [of_decide_eq_true h]
  · obtain ⟨hne, rest, hrest⟩ := prefix_of_mem_parents (List.contains_iff_mem.mp h)
    rw [← hrest, List.head?_append_of_ne_nil _ hne]

theorem underLibrary_ofProgram {name : String} (h : OfProgram name) :
    underLibrary name = false := by
  rw [← Bool.not_eq_true]
  intro hunder
  obtain ⟨library, hlibrary, hhead⟩ := head?_of_underLibrary hunder
  have hname : name.toList.head? = some 'i' := by
    obtain ⟨rest, hrest⟩ := h
    rw [← hrest]
    rfl
  rw [hname] at hhead
  revert library
  decide

end Names

section Steps

variable {s : Setup} {level : String} {json force : Bool} {n : Int}

theorem perform_kept (h : s.handlers ≠ []) (level : String) (json : Bool) :
    s.perform (.configure level json false) = ⟨.configure level json false, s, .ok "", s⟩ := by
  have hkept : s.configure (.text level) json false = .ok s := by
    rw [configure, List.isEmpty_eq_false_iff.mpr h]
    rfl
  rw [perform, hkept]

theorem configure_eq_forced (h : force = true ∨ s.handlers = []) (level : Value) (json : Bool) :
    s.configure level json force = s.configure level json true := by
  rcases h with rfl | h
  · rfl
  · simp [configure, h]

theorem perform_refused (h : force = true ∨ s.handlers = []) (hlevel : Level.ofName? level = none) :
    s.perform (.configure level json force) =
      ⟨.configure level json force, s, .error .unknownLevel, s⟩ := by
  rw [perform, configure_eq_forced h, configure_unknown hlevel]

theorem perform_accepted (h : force = true ∨ s.handlers = [])
    (hlevel : Level.ofName? level = some n) :
    s.perform (.configure level json force) =
      ⟨.configure level json force, s, .ok "", single n json⟩ := by
  rw [perform, configure_eq_forced h, configure_single hlevel]

theorem found_perform (s : Setup) (a : Act) : (s.perform a).act = a ∧ (s.perform a).found = s := by
  unfold perform
  cases a with
  | write => exact ⟨rfl, rfl⟩
  | configure level json force =>
    dsimp only
    split <;> exact ⟨rfl, rfl⟩

theorem effect?_perform (s : Setup) (level : String) (json force : Bool) :
    (s.perform (.configure level json force)).effect? =
      if force = true ∨ s.handlers = [] then (Level.ofName? level).map (·, json) else none := by
  obtain ⟨hact, hfound⟩ := found_perform s (.configure level json force)
  rw [effect?, hact, hfound]

theorem left_perform (s : Setup) (a : Act) :
    (s.perform a).left = (s.perform a).effect?.elim s fun (n, json) => single n json := by
  cases a with
  | write => rfl
  | configure level json force =>
    rw [effect?_perform]
    by_cases h : force = true ∨ s.handlers = []
    · rw [if_pos h]
      cases hlevel : Level.ofName? level with
      | none => rw [perform_refused h hlevel]; rfl
      | some n => rw [perform_accepted h hlevel]; rfl
    · rw [if_neg h]
      obtain ⟨hforce, hhandlers⟩ := not_or.mp h
      obtain rfl := Bool.eq_false_iff.mpr hforce
      rw [perform_kept hhandlers]
      rfl

end Steps

section Records

variable {name : String} {level n : Int} {json : Bool} {wall : Float}

theorem admits_single (hname : OfProgram name) (hpositive : 0 < level) (n : Int) (json : Bool) :
    (single n json).admits name level = decide (n ≤ level) := by
  simp [admits, effectiveLevel, underLibrary_ofProgram hname, hpositive, single]

theorem write_single (hname : OfProgram name) (hpositive : 0 < level) (hlevel : n ≤ level)
    {now : Int} (hnow : wholeSeconds wall = .ok now) (json : Bool) (r : Record) :
    (single n json).write wall name level (.ok r) =
      .ok (written (formatted (if json then .json else .console) now r)) := by
  unfold write
  rw [admits_single hname hpositive, hnow]
  simp [writeAdmitted, single, handleAll, handle, hlevel]

theorem write_single_below (hname : OfProgram name) (hlevel : level < n) (json : Bool)
    (wall : Float) (make : Except Error Record) :
    (single n json).write wall name level make = .ok "" := by
  unfold write
  simp [admits, effectiveLevel, underLibrary_ofProgram hname, single, Int.not_le.mpr hlevel]

end Records

section Runs

variable {start s : Setup} {past : List Deed}

/-- The setup after these deeds: that of the last one that took effect. -/
def standing (start : Setup) (past : List Deed) : Setup :=
  (inForce past).elim start fun (n, json) => single n json

theorem standing_concat (hs : s = standing start past) (a : Act) :
    (s.perform a).left = standing start (past ++ [s.perform a]) := by
  rw [left_perform, standing, inForce_concat]
  cases (s.perform a).effect? with
  | none => exact hs
  | some effect => rfl

theorem length_handlers_standing (h : start.handlers = []) (past : List Deed) :
    (standing start past).handlers.length ≤ 1 := by
  unfold standing
  cases inForce past with
  | none => simp [h]
  | some effect => exact Nat.le_refl 1

theorem handlers_standing_eq_nil_iff (h : start.handlers = []) (past : List Deed) :
    (standing start past).handlers = [] ↔ inForce past = none := by
  unfold standing
  cases inForce past with
  | none => simp [h]
  | some effect => simp [single]

theorem follows_perform (h : start.handlers = []) (hs : s = standing start past) (a : Act) :
    (s.perform a).Follows start past := by
  obtain ⟨hact, hfound⟩ := found_perform s a
  have hleft := standing_concat hs a
  constructor
  case handlers =>
    rw [hleft]
    exact length_handlers_standing h _
  case configured =>
    rw [hfound, hs]
    exact handlers_standing_eq_nil_iff h past
  case unset =>
    intro hnone
    rw [hleft, standing, hnone]
    rfl
  case set =>
    intro n json hsome
    rw [hleft, standing, hsome]
    exact ⟨rfl, rfl⟩
  case kept =>
    intro level json ha hhandlers
    obtain rfl := hact.symm.trans ha
    rw [hfound] at hhandlers
    rw [perform_kept hhandlers]
    exact ⟨rfl, rfl⟩
  case refused =>
    intro level json force ha htakes hlevel
    obtain rfl := hact.symm.trans ha
    rw [hfound] at htakes
    rw [perform_refused htakes hlevel]
    exact ⟨rfl, rfl⟩
  case accepted =>
    intro level json force n ha htakes hlevel
    obtain rfl := hact.symm.trans ha
    rw [hfound] at htakes
    rw [inForce_concat, effect?_perform, if_pos htakes, perform_accepted htakes hlevel, hlevel]
    exact ⟨rfl, rfl⟩
  case written =>
    intro wall name level make n json now r ha hname hforce hlevel hpositive hnow hmake
    obtain rfl := hact.symm.trans ha
    rw [standing, hforce] at hs
    -- the setup in force has a single handler, which writes the line or what went wrong with it
    have houtcome : (s.perform (.write wall name level make)).outcome =
        .ok (Setup.written (formatted (if json then .json else .console) now r)) := by
      rw [hs, hmake]
      exact congrArg (Except.mapError _) (write_single hname hpositive hlevel hnow json r)
    rw [houtcome]
    refine ⟨fun line hline => ?_, fun e he => ?_⟩
    · rw [hline]
      rfl
    · rw [he]
      rfl
  case passedOver =>
    intro wall name level make n json ha hname hforce hlevel
    obtain rfl := hact.symm.trans ha
    rw [standing, hforce] at hs
    rw [hs]
    exact congrArg (Except.mapError _) (write_single_below hname hlevel json wall make)

theorem follows_deeds (h : start.handlers = []) (hs : s = standing start past) (as : List Act) :
    ∀ before d after, s.deeds as = before ++ d :: after → d.Follows start (past ++ before) := by
  -- `past` grows by the deeds already done, and `s` stays the setup in force behind them
  induction as generalizing past s with
  | nil =>
    intro before d after hsplit
    exact absurd hsplit.symm (List.append_ne_nil_of_right_ne_nil _ (List.cons_ne_nil d after))
  | cons a as ih =>
    intro before d after hsplit
    cases before with
    | nil =>
      obtain ⟨rfl, -⟩ := List.cons.inj hsplit
      rw [List.append_nil]
      exact follows_perform h hs a
    | cons first before =>
      obtain ⟨rfl, hrest⟩ := List.cons.inj hsplit
      have hd := ih (standing_concat hs a) before d after hrest
      rwa [List.append_assoc] at hd

theorem map_act_deeds (as : List Act) (s : Setup) : (s.deeds as).map Deed.act = as := by
  induction as generalizing s with
  | nil => rfl
  | cons a as ih => rw [deeds, List.map_cons, ih, (found_perform s a).1]

end Runs

/-- Through any acts on a log that had no handler, the level and the format that were put in force
last decide what every act does. -/
theorem deeds_follow (as : List Act) {start : Setup} (h : start.handlers = []) :
    let ds := start.deeds as
    ds.map Deed.act = as ∧
      ∀ before d after, ds = before ++ d :: after → d.Follows start before := by
  have hstart : start = standing start [] := rfl
  exact ⟨map_act_deeds as start, follows_deeds h hstart as⟩

theorem deeds_follow_reconfigured :
    let logger := "item_loader.loader"
    let r : Record := { level := .text "DEBUG", logger := .text logger, message := .text "m" }
    let as : List Act :=
      [.configure "loud" true true, .configure "info" true false, .configure "loud" false false,
        .configure "Debug" false true, .configure "loud" true true,
        .write 1700000000.0 logger 10 (.ok r), .write 1700000000.0 logger 9 (.ok r)]
    let ds := ({} : Setup).deeds as
    ({} : Setup).handlers = [] ∧
      ds.map (fun d => (d.left.level, d.left.handlers)) =
        [(30, []), (20, [.stream 20 .json]), (20, [.stream 20 .json]), (10, [.stream 10 .console]),
          (10, [.stream 10 .console]), (10, [.stream 10 .console]), (10, [.stream 10 .console])] ∧
      ds.map (fun d => d.outcome.toOption) =
        [none, some "", some "", some "", none,
          some "2023-11-14 22:13:20 | DEBUG | item_loader.loader | m\n", some ""] ∧
      ∀ before d after, ds = before ++ d :: after → d.Follows {} before := by
  intro logger r as ds
  have hnone : ({} : Setup).handlers = [] := rfl
  exact ⟨hnone, by decide +kernel, by decide +kernel, (deeds_follow as hnone).2⟩

/-- A record at level zero is passed over though the level in force is zero, and of a record whose
arguments do not fit its message only that is written. -/
theorem deeds_lose_records :
    let logger := "item_loader.loader"
    let r : Record := { level := .text "NOTSET", logger := .text logger, message := .text "m" }
    let ds := ({} : Setup).deeds
      [.configure "NOTSET" false true, .write 1700000000.0 logger 0 (.ok r),
        .write 1700000000.0 logger 20 (.ok { r with arguments := .several [.text "x"] })]
    OfProgram logger ∧ inForce (ds.take 1) = some (0, false) ∧
      (formatted .console 1700000000 r).toOption =
        some "2023-11-14 22:13:20 | NOTSET | item_loader.loader | m" ∧
      ds.map (fun d => d.outcome.toOption) = [some "", some "",
        some ("--- Logging error ---\n" ++
          "TypeError: not all arguments converted during string formatting\n")] := by
  intro logger r ds
  have hlogger : OfProgram "item_loader.loader" := ⟨".loader".toList, rfl⟩
  exact ⟨hlogger, rfl, by decide +kernel, by decide +kernel⟩

end Setup

end TableSeeder.Log
