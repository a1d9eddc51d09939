import TableSeeder.Log.Setup
import TableSeeder.Proofs.Surroundings

/-! Entries on their way to the error stream: while the clock tells a time, every entry can be
written in any setup, and what a setup with handlers writes begins the way records do, or reports
that one could not be formatted. -/

namespace TableSeeder.Log

/-- The clock tells a time, though not always one that has a date. -/
def Ticks (wall : Float) : Prop := ∃ now, wholeSeconds wall = .ok now

/-- The beginning of a record: a date, or an object whose first member follows at once. A report
begins with neither the word nor the bracket that is excluded here. -/
def StartsRecord (line : String) : Prop :=
  ∃ c cs, line.toList = c :: cs ∧ c ≠ 'C' ∧ (c = '{' → cs.head? = some '"')

theorem StartsRecord.append {line : String} (h : StartsRecord line) (more : String) :
    StartsRecord (line ++ more) := by
  obtain ⟨c, cs, hline, hc, hopen⟩ := h
  refine ⟨c, cs ++ more.toList, by rw [String.toList_append, hline, List.cons_append], hc, ?_⟩
  intro h
  rw [List.head?_append, hopen h]
  rfl

theorem startsRecord_of_cons {line : String} {c : Char} {cs : List Char}
    (h : line.toList = c :: cs) (hc : c ≠ 'C') (hopen : c ≠ '{') : StartsRecord line :=
  ⟨c, cs, h, hc, fun h => absurd h hopen⟩

section Dates

theorem mem_toString {n : Int} {c : Char} (h : c ∈ (toString n).toList) :
    c = '-' ∨ c.isDigit = true := by
  have hdigit {m : Nat} (hm : c ∈ (Nat.repr m).toList) : c.isDigit = true := by
    rw [Nat.repr_eq_ofList_toDigits, String.toList_ofList] at hm
    exact Nat.isDigit_of_mem_toDigits (by omega) (by omega) hm
  cases n with
  | ofNat m => exact .inr (hdigit h)
  | negSucc m =>
    change c ∈ ("-" ++ Nat.repr m.succ).toList at h
    rw [String.toList_append, List.mem_append] at h
    rcases h with h | h
    · exact .inl (List.mem_singleton.mp h)
    · exact .inr (hdigit h)

theorem startsRecord_of_year (year : Int) (rest : String) :
    StartsRecord (toString year ++ ("-" ++ rest)) := by
  have hchar {c : Char} (hc : c = '-' ∨ c.isDigit = true) : c ≠ 'C' ∧ c ≠ '{' := by
    constructor <;> rintro rfl <;> rcases hc with hc | hc <;> cases hc
  cases hyear : (toString year).toList with
  | nil =>
    have hline : (toString year ++ ("-" ++ rest)).toList = '-' :: rest.toList := by
      rw [String.toList_append, hyear, String.toList_append]
      rfl
    exact startsRecord_of_cons hline (by decide) (by decide)
  | cons c cs =>
    have hc := hchar (mem_toString (hyear ▸ List.mem_cons_self))
    have hline : (toString year ++ ("-" ++ rest)).toList = c :: (cs ++ ("-" ++ rest).toList) := by
      rw [String.toList_append, hyear, List.cons_append]
    exact startsRecord_of_cons hline hc.1 hc.2

theorem startsRecord_of_stamp {now : Int} {date : String} (h : stamp now = .ok date) :
    StartsRecord date := by
  unfold stamp at h
  dsimp only at h
  split at h
  · cases h
  split at h
  · cases h
  split at h
  · cases h
  obtain rfl := Except.ok.inj h
  simp only [String.append_assoc]
  exact startsRecord_of_year _ _

end Dates

section Objects

variable {α : Type}

theorem merge_cons_eq (k : Points) (v : α) (ms later : Members α Points) :
    ∃ v' ms', Members.merge ((k, v) :: ms) later = (k, v') :: ms' := by
  induction later generalizing v ms with
  | nil => exact ⟨v, ms, rfl⟩
  | cons m later ih =>
    rw [Members.merge_cons, Members.set]
    by_cases hk : k = m.1
    · rw [if_pos hk]
      exact ih m.2 ms
    · rw [if_neg hk]
      exact ih v _

theorem startsRecord_of_object (k : Points) (v : List Char) (ms : Members (List Char) Points) :
    StartsRecord (String.ofList (Json.object ((k, v) :: ms))) := by
  refine ⟨'{', _, String.toList_ofList, by decide, fun _ => ?_⟩
  cases ms <;> rfl

theorem startsRecord_of_jsonLine {r : Record} {line : String} (h : r.jsonLine = .ok line) :
    StartsRecord line := by
  unfold Record.jsonLine at h
  split at h
  · rename_i message report _ _
    obtain rfl := Except.ok.inj h
    unfold Record.payload
    -- the level stays in front, whatever value it takes
    obtain ⟨v, ms, hpayload⟩ := merge_cons_eq "level" (Json.write r.level)
      [("logger", Json.write r.logger), ("message", Json.text message)]
      (Members.mapValues Json.write
        (((r.shownFields.merge report).merge r.stackFields).merge r.nestedFields))
    dsimp only
    rw [hpayload]
    exact startsRecord_of_object "level" v ms
  · cases h
  · cases h

end Objects

namespace Setup

theorem startsRecord_of_formatted {format : Format} {now : Int} {r : Record} {line : String}
    (h : formatted format now r = .ok line) : StartsRecord line := by
  unfold formatted at h
  cases format with
  | json => exact startsRecord_of_jsonLine h
  | console =>
    dsimp only at h
    split at h
    · cases h
    · cases h
    · rename_i date _ hdate
      obtain rfl := Except.ok.inj h
      simp only [String.append_assoc]
      exact (startsRecord_of_stamp hdate).append _

theorem startsRecord_of_report (e : Error) : StartsRecord e.report := by
  obtain ⟨rest, hrest⟩ : ∃ rest, "--- Logging error ---\n".toList = '-' :: rest := ⟨_, rfl⟩
  have hstarts : StartsRecord "--- Logging error ---\n" :=
    startsRecord_of_cons hrest (by decide) (by decide)
  unfold Error.report
  rw [String.append_assoc]
  exact hstarts.append _

theorem startsRecord_of_written (format : Format) (now : Int) (r : Record) :
    StartsRecord (written (formatted format now r)) := by
  cases h : formatted format now r with
  | error e => exact startsRecord_of_report e
  | ok line => exact (startsRecord_of_formatted h).append "\n"

theorem startsRecord_of_handle (h : Handler) (level now : Int) (r : Record) :
    handle h level now r = "" ∨ StartsRecord (handle h level now r) := by
  unfold handle
  cases h with
  | silent => exact .inl rfl
  | stream least format =>
    dsimp only
    split
    · exact .inr (startsRecord_of_written format now r)
    · exact .inl rfl

theorem startsRecord_of_handleAll (level now : Int) (r : Record) (hs : List Handler) :
    handleAll level now r hs = "" ∨ StartsRecord (handleAll level now r hs) := by
  induction hs with
  | nil => exact .inl rfl
  | cons h hs ih =>
    rw [handleAll]
    rcases startsRecord_of_handle h level now r with hnone | hstarts
    · rw [hnone, String.empty_append]
      exact ih
    · exact .inr (hstarts.append _)

theorem startsRecord_of_writeEntry {s : Setup} {wall : Float} {e : Entry} {line : String}
    (hs : s.handlers ≠ []) (h : s.writeEntry wall e = .ok line) :
    line = "" ∨ StartsRecord line := by
  have hhandlers : s.handlers.isEmpty = false := List.isEmpty_eq_false_iff.mpr hs
  unfold writeEntry write at h
  split at h
  · exact .inl (Except.ok.inj h).symm
  · cases hnow : wholeSeconds wall with
    | error e =>
      rw [hnow] at h
      cases h
    | ok now =>
      rw [hnow] at h
      dsimp only at h
      rw [writeAdmitted, hhandlers, if_neg Bool.false_ne_true] at h
      rw [← Except.ok.inj h]
      exact startsRecord_of_handleAll e.level now e.record s.handlers

theorem configure_unknown {level : String} (h : Level.ofName? level = none) (s : Setup)
    (json : Bool) : s.configure (.text level) json true = .error .unknownLevel := by
  have hlevel : levelOf (.text level) = .error .unknownLevel := by rw [levelOf, h]
  rw [configure, hlevel]
  rfl

def single (level : Int) (json : Bool) : Setup where
  level
  handlers := [.stream level (if json then .json else .console)]
  libraries := Level.warning

theorem configure_single {name : String} {level : Int} (h : Level.ofName? name = some level)
    (s : Setup) (json : Bool) :
    s.configure (.text name) json true = .ok (single level json) := by
  have hlevel : levelOf (.text name) = .ok level := by rw [levelOf, h]
  rw [configure, hlevel]
  rfl

theorem configure_known {level : String} (h : (Level.ofName? level).isSome) (s : Setup)
    (json : Bool) :
    ∃ setup, s.configure (.text level) json true = .ok setup ∧ setup.handlers ≠ [] := by
  obtain ⟨n, hn⟩ := Option.isSome_iff_exists.mp h
  exact ⟨single n json, configure_single hn s json, by simp [single]⟩

end Setup

section Entries

variable {e : Entry} {wall : Float}

theorem Setup.failure?_eq_none (s : Setup) (hwall : Ticks wall) (e : Entry) :
    s.failure? wall e = none := by
  obtain ⟨now, hnow⟩ := hwall
  have hwrite : ∃ text, s.writeEntry wall e = .ok text := by
    unfold writeEntry write
    rw [hnow]
    split
    · exact ⟨"", rfl⟩
    · exact ⟨_, rfl⟩
  obtain ⟨text, htext⟩ := hwrite
  rw [failure?, htext]

end Entries

end TableSeeder.Log
