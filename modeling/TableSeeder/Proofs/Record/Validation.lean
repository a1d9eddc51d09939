import Mathlib.Tactic.ByContra
import TableSeeder.Proofs.Outcomes
import TableSeeder.Record

/-! Records read from data. Each field is read by itself, from the attribute name if the data have
it and else from the field's own name; every field that cannot be read is reported once, and no
other part of the data counts. -/

namespace TableSeeder.Record

section Texts

inductive Carries : Value → String → Prop where
  | text (s : String) : Carries (.text s) s
  | bytes {bs : List UInt8} {s : String} (h : s.toUTF8 = ⟨bs.toArray⟩) : Carries (.bytes bs) s

/-- Why a value carries no text that could stand in a field, by the code of the report. -/
inductive Faulty : Value → String → Prop where
  | notText {v : Value} (htext : ∀ s, v ≠ .text s) (hbytes : ∀ bs, v ≠ .bytes bs) :
      Faulty v "string_type"
  | notUnicode {bs : List UInt8} (h : ∀ s, ¬ Carries (.bytes bs) s) :
      Faulty (.bytes bs) "string_unicode"
  | emptyText {v : Value} (h : Carries v "") : Faulty v "string_too_short"

theorem decoded?_eq_some_iff {bs : List UInt8} {s : String} :
    Value.decoded? bs = some s ↔ s.toUTF8 = ⟨bs.toArray⟩ := by
  unfold Value.decoded? String.fromUTF8?
  constructor
  · intro h
    split at h
    · rw [← Option.some.inj h]
      rfl
    · cases h
  · intro h
    have hvalid : ByteArray.IsValidUTF8 ⟨bs.toArray⟩ := h ▸ s.isValidUTF8
    rw [dif_pos hvalid, Option.some.injEq, ← String.toByteArray_inj]
    exact h.symm

theorem carries_bytes_iff {bs : List UInt8} {s : String} :
    Carries (.bytes bs) s ↔ Value.decoded? bs = some s := by
  rw [decoded?_eq_some_iff]
  exact ⟨fun | .bytes h => h, .bytes⟩

theorem nonempty_eq_ok_iff {s : String} {t : NonemptyText} : nonempty s = .ok t ↔ s = t.val := by
  unfold nonempty
  constructor
  · intro h
    split at h
    · cases h
    · rw [← Except.ok.inj h]
  · rintro rfl
    rw [dif_neg t.property]

theorem nonempty_eq_error {s : String} {cause : Cause} (h : nonempty s = .error cause) :
    s = "" ∧ cause = .emptyText := by
  unfold nonempty at h
  split at h
  · rename_i hs
    exact ⟨hs, (Except.error.inj h).symm⟩
  · cases h

theorem checkText_eq_ok_iff {v : Value} {t : NonemptyText} :
    checkText v = .ok t ↔ Carries v t.val := by
  cases v with
  | text s =>
    rw [checkText, nonempty_eq_ok_iff]
    constructor
    · rintro rfl
      exact .text t.val
    · rintro ⟨⟩
      rfl
  | bytes bs =>
    rw [checkText, carries_bytes_iff]
    cases Value.decoded? bs with
    | none => simp
    | some s => simpa using nonempty_eq_ok_iff
  | _ =>
    constructor
    · intro h
      cases h
    · intro h
      cases h

theorem faulty_of_checkText {v : Value} {cause : Cause} (h : checkText v = .error cause) :
    Faulty v cause.code := by
  cases v with
  | text s =>
    obtain ⟨rfl, rfl⟩ := nonempty_eq_error h
    exact .emptyText (.text "")
  | bytes bs =>
    rw [checkText] at h
    cases hbs : Value.decoded? bs with
    | none =>
      rw [hbs] at h
      rw [← Except.error.inj h]
      apply Faulty.notUnicode
      intro s hs
      rw [carries_bytes_iff, hbs] at hs
      cases hs
    | some s =>
      rw [hbs] at h
      obtain ⟨rfl, rfl⟩ := nonempty_eq_error h
      exact .emptyText (carries_bytes_iff.mpr hbs)
  | _ =>
    rw [← Except.error.inj h]
    exact .notText nofun nofun

end Texts

namespace Field

variable {data : Members Value} {f : Field}

inductive FoundAt (data : Members Value) (f : Field) : String → Value → Prop where
  | attribute {v : Value} (h : data.get? f.attributeName = some v) :
      FoundAt data f f.attributeName v
  | name {v : Value} (hattribute : data.get? f.attributeName = none)
      (h : data.get? f.name = some v) : FoundAt data f f.name v

def Absent (data : Members Value) (f : Field) : Prop :=
  data.get? f.attributeName = none ∧ data.get? f.name = none

/-- What a field comes to: only a payload may be absent, and then it is the filler. -/
inductive Holds (data : Members Value) (f : Field) : NonemptyText → Prop where
  | found {key : String} {v : Value} {t : NonemptyText} (hfound : FoundAt data f key v)
      (h : Carries v t.val) : Holds data f t
  | absent (hf : f = .payload) (habsent : Absent data f) : Holds data f filler

/-- What is wrong with a field: the place that is reported and the code of the report. -/
inductive Offends (data : Members Value) (f : Field) : List String → String → Prop where
  | found {key : String} {v : Value} {code : String} (hfound : FoundAt data f key v)
      (h : Faulty v code) : Offends data f [key] code
  | absent (hf : f ≠ .payload) (habsent : Absent data f) :
      Offends data f [f.attributeName] "missing"

theorem find?_eq_some_iff {key : String} {v : Value} :
    find? data f = some (key, v) ↔ FoundAt data f key v := by
  unfold find?
  constructor
  · intro h
    split at h
    · rename_i hattribute
      cases h
      exact .attribute hattribute
    · rename_i hattribute
      obtain ⟨u, hu, heq⟩ := Option.map_eq_some_iff.mp h
      cases heq
      exact .name hattribute hu
  · rintro (h | ⟨hattribute, h⟩)
    · rw [h]
    · rw [hattribute, h]
      rfl

theorem find?_eq_none_iff : find? data f = none ↔ Absent data f := by
  unfold find? Absent
  cases data.get? f.attributeName <;> simp

theorem fallback?_eq_some_iff {t : NonemptyText} :
    fallback? f = some t ↔ f = .payload ∧ t = filler := by
  cases f <;> simp [fallback?, eq_comm]

end Field

section Fields

variable {data : Members Value} {f : Field}

theorem readField_of_found {key : String} {v : Value} (h : f.find? data = some (key, v)) :
    readField data f = (checkText v).mapError fun cause => ⟨[key], cause⟩ := by
  rw [readField, h]

theorem readField_of_absent (h : f.find? data = none) :
    readField data f = (fallback? f).elim (.error ⟨[f.attributeName], .missing⟩) .ok := by
  rw [readField, h]
  cases fallback? f <;> rfl

theorem readField_eq_ok_iff {t : NonemptyText} :
    readField data f = .ok t ↔ f.Holds data t := by
  cases hfind : f.find? data with
  | some found =>
    obtain ⟨key, v⟩ := found
    have hfound : f.FoundAt data key v := Field.find?_eq_some_iff.mp hfind
    rw [readField_of_found hfind]
    constructor
    · intro h
      exact .found hfound (checkText_eq_ok_iff.mp (ok_of_mapError h))
    · rintro (⟨hother, h⟩ | ⟨-, habsent⟩)
      · rw [← Field.find?_eq_some_iff, hfind] at hother
        cases hother
        rw [checkText_eq_ok_iff.mpr h]
        rfl
      · rw [← Field.find?_eq_none_iff, hfind] at habsent
        cases habsent
  | none =>
    -- only a payload may be absent, and then it is the filler
    have habsent : f.Absent data := Field.find?_eq_none_iff.mp hfind
    rw [readField_of_absent hfind]
    constructor
    · intro h
      cases hfallback : fallback? f with
      | none => simp [hfallback] at h
      | some u =>
        obtain ⟨hf, rfl⟩ := Field.fallback?_eq_some_iff.mp hfallback
        simp only [hfallback, Option.elim_some, Except.ok.injEq] at h
        exact h ▸ .absent hf habsent
    · rintro (⟨hfound, -⟩ | ⟨hf, -⟩)
      · rw [← Field.find?_eq_some_iff, hfind] at hfound
        cases hfound
      · rw [Field.fallback?_eq_some_iff.mpr ⟨hf, rfl⟩]
        rfl

theorem offends_of_readField {i : Issue} (h : readField data f = .error i) :
    f.Offends data i.place i.cause.code := by
  cases hfind : f.find? data with
  | some found =>
    obtain ⟨key, v⟩ := found
    rw [readField_of_found hfind] at h
    obtain ⟨cause, hcause, rfl⟩ := error_of_mapError h
    exact .found (Field.find?_eq_some_iff.mp hfind) (faulty_of_checkText hcause)
  | none =>
    rw [readField_of_absent hfind] at h
    cases hfallback : fallback? f with
    | some u => simp [hfallback] at h
    | none =>
      have hf : f ≠ .payload := by
        rintro rfl
        simp [fallback?] at hfallback
      simp only [hfallback, Option.elim_none, Except.error.injEq] at h
      exact h ▸ .absent hf (Field.find?_eq_none_iff.mp hfind)

theorem ext_get {r s : Record} (h : ∀ f, r.get f = s.get f) : r = s := by
  obtain ⟨artist, songTitle, albumTitle, payload⟩ := r
  have hartist : artist = s.artist := h .artist
  have hsongTitle : songTitle = s.songTitle := h .songTitle
  have halbumTitle : albumTitle = s.albumTitle := h .albumTitle
  have hpayload : payload = s.payload := h .payload
  rw [hartist, hsongTitle, halbumTitle, hpayload]

theorem issuesOf_eq_toList {α : Type} (r : Except Issue α) : issuesOf r = (error? r).toList := by
  cases r <;> rfl

theorem ofMembers_cases (data : Members Value) :
    (∃ r, ofMembers data = .ok r ∧ ∀ f, readField data f = .ok (r.get f)) ∨
      (ofMembers data = .error (Field.all.filterMap fun f => error? (readField data f)) ∧
        ∃ f i, readField data f = .error i) := by
  unfold ofMembers
  split
  · rename_i a s l p ha hs hl hp
    refine .inl ⟨⟨a, s, l, p⟩, rfl, fun f => ?_⟩
    cases f with
    | artist => exact ha
    | songTitle => exact hs
    | albumTitle => exact hl
    | payload => exact hp
  · rename_i hnot
    refine .inr ⟨?_, ?_⟩
    · simp only [Field.all, List.filterMap_cons, List.filterMap_nil, issuesOf_eq_toList]
      cases error? (readField data .artist) <;> cases error? (readField data .songTitle) <;>
        cases error? (readField data .albumTitle) <;> cases error? (readField data .payload) <;> rfl
    · -- the record is missed only where some field has no text
      by_contra hnone
      have hread : ∀ f, ∃ t, readField data f = .ok t := by
        intro f
        cases hf : readField data f with
        | error i => exact absurd ⟨f, i, hf⟩ hnone
        | ok t => exact ⟨t, rfl⟩
      obtain ⟨a, ha⟩ := hread .artist
      obtain ⟨s, hs⟩ := hread .songTitle
      obtain ⟨l, hl⟩ := hread .albumTitle
      obtain ⟨p, hp⟩ := hread .payload
      exact hnot a s l p ha hs hl hp

theorem readField_congr {other : Members Value}
    (hattribute : other.get? f.attributeName = data.get? f.attributeName)
    (hname : data.get? f.attributeName = none → other.get? f.name = data.get? f.name) :
    readField other f = readField data f := by
  have hfind : f.find? other = f.find? data := by
    unfold Field.find?
    rw [hattribute]
    cases h : data.get? f.attributeName with
    | some v => rfl
    | none => rw [hname h]
  unfold readField
  rw [hfind]

end Fields

/-- Each field is settled by the one value that is found for it, and what cannot stand in a field is
reported once, in the order of the fields. -/
theorem ofValue_reads (data : Members Value) :
    (∀ r, ofValue (.object data) = .ok r ↔ ∀ f : Field, f.Holds data (r.get f)) ∧
      ((∃ r, ofValue (.object data) = .ok r) ↔ ∀ f : Field, ∃ t, f.Holds data t) ∧
      (∀ issues, ofValue (.object data) = .error issues →
        ∃ issue? : Field → Option Issue, issues = Field.all.filterMap issue? ∧
          (∀ f, issue? f = none ↔ ∃ t, f.Holds data t) ∧
          ∀ f i, issue? f = some i → f.Offends data i.place i.cause.code) ∧
      ∀ other : Members Value,
        (∀ f : Field, other.get? f.attributeName = data.get? f.attributeName ∧
          (data.get? f.attributeName = none → other.get? f.name = data.get? f.name)) →
        ofValue (.object other) = ofValue (.object data) := by
  have hissue : ∀ f, error? (readField data f) = none ↔ ∃ t, f.Holds data t := by
    intro f
    rw [error?_eq_none_iff]
    simp only [readField_eq_ok_iff]
  -- a field is read from its two keys alone
  have hcongr : ∀ other : Members Value,
      (∀ f : Field, other.get? f.attributeName = data.get? f.attributeName ∧
        (data.get? f.attributeName = none → other.get? f.name = data.get? f.name)) →
      ofValue (.object other) = ofValue (.object data) := by
    intro other h
    have hread : ∀ f, readField other f = readField data f :=
      fun f => readField_congr (h f).1 (h f).2
    show ofMembers other = ofMembers data
    unfold ofMembers
    rw [hread .artist, hread .songTitle, hread .albumTitle, hread .payload]
  rcases ofMembers_cases data with ⟨r, hr, hfields⟩ | ⟨herror, f, i, hf⟩
  · have hholds : ∀ f : Field, f.Holds data (r.get f) := fun f => readField_eq_ok_iff.mp (hfields f)
    refine ⟨fun s => ⟨?_, fun hs => ?_⟩, ⟨fun _ f => ⟨_, hholds f⟩, fun _ => ⟨r, hr⟩⟩, ?_, hcongr⟩
    · intro hs
      rw [ofValue, hr] at hs
      rw [← Except.ok.inj hs]
      exact hholds
    · have heq : r = s := by
        apply ext_get
        intro f
        have hget := readField_eq_ok_iff.mpr (hs f)
        rw [hfields f] at hget
        exact Except.ok.inj hget
      rw [ofValue, hr, heq]
    · intro issues hissues
      rw [ofValue, hr] at hissues
      cases hissues
  · have hnot : ¬ ∀ f : Field, ∃ t, f.Holds data t := by
      intro hall
      have hnone := (hissue f).mpr (hall f)
      rw [error?_eq_some_iff.mpr hf] at hnone
      cases hnone
    refine ⟨fun s => ⟨?_, fun hs => absurd (fun f => ⟨_, hs f⟩) hnot⟩,
      ⟨?_, fun hall => absurd hall hnot⟩, ?_, hcongr⟩
    · intro hs
      rw [ofValue, herror] at hs
      cases hs
    · rintro ⟨s, hs⟩
      rw [ofValue, herror] at hs
      cases hs
    · intro issues hissues
      rw [ofValue, herror] at hissues
      refine ⟨_, (Except.error.inj hissues).symm, hissue, ?_⟩
      intro f i hi
      exact offends_of_readField (error?_eq_some_iff.mp hi)

def troubledData : Members Value :=
  [("Artist", .text ""), ("artist", .text "good"), ("song_title", .bytes [0x80]),
    ("note", .null), ("album_title", .list []), ("payload", .bytes [0xc3, 0xa9])]

theorem ofValue_reads_troubled :
    let other : Members Value :=
      [("Artist", .text ""), ("song_title", .bytes [0x80]), ("album_title", .list []),
        ("payload", .bytes [0xc3, 0xa9])]
    (∀ f : Field, other.get? f.attributeName = troubledData.get? f.attributeName ∧
        (troubledData.get? f.attributeName = none →
          other.get? f.name = troubledData.get? f.name)) ∧
      ofValue (.object troubledData) =
        .error [⟨["Artist"], .emptyText⟩, ⟨["song_title"], .notUnicode⟩,
          ⟨["album_title"], .notText⟩] ∧
      ofValue (.object other) = ofValue (.object troubledData) ∧
      ¬ ∀ f : Field, ∃ t, f.Holds troubledData t := by
  intro other
  have hreads := ofValue_reads troubledData
  have hother : ∀ f : Field, other.get? f.attributeName = troubledData.get? f.attributeName ∧
      (troubledData.get? f.attributeName = none →
        other.get? f.name = troubledData.get? f.name) := by
    intro f
    cases f with
    | artist => exact ⟨rfl, nofun⟩
    | _ => exact ⟨rfl, fun _ => rfl⟩
  have herror : ofValue (.object troubledData) =
      .error [⟨["Artist"], .emptyText⟩, ⟨["song_title"], .notUnicode⟩,
        ⟨["album_title"], .notText⟩] := by
    rfl
  refine ⟨hother, herror, hreads.2.2.2 other hother, ?_⟩
  intro hall
  obtain ⟨r, hr⟩ := hreads.2.1.mpr hall
  rw [herror] at hr
  cases hr

end TableSeeder.Record
