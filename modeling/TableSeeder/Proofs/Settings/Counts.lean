import TableSeeder.Proofs.Number.Grammar
import TableSeeder.Proofs.Settings.Precedence

/-! Counts that the environment gives as text. What the text denotes is taken if it is at least one;
a text that is refused is reported, and nothing takes its place. -/

namespace TableSeeder.Settings

open Reading (Denotes)

section Texts

variable {t : String} {n : Int}

theorem readCount_of_denotes (hlimit : t.length ≤ 4300) (h : Denotes t.toList n) :
    readCount (.text t) = if 1 ≤ n then .ok n else .error (.notAbove 0) := by
  have hwhole : readWhole (.text t) = .ok n := by
    rw [readWhole, wholeText, Reading.whole_of_denotes hlimit h]
  rw [readCount, hwhole]
  rfl

theorem readCount_of_not_denotes (hlimit : t.length ≤ 4300) (h : ∀ n, ¬ Denotes t.toList n) :
    readCount (.text t) = .error .unreadableInt := by
  have hwhole : readWhole (.text t) = .error .unreadableInt := by
    rw [readWhole, wholeText, Reading.whole_of_not_denotes hlimit h]
  rw [readCount, hwhole]
  rfl

end Texts

section Environment

variable {s : Sources} {f : Field} {t : String}

theorem find_environment (hargument : f.argument? s.arguments = none) {v : Value}
    (hv : f.value? .outer (s.environment.mapValues some) = some v) :
    find s.plainLayers f = some (f.envName, v) := by
  have hfirst : s.variables.findSome? (f.value? .outer) = some v := by
    rw [Sources.variables, List.findSome?_cons, hv]
  rw [find_plainLayers, hargument, hfirst]
  rfl

structure Counted (s : Sources) (f : Field) (t : String) : Prop where
  taken (n) : Denotes t.toList n → 1 ≤ n → entry s.plainLayers f = .ok (.int n)
  low (n) : Denotes t.toList n → n < 1 →
    entry s.plainLayers f = .error ⟨[f.envName], .notAbove 0⟩
  unread : (∀ n, ¬ Denotes t.toList n) →
    entry s.plainLayers f = .error ⟨[f.envName], .unreadableInt⟩

theorem counted_of_find (hf : f ∈ [.iterations, .batches])
    (hfind : find s.plainLayers f = some (f.envName, .text t)) (hlimit : t.length ≤ 4300) :
    Counted s f t := by
  have hentry : entry s.plainLayers f =
      ((readCount (.text t)).map .int).mapError fun cause => ⟨[f.envName], cause⟩ := by
    rw [entry, resolve, hfind]
    simp only [List.mem_cons, List.not_mem_nil, or_false] at hf
    rcases hf with rfl | rfl <;> rfl
  constructor
  case taken =>
    intro n hn hle
    rw [hentry, readCount_of_denotes hlimit hn, if_pos hle]
    rfl
  case low =>
    intro n hn hlt
    rw [hentry, readCount_of_denotes hlimit hn, if_neg (Int.not_le.mpr hlt)]
    rfl
  case unread =>
    intro hn
    rw [hentry, readCount_of_not_denotes hlimit hn]
    rfl

theorem Counted.of_ok (h : Counted s f t) {v : Value} (hv : entry s.plainLayers f = .ok v) :
    ∃ n, Denotes t.toList n ∧ 1 ≤ n ∧ v = .int n := by
  by_cases hn : ∃ n, Denotes t.toList n
  · obtain ⟨n, hn⟩ := hn
    by_cases hle : 1 ≤ n
    · exact ⟨n, hn, hle, Except.ok.inj (hv.symm.trans (h.taken n hn hle))⟩
    · cases hv.symm.trans (h.low n hn (Int.not_le.mp hle))
  · cases hv.symm.trans (h.unread (not_exists.mp hn))

theorem exists_load_iff (h : s.Plain) : (∃ u, load s = .ok u) ↔ ∀ g, s.issue? g = none := by
  constructor
  · rintro ⟨u, hu⟩ g
    obtain ⟨hnone, -⟩ | ⟨i, -, herror, -⟩ := issue?_cases s g
    · exact hnone
    · cases herror.symm.trans (outcome_of_load h hu g)
  · intro hnone
    obtain ⟨u, hu, -⟩ | ⟨-, g, cause, herror⟩ := load_cases h
    · exact ⟨u, hu⟩
    · obtain ⟨-, v, hv⟩ | ⟨i, hi, -⟩ := issue?_cases s g
      · cases herror.symm.trans hv
      · cases (hnone g).symm.trans hi

theorem entry_of_load (h : s.Plain) {u : Settings} (hload : load s = .ok u) (f : Field) :
    entry s.plainLayers f = .ok (u.get f) := by
  have houtcome := outcome_of_load h hload f
  obtain ⟨n, hn⟩ := entry_eq_outcome s f
  rw [hn, houtcome]
  rfl

theorem load_of_issue (h : s.Plain) {g : Field} {i : Issue} (hi : s.issue? g = some i) :
    load s = .error (.invalid (Field.all.filterMap s.issue?)) := by
  obtain ⟨u, hu, -⟩ | ⟨herror, -⟩ := load_cases h
  · cases hi.symm.trans ((exists_load_iff h).mp ⟨u, hu⟩ g)
  · exact herror

/-- A count is what its text in the environment denotes, or else the text is reported, and neither
the file nor the default takes its place. -/
theorem load_reads_count (h : s.Plain) (hf : f ∈ [.iterations, .batches])
    (hargument : f.argument? s.arguments = none)
    (ht : f.value? .outer (s.environment.mapValues some) = some (.text t))
    (hlimit : t.length ≤ 4300) :
    (∀ n, (∃ u, load s = .ok u ∧ u.get f = .int n) ↔
        Denotes t.toList n ∧ 1 ≤ n ∧ ∀ g ≠ f, s.issue? g = none) ∧
      (∀ n, Denotes t.toList n → n < 1 → s.issue? f = some ⟨[f.envName], .notAbove 0⟩) ∧
      ((∀ n, ¬ Denotes t.toList n) → s.issue? f = some ⟨[f.envName], .unreadableInt⟩) ∧
      (∀ g i, s.issue? g = some i →
        load s = .error (.invalid (Field.all.filterMap s.issue?))) ∧
      (∀ m n, Denotes t.toList m → Denotes t.toList n → m = n) ∧
      ∀ n : Int, t = toString n → Denotes t.toList n := by
  have hcounted := counted_of_find hf (find_environment hargument ht) hlimit
  refine ⟨fun n => ⟨?_, ?_⟩, fun n hn hlt => ?_, fun hn => ?_, fun g i => load_of_issue h,
    fun m n hm hn => hm.unique hlimit hn, ?_⟩
  · rintro ⟨u, hu, hvalue⟩
    obtain ⟨m, hm, hle, heq⟩ := hcounted.of_ok (entry_of_load h hu f)
    obtain rfl : m = n := Value.int.inj (heq.symm.trans hvalue)
    exact ⟨hm, hle, fun g _ => (exists_load_iff h).mp ⟨u, hu⟩ g⟩
  · rintro ⟨hn, hle, hothers⟩
    have hentry := hcounted.taken n hn hle
    -- the count itself is no obstacle, so the settings exist if no other field has an issue
    have hnone : s.issue? f = none := by
      rw [Sources.issue?, hentry]
      rfl
    obtain ⟨u, hu⟩ := (exists_load_iff h).mpr fun g =>
      (em (g = f)).elim (fun hg => hg ▸ hnone) (hothers g)
    exact ⟨u, hu, Except.ok.inj ((entry_of_load h hu f).symm.trans hentry)⟩
  · rw [Sources.issue?, hcounted.low n hn hlt]
    rfl
  · rw [Sources.issue?, hcounted.unread hn]
    rfl
  · rintro n rfl
    exact Reading.denotes_of_literal hlimit (Reading.literal_toString n hlimit)

def Sources.padded : Sources where
  environment := [("Item_Loader_Batches", " +00_1_000.00\n")]
  file := some "ITEM_LOADER_BATCHES=bad\n"

theorem load_reads_count_padded :
    let t := " +00_1_000.00\n"
    (Sources.padded.Plain ∧ Field.batches ∈ [Field.iterations, .batches] ∧
        Field.batches.argument? Sources.padded.arguments = none ∧
        Field.batches.value? .outer (Sources.padded.environment.mapValues some) =
          some (.text t) ∧ t.length ≤ 4300) ∧
      load .padded = .ok { batches := 1000 } ∧ Denotes t.toList 1000 := by
  intro t
  have hplain : Sources.padded.Plain := fun m hm => absurd hm List.not_mem_nil
  have hbatches : Field.batches ∈ [Field.iterations, .batches] := by decide
  have hlimit : t.length ≤ 4300 := by decide
  have hload : load .padded = .ok { batches := 1000 } := rfl
  obtain ⟨hcount, -⟩ := load_reads_count hplain hbatches rfl rfl hlimit
  exact ⟨⟨hplain, hbatches, rfl, rfl, hlimit⟩, hload, ((hcount 1000).mp ⟨_, hload, rfl⟩).1⟩

end Environment

section Irregular

open Reading

/-- A whole number with underscores between digits alone, a sign at the beginning alone, and at the
end a point that any zeros may follow. -/
inductive Regular : List Char → Int → Prop where
  | mk {before sign ds fs after : List Char} {n : Nat} :
    (∀ c ∈ before ++ after, isBlank c = true) → sign ∈ [[], ['+'], ['-']] → Numeral ds n →
    (fs = [] ∨ ∃ zs, (∀ c ∈ zs, c = '0') ∧ fs = '.' :: zs) →
    Regular (before ++ (sign ++ (ds ++ (fs ++ after)))) (if sign = ['-'] then -(n : Int) else n)

theorem isUnderscore_of_isBlank {c : Char} (h : isBlank c = true) : isUnderscore c = false := by
  rw [isUnderscore, beq_eq_false_iff_ne]
  rintro rfl
  cases h

theorem mem_fraction {fs : List Char} (h : fs = [] ∨ ∃ zs, (∀ c ∈ zs, c = '0') ∧ fs = '.' :: zs) :
    ∀ c ∈ fs, c = '.' ∨ c = '0' := by
  rcases h with rfl | ⟨zs, hzs, rfl⟩
  · exact fun c hc => absurd hc List.not_mem_nil
  · exact List.forall_mem_cons.mpr ⟨.inl rfl, fun c hc => .inr (hzs c hc)⟩

theorem Regular.single {cs : List Char} {n : Int} (h : Regular cs n) :
    hasDoubled isUnderscore cs = false := by
  cases h with
  | @mk before sign ds fs after m hblank hsign hds hfs =>
    obtain ⟨hbefore, hafter⟩ := List.forall_mem_append.mp hblank
    have hfront : ∀ c ∈ sign, isUnderscore c = false := by
      simp only [List.mem_cons, List.not_mem_nil, or_false] at hsign
      rcases hsign with rfl | rfl | rfl
      · exact List.forall_mem_nil _
      · exact List.forall_mem_singleton.mpr rfl
      · exact List.forall_mem_singleton.mpr rfl
    have hend : ∀ c ∈ fs ++ after, isUnderscore c = false := by
      refine List.forall_mem_append.mpr ⟨fun c hc => ?_, fun c hc => ?_⟩
      · rcases mem_fraction hfs c hc with rfl | rfl <;> rfl
      · exact isUnderscore_of_isBlank (hafter c hc)
    rw [hasDoubled_append_of_left fun c hc => isUnderscore_of_isBlank (hbefore c hc),
      hasDoubled_append_of_left hfront, hasDoubled_append_of_right hend, hds.spaced.single]

theorem Regular.minus_first {cs : List Char} {n : Int} (h : Regular cs n) (hminus : '-' ∈ cs) :
    (cs.dropWhile isBlank).head? = some '-' := by
  cases h with
  | @mk before sign ds fs after m hblank hsign hds hfs =>
    have hds : '-' ∉ ds := by
      intro hmem
      rcases hds.chars '-' hmem with h | h <;> cases h
    have hfs : '-' ∉ fs := by
      intro hmem
      rcases mem_fraction hfs '-' hmem with h | h <;> cases h
    obtain ⟨hbefore, hafter⟩ := List.forall_mem_append.mp hblank
    have hfront : '-' ∉ before := fun hmem => by cases hbefore '-' hmem
    have hend : '-' ∉ after := fun hmem => by cases hafter '-' hmem
    have hmem : '-' ∈ sign := by simpa [hds, hfs, hfront, hend] using hminus
    simp only [List.mem_cons, List.not_mem_nil, or_false] at hsign
    rcases hsign with rfl | rfl | rfl
    · cases hmem
    · cases List.mem_singleton.mp hmem
    · rw [List.dropWhile_append_of_pos hbefore]
      rfl

/-- Behind a zero in front underscores may be doubled and a minus sign may come, but no point may
come at the end. -/
theorem load_reads_irregular :
    let sources (text : String) : Sources := { environment := [("ITEM_LOADER_ITERATIONS", text)] }
    let refused (cause : Cause) : Except Failure Settings :=
      .error (.invalid [⟨["ITEM_LOADER_ITERATIONS"], cause⟩])
    ((∀ n, ¬ Regular "0__7".toList n) ∧ load (sources "0__7") = .ok { iterations := 7 }) ∧
      ((∀ n, ¬ Regular "0-5".toList n) ∧ load (sources "0-5") = refused (.notAbove 0)) ∧
      Regular "1.".toList 1 ∧ load (sources "1.") = refused .unreadableInt := by
  refine ⟨⟨fun n h => ?_, rfl⟩, ⟨fun n h => ?_, rfl⟩, ?_, rfl⟩
  · cases h.single
  · cases h.minus_first (by decide)
  · have hblank : ∀ c ∈ ([] : List Char) ++ [], isBlank c = true := by simp
    have hsign : [] ∈ [[], ['+'], ['-']] := List.mem_cons_self
    have hpoint : ['.'] = [] ∨ ∃ zs, (∀ c ∈ zs, c = '0') ∧ ['.'] = '.' :: zs :=
      .inr ⟨[], by simp, rfl⟩
    exact .mk hblank hsign (.digit rfl) hpoint

end Irregular

end TableSeeder.Settings
