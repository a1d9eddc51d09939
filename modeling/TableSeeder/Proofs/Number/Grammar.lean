import TableSeeder.Proofs.Number.Stripped

/-! Whole numbers as they may be written. A short text is read as the number that it denotes, and
one that denotes none is malformed. -/

namespace TableSeeder.Reading

/-- Zeros in front of a number, with underscores anywhere behind the first of them. -/
structure Padding (zs : List Char) : Prop where
  chars : ∀ c ∈ zs, c = '0' ∨ c = '_'
  first : zs.head? ≠ some '_'

/-- A whole number and what it denotes. A minus sign may also stand behind zeros. -/
inductive Whole : List Char → Int → Prop where
  | signed {sign zs ds fs : List Char} {n : Nat} : sign ∈ [[], ['+'], ['-']] → Padding zs →
    Numeral ds n → ZeroFraction fs →
    Whole (sign ++ (zs ++ (ds ++ fs))) (if sign = ['-'] then -(n : Int) else n)
  | late {sign zs gap ds fs : List Char} {n : Nat} : sign ∈ [[], ['+']] → Padding zs → zs ≠ [] →
    gap ∈ [[], ['_']] → Numeral ds n → Canonical ds → ZeroFraction fs →
    Whole (sign ++ (zs ++ '-' :: (gap ++ (ds ++ fs)))) (-(n : Int))

def Denotes (cs : List Char) (n : Int) : Prop :=
  ∃ before core after, cs = before ++ (core ++ after) ∧
    (∀ c ∈ before ++ after, isBlank c = true) ∧ Whole core n

section Zeros

variable {cs zs ds fs body : List Char} {n : Nat}

theorem Numeral.strip (h : Numeral ds n) :
    ∃ zs es, ds = zs ++ es ∧ (∀ d ∈ zs, d = '0' ∨ d = '_') ∧ Numeral es n ∧ Canonical es := by
  induction h with
  | @digit c hc =>
    refine ⟨[], [c], rfl, fun d hd => absurd hd List.not_mem_nil, .digit hc, fun hhead => ?_⟩
    rw [Option.some.inj hhead]
  | @next ds gap n c _ hgap hc ih =>
    obtain ⟨zs, es, rfl, hzs, hes, hcanonical⟩ := ih
    by_cases hzero : es = ['0']
    · -- what was the number is one of the zeros in front of the new digit
      obtain rfl : 0 = n := (hzero ▸ hes).digits.2
      refine ⟨zs ++ '0' :: gap, [c], by rw [hzero]; simp, ?_, ?_, ?_⟩
      · refine List.forall_mem_append.mpr ⟨hzs, List.forall_mem_cons.mpr ⟨.inl rfl, ?_⟩⟩
        rcases gap_cases hgap with rfl | rfl
        · exact List.forall_mem_nil _
        · exact List.forall_mem_singleton.mpr (.inr rfl)
      · rw [Nat.mul_zero, Nat.zero_add]
        exact .digit hc
      · intro hhead
        rw [Option.some.inj hhead]
    · refine ⟨zs, es ++ (gap ++ [c]), by simp, hzs, .next hes hgap hc, fun hhead => ?_⟩
      rw [List.head?_append_of_ne_nil _ hes.ne_nil] at hhead
      exact absurd (hcanonical hhead) hzero

theorem afterZeros_append {rest : List Char} (hzs : ∀ c ∈ zs, c = '0' ∨ c = '_')
    (h : ∀ last, afterZeros last rest = some body) (last : Char) :
    afterZeros last (zs ++ rest) = some body := by
  induction zs generalizing last with
  | nil => exact h last
  | cons z zs ih =>
    rw [List.cons_append, afterZeros, if_pos (hzs z List.mem_cons_self)]
    exact ih (fun c hc => hzs c (List.mem_cons_of_mem z hc)) z

theorem afterZeros_numeral (h : Numeral ds n) (hcanonical : Canonical ds) (hfs : ZeroFraction fs)
    (last : Char) : afterZeros last (ds ++ fs) = some (ds ++ fs) := by
  obtain ⟨d, rest, rfl, hd⟩ := h.cons
  by_cases hzero : d = '0'
  · rw [hcanonical (by rw [hzero]; rfl)]
    cases hfs <;> rfl
  · rw [List.cons_append, afterZeros, if_neg (not_or.mpr ⟨hzero, ne_of_isDigit hd rfl⟩),
      if_neg (ne_of_isDigit hd rfl), leads, hd]
    rfl

theorem dropZeros_eq (h : cs.head?.any Char.isDigit = true) : dropZeros cs = afterZeros '0' cs := by
  cases cs with
  | nil => cases h
  | cons c rest =>
    have hc : c.isDigit = true := h
    by_cases hzero : c = '0'
    · subst hzero
      rfl
    · rw [dropZeros, if_neg hzero, afterZeros,
        if_neg (not_or.mpr ⟨hzero, ne_of_isDigit hc rfl⟩), if_neg (ne_of_isDigit hc rfl)]

theorem withoutLeadingZeros_of_digit (h : cs.head?.any Char.isDigit = true) :
    withoutLeadingZeros cs = afterZeros '0' cs ∧
      withoutLeadingZeros ('+' :: cs) = afterZeros '0' cs ∧
      withoutLeadingZeros ('-' :: cs) = (afterZeros '0' cs).map ('-' :: ·) := by
  rw [← dropZeros_eq h]
  cases cs with
  | nil => cases h
  | cons c rest =>
    have hc : c.isDigit = true := h
    have hplus : c ≠ '+' := ne_of_isDigit hc rfl
    have hminus : c ≠ '-' := ne_of_isDigit hc rfl
    refine ⟨?_, ?_, rfl⟩
    · unfold withoutLeadingZeros
      split <;> simp_all
    · unfold withoutLeadingZeros
      split <;> simp_all

theorem Padding.head_isDigit (h : Padding zs) (hne : zs ≠ []) (rest : List Char) :
    (zs ++ rest).head?.any Char.isDigit = true := by
  obtain ⟨z, more, rfl⟩ := List.exists_cons_of_ne_nil hne
  have hz : z ≠ '_' := fun hz => h.first (by rw [hz]; rfl)
  rw [(h.chars z List.mem_cons_self).resolve_right hz]
  rfl

theorem head_isDigit (hzs : Padding zs) (hds : Numeral ds n) (fs : List Char) :
    (zs ++ (ds ++ fs)).head?.any Char.isDigit = true := by
  by_cases hne : zs = []
  · obtain ⟨d, rest, rfl, hd⟩ := hds.cons
    rw [hne]
    exact hd
  · exact hzs.head_isDigit hne _

theorem stripped_of_whole {n : Int} (h : Whole cs n) :
    ∃ body, withoutLeadingZeros cs = some body ∧ Stripped body n := by
  cases h with
  | @signed sign zs ds fs m hsign hzs hds hfs =>
    obtain ⟨hplain, hplus, hminus⟩ := withoutLeadingZeros_of_digit (head_isDigit hzs hds fs)
    -- the numeral's own zeros in front go together with the padding
    obtain ⟨ys, es, rfl, hys, hes, hcanonical⟩ := hds.strip
    have hpad : ∀ c ∈ zs ++ ys, c = '0' ∨ c = '_' := by
      intro c hc
      rcases List.mem_append.mp hc with hc | hc
      · exact hzs.chars c hc
      · exact hys c hc
    have hafter := afterZeros_append hpad (afterZeros_numeral hes hcanonical hfs) '0'
    rw [List.append_assoc, ← List.append_assoc ys] at hafter
    rw [hafter] at hplain hplus hminus
    simp only [List.mem_cons, List.not_mem_nil, or_false] at hsign
    rcases hsign with rfl | rfl | rfl
    · exact ⟨_, hplain, .plain hes hcanonical hfs⟩
    · exact ⟨_, hplus, .plain hes hcanonical hfs⟩
    · exact ⟨_, hminus, .minus List.mem_cons_self hes hcanonical hfs⟩
  | @late sign zs gap ds fs m hsign hzs hne hgap hds hcanonical hfs =>
    obtain ⟨hplain, hplus, -⟩ :=
      withoutLeadingZeros_of_digit (hzs.head_isDigit hne ('-' :: (gap ++ (ds ++ fs))))
    rw [afterZeros_append hzs.chars (fun _ => rfl)] at hplain hplus
    simp only [List.mem_cons, List.not_mem_nil, or_false] at hsign
    rcases hsign with rfl | rfl
    · exact ⟨_, hplain, .minus hgap hds hcanonical hfs⟩
    · exact ⟨_, hplus, .minus hgap hds hcanonical hfs⟩

theorem eq_of_afterZeros {last : Char} (h : afterZeros last cs = some body)
    (hlast : last = '0' ∨ last = '_') :
    (∃ zs, last :: cs = zs ++ body ∧ ∀ c ∈ zs, c = '0' ∨ c = '_') ∧
      ∀ c rest, body = '_' :: c :: rest → c = '.' := by
  -- the character read last belongs to the text: it is kept where the text or its whole part ends
  induction cs generalizing last with
  | nil =>
    cases h
    exact ⟨⟨[], rfl, by simp⟩, fun c rest hbody => by cases hbody⟩
  | cons c cs ih =>
    unfold afterZeros at h
    split at h
    · rename_i hc
      obtain ⟨⟨zs, hcs, hzs⟩, hbody⟩ := ih h hc
      refine ⟨⟨last :: zs, by rw [hcs]; rfl, ?_⟩, hbody⟩
      exact List.forall_mem_cons.mpr ⟨hlast, hzs⟩
    · rename_i hc
      split at h
      · rename_i hpoint
        cases h
        exact ⟨⟨[], rfl, by simp⟩, fun d rest hbody => by cases hbody; exact hpoint⟩
      · split at h
        · cases h
          refine ⟨⟨[last], rfl, by simpa using hlast⟩, fun d rest hbody => ?_⟩
          cases hbody
          exact absurd (.inr rfl) hc
        · cases h

theorem eq_of_dropZeros (h : dropZeros cs = some body) :
    (∃ zs, cs = zs ++ body ∧ Padding zs) ∧ ∀ c rest, body = '_' :: c :: rest → c = '.' := by
  cases cs with
  | nil => cases h
  | cons c cs =>
    rw [dropZeros] at h
    split at h
    · rename_i hc
      subst hc
      obtain ⟨⟨zs, hcs, hzs⟩, hbody⟩ := eq_of_afterZeros h (.inl rfl)
      refine ⟨⟨zs, hcs, hzs, fun hfirst => ?_⟩, hbody⟩
      cases zs with
      | nil => cases hfirst
      | cons z zs =>
        rw [Option.some.inj hfirst] at hcs
        cases hcs
    · split at h
      · rename_i hleads
        cases h
        refine ⟨⟨[], rfl, by simp, by simp⟩, fun d rest hbody => ?_⟩
        cases hbody
        cases hleads
      · cases h

theorem ne_nil_of_not_minus {rest : List Char} (hcs : cs = zs ++ '-' :: rest)
    (h : ∀ more, cs ≠ '-' :: more) : zs ≠ [] := by
  rintro rfl
  exact h rest hcs

theorem whole_of_dropZeros {sign : List Char} {n : Int} (hsign : sign ∈ [[], ['+']])
    (hcs : ∀ more, cs ≠ '-' :: more) (h : dropZeros cs = some body) (hbody : Stripped body n) :
    Whole (sign ++ cs) n := by
  obtain ⟨⟨zs, rfl, hzs⟩, -⟩ := eq_of_dropZeros h
  cases hbody with
  | @plain ds fs m hds hcanonical hfs =>
    have hplus : sign ≠ ['-'] := by
      rintro rfl
      exact absurd hsign (by decide)
    have hwhole := Whole.signed (List.mem_append_left [['-']] hsign) hzs hds hfs
    rwa [if_neg hplus] at hwhole
  | minus hgap hds hcanonical hfs =>
    exact .late hsign hzs (ne_nil_of_not_minus rfl hcs) hgap hds hcanonical hfs

theorem whole_of_minus {n : Int} (h : dropZeros cs = some body) (hbody : Stripped ('-' :: body) n) :
    Whole ('-' :: cs) n := by
  obtain ⟨⟨zs, rfl, hzs⟩, hpoint⟩ := eq_of_dropZeros h
  generalize hsigned : '-' :: body = signed at hbody
  cases hbody with
  | @plain ds fs m hds hcanonical hfs =>
    obtain ⟨d, rest, rfl, hd⟩ := hds.cons
    exact absurd (List.cons.inj hsigned).1.symm (ne_of_isDigit hd rfl)
  | @minus gap ds fs m hgap hds hcanonical hfs =>
    obtain rfl := (List.cons.inj hsigned).2
    rcases gap_cases hgap with rfl | rfl
    · have hsign : ['-'] ∈ [[], ['+'], ['-']] := by decide
      have hwhole := Whole.signed hsign hzs hds hfs
      rwa [if_pos rfl] at hwhole
    · -- behind an underscore that was kept only a point comes
      obtain ⟨d, rest, rfl, hd⟩ := hds.cons
      exact absurd (hpoint d _ rfl) (ne_of_isDigit hd rfl)

theorem whole_of_stripped {n : Int} (h : withoutLeadingZeros cs = some body)
    (hbody : Stripped body n) : Whole cs n := by
  have hempty : [] ∈ [[], ['+']] := List.mem_cons_self
  have hplus : ['+'] ∈ [[], ['+']] := List.mem_cons_of_mem _ List.mem_cons_self
  unfold withoutLeadingZeros at h
  split at h
  · cases h
  · rename_i rest hminus
    exact whole_of_dropZeros hplus (fun more hrest => hminus more hrest) h hbody
  · obtain ⟨body, hdrop, rfl⟩ := Option.map_eq_some_iff.mp h
    exact whole_of_minus hdrop hbody
  · rename_i hminus
    exact whole_of_dropZeros hempty hminus h hbody

end Zeros

section Blanks

variable {p : Char → Bool} {cs core before after : List Char}

theorem dropWhile_append_core (hcore : ∀ c ∈ core, p c = false) (hbefore : ∀ c ∈ before, p c = true)
    (hne : core ≠ []) : (before ++ (core ++ after)).dropWhile p = core ++ after := by
  obtain ⟨c, rest, rfl⟩ := List.exists_cons_of_ne_nil hne
  rw [List.dropWhile_append_of_pos hbefore, List.cons_append,
    List.dropWhile_cons_of_neg (by simp [hcore c])]

theorem trim_append (hcore : ∀ c ∈ core, p c = false) (hbefore : ∀ c ∈ before, p c = true)
    (hafter : ∀ c ∈ after, p c = true) (hne : core ≠ []) :
    trim p (before ++ (core ++ after)) = core := by
  have hreverse : (after.reverse ++ (core.reverse ++ [])).dropWhile p = core.reverse ++ [] :=
    dropWhile_append_core (fun c hc => hcore c (List.mem_reverse.mp hc))
      (fun c hc => hafter c (List.mem_reverse.mp hc)) (List.reverse_ne_nil_iff.mpr hne)
  rw [List.append_nil] at hreverse
  rw [trim, dropWhile_append_core hcore hbefore hne, trimRight, List.reverse_append, hreverse,
    List.reverse_reverse]

theorem eq_trim (p : Char → Bool) (cs : List Char) :
    ∃ before after, cs = before ++ (trim p cs ++ after) ∧ ∀ c ∈ before ++ after, p c = true := by
  have hright := List.takeWhile_append_dropWhile (p := p) (l := (cs.dropWhile p).reverse)
  refine ⟨cs.takeWhile p, ((cs.dropWhile p).reverse.takeWhile p).reverse, ?_, fun c hc => ?_⟩
  · rw [trim, trimRight, ← List.reverse_append, hright, List.reverse_reverse,
      List.takeWhile_append_dropWhile]
  · rcases List.mem_append.mp hc with hc | hc
    · exact List.mem_takeWhile_imp hc
    · exact List.mem_takeWhile_imp (List.mem_reverse.mp hc)

theorem isBlank_of_isDigit {c : Char} (h : c.isDigit = true) : isBlank c = false := by
  have hval : c.toNat = c.val.toNat := rfl
  simp only [Char.isDigit, ge_iff_le, Bool.and_eq_true, decide_eq_true_eq,
    UInt32.le_iff_toNat_le] at h
  have hlow : 48 ≤ c.toNat := h.1
  have hhigh : c.toNat ≤ 57 := h.2
  simp only [isBlank, Bool.or_eq_false_iff, Bool.and_eq_false_iff, decide_eq_false_iff_not,
    beq_eq_false_iff_ne]
  omega

theorem Padding.isBlank {zs : List Char} (h : Padding zs) : ∀ c ∈ zs, isBlank c = false := by
  intro c hc
  rcases h.chars c hc with rfl | rfl <;> rfl

theorem Numeral.isBlank {ds : List Char} {n : Nat} (h : Numeral ds n) :
    ∀ c ∈ ds, isBlank c = false := by
  intro c hc
  rcases h.chars c hc with hdigit | rfl
  · exact isBlank_of_isDigit hdigit
  · rfl

theorem ZeroFraction.isBlank {fs : List Char} (h : ZeroFraction fs) :
    ∀ c ∈ fs, isBlank c = false := by
  cases h with
  | none => simp
  | zeros _ hzeros =>
    refine List.forall_mem_cons.mpr ⟨rfl, fun c hc => ?_⟩
    rw [hzeros c hc]
    rfl

theorem Whole.isBlank {n : Int} (h : Whole core n) : ∀ c ∈ core, isBlank c = false := by
  cases h with
  | signed hsign hzs hds hfs =>
    simp only [List.mem_cons, List.not_mem_nil, or_false] at hsign
    simp only [List.forall_mem_append]
    refine ⟨?_, hzs.isBlank, hds.isBlank, hfs.isBlank⟩
    rcases hsign with rfl | rfl | rfl
    · exact List.forall_mem_nil _
    · exact List.forall_mem_singleton.mpr rfl
    · exact List.forall_mem_singleton.mpr rfl
  | late hsign hzs _ hgap hds _ hfs =>
    simp only [List.mem_cons, List.not_mem_nil, or_false] at hsign
    simp only [List.forall_mem_append, List.forall_mem_cons]
    refine ⟨?_, hzs.isBlank, rfl, ?_, hds.isBlank, hfs.isBlank⟩
    · rcases hsign with rfl | rfl
      · exact List.forall_mem_nil _
      · exact List.forall_mem_singleton.mpr rfl
    · rcases gap_cases hgap with rfl | rfl
      · exact List.forall_mem_nil _
      · exact List.forall_mem_singleton.mpr rfl

theorem Whole.ne_nil {n : Int} (h : Whole core n) : core ≠ [] := by
  cases h with
  | signed _ _ hds _ => simp [hds.ne_nil]
  | late => simp

theorem denotes_iff {n : Int} : Denotes cs n ↔ Whole (trim TableSeeder.isBlank cs) n := by
  constructor
  · rintro ⟨before, core, after, rfl, hblank, hcore⟩
    obtain ⟨hbefore, hafter⟩ := List.forall_mem_append.mp hblank
    rwa [trim_append hcore.isBlank hbefore hafter hcore.ne_nil]
  · intro h
    obtain ⟨before, after, hcs, hblank⟩ := eq_trim TableSeeder.isBlank cs
    exact ⟨before, _, after, hcs, hblank, h⟩

end Blanks

section Texts

variable {cs body : List Char} {n : Int}

theorem length_trim_le (p : Char → Bool) (cs : List Char) : (trim p cs).length ≤ cs.length := by
  obtain ⟨before, after, hcs, -⟩ := eq_trim p cs
  have hlength := congrArg List.length hcs
  simp only [List.length_append] at hlength
  omega

theorem length_dropZeros_le (h : dropZeros cs = some body) : body.length ≤ cs.length := by
  obtain ⟨⟨zs, rfl, -⟩, -⟩ := eq_of_dropZeros h
  rw [List.length_append]
  exact Nat.le_add_left _ _

theorem length_withoutLeadingZeros_le (h : withoutLeadingZeros cs = some body) :
    body.length ≤ cs.length := by
  unfold withoutLeadingZeros at h
  split at h
  · cases h
  · exact Nat.le_succ_of_le (length_dropZeros_le h)
  · obtain ⟨body, hdrop, rfl⟩ := Option.map_eq_some_iff.mp h
    exact Nat.succ_le_succ (length_dropZeros_le hdrop)
  · exact length_dropZeros_le h

theorem length_cleaned?_le (h : cleaned? cs = some body) : body.length ≤ cs.length := by
  obtain ⟨stripped, hstripped, rfl⟩ := Option.map_eq_some_iff.mp h
  calc ((joined? (dropFraction stripped)).getD (dropFraction stripped)).length
      ≤ (dropFraction stripped).length := length_joined?_getD_le _
    _ ≤ stripped.length := length_dropFraction_le stripped
    _ ≤ (trim isBlank cs).length := length_withoutLeadingZeros_le hstripped
    _ ≤ cs.length := length_trim_le isBlank cs

theorem literal_cleaned?_iff (hlimit : cs.length ≤ digitLimit) :
    (∃ body, cleaned? cs = some body ∧ literal body = .ok n) ↔ Denotes cs n := by
  have htrim := length_trim_le isBlank cs
  rw [denotes_iff]
  unfold cleaned?
  constructor
  · rintro ⟨body, hcleaned, hbody⟩
    obtain ⟨stripped, hstripped, rfl⟩ := Option.map_eq_some_iff.mp hcleaned
    have hlength := length_withoutLeadingZeros_le hstripped
    exact whole_of_stripped hstripped (stripped_of_literal (by omega) hbody)
  · intro h
    obtain ⟨stripped, hstripped, hbody⟩ := stripped_of_whole h
    have hlength := length_withoutLeadingZeros_le hstripped
    rw [hstripped]
    exact ⟨_, rfl, literal_of_stripped hbody (by omega)⟩

theorem denotes_of_literal (hlimit : cs.length ≤ digitLimit) (h : literal cs = .ok n) :
    Denotes cs n := by
  obtain hbad | ⟨negative, ds, hminus, hdigits, -, hok⟩ := literal_cases hlimit
  · rw [hbad] at h
    cases h
  obtain rfl : signedNumber negative ds = n := Except.ok.inj (hok.symm.trans h)
  have hnone := fun c hc => isUnderscore_of_isDigit (hdigits.2 c hc)
  have hbare := bare_of_none hnone
  have hnumeral : Numeral ds (number (ds.map digitValue)) :=
    numeral_iff.mpr ⟨spaced_of_none hnone, by rwa [hbare], by rw [hbare]⟩
  have hpadding : Padding [] := ⟨by simp, by simp⟩
  refine ⟨[], cs, [], by simp, by simp, ?_⟩
  rw [eq_of_minus hminus]
  cases negative with
  | false =>
    have hsign : [] ∈ [[], ['+'], ['-']] := List.mem_cons_self
    simpa [signedNumber] using Whole.signed hsign hpadding hnumeral .none
  | true =>
    have hsign : ['-'] ∈ [[], ['+'], ['-']] := by decide
    simpa [signedNumber] using Whole.signed hsign hpadding hnumeral .none

theorem Denotes.unique {m : Int} (hlimit : cs.length ≤ digitLimit) (h : Denotes cs m)
    (h' : Denotes cs n) : m = n := by
  obtain ⟨body, hcleaned, hbody⟩ := (literal_cleaned?_iff hlimit).mpr h
  obtain ⟨body', hcleaned', hbody'⟩ := (literal_cleaned?_iff hlimit).mpr h'
  obtain rfl := Option.some.inj (hcleaned.symm.trans hcleaned')
  exact Except.ok.inj (hbody.symm.trans hbody')

theorem whole_of_denotes (hlimit : cs.length ≤ digitLimit) (h : Denotes cs n) :
    whole cs = .ok n := by
  unfold whole
  obtain hbad | ⟨negative, ds, -, -, -, hok⟩ := literal_cases hlimit
  · obtain ⟨body, hcleaned, hbody⟩ := (literal_cleaned?_iff hlimit).mpr h
    rw [hbad, hcleaned]
    exact hbody
  · rw [hok, (denotes_of_literal hlimit hok).unique hlimit h]

theorem whole_of_not_denotes (hlimit : cs.length ≤ digitLimit) (h : ∀ n, ¬ Denotes cs n) :
    whole cs = .error .malformed := by
  unfold whole
  obtain hbad | ⟨negative, ds, -, -, -, hok⟩ := literal_cases hlimit
  · rw [hbad]
    cases hcleaned : cleaned? cs with
    | none => rfl
    | some body =>
      have hlength := Nat.le_trans (length_cleaned?_le hcleaned) hlimit
      obtain hbody | ⟨negative, ds, -, -, -, hbody⟩ := literal_cases hlength
      · exact hbody
      · exact absurd ((literal_cleaned?_iff hlimit).mp ⟨body, hcleaned, hbody⟩) (h _)
  · exact absurd (denotes_of_literal hlimit hok) (h _)

end Texts

end TableSeeder.Reading
