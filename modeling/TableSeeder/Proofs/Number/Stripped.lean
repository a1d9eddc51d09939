import Mathlib.Data.List.Infix
import TableSeeder.Proofs.Number.Decimal

/-! Numbers without zeros in front. A fraction of zeros is dropped from them, and then they are
literals but for their underscores. -/

namespace TableSeeder.Reading

inductive ZeroFraction : List Char → Prop where
  | none : ZeroFraction []
  | zeros {zs : List Char} : zs ≠ [] → (∀ c ∈ zs, c = '0') → ZeroFraction ('.' :: zs)

/-- What is left of a whole number when the zeros in front of it are gone. -/
inductive Stripped : List Char → Int → Prop where
  | plain {ds fs : List Char} {n : Nat} :
    Numeral ds n → Canonical ds → ZeroFraction fs → Stripped (ds ++ fs) n
  | minus {gap ds fs : List Char} {n : Nat} : gap ∈ [[], ['_']] → Numeral ds n → Canonical ds →
    ZeroFraction fs → Stripped ('-' :: (gap ++ (ds ++ fs))) (-(n : Int))

section Numerals

variable {cs ds : List Char} {n : Nat}

theorem Numeral.chars (h : Numeral ds n) : ∀ c ∈ ds, c.isDigit = true ∨ c = '_' := by
  induction h with
  | digit hc => exact List.forall_mem_singleton.mpr (.inl hc)
  | next _ hgap hc ih =>
    refine List.forall_mem_append.mpr ⟨ih, List.forall_mem_append.mpr ⟨fun c hc => ?_, ?_⟩⟩
    · rcases gap_cases hgap with rfl | rfl
      · cases hc
      · exact .inr (List.mem_singleton.mp hc)
    · exact List.forall_mem_singleton.mpr (.inl hc)

theorem Numeral.cons (h : Numeral ds n) : ∃ d rest, ds = d :: rest ∧ d.isDigit = true := by
  cases ds with
  | nil => exact absurd rfl h.ne_nil
  | cons d rest =>
    refine ⟨d, rest, rfl, (h.chars d List.mem_cons_self).resolve_right ?_⟩
    rintro rfl
    cases h.spaced.first

theorem Numeral.canonical_bare_iff (h : Numeral ds n) : Canonical (bare ds) ↔ Canonical ds := by
  obtain ⟨d, rest, rfl, -⟩ := h.cons
  rw [bare_cons_of_spaced h.spaced, Canonical, Canonical, List.head?_cons, List.head?_cons]
  refine imp_congr_right fun hzero => ?_
  rw [Option.some.inj hzero, List.cons.injEq, List.cons.injEq]
  refine and_congr_right fun _ => ⟨fun hbare => ?_, fun hrest => by rw [hrest]; rfl⟩
  -- the last character is no underscore, and would not be passed over
  rcases List.eq_nil_or_concat rest with hrest | ⟨init, c, rfl⟩
  · exact hrest
  · have hlast := h.spaced.last
    simp only [List.concat_eq_append] at hlast hbare
    rw [← List.cons_append, List.getLast?_concat, Option.any_some] at hlast
    rw [bare_append, bare, bare, List.filter_singleton, hlast] at hbare
    cases (List.append_eq_nil_iff.mp hbare).2

end Numerals

section Fractions

variable {cs fs : List Char}

theorem dropFraction_append (h : ∀ c ∈ cs, isPoint c = false) (hfs : ZeroFraction fs) :
    dropFraction (cs ++ fs) = cs := by
  cases hfs with
  | none =>
    rw [List.append_nil, dropFraction, cut_eq_self h]
  | zeros hne hzeros =>
    rw [dropFraction, cut_append h rfl]
    exact if_pos ⟨hne, by simpa using hzeros⟩

theorem eq_dropFraction (cs : List Char) : ∃ fs, ZeroFraction fs ∧ cs = dropFraction cs ++ fs := by
  unfold dropFraction
  split
  · rename_i before after hcut
    obtain ⟨hnone, -⟩ | ⟨c, after, hc, hsome, rfl⟩ := eq_of_cut hcut
    · cases hnone
    cases hsome
    split
    · rename_i hzeros
      obtain rfl : c = '.' := beq_iff_eq.mp hc
      exact ⟨_, .zeros hzeros.1 (by simpa using hzeros.2), rfl⟩
    · exact ⟨[], .none, (List.append_nil _).symm⟩
  · exact ⟨[], .none, (List.append_nil _).symm⟩

theorem length_dropFraction_le (cs : List Char) : (dropFraction cs).length ≤ cs.length := by
  obtain ⟨fs, -, hcs⟩ := eq_dropFraction cs
  have hlength := congrArg List.length hcs
  rw [List.length_append] at hlength
  omega

end Fractions

section Bodies

variable {cs : List Char} {n : Int}

theorem length_bare_le (cs : List Char) : (bare cs).length ≤ cs.length := List.length_filter_le ..

theorem length_joined?_getD_le (cs : List Char) : ((joined? cs).getD cs).length ≤ cs.length := by
  unfold joined?
  split
  · exact length_bare_le cs
  · exact Nat.le_refl _

theorem spaced_minus_iff {cs : List Char} (hcs : cs ≠ []) :
    Spaced ('-' :: cs) ↔ ∃ gap ∈ [[], ['_']], ∃ ds, cs = gap ++ ds ∧ Spaced ds ∧ ds ≠ [] := by
  obtain ⟨c, rest, rfl⟩ := List.exists_cons_of_ne_nil hcs
  have hsingle : hasDoubled isUnderscore ('-' :: c :: rest) = hasDoubled isUnderscore (c :: rest) :=
    rfl
  constructor
  · intro h
    have hlast := h.last
    rw [List.getLast?_cons_cons] at hlast
    have hspaced := hsingle ▸ h.single
    -- an underscore right behind the sign is the gap
    cases hc : isUnderscore c with
    | false => exact ⟨[], by simp, c :: rest, rfl, ⟨by simpa using hc, hlast, hspaced⟩, hcs⟩
    | true =>
      obtain rfl : c = '_' := beq_iff_eq.mp hc
      cases rest with
      | nil => cases hlast
      | cons d rest =>
        rw [hasDoubled, hc, Bool.true_and, Bool.or_eq_false_iff] at hspaced
        exact ⟨['_'], by simp, d :: rest, rfl, ⟨hspaced.1, hlast, hspaced.2⟩, by simp⟩
  · rintro ⟨gap, hgap, ds, hds, hspaced, hne⟩
    obtain ⟨d, more, rfl⟩ := List.exists_cons_of_ne_nil hne
    have hfirst : isUnderscore d = false := hspaced.first
    rcases gap_cases hgap with rfl | rfl
    · rw [hds]
      exact ⟨rfl, hspaced.last, hspaced.single⟩
    · rw [hds]
      refine ⟨rfl, hspaced.last, ?_⟩
      have hgapped : hasDoubled isUnderscore ('-' :: '_' :: d :: more) =
          (isUnderscore d || hasDoubled isUnderscore (d :: more)) := rfl
      exact hgapped.trans (by rw [hfirst, hspaced.single]; rfl)

theorem Numeral.literal_bare {ds body : List Char} {m : Nat} {negative : Bool} (h : Numeral ds m)
    (hcanonical : Canonical ds) (hminus : minus body = (negative, bare ds))
    (hlimit : body.length ≤ digitLimit) :
    literal body = .ok (if negative then -(m : Int) else m) := by
  rw [literal_of_digits hminus h.digits.1 (h.canonical_bare_iff.mpr hcanonical) hlimit,
    signedNumber, h.digits.2]

theorem isPoint_numeral {ds : List Char} {m : Nat} (h : Numeral ds m) :
    ∀ c ∈ ds, isPoint c = false := by
  intro c hc
  rcases h.chars c hc with hdigit | rfl
  · exact isPoint_of_isDigit c hdigit
  · rfl

theorem joined?_getD_dropFraction {fs : List Char} (hpoint : ∀ c ∈ cs, isPoint c = false)
    (hspaced : Spaced cs) (hfs : ZeroFraction fs) :
    (joined? (dropFraction (cs ++ fs))).getD (dropFraction (cs ++ fs)) = bare cs := by
  rw [dropFraction_append hpoint hfs]
  exact (joined?_getD_eq_iff fun c => isUnderscore_of_mem_bare).mpr ⟨hspaced, rfl⟩

theorem literal_of_stripped (h : Stripped cs n) (hlimit : cs.length ≤ digitLimit) :
    literal ((joined? (dropFraction cs)).getD (dropFraction cs)) = .ok n := by
  cases h with
  | @plain ds fs m hds hcanonical hfs =>
    have hlength := length_bare_le ds
    rw [List.length_append] at hlimit
    rw [joined?_getD_dropFraction (isPoint_numeral hds) hds.spaced hfs]
    exact hds.literal_bare hcanonical (minus_of_allDigits hds.digits.1) (by omega)
  | @minus gap ds fs m hgap hds hcanonical hfs =>
    have hspaced := (spaced_minus_iff (by simp [hds.ne_nil])).mpr
      ⟨gap, hgap, ds, rfl, hds.spaced, hds.ne_nil⟩
    have hpoint : ∀ c ∈ '-' :: (gap ++ ds), isPoint c = false := by
      rcases gap_cases hgap with rfl | rfl <;> simpa [isPoint] using isPoint_numeral hds
    have hlength := length_bare_le ('-' :: (gap ++ ds))
    rw [← List.append_assoc, ← List.cons_append, List.length_append] at hlimit
    rw [← List.append_assoc, ← List.cons_append, joined?_getD_dropFraction hpoint hspaced hfs]
    have hbare : bare ('-' :: (gap ++ ds)) = '-' :: bare ds := congrArg _ (bare_gap hgap ds)
    have hminus : minus ('-' :: bare ds) = (true, bare ds) := rfl
    rw [hbare] at hlength ⊢
    exact hds.literal_bare hcanonical hminus (by omega)

theorem Numeral.of_bare {cs ds : List Char} (h : Spaced cs) (hbare : bare cs = ds)
    (hdigits : AllDigits ds) (hcanonical : Canonical ds) :
    Numeral cs (number (ds.map digitValue)) ∧ Canonical cs := by
  subst hbare
  have hcs := numeral_iff.mpr ⟨h, hdigits, rfl⟩
  exact ⟨hcs, hcs.canonical_bare_iff.mp hcanonical⟩

theorem isUnderscore_literal {cs ds : List Char} {negative : Bool} (h : minus cs = (negative, ds))
    (hdigits : AllDigits ds) : ∀ c ∈ cs, isUnderscore c = false := by
  have hds := fun c hc => isUnderscore_of_isDigit (hdigits.2 c hc)
  rw [eq_of_minus h]
  cases negative with
  | false => simpa using hds
  | true => simpa using ⟨rfl, hds⟩

theorem stripped_of_literal (hlimit : cs.length ≤ digitLimit)
    (h : literal ((joined? (dropFraction cs)).getD (dropFraction cs)) = .ok n) :
    Stripped cs n := by
  obtain ⟨fs, hfs, hcs⟩ := eq_dropFraction cs
  have hlength := length_dropFraction_le cs
  have hjoined := length_joined?_getD_le (dropFraction cs)
  obtain hbad | ⟨negative, ds, hminus, hdigits, hcanonical, hok⟩ :=
    literal_cases (Nat.le_trans hjoined (Nat.le_trans hlength hlimit))
  · rw [hbad] at h
    cases h
  obtain rfl : signedNumber negative ds = n := Except.ok.inj (hok.symm.trans h)
  -- underscores have been passed over only where each stands alone
  obtain ⟨hspaced, hbare⟩ :=
    (joined?_getD_eq_iff (isUnderscore_literal hminus hdigits)).mp rfl
  rw [eq_of_minus hminus] at hbare
  rw [hcs]
  cases negative with
  | false =>
    obtain ⟨hnumeral, hplain⟩ := Numeral.of_bare hspaced hbare hdigits hcanonical
    exact .plain hnumeral hplain hfs
  | true =>
    generalize dropFraction cs = body at hspaced hbare ⊢
    cases body with
    | nil => cases hbare
    | cons c rest =>
      rw [bare_cons_of_spaced hspaced] at hbare
      obtain ⟨rfl, hrest⟩ := List.cons.inj hbare
      have hne : rest ≠ [] := by
        rintro rfl
        exact hdigits.1 hrest.symm
      obtain ⟨gap, hgap, es, rfl, hes, -⟩ := (spaced_minus_iff hne).mp hspaced
      rw [bare_gap hgap] at hrest
      obtain ⟨hnumeral, hplain⟩ := Numeral.of_bare hes hrest hdigits hcanonical
      rw [List.cons_append, List.append_assoc]
      exact .minus hgap hnumeral hplain hfs

end Bodies

end TableSeeder.Reading
