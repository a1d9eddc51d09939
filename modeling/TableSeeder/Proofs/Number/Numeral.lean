import Mathlib.Data.List.Infix
import TableSeeder.Number.Reading

/-! Numerals: decimal digits with single underscores between them. They are what is left of a text
once its underscores are passed over, if that is digits alone. -/

namespace TableSeeder.Reading

/-- A numeral and the number that it denotes, by its last digit. -/
inductive Numeral : List Char → Nat → Prop where
  | digit {c : Char} : c.isDigit = true → Numeral [c] (digitValue c)
  | next {cs gap : List Char} {n : Nat} {c : Char} : Numeral cs n → gap ∈ [[], ['_']] →
    c.isDigit = true → Numeral (cs ++ (gap ++ [c])) (10 * n + digitValue c)

structure Spaced (cs : List Char) : Prop where
  first : cs.head?.any isUnderscore = false
  last : cs.getLast?.any isUnderscore = false
  single : hasDoubled isUnderscore cs = false

def bare (cs : List Char) : List Char := cs.filter fun c => !isUnderscore c

def AllDigits (cs : List Char) : Prop := cs ≠ [] ∧ ∀ c ∈ cs, c.isDigit = true

section Underscores

variable {p : Char → Bool} {cs : List Char} {c : Char}

theorem ne_of_isDigit {d : Char} (h : c.isDigit = true) (hd : d.isDigit = false) : c ≠ d := by
  rintro rfl
  cases h.symm.trans hd

theorem isUnderscore_of_isDigit (h : c.isDigit = true) : isUnderscore c = false :=
  beq_eq_false_iff_ne.mpr (ne_of_isDigit h rfl)

theorem hasDoubled_concat (p : Char → Bool) (cs : List Char) (c : Char) :
    hasDoubled p (cs ++ [c]) = (hasDoubled p cs || cs.getLast?.any p && p c) := by
  induction cs with
  | nil => simp [hasDoubled]
  | cons d cs ih =>
    cases cs with
    | nil => simp [hasDoubled]
    | cons e cs =>
      rw [List.getLast?_cons_cons, List.cons_append, List.cons_append, hasDoubled, hasDoubled,
        ← List.cons_append, ih, Bool.or_assoc]

theorem hasDoubled_cons (h : p c = false) (cs : List Char) :
    hasDoubled p (c :: cs) = hasDoubled p cs := by
  cases cs with
  | nil => rfl
  | cons d cs => rw [hasDoubled, h, Bool.false_and, Bool.false_or]

theorem hasDoubled_append_of_left (h : ∀ c ∈ cs, p c = false) (ds : List Char) :
    hasDoubled p (cs ++ ds) = hasDoubled p ds := by
  induction cs with
  | nil => rfl
  | cons c cs ih =>
    rw [List.forall_mem_cons] at h
    rw [List.cons_append, hasDoubled_cons h.1, ih h.2]

theorem hasDoubled_append_of_right (h : ∀ c ∈ cs, p c = false) (ds : List Char) :
    hasDoubled p (ds ++ cs) = hasDoubled p ds := by
  induction cs using List.reverseRecOn with
  | nil => rw [List.append_nil]
  | append_singleton cs c ih =>
    obtain ⟨hcs, hc⟩ := List.forall_mem_append.mp h
    rw [← List.append_assoc, hasDoubled_concat, hc c List.mem_cons_self, Bool.and_false,
      Bool.or_false, ih hcs]

theorem hasDoubled_of_none (h : ∀ c ∈ cs, p c = false) : hasDoubled p cs = false :=
  hasDoubled_append_of_right h []

theorem hasDoubled_of_append {ds : List Char} (h : hasDoubled p (cs ++ ds) = false) :
    hasDoubled p cs = false := by
  induction ds using List.reverseRecOn with
  | nil => rwa [List.append_nil] at h
  | append_singleton ds d ih =>
    rw [← List.append_assoc, hasDoubled_concat, Bool.or_eq_false_iff] at h
    exact ih h.1

theorem spaced_of_none (h : ∀ c ∈ cs, isUnderscore c = false) : Spaced cs := by
  refine ⟨?_, ?_, hasDoubled_of_none h⟩
  · rw [Option.any_eq_false]
    exact fun c hc => Bool.not_eq_true _ ▸ h c (List.mem_of_mem_head? hc)
  · rw [Option.any_eq_false]
    exact fun c hc => Bool.not_eq_true _ ▸ h c (List.mem_of_mem_getLast? hc)

theorem bare_of_none (h : ∀ c ∈ cs, isUnderscore c = false) : bare cs = cs :=
  List.filter_eq_self.mpr fun c hc => by rw [h c hc]; rfl

theorem bare_append (cs ds : List Char) : bare (cs ++ ds) = bare cs ++ bare ds :=
  List.filter_append ..

theorem bare_cons_of_spaced {c : Char} {rest : List Char} (h : Spaced (c :: rest)) :
    bare (c :: rest) = c :: bare rest := by
  have hfirst : isUnderscore c = false := h.first
  rw [bare, List.filter_cons_of_pos (by rw [hfirst]; rfl), ← bare]

theorem gap_cases {gap : List Char} (h : gap ∈ [[], ['_']]) : gap = [] ∨ gap = ['_'] := by
  simpa using h

theorem bare_gap {gap : List Char} (hgap : gap ∈ [[], ['_']]) (ds : List Char) :
    bare (gap ++ ds) = bare ds := by
  rcases gap_cases hgap with rfl | rfl <;> rfl

theorem isUnderscore_of_mem_bare (h : c ∈ bare cs) : isUnderscore c = false := by
  simpa using (List.mem_filter.mp h).2

theorem any_isUnderscore_eq_false (h : cs.any isUnderscore = false) :
    ∀ c ∈ cs, isUnderscore c = false := by
  simpa using h

/-- Underscores are passed over where each of them stands alone, and else all are kept. -/
theorem joined?_getD_eq_iff {ds : List Char} (h : ∀ c ∈ ds, isUnderscore c = false) :
    (joined? cs).getD cs = ds ↔ Spaced cs ∧ bare cs = ds := by
  unfold joined?
  constructor
  · intro hds
    split at hds
    · rename_i hjoined
      simp only [Bool.and_eq_true, Bool.not_eq_true'] at hjoined
      obtain ⟨⟨⟨-, hfirst⟩, hlast⟩, hsingle⟩ := hjoined
      exact ⟨⟨hfirst, hlast, hsingle⟩, hds⟩
    · subst hds
      exact ⟨spaced_of_none h, bare_of_none h⟩
  · rintro ⟨⟨hfirst, hlast, hsingle⟩, rfl⟩
    cases hany : cs.any isUnderscore with
    | true =>
      rw [if_pos (by simp [hfirst, hlast, hsingle])]
      rfl
    | false =>
      rw [if_neg (by simp)]
      exact (bare_of_none (any_isUnderscore_eq_false hany)).symm

end Underscores

section Numerals

variable {cs : List Char} {n : Nat} {c : Char}

theorem number_concat (ds : List Nat) (d : Nat) : number (ds ++ [d]) = 10 * number ds + d := by
  rw [number, List.foldl_append, ← number]
  rfl

theorem Numeral.ne_nil (h : Numeral cs n) : cs ≠ [] := by
  cases h <;> simp

theorem spaced_next {gap : List Char} (h : Spaced cs) (hcs : cs ≠ []) (hgap : gap ∈ [[], ['_']])
    (hc : c.isDigit = true) : Spaced (cs ++ (gap ++ [c])) := by
  have hdigit := isUnderscore_of_isDigit hc
  refine ⟨?_, ?_, ?_⟩
  · rw [List.head?_append_of_ne_nil _ hcs]
    exact h.first
  · rw [← List.append_assoc, List.getLast?_concat]
    exact hdigit
  · rw [← List.append_assoc, hasDoubled_concat, hdigit, Bool.and_false, Bool.or_false]
    rcases gap_cases hgap with rfl | rfl
    · rw [List.append_nil, h.single]
    · rw [hasDoubled_concat, h.single, h.last]
      rfl

theorem Numeral.spaced (h : Numeral cs n) : Spaced cs := by
  induction h with
  | digit hc => exact spaced_of_none (by simpa using isUnderscore_of_isDigit hc)
  | next hcs hgap hc ih => exact spaced_next ih hcs.ne_nil hgap hc

theorem bare_of_isDigit (h : c.isDigit = true) : bare [c] = [c] :=
  bare_of_none (by simpa using isUnderscore_of_isDigit h)

theorem allDigits_concat {ds : List Char} (h : ∀ d ∈ ds, d.isDigit = true)
    (hc : c.isDigit = true) : AllDigits (ds ++ [c]) := by
  refine ⟨by simp, fun d hd => ?_⟩
  rcases List.mem_append.mp hd with hd | hd
  · exact h d hd
  · rwa [List.mem_singleton.mp hd]

theorem number_map_concat (ds : List Char) (c : Char) :
    number ((ds ++ [c]).map digitValue) = 10 * number (ds.map digitValue) + digitValue c := by
  rw [List.map_append, List.map_singleton, number_concat]

theorem Numeral.digits (h : Numeral cs n) :
    AllDigits (bare cs) ∧ number ((bare cs).map digitValue) = n := by
  induction h with
  | digit hc =>
    rw [bare_of_isDigit hc]
    exact ⟨allDigits_concat (fun _ h => absurd h List.not_mem_nil) hc, Nat.zero_add _⟩
  | next _ hgap hc ih =>
    rw [bare_append, bare_gap hgap, bare_of_isDigit hc, number_map_concat, ih.2]
    exact ⟨allDigits_concat ih.1.2 hc, rfl⟩

theorem spaced_of_append {ds : List Char} (h : Spaced (cs ++ ds))
    (hdigits : AllDigits (bare (cs ++ ds))) (hlast : cs.getLast?.any isUnderscore = false)
    (hcs : cs ≠ []) : Spaced cs ∧ AllDigits (bare cs) := by
  have hfirst := h.first
  rw [List.head?_append_of_ne_nil _ hcs] at hfirst
  refine ⟨⟨hfirst, hlast, hasDoubled_of_append h.single⟩, ?_, fun c hc => ?_⟩
  · rw [List.getLast?_eq_some_getLast hcs, Option.any_some] at hlast
    exact List.ne_nil_of_mem (List.mem_filter.mpr ⟨List.getLast_mem hcs, by rw [hlast]; rfl⟩)
  · exact hdigits.2 c (by rw [bare_append]; exact List.mem_append_left _ hc)

theorem exists_numeral {cs : List Char} (h : Spaced cs) (hdigits : AllDigits (bare cs)) :
    ∃ n, Numeral cs n := by
  rcases List.eq_nil_or_concat cs with rfl | ⟨init, c, rfl⟩
  · exact absurd rfl hdigits.1
  rw [List.concat_eq_append] at h hdigits ⊢
  have hc : c.isDigit = true := by
    have hlast : isUnderscore c = false := by simpa using h.last
    exact hdigits.2 c (List.mem_filter.mpr ⟨by simp, by rw [hlast]; rfl⟩)
  rcases List.eq_nil_or_concat init with rfl | ⟨start, d, hinit⟩
  · exact ⟨_, .digit hc⟩
  rw [List.concat_eq_append] at hinit
  cases hd : isUnderscore d with
  | false =>
    have hlast : init.getLast?.any isUnderscore = false := by rw [hinit]; simpa using hd
    obtain ⟨hspaced, hrest⟩ := spaced_of_append h hdigits hlast (by rw [hinit]; simp)
    obtain ⟨n, hn⟩ := exists_numeral hspaced hrest
    exact ⟨_, .next hn List.mem_cons_self hc⟩
  | true =>
    -- what stands before the underscore is not empty and does not end in another one
    obtain rfl : d = '_' := beq_iff_eq.mp hd
    rw [hinit, List.append_assoc] at h hdigits ⊢
    have hstart : start ≠ [] := by
      rintro rfl
      cases h.first
    have hlast : start.getLast?.any isUnderscore = false := by
      have hsingle := h.single
      rw [← List.append_assoc] at hsingle
      have hsingle := hasDoubled_of_append hsingle
      rw [hasDoubled_concat, Bool.or_eq_false_iff] at hsingle
      simpa [hd] using hsingle.2
    obtain ⟨hspaced, hrest⟩ := spaced_of_append h hdigits hlast hstart
    obtain ⟨n, hn⟩ := exists_numeral hspaced hrest
    exact ⟨_, .next hn (List.mem_cons_of_mem _ List.mem_cons_self) hc⟩
termination_by cs.length
decreasing_by
  all_goals simp_all

theorem numeral_iff :
    Numeral cs n ↔
      Spaced cs ∧ AllDigits (bare cs) ∧ number ((bare cs).map digitValue) = n := by
  constructor
  · exact fun h => ⟨h.spaced, h.digits⟩
  · rintro ⟨hspaced, hdigits, rfl⟩
    obtain ⟨m, hm⟩ := exists_numeral hspaced hdigits
    rwa [hm.digits.2]

end Numerals

end TableSeeder.Reading
