import Mathlib.Data.List.TakeWhile
import TableSeeder.Proofs.Number.Numeral

/-! Whole numbers in decimal: the digits that are written are a literal, and it is read back as the
number it was written for. -/

namespace TableSeeder.Reading

theorem number_toDigits (n : Nat) : number ((Nat.toDigits 10 n).map digitValue) = n := by
  rw [number, List.foldl_map]
  exact Nat.ofDigitChars_ten_toDigits

theorem eq_zero_of_head?_toDigits {n : Nat} (h : (Nat.toDigits 10 n).head? = some '0') :
    n = 0 := by
  induction n using Nat.strongRecOn with
  | ind n ih =>
    by_cases hn : n < 10
    · rw [Nat.toDigits_of_lt_base hn, List.head?_cons, Option.some.injEq] at h
      exact Nat.digitChar_eq_zero.mp h
    · -- the first digit of a longer number is that of the number without its last digit
      obtain ⟨c, hc⟩ : ∃ c, (Nat.toDigits 10 (n / 10)).head? = some c :=
        Option.ne_none_iff_exists'.mp fun hnone =>
          Nat.toDigits_ne_nil (List.head?_eq_none_iff.mp hnone)
      rw [Nat.toDigits_of_base_le (by decide) (Nat.le_of_not_lt hn), List.head?_append, hc,
        Option.some_or] at h
      have hrest : n / 10 = 0 := ih (n / 10) (by omega) (hc.trans h)
      omega

theorem allDigits_toDigits (n : Nat) : AllDigits (Nat.toDigits 10 n) :=
  ⟨Nat.toDigits_ne_nil, fun _ hc => Nat.isDigit_of_mem_toDigits (by decide) (by decide) hc⟩

theorem minus_of_allDigits {ds : List Char} (h : AllDigits ds) : minus ds = (false, ds) := by
  unfold minus
  split
  · exact absurd rfl (ne_of_isDigit (h.2 '-' List.mem_cons_self) rfl)
  · rfl

theorem minus_toDigits (n : Nat) : minus (Nat.toDigits 10 n) = (false, Nat.toDigits 10 n) :=
  minus_of_allDigits (allDigits_toDigits n)

section Literals

variable {cs ds : List Char} {negative : Bool} {n : Int}

def Canonical (ds : List Char) : Prop := ds.head? = some '0' → ds = ['0']

theorem canonical_toDigits (n : Nat) : Canonical (Nat.toDigits 10 n) := by
  intro hhead
  rw [eq_zero_of_head?_toDigits hhead]
  rfl

def signedNumber (negative : Bool) (ds : List Char) : Int :=
  if negative then -(number (ds.map digitValue) : Int) else number (ds.map digitValue)

theorem eq_of_minus (h : minus cs = (negative, ds)) :
    cs = (if negative then ['-'] else []) ++ ds := by
  unfold minus at h
  split at h
  all_goals
    cases h
    rfl

theorem not_long_of_canonical (h : Canonical ds) : ¬ (ds.head? = some '0' ∧ 1 < ds.length) := by
  rintro ⟨hhead, hlong⟩
  rw [h hhead] at hlong
  exact absurd hlong (by decide)

theorem literal_of_digits (hminus : minus cs = (negative, ds)) (hdigits : AllDigits ds)
    (hcanonical : Canonical ds) (hlimit : cs.length ≤ digitLimit) :
    literal cs = .ok (signedNumber negative ds) := by
  have hall : ds.takeWhile Char.isDigit = ds := List.takeWhile_eq_self_iff.mpr hdigits.2
  have hlength : ds.length ≤ cs.length := by
    rw [eq_of_minus hminus, List.length_append]
    omega
  have hshort : ¬ digitLimit < cs.length - ds.length + ds.length := by omega
  have hwhole : ¬ (ds = [] ∨ ds.length < ds.length) := by
    rintro (hnil | hlt)
    · exact hdigits.1 hnil
    · exact Nat.lt_irrefl _ hlt
  unfold literal
  rw [hminus]
  dsimp only
  rw [hall, if_neg (not_long_of_canonical hcanonical), if_neg hshort, if_neg hwhole]
  rfl

theorem canonical_of_not_long (h : ¬ (ds.head? = some '0' ∧ 1 < ds.length)) : Canonical ds := by
  intro hhead
  cases ds with
  | nil => cases hhead
  | cons d ds =>
    cases ds with
    | nil => rw [Option.some.inj hhead]
    | cons e ds => exact absurd ⟨hhead, by simp⟩ h

theorem literal_cases (hlimit : cs.length ≤ digitLimit) :
    literal cs = .error .malformed ∨
      ∃ negative ds, minus cs = (negative, ds) ∧ AllDigits ds ∧ Canonical ds ∧
        literal cs = .ok (signedNumber negative ds) := by
  rcases hminus : minus cs with ⟨negative, body⟩
  have hbegins := List.takeWhile_prefix Char.isDigit (l := body)
  have hlength : body.length ≤ cs.length := by
    rw [eq_of_minus hminus, List.length_append]
    omega
  have hshort : ¬ digitLimit <
      cs.length - body.length + (body.takeWhile Char.isDigit).length := by
    have := hbegins.length_le
    omega
  -- two things spoil a literal: a zero in front, and anything behind the digits
  by_cases hzeros : (body.takeWhile Char.isDigit).head? = some '0' ∧
      1 < (body.takeWhile Char.isDigit).length
  · left
    unfold literal
    rw [hminus]
    dsimp only
    rw [if_pos hzeros]
  by_cases hwhole : body.takeWhile Char.isDigit = [] ∨
      (body.takeWhile Char.isDigit).length < body.length
  · left
    unfold literal
    rw [hminus]
    dsimp only
    rw [if_neg hzeros, if_neg hshort, if_pos hwhole]
  · right
    obtain ⟨hne, hlt⟩ := not_or.mp hwhole
    have hall : body.takeWhile Char.isDigit = body :=
      hbegins.eq_of_length (Nat.le_antisymm hbegins.length_le (Nat.le_of_not_lt hlt))
    rw [hall] at hne hzeros
    have hdigits : AllDigits body := ⟨hne, List.takeWhile_eq_self_iff.mp hall⟩
    have hcanonical := canonical_of_not_long hzeros
    exact ⟨negative, body, rfl, hdigits, hcanonical,
      literal_of_digits hminus hdigits hcanonical hlimit⟩

end Literals

theorem literal_of_minus {cs : List Char} {negative : Bool} {n : Nat}
    (hminus : minus cs = (negative, Nat.toDigits 10 n)) (hlimit : cs.length ≤ digitLimit) :
    literal cs = .ok (if negative then -(n : Int) else n) := by
  rw [literal_of_digits hminus (allDigits_toDigits n) (canonical_toDigits n) hlimit, signedNumber,
    number_toDigits]

theorem length_toString_le (n : Int) : (toString n).length ≤ n.natAbs.repr.length + 1 := by
  cases n with
  | ofNat m => exact Nat.le_succ _
  | negSucc m =>
    change ("-" ++ (m + 1).repr).length ≤ _
    rw [String.length_append, Nat.add_comm]
    exact Nat.le_refl _

/-- What is written for a number is read as that number, unless it is too long to be read. -/
theorem literal_toString (n : Int) (h : (toString n).length ≤ digitLimit) :
    literal (toString n).toList = .ok n := by
  cases n with
  | ofNat m =>
    change m.repr.length ≤ digitLimit at h
    change literal m.repr.toList = .ok (Int.ofNat m)
    rw [← String.length_toList, Nat.toList_repr] at h
    rw [Nat.toList_repr]
    exact literal_of_minus (minus_toDigits m) h
  | negSucc m =>
    have htext : (toString (Int.negSucc m)).toList = '-' :: Nat.toDigits 10 (m + 1) := by
      change ("-" ++ (m + 1).repr).toList = _
      rw [String.toList_append, Nat.toList_repr]
      rfl
    rw [← String.length_toList, htext] at h
    rw [htext]
    exact literal_of_minus rfl h

section Cuts

variable {p : Char → Bool} {cs : List Char}

theorem cut_eq_self (h : ∀ c ∈ cs, p c = false) : cut p cs = (cs, none) := by
  induction cs with
  | nil => rfl
  | cons c cs ih =>
    rw [List.forall_mem_cons] at h
    rw [cut, h.1, ih h.2]
    rfl

theorem cut_append {c : Char} (h : ∀ d ∈ cs, p d = false) (hc : p c = true) (rest : List Char) :
    cut p (cs ++ c :: rest) = (cs, some rest) := by
  induction cs with
  | nil => rw [List.nil_append, cut, if_pos hc]
  | cons d cs ih =>
    rw [List.forall_mem_cons] at h
    rw [List.cons_append, cut, h.1, ih h.2]
    rfl

theorem eq_of_cut {before : List Char} {after? : Option (List Char)}
    (h : cut p cs = (before, after?)) :
    (after? = none ∧ cs = before) ∨
      ∃ c after, p c = true ∧ after? = some after ∧ cs = before ++ c :: after := by
  induction cs generalizing before with
  | nil =>
    cases h
    exact .inl ⟨rfl, rfl⟩
  | cons c cs ih =>
    unfold cut at h
    split at h
    · cases h
      exact .inr ⟨c, cs, ‹_›, rfl, rfl⟩
    · obtain ⟨rfl, rfl⟩ := Prod.mk.inj h
      obtain ⟨hnone, hcs⟩ | ⟨d, after, hd, hsome, hcs⟩ := ih rfl
      · exact .inl ⟨hnone, congrArg (c :: ·) hcs⟩
      · exact .inr ⟨d, after, hd, hsome, congrArg (c :: ·) hcs⟩

theorem isPoint_of_isDigit (c : Char) (h : c.isDigit = true) : isPoint c = false :=
  beq_eq_false_iff_ne.mpr (ne_of_isDigit h rfl)

end Cuts

end TableSeeder.Reading
