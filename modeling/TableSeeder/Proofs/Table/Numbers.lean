import TableSeeder.Table.Attribute

/-! Which whole numbers a table can store: those of no more digits than are kept. What is reported
of a longer one is read off the number itself. -/

namespace TableSeeder

theorem tenTo_succ (k : Nat) : tenTo (k + 1) = 2 * (5 * tenTo k) := by
  change tenTo k * 10 = _
  omega

theorem tenTo_add (j k : Nat) : tenTo (j + k) = tenTo j * tenTo k := Nat.pow_add 10 j k

theorem tenTo_pos (k : Nat) : 0 < tenTo k := Nat.pow_pos (by decide)

theorem tenTo_le_tenTo {j k : Nat} (h : j ≤ k) : tenTo j ≤ tenTo k :=
  Nat.pow_le_pow_right (by decide) h

theorem length_repr_le_iff {n k : Nat} (hk : 0 < k) : n.repr.length ≤ k ↔ n < tenTo k :=
  Nat.length_repr_le_iff hk

theorem tenTo_le_of_length {n k : Nat} (hk : 1 < k) (h : n.repr.length = k) :
    tenTo (k - 1) ≤ n := by
  apply Nat.le_of_not_lt
  intro hlt
  have hshort : n.repr.length ≤ k - 1 := (length_repr_le_iff (by omega)).mpr hlt
  omega

theorem le_roundHalfEven_iff {n half t : Nat} (hhalf : 0 < half) (ht : t % 2 = 0) (hpos : 0 < t) :
    t ≤ roundHalfEven n (2 * half) ↔ t * (2 * half) ≤ n + half := by
  unfold roundHalfEven
  dsimp only
  have hdiv : 2 * half * (n / (2 * half)) + n % (2 * half) = n := Nat.div_add_mod n (2 * half)
  have hmod : n % (2 * half) < 2 * half := Nat.mod_lt n (by omega)
  generalize n / (2 * half) = q at hdiv ⊢
  generalize n % (2 * half) = r at hdiv hmod ⊢
  subst hdiv
  rcases Nat.lt_trichotomy t (q + 1) with hlt | rfl | hgt
  · have hle : t * (2 * half) ≤ 2 * half * q := by
      rw [Nat.mul_comm]
      exact Nat.mul_le_mul_left _ (Nat.le_of_lt_succ hlt)
    split <;> omega
  · -- just below `t` a half goes up to it, since it is the even neighbour
    have hstep : (q + 1) * (2 * half) = 2 * half * q + 2 * half := by
      rw [Nat.succ_mul, Nat.mul_comm]
    rw [hstep]
    split <;> omega
  · have hle : 2 * half * (q + 2) ≤ t * (2 * half) := by
      rw [Nat.mul_comm t]
      exact Nat.mul_le_mul_left _ hgt
    rw [Nat.mul_add] at hle
    split <;> omega

theorem roundHalfEven_le (n den : Nat) : roundHalfEven n den ≤ n / den + 1 := by
  unfold roundHalfEven
  dsimp only
  split <;> omega

namespace Attribute

def TrailsZeros (n : Nat) : Prop := ∃ m k, m < tenTo maxDigits ∧ n = m * tenTo k

/-- What is reported of a number of too many digits: that it is out of range once it is rounded to
the digits kept, or else that it loses digits other than zeros, or zeros alone. -/
inductive Excess (n : Nat) : Unstorable → Prop where
  | overflow (hrange : tenTo (maxExponent + 1) ≤ n + 5 * tenTo (maxExponent - maxDigits)) :
      Excess n .overflow
  | inexact (hlong : tenTo maxDigits ≤ n)
      (hrange : n + 5 * tenTo (maxExponent - maxDigits) < tenTo (maxExponent + 1))
      (hzeros : ¬ TrailsZeros n) : Excess n .inexact
  | rounded (hlong : tenTo maxDigits ≤ n)
      (hrange : n + 5 * tenTo (maxExponent - maxDigits) < tenTo (maxExponent + 1))
      (hzeros : TrailsZeros n) : Excess n .rounded

theorem exists_excess_iff {n : Nat} : (∃ u, Excess n u) ↔ tenTo maxDigits ≤ n := by
  constructor
  · rintro ⟨u, hrange | ⟨hlong, -, -⟩ | ⟨hlong, -, -⟩⟩
    · have hgap : tenTo maxDigits + 5 * tenTo (maxExponent - maxDigits) ≤
          tenTo (maxExponent + 1) := by decide
      omega
    · exact hlong
    · exact hlong
  · intro hlong
    by_cases hrange : tenTo (maxExponent + 1) ≤ n + 5 * tenTo (maxExponent - maxDigits)
    · exact ⟨_, .overflow hrange⟩
    · by_cases hzeros : TrailsZeros n
      · exact ⟨_, .rounded hlong (Nat.lt_of_not_le hrange) hzeros⟩
      · exact ⟨_, .inexact hlong (Nat.lt_of_not_le hrange) hzeros⟩

section Long

variable {n : Nat} (hlong : maxDigits < n.repr.length)
include hlong

theorem overflows_iff :
    (maxExponent < n.repr.length - 1 ∨ (maxExponent < n.repr.length ∧
        roundHalfEven n (tenTo (n.repr.length - maxDigits)) = tenTo maxDigits)) ↔
      tenTo (maxExponent + 1) ≤ n + 5 * tenTo (maxExponent - maxDigits) := by
  have hbelow : n < tenTo n.repr.length :=
    (length_repr_le_iff (Nat.zero_lt_of_lt hlong)).mp (Nat.le_refl _)
  have habove : tenTo (n.repr.length - 1) ≤ n :=
    tenTo_le_of_length (Nat.lt_of_le_of_lt (by decide) hlong) rfl
  generalize n.repr.length = count at hlong hbelow habove ⊢
  rcases Nat.lt_trichotomy count (maxExponent + 1) with hlt | rfl | hgt
  · have hle : tenTo count ≤ tenTo maxExponent := tenTo_le_tenTo (Nat.le_of_lt_succ hlt)
    have hgap : tenTo maxExponent + 5 * tenTo (maxExponent - maxDigits) <
        tenTo (maxExponent + 1) := by decide
    refine iff_of_false ?_ (by omega)
    rintro (h | ⟨h, -⟩) <;> omega
  · -- only among the longest numbers in range does rounding decide
    have hunit : maxExponent + 1 - maxDigits = maxExponent - maxDigits + 1 := rfl
    have hrange : tenTo (maxExponent + 1) =
        tenTo maxDigits * (2 * (5 * tenTo (maxExponent - maxDigits))) := by
      rw [← tenTo_succ, ← tenTo_add]
      rfl
    have hhalf : 0 < 5 * tenTo (maxExponent - maxDigits) :=
      Nat.mul_pos (by decide) (tenTo_pos _)
    have hreaches := le_roundHalfEven_iff (n := n) hhalf (show tenTo maxDigits % 2 = 0 by decide)
      (tenTo_pos maxDigits)
    have hatMost := roundHalfEven_le n (2 * (5 * tenTo (maxExponent - maxDigits)))
    have hquotient : n / (2 * (5 * tenTo (maxExponent - maxDigits))) < tenTo maxDigits := by
      rw [Nat.div_lt_iff_lt_mul (by omega), ← hrange]
      exact hbelow
    rw [hunit, tenTo_succ, hrange, ← hreaches]
    omega
  · have hle : tenTo (maxExponent + 1) ≤ tenTo (count - 1) := tenTo_le_tenTo (by omega)
    exact iff_of_true (.inl (by omega)) (by omega)

theorem mod_unit_eq_zero_iff :
    n % tenTo (n.repr.length - maxDigits) = 0 ↔ TrailsZeros n := by
  have hbelow : n < tenTo n.repr.length :=
    (length_repr_le_iff (Nat.zero_lt_of_lt hlong)).mp (Nat.le_refl _)
  have habove : tenTo (n.repr.length - 1) ≤ n :=
    tenTo_le_of_length (Nat.lt_of_le_of_lt (by decide) hlong) rfl
  generalize n.repr.length = count at hlong hbelow habove ⊢
  constructor
  · intro hmod
    refine ⟨n / tenTo (count - maxDigits), count - maxDigits, ?_, ?_⟩
    · rw [Nat.div_lt_iff_lt_mul (tenTo_pos _), ← tenTo_add]
      rwa [Nat.add_sub_cancel' (Nat.le_of_lt hlong)]
    · exact (Nat.div_mul_cancel (Nat.dvd_of_mod_eq_zero hmod)).symm
  · rintro ⟨m, k, hm, rfl⟩
    -- with fewer zeros the number would be too short
    have hzeros : count - maxDigits ≤ k := by
      apply Nat.le_of_not_lt
      intro hk
      have hshort : m * tenTo k < tenTo maxDigits * tenTo k :=
        Nat.mul_lt_mul_of_pos_right hm (tenTo_pos k)
      rw [← tenTo_add] at hshort
      have hle : tenTo (maxDigits + k) ≤ tenTo (count - 1) := tenTo_le_tenTo (by omega)
      omega
    apply Nat.mod_eq_zero_of_dvd
    apply Nat.dvd_mul_left_of_dvd
    exact Nat.pow_dvd_pow 10 hzeros

end Long

theorem ofInt_of_lt {n : Int} (h : n.natAbs < tenTo maxDigits) :
    ofInt n = .ok (number (toString n)) := by
  have hshort : n.natAbs.repr.length ≤ maxDigits := (length_repr_le_iff (by decide)).mpr h
  unfold ofInt
  dsimp only
  rw [if_pos hshort]

theorem ofInt_of_excess {n : Int} {u : Unstorable} (h : Excess n.natAbs u) :
    ofInt n = .error u := by
  have hlong : maxDigits < n.natAbs.repr.length := by
    apply Nat.lt_of_not_le
    intro hshort
    have hlt := (length_repr_le_iff (by decide)).mp hshort
    have hle := exists_excess_iff.mp ⟨u, h⟩
    omega
  unfold ofInt
  dsimp only
  rw [if_neg (Nat.not_le_of_lt hlong)]
  cases h with
  | overflow hrange => rw [if_pos ((overflows_iff hlong).mpr hrange)]
  | inexact _ hrange hzeros =>
    have hin := mt (overflows_iff hlong).mp (Nat.not_le_of_lt hrange)
    have hmod := mt (mod_unit_eq_zero_iff hlong).mp hzeros
    rw [if_neg hin, if_pos hmod]
  | rounded _ hrange hzeros =>
    have hin := mt (overflows_iff hlong).mp (Nat.not_le_of_lt hrange)
    have hmod := (mod_unit_eq_zero_iff hlong).mpr hzeros
    rw [if_neg hin, if_neg (not_not_intro hmod)]

example : ofInt (-tenTo maxDigits) = .error .rounded := rfl

example : ofInt (tenTo maxDigits + 1) = .error .inexact := rfl

end Attribute

end TableSeeder
