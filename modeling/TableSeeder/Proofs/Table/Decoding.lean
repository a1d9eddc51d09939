import TableSeeder.Proofs.Number.Decimal
import TableSeeder.Proofs.Table.Numbers

/-! Attributes read back as the values they were made for. -/

namespace TableSeeder.Attribute

mutual

def decode? : Attribute → Option Value
  | .null => some .null
  | .bool b => some (.bool b)
  | .number decimal => (Reading.literal decimal.toList).toOption.map .int
  | .text s => some (.text s)
  | .bytes bs => some (.bytes bs)
  | .list as => (decodeAll? as).map .list
  | .map ms => (decodeMembers? ms).map .object

def decodeAll? : List Attribute → Option (List Value)
  | [] => some []
  | a :: as =>
    match decode? a, decodeAll? as with
    | some v, some vs => some (v :: vs)
    | _, _ => none

def decodeMembers? : List (String × Attribute) → Option (List (String × Value))
  | [] => some []
  | (k, a) :: ms =>
    match decode? a, decodeMembers? ms with
    | some v, some vs => some ((k, v) :: vs)
    | _, _ => none

end

section Inversion

theorem ok_of_list {vs : List Value} {a : Attribute} (h : ofValue (.list vs) = .ok a) :
    ∃ as, ofValues vs = .ok as ∧ a = .list as := by
  rw [ofValue] at h
  cases hvs : ofValues vs with
  | error u => simp [hvs] at h
  | ok as =>
    rw [hvs, Except.ok.injEq] at h
    exact ⟨as, rfl, h.symm⟩

theorem ok_of_object {ms : Members Value} {a : Attribute} (h : ofValue (.object ms) = .ok a) :
    ∃ row, ofMembers ms = .ok row ∧ a = .map row := by
  rw [ofValue] at h
  cases hms : ofMembers ms with
  | error u => simp [hms] at h
  | ok row =>
    rw [hms, Except.ok.injEq] at h
    exact ⟨row, rfl, h.symm⟩

theorem ok_of_values_cons {v : Value} {vs : List Value} {as : List Attribute}
    (h : ofValues (v :: vs) = .ok as) :
    ∃ a rest, ofValue v = .ok a ∧ ofValues vs = .ok rest ∧ as = a :: rest := by
  rw [ofValues] at h
  cases hv : ofValue v with
  | error u => simp [hv] at h
  | ok a =>
    cases hvs : ofValues vs with
    | error u => simp [hv, hvs] at h
    | ok rest =>
      simp only [hv, hvs, Except.ok.injEq] at h
      exact ⟨a, rest, rfl, rfl, h.symm⟩

theorem ok_of_members_cons {m : String × Value} {ms : Members Value} {row : Row}
    (h : ofMembers (m :: ms) = .ok row) :
    ∃ a rest, ofValue m.2 = .ok a ∧ ofMembers ms = .ok rest ∧ row = (m.1, a) :: rest := by
  obtain ⟨k, v⟩ := m
  rw [ofMembers] at h
  cases hv : ofValue v with
  | error u => simp [hv] at h
  | ok a =>
    cases hms : ofMembers ms with
    | error u => simp [hv, hms] at h
    | ok rest =>
      simp only [hv, hms, Except.ok.injEq] at h
      exact ⟨a, rest, rfl, rfl, h.symm⟩

end Inversion

theorem decode?_ofInt {n : Int} {a : Attribute} (h : ofInt n = .ok a) :
    decode? a = some (.int n) := by
  by_cases hn : n.natAbs < tenTo maxDigits
  · have hdigits : n.natAbs.repr.length ≤ maxDigits := (length_repr_le_iff (by decide)).mpr hn
    have hlength : (toString n).length ≤ Reading.digitLimit :=
      calc (toString n).length ≤ n.natAbs.repr.length + 1 := Reading.length_toString_le n
        _ ≤ maxDigits + 1 := Nat.succ_le_succ hdigits
        _ ≤ Reading.digitLimit := by decide
    rw [ofInt_of_lt hn, Except.ok.injEq] at h
    rw [← h, decode?, Reading.literal_toString n hlength]
    rfl
  · obtain ⟨u, hu⟩ := exists_excess_iff.mpr (Nat.le_of_not_lt hn)
    rw [ofInt_of_excess hu] at h
    cases h

mutual

/-- Nothing is lost, moved or taken for something else. -/
theorem decode?_ofValue : ∀ {v : Value} {a : Attribute}, ofValue v = .ok a → decode? a = some v
  | .null, _, h | .bool _, _, h | .text _, _, h | .bytes _, _, h => by
    rw [← Except.ok.inj h]
    rfl
  | .int n, a, h => decode?_ofInt h
  | .float _, _, h => by cases h
  | .list vs, a, h => by
    obtain ⟨as, hvs, rfl⟩ := ok_of_list h
    rw [decode?, decodeAll?_ofValues hvs, Option.map_some]
  | .object ms, a, h => by
    obtain ⟨row, hms, rfl⟩ := ok_of_object h
    rw [decode?, decodeMembers?_ofMembers hms, Option.map_some]

theorem decodeAll?_ofValues :
    ∀ {vs : List Value} {as : List Attribute}, ofValues vs = .ok as → decodeAll? as = some vs
  | [], _, h => by
    rw [← Except.ok.inj h]
    rfl
  | v :: vs, as, h => by
    obtain ⟨a, rest, hv, hvs, rfl⟩ := ok_of_values_cons h
    rw [decodeAll?, decode?_ofValue hv, decodeAll?_ofValues hvs]

theorem decodeMembers?_ofMembers :
    ∀ {ms : List (String × Value)} {row : List (String × Attribute)},
      ofMembers ms = .ok row → decodeMembers? row = some ms
  | [], _, h => by
    rw [← Except.ok.inj h]
    rfl
  | (k, v) :: ms, row, h => by
    obtain ⟨a, rest, hv, hms, rfl⟩ := ok_of_members_cons h
    rw [decodeMembers?, decode?_ofValue hv, decodeMembers?_ofMembers hms]

end

theorem keys_ofMembers {ms : Members Value} {row : Row} (h : ofMembers ms = .ok row) :
    row.keys = ms.keys := by
  induction ms generalizing row with
  | nil =>
    rw [← Except.ok.inj h]
    rfl
  | cons m ms ih =>
    obtain ⟨a, rest, -, hms, rfl⟩ := ok_of_members_cons h
    rw [Members.keys_cons, Members.keys_cons, ih hms]

end TableSeeder.Attribute
