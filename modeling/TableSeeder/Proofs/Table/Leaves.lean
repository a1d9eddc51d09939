import TableSeeder.Proofs.Outcomes
import TableSeeder.Proofs.Table.Numbers

/-! Values taken apart into those that hold no others. A value has an attribute form unless one of
them has none, and then it is the first of these that is reported. -/

namespace TableSeeder

namespace Value

variable {τ : Type}

mutual

def leaves : Value τ → List (Value τ)
  | .list vs => leavesOfAll vs
  | .object ms => leavesOfMembers ms
  | v => [v]

def leavesOfAll : List (Value τ) → List (Value τ)
  | [] => []
  | v :: vs => leaves v ++ leavesOfAll vs

def leavesOfMembers : List (τ × Value τ) → List (Value τ)
  | [] => []
  | (_, v) :: ms => leaves v ++ leavesOfMembers ms

end

def Storable : Value → Prop
  | .float _ => False
  | .int n => n.natAbs < tenTo Attribute.maxDigits
  | _ => True

inductive Offends : Value → Unstorable → Prop where
  | float (x : Float) : Offends (.float x) .float
  | int {n : Int} {u : Unstorable} (h : Attribute.Excess n.natAbs u) : Offends (.int n) u

def FirstOffends (vs : List Value) (u : Unstorable) : Prop :=
  ∃ before v after, vs = before ++ v :: after ∧ (∀ x ∈ before, x.Storable) ∧
    ¬ v.Storable ∧ v.Offends u

theorem exists_offends_iff {v : Value} : (∃ u, v.Offends u) ↔ ¬ v.Storable := by
  constructor
  · rintro ⟨u, x | h⟩
    · exact not_false
    · exact Nat.not_lt_of_le (Attribute.exists_excess_iff.mp ⟨u, h⟩)
  · intro h
    cases v with
    | float x => exact ⟨_, .float x⟩
    | int n =>
      obtain ⟨u, hu⟩ := Attribute.exists_excess_iff.mpr (Nat.le_of_not_lt h)
      exact ⟨u, .int hu⟩
    | _ => exact absurd trivial h

end Value

namespace Attribute
open Value

def offence? : Value → Option Unstorable
  | .float _ => some .float
  | .int n => error? (ofInt n)
  | _ => none

theorem offence?_of_offends {v : Value} {u : Unstorable} (h : v.Offends u) :
    offence? v = some u := by
  cases h with
  | float x => rfl
  | int h => rw [offence?, ofInt_of_excess h, error?]

theorem offence?_eq_none_iff {v : Value} : offence? v = none ↔ v.Storable := by
  constructor
  · intro hnone
    by_cases h : v.Storable
    · exact h
    · obtain ⟨u, hu⟩ := exists_offends_iff.mpr h
      rw [offence?_of_offends hu] at hnone
      cases hnone
  · intro h
    cases v with
    | float x => exact h.elim
    | int n => rw [offence?, ofInt_of_lt h, error?]
    | _ => rfl

theorem offence?_eq_some_iff {v : Value} {u : Unstorable} :
    offence? v = some u ↔ v.Offends u := by
  refine ⟨fun hsome => ?_, offence?_of_offends⟩
  have h : ¬ v.Storable := fun h => by
    rw [offence?_eq_none_iff.mpr h] at hsome
    cases hsome
  obtain ⟨u', hu'⟩ := exists_offends_iff.mpr h
  rw [offence?_of_offends hu', Option.some.injEq] at hsome
  rwa [← hsome]

mutual

/-- The conversion goes from leaf to leaf and breaks off at the first that it cannot convert. -/
theorem error?_ofValue : ∀ v : Value, error? (ofValue v) = v.leaves.findSome? offence?
  | .null | .bool _ | .float _ | .text _ | .bytes _ => rfl
  | .int n => by
    change offence? (.int n) = [Value.int n].findSome? offence?
    rw [List.findSome?_singleton]
  | .list vs => by
    have ih := error?_ofValues vs
    rw [ofValue, leaves, ← ih]
    cases ofValues vs <;> rfl
  | .object ms => by
    have ih := error?_ofMembers ms
    rw [ofValue, leaves, ← ih]
    cases ofMembers ms <;> rfl

theorem error?_ofValues :
    ∀ vs : List Value, error? (ofValues vs) = (leavesOfAll vs).findSome? offence?
  | [] => rfl
  | v :: vs => by
    have ihead := error?_ofValue v
    have irest := error?_ofValues vs
    rw [ofValues, leavesOfAll, List.findSome?_append, ← ihead, ← irest]
    cases ofValue v with
    | error u => rfl
    | ok a => cases ofValues vs <;> rfl

theorem error?_ofMembers :
    ∀ ms : List (String × Value), error? (ofMembers ms) = (leavesOfMembers ms).findSome? offence?
  | [] => rfl
  | (k, v) :: ms => by
    have ihead := error?_ofValue v
    have irest := error?_ofMembers ms
    rw [ofMembers, leavesOfMembers, List.findSome?_append, ← ihead, ← irest]
    cases ofValue v with
    | error u => rfl
    | ok a => cases ofMembers ms <;> rfl

end

theorem exists_ofMembers_iff {ms : Members Value} :
    (∃ row, ofMembers ms = .ok row) ↔ ∀ v ∈ leavesOfMembers ms, v.Storable := by
  rw [ok_iff_of_traversal (error?_ofMembers ms)]
  simp only [offence?_eq_none_iff]

theorem ofMembers_eq_error_iff {ms : Members Value} {u : Unstorable} :
    ofMembers ms = .error u ↔ FirstOffends (leavesOfMembers ms) u := by
  rw [error_iff_of_traversal (error?_ofMembers ms), FirstOffends]
  simp only [offence?_eq_none_iff, offence?_eq_some_iff]
  constructor
  · rintro ⟨before, v, after, hsplit, hbefore, hv⟩
    exact ⟨before, v, after, hsplit, hbefore, exists_offends_iff.mp ⟨u, hv⟩, hv⟩
  · rintro ⟨before, v, after, hsplit, hbefore, -, hv⟩
    exact ⟨before, v, after, hsplit, hbefore, hv⟩

end Attribute

end TableSeeder
