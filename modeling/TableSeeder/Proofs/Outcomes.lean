/-! What the outcome of a composed computation says about its parts. -/

namespace TableSeeder

variable {ε ε' α β : Type} {x : Except ε α}

theorem ok_of_bind {f : α → Except ε β} {b : β} (h : x.bind f = .ok b) :
    ∃ a, x = .ok a ∧ f a = .ok b := by
  cases x with
  | error e => cases h
  | ok a => exact ⟨a, rfl, h⟩

theorem ok_of_mapError {f : ε → ε'} {a : α} (h : x.mapError f = .ok a) : x = .ok a := by
  cases x with
  | error e => cases h
  | ok a' => rw [Except.ok.inj h]

theorem ok_of_toOption {a : α} (h : x.toOption = some a) : x = .ok a := by
  cases x with
  | error e => cases h
  | ok a' => rw [Option.some.inj h]

theorem error_of_map {f : α → β} {e : ε} (h : x.map f = .error e) : x = .error e := by
  cases x with
  | error e' => rw [Except.error.inj h]
  | ok a => cases h

theorem error_of_mapError {f : ε → ε'} {e' : ε'} (h : x.mapError f = .error e') :
    ∃ e, x = .error e ∧ f e = e' := by
  cases x with
  | error e => exact ⟨e, rfl, Except.error.inj h⟩
  | ok a => cases h

def error? : Except ε α → Option ε
  | .error e => some e
  | .ok _ => none

theorem error?_eq_some_iff {e : ε} : error? x = some e ↔ x = .error e := by
  cases x <;> simp [error?]

theorem error?_eq_none_iff : error? x = none ↔ ∃ a, x = .ok a := by
  cases x <;> simp [error?]

section Traversal

/-! A computation that goes through a list and fails by the first entry that is at fault. -/

variable {γ : Type} {l : List γ} {fault? : γ → Option ε} (h : error? x = l.findSome? fault?)
include h

theorem ok_iff_of_traversal : (∃ a, x = .ok a) ↔ ∀ c ∈ l, fault? c = none := by
  rw [← error?_eq_none_iff, h, List.findSome?_eq_none_iff]

theorem error_iff_of_traversal {e : ε} :
    x = .error e ↔ ∃ before c after, l = before ++ c :: after ∧
      (∀ c' ∈ before, fault? c' = none) ∧ fault? c = some e := by
  rw [← error?_eq_some_iff, h, List.findSome?_eq_some_iff]
  constructor
  · rintro ⟨before, c, after, hsplit, hc, hbefore⟩
    exact ⟨before, c, after, hsplit, hbefore, hc⟩
  · rintro ⟨before, c, after, hsplit, hbefore, hc⟩
    exact ⟨before, c, after, hsplit, hc, hbefore⟩

end Traversal

end TableSeeder
