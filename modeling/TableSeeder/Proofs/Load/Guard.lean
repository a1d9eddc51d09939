import TableSeeder.Proofs.Load.Runs

/-! Which arguments a load refuses. A pause that is not a number is not negative either, so it gets
past the guard, although it is not at least zero as a pause has to be. -/

namespace TableSeeder

namespace Interval

def Nonnegative : Interval → Prop
  | whole n => 0 ≤ n
  | real x => 0.0 ≤ x

def IsNumber : Interval → Prop
  | whole _ => True
  | real x => x.isNaN = false

section Zero
open Float.Model

theorem unpack_zero : (0.0 : Float).toModel.unpack = .zero .positive := rfl

theorem lt_zero_iff_unpack (x : Float) :
    x < 0.0 ↔ x.toModel.unpack.lt (.zero .positive) = true := by
  change Float.lt x 0.0 = true ↔ _
  rw [Float.lt, decide_eq_true_iff, ← unpack_zero]
  rfl

theorem zero_le_iff_unpack (x : Float) :
    0.0 ≤ x ↔ (UnpackedFloat.zero .positive).le x.toModel.unpack = true := by
  change Float.le 0.0 x = true ↔ _
  rw [Float.le, decide_eq_true_iff, ← unpack_zero]
  rfl

theorem lt_zero_iff (x : Float) : x < 0.0 ↔ ¬ 0.0 ≤ x ∧ x.isNaN = false := by
  have hnan : x.isNaN = x.toModel.unpack.isNaN := rfl
  rw [lt_zero_iff_unpack, zero_le_iff_unpack, hnan]
  cases x.toModel.unpack with
  | notANumber => decide
  | infinity sign => cases sign <;> decide
  | zero sign => cases sign <;> decide
  | finite sign m e hm =>
    cases sign with
    | positive => exact iff_of_false Bool.false_ne_true fun h => h.1 rfl
    | negative => exact iff_of_true rfl ⟨Bool.false_ne_true, rfl⟩

theorem isNaN_of_zero_le {x : Float} (h : 0.0 ≤ x) : x.isNaN = false := by
  rw [zero_le_iff_unpack] at h
  change x.toModel.unpack.isNaN = false
  cases hx : x.toModel.unpack with
  | notANumber =>
    rw [hx] at h
    cases h
  | _ => rfl

end Zero

theorem isNegative_iff (i : Interval) : i.isNegative = true ↔ ¬ i.Nonnegative ∧ i.IsNumber := by
  cases i with
  | whole n =>
    have hn : n < 0 ↔ ¬ 0 ≤ n := Int.not_le.symm
    simp only [isNegative, Nonnegative, IsNumber, decide_eq_true_iff, and_true, hn]
  | real x =>
    simp only [isNegative, Nonnegative, IsNumber, decide_eq_true_iff]
    exact lt_zero_iff x

theorem isNegative_eq_false {i : Interval} (h : i.Nonnegative) : i.isNegative = false := by
  cases hi : i.isNegative with
  | false => rfl
  | true => exact absurd h ((isNegative_iff i).mp hi).1

end Interval

namespace Loader

theorem phase_of_execute (l : Loader) (n : Nat) (interval : Interval) (w : World) :
    (l.execute n interval w).2.1.phase ≠ .notStarted := by
  unfold execute finish
  cases World.log (Load.started l.table n interval) w with
  | mk outcome w =>
    cases outcome with
    | error f => exact Phase.noConfusion
    | ok _ =>
      dsimp only
      obtain ⟨failure, t, w⟩ := Load.iterate l.store l.table interval n {} w
      cases failure <;> exact Phase.noConfusion

/-- Bad arguments are refused at both entries before anything has been done, all but one kind: with
a positive count, a pause that is not a number. -/
theorem run_refuses_iff (store : Store) (table : String) {n : Int} {interval : Interval}
    (h : ¬ (1 ≤ n ∧ interval.Nonnegative)) (w : World) :
    (∃ a, Loader.run { store, table } n interval w =
        (.error (.badArgument a), { store, table }, w) ∧
      load store table n interval w = (.error (.badArgument a), w)) ↔
      n ≤ 0 ∨ interval.IsNumber := by
  cases ha : badArgument? n interval with
  | some a =>
    have hrun : Loader.run { store, table } n interval w = _ := run_of_badArgument ha w
    have hload : load store table n interval w = (.error (.badArgument a), w) := by
      rw [load, hrun]
    refine iff_of_true ⟨a, hrun, hload⟩ ?_
    by_cases hn : n ≤ 0
    · exact .inl hn
    · cases hi : interval.isNegative with
      | true => exact .inr ((Interval.isNegative_iff interval).mp hi).2
      | false =>
        rw [badArgument?_eq_none.mpr ⟨by omega, hi⟩] at ha
        cases ha
  | none =>
    obtain ⟨hn, hi⟩ := badArgument?_eq_none.mp ha
    have hnegative : ¬ interval.Nonnegative := fun hi => h ⟨hn, hi⟩
    have hnumber : ¬ interval.IsNumber := by
      intro hnumber
      rw [(Interval.isNegative_iff interval).mpr ⟨hnegative, hnumber⟩] at hi
      cases hi
    -- the guard is passed, and then the load does not stay fresh
    refine iff_of_false ?_ ?_
    · rintro ⟨a, hrun, _⟩
      rw [run_of_fresh rfl hn hi] at hrun
      apply phase_of_execute { store, table } n.toNat interval w
      rw [hrun]
    · rintro (hn' | hnumber')
      · omega
      · exact hnumber hnumber'

theorem run_refuses_iff_bad_arguments :
    (¬ (1 ≤ (0 : Int) ∧ (Interval.real (0.0 / 0.0)).Nonnegative) ∧
      ∃ a, Loader.run { store := .scripted, table := "t" } 0 (.real (0.0 / 0.0)) .troubled =
        (.error (.badArgument a), { store := .scripted, table := "t" }, .troubled)) ∧
    (¬ (1 ≤ (2 : Int) ∧ (Interval.real (-0.5)).Nonnegative) ∧
      ∃ a, Loader.run { store := .scripted, table := "t" } 2 (.real (-0.5)) .troubled =
        (.error (.badArgument a), { store := .scripted, table := "t" }, .troubled)) := by
  have hcount : ¬ (1 ≤ (0 : Int) ∧ (Interval.real (0.0 / 0.0)).Nonnegative) := fun h => by omega
  have hpause : ¬ (1 ≤ (2 : Int) ∧ (Interval.real (-0.5)).Nonnegative) := by
    rintro ⟨_, h⟩
    exact absurd h (by decide : ¬ (0.0 : Float) ≤ -0.5)
  obtain ⟨a, ha, _⟩ :=
    (run_refuses_iff .scripted "t" hcount .troubled).mpr (.inl (Int.le_refl 0))
  obtain ⟨b, hb, _⟩ := (run_refuses_iff .scripted "t" hpause .troubled).mpr (.inr rfl)
  exact ⟨⟨hcount, a, ha⟩, hpause, b, hb⟩

/-- A pause that is not a number starts the load: its item is written, and it completes. -/
theorem run_starts_without_number :
    let pause := Interval.real (0.0 / 0.0)
    let result := Loader.run { store := .scripted, table := "t" } 1 pause { script := .replying [] }
    ¬ pause.Nonnegative ∧ result.2.1.phase = .completed ∧ (∃ s, result.1 = .ok s) ∧
      .put "t" (Record.single "id-1").item ∈ result.2.2.trace.toList := by
  refine ⟨(by decide : ¬ (0.0 : Float) ≤ 0.0 / 0.0), rfl, ⟨_, rfl⟩, ?_⟩
  exact .tail _ (.tail _ (.head _))

end Loader

end TableSeeder
