import TableSeeder.Proofs.Table.Writes

/-! What the store makes of a failure of its client: a refusal by the service becomes a rejection
that says why, and anything else stays what it is. -/

namespace TableSeeder

namespace Fault

/-- The members of the error that a response reports; there are none if it reports no error. -/
inductive Reports (fault : Fault) : Members Value → Prop where
  | missing (h : fault.response.get? "Error" = none) : Reports fault []
  | object {ms : Members Value} (h : fault.response.get? "Error" = some (.object ms)) :
      Reports fault ms

def Worded (ms : Members Value) : Prop :=
  ∀ v, ms.get? "Message" = some v → v = .null ∨ ∃ s, v = .text s

def wording (fault : Fault) (ms : Members Value) : String :=
  match ms.get? "Message" with
  | some (.text s) => if s = "" then fault.message else s
  | _ => fault.message

theorem message_ne_empty (fault : Fault) : fault.message ≠ "" := by
  have hbegins : "An error occurred (" ≠ "" := by decide
  unfold message
  repeat apply append_ne_empty
  exact hbegins

theorem wording_ne_empty (fault : Fault) (ms : Members Value) : fault.wording ms ≠ "" := by
  unfold wording
  split
  · split
    · exact fault.message_ne_empty
    · assumption
  · exact fault.message_ne_empty

theorem Reports.detail_eq {fault : Fault} {ms : Members Value} (h : fault.Reports ms) :
    fault.detail = ms := by
  cases h with
  | missing h => rw [detail, h]
  | object h => rw [detail, h]

end Fault

theorem Rejection.ofFault_eq {fault : Fault} {ms : Members Value} (h : fault.Reports ms)
    (hworded : Fault.Worded ms) :
    Rejection.ofFault fault =
      ⟨.text (fault.wording ms), (ms.get? "Code").getD .null, some fault⟩ := by
  have hmessage : (Rejection.ofFault fault).message = .text (fault.wording ms) := by
    rw [ofFault, h.detail_eq, Fault.wording]
    dsimp only
    cases hm : ms.get? "Message" with
    | none => rfl
    | some v =>
      obtain rfl | ⟨s, rfl⟩ := hworded v hm
      · rfl
      · by_cases hs : s = "" <;> simp [Value.truthy_text, hs]
  rw [← hmessage, ← h.detail_eq]
  rfl

namespace Table

/-- What becomes of a failure of the client: it is rejected just if it is a refusal, with the
refusal as its cause, and is explained in the words of the response. -/
structure Translated (f g : Failure) : Prop where
  rejected_iff : (∃ r, g = .rejected r) ↔ f.IsFault
  unchanged (hf : ¬ f.IsFault) : g = f
  caused (fault) (hf : f = .incident (.refused fault)) :
    ∃ r, g = .rejected r ∧ r.cause = some fault
  explained (fault ms) (hf : f = .incident (.refused fault)) (hms : fault.Reports ms)
    (hworded : Fault.Worded ms) :
    g = .rejected ⟨.text (fault.wording ms), (ms.get? "Code").getD .null, some fault⟩ ∧
      g.messageText = .ok (fault.wording ms) ∧ fault.wording ms ≠ ""

theorem rejected_asRejection_iff {f : Failure} (hf : ∀ r, f ≠ .rejected r) :
    (∃ r, asRejection f = .rejected r) ↔ f.IsFault := by
  constructor
  · rintro ⟨r, hr⟩
    exact eq_refused_of_asRejection hr hf
  · rintro ⟨fault, rfl⟩
    exact ⟨_, rfl⟩

theorem translated_asRejection {f : Failure} (hf : ∀ r, f ≠ .rejected r) :
    Translated f (asRejection f) where
  rejected_iff := rejected_asRejection_iff hf
  unchanged := asRejection_of_not_isFault
  caused fault hfault := by
    subst hfault
    exact ⟨_, rfl, rfl⟩
  explained fault ms hfault hms hworded := by
    subst hfault
    have heq := Rejection.ofFault_eq hms hworded
    refine ⟨congrArg Failure.rejected heq, ?_, fault.wording_ne_empty ms⟩
    change (Failure.rejected (.ofFault fault)).messageText = _
    rw [heq]
    rfl

section Failing

variable {w : World} (hforeign : w.script.Foreign) {f : Failure}
  (hf : (w.script.write w.writes).failure = some f)
include hforeign hf

theorem put_translates {item : Item} (hitem : ∀ v ∈ Value.leavesOfMembers item, v.Storable)
    (client : Nat) (table : String) :
    ∃ g, (put client table item w).1 = .error g ∧ Translated f g := by
  obtain ⟨row, hrow⟩ := exists_rowOf_iff.mpr hitem
  refine ⟨asRejection f, ?_, translated_asRejection fun r hr => ?_⟩
  · rw [put_of_row hrow, hf]
  · subst hr
    exact hforeign _ r hf

theorem putBatch_translates {items : List Item}
    (hitems : ∀ item ∈ items, ∀ v ∈ Value.leavesOfMembers item, v.Storable) (client : Nat)
    (table : String) :
    ∃ g, (putBatch client table items w).1 = .error g ∧ Translated f g := by
  obtain ⟨rows, hrows⟩ : ∃ rows, rowsOf items = .ok rows := by
    rw [ok_iff_of_traversal (error?_rowsOf items)]
    intro item hitem
    exact error?_eq_none_iff.mpr (exists_rowOf_iff.mpr (hitems item hitem))
  refine ⟨asRejection f, ?_, translated_asRejection fun r hr => ?_⟩
  · rw [putBatch_of_rows hrows, hf]
  · subst hr
    exact hforeign _ r hf

end Failing

end Table

end TableSeeder
