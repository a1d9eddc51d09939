import TableSeeder.Proofs.Table.Decoding
import TableSeeder.Proofs.Table.Leaves
import TableSeeder.Proofs.Table.Requests

/-! Writes to a table: which items lead to a request, what the request says of them, and that a
batch of items fares as its items do one by one. -/

namespace TableSeeder.Table
open Value

theorem exists_rowOf_iff {item : Item} :
    (∃ row, rowOf item = .ok row) ↔ ∀ v ∈ leavesOfMembers item, v.Storable := by
  rw [← Attribute.exists_ofMembers_iff, rowOf]
  cases Attribute.ofMembers item with
  | error u => simp [Except.mapError]
  | ok row => simp [Except.mapError]

theorem unstorable_of_rowOf {item : Item} {f : Failure} (h : rowOf item = .error f) :
    ∃ u, f = .unstorable u ∧ FirstOffends (leavesOfMembers item) u := by
  obtain ⟨u, hu, rfl⟩ := error_of_mapError h
  exact ⟨u, rfl, Attribute.ofMembers_eq_error_iff.mp hu⟩

theorem put_of_error {item : Item} {f : Failure} (h : rowOf item = .error f) (client : Nat)
    (table : String) (w : World) : put client table item w = (.error f, w) := by
  rw [put, h]

/-- A put makes a request just when the item holds neither floats nor numbers that are too long.
The request has the names of the item, and can be read back as the item; without one, the first
value that stands in its way is reported. -/
theorem put_sends_iff (client : Nat) (table : String) (item : Item) (w : World) :
    let result := put client table item w
    ∃ es, result.2.trace.toList = w.trace.toList ++ es ∧
      ((∃ row, es = [.putItem client table row]) ↔ ∀ v ∈ leavesOfMembers item, v.Storable) ∧
      (∀ row, es = [.putItem client table row] →
        row.keys = item.keys ∧ Attribute.decodeMembers? row = some item) ∧
      ((∃ v ∈ leavesOfMembers item, ¬ v.Storable) →
        ∃ u, FirstOffends (leavesOfMembers item) u ∧
          es = [] ∧ result = (.error (.unstorable u), w)) := by
  intro result
  cases hrow : rowOf item with
  | ok row =>
    have hstorable := exists_rowOf_iff.mp ⟨row, hrow⟩
    have hresult : result = _ := put_of_row hrow client table w
    have hmembers : Attribute.ofMembers item = .ok row := ok_of_mapError hrow
    refine ⟨[.putItem client table row], ?_, ?_, ?_, ?_⟩
    · rw [hresult]
      exact World.trace_emit w _
    · exact iff_of_true ⟨row, rfl⟩ hstorable
    · intro row' hes
      simp only [List.cons.injEq, Event.putItem.injEq, true_and, and_true] at hes
      subst hes
      exact ⟨Attribute.keys_ofMembers hmembers, Attribute.decodeMembers?_ofMembers hmembers⟩
    · rintro ⟨v, hv, hoffends⟩
      exact absurd (hstorable v hv) hoffends
  | error f =>
    -- nothing is sent, and the first leaf without a form is what is reported
    obtain ⟨u, rfl, hfirst⟩ := unstorable_of_rowOf hrow
    have hresult : result = _ := put_of_error hrow client table w
    refine ⟨[], ?_, ?_, fun row hes => ?_, fun _ => ⟨u, hfirst, rfl, hresult⟩⟩
    · rw [hresult, List.append_nil]
    · refine iff_of_false (fun ⟨row, hes⟩ => ?_) fun hstorable => ?_
      · cases hes
      · obtain ⟨row, hok⟩ := exists_rowOf_iff.mpr hstorable
        rw [hrow] at hok
        cases hok
    · cases hes

section Batches

def Sends (client : Nat) (table : String) (item : Item) (w : World) (row : Row) : Prop :=
  (put client table item w).2.trace.toList = w.trace.toList ++ [.putItem client table row]

theorem sends_iff {client : Nat} {table : String} {item : Item} {w : World} {row : Row} :
    Sends client table item w row ↔ rowOf item = .ok row := by
  unfold Sends
  cases hrow : rowOf item with
  | ok row' =>
    rw [put_of_row hrow]
    change (w.emit (.putItem client table row')).trace.toList = _ ↔ _
    rw [World.trace_emit]
    simp
  | error f =>
    rw [put_of_error hrow]
    simp

theorem putBatch_of_error {items : List Item} {f : Failure} (h : rowsOf items = .error f)
    (client : Nat) (table : String) (w : World) :
    putBatch client table items w = (.error f, w) := by
  rw [putBatch, h]

theorem rowsOf_eq_ok_iff {items : List Item} {rows : List Row} :
    rowsOf items = .ok rows ↔ items.map rowOf = rows.map .ok := by
  induction items generalizing rows with
  | nil => cases rows <;> simp [rowsOf]
  | cons item items ih =>
    rw [rowsOf, List.map_cons]
    cases hrow : rowOf item with
    | error f => cases rows <;> simp
    | ok row =>
      cases rows with
      | nil => cases rowsOf items <;> simp
      | cons row' rows =>
        rw [List.map_cons, List.cons.injEq, ← ih]
        cases rowsOf items <;> simp

theorem error?_rowsOf (items : List Item) :
    error? (rowsOf items) = items.findSome? fun item => error? (rowOf item) := by
  induction items with
  | nil => rfl
  | cons item items ih =>
    rw [rowsOf, List.findSome?_cons, ← ih]
    cases rowOf item with
    | error f => rfl
    | ok row => cases rowsOf items <;> rfl

theorem getElem?_rowsOf {items : List Item} {rows : List Row} (h : rowsOf items = .ok rows)
    {i : Nat} {item : Item} (hitem : items[i]? = some item) :
    ∃ row, rows[i]? = some row ∧ rowOf item = .ok row := by
  have hplace : (items.map rowOf)[i]? = (rows.map .ok)[i]? := by rw [rowsOf_eq_ok_iff.mp h]
  rw [List.getElem?_map, List.getElem?_map, hitem] at hplace
  obtain ⟨row, hrow, hok⟩ := Option.map_eq_some_iff.mp hplace.symm
  exact ⟨row, hrow, hok.symm⟩

/-- A batch makes one request, for the rows of its items in their order, if a put of each item would
make one. Otherwise it makes none and fails as a put of the first item that would make none. What
the client fails by is taken alike in both. -/
theorem putBatch_sends_iff (client : Nat) (table : String) (items : List Item) (w w' : World) :
    let single item := put client table item w'
    let result := putBatch client table items w
    ∃ es, result.2.trace.toList = w.trace.toList ++ es ∧
      (es ≠ [] ↔ ∀ item ∈ items, ∃ row, Sends client table item w' row) ∧
      (es ≠ [] → ∃ rows : List Row,
        es = [.batchWrite client [(table, rows.map PutRequest.mk)]] ∧
          rows.length = items.length ∧ ∀ (i : Nat) (item : Item), items[i]? = some item →
            ∃ row, rows[i]? = some row ∧ Sends client table item w' row) ∧
      (es = [] → ∃ before item after f, items = before ++ item :: after ∧
        (∀ x ∈ before, ∃ row, Sends client table x w' row) ∧
        single item = (.error f, w') ∧ result = (.error f, w)) ∧
      (es ≠ [] → ∀ f, (w.script.write w.writes).failure = some f →
        (w'.script.write w'.writes).failure = some f →
          ∀ (item : Item) (row : Row), Sends client table item w' row →
            ∃ g, (single item).1 = .error g ∧ result.1 = .error g) := by
  intro single result
  simp only [sends_iff]
  cases hrows : rowsOf items with
  | ok rows =>
    have hresult : result = _ := putBatch_of_rows hrows client table w
    have hall : ∀ item ∈ items, ∃ row, rowOf item = .ok row := by
      simpa only [error?_eq_none_iff] using
        (ok_iff_of_traversal (error?_rowsOf items)).mp ⟨rows, hrows⟩
    refine ⟨[.batchWrite client [(table, rows.map PutRequest.mk)]], ?_,
      iff_of_true (List.cons_ne_nil _ _) hall, fun _ => ⟨rows, rfl, ?_, ?_⟩, ?_, ?_⟩
    · rw [hresult]
      exact World.trace_emit w _
    · have hlength := congrArg List.length (rowsOf_eq_ok_iff.mp hrows)
      rwa [List.length_map, List.length_map, eq_comm] at hlength
    · intro i item hitem
      exact getElem?_rowsOf hrows hitem
    · intro hes
      exact absurd hes (List.cons_ne_nil _ _)
    · intro _ f hf hf' item row hrow
      have hsingle : single item = _ := put_of_row hrow client table w'
      refine ⟨asRejection f, ?_, ?_⟩
      · rw [hsingle, hf']
      · rw [hresult, hf]
  | error f =>
    -- one item without a row keeps all of them from being sent
    obtain ⟨before, item, after, hsplit, hbefore, hitem⟩ :=
      (error_iff_of_traversal (error?_rowsOf items)).mp hrows
    have hitem : rowOf item = .error f := error?_eq_some_iff.mp hitem
    have hresult : result = _ := putBatch_of_error hrows client table w
    refine ⟨[], ?_, iff_of_false (fun hes => hes rfl) fun hall => ?_, fun hes => absurd rfl hes,
      fun _ => ⟨before, item, after, f, hsplit, fun x hx => ?_, ?_, hresult⟩,
      fun hes => absurd rfl hes⟩
    · rw [hresult, List.append_nil]
    · obtain ⟨row, hok⟩ := hall item (by simp [hsplit])
      rw [hitem] at hok
      cases hok
    · exact error?_eq_none_iff.mp (hbefore x hx)
    · exact put_of_error hitem client table w'

end Batches

end TableSeeder.Table
