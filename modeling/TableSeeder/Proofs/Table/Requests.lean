import TableSeeder.Proofs.Outcomes
import TableSeeder.Proofs.Surroundings
import TableSeeder.Table.Client

/-! The store behind a client as one that answers by the script: what becomes of records on their
way to the client, and of the replies on their way back. -/

namespace TableSeeder

def Record.row (r : Record) : Row :=
  [("Artist", .text r.artist.val), ("SongTitle", .text r.songTitle.val),
    ("AlbumTitle", .text r.albumTitle.val), ("DATA", .text r.payload.val)]

namespace Table

theorem rowOf_item (r : Record) : rowOf r.item = .ok r.row := rfl

theorem rowsOf_items {α : Type} (record : α → Record) (as : List α) :
    rowsOf (as.map fun a => (record a).item) = .ok (as.map fun a => (record a).row) := by
  induction as with
  | nil => rfl
  | cons a as ih =>
    rw [List.map_cons, rowsOf, rowOf_item, ih]
    rfl

/-- How much a response leaves unprocessed: nothing if it says nothing, or else what has a length,
table by table. -/
inductive LeavesOver : Value → Nat → Prop where
  | missing {ms : Members Value} (h : Members.get? ms "UnprocessedItems" = none) :
      LeavesOver (.object ms) 0
  | falsy {ms : Members Value} {v : Value} (h : Members.get? ms "UnprocessedItems" = some v)
      (hv : v.truthy = false) : LeavesOver (.object ms) 0
  | counted {ms tables : Members Value} {lengths : List Nat}
      (h : Members.get? ms "UnprocessedItems" = some (.object tables))
      (hlengths : tables.map (fun t => t.2.length?) = lengths.map some) :
      LeavesOver (.object ms) (lengths.foldr (· + ·) 0)

theorem countLengths_eq_ok_iff {tables : Members Value} {n : Nat} :
    countLengths tables = .ok n ↔
      ∃ lengths : List Nat, tables.map (fun t => t.2.length?) = lengths.map some ∧
        lengths.foldr (· + ·) 0 = n := by
  induction tables generalizing n with
  | nil =>
    constructor
    · intro h
      exact ⟨[], rfl, Except.ok.inj h⟩
    · rintro ⟨lengths, hlengths, rfl⟩
      obtain rfl := List.map_eq_nil_iff.mp hlengths.symm
      rfl
  | cons t tables ih =>
    unfold countLengths
    -- one table without a length spoils the count
    cases ht : t.2.length? with
    | none =>
      refine iff_of_false nofun ?_
      rintro ⟨lengths, hlengths, -⟩
      cases lengths <;> simp [ht] at hlengths
    | some m =>
      constructor
      · intro h
        cases hrest : countLengths tables with
        | error f => simp [hrest, Except.map] at h
        | ok k =>
          obtain ⟨lengths, hlengths, hsum⟩ := ih.mp hrest
          simp only [hrest, Except.map, Except.ok.injEq] at h
          exact ⟨m :: lengths, by simp [ht, hlengths], by simp [hsum, h]⟩
      · rintro ⟨lengths, hlengths, rfl⟩
        cases lengths with
        | nil => cases hlengths
        | cons l lengths =>
          simp only [List.map_cons, ht, List.cons.injEq, Option.some.injEq] at hlengths
          have hrest := ih.mpr ⟨lengths, hlengths.2, rfl⟩
          simp [hrest, Except.map, hlengths.1]

theorem unprocessed_eq_ok_iff {response : Value} {n : Nat} :
    unprocessed response = .ok n ↔ LeavesOver response n := by
  constructor
  · intro h
    unfold unprocessed at h
    split at h
    · split at h
      · rename_i hnone
        obtain rfl := Except.ok.inj h
        exact .missing hnone
      · rename_i v hsome
        split at h
        · rename_i hfalsy
          obtain rfl := Except.ok.inj h
          exact .falsy hsome (by simpa using hfalsy)
        · split at h
          · obtain ⟨lengths, hlengths, rfl⟩ := countLengths_eq_ok_iff.mp h
            exact .counted hsome hlengths
          · cases h
    · cases h
  · rintro (hnone | ⟨hsome, hfalsy⟩ | ⟨hsome, hlengths⟩)
    · simp [unprocessed, hnone]
    · simp [unprocessed, hsome, hfalsy]
    · rename_i ms tables lengths
      have hcount := countLengths_eq_ok_iff.mpr ⟨lengths, hlengths, rfl⟩
      -- an empty object counts as false, and its sum is nothing as well
      cases tables with
      | nil =>
        obtain rfl := List.map_eq_nil_iff.mp hlengths.symm
        simp [unprocessed, hsome, Value.truthy]
      | cons t tables => simp [unprocessed, hsome, Value.truthy, hcount]

theorem error_of_countLengths {tables : Members Value} {f : Failure}
    (h : countLengths tables = .error f) : ∃ type, f = .noLength type := by
  induction tables with
  | nil => cases h
  | cons t tables ih =>
    unfold countLengths at h
    split at h
    · exact ⟨_, (Except.error.inj h).symm⟩
    · exact ih (error_of_map h)

theorem error_of_unprocessed {response : Value} {f : Failure}
    (h : unprocessed response = .error f) :
    (∃ type, f = .noLength type) ∨ ∃ type member, f = .noMember type member := by
  unfold unprocessed at h
  split at h
  · split at h
    · cases h
    · split at h
      · cases h
      · split at h
        · exact .inl (error_of_countLengths h)
        · exact .inr ⟨_, _, (Except.error.inj h).symm⟩
  · exact .inr ⟨_, _, (Except.error.inj h).symm⟩

theorem ne_rejected_of_unprocessed {response : Value} {f : Failure}
    (h : unprocessed response = .error f) (r : Rejection) : f ≠ .rejected r := by
  rintro rfl
  rcases error_of_unprocessed h with ⟨type, h⟩ | ⟨type, member, h⟩
  · cases h
  · cases h

end Table

def Failure.IsFault (f : Failure) : Prop := ∃ fault, f = .incident (.refused fault)

namespace Table

theorem asRejection_of_not_isFault {f : Failure} (hf : ¬ f.IsFault) : asRejection f = f := by
  cases f with
  | incident i =>
    cases i with
    | refused fault => exact absurd ⟨fault, rfl⟩ hf
    | _ => rfl
  | _ => rfl

theorem eq_refused_of_asRejection {f : Failure} {r : Rejection} (h : asRejection f = .rejected r)
    (hf : ∀ r, f ≠ .rejected r) : f.IsFault := by
  by_cases hfault : f.IsFault
  · exact hfault
  · rw [asRejection_of_not_isFault hfault] at h
    exact absurd h (hf r)

theorem rejected_of_map_iff {failure? : Option Failure}
    (hforeign : ∀ r, failure? ≠ some (.rejected r)) :
    (∀ f, failure?.map asRejection = some f → ∃ r, f = .rejected r) ↔
      ∀ f, failure? = some f → f.IsFault := by
  constructor
  · rintro h f rfl
    obtain ⟨r, hr⟩ := h (asRejection f) rfl
    apply eq_refused_of_asRejection hr
    rintro r rfl
    exact hforeign r rfl
  · intro h f hf
    obtain ⟨g, hg, rfl⟩ := Option.map_eq_some_iff.mp hf
    obtain ⟨fault, rfl⟩ := h g hg
    exact ⟨_, rfl⟩

end Table

/-- Rejections are made by the store: no write fails by one. -/
def Script.Foreign (s : Script) : Prop := ∀ k r, (s.write k).failure ≠ some (.rejected r)

/-- A reply to a batch request that the run takes: a refusal, or a response that can be counted. -/
def Reply.Settled (r : Reply) : Prop :=
  (∃ fault, r.failure = some (.incident (.refused fault))) ∨
    r.failure = none ∧ ∃ left, Table.LeavesOver r.value left

def Manner.client (client : Nat) : Manner where
  note table item := .putItem client table ((Table.rowOf item).toOption.getD [])
  noteBatch table items :=
    .batchWrite client [(table, ((Table.rowsOf items).toOption.getD []).map PutRequest.mk)]
  failure? r := r.failure.map Table.asRejection
  answer r :=
    match r.failure with
    | some f => .error (Table.asRejection f)
    | none => (Table.unprocessed r.value).map fun (n : Nat) => .int n

theorem Manner.client_note (client : Nat) (table : String) (r : Record) :
    (Manner.client client).note table r.item = .putItem client table r.row := rfl

theorem Table.put_of_row {item : Item} {row : Row} (h : rowOf item = .ok row) (client : Nat)
    (table : String) (w : World) :
    put client table item w =
      ((match (w.script.write w.writes).failure with
        | some f => .error (asRejection f)
        | none => .ok ()),
        (w.emit (.putItem client table row)).answered (w.script.write w.writes)) := by
  rw [put, h]
  dsimp only
  rw [World.nextWrite_eq, World.script_emit, World.writes_emit]
  cases (w.script.write w.writes).failure <;> rfl

theorem Table.putBatch_of_rows {items : List Item} {rows : List Row} (h : rowsOf items = .ok rows)
    (client : Nat) (table : String) (w : World) :
    putBatch client table items w =
      ((match (w.script.write w.writes).failure with
        | some f => .error (asRejection f)
        | none => (unprocessed (w.script.write w.writes).value).map fun (n : Nat) => .int n),
        (w.emit (.batchWrite client [(table, rows.map PutRequest.mk)])).answered
          (w.script.write w.writes)) := by
  rw [putBatch, h]
  dsimp only
  rw [World.nextWrite_eq, World.script_emit, World.writes_emit]
  cases (w.script.write w.writes).failure with
  | some f => rfl
  | none =>
    dsimp only
    cases unprocessed (w.script.write w.writes).value <;> rfl

theorem Table.store_follows (client : Nat) :
    (Table.store client).Follows (.client client) where
  put_single table id w := by
    have hput := put_of_row (rowOf_item (Record.single id)) client table w
    rw [← Manner.client_note] at hput
    refine hput.trans ?_
    rw [Manner.client]
    dsimp only
    cases (w.script.write w.writes).failure <;> rfl
  putBatch_batched table ids w := by
    have hrows := rowsOf_items Record.batched ids
    have hnote : (Manner.client client).noteBatch table
        (ids.map fun id => (Record.batched id).item) =
          .batchWrite client [(table, (ids.map fun id => (Record.batched id).row).map
            PutRequest.mk)] := by
      rw [Manner.client]
      dsimp only
      rw [hrows]
      rfl
    rw [hnote]
    exact putBatch_of_rows hrows client table w

end TableSeeder
