import TableSeeder.Proofs.Sending

/-! Items that runs send. They are as distinct as the ids that are drawn for them, alike in every
attribute that carries no id, and in the same order however they are grouped into requests. -/

namespace TableSeeder

open Record (Field)

def DistinctIn (f : Field) (items : List Item) : Prop :=
  items.Pairwise fun a b => a.get? f.attributeName ≠ b.get? f.attributeName

def SharedIn (f : Field) (items : List Item) : Prop :=
  ∀ a ∈ items, ∀ b ∈ items, a.get? f.attributeName = b.get? f.attributeName

section Attributes

variable {record : String → Record} {f : Field}

theorem distinctIn_map (hf : ∀ a b, (record a).get f = (record b).get f → a = b)
    {ids : List String} (h : ids.Nodup) : DistinctIn f (ids.map fun id => (record id).item) := by
  apply List.pairwise_map.mpr
  apply h.imp
  intro a b hab hget
  rw [Record.get?_item, Record.get?_item] at hget
  exact hab (hf a b (Subtype.ext (Value.text.inj (Option.some.inj hget))))

theorem sharedIn_map (hf : ∀ a b, (record a).get f = (record b).get f) (ids : List String) :
    SharedIn f (ids.map fun id => (record id).item) := by
  intro a ha b hb
  obtain ⟨id, -, rfl⟩ := List.mem_map.mp ha
  obtain ⟨id', -, rfl⟩ := List.mem_map.mp hb
  rw [Record.get?_item, Record.get?_item, hf id id']

theorem startingWith_inj {s a b : String} (h : s ≠ "")
    (hab : NonemptyText.startingWith s a h = .startingWith s b h) : a = b :=
  (String.append_right_inj s).mp (congrArg Subtype.val hab)

theorem single_artist_inj {a b : String}
    (h : (Record.single a).get .artist = (Record.single b).get .artist) : a = b :=
  startingWith_inj (by decide) h

theorem single_get_eq {f : Field} (hf : f ≠ .artist) (a b : String) :
    (Record.single a).get f = (Record.single b).get f := by
  cases f <;> first | contradiction | rfl

theorem batched_get_inj {f : Field} (hf : f ≠ .payload) {a b : String}
    (h : (Record.batched a).get f = (Record.batched b).get f) : a = b := by
  cases f with
  | payload => contradiction
  | _ => exact startingWith_inj (by decide) h

end Attributes

theorem sent_of_batches {table : String} {w w' : World} {groups : List (List String)}
    (h : w'.sendings = w.sendings ++ groups.map (Batch.sending table)) :
    w'.sent = w.sent ++ Batch.items groups.flatten := by
  have hitems : (groups.map (Batch.sending table)).flatMap Prod.snd =
      Batch.items groups.flatten := by
    rw [Batch.items, List.map_flatten, List.flatMap_map, List.flatMap_def]
    rfl
  rw [World.sent, h, List.flatMap_append, hitems, World.sent]

/-- The runs of a load and of batches send one record for each id, in the order of the draws. -/
theorem runs_send_each_id_once (w : World) (table : String) :
    (∀ phase n interval,
      let result := Loader.run { store := .scripted, table, phase } n interval w
      ∃ ids, w.Draws ids ∧
        result.2.2.sendings =
          w.sendings ++ ids.map (fun id => (table, [(Record.single id).item])) ∧
        (w.DrawsDistinct → DistinctIn .artist (ids.map fun id => (Record.single id).item)) ∧
        (∀ f ≠ .artist, SharedIn f (ids.map fun id => (Record.single id).item)) ∧
        ∀ s, result.1 = .ok s → (ids.length : Int) = n) ∧
    (∀ batches size,
      let result := Batch.run .scripted table batches size w
      ∃ groups : List (List String), w.Draws groups.flatten ∧
        result.2.sendings = w.sendings ++ groups.map (fun ids => (table, Batch.items ids)) ∧
        result.2.sent = w.sent ++ Batch.items groups.flatten ∧
        (w.DrawsDistinct → ∀ f ≠ .payload, DistinctIn f (Batch.items groups.flatten)) ∧
        SharedIn .payload (Batch.items groups.flatten) ∧
        ∀ s, result.1 = .ok s → (groups.flatten.length : Int) = batches * size) ∧
    ∀ (w' : World) (table' : String) (batches size batches' size' : Int) (s s' : Summary),
      (∀ k, w'.script.id (w'.ids + k) = w.script.id (w.ids + k)) →
      (Batch.run .scripted table batches size w).1 = .ok s →
      (Batch.run .scripted table' batches' size' w').1 = .ok s' →
      batches * size = batches' * size' →
      ∃ items, (Batch.run .scripted table batches size w).2.sent = w.sent ++ items ∧
        (Batch.run .scripted table' batches' size' w').2.sent = w'.sent ++ items := by
  refine ⟨fun phase n interval => ?_, fun batches size => ?_, ?_⟩
  · obtain ⟨ids, hsends, hall⟩ := Loader.run_sends table phase n interval w
    refine ⟨ids, hsends.draws, hsends.sendings, fun hw => ?_, fun f hf => ?_, hall⟩
    · exact distinctIn_map (fun _ _ => single_artist_inj) (hsends.draws.nodup hw)
    · exact sharedIn_map (single_get_eq hf) ids
  · obtain ⟨groups, hsends, -, htotal⟩ := Batch.run_sends table batches size w
    refine ⟨groups, hsends.draws, hsends.sendings, sent_of_batches hsends.sendings,
      fun hw f hf => ?_, ?_, htotal⟩
    · exact distinctIn_map (fun _ _ => batched_get_inj hf) (hsends.draws.nodup hw)
    · exact sharedIn_map (fun _ _ => rfl) groups.flatten
  · intro w' table' batches size batches' size' s s' hsource hs hs' htotal
    obtain ⟨groups, hsends, -, hall⟩ := Batch.run_sends table batches size w
    obtain ⟨groups', hsends', -, hall'⟩ := Batch.run_sends table' batches' size' w'
    -- both have drawn equally many ids from the same source
    have hlength : groups.flatten.length = groups'.flatten.length := by
      have h := (hall s hs).trans (htotal.trans (hall' s' hs').symm)
      exact Int.ofNat_inj.mp h
    have hids := hsends.draws.eq hsends'.draws hsource hlength
    refine ⟨Batch.items groups.flatten, sent_of_batches hsends.sendings, ?_⟩
    rw [hids]
    exact sent_of_batches hsends'.sendings

theorem drawsDistinct_replying (replies : List Reply) :
    World.DrawsDistinct { script := .replying replies } := by
  intro i j id hi hj
  have hij := (String.append_right_inj "id-").mp (Except.ok.inj (hi.trans hj.symm))
  rw [Nat.toString_eq_ofList_toDigits, Nat.toString_eq_ofList_toDigits, String.ofList_inj] at hij
  have hnumber := congrArg (Nat.ofDigitChars 10 · 0) hij
  simp only [Nat.ofDigitChars_ten_toDigits] at hnumber
  omega

theorem runs_send_each_id_once_regrouped :
    let w : World := { script := .replying [] }
    let troubled := World.troubled
    (troubled.DrawsDistinct ∧
      ∀ k, w.script.id (w.ids + k) = troubled.script.id (troubled.ids + k)) ∧
      (∃ ids, troubled.Draws ids ∧ DistinctIn .artist (ids.map fun id => (Record.single id).item) ∧
        (Loader.run { store := .scripted, table := "t" } 5 (.real 0.5) troubled).2.2.sendings =
          ids.map (fun id => ("t", [(Record.single id).item]))) ∧
      ∃ s s' items,
        (Batch.run .scripted "t" 2 2 troubled).1 = .ok s ∧
        (Batch.run .scripted "t" 4 1 w).1 = .ok s' ∧
        (Batch.run .scripted "t" 2 2 troubled).2.sent = items ∧
        (Batch.run .scripted "t" 4 1 w).2.sent = items := by
  intro w troubled
  have hdistinct : troubled.DrawsDistinct := drawsDistinct_replying _
  have hsource : ∀ k, w.script.id (w.ids + k) = troubled.script.id (troubled.ids + k) :=
    fun _ => rfl
  obtain ⟨hload, _, hregrouped⟩ := runs_send_each_id_once troubled "t"
  obtain ⟨ids, hdraws, hsendings, hartists, _⟩ := hload .notStarted 5 (.real 0.5)
  obtain ⟨items, hitems, hitems'⟩ := hregrouped w "t" 2 2 4 1 _ _ hsource rfl rfl (by decide)
  exact ⟨⟨hdistinct, hsource⟩, ⟨ids, hdraws, hartists hdistinct, hsendings⟩,
    _, _, items, rfl, rfl, hitems, hitems'⟩

end TableSeeder
