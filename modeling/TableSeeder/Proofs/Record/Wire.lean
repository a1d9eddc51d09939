import TableSeeder.Proofs.Members
import TableSeeder.Proofs.Record.Validation

/-! Records and their items. What is read from an item is the record that it was made of, and data
that have the form of an item come out again as the item of the record that is read from them. -/

namespace TableSeeder.Record

def attributeNames : List String := ["Artist", "SongTitle", "AlbumTitle", "DATA"]

def HasTexts (data : Members Value) : Prop := ∀ m ∈ data, ∃ s, s ≠ "" ∧ m.2 = .text s

/-- The item of a record has the form of an item, and the record is read from it. -/
structure ReadsBack (r : Record) : Prop where
  names : r.item.keys = attributeNames
  texts : HasTexts r.item
  read : ofValue (.object r.item) = .ok r

theorem attributeNames_eq : attributeNames = Field.all.map Field.attributeName := rfl

theorem nodup_attributeNames : attributeNames.Nodup := by decide

theorem mem_all (f : Field) : f ∈ Field.all := by
  cases f <;> decide

theorem attributeName_mem (f : Field) : f.attributeName ∈ attributeNames :=
  List.mem_map_of_mem (mem_all f)

theorem keys_item (r : Record) : r.item.keys = attributeNames := rfl

theorem get?_item (r : Record) (f : Field) :
    r.item.get? f.attributeName = some (.text (r.get f).val) := by
  cases f <;> rfl

theorem hasTexts_item (r : Record) : HasTexts r.item := by
  intro m hm
  obtain ⟨f, -, rfl⟩ := List.mem_map.mp hm
  exact ⟨(r.get f).val, (r.get f).property, rfl⟩

theorem ofMembers_eq_ok_iff {data : Members Value} {r : Record} :
    ofMembers data = .ok r ↔ ∀ f, readField data f = .ok (r.get f) := by
  rcases ofMembers_cases data with ⟨s, hs, hfields⟩ | ⟨herror, f, i, hf⟩
  · rw [hs]
    constructor
    · intro h
      rw [← Except.ok.inj h]
      exact hfields
    · intro h
      have heq : s = r := ext_get fun f => Except.ok.inj ((hfields f).symm.trans (h f))
      rw [heq]
  · rw [herror]
    constructor
    · intro h
      cases h
    · intro h
      rw [h f] at hf
      cases hf

theorem readField_of_get? {data : Members Value} {f : Field} {t : NonemptyText}
    (h : data.get? f.attributeName = some (.text t.val)) : readField data f = .ok t :=
  readField_eq_ok_iff.mpr (.found (.attribute h) (.text t.val))

theorem ofMembers_item (r : Record) : ofMembers r.item = .ok r :=
  ofMembers_eq_ok_iff.mpr fun f => readField_of_get? (get?_item r f)

theorem readsBack (r : Record) : ReadsBack r := ⟨keys_item r, hasTexts_item r, ofMembers_item r⟩

def titles (artist songTitle albumTitle : String) : Members Value :=
  [(Field.artist.name, .text artist), (Field.songTitle.name, .text songTitle),
    (Field.albumTitle.name, .text albumTitle)]

theorem ofMembers_titles {artist songTitle albumTitle : String} (hartist : artist ≠ "")
    (hsongTitle : songTitle ≠ "") (halbumTitle : albumTitle ≠ "") :
    ofMembers (titles artist songTitle albumTitle) =
      .ok ⟨⟨artist, hartist⟩, ⟨songTitle, hsongTitle⟩, ⟨albumTitle, halbumTitle⟩, filler⟩ := by
  apply ofMembers_eq_ok_iff.mpr
  intro f
  apply readField_eq_ok_iff.mpr
  cases f with
  | artist => exact .found (.name rfl rfl) (.text artist)
  | songTitle => exact .found (.name rfl rfl) (.text songTitle)
  | albumTitle => exact .found (.name rfl rfl) (.text albumTitle)
  | payload => exact .absent rfl ⟨rfl, rfl⟩

theorem exists_field {data : Members Value} (hnames : data.keys.Perm attributeNames)
    (htexts : HasTexts data) (f : Field) :
    ∃ t : NonemptyText, data.get? f.attributeName = some (.text t.val) := by
  have hmem : f.attributeName ∈ data.keys := hnames.mem_iff.mpr (attributeName_mem f)
  obtain ⟨v, hv⟩ : ∃ v, data.get? f.attributeName = some v := by
    rw [← Option.ne_none_iff_exists']
    intro hnone
    exact Members.get?_eq_none.mp hnone hmem
  obtain ⟨s, hs, hvalue⟩ := htexts _ (Members.mem_of_get? hv)
  exact ⟨⟨s, hs⟩, hvalue ▸ hv⟩

theorem item_perm {data : Members Value} (hnames : data.keys.Perm attributeNames) {r : Record}
    (hfields : ∀ f, data.get? f.attributeName = some (.text (r.get f).val)) :
    r.item.Perm data := by
  apply (Members.perm_iff_get? (keys_item r ▸ nodup_attributeNames)
    (hnames.nodup_iff.mpr nodup_attributeNames)).mpr
  intro k
  by_cases hk : k ∈ attributeNames
  · rw [attributeNames_eq] at hk
    obtain ⟨f, -, rfl⟩ := List.mem_map.mp hk
    rw [get?_item, hfields f]
  · rw [Members.get?_eq_none.mpr hk, Members.get?_eq_none.mpr fun h => hk (hnames.mem_iff.mp h)]

theorem get_eq_of_item_perm {r s : Record} (h : r.item.Perm s.item) (f : Field) :
    r.get f = s.get f := by
  have hget := (Members.perm_iff_get? (keys_item r ▸ nodup_attributeNames)
    (keys_item s ▸ nodup_attributeNames)).mp h f.attributeName
  rw [get?_item, get?_item] at hget
  exact Subtype.ext (Value.text.inj (Option.some.inj hget))

/-- Records are read back from their items, and items come back from what is read from them; so
items tell records apart. -/
theorem item_reads_back :
    (∀ v r, ofValue v = .ok r → ReadsBack r) ∧
      (∀ id, ofMembers (titles ("Here's a name " ++ id) "Here's a title" "Here's an album title") =
        .ok (single id) ∧ ReadsBack (single id)) ∧
      (∀ id, ofMembers (titles ("Artist like " ++ id) ("SongTitle like " ++ id)
        ("AlbumTitle like " ++ id)) = .ok (batched id) ∧ ReadsBack (batched id)) ∧
      (∀ data : Members Value, data.keys.Perm attributeNames → HasTexts data →
        ∃ r, ofValue (.object data) = .ok r ∧ r.item.Perm data ∧
          (data.keys = attributeNames → r.item = data)) ∧
      ∀ r s : Record, ((∀ f, r.get f = s.get f) ↔ r.item = s.item) ∧
        (r.item = s.item ↔ r.item.Perm s.item) := by
  refine ⟨fun _ r _ => readsBack r, fun id => ⟨?_, readsBack _⟩, fun id => ⟨?_, readsBack _⟩, ?_, ?_⟩
  · exact ofMembers_titles (single id).artist.property (by decide) (by decide)
  · exact ofMembers_titles (batched id).artist.property (batched id).songTitle.property
      (batched id).albumTitle.property
  · intro data hnames htexts
    have hread : ∃ r, ofMembers data = .ok r ∧
        ∀ f, data.get? f.attributeName = some (.text (r.get f).val) := by
      choose t ht using exists_field hnames htexts
      refine ⟨⟨t .artist, t .songTitle, t .albumTitle, t .payload⟩, ?_, fun f => ?_⟩
      · apply ofMembers_eq_ok_iff.mpr
        intro f
        cases f <;> exact readField_of_get? (ht _)
      · cases f <;> exact ht _
    obtain ⟨r, hr, hfields⟩ := hread
    have hperm : r.item.Perm data := item_perm hnames hfields
    refine ⟨r, hr, hperm, fun horder => ?_⟩
    exact Members.eq_of_perm (keys_item r ▸ nodup_attributeNames) hperm horder.symm
  · intro r s
    refine ⟨⟨fun h => ?_, fun h => ?_⟩, fun h => h ▸ .rfl, fun h => ?_⟩
    · rw [ext_get h]
    · exact get_eq_of_item_perm (h ▸ .rfl)
    · rw [ext_get (get_eq_of_item_perm h)]

theorem item_reads_back_mixed :
    let mixed : Members Value :=
      [("artist", .bytes [0xc3, 0xa9]), ("SongTitle", .text "s"), ("note", .null),
        ("album_title", .text "l")]
    let item : Members Value :=
      [("DATA", .text "d"), ("AlbumTitle", .text "l"), ("Artist", .text "a"),
        ("SongTitle", .text "s")]
    (∃ r, ofValue (.object mixed) = .ok r ∧ r.payload = filler ∧ ReadsBack r) ∧
      item.keys.Perm attributeNames ∧ HasTexts item ∧ item.keys ≠ attributeNames ∧
      ∃ r, ofValue (.object item) = .ok r ∧ r.item.Perm item := by
  intro mixed item
  obtain ⟨hread, -, -, hitem, -⟩ := item_reads_back
  have hnames : item.keys.Perm attributeNames := by decide
  have htexts : HasTexts item := by
    simp [item, HasTexts]
  obtain ⟨r, hr, hperm, -⟩ := hitem item hnames htexts
  refine ⟨⟨⟨⟨"é", by decide⟩, ⟨"s", by decide⟩, ⟨"l", by decide⟩, filler⟩, rfl, rfl, ?_⟩, hnames,
    htexts, by decide, r, hr, hperm⟩
  exact hread (.object mixed) _ rfl

end TableSeeder.Record
