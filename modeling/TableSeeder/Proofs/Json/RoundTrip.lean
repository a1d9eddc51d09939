import Mathlib.Data.List.Forall2
import TableSeeder.Proofs.Json.Texts
import TableSeeder.Proofs.Log.Writing
import TableSeeder.Proofs.Members
import TableSeeder.Proofs.Number.Decimal
import TableSeeder.Proofs.Table.Leaves

/-! What is written for a value is printable ASCII, and it is read as that value, except that a pair
of surrogates in a text or a name is read as the code point that it stands for. -/

namespace TableSeeder

/-- A value without parts that comes back from its JSON text: anything but a float or a number that
is too long to be read. -/
def Value.Legible {τ : Type} : Value τ → Prop
  | .float _ => False
  | .int n => (Nat.toDigits 10 n.natAbs).length ≤ Reading.digitLimit
  | _ => True

instance {τ : Type} : DecidablePred (Value.Legible (τ := τ))
  | .float _ => .isFalse id
  | .int n => inferInstanceAs (Decidable ((Nat.toDigits 10 n.natAbs).length ≤ Reading.digitLimit))
  | .null | .bool _ | .text _ | .bytes _ | .list _ | .object _ => .isTrue trivial

namespace Reading

theorem cut_toDigits {p : Char → Bool} (h : ∀ c, c.isDigit = true → p c = false) (n : Nat) :
    cut p (Nat.toDigits 10 n) = (Nat.toDigits 10 n, none) :=
  cut_eq_self fun c hc => h c (Nat.isDigit_of_mem_toDigits (by decide) (by decide) hc)

theorem isExponentMark_of_isDigit (c : Char) (hc : c.isDigit = true) :
    isExponentMark c = false := by
  by_contra h
  simp only [isExponentMark, Bool.not_eq_false, Bool.or_eq_true, beq_iff_eq] at h
  rcases h with rfl | rfl <;> cases hc

theorem minus_toString (n : Int) :
    minus (toString n).toList = (decide (n < 0), Nat.toDigits 10 n.natAbs) := by
  cases n with
  | ofNat m =>
    change minus m.repr.toList = _
    rw [Nat.toList_repr, minus_toDigits]
    rfl
  | negSucc m =>
    have hsign : "-".toList = ['-'] := rfl
    change minus ("-" ++ (m + 1).repr).toList = _
    rw [String.toList_append, Nat.toList_repr, hsign, decide_eq_true (Int.negSucc_lt_zero m)]
    rfl

end Reading

namespace Json

namespace Tree

mutual

/-- What a value comes back as while pairs of surrogates are left apart: bytes as the text of their
literal, and a float as the number that its literal is. -/
def ofValue : Value Points → Tree
  | .null => .null
  | .bool b => .bool b
  | .int n => .int n
  | .float x => (scalar? (number (Binary.ofFloat x))).getD .null
  | .text s => .text s.numbers
  | .bytes bs => .text (Points.ofChars (Quoted.bytes bs)).numbers
  | .list vs => .list (ofValues vs)
  | .object ms => .object (ofMembers ms)

def ofValues : List (Value Points) → List Tree
  | [] => []
  | v :: vs => ofValue v :: ofValues vs

def ofMembers : List (Points × Value Points) → List (Codes × Tree)
  | [] => []
  | (k, v) :: ms => (k.numbers, ofValue v) :: ofMembers ms

end

mutual

def joined : Tree → Tree
  | .text ns => .text ns.joined
  | .list ts => .list (joinedAll ts)
  | .object ms => .object (joinedMembers ms)
  | t => t

def joinedAll : List Tree → List Tree
  | [] => []
  | t :: ts => joined t :: joinedAll ts

def joinedMembers : List (Codes × Tree) → List (Codes × Tree)
  | [] => []
  | (k, t) :: ms => (k.joined, joined t) :: joinedMembers ms

end

mutual

/-- No text and no name has a pair of surrogates in it. -/
def Apart : Tree → Prop
  | .text ns => ns.Apart
  | .list ts => AllApart ts
  | .object ms => MembersApart ms
  | _ => True

def AllApart : List Tree → Prop
  | [] => True
  | t :: ts => Apart t ∧ AllApart ts

def MembersApart : List (Codes × Tree) → Prop
  | [] => True
  | (k, t) :: ms => k.Apart ∧ Apart t ∧ MembersApart ms

end

mutual

theorem Apart.joined_eq : ∀ {t : Tree}, t.Apart → t.joined = t
  | .text _, h => congrArg text (Codes.Apart.joined_eq h)
  | .list _, h => congrArg list (AllApart.joinedAll_eq h)
  | .object _, h => congrArg object (MembersApart.joinedMembers_eq h)
  | .null, _ | .bool _, _ | .int _, _ | .decimal _ _ _, _ => rfl

theorem AllApart.joinedAll_eq : ∀ {ts : List Tree}, AllApart ts → joinedAll ts = ts
  | [], _ => rfl
  | _ :: _, h => congrArg₂ List.cons h.1.joined_eq (AllApart.joinedAll_eq h.2)

theorem MembersApart.joinedMembers_eq : ∀ {ms : List (Codes × Tree)}, MembersApart ms →
    joinedMembers ms = ms
  | [], _ => rfl
  | (_, _) :: _, h => congrArg₂ List.cons (congrArg₂ Prod.mk h.1.joined_eq h.2.1.joined_eq)
      (MembersApart.joinedMembers_eq h.2.2)

end

def named (ms : Members Tree Points) : Tree :=
  .object (ms.map fun m => (m.1.numbers.joined, m.2))

end Tree

def Ends (rest : List Char) : Prop := ∀ c ∈ rest.head?, isWord c = false

/-- A piece of text that is read as one value, whatever ends it. -/
structure Writes (cs : List Char) (t : Tree) : Prop where
  starts : ∃ c rest, cs = c :: rest ∧ isBlank c = false ∧ c ≠ ']'
  printable : ∀ c ∈ cs, Printable c
  reads (fuel rest) : 2 * cs.length ≤ fuel → Ends rest →
    readValue fuel (cs ++ rest) = some (t, rest)

theorem skip_of_not_blank {c : Char} (h : isBlank c = false) (rest : List Char) :
    skip (c :: rest) = c :: rest := by
  rw [skip, List.dropWhile_cons, h]
  rfl

theorem mark?_of_ne {c d : Char} (hblank : isBlank c = false) (h : c ≠ d) (rest : List Char) :
    mark? d (c :: rest) = none := by
  rw [mark?, skip_of_not_blank hblank, if_neg]
  exact fun heq => h (Option.some.inj heq)

section Scalars

variable {c : Char} {cs : List Char} {t : Tree}

theorem printable_of_isWord (h : isWord c) : Printable c := by
  have hval : c.toNat = c.val.toNat := rfl
  simp [isWord, Char.isDigit, Char.le_def, UInt32.le_iff_toNat_le] at h
  unfold Printable
  rcases h with ((h | rfl) | rfl) | rfl
  · omega
  · decide
  · decide
  · decide

theorem not_blank_of_isWord (h : isWord c) : isBlank c = false := by
  by_contra hblank
  simp only [isBlank, Bool.not_eq_false, Bool.or_eq_true, beq_iff_eq] at hblank
  rcases hblank with ((rfl | rfl) | rfl) | rfl <;> cases h

theorem readValue_word (h : isWord c) (fuel : Nat) (rest : List Char) :
    readValue (fuel + 1) (c :: rest) = (scalar? ((c :: rest).takeWhile isWord)).map
      fun t => (t, (c :: rest).dropWhile isWord) := by
  rw [readValue, skip_of_not_blank (not_blank_of_isWord h)]
  split
  · rename_i heq
    obtain ⟨rfl, -⟩ := List.cons.inj heq
    cases h
  · rename_i heq
    obtain ⟨rfl, -⟩ := List.cons.inj heq
    cases h
  · rename_i heq
    obtain ⟨rfl, -⟩ := List.cons.inj heq
    cases h
  · rfl

theorem writes_scalar (hne : cs ≠ []) (hall : cs.all isWord) (h : scalar? cs = some t) :
    Writes cs t := by
  have hword : ∀ c ∈ cs, isWord c := List.all_eq_true.mp hall
  obtain ⟨c, rest, rfl⟩ := List.exists_cons_of_ne_nil hne
  have hc : isWord c := hword c List.mem_cons_self
  refine ⟨⟨c, rest, rfl, not_blank_of_isWord hc, ?_⟩, fun d hd => printable_of_isWord (hword d hd),
    fun fuel after hfuel hends => ?_⟩
  · rintro rfl
    cases hc
  · obtain ⟨fuel, rfl⟩ : ∃ k, fuel = k + 1 := ⟨fuel - 1, by rw [List.length_cons] at hfuel; omega⟩
    have hafter : after.takeWhile isWord = [] ∧ after.dropWhile isWord = after := by
      cases after with
      | nil => exact ⟨rfl, rfl⟩
      | cons d after => simp [hends d rfl]
    rw [List.cons_append, readValue_word hc, ← List.cons_append,
      List.takeWhile_append_of_pos hword, List.dropWhile_append_of_pos hword, hafter.1, hafter.2,
      List.append_nil, h]
    rfl

theorem whole?_toDigits (n : Nat) :
    whole? (Nat.toDigits 10 n) = some ((Nat.toDigits 10 n).map Reading.digitValue) := by
  have hdigits : ∀ c ∈ Nat.toDigits 10 n, c.isDigit = true :=
    fun c hc => Nat.isDigit_of_mem_toDigits (by decide) (by decide) hc
  have hread : Reading.digits? (Nat.toDigits 10 n) =
      some ((Nat.toDigits 10 n).map Reading.digitValue) := by
    apply if_pos
    simpa [Nat.toDigits_ne_nil] using hdigits
  rw [whole?, hread, Option.bind_some, if_neg]
  rintro ⟨hhead, hlong⟩
  rw [List.head?_map, Option.map_eq_some_iff] at hhead
  obtain ⟨c, hc, hzero⟩ := hhead
  have hdigit := hdigits c (List.mem_of_mem_head? hc)
  obtain rfl : c = '0' := by
    apply Char.toNat_inj.mp
    have hval : c.toNat = c.val.toNat := rfl
    simp [Char.isDigit, UInt32.le_iff_toNat_le] at hdigit
    simp [Reading.digitValue] at hzero
    show c.toNat = 48
    omega
  rw [Reading.eq_zero_of_head?_toDigits hc] at hlong
  exact absurd hlong (by decide)

theorem number?_toString {n : Int} (h : (Value.int n : Value Points).Legible) :
    number? (toString n).toList = some (.int n) := by
  rw [number?, Reading.minus_toString]
  dsimp only
  rw [Reading.cut_toDigits Reading.isExponentMark_of_isDigit]
  dsimp only
  rw [Reading.cut_toDigits Reading.isPoint_of_isDigit]
  dsimp only
  rw [whole?_toDigits]
  dsimp only
  rw [List.length_map, if_neg (Nat.not_lt_of_le h), Reading.number_toDigits]
  by_cases hn : n < 0
  · rw [if_pos (decide_eq_true hn), Int.ofNat_natAbs_of_nonpos (Int.le_of_lt hn), Int.neg_neg]
  · rw [if_neg (by simpa using hn), Int.natAbs_of_nonneg (Int.not_lt.mp hn)]

theorem scalar?_toString {n : Int} (h : (Value.int n : Value Points).Legible) :
    scalar? (toString n).toList = some (.int n) := by
  have hword {word : List Char} (c : Char) (hc : c ∈ word) (hsign : c ≠ '-')
      (hdigit : c.isDigit = false) : (toString n).toList ≠ word := by
    rintro rfl
    rcases Log.mem_toString hc with hminus | hdigits
    · exact hsign hminus
    · rw [hdigit] at hdigits
      cases hdigits
  rw [scalar?, if_neg (hword 'n' (by decide) (by decide) rfl),
    if_neg (hword 't' (by decide) (by decide) rfl),
    if_neg (hword 'f' (by decide) (by decide) rfl), number?_toString h]

theorem writes_int {n : Int} (h : (Value.int n : Value Points).Legible) :
    Writes (toString n).toList (.int n) := by
  apply writes_scalar
  · intro hnil
    have hminus := Reading.minus_toString n
    rw [hnil] at hminus
    exact Nat.toDigits_ne_nil (Prod.mk.inj hminus).2.symm
  · rw [List.all_eq_true]
    intro c hc
    rcases Log.mem_toString hc with rfl | hdigit
    · decide
    · simp [isWord, hdigit]
  · exact scalar?_toString h

end Scalars

section Composites

theorem writes_text (ps : Points) : Writes (text ps) (.text ps.numbers.joined) := by
  refine ⟨⟨'"', _, rfl, rfl, by decide⟩, printable_text ps, fun fuel rest hfuel _ => ?_⟩
  obtain ⟨fuel, rfl⟩ : ∃ k, fuel = k + 1 := ⟨fuel - 1, by simp [text] at hfuel; omega⟩
  rw [text_eq, List.cons_append, List.append_assoc, readValue, skip_of_not_blank rfl]
  change (readText (ps.numbers.flatMap escape ++ '"' :: rest)).map _ = _
  rw [readText_codes ps.sound_numbers]
  rfl

theorem readValue_blank (fuel : Nat) (cs : List Char) :
    readValue fuel (' ' :: cs) = readValue fuel cs := by
  cases fuel with
  | zero => rfl
  | succ fuel => rw [readValue, readValue]; rfl

theorem readItems_blank (fuel : Nat) (cs : List Char) :
    readItems fuel (' ' :: cs) = readItems fuel cs := by
  cases fuel with
  | zero => rfl
  | succ fuel => rw [readItems, readItems, readValue_blank]

theorem readMembers_blank (fuel : Nat) (cs : List Char) :
    readMembers fuel (' ' :: cs) = readMembers fuel cs := by
  cases fuel with
  | zero => rfl
  | succ fuel =>
    have hname : readName (' ' :: cs) = readName cs := rfl
    rw [readMembers, readMembers, hname]

theorem ends_cons {c : Char} (h : isWord c = false) (rest : List Char) : Ends (c :: rest) := by
  intro d hd
  obtain rfl := Option.some.inj hd
  exact h

section Items

variable {css : List (List Char)} {ts : List Tree}

theorem readItems_intercalate (h : List.Forall₂ Writes css ts) (hne : css ≠ []) (fuel : Nat)
    (rest : List Char) (hfuel : 2 * ([',', ' '].intercalate css).length < fuel) :
    readItems fuel ([',', ' '].intercalate css ++ ']' :: rest) = some (ts, rest) := by
  induction h generalizing fuel with
  | nil => exact absurd rfl hne
  | @cons cs t css ts hcs hcss ih =>
    obtain ⟨fuel, rfl⟩ : ∃ k, fuel = k + 1 := ⟨fuel - 1, by omega⟩
    cases hcss with
    | nil =>
      rw [List.intercalate_singleton] at hfuel ⊢
      rw [readItems, hcs.reads fuel _ (by omega) (ends_cons rfl rest)]
      rfl
    | @cons cs' t' css ts hcs' hcss =>
      rw [List.intercalate_cons_cons] at hfuel ⊢
      simp only [List.length_append, List.length_cons, List.length_nil] at hfuel
      rw [List.append_assoc, List.append_assoc, List.cons_append, List.cons_append,
        List.nil_append, readItems, hcs.reads fuel _ (by omega) (ends_cons rfl _)]
      change (readItems fuel (' ' :: _)).map _ = _
      rw [readItems_blank, ih (List.cons_ne_nil _ _) fuel (by omega)]
      rfl

theorem printable_intercalate (h : ∀ cs ∈ css, ∀ c ∈ cs, Printable c) :
    ∀ c ∈ [',', ' '].intercalate css, Printable c := by
  induction css with
  | nil => exact nofun
  | cons cs css ih =>
    rw [List.forall_mem_cons] at h
    cases css with
    | nil =>
      rw [List.intercalate_singleton]
      exact h.1
    | cons cs' css =>
      rw [List.intercalate_cons_cons, List.forall_mem_append, List.forall_mem_append]
      exact ⟨⟨h.1, printable_pair (by decide) (by decide)⟩, ih h.2⟩

theorem readValue_items {c : Char} (hblank : isBlank c = false) (hc : c ≠ ']') (fuel : Nat)
    (rest : List Char) :
    readValue (fuel + 1) ('[' :: c :: rest) =
      (readItems fuel (c :: rest)).map fun (ts, rest) => (.list ts, rest) := by
  rw [readValue, skip_of_not_blank rfl]
  show (mark? ']' (c :: rest)).elim _ _ = _
  rw [mark?_of_ne hblank hc]
  rfl

theorem writes_list (h : List.Forall₂ Writes css ts) :
    Writes ('[' :: ([',', ' '].intercalate css ++ [']'])) (.list ts) := by
  refine ⟨⟨'[', _, rfl, rfl, by decide⟩, ?_, fun fuel rest hfuel _ => ?_⟩
  · have hitems : ∀ cs ∈ css, ∀ c ∈ cs, Printable c :=
      ((List.forall₂_and_left _ _).mp (h.imp fun cs t hcs => ⟨hcs.printable, hcs⟩)).1
    rw [List.forall_mem_cons, List.forall_mem_append]
    exact ⟨by decide, printable_intercalate hitems, List.forall_mem_singleton.mpr (by decide)⟩
  · obtain ⟨fuel, rfl⟩ : ∃ k, fuel = k + 1 := ⟨fuel - 1, by simp at hfuel; omega⟩
    rw [List.cons_append, List.append_assoc]
    cases h with
    | nil => rfl
    | @cons cs t css ts hcs hcss =>
      have hitems := readItems_intercalate (.cons hcs hcss) (List.cons_ne_nil _ _) fuel rest
        (by simp at hfuel ⊢; omega)
      obtain ⟨c, more, rfl, hblank, hc⟩ := hcs.starts
      rw [List.intercalate_cons_cons_left, List.cons_append] at hitems ⊢
      rw [readValue_items hblank hc, List.singleton_append, hitems]
      rfl

end Items

section Objects

def member (m : Points × List Char) : List Char := text m.1 ++ ':' :: ' ' :: m.2

/-- The same names in the same order, and each value is read as what stands for it. -/
def WritesMembers (ms : Members (List Char) Points) (ts : Members Tree Points) : Prop :=
  List.Forall₂ (fun m t => m.1 = t.1 ∧ Writes m.2 t.2) ms ts

variable {ms : Members (List Char) Points} {ts : Members Tree Points}

theorem readName_text (k : Points) (rest : List Char) :
    readName (text k ++ ':' :: rest) = some (k.numbers.joined, rest) := by
  rw [text_eq, List.cons_append, List.append_assoc, readName]
  show (readText (k.numbers.flatMap escape ++ '"' :: ':' :: rest)).bind _ = _
  rw [readText_codes k.sound_numbers]
  rfl

theorem readMembers_member {cs : List Char} {t : Tree} (h : Writes cs t) (k : Points) (fuel : Nat)
    {rest : List Char} (hfuel : 2 * cs.length ≤ fuel) (hends : Ends rest) :
    readMembers (fuel + 1) (member (k, cs) ++ rest) =
      (mark? '}' rest).elim
        ((mark? ',' rest).bind fun rest =>
          (readMembers fuel rest).map fun (ms, rest) => ((k.numbers.joined, t) :: ms, rest))
        fun rest => some ([(k.numbers.joined, t)], rest) := by
  rw [member, List.append_assoc, List.cons_append, List.cons_append, readMembers, readName_text,
    Option.bind_some]
  dsimp only
  rw [readValue_blank, h.reads fuel _ hfuel hends]
  rfl

theorem readMembers_intercalate (h : WritesMembers ms ts) (hne : ms ≠ []) (fuel : Nat)
    (rest : List Char) (hfuel : 2 * ([',', ' '].intercalate (ms.map member)).length < fuel) :
    readMembers fuel ([',', ' '].intercalate (ms.map member) ++ '}' :: rest) =
      some (ts.map fun t => (t.1.numbers.joined, t.2), rest) := by
  -- one unit of fuel goes with each member, which takes more than that of the text
  induction h generalizing fuel with
  | nil => exact absurd rfl hne
  | @cons m t ms ts hm hms ih =>
    obtain ⟨fuel, rfl⟩ : ∃ k, fuel = k + 1 := ⟨fuel - 1, by omega⟩
    obtain ⟨k, cs⟩ := m
    obtain ⟨k', t⟩ := t
    obtain ⟨rfl, hcs⟩ : k = k' ∧ Writes cs t := hm
    have hvalue : cs.length ≤ (member (k, cs)).length := by simp [member]; omega
    cases hms with
    | nil =>
      rw [List.map_singleton, List.intercalate_singleton] at hfuel ⊢
      rw [readMembers_member hcs k fuel (by omega) (ends_cons rfl rest)]
      rfl
    | @cons m' t' ms ts hm' hms =>
      rw [List.map_cons, List.map_cons, List.intercalate_cons_cons, ← List.map_cons] at hfuel ⊢
      simp only [List.length_append, List.length_cons, List.length_nil] at hfuel
      rw [List.append_assoc, List.append_assoc, List.cons_append, List.cons_append,
        List.nil_append, readMembers_member hcs k fuel (by omega) (ends_cons rfl _)]
      change (readMembers fuel (' ' :: _)).map _ = _
      rw [readMembers_blank, ih (List.cons_ne_nil _ _) fuel (by omega)]
      rfl

theorem readValue_members (m : Points × List Char) (fuel : Nat) (rest : List Char) :
    readValue (fuel + 1) ('{' :: (member m ++ rest)) =
      (readMembers fuel (member m ++ rest)).map fun (ms, rest) => (.object ms, rest) := by
  rw [readValue, skip_of_not_blank rfl]
  rfl

theorem object_eq (ms : Members (List Char) Points) :
    object ms = '{' :: ([',', ' '].intercalate (ms.map member) ++ ['}']) :=
  rfl

theorem writes_object (h : WritesMembers ms ts) : Writes (object ms) (.named ts) := by
  rw [object_eq]
  refine ⟨⟨'{', _, rfl, rfl, by decide⟩, ?_, fun fuel rest hfuel _ => ?_⟩
  · have hvalues : ∀ m ∈ ms, ∀ c ∈ m.2, Printable c :=
      ((List.forall₂_and_left _ _).mp (h.imp fun m t hm => ⟨hm.2.printable, hm⟩)).1
    have hmembers : ∀ cs ∈ ms.map member, ∀ c ∈ cs, Printable c := by
      intro cs hcs
      obtain ⟨m, hm, rfl⟩ := List.mem_map.mp hcs
      rw [member, List.forall_mem_append, List.forall_mem_cons, List.forall_mem_cons]
      exact ⟨(writes_text _).printable, by decide, by decide, hvalues m hm⟩
    rw [List.forall_mem_cons, List.forall_mem_append]
    exact ⟨by decide, printable_intercalate hmembers, List.forall_mem_singleton.mpr (by decide)⟩
  · obtain ⟨fuel, rfl⟩ : ∃ k, fuel = k + 1 := ⟨fuel - 1, by simp at hfuel; omega⟩
    rw [List.cons_append, List.append_assoc]
    cases h with
    | nil => rfl
    | @cons m t ms ts hm hms =>
      have hmembers := readMembers_intercalate (.cons hm hms) (List.cons_ne_nil _ _) fuel rest
        (by simp at hfuel ⊢; omega)
      rw [List.map_cons] at hmembers ⊢
      -- the text begins with the first member, so the object is not taken for an empty one
      obtain ⟨more, hmore⟩ : ∃ more,
          [',', ' '].intercalate (member m :: ms.map member) = member m ++ more := by
        cases ms.map member with
        | nil => exact ⟨[], by simp⟩
        | cons cs css => exact ⟨_, List.intercalate_cons_cons.trans (List.append_assoc ..)⟩
      rw [hmore, List.append_assoc] at hmembers ⊢
      rw [readValue_members, List.singleton_append, hmembers]
      rfl

end Objects

end Composites

section Values

theorem intercalate_cons (sep cs : List Char) (css : List (List Char)) :
    sep.intercalate (cs :: css) = cs ++ css.flatMap (sep ++ ·) := by
  induction css generalizing cs with
  | nil => simp
  | cons cs' css ih => rw [List.intercalate_cons_cons, ih, List.flatMap_cons]; simp

theorem writeItems_eq (vs : List (Value Points)) :
    writeItems vs = [',', ' '].intercalate (vs.map write) := by
  have hmore (vs : List (Value Points)) :
      writeMoreItems vs = (vs.map write).flatMap ([',', ' '] ++ ·) := by
    induction vs with
    | nil => rfl
    | cons v vs ih => rw [writeMoreItems, ih]; rfl
  cases vs with
  | nil => rfl
  | cons v vs => rw [writeItems, hmore, List.map_cons, intercalate_cons]

theorem writeMembers_eq (ms : Members (Value Points) Points) :
    writeMembers ms = [',', ' '].intercalate ((ms.mapValues write).map member) := by
  have hmore (ms : Members (Value Points) Points) :
      writeMoreMembers ms = ((ms.mapValues write).map member).flatMap ([',', ' '] ++ ·) := by
    induction ms with
    | nil => rfl
    | cons m ms ih =>
      obtain ⟨k, v⟩ := m
      rw [writeMoreMembers, ih]
      simp [Members.mapValues, member]
  cases ms with
  | nil => rfl
  | cons m ms =>
    obtain ⟨k, v⟩ := m
    have hcons : Members.mapValues write ((k, v) :: ms) =
        (k, write v) :: Members.mapValues write ms := rfl
    rw [writeMembers, hmore, hcons, List.map_cons, intercalate_cons]
    simp [member]

theorem Tree.joined_object (ms : Members (Value Points) Points) :
    (Tree.ofValue (.object ms)).joined =
      .named (ms.mapValues fun v => (Tree.ofValue v).joined) := by
  have hmembers (ms : Members (Value Points) Points) :
      Tree.joinedMembers (Tree.ofMembers ms) =
        ms.map fun m => (m.1.numbers.joined, (Tree.ofValue m.2).joined) := by
    induction ms with
    | nil => rfl
    | cons m ms ih => exact congrArg ((m.1.numbers.joined, (Tree.ofValue m.2).joined) :: ·) ih
  rw [Tree.named, Members.mapValues, List.map_map]
  exact congrArg Tree.object (hmembers ms)

theorem Tree.joined_list (vs : List (Value Points)) :
    (Tree.ofValue (.list vs)).joined = .list (vs.map fun v => (Tree.ofValue v).joined) := by
  have hitems (vs : List (Value Points)) :
      Tree.joinedAll (Tree.ofValues vs) = vs.map fun v => (Tree.ofValue v).joined := by
    induction vs with
    | nil => rfl
    | cons v vs ih => exact congrArg ((Tree.ofValue v).joined :: ·) ih
  exact congrArg Tree.list (hitems vs)

theorem write_list (vs : List (Value Points)) :
    write (.list vs) = '[' :: ([',', ' '].intercalate (vs.map write) ++ [']']) := by
  rw [← writeItems_eq]
  rfl

theorem write_object (ms : Members (Value Points) Points) :
    write (.object ms) = object (ms.mapValues write) := by
  rw [object_eq, ← writeMembers_eq]
  rfl

mutual

/-- The text of a value is read as the value. -/
theorem writes_value : ∀ v : Value Points, (∀ leaf ∈ v.leaves, leaf.Legible) →
    Writes (write v) (Tree.ofValue v).joined
  | .null, _ => writes_scalar (by decide) (by decide) rfl
  | .bool true, _ => writes_scalar (by decide) (by decide) rfl
  | .bool false, _ => writes_scalar (by decide) (by decide) rfl
  | .int n, h => writes_int (h _ List.mem_cons_self)
  | .float x, h => (h _ List.mem_cons_self).elim
  | .text s, _ => writes_text s
  | .bytes bs, _ => writes_text (.ofChars (Quoted.bytes bs))
  | .list vs, h => by
    rw [write_list, Tree.joined_list]
    exact writes_list (writes_values vs h)
  | .object ms, h => by
    rw [write_object, Tree.joined_object]
    exact writes_object (writes_members ms h)

theorem writes_values : ∀ vs : List (Value Points),
    (∀ leaf ∈ Value.leavesOfAll vs, leaf.Legible) →
      List.Forall₂ Writes (vs.map write) (vs.map fun v => (Tree.ofValue v).joined)
  | [], _ => .nil
  | v :: vs, h => by
    rw [Value.leavesOfAll, List.forall_mem_append] at h
    exact .cons (writes_value v h.1) (writes_values vs h.2)

theorem writes_members : ∀ ms : Members (Value Points) Points,
    (∀ leaf ∈ Value.leavesOfMembers ms, leaf.Legible) →
      WritesMembers (ms.mapValues write)
        (ms.mapValues fun v => (Tree.ofValue v).joined)
  | [], _ => .nil
  | (k, v) :: ms, h => by
    rw [Value.leavesOfMembers, List.forall_mem_append] at h
    exact .cons ⟨rfl, writes_value v h.1⟩ (writes_members ms h.2)

end

theorem Writes.read {cs : List Char} {t : Tree} (h : Writes cs t) : read cs = some t := by
  have hread := h.reads (2 * cs.length) [] (Nat.le_refl _) nofun
  rw [List.append_nil] at hread
  rw [Json.read, hread]
  rfl

end Values

end Json

end TableSeeder
