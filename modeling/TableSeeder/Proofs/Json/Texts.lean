import Mathlib.Data.List.Chain
import TableSeeder.Proofs.Json.Reader
import TableSeeder.Value.Json

/-! Texts come back from their escapes, except that a high surrogate right before a low one comes
back as the code point of the pair. -/

namespace TableSeeder

namespace Codes

def Sound (ns : Codes) : Prop := ∀ n ∈ ns, n < 0x110000

theorem sound_cons {n : Nat} {ns : Codes} : Sound (n :: ns) ↔ n < 0x110000 ∧ ns.Sound :=
  List.forall_mem_cons

end Codes

namespace Points

def numbers (ps : Points) : Codes := ps.map CodePoint.number

theorem number_lt (p : CodePoint) : p.number < 0x110000 := by
  cases p with
  | char c =>
    have hvalid : c.toNat.isValidChar := c.valid
    rw [Nat.isValidChar] at hvalid
    rw [CodePoint.number]
    omega
  | surrogate n =>
    rw [CodePoint.number]
    omega

theorem sound_numbers (ps : Points) : ps.numbers.Sound := by
  intro n hn
  obtain ⟨p, -, rfl⟩ := List.mem_map.mp hn
  exact number_lt p

end Points

section Hex

theorem hexDigits_succ {width : Nat} (h : 0 < width) (n : Nat) :
    hexDigits (width + 1) n = hexDigits width (n / 16) ++ [Nat.digitChar (n % 16)] := by
  unfold hexDigits
  dsimp only
  by_cases hn : n < 16
  · obtain ⟨k, rfl⟩ := Nat.exists_eq_succ_of_ne_zero (Nat.ne_of_gt h)
    rw [Nat.toDigits_of_lt_base hn, Nat.div_eq_of_lt hn, Nat.mod_eq_of_lt hn, Nat.toDigits_zero]
    simp [← List.replicate_succ', List.replicate_succ]
  · have hlong := Nat.toDigits_of_base_le (by decide : 1 < 16) (Nat.le_of_not_lt hn)
    rw [hlong, List.length_append, List.length_singleton, Nat.add_sub_add_right,
      List.append_assoc]

theorem hexDigits_four {n : Nat} (h : n < 0x10000) :
    hexDigits 4 n = [Nat.digitChar (n / 16 / 16 / 16), Nat.digitChar (n / 16 / 16 % 16),
      Nat.digitChar (n / 16 % 16), Nat.digitChar (n % 16)] := by
  have hone : hexDigits 1 (n / 16 / 16 / 16) = [Nat.digitChar (n / 16 / 16 / 16)] := by
    unfold hexDigits
    rw [Nat.toDigits_of_lt_base (by omega)]
    rfl
  rw [hexDigits_succ (by decide), hexDigits_succ (by decide), hexDigits_succ (by decide), hone]
  rfl

end Hex

namespace Json

def Printable (c : Char) : Prop := 0x20 ≤ c.toNat ∧ c.toNat < 0x7f

instance (c : Char) : Decidable (Printable c) := inferInstanceAs (Decidable (_ ∧ _))

theorem printable_pair {c d : Char} (hc : Printable c) (hd : Printable d) :
    ∀ e ∈ [c, d], Printable e :=
  List.forall_mem_cons.mpr ⟨hc, List.forall_mem_singleton.mpr hd⟩

theorem digit?_digitChar {d : Nat} (h : d < 16) : digit? (Nat.digitChar d) = some d := by
  revert d
  decide

theorem printable_digitChar {d : Nat} (h : d < 16) : Printable (Nat.digitChar d) := by
  revert d
  decide

theorem unit?_hexDigits {n : Nat} (h : n < 0x10000) : unit? (hexDigits 4 n) = some n := by
  rw [hexDigits_four h, unit?, digit?_digitChar (by omega), digit?_digitChar (by omega),
    digit?_digitChar (by omega), digit?_digitChar (by omega)]
  dsimp only
  congr 1
  omega

theorem toNat_ofNat_of_lt {n : Nat} (h : n < 0x7f) : (Char.ofNat n).toNat = n := by
  have hvalid : n.isValidChar := .inl (by omega)
  rw [Char.ofNat, dif_pos hvalid]
  rfl

inductive Escapes (n : Nat) : List Char → Prop
  | simple {c : Char} (hc : simple? c = some n) (hbasic : n < 0x10000) (hprint : Printable c) :
    Escapes n ['\\', c]
  | plain (hquote : n ≠ '"'.toNat) (hslash : n ≠ '\\'.toNat) (hplain : 0x20 ≤ n ∧ n < 0x7f) :
    Escapes n [Char.ofNat n]
  | unit (hbasic : n < 0x10000) : Escapes n (unit n)
  | pair (hbasic : 0x10000 ≤ n) :
    Escapes n (Json.unit (0xd800 + (n - 0x10000) / 0x400) ++
      Json.unit (0xdc00 + (n - 0x10000) % 0x400))

theorem escapes_escape (n : Nat) : Escapes n (escape n) := by
  have hsimple {n : Nat} {c : Char} (code : Nat) (hc : simple? c = some code)
      (hbasic : code < 0x10000) (hprint : Printable c) (h : n = code) : Escapes n ['\\', c] := by
    rw [h]
    exact .simple hc hbasic hprint
  unfold escape
  refine iteInduction (hsimple _ rfl (by decide) (by decide)) fun hquote => ?_
  refine iteInduction (hsimple _ rfl (by decide) (by decide)) fun hslash => ?_
  iterate 5 refine iteInduction (hsimple _ rfl (by decide) (by decide)) fun _ => ?_
  refine iteInduction (.plain hquote hslash) fun _ => ?_
  exact iteInduction .unit fun h => .pair (Nat.le_of_not_lt h)

def units (n : Nat) : Codes :=
  if n < 0x10000 then [n]
  else [0xd800 + (n - 0x10000) / 0x400, 0xdc00 + (n - 0x10000) % 0x400]

section Reading

variable {n : Nat} {c : Char} {rest : List Char}

theorem readUnits_unit (h : n < 0x10000) :
    readUnits (unit n ++ rest) = (readUnits rest).map fun r => (n :: r.1, r.2) := by
  have hunit := unit?_hexDigits h
  rw [hexDigits_four h] at hunit
  rw [unit, hexDigits_four h]
  simp only [List.cons_append, List.nil_append]
  rw [readUnits, hunit]
  cases readUnits rest <;> rfl

theorem readUnits_simple (h : simple? c = some n) :
    readUnits ('\\' :: c :: rest) = (readUnits rest).map fun r => (n :: r.1, r.2) := by
  have hu : c ≠ 'u' := by
    rintro rfl
    cases h
  rw [readUnits, h]
  · cases readUnits rest <;> rfl
  · intro _ _ _ _ _ hc
    exact absurd hc hu

theorem readUnits_plain (hquote : c ≠ '"') (hslash : c ≠ '\\') (h : 0x20 ≤ c.toNat) :
    readUnits (c :: rest) = (readUnits rest).map fun r => (c.toNat :: r.1, r.2) := by
  rw [readUnits, if_neg (Nat.not_lt_of_le h)]
  · exact hquote
  · intro _ _ _ _ _ hc
    exact absurd hc hslash
  · intro _ _ hc
    exact absurd hc hslash

theorem readUnits_escapes {cs : List Char} (hcs : Escapes n cs) (h : n < 0x110000) :
    readUnits (cs ++ rest) = (readUnits rest).map fun r => (units n ++ r.1, r.2) := by
  have hunits (h : n < 0x10000) : units n = [n] := if_pos h
  cases hcs with
  | simple hc hbasic =>
    rw [hunits hbasic]
    exact readUnits_simple hc
  | plain hquote hslash hplain =>
    have hcode := toNat_ofNat_of_lt hplain.2
    have hne {c : Char} (hc : n ≠ c.toNat) : Char.ofNat n ≠ c := by
      rintro rfl
      exact hc hcode.symm
    rw [hunits (by omega), List.cons_append, List.nil_append,
      readUnits_plain (hne hquote) (hne hslash) (by omega), hcode]
    rfl
  | unit hbasic =>
    rw [hunits hbasic]
    exact readUnits_unit hbasic
  | pair hbasic =>
    rw [List.append_assoc, readUnits_unit (by omega), readUnits_unit (by omega), units,
      if_neg (Nat.not_lt_of_le hbasic), Option.map_map]
    rfl

theorem readUnits_flatMap_escape {ns : Codes} (h : ns.Sound) :
    readUnits (ns.flatMap escape ++ '"' :: rest) = some (ns.flatMap units, rest) := by
  induction ns with
  | nil => rfl
  | cons n ns ih =>
    rw [Codes.sound_cons] at h
    rw [List.flatMap_cons, List.append_assoc, readUnits_escapes (escapes_escape n) h.1, ih h.2]
    rfl

end Reading

end Json

namespace Codes
open Json

variable {n m : Nat} {ns ms : Codes}

theorem isHigh_iff : isHigh n = true ↔ 0xd800 ≤ n ∧ n < 0xdc00 := by
  rw [isHigh, Bool.and_eq_true, decide_eq_true_iff, decide_eq_true_iff]

theorem isLow_iff : isLow n = true ↔ 0xdc00 ≤ n ∧ n < 0xe000 := by
  rw [isLow, Bool.and_eq_true, decide_eq_true_iff, decide_eq_true_iff]

theorem joined_cons (h : ∀ m ∈ ms.head?, ¬ (isHigh n ∧ isLow m)) :
    joined (n :: ms) = n :: joined ms := by
  cases ms with
  | nil => rfl
  | cons m ms =>
    rw [joined, if_neg]
    rw [Bool.and_eq_true]
    exact h m rfl

theorem joined_pair (h : isHigh n ∧ isLow m) :
    joined (n :: m :: ms) = ofPair n m :: joined ms := by
  rw [joined, if_pos (Bool.and_eq_true _ _ ▸ h)]

/-- No high surrogate stands right before a low one. -/
def Apart (ns : Codes) : Prop := ns.IsChain fun n m => ¬ (isHigh n ∧ isLow m)

theorem Apart.joined_eq (h : ns.Apart) : ns.joined = ns := by
  induction ns with
  | nil => rfl
  | cons n ns ih =>
    rw [Apart, List.isChain_cons] at h
    rw [joined_cons h.1, ih h.2]

theorem units_of_le (hlow : 0x10000 ≤ n) (hhigh : n < 0x110000) :
    ∃ high low, units n = [high, low] ∧ isHigh high ∧ isLow low ∧ ofPair high low = n := by
  refine ⟨_, _, if_neg (Nat.not_lt_of_le hlow), ?_, ?_, ?_⟩
  · rw [isHigh_iff]
    omega
  · rw [isLow_iff]
    omega
  · unfold ofPair
    omega

theorem mem_head?_flatMap_units (h : ns.Sound)
    (hm : m ∈ (ns.flatMap units).head?) (hlow : isLow m) : m ∈ ns.head? := by
  cases ns with
  | nil => exact hm
  | cons n ns =>
    rw [List.flatMap_cons, List.head?_append] at hm
    by_cases hn : n < 0x10000
    · rw [units, if_pos hn] at hm
      exact hm
    · obtain ⟨high, low, hunits, hhigh, -⟩ :=
        units_of_le (Nat.le_of_not_lt hn) (h n List.mem_cons_self)
      rw [hunits] at hm
      obtain rfl : high = m := Option.some.inj hm
      rw [isHigh_iff] at hhigh
      rw [isLow_iff] at hlow
      omega

theorem joined_units_append (h : ms.Sound) (hbound : n < 0x110000)
    (hn : ∀ m ∈ ms.head?, ¬ (isHigh n ∧ isLow m)) :
    joined (units n ++ ms.flatMap units) = n :: joined (ms.flatMap units) := by
  by_cases hplane : n < 0x10000
  · rw [units, if_pos hplane]
    apply joined_cons
    intro m hm hpair
    exact hn m (mem_head?_flatMap_units h hm hpair.2) hpair
  · obtain ⟨high, low, hunits, hhigh, hlow, hjoin⟩ :=
      units_of_le (Nat.le_of_not_lt hplane) hbound
    rw [hunits, List.cons_append, List.cons_append, List.nil_append, joined_pair ⟨hhigh, hlow⟩,
      hjoin]

/-- What the units of a text join to is what its code points join to. -/
theorem joined_flatMap_units (h : ns.Sound) :
    joined (ns.flatMap units) = joined ns := by
  fun_induction joined ns with
  | case1 high low rest hpair ih =>
    simp only [Bool.and_eq_true] at hpair
    have hbasic {n : Nat} (hn : isHigh n ∨ isLow n) : units n = [n] := by
      apply if_pos
      rw [isHigh_iff, isLow_iff] at hn
      omega
    rw [sound_cons, sound_cons] at h
    rw [List.flatMap_cons, List.flatMap_cons, hbasic (.inl hpair.1), hbasic (.inr hpair.2),
      ← ih h.2.2]
    exact joined_pair hpair
  | case2 high low rest hpair ih =>
    rw [sound_cons] at h
    rw [List.flatMap_cons, joined_units_append h.2 h.1, ih h.2]
    intro m hm
    obtain rfl := Option.some.inj hm
    rwa [Bool.and_eq_true] at hpair
  | case3 ns hshort =>
    cases ns with
    | nil => rfl
    | cons n ns =>
      cases ns with
      | nil =>
        exact joined_units_append nofun (h n List.mem_cons_self) nofun
      | cons m ms => exact absurd rfl (hshort n m ms)

end Codes

namespace Json

theorem readText_codes {ns : Codes} (h : ns.Sound) (rest : List Char) :
    readText (ns.flatMap escape ++ '"' :: rest) = some (ns.joined, rest) := by
  rw [readText, readUnits_flatMap_escape h, Option.map_some]
  dsimp only
  rw [Codes.joined_flatMap_units h]

theorem printable_escapes {n : Nat} {cs : List Char} (hcs : Escapes n cs) (h : n < 0x110000) :
    ∀ c ∈ cs, Printable c := by
  have hunit {n : Nat} (h : n < 0x10000) : ∀ c ∈ unit n, Printable c := by
    rw [unit, hexDigits_four h]
    simp only [List.forall_mem_cons]
    refine ⟨by decide, by decide, ?_, ?_, ?_, ?_, nofun⟩ <;>
      exact printable_digitChar (by omega)
  cases hcs with
  | simple _ _ hprint => exact printable_pair (by decide) hprint
  | plain _ _ hplain =>
    rw [List.forall_mem_singleton, Printable, toNat_ofNat_of_lt hplain.2]
    exact hplain
  | unit hbasic => exact hunit hbasic
  | pair hbasic =>
    rw [List.forall_mem_append]
    exact ⟨hunit (by omega), hunit (by omega)⟩

theorem text_eq (ps : Points) : text ps = '"' :: (ps.numbers.flatMap escape ++ ['"']) := by
  rw [text, Points.numbers, List.flatMap_map]

theorem printable_text (ps : Points) : ∀ c ∈ text ps, Printable c := by
  intro c hc
  rw [text_eq, List.mem_cons, List.mem_append, List.mem_flatMap, List.mem_singleton] at hc
  rcases hc with rfl | ⟨n, hn, hc⟩ | rfl
  · decide
  · exact printable_escapes (escapes_escape n) (ps.sound_numbers n hn) c hc
  · decide

end Json

end TableSeeder
