import TableSeeder.Settings.Source
import Mathlib.Data.List.Nodup

/-! A source of variables is read by folded names: of several spellings of one name the last counts,
and without a value it counts as absent. -/

namespace TableSeeder

namespace Members

variable {α β κ : Type}

def last? (p : κ → Bool) (ms : Members α κ) : Option α :=
  (ms.reverse.find? fun m => p m.1).map Prod.snd

def first? (p : κ → Bool) (ms : Members α κ) : Option α :=
  (ms.find? fun m => p m.1).map Prod.snd

theorem first?_filter {p q : κ → Bool} (h : ∀ k, p k = true → q k = true) (ms : Members α κ) :
    first? p (ms.filter fun m => q m.1) = first? p ms := by
  unfold first?
  rw [List.find?_filter]
  congr 2
  funext m
  have hm := h m.1
  cases hp : p m.1 <;> simp_all

theorem last?_filter {p q : κ → Bool} (h : ∀ k, p k = true → q k = true) (ms : Members α κ) :
    last? p (ms.filter fun m => q m.1) = last? p ms := by
  have hfirst := first?_filter h ms.reverse
  rwa [List.filter_reverse] at hfirst

theorem last?_cons (p : κ → Bool) (m : κ × α) (ms : Members α κ) :
    last? p (m :: ms) = (last? p ms).or (if p m.1 then some m.2 else none) := by
  unfold last?
  rw [List.reverse_cons, List.find?_append, List.find?_singleton, Option.map_or]
  split <;> rfl

variable [DecidableEq κ]

theorem nodup_keys_set {ms : Members α κ} (h : (keys ms).Nodup) (k : κ) (v : α) :
    (keys (set ms k v)).Nodup := by
  by_cases hk : k ∈ keys ms
  · rwa [keys_set_of_mem v hk]
  · rw [keys_set_of_notMem v hk, ← List.concat_eq_append]
    exact List.Nodup.concat hk h

theorem get?_filterMap {ms : Members (Option α) κ} (h : (keys ms).Nodup) (g : α → β)
    (key : κ) :
    get? (ms.filterMap fun m => m.2.map fun a => (m.1, g a)) key =
      (get? ms key).bind (Option.map g) := by
  induction ms with
  | nil => rfl
  | cons m ms ih =>
    obtain ⟨k, a?⟩ := m
    rw [keys_cons, List.nodup_cons] at h
    rw [get?_cons]
    cases a? with
    | none =>
      -- the member is dropped, and its name does not come again behind it
      rw [List.filterMap_cons_none rfl, ih h.2]
      split
      · rename_i hk
        rw [hk, get?_eq_none.mpr h.1]
        rfl
      · rfl
    | some a =>
      have hhead : ((k, some a) :: ms).filterMap (fun m => m.2.map fun a => (m.1, g a)) =
          (k, g a) :: ms.filterMap (fun m => m.2.map fun a => (m.1, g a)) := rfl
      rw [hhead, get?_cons, ih h.2]
      split <;> rfl

theorem lookup_filter {p : κ → Bool} {key : κ} (h : p key = true) (ms : Members α κ) :
    get? (ms.filter fun m => p m.1) key = get? ms key := by
  induction ms with
  | nil => rfl
  | cons m ms ih =>
    obtain ⟨k, v⟩ := m
    cases hp : p k with
    | true => simp [hp, get?_cons, ih]
    | false =>
      have hk : key ≠ k := by
        rintro rfl
        simp [hp] at h
      simp [hp, get?_cons, hk, ih]

theorem get?_foldl_set (fold : κ → κ) (ms acc : Members α κ) (key : κ) :
    get? (ms.foldl (fun acc m => set acc (fold m.1) m.2) acc) key =
      (last? (fun k => fold k = key) ms).or (get? acc key) := by
  induction ms generalizing acc with
  | nil => rfl
  | cons m ms ih =>
    rw [List.foldl_cons, ih, last?_cons, get?_set, Option.or_assoc]
    by_cases hk : key = fold m.1
    · simp [hk]
    · simp [hk, Ne.symm hk]

theorem nodup_keys_foldl_set (fold : κ → κ) (ms acc : Members α κ)
    (h : (keys acc).Nodup) :
    (keys (ms.foldl (fun acc m => set acc (fold m.1) m.2) acc)).Nodup := by
  induction ms generalizing acc with
  | nil => exact h
  | cons m ms ih => exact ih _ (nodup_keys_set h _ _)

end Members

namespace Settings

def spells (key name : String) : Bool := lowerAscii name = key

def spelled? (ms : Members (Option String)) (key : String) : Option Value :=
  (Members.last? (spells key) ms).join.map .text

theorem get?_variablesOf (ms : Members (Option String)) (key : String) :
    (({} : Policy).variablesOf ms).get? key = spelled? ms key := by
  have hkept : ms.filter (fun m => !(false && m.2 == some "")) = ms := List.filter_true ms
  have hnodup := Members.nodup_keys_foldl_set lowerAscii ms [] List.nodup_nil
  have hget := Members.get?_filterMap hnodup Value.text key
  rw [Members.get?_foldl_set, Members.get?_nil, Option.or_none] at hget
  unfold Policy.variablesOf
  dsimp only
  rw [hkept]
  refine hget.trans ?_
  unfold spelled? spells
  cases Members.last? (fun k => decide (lowerAscii k = key)) ms <;> rfl

theorem spelled?_filter {q : String → Bool} {key : String}
    (h : ∀ k, spells key k = true → q k = true)
    (ms : Members (Option String)) : spelled? (ms.filter fun m => q m.1) key = spelled? ms key := by
  unfold spelled?
  rw [Members.last?_filter h]

namespace Field

def goesBy (f : Field) (name : String) : Bool :=
  spells f.name name || spells (lowerAscii f.envName) name

def named? (key : String) : Option Field :=
  all.find? fun f => key = f.name || key = lowerAscii f.envName

theorem lowerAscii_name (f : Field) : lowerAscii f.name = f.name := by
  cases f <;> rfl

theorem named?_of_goesBy {f : Field} {name : String} (h : f.goesBy name = true) :
    named? (lowerAscii name) = some f := by
  unfold goesBy spells at h
  simp only [Bool.or_eq_true, decide_eq_true_eq] at h
  rcases h with h | h <;> rw [h] <;> cases f <;> rfl

theorem eq_of_goesBy {f g : Field} {name : String} (hf : f.goesBy name = true)
    (hg : g.goesBy name = true) : f = g :=
  Option.some.inj ((named?_of_goesBy hf).symm.trans (named?_of_goesBy hg))

theorem goesBy_of_spells {f : Field} {n : Naming} {name : String}
    (h : spells (lowerAscii (f.called n)) name = true) : f.goesBy name = true := by
  unfold goesBy
  cases n with
  | outer => exact Bool.or_eq_true_iff.mpr (.inr h)
  | own =>
    rw [called, lowerAscii_name] at h
    exact Bool.or_eq_true_iff.mpr (.inl h)

theorem goesBy_called (f : Field) (n : Naming) : f.goesBy (f.called n) = true :=
  goesBy_of_spells (n := n) (by simp [spells])

end Field

end Settings

end TableSeeder
