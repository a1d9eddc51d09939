import TableSeeder.Proofs.Outcomes
import TableSeeder.Proofs.Settings.Variables
import TableSeeder.Settings

/-! Which value counts for an option. Arguments come before variables; of the variables, the name
comes before the source: the variable's name counts in the file even where the environment has the
field's own. -/

namespace TableSeeder

namespace Settings

section Fields

def Field.read : Field → Value → Except Cause Value
  | .region, v | .table, v | .logLevel, v => (readText v).map .text
  | .iterations, v | .batches, v => (readCount v).map .int
  | .interval, v => (readInterval v).map .float
  | .logJson, v => (readBool v).map .bool

def get (s : Settings) : Field → Value
  | .region => .text s.region
  | .table => .text s.table
  | .iterations => .int s.iterations
  | .interval => .float s.interval
  | .batches => .int s.batches
  | .logLevel => .text s.logLevel
  | .logJson => .bool s.logJson

theorem ext_get {s t : Settings} (h : ∀ f, s.get f = t.get f) : s = t := by
  obtain ⟨region, table, iterations, interval, batches, logLevel, logJson⟩ := s
  have hregion := Value.text.inj (h .region)
  have htable := Value.text.inj (h .table)
  have hiterations := Value.int.inj (h .iterations)
  have hinterval := Value.float.inj (h .interval)
  have hbatches := Value.int.inj (h .batches)
  have hlogLevel := Value.text.inj (h .logLevel)
  have hlogJson := Value.bool.inj (h .logJson)
  dsimp only at hregion htable hiterations hinterval hbatches hlogLevel hlogJson
  subst hregion htable hiterations hinterval hbatches hlogLevel hlogJson
  rfl

def entry (l : Layers) (f : Field) : Except Issue Value := resolve l f (get {} f) f.read

theorem entry_eq {α : Type} (l : Layers) (f : Field) {d : α} {read : Value → Except Cause α}
    {g : α → Value} (hd : get {} f = g d) (hread : f.read = fun v => (read v).map g) :
    entry l f = (resolve l f d read).map g := by
  unfold entry resolve
  rw [hd, hread]
  cases find l f with
  | none => rfl
  | some found =>
    obtain ⟨place, v⟩ := found
    dsimp only
    cases read v <;> rfl

theorem issuesOf_map {α β : Type} (r : Except Issue α) (g : α → β) :
    issuesOf (r.map g) = issuesOf r := by
  cases r <;> rfl

theorem ok_of_ne_error {α β : Type} {r : Except Issue α} {g : α → β}
    (h : ∀ i, r.map g ≠ .error i) : ∃ a, r = .ok a := by
  cases r with
  | error i => exact absurd rfl (h i)
  | ok a => exact ⟨a, rfl⟩

theorem read_cases (l : Layers) :
    (∃ s, read l = .ok s ∧ ∀ f, entry l f = .ok (s.get f)) ∨
      (read l = .error (Field.all.flatMap fun f => issuesOf (entry l f)) ∧
        ∃ f i, entry l f = .error i) := by
  have hregion := entry_eq (g := Value.text) l .region rfl rfl
  have htable := entry_eq (g := Value.text) l .table rfl rfl
  have hiterations := entry_eq (g := Value.int) l .iterations rfl rfl
  have hinterval := entry_eq (g := Value.float) l .interval rfl rfl
  have hbatches := entry_eq (g := Value.int) l .batches rfl rfl
  have hlogLevel := entry_eq (g := Value.text) l .logLevel rfl rfl
  have hlogJson := entry_eq (g := Value.bool) l .logJson rfl rfl
  unfold read
  dsimp only
  split
  · rename_i hr ht hn hi hb hl hj
    refine .inl ⟨_, rfl, fun f => ?_⟩
    cases f with
    | region => rw [hregion, hr]; rfl
    | table => rw [htable, ht]; rfl
    | iterations => rw [hiterations, hn]; rfl
    | interval => rw [hinterval, hi]; rfl
    | batches => rw [hbatches, hb]; rfl
    | logLevel => rw [hlogLevel, hl]; rfl
    | logJson => rw [hlogJson, hj]; rfl
  · rename_i hnot
    refine .inr ⟨?_, ?_⟩
    · simp [Field.all, hregion, htable, hiterations, hinterval, hbatches, hlogLevel, hlogJson,
        issuesOf_map]
    · -- the settings are missed only where some field has none
      by_contra hnone
      simp only [not_exists] at hnone
      obtain ⟨r, hr⟩ := ok_of_ne_error (hregion ▸ hnone .region)
      obtain ⟨t, ht⟩ := ok_of_ne_error (htable ▸ hnone .table)
      obtain ⟨n, hn⟩ := ok_of_ne_error (hiterations ▸ hnone .iterations)
      obtain ⟨i, hi⟩ := ok_of_ne_error (hinterval ▸ hnone .interval)
      obtain ⟨b, hb⟩ := ok_of_ne_error (hbatches ▸ hnone .batches)
      obtain ⟨ll, hl⟩ := ok_of_ne_error (hlogLevel ▸ hnone .logLevel)
      obtain ⟨lj, hj⟩ := ok_of_ne_error (hlogJson ▸ hnone .logJson)
      exact hnot r t n i b ll lj hr ht hn hi hb hl hj

end Fields

section Winners

/-- No argument says how the sources are to be read. -/
def Sources.Plain (s : Sources) : Prop := ∀ m ∈ s.arguments, m.1.toList.head? ≠ some '_'

def Sources.bindings (s : Sources) : Members (Option String) :=
  s.file.elim [] (Dotenv.parse s.environment)

def Sources.variables (s : Sources) : List (Members (Option String)) :=
  [s.environment.mapValues some, s.bindings]

def Field.value? (f : Field) (n : Naming) (ms : Members (Option String)) : Option Value :=
  spelled? ms (lowerAscii (f.called n))

/-- Of the arguments by either name, in any case, one by the variable's name comes first. -/
def Field.argument? (f : Field) (arguments : Members Value) : Option Value :=
  (Members.first? (spells (lowerAscii f.envName)) arguments).or
    (Members.first? (spells f.name) arguments)

def Sources.winner? (s : Sources) (f : Field) : Option Value :=
  (f.argument? s.arguments).or
    ((s.variables.findSome? (f.value? .outer)).or (s.variables.findSome? (f.value? .own)))

def Sources.outcome (s : Sources) (f : Field) : Except Cause Value :=
  match s.winner? f with
  | none => .ok (get {} f)
  | some v => f.read v

def Sources.plainLayers (s : Sources) : Layers where
  arguments := s.arguments
  policy := {}
  environment := ({} : Policy).variablesOf (s.environment.mapValues some)
  file := ({} : Policy).variablesOf s.bindings
  favoured := s.favoured

theorem Sources.Plain.get? {s : Sources} (h : s.Plain) {key : String}
    (hkey : key.toList.head? = some '_') : s.arguments.get? key = none := by
  rw [Members.get?_eq_none]
  intro hmem
  obtain ⟨m, hm, rfl⟩ := List.mem_map.mp hmem
  exact h m hm hkey

theorem Sources.Plain.layers {s : Sources} (h : s.Plain) : s.layers = .ok s.plainLayers := by
  have hempty : s.arguments.get? "_env_ignore_empty" = none := h.get? rfl
  have hcase : s.arguments.get? "_case_sensitive" = none := h.get? rfl
  have hbeginning : s.arguments.get? "_env_prefix" = none := h.get? rfl
  have hnull : s.arguments.get? "_env_parse_none_str" = none := h.get? rfl
  have hfile : s.arguments.get? "_env_file" = none := h.get? rfl
  have hpolicy : Policy.ofArguments s.arguments = {} := by
    unfold Policy.ofArguments
    rw [hempty, hcase, hbeginning, hnull]
    rfl
  unfold Sources.layers Sources.bindingsText
  rw [hfile, hpolicy]
  unfold Sources.plainLayers Sources.bindings
  cases s.file <;> rfl

theorem argument?_plainLayers (s : Sources) (f : Field) :
    (s.plainLayers.argument? f.envName).or (s.plainLayers.argument? f.name) =
      f.argument? s.arguments := by
  unfold Layers.argument?
  rw [f.lowerAscii_name]
  rfl

theorem setting?_plainLayers (s : Sources) (f : Field) (n : Naming) :
    s.plainLayers.setting? (f.called n) = s.variables.findSome? (f.value? n) := by
  unfold Layers.setting? Sources.plainLayers Policy.folded Sources.variables
  simp only [Bool.false_eq_true, if_false, get?_variablesOf, List.findSome?_cons,
    List.findSome?_nil]
  unfold Field.value?
  cases spelled? (s.environment.mapValues some) (lowerAscii (f.called n)) <;>
    cases spelled? s.bindings (lowerAscii (f.called n)) <;> rfl

theorem find_plainLayers (s : Sources) (f : Field) :
    find s.plainLayers f =
      ((f.argument? s.arguments).map (f.called (s.plainLayers.reported f), ·)).or
        (((s.variables.findSome? (f.value? .outer)).map (f.envName, ·)).or
          ((s.variables.findSome? (f.value? .own)).map (f.name, ·))) := by
  have houter := setting?_plainLayers s f .outer
  have hown := setting?_plainLayers s f .own
  unfold Field.called at houter hown
  have hbeginning : s.plainLayers.policy.beginning ++ f.name = f.name := String.empty_append
  unfold find findArgument findVariable
  rw [argument?_plainLayers, hbeginning, houter, hown]

theorem find_eq_winner? (s : Sources) (f : Field) :
    (find s.plainLayers f).map Prod.snd = s.winner? f := by
  rw [find_plainLayers]
  unfold Sources.winner?
  simp [Option.map_or, Option.map_map, Function.comp_def]

end Winners

section Independence

def besides {α : Type} (fs : List Field) (ms : Members α) : Members α :=
  ms.filter fun m => !fs.any (·.goesBy m.1)

/-- Sources that may differ in what they say about these fields, and in nothing else. -/
structure Sources.AgreeBut (fs : List Field) (s t : Sources) : Prop where
  arguments : besides fs s.arguments = besides fs t.arguments
  environment : besides fs s.environment = besides fs t.environment
  bindings : besides fs s.bindings = besides fs t.bindings

variable {fs : List Field} {f : Field} {s t : Sources}

theorem not_any_goesBy (hf : f ∉ fs) {name : String} (h : f.goesBy name = true) :
    (!fs.any (·.goesBy name)) = true := by
  rw [Bool.not_eq_true', List.any_eq_false]
  intro g hg hname
  rw [Field.eq_of_goesBy h hname] at hf
  exact hf hg

theorem get?_besides (hf : f ∉ fs) (ms : Members Value) (n : Naming) :
    (besides fs ms).get? (f.called n) = ms.get? (f.called n) :=
  Members.lookup_filter (p := fun name => !fs.any (·.goesBy name))
    (not_any_goesBy hf (f.goesBy_called n)) ms

theorem argument?_besides (hf : f ∉ fs) (ms : Members Value) :
    f.argument? (besides fs ms) = f.argument? ms := by
  have hfirst : ∀ n, Members.first? (spells (lowerAscii (f.called n))) (besides fs ms) =
      Members.first? (spells (lowerAscii (f.called n))) ms := fun n =>
    Members.first?_filter (fun _ hk => not_any_goesBy hf (Field.goesBy_of_spells hk)) ms
  have houter := hfirst .outer
  have hown := hfirst .own
  unfold Field.called at houter hown
  rw [f.lowerAscii_name] at hown
  unfold Field.argument?
  rw [houter, hown]

theorem value?_besides (hf : f ∉ fs) (n : Naming) (ms : Members (Option String)) :
    f.value? n (besides fs ms) = f.value? n ms :=
  spelled?_filter (fun _ hk => not_any_goesBy hf (Field.goesBy_of_spells hk)) ms

theorem besides_mapValues {α β : Type} (g : α → β) (ms : Members α) :
    besides fs (ms.mapValues g) = (besides fs ms).mapValues g := by
  unfold besides Members.mapValues
  rw [List.filter_map]
  rfl

namespace Sources.AgreeBut

theorem argument?_eq (h : s.AgreeBut fs t) (hf : f ∉ fs) :
    f.argument? s.arguments = f.argument? t.arguments := by
  rw [← argument?_besides hf, h.arguments, argument?_besides hf]

theorem findSome?_eq (h : s.AgreeBut fs t) (hf : f ∉ fs) (n : Naming) :
    s.variables.findSome? (f.value? n) = t.variables.findSome? (f.value? n) := by
  have henvironment : f.value? n (s.environment.mapValues some) =
      f.value? n (t.environment.mapValues some) := by
    rw [← value?_besides hf, besides_mapValues, h.environment, ← besides_mapValues,
      value?_besides hf]
  have hbindings : f.value? n s.bindings = f.value? n t.bindings := by
    rw [← value?_besides hf, h.bindings, value?_besides hf]
  simp only [Sources.variables, List.findSome?_cons, henvironment, hbindings]

theorem outcome_eq (h : s.AgreeBut fs t) (hf : f ∉ fs) : s.outcome f = t.outcome f := by
  unfold Sources.outcome Sources.winner?
  rw [h.argument?_eq hf, h.findSome?_eq hf, h.findSome?_eq hf]

theorem find_eq (h : s.AgreeBut fs t) (hf : f ∉ fs) (hfavoured : s.favoured f = t.favoured f) :
    find s.plainLayers f = find t.plainLayers f := by
  have hnames : ∀ n, s.arguments.get? (f.called n) = t.arguments.get? (f.called n) := by
    intro n
    rw [← get?_besides hf, h.arguments, get?_besides hf]
  have hreported : s.plainLayers.reported f = t.plainLayers.reported f := by
    have houter : s.arguments.get? f.envName = t.arguments.get? f.envName := hnames .outer
    have hown : s.arguments.get? f.name = t.arguments.get? f.name := hnames .own
    unfold Layers.reported Sources.plainLayers
    dsimp only
    rw [houter, hown, hfavoured]
  rw [find_plainLayers, find_plainLayers, h.argument?_eq hf, h.findSome?_eq hf,
    h.findSome?_eq hf, hreported]

end Sources.AgreeBut

end Independence

section Loading

variable {s : Sources}

def Sources.issue? (s : Sources) (f : Field) : Option Issue :=
  (issuesOf (entry s.plainLayers f)).head?

theorem find_called {f : Field} {place : String} {v : Value}
    (h : find s.plainLayers f = some (place, v)) : ∃ n, place = f.called n := by
  rw [find_plainLayers] at h
  rcases Option.or_eq_some_iff.mp h with h | ⟨-, h⟩
  · obtain ⟨u, -, hu⟩ := Option.map_eq_some_iff.mp h
    cases hu
    exact ⟨_, rfl⟩
  · rcases Option.or_eq_some_iff.mp h with h | ⟨-, h⟩
    · obtain ⟨u, -, hu⟩ := Option.map_eq_some_iff.mp h
      cases hu
      exact ⟨.outer, rfl⟩
    · obtain ⟨u, -, hu⟩ := Option.map_eq_some_iff.mp h
      cases hu
      exact ⟨.own, rfl⟩

theorem entry_eq_outcome (s : Sources) (f : Field) :
    ∃ n, entry s.plainLayers f =
      (s.outcome f).mapError fun cause => ⟨[f.called n], cause⟩ := by
  unfold Sources.outcome entry resolve
  rw [← find_eq_winner?]
  cases hfind : find s.plainLayers f with
  | none => exact ⟨.own, rfl⟩
  | some found =>
    obtain ⟨place, v⟩ := found
    obtain ⟨n, rfl⟩ := find_called hfind
    exact ⟨n, rfl⟩

theorem outcome_of_entry {f : Field} {v : Value} (h : entry s.plainLayers f = .ok v) :
    s.outcome f = .ok v := by
  obtain ⟨n, hn⟩ := entry_eq_outcome s f
  rw [hn] at h
  exact ok_of_mapError h

theorem outcome_of_entry_error {f : Field} {i : Issue} (h : entry s.plainLayers f = .error i) :
    s.outcome f = .error i.cause ∧ ∃ n, i.place = [f.called n] := by
  obtain ⟨n, hn⟩ := entry_eq_outcome s f
  rw [hn] at h
  obtain ⟨cause, hcause, rfl⟩ := error_of_mapError h
  exact ⟨hcause, n, rfl⟩

theorem issue?_cases (s : Sources) (f : Field) :
    (s.issue? f = none ∧ ∃ v, s.outcome f = .ok v) ∨
      ∃ i, s.issue? f = some i ∧ s.outcome f = .error i.cause ∧ ∃ n, i.place = [f.called n] := by
  unfold Sources.issue?
  cases hentry : entry s.plainLayers f with
  | ok v => exact .inl ⟨rfl, v, outcome_of_entry hentry⟩
  | error i => exact .inr ⟨i, rfl, outcome_of_entry_error hentry⟩

theorem flatMap_issuesOf (s : Sources) (fs : List Field) :
    fs.flatMap (fun f => issuesOf (entry s.plainLayers f)) = fs.filterMap s.issue? := by
  induction fs with
  | nil => rfl
  | cons f fs ih =>
    rw [List.flatMap_cons, ih, List.filterMap_cons]
    unfold Sources.issue?
    cases entry s.plainLayers f <;> rfl

theorem load_cases (h : s.Plain) :
    (∃ t, load s = .ok t ∧ ∀ f, s.outcome f = .ok (t.get f)) ∨
      load s = .error (.invalid (Field.all.filterMap s.issue?)) ∧
        ∃ f cause, s.outcome f = .error cause := by
  unfold load
  rw [h.layers]
  dsimp only
  rcases read_cases s.plainLayers with ⟨t, hread, hentries⟩ | ⟨hread, f, i, hentry⟩
  · rw [hread]
    exact .inl ⟨t, rfl, fun f => outcome_of_entry (hentries f)⟩
  · rw [hread, flatMap_issuesOf]
    exact .inr ⟨rfl, f, i.cause, (outcome_of_entry_error hentry).1⟩

theorem outcome_of_load (h : s.Plain) {t : Settings} (hload : load s = .ok t) (f : Field) :
    s.outcome f = .ok (t.get f) := by
  rcases load_cases h with ⟨u, hu, houtcomes⟩ | ⟨herror, -⟩
  · rw [hload] at hu
    rw [Except.ok.inj hu]
    exact houtcomes f
  · cases hload.symm.trans herror

theorem get_eq_of_agreeBut {fs : List Field} {s' : Sources} {t t' : Settings} (h : s.Plain)
    (h' : s'.Plain) (hload : load s = .ok t) (hload' : load s' = .ok t')
    (hagree : s.AgreeBut fs s') {f : Field} (hf : f ∉ fs) : t.get f = t'.get f := by
  have houtcome := hagree.outcome_eq hf
  rw [outcome_of_load h hload, outcome_of_load h' hload'] at houtcome
  exact Except.ok.inj houtcome

/-- Each field is settled by the one value that counts for it. -/
theorem load_resolves (h : s.Plain) :
    (∀ t, load s = .ok t ↔ ∀ f, s.outcome f = .ok (t.get f)) ∧
      ((∃ t, load s = .ok t) ↔ ∀ f, ∃ v, s.outcome f = .ok v) ∧
      (∀ failure, load s = .error failure →
        failure = .invalid (Field.all.filterMap s.issue?)) ∧
      (∀ f, (s.issue? f = none ∧ ∃ v, s.outcome f = .ok v) ∨
        ∃ i, s.issue? f = some i ∧ s.outcome f = .error i.cause ∧ ∃ n, i.place = [f.called n]) ∧
      ∀ fs t, s.AgreeBut fs t → ∀ f, f ∉ fs → s.outcome f = t.outcome f ∧
        (s.favoured f = t.favoured f → s.issue? f = t.issue? f) := by
  have hindependent : ∀ fs t, s.AgreeBut fs t → ∀ f, f ∉ fs → s.outcome f = t.outcome f ∧
      (s.favoured f = t.favoured f → s.issue? f = t.issue? f) := by
    intro fs t hagree f hf
    refine ⟨hagree.outcome_eq hf, fun hfavoured => ?_⟩
    unfold Sources.issue? entry resolve
    rw [hagree.find_eq hf hfavoured]
  -- a faulty field and sound settings exclude each other, so the outcomes tell the two cases apart
  rcases load_cases h with ⟨t, hload, houtcomes⟩ | ⟨hload, f, cause, hfaulty⟩
  · refine ⟨fun u => ⟨?_, ?_⟩, ⟨fun _ f => ⟨_, houtcomes f⟩, fun _ => ⟨t, hload⟩⟩, ?_,
      issue?_cases s, hindependent⟩
    · intro hu
      rw [hload] at hu
      rw [← Except.ok.inj hu]
      exact houtcomes
    · intro hu
      have heq : t = u := ext_get fun f => Except.ok.inj ((houtcomes f).symm.trans (hu f))
      rw [hload, heq]
    · intro failure hfailure
      rw [hload] at hfailure
      cases hfailure
  · have hnot : ¬ ∀ f, ∃ v, s.outcome f = .ok v := by
      intro hall
      obtain ⟨v, hv⟩ := hall f
      rw [hfaulty] at hv
      cases hv
    refine ⟨fun u => ⟨?_, fun hu => absurd (fun f => ⟨_, hu f⟩) hnot⟩,
      ⟨?_, fun hall => absurd hall hnot⟩, ?_, issue?_cases s, hindependent⟩
    · intro hu
      rw [hload] at hu
      cases hu
    · rintro ⟨u, hu⟩
      rw [hload] at hu
      cases hu
    · intro failure hfailure
      rw [hload] at hfailure
      exact (Except.error.inj hfailure).symm

def Sources.mixed : Sources where
  arguments := [("item_loader_table", .text "t")]
  environment := [("BATCH_COUNT", "3"), ("Log_Json", "maybe")]
  file := some "ITEM_LOADER_BATCHES=bad\nLOADER_INTERVAL_S=bad\nItem_Loader_Interval=1.5\n"

theorem load_resolves_mixed :
    Sources.mixed.Plain ∧ Sources.mixed.outcome .table = .ok (.text "t") ∧
      Sources.mixed.outcome .interval = .ok (.float 1.5) ∧ (¬ ∃ t, load .mixed = .ok t) ∧
      ∀ failure, load .mixed = .error failure →
        failure = .invalid
          [⟨["ITEM_LOADER_BATCHES"], .unreadableInt⟩, ⟨["LOG_JSON"], .unreadableBool⟩] := by
  have hplain : Sources.mixed.Plain := by
    intro m hm
    rw [List.mem_singleton.mp hm]
    decide
  have hfaulty : Sources.mixed.outcome .batches = .error .unreadableInt := rfl
  have hresolves := load_resolves hplain
  refine ⟨hplain, rfl, rfl, ?_, hresolves.2.2.1⟩
  rw [hresolves.2.1]
  intro hall
  obtain ⟨v, hv⟩ := hall .batches
  rw [hfaulty] at hv
  cases hv

/-- The value that would count if the sources came before the names. -/
def Sources.sourceFirst? (s : Sources) (f : Field) : Option Value :=
  (f.argument? s.arguments).or
    (s.variables.findSome? fun ms => (f.value? .outer ms).or (f.value? .own ms))

/-- A variable's name in the file comes before the field's own in the environment, and the file may
refer to a variable. -/
theorem load_not_sourceFirst :
    let named : Sources :=
      { environment := [("BATCH_COUNT", "3")], file := some "ITEM_LOADER_BATCHES=bad\n" }
    let referring (table : String) : Sources :=
      { environment := [("ITEM_LOADER_TABLE", table)]
        file := some "AWS_REGION=$\x7bITEM_LOADER_TABLE\x7d\n" }
    (named.sourceFirst? .batches = some (.text "3") ∧
        load named = .error (.invalid [⟨["ITEM_LOADER_BATCHES"], .unreadableInt⟩])) ∧
      load (referring "a") = .ok { region := "a", table := "a" } ∧
        load (referring "b") = .ok { region := "b", table := "b" } :=
  ⟨⟨rfl, rfl⟩, rfl, rfl⟩

end Loading

end Settings

end TableSeeder
