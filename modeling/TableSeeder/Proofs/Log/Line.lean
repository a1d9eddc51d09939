import TableSeeder.Proofs.Json.RoundTrip

/-! The JSON line of a record that was made with extra fields: what is read from it, and whose
values it states. -/

namespace TableSeeder

namespace Value

theorem mem_leavesOfMembers {τ : Type} {leaf : Value τ} {ms : List (τ × Value τ)} :
    leaf ∈ leavesOfMembers ms ↔ ∃ m ∈ ms, leaf ∈ m.2.leaves := by
  induction ms with
  | nil => simp [leavesOfMembers]
  | cons m ms ih =>
    obtain ⟨k, v⟩ := m
    simp [leavesOfMembers, ih]

end Value

namespace Log.Record

def made (logger : Points) (level : Int) (message : Value Points) (args : List (Value Points)) :
    Record where
  level := .text (Level.name level)
  logger := .text logger
  message := message
  arguments := argumentsOf args

/-- The members that are given together under one name. -/
def together (fields : Fields) : Fields :=
  match fields.get? "extra" with
  | some (.object ms) => ms
  | _ => []

def reserved : List String :=
  ["name", "msg", "args", "levelname", "levelno", "pathname", "filename", "module", "exc_info",
    "exc_text", "stack_info", "lineno", "funcName", "created", "msecs", "relativeCreated",
    "thread", "threadName", "processName", "process", "message", "asctime", "extra", "taskName"]

def IsReserved (k : Points) : Prop := ∃ name ∈ reserved, k = name

instance (k : Points) : Decidable (IsReserved k) :=
  inferInstanceAs (Decidable (∃ name ∈ reserved, _))

def plain (fields : Fields) : Fields := fields.filter fun m => ¬ IsReserved m.1

def shown (fields : Fields) : Fields := plain fields ++ together fields

def own {α : Type} (write : Value Points → α) (logger : Points) (level : Int) (message : α) :
    Members α Points :=
  [("level", write (.text (Level.name level))), ("logger", write (.text logger)),
    ("message", message)]

/-- A record that is made with these fields, and whose message is `codes`. -/
structure Made (logger : Points) (level : Int) (message : Value Points)
    (args : List (Value Points)) (fields : Fields) (codes : Points) (r : Record) : Prop where
  distinct : fields.keys.Nodup
  accepted : (made logger level message args).addFields fields = .ok r
  formed : (made logger level message args).text = .ok codes
  reached : ("getMessage" : Points) ∉ fields.keys

section Lines

variable {logger : Points} {level : Int} {message : Value Points} {args : List (Value Points)}
  {fields : Fields} {codes : Points} {r : Record}

theorem hides_eq (k : Points) : hides k = decide (IsReserved k) := by
  rw [Bool.eq_iff_iff, decide_eq_true_iff, hides, List.any_eq_true]
  simp only [decide_eq_true_iff]
  rfl

theorem Made.eq (h : Made logger level message args fields codes r) :
    r = { made logger level message args with attributes := fields } := by
  have haccepted := h.accepted
  unfold addFields at haccepted
  split at haccepted
  · cases haccepted
  · obtain rfl := Except.ok.inj haccepted
    rw [show (made logger level message args).attributes = [] from rfl,
      Members.merge_nil_left h.distinct]

theorem Made.not_refused (h : Made logger level message args fields codes r) {k : Points}
    (hk : k ∈ fields.keys) : refusesField k = false := by
  have haccepted := h.accepted
  unfold addFields at haccepted
  split at haccepted
  · cases haccepted
  · rename_i hnone
    simpa using List.find?_eq_none.mp hnone k hk

theorem Made.text_eq (h : Made logger level message args fields codes r) : r.text = .ok codes := by
  have hnone : fields.get? "getMessage" = none := Members.get?_eq_none.mpr h.reached
  have hformed := h.formed
  rw [h.eq]
  unfold text at hformed ⊢
  dsimp only
  rw [hnone]
  exact hformed

theorem Made.payload_eq {α : Type} (h : Made logger level message args fields codes r)
    (write : Value Points → α) (m : α) :
    r.payload write m [] = (own write logger level m).merge
      (((plain fields).mapValues write).merge ((together fields).mapValues write)) := by
  have hplain : r.shownFields = plain fields := by
    rw [h.eq]
    exact List.filter_congr fun m _ => by rw [hides_eq, decide_not]
  rw [payload, hplain, h.eq, ← Members.mapValues_merge]
  rfl

theorem Made.jsonLine_eq (h : Made logger level message args fields codes r) :
    r.jsonLine =
      .ok (String.ofList (Json.object (r.payload Json.write (Json.text codes) []))) := by
  have hreport : r.attachment.fields = .ok [] := by
    rw [h.eq]
    rfl
  rw [jsonLine, h.text_eq, hreport]

theorem nodup_keys_own {α : Type} (write : Value Points → α) (logger : Points) (level : Int)
    (m : α) : (own write logger level m).keys.Nodup := by
  show [("level" : Points), "logger", "message"].Nodup
  decide

theorem Made.nodup_keys_plain {α : Type} (h : Made logger level message args fields codes r)
    (write : Value Points → α) : ((plain fields).mapValues write).keys.Nodup := by
  rw [Members.keys_mapValues]
  exact h.distinct.sublist (List.filter_sublist.map _)

theorem Made.keys_payload (h : Made logger level message args fields codes r) (m : Value Points) :
    (r.payload id m []).keys = (own id logger level m ++ shown fields).keys.eraseDups := by
  rw [h.payload_eq, Members.keys_merge (nodup_keys_own ..),
    Members.keys_merge (h.nodup_keys_plain id), eraseDups_append_eraseDups]
  simp [shown, Members.keys, Members.mapValues]

theorem Made.get?_payload {α : Type} (h : Made logger level message args fields codes r)
    (write : Value Points → α) (m : α) (k : Points) :
    (r.payload write m []).get? k =
      Members.last? (· = k) (own write logger level m ++ (shown fields).mapValues write) := by
  have hshown : (shown fields).mapValues write =
      (plain fields).mapValues write ++ (together fields).mapValues write := List.map_append
  rw [h.payload_eq, Members.get?_merge,
    Members.last?_of_nodup (Members.nodup_keys_merge (h.nodup_keys_plain write) _),
    Members.get?_merge, hshown, Members.last?_append, Members.last?_append,
    Members.last?_of_nodup (nodup_keys_own ..), Members.last?_of_nodup (h.nodup_keys_plain write)]

theorem Made.mem_payload (h : Made logger level message args fields codes r) {v : Value Points}
    {m : Points × Value Points} (hm : m ∈ r.payload id v []) :
    m ∈ own id logger level v ∨ m ∈ fields ∨ m ∈ together fields := by
  rw [h.payload_eq, Members.mapValues_id, Members.mapValues_id] at hm
  refine (Members.mem_merge hm).imp_right fun hm => (Members.mem_merge hm).imp_left fun hm => ?_
  exact (List.mem_filter.mp hm).1

theorem Made.legible (h : Made logger level message args fields codes r)
    (hlegible : ∀ leaf ∈ Value.leavesOfMembers fields, leaf.Legible) :
    ∀ leaf ∈ (Value.object (r.payload id (.text codes) [])).leaves, leaf.Legible := by
  intro leaf hleaf
  obtain ⟨m, hm, hleaf⟩ := Value.mem_leavesOfMembers.mp hleaf
  -- the record says of itself nothing but texts
  rcases h.mem_payload hm with hown | hfield | htogether
  · have htexts : ∀ m ∈ own id logger level (.text codes), ∀ leaf ∈ m.2.leaves, leaf.Legible := by
      simp [own, Value.leaves, Value.Legible]
    exact htexts m hown leaf hleaf
  · exact hlegible leaf (Value.mem_leavesOfMembers.mpr ⟨m, hfield, hleaf⟩)
  · unfold together at htogether
    split at htogether
    · rename_i ms hms
      exact hlegible leaf (Value.mem_leavesOfMembers.mpr ⟨_, Members.mem_of_get? hms,
        Value.mem_leavesOfMembers.mpr ⟨m, htogether, hleaf⟩⟩)
    · cases htogether

theorem Made.writes (h : Made logger level message args fields codes r)
    (hlegible : ∀ leaf ∈ Value.leavesOfMembers fields, leaf.Legible) :
    Json.Writes (Json.object (r.payload Json.write (Json.text codes) []))
      (Json.Tree.ofValue (.object (r.payload id (.text codes) []))).joined := by
  have hwrite : (r.payload id (.text codes) []).mapValues Json.write =
      r.payload Json.write (Json.text codes) [] := by
    rw [payload, payload, Members.mapValues_id, Members.mapValues_merge]
    rfl
  rw [← hwrite, ← Json.write_object]
  exact Json.writes_value _ (h.legible hlegible)

/-- What is read from the line of a record are its level, logger and message and the shown fields,
each name where it came first and with the value that came last. Pairs of surrogates, wherever they
stand, are read as the code points that they stand for. -/
theorem jsonLine_reads (h : Made logger level message args fields codes r)
    (hlegible : ∀ leaf ∈ Value.leavesOfMembers fields, leaf.Legible) :
    let given := own id logger level (.text codes) ++ shown fields
    ∃ (line : String) (ms : Fields), r.jsonLine = .ok line ∧ (∀ c ∈ line.toList, Json.Printable c) ∧
      Json.read line.toList = some (Json.Tree.ofValue (.object ms)).joined ∧
      ((Json.Tree.ofValue (.object ms)).Apart →
        Json.read line.toList = some (.ofValue (.object ms))) ∧
      ms.keys = given.keys.eraseDups ∧ (∀ k, ms.get? k = Members.last? (· = k) given) ∧
      ∀ k ∈ ms.keys, IsReserved k → k ≠ "message" → k ∈ (together fields).keys := by
  intro given
  have hwrites := h.writes hlegible
  have hkeys := h.keys_payload (.text codes)
  have hread : Json.read (String.ofList (Json.object
      (r.payload Json.write (Json.text codes) []))).toList =
        some (Json.Tree.ofValue (.object (r.payload id (.text codes) []))).joined := by
    rw [String.toList_ofList]
    exact hwrites.read
  refine ⟨_, _, h.jsonLine_eq, ?_, hread, fun hapart => ?_, hkeys, fun k => ?_, ?_⟩
  · rw [String.toList_ofList]
    exact hwrites.printable
  · rw [hread, hapart.joined_eq]
  · have hget := h.get?_payload id (.text codes) k
    rwa [Members.mapValues_id] at hget
  · intro k hk hreserved hmessage
    rw [hkeys, List.mem_eraseDups, Members.keys, List.map_append, shown, List.map_append,
      List.mem_append, List.mem_append] at hk
    -- of the record's own names only the message is reserved, and of the plain fields none is
    rcases hk with hown | hplain | htogether
    · have hown' : ∀ k ∈ [("level" : Points), "logger", "message"], IsReserved k →
          k = "message" := by
        decide
      exact absurd (hown' k hown hreserved) hmessage
    · obtain ⟨m, hm, rfl⟩ := List.mem_map.mp hplain
      have hopen := (List.mem_filter.mp hm).2
      exact absurd hreserved (of_decide_eq_true hopen)
    · exact htogether

theorem jsonLine_reads_crowded :
    let fields : Fields :=
      [("level", .text "x"), ("rows", .list [.null, .bool true, .int (-5)]),
        ("extra", .object [("args", .int 1), ("logger", .text "é\n")])]
    ∃ (r : Record) (line : String) (ms : Fields), Made "n" 20 (.text "m") [] fields "m" r ∧
      (∀ leaf ∈ Value.leavesOfMembers fields, leaf.Legible) ∧ r.jsonLine = .ok line ∧
      Json.read line.toList = some (Json.Tree.ofValue (.object ms)).joined ∧
      ms.keys = ["level", "logger", "message", "rows", "args"] ∧
      ms.get? "logger" = some (.text "é\n") := by
  intro fields
  obtain ⟨r, hmade⟩ : ∃ r, Made "n" 20 (.text "m") [] fields "m" r :=
    ⟨_, by decide, rfl, rfl, by decide⟩
  have hlegible : ∀ leaf ∈ Value.leavesOfMembers fields, leaf.Legible := by decide
  obtain ⟨line, ms, hline, -, hread, -, hkeys, hget, -⟩ := jsonLine_reads hmade hlegible
  exact ⟨r, line, ms, hmade, hlegible, hline, hread, hkeys.trans (by decide), hget "logger"⟩

/-- A field can make the message unreachable, and a pair of surrogates is read as one code point in
the message, in a field and in the name of one. -/
theorem jsonLine_not_exact :
    (∃ r, (made "n" 20 (.text "m") []).addFields [("getMessage", .int 1)] = .ok r ∧
      r.jsonLine = .error (.notCallable "int")) ∧
    let pair : Points := [.surrogate 0x3d, .surrogate 0x600]
    ∃ (r : Record) (line : String),
      (made "n" 20 (.text pair) []).addFields [(pair, .text pair)] = .ok r ∧
      pair.numbers = [0xd83d, 0xde00] ∧ r.text = .ok pair ∧ r.jsonLine = .ok line ∧
      Json.read line.toList = some (.object
        [(Points.numbers "level", .text (Points.numbers "INFO")),
          (Points.numbers "logger", .text (Points.numbers "n")),
          (Points.numbers "message", .text [0x1f600]), ([0x1f600], .text [0x1f600])]) := by
  refine ⟨⟨_, rfl, rfl⟩, ?_⟩
  intro pair
  obtain ⟨r, hmade⟩ : ∃ r, Made "n" 20 (.text pair) [] [(pair, .text pair)] pair r :=
    ⟨_, by decide, rfl, rfl, by decide⟩
  have hread := (hmade.writes (by decide)).read
  have hpayload : r.payload id (.text pair) [] = ([("level", .text "INFO"),
      ("logger", .text "n"), ("message", .text pair), (pair, .text pair)] : Fields) := by
    rw [hmade.eq]
    rfl
  rw [hpayload] at hread
  refine ⟨r, _, hmade.accepted, rfl, hmade.text_eq, hmade.jsonLine_eq, ?_⟩
  rw [String.toList_ofList]
  exact hread

/-- The line states of its record what it should unless a shown field has the same name; then it is
the last such field that counts. Only a field that is given together with others can be called
`message`. -/
theorem jsonLine_states (h : Made logger level message args fields codes r) :
    ∃ ms : Members (List Char) Points, r.jsonLine = .ok (String.ofList (Json.object ms)) ∧
      ("message" : Points) ∉ (plain fields).keys ∧
      ∀ k v, (k, v) ∈ own Json.write logger level (Json.text codes) →
        (∀ w, Members.last? (· = k) (shown fields) = some w → ms.get? k = some (Json.write w)) ∧
        (ms.get? k = some v ↔
          ∀ w, Members.last? (· = k) (shown fields) = some w → Json.write w = v) := by
  refine ⟨_, h.jsonLine_eq, fun hmem => ?_, fun k v hv => ?_⟩
  · obtain ⟨m, hm, hname⟩ := List.mem_map.mp hmem
    have hfield : ("message" : Points) ∈ fields.keys :=
      hname ▸ List.mem_map_of_mem (List.mem_filter.mp hm).1
    cases h.not_refused hfield
  · have hget := h.get?_payload Json.write (Json.text codes) k
    -- the three own names differ, so each is found with its own value
    have hown : (own Json.write logger level (Json.text codes)).get? k = some v := by
      simp only [own, List.mem_cons, Prod.mk.injEq, List.not_mem_nil, or_false] at hv
      rcases hv with ⟨rfl, rfl⟩ | ⟨rfl, rfl⟩ | ⟨rfl, rfl⟩ <;> rfl
    rw [Members.last?_append, Members.last?_mapValues, Members.last?_of_nodup (nodup_keys_own ..),
      hown] at hget
    rw [hget]
    cases Members.last? (· = k) (shown fields) with
    | none => simp
    | some w => simp

theorem jsonLine_states_apart :
    let fields : Fields := [("table", .text "t"), ("extra", .object [("rows", .float 1.5)])]
    ∃ (r : Record) (ms : Members (List Char) Points),
      Made "n" 30 (.text "%d rows") [.int 3] fields "3 rows" r ∧
      r.jsonLine = .ok (String.ofList (Json.object ms)) ∧
      ms.get? "level" = some (Json.write (.text ("WARNING" : Points))) ∧
      ms.get? "logger" = some (Json.write (.text ("n" : Points))) ∧
      ms.get? "message" = some (Json.text "3 rows") := by
  intro fields
  have htext : (made "n" 30 (.text "%d rows") [.int 3]).text = .ok "3 rows" :=
    ok_of_toOption (by decide +kernel)
  obtain ⟨r, hmade⟩ : ∃ r, Made "n" 30 (.text "%d rows") [.int 3] fields "3 rows" r :=
    ⟨_, by decide, rfl, htext, by decide⟩
  obtain ⟨ms, hline, -, hstates⟩ := jsonLine_states hmade
  have hapart : ∀ k ∈ [("level" : Points), "logger", "message"], k ∉ (shown fields).keys := by
    decide
  have hown {k : Points} {v : List Char}
      (hv : (k, v) ∈ own Json.write "n" 30 (Json.text "3 rows"))
      (hk : k ∈ [("level" : Points), "logger", "message"]) : ms.get? k = some v := by
    rw [(hstates k v hv).2, Members.last?_eq_none (hapart k hk)]
    exact nofun
  refine ⟨r, ms, hmade, hline, hown ?_ (by decide), hown ?_ (by decide), hown ?_ (by decide)⟩
  · exact List.mem_cons_self
  · exact List.mem_cons_of_mem _ List.mem_cons_self
  · exact List.mem_cons_of_mem _ (List.mem_cons_of_mem _ List.mem_cons_self)

/-- Fields take the place of the level and of the message. -/
theorem jsonLine_misstates :
    (∃ r, (made "n" 20 (.text "m") []).addFields [("level", .text "x")] = .ok r ∧
      r.jsonLine = .ok "\x7b\"level\": \"x\", \"logger\": \"n\", \"message\": \"m\"\x7d") ∧
    ∃ r, (made "n" 20 (.text "m") []).addFields
        [("extra", .object [("message", .text "x")])] = .ok r ∧
      r.jsonLine = .ok "\x7b\"level\": \"INFO\", \"logger\": \"n\", \"message\": \"x\"\x7d" :=
  ⟨⟨_, rfl, rfl⟩, ⟨_, rfl, rfl⟩⟩

end Lines

end Log.Record

end TableSeeder
