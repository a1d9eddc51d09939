import TableSeeder.Proofs.Load.History

/-! The books of a load: the counters, the lines on the console, the writes and the log records
agree with one another and with the script, however the load ends. -/

namespace TableSeeder

namespace Event

def isRecord (message : String) (level : Int) : Event → Bool
  | .log e => e.message = message && e.level = level
  | _ => false

def logged? : Event → Option Log.Entry
  | .log e => some e
  | _ => none

def isAccepted : Event → Bool := isRecord "Write accepted" 10

def isRejected : Event → Bool := isRecord "Write rejected" 10

def isAborted : Event → Bool := isRecord "Load aborted" 40

end Event

def lastLogged? (es : List Event) : Option Log.Entry := (es.filterMap Event.logged?).getLast?

theorem lastLogged?_append_log (es : List Event) (e : Log.Entry) :
    lastLogged? (es ++ [.log e]) = some e := by
  rw [lastLogged?, List.filterMap_append]
  exact List.getLast?_concat

/-- The console lines that a write follows at once. -/
def progressLines : List Event → List String
  | .out line :: .put _ _ :: es => line :: progressLines es
  | _ :: es => progressLines es
  | [] => []

namespace Load

inductive Point where
  | draw
  | write
  | pause
  deriving DecidableEq

def Course.stop? : Course → Option (Point × Failure)
  | undrawn f => some (.draw, f)
  | broken _ f => some (.write, f)
  | settled _ _ (some f) => some (.pause, f)
  | settled _ _ none => none

theorem Course.failure?_eq (c : Course) : c.failure? = c.stop?.map Prod.snd := by
  cases c with
  | settled id j pause => cases pause <;> rfl
  | _ => rfl

theorem Course.pause_of_stop {id : Except Failure String} {write pause : Option Failure}
    (h : (Course.of id write pause).stop? = none) : pause = none := by
  cases pause with
  | none => rfl
  | some g =>
    cases id with
    | error f => cases h
    | ok id =>
      cases write with
      | none => cases h
      | some f => cases f <;> cases h

namespace Point

def writes : Point → Nat
  | draw => 0
  | _ => 1

def records : Point → Nat
  | pause => 1
  | _ => 0

end Point

/-- What a stretch of a load amounts to. -/
@[ext] structure Books where
  lines : List String := []
  writes : Nat := 0
  accepted : Nat := 0
  rejected : Nat := 0
  aborted : Nat := 0

namespace Books

instance : Add Books where
  add a b := ⟨a.lines ++ b.lines, a.writes + b.writes, a.accepted + b.accepted,
    a.rejected + b.rejected, a.aborted + b.aborted⟩

theorem empty_add (b : Books) : {} + b = b :=
  Books.ext (List.nil_append b.lines) (Nat.zero_add b.writes) (Nat.zero_add b.accepted)
    (Nat.zero_add b.rejected) (Nat.zero_add b.aborted)

theorem add_empty (b : Books) : b + {} = b := Books.ext (List.append_nil b.lines) rfl rfl rfl rfl

structure Holds (b : Books) (es : List Event) : Prop where
  lines (later : List Event) : progressLines (es ++ later) = b.lines ++ progressLines later
  writes : es.countP Event.isPut = b.writes
  accepted : es.countP Event.isAccepted = b.accepted
  rejected : es.countP Event.isRejected = b.rejected
  aborted : es.countP Event.isAborted = b.aborted

theorem Holds.progressLines_eq {b : Books} {es : List Event} (h : b.Holds es) :
    progressLines es = b.lines := by
  have hlines := h.lines []
  rwa [progressLines, List.append_nil, List.append_nil] at hlines

theorem Holds.append {a b : Books} {es es' : List Event} (h : a.Holds es) (h' : b.Holds es') :
    (a + b).Holds (es ++ es') where
  lines later := by
    rw [List.append_assoc, h.lines, h'.lines, ← List.append_assoc]
    rfl
  writes := by
    rw [List.countP_append, h.writes, h'.writes]
    rfl
  accepted := by
    rw [List.countP_append, h.accepted, h'.accepted]
    rfl
  rejected := by
    rw [List.countP_append, h.rejected, h'.rejected]
    rfl
  aborted := by
    rw [List.countP_append, h.aborted, h'.aborted]
    rfl

theorem started_holds (table : String) (n : Nat) (interval : Interval) :
    ({} : Books).Holds [.log (started table n interval)] := ⟨fun _ => rfl, rfl, rfl, rfl, rfl⟩

end Books

def progressTo (k : Nat) : List String :=
  (List.range k).map fun i => echoed (progressLine (i + 1))

theorem progressTo_succ (k : Nat) :
    progressTo (k + 1) = progressTo k ++ [echoed (progressLine (k + 1))] := by
  rw [progressTo, List.range_succ, List.map_append]
  rfl

namespace Course

def accepted : Course → Nat
  | settled _ none _ => 1
  | _ => 0

def rejected : Course → Nat
  | settled _ (some _) _ => 1
  | _ => 0

end Course

namespace Round

def books (r : Round) : Books where
  lines :=
    match r.course with
    | .undrawn _ => []
    | _ => [echoed (progressLine r.number)]
  writes := r.course.writes
  accepted := r.course.accepted
  rejected := r.course.rejected

theorem books_holds (table : String) (interval : Interval) (r : Round) :
    r.books.Holds (r.events .scripted table interval) := by
  unfold books events
  cases r.course with
  | undrawn f => exact ⟨fun _ => rfl, rfl, rfl, rfl, rfl⟩
  | broken id f => exact ⟨fun _ => rfl, rfl, rfl, rfl, rfl⟩
  | settled id j pause => cases j <;> exact ⟨fun _ => rfl, rfl, rfl, rfl, rfl⟩

theorem count_eq (r : Round) (t : Tally) :
    r.count t = ⟨t.attempted + r.books.writes, t.succeeded + r.books.accepted,
      t.failed + r.books.rejected⟩ := by
  unfold count books
  cases r.course with
  | undrawn f => rfl
  | broken id f => rfl
  | settled id j pause => cases j <;> rfl

theorem books_of_stop {r : Round} {p : Point} {f : Failure} (h : r.course.stop? = some (p, f)) :
    r.books.lines = List.replicate p.writes (echoed (progressLine r.number)) ∧
      r.books.writes = p.writes ∧ r.books.accepted + r.books.rejected = p.records := by
  unfold books
  cases hc : r.course with
  | undrawn g =>
    rw [hc] at h
    cases h
    exact ⟨rfl, rfl, rfl⟩
  | broken id g =>
    rw [hc] at h
    cases h
    exact ⟨rfl, rfl, rfl⟩
  | settled id j pause =>
    rw [hc] at h
    cases pause with
    | none => cases h
    | some g =>
      cases h
      cases j <;> exact ⟨rfl, rfl, rfl⟩

end Round

section Settled

variable {interval : Interval} {w : World} {k : Nat}

def settledBooks (w : World) (k : Nat) : Books where
  lines := progressTo k
  writes := k
  accepted := w.acceptances k
  rejected := w.rejections k

theorem books_round (h : (round .scripted interval 0 w k).course.stop? = none) :
    (round .scripted interval 0 w k).books =
      ⟨[echoed (progressLine (k + 1))], 1,
        (!(w.script.write (w.writes + k)).isRejection).toNat,
        (w.script.write (w.writes + k)).isRejection.toNat, 0⟩ := by
  unfold Round.books round at *
  dsimp only [Manner.scripted] at *
  rw [Nat.zero_add]
  cases hid : w.script.id (w.ids + k) with
  | error f =>
    rw [hid] at h
    cases h
  | ok id =>
    rw [hid] at h
    rw [Reply.isRejection]
    generalize (w.script.write (w.writes + k)).failure = failure at h ⊢
    cases failure with
    | none => rfl
    | some f =>
      cases f with
      | rejected j => rfl
      | _ => cases h

theorem settledBooks_succ (h : (round .scripted interval 0 w k).course.stop? = none) :
    settledBooks w k + (round .scripted interval 0 w k).books = settledBooks w (k + 1) := by
  rw [books_round h]
  unfold settledBooks
  rw [progressTo_succ, World.acceptances_succ, World.rejections_succ]
  rfl

theorem settledBooks_holds (table : String)
    (h : ∀ i < k, (round .scripted interval 0 w i).course.stop? = none) :
    (settledBooks w k).Holds
        ((rounds .scripted interval 0 w k).flatMap (Round.events .scripted table interval)) ∧
      (rounds .scripted interval 0 w k).foldl Round.count {} =
        ⟨k, (settledBooks w k).accepted, (settledBooks w k).rejected⟩ := by
  induction k with
  | zero => exact ⟨⟨fun _ => rfl, rfl, rfl, rfl, rfl⟩, rfl⟩
  | succ k ih =>
    obtain ⟨hbooks, hcount⟩ := ih fun i hi => h i (Nat.lt_succ_of_lt hi)
    have hk := h k (Nat.lt_succ_self k)
    have hrounds : rounds .scripted interval 0 w (k + 1) =
        rounds .scripted interval 0 w k ++ [round .scripted interval 0 w k] := by
      rw [rounds, List.range_succ, List.map_append]
      rfl
    rw [hrounds, List.flatMap_append, List.flatMap_singleton, List.foldl_append, hcount,
      List.foldl_cons, List.foldl_nil, Round.count_eq, ← settledBooks_succ hk]
    refine ⟨hbooks.append (Round.books_holds table interval _), ?_⟩
    rw [books_round hk]
    rfl

theorem clockAfter_round {seconds : Float} (hs : interval.seconds? = some seconds)
    (h : (round .scripted interval 0 w k).course.stop? = none) (clock : Float) :
    (round .scripted interval 0 w k).clockAfter interval clock =
      clock + (w.script.write (w.writes + k)).cost + seconds := by
  have hfailure : (round .scripted interval 0 w k).course.failure? = none := by
    rw [Course.failure?_eq, h]
    rfl
  obtain ⟨id, j, hc⟩ := Course.eq_settled hfailure
  rw [Round.clockAfter, hc, hs]
  rfl

theorem clock_rounds {seconds : Float} (hs : interval.seconds? = some seconds)
    (h : ∀ i < k, (round .scripted interval 0 w i).course.stop? = none) (clock : Float) :
    (rounds .scripted interval 0 w k).foldl (Round.clockAfter interval) clock =
      (List.range k).foldl
        (fun clock i => clock + (w.script.write (w.writes + i)).cost + seconds) clock := by
  induction k with
  | zero => rfl
  | succ k ih =>
    have hk := ih fun i hi => h i (Nat.lt_succ_of_lt hi)
    rw [rounds] at hk ⊢
    rw [List.range_succ, List.map_append, List.foldl_append, List.foldl_append, hk]
    exact clockAfter_round hs (h k (Nat.lt_succ_self k)) _

theorem seconds_of_settled (h : (round .scripted interval 0 w k).course.stop? = none) :
    ∃ seconds, interval.seconds? = some seconds := by
  have hpause := Course.pause_of_stop h
  unfold Script.pauseFailure? at hpause
  cases hi : interval.seconds? with
  | some seconds => exact ⟨seconds, rfl⟩
  | none =>
    rw [hi] at hpause
    cases hs : w.script.sleep (w.sleeps + k) <;> rw [hs] at hpause <;> cases hpause

end Settled

end Load

namespace Loader
open Load

theorem trace_reached (l : Loader) (m : Manner) (interval : Interval) (w : World) (n : Nat)
    (e : Log.Entry) :
    ((l.reached m interval w n).emit (.log e)).trace.toList =
      w.trace.toList ++ ([.log (started l.table n interval)] ++
        (made m interval w n).flatMap (Round.events m l.table interval) ++ [.log e]) := by
  rw [World.trace_emit, reached, trace_effects, World.trace_emit, List.append_assoc,
    List.append_assoc, List.append_assoc]

theorem fresh_of_run_eq_ok {l : Loader} {n : Int} {interval : Interval} {w : World} {s : Summary}
    (h : (l.run n interval w).1 = .ok s) :
    l.phase = .notStarted ∧ 1 ≤ n ∧ interval.isNegative = false := by
  cases ha : badArgument? n interval with
  | some a =>
    rw [run_of_badArgument ha] at h
    cases h
  | none =>
    obtain ⟨hn, hi⟩ := badArgument?_eq_none.mp ha
    rw [run_of_goodArguments ha] at h
    by_cases hl : l.phase = .notStarted
    · exact ⟨hl, hn, hi⟩
    · rw [if_pos hl] at h
      cases h

theorem stop?_of_failure? {r : Round} (h : r.failure? = none) : r.course.stop? = none := by
  rw [Round.failure?, Course.failure?_eq] at h
  exact Option.map_eq_none_iff.mp h

section Books

variable (table : String) {interval : Interval} {w : World} {n : Nat}

theorem completed_books
    (h : (rounds .scripted interval 0 w n).findSome? Round.failure? = none) (e : Log.Entry)
    (he : ({} : Books).Holds [.log e]) :
    (∀ k < n, (round .scripted interval 0 w k).course.stop? = none) ∧
      tally .scripted interval w n =
        ⟨n, (settledBooks w n).accepted, (settledBooks w n).rejected⟩ ∧
      (settledBooks w n).Holds ([.log (started table n interval)] ++
        (made .scripted interval w n).flatMap (Round.events .scripted table interval) ++
          [.log e]) := by
  have hsettled : ∀ k < n, (round .scripted interval 0 w k).course.stop? = none :=
    fun _ hk => stop?_of_failure? (findSome?_range_eq_none h hk)
  obtain ⟨hbooks, htally⟩ := settledBooks_holds table hsettled
  have hmade : made .scripted interval w n = rounds .scripted interval 0 w n :=
    upToFailure_eq_self h
  refine ⟨hsettled, ?_, ?_⟩
  · rw [tally, hmade, htally]
  · rw [hmade]
    have hall := ((Books.started_holds table n interval).append hbooks).append he
    rwa [Books.empty_add, Books.add_empty] at hall

theorem aborted_books {f : Failure}
    (h : (rounds .scripted interval 0 w n).findSome? Round.failure? = some f) :
    ∃ k < n, ∃ point, (∀ i < k, (round .scripted interval 0 w i).course.stop? = none) ∧
      (round .scripted interval 0 w k).course.stop? = some (point, f) ∧
      (tally .scripted interval w n).attempted = k + point.writes ∧
      ∃ b : Books,
        b.lines = progressTo (k + point.writes) ∧
        b.writes = k + point.writes ∧ b.accepted + b.rejected = k + point.records ∧
        b.aborted = 0 ∧
        b.Holds ([.log (started table n interval)] ++
          (made .scripted interval w n).flatMap (Round.events .scripted table interval)) := by
  obtain ⟨k, hk, hbefore, hfail, hup⟩ := exists_upToFailure_range h
  have hsettled : ∀ i < k, (round .scripted interval 0 w i).course.stop? = none :=
    fun i hi => stop?_of_failure? (hbefore i hi)
  obtain ⟨⟨point, g⟩, hstop, rfl⟩ : ∃ p, (round .scripted interval 0 w k).course.stop? = some p ∧
      p.2 = f := by
    rw [Round.failure?, Course.failure?_eq] at hfail
    exact Option.map_eq_some_iff.mp hfail
  have hmade : made .scripted interval w n =
      rounds .scripted interval 0 w k ++ [round .scripted interval 0 w k] := hup
  obtain ⟨hbooks, htally⟩ := settledBooks_holds table hsettled
  obtain ⟨hlines, hwrites, hrecords⟩ := Round.books_of_stop hstop
  -- the settled iterations come first, and the one that breaks off is added to their books
  have hround := Round.books_holds table interval (round .scripted interval 0 w k)
  refine ⟨k, hk, point, hsettled, hstop, ?_,
    settledBooks w k + (round .scripted interval 0 w k).books, ?_, ?_, ?_, rfl, ?_⟩
  · rw [tally, hmade, List.foldl_append, htally, List.foldl_cons, List.foldl_nil, Round.count_eq,
      hwrites]
  · change (settledBooks w k).lines ++ (round .scripted interval 0 w k).books.lines = _
    have hnumber : (round .scripted interval 0 w k).number = k + 1 :=
      congrArg (· + 1) (Nat.zero_add k)
    rw [hlines, hnumber]
    cases point with
    | draw => exact List.append_nil _
    | write => exact (progressTo_succ k).symm
    | pause => exact (progressTo_succ k).symm
  · change k + (round .scripted interval 0 w k).books.writes = _
    rw [hwrites]
  · have hk := w.acceptances_add_rejections k
    change w.acceptances k + _ + (w.rejections k + _) = _
    omega
  · have hall := (Books.started_holds table n interval).append (hbooks.append hround)
    rw [Books.empty_add] at hall
    rwa [hmade, List.flatMap_append, List.flatMap_singleton]

end Books

/-- The accounts of a load that returns: the counters and the events agree with one another and
with the script, and the clock has been moved by each write and each pause in turn. -/
structure Completed (w : World) (n : Int) (interval : Interval) (es : List Event) (s : Summary) :
    Prop where
  attempted : (s.attempted : Int) = n
  lines : progressLines es = progressTo s.attempted
  writes : es.countP Event.isPut = s.attempted
  failed : s.failed = w.rejections s.attempted
  rejected : es.countP Event.isRejected = s.failed
  accepted : es.countP Event.isAccepted = s.succeeded
  total : s.succeeded + s.failed = s.attempted
  duration : ∃ seconds, interval.seconds? = some seconds ∧ s.duration =
    (List.range s.attempted).foldl
      (fun clock k => clock + (w.script.write (w.writes + k)).cost + seconds) w.clock - w.clock
  last : lastLogged? es = some ⟨"item_loader.loader", 20, "Load completed",
    [("attempted", .int s.attempted), ("succeeded", .int s.succeeded), ("failed", .int s.failed),
      ("duration_seconds", .float s.duration)]⟩

/-- The accounts of a load that breaks off: `m` counts its progress lines and its writes, of which
the last has no record if it is the one that failed. -/
structure Aborted (w : World) (table : String) (n : Int) (interval : Interval) (es : List Event)
    (f : Failure) (k m : Nat) (point : Point) : Prop where
  reached : (k : Int) < n
  settled : ∀ i < k, (round .scripted interval 0 w i).course.stop? = none
  stopped : (round .scripted interval 0 w k).course.stop? = some (point, f)
  number : m = if point = .draw then k else k + 1
  lines : progressLines es = progressTo m
  writes : es.countP Event.isPut = m
  records : es.countP Event.isAccepted + es.countP Event.isRejected +
    (if point = .write then 1 else 0) = m
  single : es.countP Event.isAborted = 1
  last : lastLogged? es = some ⟨"item_loader.loader", 40, "Load aborted",
    [("iteration", .int m), ("table", .text table)]⟩

section Accounts

variable (table : String) {interval : Interval} {w : World} {n : Nat}

theorem completed_accounts (phase : Phase)
    (h : (rounds .scripted interval 0 w n).findSome? Round.failure? = none) (hn : 1 ≤ n) :
    let s := Loader.summary ⟨.scripted, table, phase⟩ .scripted interval w n
    Completed w n interval ([.log (started table n interval)] ++
      (made .scripted interval w n).flatMap (Round.events .scripted table interval) ++
        [.log (completed s)]) s := by
  intro s
  obtain ⟨hsettled, htally, hbooks⟩ := completed_books table h (completed s)
    ⟨fun _ => rfl, rfl, rfl, rfl, rfl⟩
  have hattempted : s.attempted = n := congrArg Tally.attempted htally
  have hsucceeded : s.succeeded = (settledBooks w n).accepted := congrArg Tally.succeeded htally
  have hfailed : s.failed = (settledBooks w n).rejected := congrArg Tally.failed htally
  refine ⟨?_, ?_, ?_, ?_, ?_, ?_, ?_, ?_, ?_⟩
  · rw [hattempted]
  · rw [hattempted]
    exact hbooks.progressLines_eq
  · rw [hattempted]
    exact hbooks.writes
  · rw [hattempted]
    exact hfailed
  · rw [hfailed]
    exact hbooks.rejected
  · rw [hsucceeded]
    exact hbooks.accepted
  · rw [hsucceeded, hfailed, hattempted]
    exact w.acceptances_add_rejections n
  · obtain ⟨seconds, hseconds⟩ := seconds_of_settled (hsettled 0 hn)
    refine ⟨seconds, hseconds, ?_⟩
    have hmade : made .scripted interval w n = rounds .scripted interval 0 w n :=
      upToFailure_eq_self h
    have hclock : (Loader.reached ⟨.scripted, table, phase⟩ .scripted interval w n).clock =
        (made .scripted interval w n).foldl (Round.clockAfter interval) w.clock :=
      clock_effects ..
    rw [hattempted, ← clock_rounds hseconds hsettled, ← hmade, ← hclock]
    rfl
  · exact lastLogged?_append_log _ _

theorem aborted_accounts {f : Failure}
    (h : (rounds .scripted interval 0 w n).findSome? Round.failure? = some f) :
    ∃ k m point, Aborted w table n interval ([.log (started table n interval)] ++
      (made .scripted interval w n).flatMap (Round.events .scripted table interval) ++
        [.log (aborted table (tally .scripted interval w n))]) f k m point := by
  obtain ⟨k, hk, point, hsettled, hstop, htally, b, hlines, hwrites, hrecords, hb, hbooks⟩ :=
    aborted_books table h
  have hlast : ({ aborted := 1 } : Books).Holds
      [.log (aborted table (tally .scripted interval w n))] := ⟨fun _ => rfl, rfl, rfl, rfl, rfl⟩
  -- the last entry is the only one that tells of an abortion
  have hall := hbooks.append hlast
  refine ⟨k, k + point.writes, point, ?_, hsettled, hstop, ?_, ?_, ?_, ?_, ?_, ?_⟩
  · exact Int.ofNat_lt.mpr hk
  · cases point <;> rfl
  · rw [hall.progressLines_eq, ← hlines]
    exact List.append_nil _
  · exact hall.writes.trans hwrites
  · rw [hall.accepted, hall.rejected]
    change b.accepted + b.rejected + _ = _
    rw [hrecords]
    cases point <;> rfl
  · rw [hall.aborted]
    change b.aborted + 1 = 1
    rw [hb]
  · rw [lastLogged?_append_log, aborted, htally]
    rfl

end Accounts

theorem run_accounts (table : String) (phase : Phase) (n : Int) (interval : Interval) {w : World}
    (hw : w.script.Logs) :
    let result := Loader.run ⟨.scripted, table, phase⟩ n interval w
    let es := result.2.2.trace.toList.drop w.trace.size
    (∀ s, result.1 = .ok s → Completed w n interval es s) ∧
      (∀ f, result.1 = .error f → phase = .notStarted → 1 ≤ n → interval.isNegative = false →
        ∃ k m point, Aborted w table n interval es f k m point) := by
  intro result es
  -- the run has added its first entry, its rounds, and one entry at the end
  have hes (e : Log.Entry) (h : result.2.2 =
      (Loader.reached ⟨.scripted, table, phase⟩ .scripted interval w n.toNat).emit (.log e)) :
      es = [.log (started table n.toNat interval)] ++
        (made .scripted interval w n.toNat).flatMap (Round.events .scripted table interval) ++
          [.log e] := by
    change result.2.2.trace.toList.drop w.trace.size = _
    rw [h, trace_reached, ← Array.length_toList, List.drop_left]
  constructor
  · intro s hok
    obtain ⟨hphase, hn, hi⟩ := fresh_of_run_eq_ok hok
    have hresult : result = Loader.execute ⟨.scripted, table, phase⟩ n.toNat interval w :=
      run_of_fresh hphase hn hi w
    have hnat : (n.toNat : Int) = n := Int.toNat_of_nonneg (by omega)
    cases hf : (rounds .scripted interval 0 w n.toNat).findSome? Round.failure? with
    | some f =>
      rw [hresult, execute_of_failure Store.scripted_follows hw hf] at hok
      cases hok
    | none =>
      rw [execute_of_none Store.scripted_follows hw hf] at hresult
      rw [hresult] at hok
      obtain rfl := Except.ok.inj hok
      rw [hes _ (congrArg (fun r => r.2.2) hresult)]
      have haccounts := completed_accounts table phase hf (by omega)
      rwa [hnat] at haccounts
  · intro f herror hphase hn hi
    have hresult : result = Loader.execute ⟨.scripted, table, phase⟩ n.toNat interval w :=
      run_of_fresh hphase hn hi w
    have hnat : (n.toNat : Int) = n := Int.toNat_of_nonneg (by omega)
    cases hf : (rounds .scripted interval 0 w n.toNat).findSome? Round.failure? with
    | none =>
      rw [hresult, execute_of_none Store.scripted_follows hw hf] at herror
      cases herror
    | some g =>
      rw [execute_of_failure Store.scripted_follows hw hf] at hresult
      rw [hresult] at herror
      obtain rfl := Except.error.inj herror
      rw [hes _ (congrArg (fun r => r.2.2) hresult)]
      have haccounts := aborted_accounts table hf
      rwa [hnat] at haccounts

/-- With two iterations this load returns; with three it breaks off at the last write. -/
theorem run_accounts_troubled :
    let result n := Loader.run ⟨.scripted, "t", .notStarted⟩ n (.real 0.5) .troubled
    let es n := (result n).2.2.trace.toList.drop World.troubled.trace.size
    World.troubled.script.Logs ∧
      (∀ s, (result 2).1 = .ok s → Completed .troubled 2 (.real 0.5) (es 2) s) ∧
      (∃ s, (result 2).1 = .ok s ∧ s.attempted = 2 ∧ s.failed = 1) ∧
      ∃ k m point,
        Aborted .troubled "t" 3 (.real 0.5) (es 3) (.incident .noCredentials) k m point :=
  ⟨World.troubled_logs, (run_accounts "t" .notStarted 2 (.real 0.5) World.troubled_logs).1,
    ⟨_, rfl, rfl, rfl⟩,
    (run_accounts "t" .notStarted 3 (.real 0.5) World.troubled_logs).2 _ rfl rfl (by decide) rfl⟩

end Loader

end TableSeeder
