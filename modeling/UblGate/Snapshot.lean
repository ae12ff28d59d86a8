import Mathlib.Data.List.Sort
import UblGate.Advisor
import UblGate.BTreeMap
import UblGate.EventHub
import UblGate.Receipt

/-!
# Advisor snapshots and the console KPIs

`build_advisor_snapshot` asks the event store for the events of a window and sums them up in
one loop: it counts them by stage, by decision and by error code, collects their latencies
by stage, and keeps every event with a latency as an outlier candidate.  It then takes the
95th percentile of the latencies of each stage, the five slowest candidates and the five
newest events.  `GET /v1/advisor/snapshots` returns the frame; the KPI panel of the console
reads its totals back out of it.

The counters are `BTreeMap`s updated by `entry(k).or_default()`, so the loop is a fold of
`accumulate` over the events, one per accumulator (`foldl_tally`), and `foldl_accumulate`
says what each map holds.  From it:

* `buildAdvisorSnapshot_counts`: each counter maps exactly the keys some event has, in
  order, each to the number of events that have it;
* `buildAdvisorSnapshot_p95`: the 95th percentile never indexes out of its list, so the
  snapshot fails only when the clock or the store fails, and each stage's value is the
  latency at the percentile's index among the latencies of that stage, sorted;
* `consoleKpisPartial_totals`: the KPI panel shows as its total the number of events of the
  window that have a stage, capped at `u64::MAX`, and as its allowed and denied counts the
  numbers of events of each decision.

The `f64` arithmetic of the snapshot is that of `F64`; nothing is assumed of it.
-/

namespace UblGate

/-- What a page handler of the console answers: the data of its template, or a JSON error with
its status. -/
inductive PageAnswer (T : Type) where
  | page (view : T)
  | error (status : Nat) (body : Json)

namespace Snapshot

open BTreeMap

/-! ### The loop over the events -/

/-- The `f64` operations of the snapshot, on `f64`s held as their bits: `Value::as_f64` of a
number, `a.partial_cmp(b) == Some(Less)`, and `format!("{:.2}", v)`.  A JSON number is
finite, so `partial_cmp` never answers `None` on these. -/
structure F64 where
  ofNumber : Number → Nat
  lt : Nat → Nat → Bool
  format2 : Nat → String

/-- What the snapshot reads of the clock, `chrono::Utc::now()`: the instant in milliseconds and
as RFC 3339 text, and the instant a window (in nanoseconds) before it, in milliseconds, or
the error `chrono` answers when the window is out of its range. -/
structure Clock where
  nowMillis : Int
  nowRfc3339 : String
  sinceMillis : Nat → Except String Int

/-- `Value::as_f64`. -/
def asF64 (f64 : F64) : Json → Option Nat
  | .number n => some (f64.ofNumber n)
  | _ => none

/-- `event.get(outer).and_then(|v| v.get(k))`. -/
def nested (event : Json) (outer k : String) : Option Json :=
  (event.get outer).bind fun v => v.get k

/-- The stage of an event, as the counters read it. -/
def eventStage (event : Json) : Option String :=
  event.getStr "stage"

/-- The decision of an event's receipt. -/
def eventDecision (event : Json) : Option String :=
  (nested event "receipt" "decision").bind Json.asStr

/-- The error code of an event's receipt. -/
def eventCode (event : Json) : Option String :=
  (nested event "receipt" "code").bind Json.asStr

/-- The latency of an event, `perf.latency_ms` as an `f64`. -/
def eventLatency (f64 : F64) (event : Json) : Option Nat :=
  (nested event "perf" "latency_ms").bind (asF64 f64)

/-- `*map.entry(key).or_default() += 1`, for an event that has the key. -/
def countInto (key : Option String) (m : List (String × Nat)) : List (String × Nat) :=
  match key with
  | some k => upsert k 0 (· + 1) m
  | none => m

/-- The outlier candidate of an event with latency `lat`. -/
def outlierRow (event : Json) (lat : Nat) : Json :=
  .object [("receipt_cid", (nested event "receipt" "cid").getD .null),
    ("stage", (event.get "stage").getD .null), ("chip_type", (nested event "chip" "type").getD .null),
    ("latency_ms", .number (.float lat))]

/-- The accumulators of the loop of `build_advisor_snapshot`. -/
structure Tally where
  byStage : List (String × Nat)
  byDecision : List (String × Nat)
  byCode : List (String × Nat)
  latStage : List (String × List Nat)
  outliers : List (Nat × Json)

/-- The accumulators before the loop. -/
def Tally.empty : Tally :=
  ⟨[], [], [], [], []⟩

/-- One turn of the loop: the four `if let`s of its body. -/
def tallyEvent (f64 : F64) (t : Tally) (event : Json) : Tally :=
  { byStage := countInto (eventStage event) t.byStage
    byDecision := countInto (eventDecision event) t.byDecision
    byCode := countInto (eventCode event) t.byCode
    latStage :=
      match eventLatency f64 event with
      | some lat => upsert ((eventStage event).getD "UNKNOWN") [] (· ++ [lat]) t.latStage
      | none => t.latStage
    outliers :=
      match eventLatency f64 event with
      | some lat => t.outliers ++ [(lat, outlierRow event lat)]
      | none => t.outliers }

/-! ### The frame -/

/-- `((n - 1) as f64 * 0.95).round() as usize`: `(n - 1) · 19 / 20` rounded half up.  The
`f64` product of an `n - 1` below `2 ^ 50` is within half an ulp of `(n - 1) · 0.95`, whose
fractional part is a multiple of `0.05`, so `round` lands where the exact rounding does. -/
def p95Index (n : Nat) : Nat :=
  ((n - 1) * 19 + 10) / 20

/-- `vals.sort_by(|a, b| a.partial_cmp(b).unwrap_or(Equal))`, a stable sort, as insertion
sort. -/
def sortAsc (f64 : F64) (vals : List Nat) : List Nat :=
  vals.insertionSort fun a b => !f64.lt b a

/-- The loop that fills `p95_by_stage`; `vals[idx]` out of range panics. -/
def p95Rows (f64 : F64) : List (String × List Nat) → Except String (List (String × Json))
  | [] => .ok []
  | (stage, vals) :: rest =>
    match (sortAsc f64 vals).get? (p95Index vals.length) with
    | none => .error "index out of bounds"
    | some v => (p95Rows f64 rest).map ((stage, .number (.float v)) :: ·)

/-- `outliers.sort_by(|a, b| b.0.partial_cmp(&a.0).unwrap_or(Equal))`, a stable sort from the
slowest, then the first five. -/
def topOutliers (f64 : F64) (outliers : List (Nat × Json)) : List Json :=
  ((outliers.insertionSort fun a b => !f64.lt a.1 b.1).take 5).map (·.2)

/-- A sample row of an event. -/
def sampleRow (event : Json) : Json :=
  .object [("event_id", (event.get "@id").getD .null), ("when", (event.get "when").getD .null),
    ("stage", (event.get "stage").getD .null), ("chip_type", (nested event "chip" "type").getD .null),
    ("receipt_cid", (nested event "receipt" "cid").getD .null),
    ("decision", (nested event "receipt" "decision").getD .null),
    ("code", (nested event "receipt" "code").getD .null)]

/-- A counter as `json!` writes a `BTreeMap<String, u64>`. -/
def countsJson (m : List (String × Nat)) : Json :=
  .object (m.map fun x => (x.1, .number (.posInt x.2)))

/-- The `EventQuery` of the snapshot. -/
def snapshotQuery (world : Option String) (since : Int) (limit : Nat) : EventStreamQuery :=
  ⟨world, none, none, none, none, none, some (toString since), some limit⟩

/-- The frame of a snapshot: what the loop `t` made of the `events` of the window, and the
95th percentiles `p95`. -/
def advisorFrame (f64 : F64) (clock : Clock) (outboxPending : Option Nat) (world : Option String)
    (window : Nat) (events : List Json) (t : Tally) (p95 : List (String × Json)) : Json :=
  .object [("@type", .string "ubl/advisor.tap.frame"), ("@ver", .string "1.0.0"),
    ("@id", .string ("adv-" ++ toString clock.nowMillis)), ("@world", .string (world.getD "*")),
    ("generated_at", .string clock.nowRfc3339),
    ("window_ms", .number (.posInt (window / 1000000 % 18446744073709551616))),
    ("counts", .object [("stage", countsJson t.byStage), ("decision", countsJson t.byDecision),
      ("code", countsJson t.byCode)]),
    ("latency_ms_p95_by_stage", .object p95), ("top_outliers", .array (topOutliers f64 t.outliers)),
    ("samples", .array ((events.reverse.take 5).map sampleRow)),
    ("outbox", .object [("pending", Json.ofOptNat outboxPending), ("retries", .null)])]

/-- `build_advisor_snapshot`: the frame, or the error it returns; the outer error is a panic.
`outboxPending` is what the durable store's `outbox_pending` answers, when there is one. -/
def buildAdvisorSnapshot (f64 : F64) (clock : Clock)
    (store : EventStreamQuery → Except String (List Json)) (outboxPending : Option Nat)
    (world : Option String) (window limit : Nat) : Except String (Except String Json) :=
  match clock.sinceMillis window with
  | .error e => .ok (.error e)
  | .ok since =>
    match store (snapshotQuery world since limit) with
    | .error e => .ok (.error e)
    | .ok events =>
      let t := events.foldl (tallyEvent f64) Tally.empty
      (p95Rows f64 t.latStage).map fun p95 =>
        .ok (advisorFrame f64 clock outboxPending world window events t p95)

/-- `u64::clamp`. -/
def clamp (x lo hi : Nat) : Nat :=
  min (max x lo) hi

/-- `advisor_snapshots` with the query's `world`, `window` and `limit`: the status and the body;
the error is a panic. -/
def advisorSnapshots (f64 : F64) (clock : Clock)
    (eventStore : Option (EventStreamQuery → Except String (List Json)))
    (outboxPending : Option Nat) (world window : Option String) (limit : Option Nat) :
    Except String (Nat × Json) :=
  match eventStore with
  | none => .ok (503, errorBody "UNAVAILABLE" "Advisor snapshot unavailable: enable EventStore")
  | some store => do
    let window ← advisorWindow window
    let frame ← buildAdvisorSnapshot f64 clock store outboxPending world window
      (clamp (limit.getD 10000) 100 50000)
    match frame with
    | .ok frame =>
      return (200, .object [("@type", .string "ubl/advisor.snapshot"),
        ("window_ms", .number (.posInt (window / 1000000 % 18446744073709551616))),
        ("snapshot", frame)])
    | .error e =>
      return (500, errorBody "INTERNAL_ERROR" ("advisor snapshot failed: " ++ e))

/-! ### The console KPIs -/

/-- `u64::saturating_add`. -/
def saturatingAdd (a b : Nat) : Nat :=
  min (a + b) 18446744073709551615

/-- `Value::as_i64`. -/
def asI64 : Json → Option Int
  | .number (.posInt n) => if n ≤ 9223372036854775807 then some n else none
  | .number (.negInt i) => some i
  | _ => none

/-- `split_rows`: the first `keep` rows and the rest. -/
def splitRows {α : Type} (rows : List α) (keep : Nat) : List α × List α :=
  let split := min rows.length keep
  (rows.take split, rows.drop split)

/-- The two parts of `split_rows` are the rows in order, the first of at most `keep` rows and
the second empty unless the first has `keep`. -/
theorem splitRows_spec {α : Type} (rows : List α) (keep : Nat) :
  (splitRows rows keep).1 ++ (splitRows rows keep).2 = rows ∧
    (splitRows rows keep).1.length ≤ keep ∧
    ((splitRows rows keep).2 ≠ [] → (splitRows rows keep).1.length = keep)
  := by
  refine ⟨List.take_append_drop _ _, by simp [splitRows], fun hrest => ?_⟩
  have hlong : min rows.length keep < rows.length := by
    simpa [splitRows, List.length_drop, Nat.sub_eq_zero_iff_le] using hrest
  simp only [splitRows, List.length_take]
  omega

/-- `ConsoleKpisTemplate`, what the KPI panel renders; a p95 row is a stage and its
latency. -/
structure KpisView where
  available : Bool
  message : String
  generatedAt : String
  totalEvents : Nat
  allowCount : Nat
  denyCount : Nat
  outboxPending : String
  visibleP95Rows : List (String × String)
  hiddenP95Rows : List (String × String)

/-- The panel when no snapshot could be taken. -/
def KpisView.unavailable (message : String) : KpisView :=
  ⟨false, message, "-", 0, 0, 0, "-", [], []⟩

/-- A decision count of the snapshot. -/
def decisionCount (snapshot : Json) (decision : String) : Nat :=
  ((((snapshot.get "counts").bind (·.get "decision")).bind (·.get decision)).bind
    Json.asU64).getD 0

/-- The sum of the stage counters of a snapshot, saturating. -/
def stageTotal (snapshot : Json) : Nat :=
  match ((snapshot.get "counts").bind (·.get "stage")).bind Json.asObject with
  | some fields => fields.foldl (fun total x => saturatingAdd total (x.2.asU64.getD 0)) 0
  | none => 0

/-- What the panel reads of a snapshot. -/
def kpisOf (f64 : F64) (snapshot : Json) : KpisView :=
  let outboxPending :=
    ((((snapshot.get "outbox").bind (·.get "pending")).bind asI64).map toString).getD "-"
  let p95Rows : List (String × String) :=
    match (snapshot.get "latency_ms_p95_by_stage").bind Json.asObject with
    | some fields => fields.map fun x => (x.1, ((asF64 f64 x.2).map f64.format2).getD "-")
    | none => []
  let p95Rows := p95Rows.insertionSort fun a b => !Json.keyLt b.1 a.1
  ⟨true, "", (snapshot.getStr "generated_at").getD "-", stageTotal snapshot,
    decisionCount snapshot "ALLOW", decisionCount snapshot "DENY", outboxPending,
    (splitRows p95Rows 6).1, (splitRows p95Rows 6).2⟩

@[simp]
theorem kpisOf_totalEvents (f64 : F64) (snapshot : Json) :
  (kpisOf f64 snapshot).totalEvents = stageTotal snapshot
  := rfl

/-- The `world` query parameter of the console panels: none when blank or `*`. -/
def worldFilter (world : Option String) : Option String :=
  world.filter fun w => !(Str.trim w).isEmpty && w != "*"

/-- `console_kpis_partial` with the query's `world`: the panel; the error is a panic. -/
def consoleKpisPartial (f64 : F64) (clock : Clock)
    (eventStore : Option (EventStreamQuery → Except String (List Json)))
    (outboxPending : Option Nat) (world : Option String) : Except String KpisView :=
  match eventStore with
  | none => .ok (KpisView.unavailable "EventStore unavailable")
  | some store =>
    (buildAdvisorSnapshot f64 clock store outboxPending (worldFilter world) (Duration.fromSecs 300)
      5000).map fun snapshot =>
      match snapshot with
      | .error e => KpisView.unavailable ("Snapshot error: " ++ e)
      | .ok snapshot => kpisOf f64 snapshot

/-! ### What the loop computes -/

/-- The key of a counter, as `accumulate` reads it. -/
def keyed (key : Json → Option String) (event : Json) : Option (String × Unit) :=
  (key event).map fun k => (k, ())

/-- The stage and latency of an event with a latency, as `accumulate` reads them; an event
without a stage counts as `UNKNOWN`. -/
def latencyKeyed (f64 : F64) (event : Json) : Option (String × Nat) :=
  (eventLatency f64 event).map fun lat => ((eventStage event).getD "UNKNOWN", lat)

/-- The latencies of the events of stage `s`, in the order of the events. -/
def latenciesAt (f64 : F64) (events : List Json) (s : String) : List Nat :=
  valuesAt (latencyKeyed f64) events s

/-- The loop is one fold of `accumulate` per map. -/
theorem foldl_tally (f64 : F64) (events : List Json) (t : Tally) :
  (events.foldl (tallyEvent f64) t).byStage =
      events.foldl (accumulate (keyed eventStage) 0 fun n _ => n + 1) t.byStage ∧
    (events.foldl (tallyEvent f64) t).byDecision =
      events.foldl (accumulate (keyed eventDecision) 0 fun n _ => n + 1) t.byDecision ∧
    (events.foldl (tallyEvent f64) t).byCode =
      events.foldl (accumulate (keyed eventCode) 0 fun n _ => n + 1) t.byCode ∧
    (events.foldl (tallyEvent f64) t).latStage =
      events.foldl (accumulate (latencyKeyed f64) [] fun v lat => v ++ [lat]) t.latStage
  := by
  have hcount (key : Json → Option String) (m : List (String × Nat)) (event : Json) :
      accumulate (keyed key) 0 (fun n _ => n + 1) m event = countInto (key event) m := by
    unfold accumulate keyed countInto
    cases key event <;> rfl
  refine ⟨(List.foldl_hom _ _ _ events t fun t e => hcount eventStage t.byStage e).symm,
    (List.foldl_hom _ _ _ events t fun t e => hcount eventDecision t.byDecision e).symm,
    (List.foldl_hom _ _ _ events t fun t e => hcount eventCode t.byCode e).symm,
    (List.foldl_hom _ _ _ events t fun t e => ?_).symm⟩
  show _ = (tallyEvent f64 t e).latStage
  unfold accumulate latencyKeyed tallyEvent
  cases eventLatency f64 e <;> rfl

theorem foldl_succ (vs : List Unit) (n : Nat) :
  vs.foldl (fun n _ => n + 1) n = n + vs.length
  := by
  induction vs generalizing n with
  | nil => rfl
  | cons v vs ih => rw [List.foldl_cons, ih, List.length_cons]; omega

theorem foldl_append_singleton {α : Type} (vs acc : List α) :
  vs.foldl (fun acc v => acc ++ [v]) acc = acc ++ vs
  := by
  induction vs generalizing acc with
  | nil => simp
  | cons v vs ih => simp [ih]

theorem length_valuesAt_keyed (key : Json → Option String) (events : List Json) (s : String) :
  (valuesAt (keyed key) events s).length = events.countP (key · == some s)
  := by
  rw [valuesAt, List.length_filterMap_eq_countP]
  refine List.countP_congr fun e _ => ?_
  unfold keyed
  cases key e <;> simp

/-- A counter of the loop: its keys in order, each key some event has mapped to the number of
events that have it, and no other key. -/
structure CountsOf (key : Json → Option String) (events : List Json) (m : List (String × Nat)) :
    Prop where
  sorted : KeysSorted m
  lookup : ∀ s, m.lookup s =
    if events.countP (key · == some s) = 0 then none else some (events.countP (key · == some s))

theorem countsOf_foldl (key : Json → Option String) (events : List Json) :
  CountsOf key events (events.foldl (accumulate (keyed key) 0 fun n _ => n + 1) [])
  := by
  have h := foldl_accumulate (keyed key) 0 (fun n _ => n + 1) (m := []) List.Pairwise.nil events
  refine ⟨h.1, fun s => ?_⟩
  simp only [h.2 s, foldl_succ, ← length_valuesAt_keyed, List.isEmpty_iff, List.length_eq_zero,
    List.lookup_nil, Option.getD_none, Nat.zero_add]

/-- The latencies by stage of the loop: in order, exactly the stages of the events with a
latency, each with the latencies of its events. -/
theorem latStage_foldl (f64 : F64) (events : List Json) :
  KeysSorted (events.foldl (tallyEvent f64) Tally.empty).latStage ∧
    ∀ s, (events.foldl (tallyEvent f64) Tally.empty).latStage.lookup s =
      if (latenciesAt f64 events s).isEmpty then none else some (latenciesAt f64 events s)
  := by
  rw [(foldl_tally f64 events Tally.empty).2.2.2]
  simp only [Tally.empty]
  have h := foldl_accumulate (latencyKeyed f64) [] (fun v lat => v ++ [lat]) (m := [])
    List.Pairwise.nil events
  refine ⟨h.1, fun s => ?_⟩
  rw [h.2 s, foldl_append_singleton]
  rfl

theorem p95Index_lt {n : Nat} (h : 0 < n) : p95Index n < n
  := by
  unfold p95Index
  omega

/-- The 95th percentiles of a map of nonempty lists: no index is out of range, and each key
gets the value at `p95Index` of its list sorted. -/
theorem p95Rows_eq_ok (f64 : F64) {m : List (String × List Nat)} (hm : ∀ x ∈ m, x.2 ≠ []) :
  ∃ rows, p95Rows f64 m = .ok rows ∧ rows.map Prod.fst = m.map Prod.fst ∧
    ∀ s, rows.lookup s = (m.lookup s).bind fun vals =>
      ((sortAsc f64 vals).get? (p95Index vals.length)).map fun v => .number (.float v)
  := by
  induction m with
  | nil => exact ⟨[], rfl, rfl, fun s => rfl⟩
  | cons x m ih =>
    obtain ⟨stage, vals⟩ := x
    obtain ⟨rows, hrows, hkeys, hlookup⟩ := ih fun y hy => hm y (List.mem_cons_of_mem _ hy)
    have hlt : p95Index vals.length < (sortAsc f64 vals).length := by
      rw [sortAsc, List.length_insertionSort]
      exact p95Index_lt (List.length_pos.mpr (hm _ (List.mem_cons_self _ _)))
    have hv := List.get?_eq_get hlt
    refine ⟨(stage, .number (.float _)) :: rows, by rw [p95Rows, hv, hrows]; rfl,
      by rw [List.map_cons, List.map_cons, hkeys], fun s => ?_⟩
    by_cases hs : s = stage
    · subst hs
      rw [lookup_cons_self, lookup_cons_self, Option.some_bind, hv, Option.map_some']
    · rw [lookup_cons_of_ne hs, lookup_cons_of_ne hs, hlookup]

section

variable (f64 : F64) (clock : Clock) (store : EventStreamQuery → Except String (List Json))
  (outboxPending : Option Nat) (world : Option String) (window limit : Nat)

/-- When the clock and the store answer, the snapshot is taken: the frame of the events the
store answers, with the 95th percentiles of their latencies. -/
theorem buildAdvisorSnapshot_eq_ok {since : Int} {events : List Json}
    (hsince : clock.sinceMillis window = .ok since)
    (hstore : store (snapshotQuery world since limit) = .ok events) :
  ∃ p95, p95Rows f64 (events.foldl (tallyEvent f64) Tally.empty).latStage = .ok p95 ∧
    p95.map Prod.fst = (events.foldl (tallyEvent f64) Tally.empty).latStage.map Prod.fst ∧
    (∀ s, p95.lookup s = ((sortAsc f64 (latenciesAt f64 events s)).get?
      (p95Index (latenciesAt f64 events s).length)).map fun v => .number (.float v)) ∧
    buildAdvisorSnapshot f64 clock store outboxPending world window limit =
      .ok (.ok (advisorFrame f64 clock outboxPending world window events
        (events.foldl (tallyEvent f64) Tally.empty) p95))
  := by
  obtain ⟨hsorted, hlat⟩ := latStage_foldl f64 events
  have hne : ∀ x ∈ (events.foldl (tallyEvent f64) Tally.empty).latStage, x.2 ≠ [] := by
    intro x hx
    have h := hlat x.1
    rw [lookup_of_mem_of_keysSorted hsorted hx] at h
    by_cases hempty : (latenciesAt f64 events x.1).isEmpty
    · rw [if_pos hempty] at h
      cases h
    · rw [if_neg hempty, Option.some.injEq] at h
      exact h ▸ fun hnil => hempty (List.isEmpty_iff.mpr hnil)
  obtain ⟨p95, hp95, hkeys, hlookup⟩ := p95Rows_eq_ok f64 hne
  refine ⟨p95, hp95, hkeys, fun s => ?_, by simp only [buildAdvisorSnapshot, hsince, hstore, hp95]; rfl⟩
  rw [hlookup, hlat s]
  by_cases hempty : (latenciesAt f64 events s).isEmpty
  · rw [if_pos hempty, List.isEmpty_iff.mp hempty]
    rfl
  · rw [if_neg hempty]
    rfl

/-- When the clock and the store answer, the snapshot is taken, and each of its counters maps
exactly the keys some event of the window has, in order, each to the number of events that
have it. -/
theorem buildAdvisorSnapshot_counts {since : Int} {events : List Json}
    (hsince : clock.sinceMillis window = .ok since)
    (hstore : store (snapshotQuery world since limit) = .ok events) :
  ∃ frame byStage byDecision byCode,
    buildAdvisorSnapshot f64 clock store outboxPending world window limit = .ok (.ok frame) ∧
    frame.get "counts" = some (.object [("stage", countsJson byStage),
      ("decision", countsJson byDecision), ("code", countsJson byCode)]) ∧
    CountsOf eventStage events byStage ∧ CountsOf eventDecision events byDecision ∧
    CountsOf eventCode events byCode
  := by
  obtain ⟨p95, -, -, -, hbuild⟩ :=
    buildAdvisorSnapshot_eq_ok f64 clock store outboxPending world window limit hsince hstore
  obtain ⟨hs, hd, hc, -⟩ := foldl_tally f64 events Tally.empty
  exact ⟨_, _, _, _, hbuild, rfl, hs ▸ countsOf_foldl eventStage events,
    hd ▸ countsOf_foldl eventDecision events, hc ▸ countsOf_foldl eventCode events⟩

/-- `f64`s for the samples: a number is its integer value, compared as numbers. -/
def sampleF64 : F64 :=
  ⟨fun n => match n with | .posInt n => n | _ => 0, fun a b => decide (a < b), toString⟩

/-- A clock whose window always starts at the epoch. -/
def sampleClock : Clock :=
  ⟨0, "1970-01-01T00:00:00+00:00", fun _ => .ok 0⟩

/-- An event of stage `stage` whose receipt has `decision`, with latency `lat`. -/
def sampleEvent (stage decision : String) (lat : Nat) : Json :=
  .object [("stage", .string stage), ("receipt", .object [("decision", .string decision)]),
    ("perf", .object [("latency_ms", .number (.posInt lat))])]

/-- An event store answering two events of the `WF` stage, one allowed and one denied. -/
def sampleStore (_ : EventStreamQuery) : Except String (List Json) :=
  .ok [sampleEvent "WF" "ALLOW" 12, sampleEvent "WF" "DENY" 30]

theorem buildAdvisorSnapshot_counts_sample :
  sampleClock.sinceMillis 300 = .ok 0 ∧
    sampleStore (snapshotQuery none 0 5000) =
      .ok [sampleEvent "WF" "ALLOW" 12, sampleEvent "WF" "DENY" 30] ∧
    ∃ frame byStage byDecision byCode,
      buildAdvisorSnapshot sampleF64 sampleClock sampleStore none none 300 5000 = .ok (.ok frame) ∧
      frame.get "counts" = some (.object [("stage", countsJson byStage),
        ("decision", countsJson byDecision), ("code", countsJson byCode)]) ∧
      CountsOf eventStage [sampleEvent "WF" "ALLOW" 12, sampleEvent "WF" "DENY" 30] byStage ∧
      CountsOf eventDecision [sampleEvent "WF" "ALLOW" 12, sampleEvent "WF" "DENY" 30] byDecision ∧
      CountsOf eventCode [sampleEvent "WF" "ALLOW" 12, sampleEvent "WF" "DENY" 30] byCode
  := ⟨rfl, rfl, buildAdvisorSnapshot_counts sampleF64 sampleClock sampleStore none none 300 5000 rfl rfl⟩

/-- When the clock and the store answer, the snapshot is taken: the 95th percentile never
indexes out of its list.  Its `latency_ms_p95_by_stage` holds, in order, the stages of the
events with a latency, each with the latency at index `p95Index` of that stage's latencies
sorted. -/
theorem buildAdvisorSnapshot_p95 {since : Int} {events : List Json}
    (hsince : clock.sinceMillis window = .ok since)
    (hstore : store (snapshotQuery world since limit) = .ok events) :
  ∃ frame rows,
    buildAdvisorSnapshot f64 clock store outboxPending world window limit = .ok (.ok frame) ∧
    frame.get "latency_ms_p95_by_stage" = some (.object rows) ∧ KeysSorted rows ∧
    ∀ s, rows.lookup s = ((sortAsc f64 (latenciesAt f64 events s)).get?
      (p95Index (latenciesAt f64 events s).length)).map fun v => .number (.float v)
  := by
  obtain ⟨p95, -, hkeys, hlookup, hbuild⟩ :=
    buildAdvisorSnapshot_eq_ok f64 clock store outboxPending world window limit hsince hstore
  have hsorted : (p95.map Prod.fst).Pairwise (· < ·) :=
    hkeys ▸ List.pairwise_map.mpr (latStage_foldl f64 events).1
  exact ⟨_, p95, hbuild, rfl, List.pairwise_map.mp hsorted, hlookup⟩

theorem buildAdvisorSnapshot_p95_sample :
  sampleClock.sinceMillis 300 = .ok 0 ∧
    sampleStore (snapshotQuery none 0 5000) =
      .ok [sampleEvent "WF" "ALLOW" 12, sampleEvent "WF" "DENY" 30] ∧
    ∃ frame rows,
      buildAdvisorSnapshot sampleF64 sampleClock sampleStore none none 300 5000 = .ok (.ok frame) ∧
      frame.get "latency_ms_p95_by_stage" = some (.object rows) ∧ KeysSorted rows ∧
      ∀ s, rows.lookup s = ((sortAsc sampleF64
        (latenciesAt sampleF64 [sampleEvent "WF" "ALLOW" 12, sampleEvent "WF" "DENY" 30] s)).get?
        (p95Index (latenciesAt sampleF64
          [sampleEvent "WF" "ALLOW" 12, sampleEvent "WF" "DENY" 30] s).length)).map
        fun v => .number (.float v)
  := ⟨rfl, rfl, buildAdvisorSnapshot_p95 sampleF64 sampleClock sampleStore none none 300 5000 rfl rfl⟩

end

/-! ### The KPI panel -/

/-- The sum of the counters of a map. -/
def countTotal (m : List (String × Nat)) : Nat :=
  m.foldr (fun x total => x.2 + total) 0

theorem countTotal_upsert_succ {k : String} (m : List (String × Nat)) :
  countTotal (upsert k 0 (· + 1) m) = countTotal m + 1
  := by
  induction m with
  | nil => rfl
  | cons x m ih =>
    obtain ⟨k', v⟩ := x
    unfold upsert
    split_ifs <;> simp only [countTotal, List.foldr_cons] at ih ⊢ <;> omega

/-- The counters of the loop add up to the number of events that have the key. -/
theorem countTotal_foldl_counts (key : Json → Option String) (events : List Json)
    (m : List (String × Nat)) :
  countTotal (events.foldl (accumulate (keyed key) 0 fun n _ => n + 1) m) =
    countTotal m + events.countP fun e => (key e).isSome
  := by
  induction events generalizing m with
  | nil => rfl
  | cons e events ih =>
    rw [List.foldl_cons, ih, List.countP_cons]
    cases he : key e with
    | none =>
      rw [accumulate_of_none (keyed key) 0 _ (by rw [keyed, he]; rfl)]
      simp
    | some k =>
      rw [accumulate_of_some (keyed key) 0 _ (by rw [keyed, he]; rfl), countTotal_upsert_succ]
      simp only [Option.isSome_some, if_true]
      omega

theorem foldl_saturatingAdd {α : Type} (f : α → Nat) (l : List α) {a : Nat}
    (ha : a ≤ 18446744073709551615) :
  l.foldl (fun total x => saturatingAdd total (f x)) a =
    min (a + l.foldr (fun x total => f x + total) 0) 18446744073709551615
  := by
  induction l generalizing a with
  | nil => simp [ha]
  | cons x l ih =>
    rw [List.foldl_cons, ih (a := saturatingAdd a (f x)) (min_le_right _ _), List.foldr_cons,
      saturatingAdd]
    omega

theorem stageTotal_advisorFrame (f64 : F64) (clock : Clock) (outboxPending : Option Nat)
    (world : Option String) (window : Nat) (events : List Json) (t : Tally)
    (p95 : List (String × Json)) :
  stageTotal (advisorFrame f64 clock outboxPending world window events t p95) =
    min (countTotal t.byStage) 18446744073709551615
  := by
  show (t.byStage.map fun x => (x.1, Json.number (.posInt x.2))).foldl
    (fun total x => saturatingAdd total (x.2.asU64.getD 0)) 0 = _
  rw [List.foldl_map, ← Nat.zero_add (countTotal t.byStage)]
  exact foldl_saturatingAdd (fun x : String × Nat => x.2) _ (Nat.zero_le _)

/-- A counter of the snapshot as the panel reads one of its keys: the number of events with
that key. -/
theorem countsOf_get {key : Json → Option String} {events : List Json}
    {m : List (String × Nat)} (h : CountsOf key events m) (s : String) :
  ((((countsJson m).get s).bind Json.asU64).getD 0) = events.countP (key · == some s)
  := by
  show (((m.map fun x => (x.1, Json.number (.posInt x.2))).lookup s).bind Json.asU64).getD 0 = _
  rw [lookup_map_snd (fun n => Json.number (.posInt n)), h.lookup s]
  by_cases hc : events.countP (key · == some s) = 0
  · rw [if_pos hc, hc]
    rfl
  · rw [if_neg hc]
    rfl

section

variable (f64 : F64) (clock : Clock) (store : EventStreamQuery → Except String (List Json))
  (outboxPending : Option Nat) (world : Option String)

/-- When the clock and the store answer, the KPI panel shows as its total the number of events
of the window that have a stage, capped at `u64::MAX`, and as its allowed and denied counts
the numbers of events whose receipt has that decision. -/
theorem consoleKpisPartial_totals {since : Int} {events : List Json}
    (hsince : clock.sinceMillis (Duration.fromSecs 300) = .ok since)
    (hstore : store (snapshotQuery (worldFilter world) since 5000) = .ok events) :
  ∃ view, consoleKpisPartial f64 clock (some store) outboxPending world = .ok view ∧
    view.available = true ∧
    view.totalEvents = min (events.countP fun e => (eventStage e).isSome) 18446744073709551615 ∧
    view.allowCount = events.countP (eventDecision · == some "ALLOW") ∧
    view.denyCount = events.countP (eventDecision · == some "DENY")
  := by
  obtain ⟨p95, -, -, -, hbuild⟩ := buildAdvisorSnapshot_eq_ok f64 clock store outboxPending
    (worldFilter world) (Duration.fromSecs 300) 5000 hsince hstore
  obtain ⟨hs, hd, -, -⟩ := foldl_tally f64 events Tally.empty
  have hdecision := hd ▸ countsOf_foldl eventDecision events
  have hkpis : consoleKpisPartial f64 clock (some store) outboxPending world =
      .ok (kpisOf f64 (advisorFrame f64 clock outboxPending (worldFilter world)
        (Duration.fromSecs 300) events (events.foldl (tallyEvent f64) Tally.empty) p95)) := by
    rw [consoleKpisPartial, hbuild]
    rfl
  refine ⟨_, hkpis, rfl, ?_, countsOf_get hdecision "ALLOW", countsOf_get hdecision "DENY"⟩
  rw [kpisOf_totalEvents, stageTotal_advisorFrame, hs, countTotal_foldl_counts]
  exact congrArg (min · 18446744073709551615) (Nat.zero_add _)

theorem consoleKpisPartial_totals_sample :
  sampleClock.sinceMillis (Duration.fromSecs 300) = .ok 0 ∧
    sampleStore (snapshotQuery (worldFilter none) 0 5000) =
      .ok [sampleEvent "WF" "ALLOW" 12, sampleEvent "WF" "DENY" 30] ∧
    ∃ view, consoleKpisPartial sampleF64 sampleClock (some sampleStore) none none = .ok view ∧
      view.available = true ∧
      view.totalEvents = min ([sampleEvent "WF" "ALLOW" 12, sampleEvent "WF" "DENY" 30].countP
        fun e => (eventStage e).isSome) 18446744073709551615 ∧
      view.allowCount = [sampleEvent "WF" "ALLOW" 12, sampleEvent "WF" "DENY" 30].countP
        (eventDecision · == some "ALLOW") ∧
      view.denyCount = [sampleEvent "WF" "ALLOW" 12, sampleEvent "WF" "DENY" 30].countP
        (eventDecision · == some "DENY")
  := ⟨rfl, rfl, consoleKpisPartial_totals sampleF64 sampleClock sampleStore none none rfl rfl⟩

end

end Snapshot

end UblGate
