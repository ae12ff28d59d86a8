import UblGate.Snapshot

/-!
# Listings: audit artifacts and the event search

`GET /v1/audit/{reports,snapshots,compactions}` and the audit table of the console list the
audit chips of one kind, optionally of one world; `GET /v1/events/search` pages through the
event store.  Both hand their filters to a store and shape its answer.

An audit kind names a chip type, and an unknown kind is read as `reports`: normalizing a kind
first never changes the chip type it names (`auditChipTypeForKind_normalizeAuditKind`), so the
table, which normalizes, lists the chips of the kind it shows.  Each listing asks the chip store
for at least one and at most 500 rows (`auditQuery_limit`), so on a chip store that honours its
queries a listing shows chips of the type of the kind it names, no more than the limit
(`listAuditKindJson_rows`, `auditTablePartial_rows`).  A page of the search is the store's
answer filtered by its `to` bound, in the store's order, and its `next_page_key` is the time of
its last event; a bound written in milliseconds is read as that time (`searchEvents_page`).
The event panel of the console shows the twenty events the store answers for its world,
newest first.
-/

namespace UblGate

namespace Listings

/-! ### Audit artifacts -/

/-- `normalize_audit_kind`. -/
def normalizeAuditKind (kind : String) : String :=
  match kind with
  | "reports" => "reports"
  | "snapshots" => "snapshots"
  | "compactions" => "compactions"
  | _ => "reports"

/-- `audit_chip_type_for_kind`. -/
def auditChipTypeForKind (kind : String) : String :=
  match kind with
  | "reports" => "ubl/audit.dataset.v1"
  | "snapshots" => "ubl/audit.snapshot.manifest.v1"
  | "compactions" => "ubl/ledger.compaction.rollup.v1"
  | _ => "ubl/audit.dataset.v1"

/-- `audit_summary`. -/
def auditSummary (chipData : Json) (kind : String) : String :=
  let number (v : Option Json) : String := toString ((v.bind Json.asU64).getD 0)
  let text (v : Option Json) (default : String) : String := (v.bind Json.asStr).getD default
  match kind with
  | "reports" =>
    "lines=" ++ number (chipData.get "line_count") ++ " format=" ++
      text (chipData.get "format") "ndjson"
  | "snapshots" =>
    "segments=" ++ number (Snapshot.nested chipData "coverage" "segments") ++ " dataset=" ++
      text (Snapshot.nested chipData "artifacts" "dataset") "-"
  | "compactions" =>
    "freed_bytes=" ++ number (chipData.get "freed_bytes") ++ " mode=" ++
      text (chipData.get "mode") "-"
  | _ => "-"

/-- `AuditRow`. -/
structure AuditRow where
  cid : String
  chipType : String
  world : String
  createdAt : String
  summary : String

/-- The `ChipQuery` of `query_audit_rows`. -/
def auditQuery (kind : String) (world : Option String) (limit : Nat) : ChipQuery :=
  ⟨some (auditChipTypeForKind kind), (world.map ("world:" ++ ·)).toList, some limit⟩

/-- `query_audit_rows`. -/
def queryAuditRows (store : ChipStore) (kind : String) (world : Option String) (limit : Nat) :
    Except String (List AuditRow) :=
  (store.query (auditQuery kind world limit)).map fun result =>
    result.chips.map fun chip =>
      ⟨chip.cid, chip.chipType, (chip.chipData.getStr "@world").getD "-", chip.createdAt,
        auditSummary chip.chipData kind⟩

/-- A row as the JSON listing writes it. -/
def auditRowJson (row : AuditRow) : Json :=
  .object [("cid", .string row.cid), ("chip_type", .string row.chipType),
    ("world", .string row.world), ("created_at", .string row.createdAt),
    ("summary", .string row.summary)]

/-- The limit of a JSON listing: the query's, 100 by default, clamped to `1..=500`. -/
def auditLimit (limit : Option Nat) : Nat :=
  Snapshot.clamp (limit.getD 100) 1 500

/-- `list_audit_kind_json` with the query's `world` and `limit`: the status and the body. -/
def listAuditKindJson (state : AppState) (kind : String) (world : Option String)
    (limit : Option Nat) : Nat × Json :=
  match queryAuditRows state.chipStore kind (Snapshot.worldFilter world) (auditLimit limit) with
  | .ok rows =>
    (200, .object [("@type", .string "ubl/audit.list"), ("kind", .string (normalizeAuditKind kind)),
      ("count", .number (.posInt rows.length)), ("rows", .array (rows.map auditRowJson))])
  | .error e => (500, errorBody "INTERNAL_ERROR" ("audit list failed: " ++ e))

/-- `list_audit_reports`. -/
def listAuditReports (state : AppState) (world : Option String) (limit : Option Nat) : Nat × Json :=
  listAuditKindJson state "reports" world limit

/-- `list_audit_snapshots`. -/
def listAuditSnapshots (state : AppState) (world : Option String) (limit : Option Nat) :
    Nat × Json :=
  listAuditKindJson state "snapshots" world limit

/-- `list_audit_compactions`. -/
def listAuditCompactions (state : AppState) (world : Option String) (limit : Option Nat) :
    Nat × Json :=
  listAuditKindJson state "compactions" world limit

/-- `AuditTableTemplate`. -/
structure AuditTable where
  kind : String
  visibleRows : List AuditRow
  hiddenRows : List AuditRow

/-- `audit_table_partial` with the query's `world` and `kind`. -/
def auditTablePartial (state : AppState) (world kind : Option String) : PageAnswer AuditTable :=
  let kind := normalizeAuditKind (kind.getD "reports")
  match queryAuditRows state.chipStore kind (Snapshot.worldFilter world) 100 with
  | .error e => .error 500 (errorBody "INTERNAL_ERROR" ("audit table query failed: " ++ e))
  | .ok rows => .page ⟨kind, (Snapshot.splitRows rows 6).1, (Snapshot.splitRows rows 6).2⟩

/-- A kind is one of the three kinds once normalized, and normalizing it again changes
nothing. -/
theorem normalizeAuditKind_cases (kind : String) :
  (normalizeAuditKind kind = "reports" ∨ normalizeAuditKind kind = "snapshots" ∨
      normalizeAuditKind kind = "compactions") ∧
    normalizeAuditKind (normalizeAuditKind kind) = normalizeAuditKind kind
  := by
  unfold normalizeAuditKind
  split <;> decide

/-- Normalizing a kind never changes the chip type it names: an unknown kind names the chip
type of `reports`, which is what it normalizes to. -/
theorem auditChipTypeForKind_normalizeAuditKind (kind : String) :
  auditChipTypeForKind (normalizeAuditKind kind) = auditChipTypeForKind kind
  := by
  unfold normalizeAuditKind
  split
  · rfl
  · rfl
  · rfl
  · next hr hs hc =>
    unfold auditChipTypeForKind
    split <;> simp_all

/-- Every audit listing asks the chip store for at least one and at most 500 rows, and for 100
when the query gives no limit. -/
theorem auditQuery_limit (limit : Option Nat) :
  1 ≤ auditLimit limit ∧ auditLimit limit ≤ 500 ∧ (limit = none → auditLimit limit = 100) ∧
    ∀ l, limit = some l → 1 ≤ l → l ≤ 500 → auditLimit limit = l
  := by
  unfold auditLimit Snapshot.clamp
  refine ⟨by omega, by omega, fun h => by rw [h]; rfl, fun l h h₁ h₂ => ?_⟩
  rw [h, Option.getD_some]
  omega

/-! ### What an audit listing shows

The chip store is not part of this repository: what it answers is taken as its contract,
that it answers a query with chips of the queried type and no more of them than the queried
limit. -/

/-- A chip store answers a query with chips of the queried type, no more than the queried
limit. -/
def HonoursQuery (store : ChipStore) : Prop :=
  ∀ q result, store.query q = .ok result →
    (∀ t, q.chipType = some t → ∀ chip ∈ result.chips, chip.chipType = t) ∧
      ∀ l, q.limit = some l → result.chips.length ≤ l

/-- On a store that honours its queries, the rows of an audit query are chips of the chip
type of the kind, no more than the limit. -/
theorem queryAuditRows_of_honoursQuery {store : ChipStore} (hstore : HonoursQuery store)
    {kind : String} {world : Option String} {limit : Nat} {rows : List AuditRow}
    (hq : queryAuditRows store kind world limit = .ok rows) :
  rows.length ≤ limit ∧ ∀ row ∈ rows, row.chipType = auditChipTypeForKind kind
  := by
  unfold queryAuditRows at hq
  cases hres : store.query (auditQuery kind world limit) with
  | error e => simp [hres, Except.map] at hq
  | ok result =>
    simp only [hres, Except.map, Except.ok.injEq] at hq
    subst hq
    obtain ⟨htype, hlimit⟩ := hstore _ _ hres
    refine ⟨by simpa using hlimit limit rfl, fun row hrow => ?_⟩
    obtain ⟨chip, hchip, rfl⟩ := List.mem_map.mp hrow
    exact htype _ rfl chip hchip

/-- On a chip store that honours its queries, an audit listing that answers lists chips of
the chip type of the kind it names, at most 500 of them. -/
theorem listAuditKindJson_rows (state : AppState) (hstore : HonoursQuery state.chipStore)
    (kind : String) (world : Option String) (limit : Option Nat)
    (hok : (listAuditKindJson state kind world limit).1 = 200) :
  ∃ rows : List AuditRow, listAuditKindJson state kind world limit =
      (200, .object [("@type", .string "ubl/audit.list"), ("kind", .string (normalizeAuditKind kind)),
        ("count", .number (.posInt rows.length)), ("rows", .array (rows.map auditRowJson))]) ∧
    rows.length ≤ 500 ∧ ∀ row ∈ rows, row.chipType = auditChipTypeForKind (normalizeAuditKind kind)
  := by
  unfold listAuditKindJson at hok ⊢
  cases hq : queryAuditRows state.chipStore kind (Snapshot.worldFilter world) (auditLimit limit) with
  | error e => simp [hq] at hok
  | ok rows =>
    obtain ⟨hlen, htype⟩ := queryAuditRows_of_honoursQuery hstore hq
    refine ⟨rows, rfl, hlen.trans (auditQuery_limit limit).2.1, fun row hrow => ?_⟩
    rw [auditChipTypeForKind_normalizeAuditKind]
    exact htype row hrow

/-- On a chip store that honours its queries, the console's audit table shows one of the
three kinds, at most 100 rows of the chip type of that kind, six of them visible and the rest
hidden. -/
theorem auditTablePartial_rows (state : AppState) (hstore : HonoursQuery state.chipStore)
    (world kind : Option String) {table : AuditTable}
    (hpage : auditTablePartial state world kind = .page table) :
  (table.kind = "reports" ∨ table.kind = "snapshots" ∨ table.kind = "compactions") ∧
    (table.visibleRows ++ table.hiddenRows).length ≤ 100 ∧ table.visibleRows.length ≤ 6 ∧
    (table.hiddenRows ≠ [] → table.visibleRows.length = 6) ∧
    ∀ row ∈ table.visibleRows ++ table.hiddenRows, row.chipType = auditChipTypeForKind table.kind
  := by
  dsimp only [auditTablePartial] at hpage
  split at hpage
  · cases hpage
  · next rows hq =>
    cases hpage
    obtain ⟨hlen, htype⟩ := queryAuditRows_of_honoursQuery hstore hq
    obtain ⟨happend, hvisible, hhidden⟩ := Snapshot.splitRows_spec rows 6
    rw [happend]
    exact ⟨(normalizeAuditKind_cases _).1, hlen, hvisible, hhidden, htype⟩

/-! ### The event search -/

/-- `EventSearchQuery`, the query parameters of `GET /v1/events/search`. -/
structure EventSearchQuery where
  world : Option String
  stage : Option String
  decision : Option String
  code : Option String
  chipType : Option String
  actor : Option String
  «from» : Option String
  «to» : Option String
  pageKey : Option String
  limit : Option Nat

/-- `parse_when_to_ms`: an `i64` text is a time in milliseconds; otherwise the text is read as
an RFC 3339 time, which `rfc3339Millis` turns into milliseconds (`chrono`'s
`parse_from_rfc3339` then `timestamp_millis`). -/
def parseWhenToMs (rfc3339Millis : String → Option Int) (input : String) : Option Int :=
  match Str.parseI64 input with
  | some ms => some ms
  | none => rfc3339Millis input

/-- The time text of an event: its `when`, otherwise its `timestamp`. -/
def eventWhen (event : Json) : Option String :=
  (event.getStr "when").orElse fun _ => event.getStr "timestamp"

/-- The `EventQuery` of a search: from the page key, otherwise from `from`, otherwise from
`0`. -/
def searchQuery (query : EventSearchQuery) : EventStreamQuery :=
  ⟨query.world, query.stage, query.decision, query.code, query.chipType, query.actor,
    (query.pageKey.orElse fun _ => query.«from»).orElse fun _ => some "0", query.limit⟩

/-- The events of a page at or before the `to` bound, when it parses. -/
def keepUntil (rfc3339Millis : String → Option Int) (toBound : Option String) (events : List Json) :
    List Json :=
  match toBound.bind (parseWhenToMs rfc3339Millis) with
  | some bound =>
    events.filter fun e => ((eventWhen e).bind (parseWhenToMs rfc3339Millis)).any (· ≤ bound)
  | none => events

/-- `search_events`: the status and the body. -/
def searchEvents (eventStore : Option (EventStreamQuery → Except String (List Json)))
    (rfc3339Millis : String → Option Int) (query : EventSearchQuery) : Nat × Json :=
  match eventStore with
  | none => (503, errorBody "UNAVAILABLE" "Event hub unavailable: enable EventStore")
  | some store =>
    match store (searchQuery query) with
    | .error e => (500, errorBody "INTERNAL_ERROR" ("event search failed: " ++ e))
    | .ok events =>
      let events := keepUntil rfc3339Millis query.«to» events
      (200, .object [("@type", .string "ubl/events.search.response"),
        ("count", .number (.posInt events.length)),
        ("next_page_key", Json.ofOptStr (events.getLast?.bind eventWhen)),
        ("events", .array events)])

/-- What the `to` bound keeps: an event whose time parses and is at or before the bound. -/
def beforeBound (rfc3339Millis : String → Option Int) (toBound : Option String) (e : Json) : Prop :=
  ∀ bound, toBound.bind (parseWhenToMs rfc3339Millis) = some bound →
    ∃ ms, (eventWhen e).bind (parseWhenToMs rfc3339Millis) = some ms ∧ ms ≤ bound

instance (rfc3339Millis : String → Option Int) (toBound : Option String) (e : Json) :
    Decidable (beforeBound rfc3339Millis toBound e) :=
  decidable_of_iff (∀ bound ∈ toBound.bind (parseWhenToMs rfc3339Millis),
      ∃ ms ∈ (eventWhen e).bind (parseWhenToMs rfc3339Millis), ms ≤ bound)
    (by simp only [beforeBound, Option.mem_def])

/-- The events of a page at or before `to` are those of the store's answer that the bound
keeps, in the store's order. -/
theorem keepUntil_eq_filter (rfc3339Millis : String → Option Int) (toBound : Option String)
    (events : List Json) :
  keepUntil rfc3339Millis toBound events =
    events.filter fun e => decide (beforeBound rfc3339Millis toBound e)
  := by
  unfold keepUntil
  split
  · next bound hbound =>
    refine List.filter_congr fun e _ => ?_
    simp only [beforeBound, hbound, Option.some.injEq, forall_eq']
    cases (eventWhen e).bind (parseWhenToMs rfc3339Millis) <;> simp
  · next hnone =>
    refine (List.filter_eq_self.mpr fun e _ => ?_).symm
    simp [beforeBound, hnone]

/-- A `to` bound written as a count of milliseconds in the range of `i64` is that time, whatever
the RFC 3339 parser: it keeps exactly the events whose time reads at or before it. -/
theorem beforeBound_millis (rfc3339Millis : String → Option Int) {t : Int}
    (hlo : -9223372036854775808 ≤ t) (hhi : t ≤ 9223372036854775807) (e : Json) :
  beforeBound rfc3339Millis (some (toString t)) e ↔
    ∃ ms ∈ (eventWhen e).bind (parseWhenToMs rfc3339Millis), ms ≤ t
  := by
  simp only [beforeBound, Option.some_bind, parseWhenToMs, Str.parseI64_toString hlo hhi,
    Option.some.injEq, forall_eq', Option.mem_def]

/-- A page of the search is the store's answer for the page's query filtered by the `to`
bound (all of it when `to` is absent or does not parse): every event of the answer at or
before the bound, once each and in the store's order, counted, with the time of the last as
the next page key. -/
theorem searchEvents_page (store : EventStreamQuery → Except String (List Json))
    (rfc3339Millis : String → Option Int) (query : EventSearchQuery) {events : List Json}
    (hstore : store (searchQuery query) = .ok events) :
  let page := events.filter fun e => decide (beforeBound rfc3339Millis query.«to» e)
  searchEvents (some store) rfc3339Millis query =
    (200, .object [("@type", .string "ubl/events.search.response"),
      ("count", .number (.posInt page.length)),
      ("next_page_key", Json.ofOptStr (page.getLast?.bind eventWhen)), ("events", .array page)]) ∧
  ∀ t : Int, -9223372036854775808 ≤ t → t ≤ 9223372036854775807 →
    query.«to» = some (toString t) →
    page = events.filter fun e =>
      decide (∃ ms ∈ (eventWhen e).bind (parseWhenToMs rfc3339Millis), ms ≤ t)
  := by
  refine ⟨by simp only [searchEvents, hstore, keepUntil_eq_filter], fun t hlo hhi hto => ?_⟩
  refine List.filter_congr fun e _ => ?_
  rw [hto, decide_eq_decide]
  exact beforeBound_millis rfc3339Millis hlo hhi e

/-- Two events, at 3 ms and at 9 ms. -/
def sampleSearchEvents : List Json :=
  [.object [("when", .string "3")], .object [("when", .string "9")]]

/-- A search up to 5 ms. -/
def sampleSearch : EventSearchQuery :=
  ⟨none, none, none, none, none, none, none, some "5", none, none⟩

theorem searchEvents_page_sample :
  (fun _ => .ok sampleSearchEvents : EventStreamQuery → Except String (List Json))
      (searchQuery sampleSearch) = .ok sampleSearchEvents ∧
    let page := sampleSearchEvents.filter fun e =>
      decide (beforeBound (fun _ => none) sampleSearch.«to» e)
    searchEvents (some fun _ => .ok sampleSearchEvents) (fun _ => none) sampleSearch =
      (200, .object [("@type", .string "ubl/events.search.response"),
        ("count", .number (.posInt page.length)),
        ("next_page_key", Json.ofOptStr (page.getLast?.bind eventWhen)),
        ("events", .array page)]) ∧
    ∀ t : Int, -9223372036854775808 ≤ t → t ≤ 9223372036854775807 →
      sampleSearch.«to» = some (toString t) →
      page = sampleSearchEvents.filter fun e =>
        decide (∃ ms ∈ (eventWhen e).bind (parseWhenToMs (fun _ => none)), ms ≤ t)
  := ⟨rfl, searchEvents_page (fun _ => .ok sampleSearchEvents) (fun _ => none) sampleSearch rfl⟩

/-! ### The event panel of the console -/

/-- `ConsoleEventRow`. -/
structure ConsoleEventRow where
  «when» : String
  stage : String
  decision : String
  chipType : String
  code : String
  receiptCid : String

/-- `ConsoleEventsTemplate`. -/
structure ConsoleEvents where
  available : Bool
  message : String
  visibleRows : List ConsoleEventRow
  hiddenRows : List ConsoleEventRow

/-- The row of an event. -/
def consoleEventRow (event : Json) : ConsoleEventRow :=
  let member (outer k : String) : String := ((Snapshot.nested event outer k).bind Json.asStr).getD "-"
  ⟨(event.getStr "when").getD "-", (event.getStr "stage").getD "-", member "receipt" "decision",
    member "chip" "type", member "receipt" "code", member "receipt" "cid"⟩

/-- `console_events_partial` with the query's `world`: the twenty events the store answers for
the world, newest first. -/
def consoleEventsPartial (eventStore : Option (EventStreamQuery → Except String (List Json)))
    (world : Option String) : ConsoleEvents :=
  match eventStore with
  | none => ⟨false, "EventStore unavailable", [], []⟩
  | some store =>
    match store ⟨Snapshot.worldFilter world, none, none, none, none, none, none, some 20⟩ with
    | .error e => ⟨false, "Events query error: " ++ e, [], []⟩
    | .ok events =>
      let rows := events.reverse.map consoleEventRow
      ⟨true, "", (Snapshot.splitRows rows 6).1, (Snapshot.splitRows rows 6).2⟩

end Listings

end UblGate
