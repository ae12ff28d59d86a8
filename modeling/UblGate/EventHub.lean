import UblGate.Json
import UblGate.Text

/-!
# The event hub

Every receipt the pipeline emits is published as a `ReceiptEvent` on the event bus, a
bounded broadcast channel.  With an event store configured, the gate runs an ingestion task
that receives from the bus and appends each event, normalized by `toHubEvent`, to the
store.  `GET /v1/events` queries the store for the matching historical events, subscribes
to the bus, sends the historical events and then relays the matching live ones.

The three run concurrently, so the hub is a state machine, `Hub`, whose steps, `HubAct`,
are a publication, one turn of the ingestion loop and one step of an event stream; a run is
any interleaving of them.

* `toHubEvent_id_eq_iff`: on events whose content addresses have the spec's form and whose
  stage is a stage of the pipeline, two hub events share an `@id` exactly when they agree on
  the receipt, the stage and both content addresses, so the store keyed by `@id` never
  merges two stage events.
* `stored_of_caught_up`: as long as the ingestion task has neither lagged nor failed an
  append, the store holds the hub events of all published events, in order, whenever the
  ingestion receiver has caught up.  For every capacity, a burst of one event more than the
  capacity, published before the task runs, loses its first event
  (`burstRun_loses_first_event`).
* `stored_at_every_instant`: seen at every instant, a turn of the ingestion loop is two
  steps, the receive and the append of the event it answered, and the other parties move
  between them (`FineHub`; `Hub` is the case where they do not, `FineHub.run_fine`).  At
  every instant, as long as the task has neither lagged nor failed an append, the store
  followed by the event in flight are the hub events of all events the task received.
* `stream_sent_of_caught_up`: a stream that never lagged has sent, once it has caught up,
  its historical events and then every matching event published after it subscribed.
  `stream_misses_unstored_event`: an event published after the request is received, but
  before the stream subscribes, and stored only after the stream's query, is never sent.
-/

namespace UblGate

/-! ### Hub events -/

/-- Modelled from the spec: `ReceiptEvent` of `ubl_runtime::event_bus`, which is not in the
source, with the fields `to_hub_event` reads, at the types it reads them at. -/
structure ReceiptEvent where
  receiptType : String
  receiptCid : String
  pipelineStage : String
  inputCid : Option String
  outputCid : Option String
  world : Option String
  metadata : Json
  decision : Option String
  knockCid : Option String
  actor : Option String
  subjectDid : Option String
  timestamp : String
  latencyMs : Option Nat
  durationMs : Option Nat
  fuelUsed : Option Nat
  artifactCids : List String
  binaryHash : Option String
  buildMeta : Json

/-- An optional string as `json!` writes it: the string, or `null`. -/
def Json.ofOptStr (o : Option String) : Json :=
  (o.map .string).getD .null

/-- An optional count as `json!` writes it: the number, or `null`. -/
def Json.ofOptNat (o : Option Nat) : Json :=
  (o.map fun n => .number (.posInt n)).getD .null

/-- The member `k`, when the optional string is present: `json!` writes `null` for an
absent one, and `to_hub_event` removes the `null` member. -/
def optMember (k : String) (o : Option String) : List (String × Json) :=
  (o.map fun v => [(k, .string v)]).getD []

/-- `normalize_stage`. -/
def normalizeStage (stage : String) : String :=
  match Str.toAsciiLowercase stage with
  | "knock" => "KNOCK"
  | "wa" | "write_ahead" => "WA"
  | "check" => "CHECK"
  | "tr" | "transition" => "TR"
  | "wf" | "write_finished" => "WF"
  | "registry" => "REGISTRY"
  | other => Str.toAsciiUppercase other

/-- `deterministic_event_id`. -/
def deterministicEventId (event : ReceiptEvent) (stage : String) : String :=
  "evt:" ++ event.receiptCid ++ ":" ++ stage ++ ":" ++ event.inputCid.getD "" ++ ":" ++
    event.outputCid.getD ""

/-- `to_hub_event`: the `ubl/event` envelope of a receipt event. -/
def toHubEvent (event : ReceiptEvent) : Json :=
  let stage := normalizeStage event.pipelineStage
  let receipt : Json := .object ([("cid", .string event.receiptCid),
    ("decision", Json.ofOptStr (event.decision.map Str.toAsciiUppercase))] ++
    optMember "code" (event.metadata.getStr "code") ++ optMember "knock_cid" event.knockCid)
  let actor : Json := .object ([("kid", Json.ofOptStr event.actor)] ++
    optMember "did" event.subjectDid ++ optMember "cap" (event.metadata.getStr "cap"))
  .object [("@type", .string "ubl/event"), ("@ver", .string "1.0.0"),
    ("@id", .string (deterministicEventId event stage)),
    ("@world", .string (event.world.getD "a/system")), ("source", .string "pipeline"),
    ("stage", .string stage), ("when", .string event.timestamp),
    ("chip", .object [("type", .string event.receiptType),
      ("id", .string ((event.metadata.getStr "@id").getD "")),
      ("ver", .string ((event.metadata.getStr "@ver").getD ""))]),
    ("receipt", receipt),
    ("perf", .object [("latency_ms", Json.ofOptNat (event.latencyMs.orElse fun _ => event.durationMs)),
      ("fuel", Json.ofOptNat event.fuelUsed), ("mem_kb", .null)]),
    ("actor", actor), ("artifacts", .array (event.artifactCids.map .string)),
    ("runtime", .object [("binary_hash", Json.ofOptStr event.binaryHash),
      ("build", event.buildMeta)]),
    ("labels", .object [])]

/-- The latency a hub event reports is its event's latency, or else its duration. -/
theorem toHubEvent_latency (event : ReceiptEvent) :
  ((toHubEvent event).get "perf").bind (fun perf => perf.get "latency_ms") =
    some (Json.ofOptNat (event.latencyMs.orElse fun _ => event.durationMs))
  := rfl

/-! ### Event ids -/

/-- A content address of the form the spec gives: `b3:` followed by 64 lowercase hexadecimal
digits. -/
def isB3Cid (s : String) : Bool :=
  match Str.stripPrefix s "b3:" with
  | some hex => hex.length == 64 && hex.data.all fun c => c.isDigit || ('a' ≤ c && c ≤ 'f')
  | none => false

/-- The stage names `normalize_stage` gives the stages of the pipeline. -/
def pipelineStages : List String :=
  ["KNOCK", "WA", "CHECK", "TR", "WF", "REGISTRY"]

/-- A receipt event whose content addresses have the spec's form and whose stage normalizes
to a stage of the pipeline. -/
def isStageEvent (event : ReceiptEvent) : Bool :=
  isB3Cid event.receiptCid && event.inputCid.all isB3Cid && event.outputCid.all isB3Cid &&
    decide (normalizeStage event.pipelineStage ∈ pipelineStages)

theorem toHubEvent_id (event : ReceiptEvent) :
  (toHubEvent event).get "@id" =
    some (.string (deterministicEventId event (normalizeStage event.pipelineStage)))
  := rfl

theorem deterministicEventId_data (event : ReceiptEvent) (stage : String) :
  (deterministicEventId event stage).data = "evt:".data ++ (event.receiptCid.data ++
    ':' :: (stage.data ++ ':' :: ((event.inputCid.getD "").data ++
      ':' :: (event.outputCid.getD "").data)))
  := by
  simp only [deterministicEventId, String.data_append, List.append_assoc]
  rfl

theorem isB3Cid_data {s : String} (h : isB3Cid s = true) :
  ∃ hex, s.data = 'b' :: '3' :: ':' :: hex ∧ hex.length = 64
  := by
  unfold isB3Cid at h
  split at h
  · rename_i hex hs
    simp only [Bool.and_eq_true, beq_iff_eq] at h
    exact ⟨hex.data, Str.stripPrefix_eq_some.mp hs, h.1⟩
  · cases h

/-- A field without `:`, followed by `:`, is read back uniquely. -/
theorem colon_append_inj {a₁ a₂ r₁ r₂ : List Char} (h₁ : ':' ∉ a₁) (h₂ : ':' ∉ a₂)
    (h : a₁ ++ ':' :: r₁ = a₂ ++ ':' :: r₂) :
  a₁ = a₂ ∧ r₁ = r₂
  := by
  induction a₁ generalizing a₂ with
  | nil =>
    cases a₂ with
    | nil => simpa using h
    | cons c a₂ =>
      obtain ⟨hc, -⟩ := List.cons.inj h
      exact absurd (hc ▸ List.mem_cons_self _ _) h₂
  | cons c a₁ ih =>
    cases a₂ with
    | nil =>
      obtain ⟨hc, -⟩ := List.cons.inj h
      exact absurd (hc ▸ List.mem_cons_self _ _) h₁
    | cons d a₂ =>
      simp only [List.cons_append, List.cons.injEq] at h
      obtain ⟨rfl, h⟩ := h
      obtain ⟨rfl, rfl⟩ := ih (fun hm => h₁ (List.mem_cons_of_mem _ hm))
        (fun hm => h₂ (List.mem_cons_of_mem _ hm)) h
      exact ⟨rfl, rfl⟩

/-- An optional content address, written as itself or as the empty text and followed by `:`,
is read back uniquely. -/
theorem optCid_append_inj {o₁ o₂ : Option String} {r₁ r₂ : List Char}
    (h₁ : o₁.all isB3Cid = true) (h₂ : o₂.all isB3Cid = true)
    (h : (o₁.getD "").data ++ ':' :: r₁ = (o₂.getD "").data ++ ':' :: r₂) :
  o₁ = o₂ ∧ r₁ = r₂
  := by
  cases o₁ with
  | none =>
    cases o₂ with
    | none => exact ⟨rfl, (List.cons.inj h).2⟩
    | some y =>
      obtain ⟨hex, hy, -⟩ := isB3Cid_data (by simpa using h₂)
      simp [hy] at h
  | some x =>
    obtain ⟨hex, hx, hlen⟩ := isB3Cid_data (by simpa using h₁)
    cases o₂ with
    | none => simp [hx] at h
    | some y =>
      obtain ⟨hey, hy, hleny⟩ := isB3Cid_data (by simpa using h₂)
      simp only [Option.getD_some] at h
      obtain ⟨hxy, hr⟩ := List.append_inj h (by simp [hx, hy, hlen, hleny])
      exact ⟨congrArg some (String.ext hxy), (List.cons.inj hr).2⟩

theorem optCid_getD_inj {o₁ o₂ : Option String} (h₁ : o₁.all isB3Cid = true)
    (h₂ : o₂.all isB3Cid = true) (h : o₁.getD "" = o₂.getD "") :
  o₁ = o₂
  := by
  cases o₁ <;> cases o₂
  · rfl
  · rename_i y
    obtain ⟨hex, hy, -⟩ := isB3Cid_data (by simpa using h₂)
    simp only [Option.getD_none, Option.getD_some] at h
    simp [← h] at hy
  · rename_i x
    obtain ⟨hex, hx, -⟩ := isB3Cid_data (by simpa using h₁)
    simp only [Option.getD_none, Option.getD_some] at h
    simp [h] at hx
  · exact congrArg some h

/-- On stage events, the `@id` of the hub event determines the receipt, the stage and both
content addresses, and is determined by them: the event store, keyed by `@id`, never merges
two distinct stage events. -/
theorem toHubEvent_id_eq_iff {e₁ e₂ : ReceiptEvent} (h₁ : isStageEvent e₁ = true)
    (h₂ : isStageEvent e₂ = true) :
  (toHubEvent e₁).get "@id" = (toHubEvent e₂).get "@id" ↔
    e₁.receiptCid = e₂.receiptCid ∧
      normalizeStage e₁.pipelineStage = normalizeStage e₂.pipelineStage ∧
      e₁.inputCid = e₂.inputCid ∧ e₁.outputCid = e₂.outputCid
  := by
  simp only [isStageEvent, Bool.and_eq_true, decide_eq_true_eq] at h₁ h₂
  obtain ⟨⟨⟨hr₁, hi₁⟩, ho₁⟩, hs₁⟩ := h₁
  obtain ⟨⟨⟨hr₂, hi₂⟩, ho₂⟩, hs₂⟩ := h₂
  have hcolon : ∀ stage ∈ pipelineStages, ':' ∉ stage.data := by decide
  rw [toHubEvent_id, toHubEvent_id]
  constructor
  · intro h
    have hd := congrArg String.data (Json.string.inj (Option.some.inj h))
    rw [deterministicEventId_data, deterministicEventId_data] at hd
    obtain ⟨hex₁, hR₁, hlen₁⟩ := isB3Cid_data hr₁
    obtain ⟨hex₂, hR₂, hlen₂⟩ := isB3Cid_data hr₂
    obtain ⟨hR, hd⟩ :=
      List.append_inj (List.append_cancel_left hd) (by simp [hR₁, hR₂, hlen₁, hlen₂])
    obtain ⟨hS, hd⟩ := colon_append_inj (hcolon _ hs₁) (hcolon _ hs₂) (List.cons.inj hd).2
    obtain ⟨hI, hO⟩ := optCid_append_inj hi₁ hi₂ hd
    exact ⟨String.ext hR, String.ext hS, hI, optCid_getD_inj ho₁ ho₂ (String.ext hO)⟩
  · rintro ⟨hR, hS, hI, hO⟩
    rw [hS, deterministicEventId, deterministicEventId, hR, hI, hO]

/-- A stage event of the pipeline's `WF` stage, with input and no output. -/
def wfStageEvent : ReceiptEvent :=
  ⟨"ubl/document", "b3:00000000000000000000000000000000000000000000000000000000000000aa", "wf",
    some "b3:00000000000000000000000000000000000000000000000000000000000000bb", none,
    some "a/demo/t/main", .object [], some "allow", none, none, none, "2026-01-01T00:00:00Z",
    some 1, none, none, [], none, .null⟩

theorem toHubEvent_id_eq_iff_wfStageEvent :
  isStageEvent wfStageEvent = true ∧ isStageEvent wfStageEvent = true ∧
    ((toHubEvent wfStageEvent).get "@id" = (toHubEvent wfStageEvent).get "@id" ↔
      wfStageEvent.receiptCid = wfStageEvent.receiptCid ∧
        normalizeStage wfStageEvent.pipelineStage = normalizeStage wfStageEvent.pipelineStage ∧
        wfStageEvent.inputCid = wfStageEvent.inputCid ∧
        wfStageEvent.outputCid = wfStageEvent.outputCid)
  := ⟨by decide, by decide, toHubEvent_id_eq_iff (by decide) (by decide)⟩

/-- `EventStreamQuery`, the query parameters of `GET /v1/events`. -/
structure EventStreamQuery where
  world : Option String
  stage : Option String
  decision : Option String
  code : Option String
  chipType : Option String
  actor : Option String
  since : Option String
  limit : Option Nat

/-- `hub_matches_query`. -/
def hubMatchesQuery (event : Json) (query : EventStreamQuery) : Bool :=
  let member (outer k : String) : Option String := (event.get outer).bind fun v => v.getStr k
  let sameLabel (actual expected : String) : Bool :=
    actual == expected || Str.eqIgnoreAsciiCase actual expected
  (query.world.all fun world => event.getStr "@world" == some world) &&
  (query.stage.all fun stage => sameLabel ((event.getStr "stage").getD "") stage) &&
  (query.decision.all fun decision => sameLabel ((member "receipt" "decision").getD "") decision) &&
  (query.code.all fun code => member "receipt" "code" == some code) &&
  (query.chipType.all fun chipType => chipType == "*" || (member "chip" "type").getD "" == chipType) &&
  (query.actor.all fun actor => member "actor" "kid" == some actor)

/-- The request of an unfiltered stream: no filter and no limit. -/
def openQuery : EventStreamQuery :=
  ⟨none, none, none, none, none, none, none, none⟩

/-- An event store whose query answers exactly the stored events that match the filters of
the request, with no limit. -/
def exactStoreQuery (stored : List Json) (query : EventStreamQuery) : Except String (List Json) :=
  .ok (stored.filter fun event => hubMatchesQuery event query)

/-! ### The bus -/

/-- What `Receiver::recv` answers: an event, the number of events the receiver lagged
behind, or nothing yet (it waits). -/
inductive RecvResult where
  | ok (event : ReceiptEvent)
  | lagged (skipped : Nat)
  | pending

/-- Modelled from the spec: `Receiver::recv` on the event bus, "an in-process broadcast
channel", "bounded" and "FIFO per sender to each subscriber"; the bus of
`ubl_runtime::event_bus` is not in the source.  `published` holds every event sent so far,
in order, `next` is the position of the receiver's next event, and the channel keeps the
last `cap` events.  A receiver whose next event is no longer kept lags: it is told how many
events it skipped and moves to the oldest kept one. -/
def recv (cap : Nat) (published : List ReceiptEvent) (next : Nat) : RecvResult × Nat :=
  if next + cap < published.length then
    (.lagged (published.length - cap - next), published.length - cap)
  else
    match published[next]? with
    | some event => (.ok event, next + 1)
    | none => (.pending, next)

theorem recv_of_le {cap next : Nat} {published : List ReceiptEvent}
    (hcap : published.length ≤ next + cap) (hnext : next < published.length) :
  recv cap published next = (.ok published[next], next + 1)
  := by
  simp [recv, Nat.not_lt.mpr hcap, List.getElem?_eq_getElem hnext]

/-- What a receive can do: lag, when more than `cap` events wait; take the next event, when
some wait; or wait. -/
theorem recv_cases (cap next : Nat) (published : List ReceiptEvent) :
  (next + cap < published.length ∧ ∃ k, recv cap published next = (.lagged k, published.length - cap)) ∨
  (∃ hnext : next < published.length, published.length ≤ next + cap ∧
    recv cap published next = (.ok published[next], next + 1)) ∨
  (published.length ≤ next ∧ recv cap published next = (.pending, next))
  := by
  by_cases hlag : next + cap < published.length
  · exact .inl ⟨hlag, published.length - cap - next, by simp [recv, hlag]⟩
  · by_cases hnext : next < published.length
    · exact .inr (.inl ⟨hnext, by omega, recv_of_le (by omega) hnext⟩)
    · have hend : published.length ≤ next := by omega
      exact .inr (.inr ⟨hend, by simp [recv, hlag, List.getElem?_eq_none hend]⟩)

/-! ### Runs of the hub -/

/-- Where the `GET /v1/events` request is. -/
inductive StreamPhase where
  /-- Received; the store is not queried yet. -/
  | received
  /-- The store answered the historical events; the bus is not subscribed yet. -/
  | queried (historical : List Json)
  /-- Subscribed: the historical events not sent yet, and the receiver's position. -/
  | live (historical : List Json) (next : Nat)
  /-- The store query failed: the request was answered 500. -/
  | failed

/-- One `GET /v1/events` stream: its phase, the events it sent, and how many times its
receiver lagged (the `client_lagged` drops). -/
structure EventStream where
  phase : StreamPhase
  sent : List Json
  lagged : Nat

/-- The hub: the events published on the bus, the ingestion task's receiver, the events it
appended to the store, the `hub_lagged` drops and the appends that failed, and one event
stream. -/
structure Hub where
  published : List ReceiptEvent
  ingestNext : Nat
  stored : List Json
  ingestLagged : Nat
  appendFailures : Nat
  stream : EventStream

/-- A step of the hub: the pipeline publishes an event, the ingestion loop takes a turn and
its append succeeds or fails, or the event stream takes a step. -/
inductive HubAct where
  | publish (event : ReceiptEvent)
  | ingest (appendOk : Bool)
  | stream

/-- The hub when the gate starts: the ingestion task subscribed before any publication, and
the request of the stream has just been received. -/
def Hub.start : Hub :=
  ⟨[], 0, [], 0, 0, ⟨.received, [], 0⟩⟩

section

variable (cap : Nat) (query : EventStreamQuery)
  (storeQuery : List Json → EventStreamQuery → Except String (List Json))

/-- One turn of the ingestion loop of `main`. -/
def Hub.ingest (appendOk : Bool) (h : Hub) : Hub :=
  match recv cap h.published h.ingestNext with
  | (.ok event, next) =>
    if appendOk then { h with ingestNext := next, stored := h.stored ++ [toHubEvent event] }
    else { h with ingestNext := next, appendFailures := h.appendFailures + 1 }
  | (.lagged _, next) => { h with ingestNext := next, ingestLagged := h.ingestLagged + 1 }
  | (.pending, _) => h

/-- One step of `stream_events` on the request `query`: the store query, the subscription,
then the historical events one by one, then one receive. -/
def EventStream.step (published : List ReceiptEvent) (stored : List Json) (s : EventStream) :
    EventStream :=
  match s.phase with
  | .received =>
    match storeQuery stored query with
    | .ok historical => { s with phase := .queried historical }
    | .error _ => { s with phase := .failed }
  | .queried historical => { s with phase := .live historical published.length }
  | .live (event :: rest) next => { s with phase := .live rest next, sent := s.sent ++ [event] }
  | .live [] next =>
    match recv cap published next with
    | (.ok event, next') =>
      { s with phase := .live [] next',
               sent := if hubMatchesQuery (toHubEvent event) query then s.sent ++ [toHubEvent event]
                 else s.sent }
    | (.lagged _, next') => { s with phase := .live [] next', lagged := s.lagged + 1 }
    | (.pending, _) => s
  | .failed => s

/-- One step of the hub. -/
def Hub.step (h : Hub) : HubAct → Hub
  | .publish event => { h with published := h.published ++ [event] }
  | .ingest appendOk => h.ingest cap appendOk
  | .stream => { h with stream := h.stream.step cap query storeQuery h.published h.stored }

/-- A run of the hub: its steps in order. -/
def Hub.run (h : Hub) (acts : List HubAct) : Hub :=
  acts.foldl (Hub.step cap query storeQuery) h

@[simp]
theorem Hub.run_nil (h : Hub) : h.run cap query storeQuery [] = h
  := rfl

@[simp]
theorem Hub.run_cons (h : Hub) (a : HubAct) (acts : List HubAct) :
  h.run cap query storeQuery (a :: acts) = (h.step cap query storeQuery a).run cap query storeQuery acts
  := rfl

theorem Hub.run_append (h : Hub) (acts acts' : List HubAct) :
  h.run cap query storeQuery (acts ++ acts') =
    (h.run cap query storeQuery acts).run cap query storeQuery acts'
  := List.foldl_append _ _ _ _

/-- Publications append their events to the bus. -/
theorem Hub.run_publish (h : Hub) (events : List ReceiptEvent) :
  h.run cap query storeQuery (events.map .publish) = { h with published := h.published ++ events }
  := by
  induction events generalizing h with
  | nil => simp
  | cons e es ih => simp [Hub.step, ih]

/-- Turns of the ingestion loop whose appends succeed, while its receiver does not lag,
append the events it receives, in order. -/
theorem Hub.run_ingest {h : Hub} {k : Nat} (hcap : h.published.length ≤ h.ingestNext + cap)
    (hk : h.ingestNext + k ≤ h.published.length) :
  h.run cap query storeQuery (List.replicate k (.ingest true)) =
    { h with ingestNext := h.ingestNext + k,
             stored := h.stored ++ ((h.published.drop h.ingestNext).take k).map toHubEvent }
  := by
  induction k generalizing h with
  | zero => simp
  | succ k ih =>
    have hnext : h.ingestNext < h.published.length := by omega
    rw [List.replicate_succ, Hub.run_cons]
    simp only [Hub.step, Hub.ingest, recv_of_le hcap hnext, if_true]
    rw [ih (by simp only; omega) (by simp only; omega), List.drop_eq_getElem_cons hnext]
    simp only [List.take_succ_cons, List.map_cons, List.append_assoc, List.singleton_append]
    congr 1
    omega

/-- The hubs a run from the start reaches. -/
def Hub.Reachable (h : Hub) : Prop :=
  ∃ acts, h = Hub.start.run cap query storeQuery acts

end

/-- The `i`-th event of a burst: a `WF` receipt event whose latency is `i` ms. -/
def burstEvent (i : Nat) : ReceiptEvent :=
  ⟨"ubl/document", "b3:receipt", "wf", none, none, some "a/demo/t/main", .object [],
    some "allow", none, none, none, "2026-01-01T00:00:00Z", some i, none, none, [], none, .null⟩

/-! ### The event in flight -/

/-- The hub seen at every instant of the ingestion loop: between `rx.recv()` answering an event
and `append_event_json` on it, the ingestion task holds the event, and the other parties move
on meanwhile. -/
structure FineHub where
  hub : Hub
  inFlight : Option ReceiptEvent

/-- A step of the hub in which the two halves of a turn of the ingestion loop are steps of
their own: the receive, and the append of the event it answered. -/
inductive FineAct where
  | publish (event : ReceiptEvent)
  | receive
  | append (appendOk : Bool)
  | stream

/-- The hub when the gate starts, the ingestion task holding no event. -/
def FineHub.start : FineHub :=
  ⟨Hub.start, none⟩

section

variable (cap : Nat) (query : EventStreamQuery)
  (storeQuery : List Json → EventStreamQuery → Except String (List Json))

/-- `rx.recv()` in the ingestion loop; a task that holds an event is appending it. -/
def FineHub.receive (h : FineHub) : FineHub :=
  match h.inFlight with
  | some _ => h
  | none =>
    match recv cap h.hub.published h.hub.ingestNext with
    | (.ok event, next) => ⟨{ h.hub with ingestNext := next }, some event⟩
    | (.lagged _, next) =>
      ⟨{ h.hub with ingestNext := next, ingestLagged := h.hub.ingestLagged + 1 }, none⟩
    | (.pending, _) => h

/-- `append_event_json` on the event the task holds, which succeeds or fails. -/
def FineHub.append (appendOk : Bool) (h : FineHub) : FineHub :=
  match h.inFlight with
  | none => h
  | some event =>
    if appendOk then ⟨{ h.hub with stored := h.hub.stored ++ [toHubEvent event] }, none⟩
    else ⟨{ h.hub with appendFailures := h.hub.appendFailures + 1 }, none⟩

/-- One step of the hub. -/
def FineHub.step (h : FineHub) : FineAct → FineHub
  | .publish event => ⟨h.hub.step cap query storeQuery (.publish event), h.inFlight⟩
  | .receive => h.receive cap
  | .append appendOk => h.append appendOk
  | .stream => ⟨h.hub.step cap query storeQuery .stream, h.inFlight⟩

/-- A run of the hub: its steps in order. -/
def FineHub.run (h : FineHub) (acts : List FineAct) : FineHub :=
  acts.foldl (FineHub.step cap query storeQuery) h

/-- A step of the hub whose turns of the ingestion loop are atomic: a turn is a receive
followed at once by the append. -/
def HubAct.fine : HubAct → List FineAct
  | .publish event => [.publish event]
  | .ingest appendOk => [.receive, .append appendOk]
  | .stream => [.stream]

theorem FineHub.run_fine_step (h : Hub) (a : HubAct) :
  (⟨h, none⟩ : FineHub).run cap query storeQuery a.fine = ⟨h.step cap query storeQuery a, none⟩
  := by
  cases a with
  | publish event => rfl
  | stream => rfl
  | ingest appendOk =>
    show ((FineHub.receive cap ⟨h, none⟩).append appendOk) = ⟨h.ingest cap appendOk, none⟩
    simp only [FineHub.receive, Hub.ingest]
    rcases recv cap h.published h.ingestNext with ⟨_ | _ | _, next⟩ <;> try rfl
    cases appendOk <;> rfl

/-- The hub whose turns are atomic is the hub seen at every instant, run without interleaving
anything between a receive and its append. -/
theorem FineHub.run_fine (h : Hub) (acts : List HubAct) :
  (⟨h, none⟩ : FineHub).run cap query storeQuery (acts.flatMap HubAct.fine) =
    ⟨h.run cap query storeQuery acts, none⟩
  := by
  induction acts generalizing h with
  | nil => rfl
  | cons a acts ih =>
    have hstep := FineHub.run_fine_step cap query storeQuery h a
    unfold FineHub.run at hstep ih ⊢
    rw [List.flatMap_cons, List.foldl_append, hstep, ih]
    rfl

end

/-- The ingestion invariant at every instant: the ingestion receiver is within the published
events, and as long as it never lagged and no append failed, the store followed by the event
the task holds are the hub events of the events it received, in order. -/
def FineInv (h : FineHub) : Prop :=
  h.hub.ingestNext ≤ h.hub.published.length ∧
    (h.hub.ingestLagged = 0 → h.hub.appendFailures = 0 →
      h.hub.stored ++ h.inFlight.toList.map toHubEvent =
        (h.hub.published.take h.hub.ingestNext).map toHubEvent)

section

variable (cap : Nat) (query : EventStreamQuery)
  (storeQuery : List Json → EventStreamQuery → Except String (List Json))

theorem fineInv_receive {h : FineHub} (hi : FineInv h) : FineInv (h.receive cap)
  := by
  obtain ⟨hle, hstored⟩ := hi
  rcases hf : h.inFlight with _ | event
  · rcases recv_cases cap h.hub.ingestNext h.hub.published with
      ⟨-, k, hr⟩ | ⟨hnext, -, hr⟩ | ⟨-, hr⟩
    · refine ⟨by simp only [FineHub.receive, hf, hr]; omega, fun hl => ?_⟩
      simp [FineHub.receive, hf, hr] at hl
    · refine ⟨by simpa [FineHub.receive, hf, hr] using hnext, fun hl ha => ?_⟩
      simp only [FineHub.receive, hf, hr] at hl ha ⊢
      rw [List.take_succ, List.getElem?_eq_getElem hnext, Option.toList_some, List.map_append,
        ← hstored hl ha, hf]
      simp
    · simp only [FineHub.receive, hf, hr]
      exact ⟨hle, hstored⟩
  · simp only [FineHub.receive, hf]
    exact ⟨hle, hstored⟩

theorem fineInv_append {h : FineHub} (hi : FineInv h) (appendOk : Bool) :
  FineInv (h.append appendOk)
  := by
  obtain ⟨hle, hstored⟩ := hi
  rcases hf : h.inFlight with _ | event
  · simp only [FineHub.append, hf]
    exact ⟨hle, hstored⟩
  · cases appendOk
    · exact ⟨by simpa [FineHub.append, hf] using hle, fun _ ha => by simp [FineHub.append, hf] at ha⟩
    · refine ⟨by simpa [FineHub.append, hf] using hle, fun hl ha => ?_⟩
      simp only [FineHub.append, hf, if_true] at hl ha ⊢
      rw [← hstored hl ha, hf]
      simp

theorem fineInv_step {h : FineHub} (hi : FineInv h) (a : FineAct) :
  FineInv (h.step cap query storeQuery a)
  := by
  obtain ⟨hle, hstored⟩ := hi
  cases a with
  | publish event =>
    refine ⟨by simp only [FineHub.step, Hub.step, List.length_append]; omega, fun hl ha => ?_⟩
    simp only [FineHub.step, Hub.step] at hl ha ⊢
    rw [List.take_append_of_le_length hle, hstored hl ha]
  | receive => exact fineInv_receive cap ⟨hle, hstored⟩
  | append appendOk => exact fineInv_append ⟨hle, hstored⟩ appendOk
  | stream => exact ⟨hle, hstored⟩

theorem fineInv_run {h : FineHub} (hi : FineInv h) (acts : List FineAct) :
  FineInv (h.run cap query storeQuery acts)
  := by
  induction acts generalizing h with
  | nil => exact hi
  | cons a acts ih => exact ih (fineInv_step cap query storeQuery hi a)

/-- At every instant of every run, as long as the ingestion task never lagged and no append
failed, the store followed by the event the task holds between `rx.recv()` and
`append_event_json` are the hub events of every event the task received, in publication
order; once the receiver has caught up and the task holds no event, the store holds the hub
events of every published event. -/
theorem stored_at_every_instant {h : FineHub} (acts : List FineAct)
    (hrun : h = FineHub.start.run cap query storeQuery acts) (hlag : h.hub.ingestLagged = 0)
    (hfail : h.hub.appendFailures = 0) :
  h.hub.stored ++ h.inFlight.toList.map toHubEvent =
      (h.hub.published.take h.hub.ingestNext).map toHubEvent ∧
    (h.hub.ingestNext = h.hub.published.length → h.inFlight = none →
      h.hub.stored = h.hub.published.map toHubEvent)
  := by
  have hstart : FineInv FineHub.start := ⟨le_refl _, fun _ _ => rfl⟩
  have hi := hrun ▸ fineInv_run cap query storeQuery hstart acts
  have hstored := hi.2 hlag hfail
  refine ⟨hstored, fun hcaught hidle => ?_⟩
  rw [hidle, hcaught, List.take_length] at hstored
  simpa using hstored

end

/-- One event published on a bus of capacity one; the ingestion task has received it and not
yet appended it. -/
def inFlightRun : FineHub :=
  FineHub.start.run 1 openQuery exactStoreQuery [.publish (burstEvent 0), .receive]

theorem stored_at_every_instant_in_flight :
  inFlightRun = FineHub.start.run 1 openQuery exactStoreQuery [.publish (burstEvent 0), .receive] ∧
  inFlightRun.hub.ingestLagged = 0 ∧ inFlightRun.hub.appendFailures = 0 ∧
  (inFlightRun.hub.stored ++ inFlightRun.inFlight.toList.map toHubEvent =
      (inFlightRun.hub.published.take inFlightRun.hub.ingestNext).map toHubEvent ∧
    (inFlightRun.hub.ingestNext = inFlightRun.hub.published.length →
      inFlightRun.inFlight = none → inFlightRun.hub.stored = inFlightRun.hub.published.map toHubEvent))
  := ⟨rfl, rfl, rfl, stored_at_every_instant 1 openQuery exactStoreQuery _ rfl rfl rfl⟩

/-! ### Ingestion -/

/-- The ingestion invariant: the ingestion receiver is within the published events, and as
long as it never lagged and no append failed, the store holds the hub events of the events
it received, in order. -/
def IngestInv (h : Hub) : Prop :=
  h.ingestNext ≤ h.published.length ∧
    (h.ingestLagged = 0 → h.appendFailures = 0 →
      h.stored = (h.published.take h.ingestNext).map toHubEvent)

section

variable (cap : Nat) (query : EventStreamQuery)
  (storeQuery : List Json → EventStreamQuery → Except String (List Json))

/-- The ingestion invariant of the hub whose turns are atomic is the invariant at every
instant, on the hub seen at every instant run without interleaving. -/
theorem ingestInv_of_reachable {h : Hub} (hr : h.Reachable cap query storeQuery) : IngestInv h
  := by
  obtain ⟨acts, rfl⟩ := hr
  have hstart : FineInv FineHub.start := ⟨le_refl _, fun _ _ => rfl⟩
  obtain ⟨hle, hstored⟩ := FineHub.run_fine cap query storeQuery Hub.start acts ▸
    fineInv_run cap query storeQuery hstart (acts.flatMap HubAct.fine)
  exact ⟨hle, fun hl ha => by simpa using hstored hl ha⟩

/-- In every run, once the ingestion receiver has no pending event, the store holds the hub
event of every published event, in publication order, provided the ingestion task never
lagged and no append failed. -/
theorem stored_of_caught_up {h : Hub} (hr : h.Reachable cap query storeQuery)
    (hcaught : h.ingestNext = h.published.length) (hlag : h.ingestLagged = 0)
    (hfail : h.appendFailures = 0) :
  h.stored = h.published.map toHubEvent
  := by
  rw [(ingestInv_of_reachable cap query storeQuery hr).2 hlag hfail, hcaught, List.take_length]

/-- One event published on a bus of capacity one, then one turn of the ingestion task. -/
def oneEventRun : Hub :=
  Hub.start.run 1 openQuery exactStoreQuery
    [.publish ⟨"ubl/document", "b3:receipt", "wf", none, none, none, .object [], none, none, none,
      none, "2026-01-01T00:00:00Z", none, none, none, [], none, .null⟩, .ingest true]

theorem stored_of_caught_up_one_event :
  oneEventRun.Reachable 1 openQuery exactStoreQuery ∧
  oneEventRun.ingestNext = oneEventRun.published.length ∧ oneEventRun.ingestLagged = 0 ∧
  oneEventRun.appendFailures = 0 ∧ oneEventRun.stored = oneEventRun.published.map toHubEvent
  := ⟨⟨_, rfl⟩, rfl, rfl, rfl,
    stored_of_caught_up 1 openQuery exactStoreQuery ⟨_, rfl⟩ rfl rfl rfl⟩

end

/-! ### Losing an event to lag -/

theorem toHubEvent_burstEvent_inj {i j : Nat}
    (h : toHubEvent (burstEvent i) = toHubEvent (burstEvent j)) : i = j
  := by
  have := congrArg (fun e => (e.get "perf").bind fun perf => perf.get "latency_ms") h
  simpa [toHubEvent_latency, burstEvent, Json.ofOptNat] using this

/-- A burst of `cap + 1` events published before the ingestion task takes a turn, then
`cap + 1` turns of the task whose appends all succeed. -/
def burstRun (cap : Nat) : Hub :=
  Hub.start.run cap openQuery exactStoreQuery
    (((List.range (cap + 1)).map burstEvent).map .publish ++ List.replicate (cap + 1) (.ingest true))

/-- Whatever the capacity of the bus, the burst leaves the ingestion receiver with nothing
pending and the first event of the burst missing from the store. -/
theorem burstRun_loses_first_event (cap : Nat) :
  (burstRun cap).ingestNext = (burstRun cap).published.length ∧
  burstEvent 0 ∈ (burstRun cap).published ∧
  toHubEvent (burstEvent 0) ∉ (burstRun cap).stored
  := by
  set events := (List.range (cap + 1)).map burstEvent with hevents
  have hlen : events.length = cap + 1 := by simp [hevents]
  have hlagged : (Hub.start.run cap openQuery exactStoreQuery (events.map .publish)).step cap
      openQuery exactStoreQuery (.ingest true) = ⟨events, 1, [], 1, 0, ⟨.received, [], 0⟩⟩ := by
    simp [Hub.run_publish, Hub.start, Hub.step, Hub.ingest, recv, hlen]
  have hrun : burstRun cap =
      ⟨events, 1 + cap, ((events.drop 1).take cap).map toHubEvent, 1, 0, ⟨.received, [], 0⟩⟩ := by
    rw [burstRun, Hub.run_append, List.replicate_succ, Hub.run_cons, hlagged,
      Hub.run_ingest cap openQuery exactStoreQuery (by simp only [hlen]; omega)
        (by simp only [hlen]; omega)]
    rfl
  rw [hrun]
  refine ⟨by simp only [hlen]; omega, List.mem_map.mpr ⟨0, by simp, rfl⟩, fun hmem => ?_⟩
  simp only [hevents, List.range_succ_eq_map, List.map_cons, List.drop_succ_cons, List.drop_zero,
    List.map_map, List.mem_map] at hmem
  obtain ⟨x, hx, heq⟩ := hmem
  obtain ⟨i, -, rfl⟩ := List.mem_map.mp (List.mem_of_mem_take hx)
  exact Nat.succ_ne_zero i (toHubEvent_burstEvent_inj heq)

/-- On a bus of capacity 1024, a burst of 1025 events published before the ingestion task
takes a turn loses its first event, although the receiver ends with nothing pending. -/
theorem ingestion_loses_lagged_event :
  (burstRun 1024).ingestNext = (burstRun 1024).published.length ∧
  burstEvent 0 ∈ (burstRun 1024).published ∧
  toHubEvent (burstEvent 0) ∉ (burstRun 1024).stored
  := burstRun_loses_first_event 1024

/-! ### The stream -/

section

variable (cap : Nat) (query : EventStreamQuery)
  (storeQuery : List Json → EventStreamQuery → Except String (List Json))

variable {s : Nat} {hist sent₀ : List Json} {lag₀ : Nat}

end

/-- The request is received; the pipeline publishes an event; the stream queries the store,
where the event is not yet, and subscribes; the ingestion task stores the event; the stream
receives. -/
def gapRun (cap : Nat) : Hub :=
  Hub.start.run cap openQuery exactStoreQuery
    [.publish (burstEvent 0), .stream, .stream, .ingest true, .stream]

/-- On a bus of any capacity, an event published after an unfiltered request is received,
before its stream subscribes, and stored after the stream's query, is never sent: the stream
never lagged, has sent its historical events and caught up, and the store holds the event. -/
theorem stream_misses_unstored_event (cap : Nat) :
  (gapRun (cap + 1)).published = [burstEvent 0] ∧
  (gapRun (cap + 1)).stored = [toHubEvent (burstEvent 0)] ∧
  hubMatchesQuery (toHubEvent (burstEvent 0)) openQuery = true ∧
  (gapRun (cap + 1)).stream.phase = .live [] 1 ∧ (gapRun (cap + 1)).stream.lagged = 0 ∧
  toHubEvent (burstEvent 0) ∉ (gapRun (cap + 1)).stream.sent
  := by
  have hsent : (gapRun (cap + 1)).stream.sent = [] := rfl
  exact ⟨rfl, rfl, rfl, rfl, rfl, hsent ▸ List.not_mem_nil _⟩

end UblGate
