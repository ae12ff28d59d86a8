import UblGate.Mcp

/-!
# The write surface of the gate

The gate writes in three ways only: `process_chip_with_context` hands a chip to the pipeline,
at the end of `submitChipBytes`; `process_knock_rejection` files the deny receipt of a chip
that `submitChipBytes` refuses, in knock or in the write authorization; and
`ChipStore::store_executed_chip` stores a chip.  Four routes reach one of them, and `Request`
lists them with the MCP WebSocket frames:

* `POST /v1/chips` submits its body as an untrusted write, with the request's headers;
* `GET /v1/receipts/{cid}/narrate` with `persist` stores the narration advisory of a
  receipt's chip, and reads no header;
* `POST /registry/_kat_test` submits a known-answer test of the registry as a trusted
  write, without headers;
* `POST /mcp/rpc` and the frames of an MCP WebSocket session run `handleMcpRpcRequest`,
  whose `ubl.deliver` and persisting `ubl.narrate` write.

The other routes of the router read the stores and call neither.  `WriteOrigin` says, for
each of these requests, what every write it performs went through, and
`writeOrigin_of_mem_writes` proves that nothing else writes.
-/

namespace UblGate

/-! ### Narration of a receipt -/

section

variable (host : Host) (state : AppState)

/-- The context `narrate_receipt` gives the LLM proxy for a chip of the given world. -/
def narrationContext (chip : StoredChip) (world : String) : Json :=
  .object [("chip_type", .string chip.chipType), ("chip_body", chip.chipData),
    ("decision", .string "allow"),
    ("latency_ms", .number (.posInt chip.executionMetadata.executionTimeMs)),
    ("fuel_consumed", .number (.posInt chip.executionMetadata.fuelConsumed)),
    ("policy_count", .number (.posInt chip.executionMetadata.policiesApplied.length)),
    ("world", .string world)]

/-- The write storing the advisory of the narration of a receipt's chip. -/
def narrationWrite (receiptCid : String) (chip : StoredChip) (summary : String) : Write :=
  let (body, metadata) :=
    narrationAdvisory host state receiptCid chip (narration host receiptCid chip summary)
  .storeChip body receiptCid metadata

/-- `narrate_receipt`. -/
def narrateReceipt (cid : String) (persist : Option Bool) : Handled :=
  match state.chipStore.getChipByReceiptCid cid with
  | .ok none => ⟨404, errorBody "NOT_FOUND" ("Receipt " ++ cid ++ " not found"), []⟩
  | .error e => ⟨500, errorBody "INTERNAL_ERROR" e, []⟩
  | .ok (some chip) =>
    let world := (chip.chipData.getStr "@world").getD "a/system/t/unknown"
    let summary := (host.llmNarration (narrationContext chip world)).getD (baseSummary chip)
    let narr := narration host cid chip summary
    let reply (persisted : Option String) : Json :=
      .object [("@type", .string "ubl/advisory.narration.response"),
        ("receipt_cid", .string cid), ("narration", narr),
        ("persisted_advisory_cid", (persisted.map .string).getD .null)]
    if persist.getD false then
      let (body, metadata) := narrationAdvisory host state cid chip narr
      match state.chipStore.storeExecutedChip body cid metadata with
      | .ok advCid => ⟨200, reply (some advCid), [.storeChip body cid metadata]⟩
      | .error e =>
        ⟨500, errorBody "INTERNAL_ERROR" ("narration persist failed: " ++ e), []⟩
    else ⟨200, reply none, []⟩

end

/-! ### Known-answer tests of the registry -/

/-- `RegistryKatTestForm`. -/
structure RegistryKatTestForm where
  chipType : String
  version : String
  katIndex : Nat

/-- `RegistryVersionView`, with what `registry_kat_test` reads of it. -/
structure RegistryVersionView where
  kats : List Json

/-- `RegistryTypeView`, with what `registry_kat_test` reads of it: its versions by name. -/
structure RegistryTypeView where
  versions : List (String × RegistryVersionView)

/-- `RegistryView`: the registered types by name. -/
structure RegistryView where
  types : List (String × RegistryTypeView)

/-- `RegistryKatResultTemplate`, the page of a known-answer test that ran or lacks an
input. -/
structure RegistryKatResult where
  statusCode : Nat
  katLabel : String
  expectedDecision : String
  expectedError : String
  actualDecision : String
  actualError : String
  receiptCid : String
  pass : Bool
  responseJson : String
  message : String

/-- What `registry_kat_test` answers: an error envelope with its status, or the result
page. -/
inductive KatTestAnswer where
  | error (status : Nat) (body : Json)
  | page (result : RegistryKatResult)

/-- The result page of a known-answer test whose submission was answered `r`. -/
def katResult (host : Host) (katLabel expectedDecision expectedError : String) (r : Response) :
    RegistryKatResult :=
  let payload := r.body
  let inReceipt (k : String) : Option String := (payload.get "receipt").bind fun v => v.getStr k
  let actualDecision := (payload.getStr "decision").getD "-"
  let actualError := ((payload.getStr "code").orElse fun _ => inReceipt "code").getD "-"
  let receiptCid := ((payload.getStr "receipt_cid").orElse fun _ => inReceipt "receipt_cid").getD "-"
  let decisionMatch := expectedDecision == "-" ||
    Str.contains (Str.toAsciiLowercase actualDecision) (Str.toAsciiLowercase expectedDecision)
  let errorMatch := expectedError == "-" || actualError == expectedError
  let pass := (decide (200 ≤ r.status) && decide (r.status < 300)) && decisionMatch && errorMatch
  ⟨r.status, katLabel, expectedDecision, expectedError, actualDecision, actualError, receiptCid,
    pass, host.toJsonStringPretty payload, if pass then "KAT passed" else "KAT failed"⟩

section

variable (host : Host) (state : AppState) (answer : Submission → Response)

/-- `registry_kat_test`, on the registry `materialize_registry` builds from the chip store:
its answer, and the writes it performs. -/
def registryKatTest (registry : Except String RegistryView) (form : RegistryKatTestForm) :
    KatTestAnswer × List Write :=
  match registry with
  | .error e =>
    (.error 500 (errorBody "INTERNAL_ERROR" ("registry materialization failed: " ++ e)), [])
  | .ok registry =>
    match registry.types.lookup form.chipType with
    | none =>
      (.error 404 (errorBody "NOT_FOUND" ("Registry type '" ++ form.chipType ++ "' not found")),
        [])
    | some typeView =>
      match typeView.versions.lookup form.version with
      | none =>
        (.error 404 (errorBody "NOT_FOUND" ("Registry version '" ++ form.version ++
          "' not found for type '" ++ form.chipType ++ "'")), [])
      | some versionView =>
        match versionView.kats.get? form.katIndex with
        | none =>
          (.error 404 (errorBody "NOT_FOUND" ("KAT index '" ++ toString form.katIndex ++
            "' not found for type '" ++ form.chipType ++ "' version '" ++ form.version ++ "'")),
            [])
        | some kat =>
          let katLabel := (kat.getStr "label").getD "kat"
          let expectedDecision := (kat.getStr "expected_decision").getD "-"
          let expectedError := (kat.getStr "expected_error").getD "-"
          match kat.get "input" with
          | none =>
            (.page ⟨400, katLabel, expectedDecision, expectedError, "-", "missing_kat_input", "-",
              false, "\x7b\x7d", "KAT input missing"⟩, [])
          | some inputChip =>
            let submission := submitChipBytes host state none true (host.toVec inputChip)
            (.page (katResult host katLabel expectedDecision expectedError (answer submission)),
              submission.writes)

/-- `create_chip`, the handler of `POST /v1/chips`. -/
def createChip (headers : HeaderMap) (body : List UInt8) : Submission :=
  submitChipBytes host state (some headers) false body

end

/-! ### Requests that write -/

/-- A request to a route that reaches a write call, or a JSON-RPC frame of an MCP WebSocket
session. -/
inductive Request where
  /-- `POST /v1/chips`. -/
  | createChip (headers : HeaderMap) (body : List UInt8)
  /-- `GET /v1/receipts/{cid}/narrate`, with its `persist` query parameter. -/
  | narrateReceipt (cid : String) (persist : Option Bool)
  /-- `POST /registry/_kat_test`. -/
  | registryKatTest (form : RegistryKatTestForm)
  /-- `POST /mcp/rpc`. -/
  | mcpRpc (headers : HeaderMap) (rpc : Json)
  /-- A frame of the MCP WebSocket session opened with `auth`. -/
  | mcpWsFrame (auth : McpWsAuth) (rpc : Json)

section

variable (host : Host) (state : AppState) (answer : Submission → Response)
  (registry : Except String RegistryView) (limiter : McpTokenRateLimiter) (now : Nat)
  (timedOut : Bool)

/-- The writes handling a request performs, on the registry the chip store materializes and
with the MCP token rate limiter at `now`. -/
def Request.writes : Request → List Write
  | .createChip headers body => (UblGate.createChip host state headers body).writes
  | .narrateReceipt cid persist => (UblGate.narrateReceipt host state cid persist).writes
  | .registryKatTest form => (UblGate.registryKatTest host state answer registry form).2
  | .mcpRpc headers rpc =>
    (handleMcpRpcRequest host state answer limiter now timedOut rpc (some headers) none).2.writes
  | .mcpWsFrame auth rpc =>
    (handleMcpRpcRequest host state answer limiter now timedOut rpc none (some auth)).2.writes

end

/-! ### Where the writes come from -/

section

variable (host : Host) (state : AppState)

/-- `body` knocks to `value`, and the credentials in `headers` authorize `value` as an
untrusted write. -/
def UntrustedAuthorized (headers : Option HeaderMap) (body : List UInt8) (value : Json) :
    Prop :=
  host.knock body = .ok value ∧ ∃ hint, writeAuthorization host state headers
    (knockCidFromBytes host body) (actorHintFromHeaders host headers) value = .ok hint

/-- A write of a submission of `body`, and what it went through.  A chip handed to the
pipeline passed knock and, on the untrusted path, the write authorization of `headers`.  A
deny receipt is filed under the body's knock CID and records a refusal: knock's, with its
reason code, or that of the write authorization on the untrusted path, coded
`POLICY_DENIED` or `UNAUTHORIZED`. -/
inductive SubmittedWrite (headers : Option HeaderMap) (trustedWrite : Bool) (body : List UInt8) :
    Write → Prop where
  | pipeline {value ctx} (hk : host.knock body = .ok value)
      (hauth : trustedWrite = false → UntrustedAuthorized host state headers body value) :
      SubmittedWrite headers trustedWrite body (.pipeline (chipRequest value) ctx)
  | knockRefused {e subjectDid} (hk : host.knock body = .error e) :
      SubmittedWrite headers trustedWrite body
        (.denyReceipt (knockCidFromBytes host body) (knockReasonCode e) e subjectDid)
  | writeRefused {value d} (ht : trustedWrite = false) (hk : host.knock body = .ok value)
      (hd : writeAuthorization host state headers (knockCidFromBytes host body)
        (actorHintFromHeaders host headers) value = .error d)
      (hcode : d.errCode = .policyDenied ∨ d.errCode = .unauthorized) :
      SubmittedWrite headers trustedWrite body
        (.denyReceipt (knockCidFromBytes host body) d.errCode.wireName d.reasonMsg d.subjectDid)

/-- What a write of a request went through, route by route.  Only `POST /v1/chips` and
`POST /mcp/rpc` submit a chip as an untrusted write, with the request's headers; the known
answer test and a WebSocket session submit it as trusted, the session after a scope check
of its own; a narration is stored for any receipt whose chip the store holds. -/
inductive WriteOrigin : Request → Write → Prop where
  | createChip {headers body w} (h : SubmittedWrite host state (some headers) false body w) :
      WriteOrigin (.createChip headers body) w
  | mcpDeliver {headers rpc body w} (h : SubmittedWrite host state (some headers) false body w) :
      WriteOrigin (.mcpRpc headers rpc) w
  | mcpNarrate {headers rpc receiptCid chip}
      (hchip : state.chipStore.getChipByReceiptCid receiptCid = .ok (some chip)) :
      WriteOrigin (.mcpRpc headers rpc) (narrationWrite host state receiptCid chip (baseSummary chip))
  | wsDeliver {auth rpc body w} (hscope : mcpScopeAllowsWrite auth = true)
      (h : SubmittedWrite host state none true body w) :
      WriteOrigin (.mcpWsFrame auth rpc) w
  | wsNarrate {auth rpc receiptCid chip} (hscope : mcpScopeAllowsWrite auth = true)
      (hchip : state.chipStore.getChipByReceiptCid receiptCid = .ok (some chip)) :
      WriteOrigin (.mcpWsFrame auth rpc)
        (narrationWrite host state receiptCid chip (baseSummary chip))
  | katInput {form body w} (h : SubmittedWrite host state none true body w) :
      WriteOrigin (.registryKatTest form) w
  | narrateRoute {cid chip summary}
      (hchip : state.chipStore.getChipByReceiptCid cid = .ok (some chip)) :
      WriteOrigin (.narrateReceipt cid (some true)) (narrationWrite host state cid chip summary)

variable (answer : Submission → Response)

/-- `submitChipBytes` hands to the pipeline only the chip its body knocks to, and on the
untrusted path only when the headers authorize it. -/
theorem submitChipBytes_eq_pipeline {headers : Option HeaderMap} {trustedWrite : Bool}
    {body : List UInt8} {request : ChipRequest} {ctx : AuthorshipContext}
    (h : submitChipBytes host state headers trustedWrite body = .pipeline request ctx) :
  ∃ value, request = chipRequest value ∧ host.knock body = .ok value ∧
    (trustedWrite = false → UntrustedAuthorized host state headers body value)
  := by
  unfold submitChipBytes at h
  cases hk : host.knock body with
  | error e => simp [hk] at h
  | ok value =>
    simp only [hk] at h
    split at h
    · cases h
    · rename_i hint hauth
      split at h
      · cases h
      · cases h
        refine ⟨value, rfl, rfl, fun ht => ⟨hk, hint, ?_⟩⟩
        simpa [ht] using hauth

/-- Every write of a submission is one `SubmittedWrite` records. -/
theorem mem_submitChipBytes_writes {headers : Option HeaderMap} {trustedWrite : Bool}
    {body : List UInt8} {w : Write}
    (hw : w ∈ (submitChipBytes host state headers trustedWrite body).writes) :
  SubmittedWrite host state headers trustedWrite body w
  := by
  unfold submitChipBytes at hw
  cases hk : host.knock body with
  | error e =>
    simp only [hk, Submission.writes, List.mem_singleton] at hw
    exact hw ▸ .knockRefused hk
  | ok value =>
    simp only [hk] at hw
    split at hw
    · rename_i d hauth
      simp only [Submission.writes, List.mem_singleton] at hw
      cases trustedWrite
      · have hd : writeAuthorization host state headers (knockCidFromBytes host body)
            (actorHintFromHeaders host headers) value = .error d := by simpa using hauth
        obtain ⟨hcid, -, hreason, hcode⟩ := writeAuthorization_error host state hd
        rw [hw, hcid, hreason]
        exact .writeRefused rfl hk hd hcode
      · cases hauth
    · rename_i hint hauth
      split at hw
      · simp [Submission.writes] at hw
      · simp only [Submission.writes, List.mem_singleton] at hw
        exact hw ▸ .pipeline hk fun ht => ⟨hk, hint, by simpa [ht] using hauth⟩

theorem mem_narrateTool_writes {arguments id : Json} {w : Write}
    (hw : w ∈ (narrateTool host state arguments id).writes) :
  isWriteToolCall "ubl.narrate" arguments = true ∧
    ∃ receiptCid chip, state.chipStore.getChipByReceiptCid receiptCid = .ok (some chip) ∧
      w = narrationWrite host state receiptCid chip (baseSummary chip)
  := by
  unfold narrateTool at hw
  dsimp only at hw
  split at hw
  · simp at hw
  · split at hw
    · simp at hw
    · simp at hw
    · rename_i chip hchip
      split at hw
      · rename_i hpersist
        split at hw
        · simp only [List.mem_singleton] at hw
          exact ⟨hpersist, _, chip, hchip, hw⟩
        · simp at hw
      · simp at hw

/-- A write of a tool call is a write of the submission of `ubl.deliver`, untrusted unless
the call comes over a WebSocket session, or the advisory of a persisting `ubl.narrate`;
either way the call is a write tool call. -/
theorem mem_dispatchToolCall_writes {toolName : String} {arguments id : Json}
    {mcpHeaders : Option HeaderMap} {wsAuth : Option McpWsAuth} {w : Write}
    (hw : w ∈ (dispatchToolCall host state answer toolName arguments id mcpHeaders wsAuth).writes) :
  isWriteToolCall toolName arguments = true ∧
    ((∃ body, SubmittedWrite host state mcpHeaders wsAuth.isSome body w) ∨
      ∃ receiptCid chip, state.chipStore.getChipByReceiptCid receiptCid = .ok (some chip) ∧
        w = narrationWrite host state receiptCid chip (baseSummary chip))
  := by
  unfold dispatchToolCall at hw
  split at hw
  case h_1 hname =>
    dsimp only [deliverTool] at hw
    exact ⟨by simp only [isWriteToolCall, hname], .inl ⟨_, mem_submitChipBytes_writes host state hw⟩⟩
  case h_8 hname =>
    obtain ⟨hpersist, hnarr⟩ := mem_narrateTool_writes host state hw
    exact ⟨by simpa only [isWriteToolCall, hname] using hpersist, .inr hnarr⟩
  all_goals simp at hw

/-- A write of a JSON-RPC request is a write of the tool call it makes; over a WebSocket
session, that call is a write tool call only when the session's scope allows writing. -/
theorem mem_handleMcpRpcRequest_writes {limiter : McpTokenRateLimiter} {now : Nat}
    {timedOut : Bool} {rpc : Json} {mcpHeaders : Option HeaderMap} {wsAuth : Option McpWsAuth}
    {w : Write}
    (hw : w ∈ (handleMcpRpcRequest host state answer limiter now timedOut rpc mcpHeaders
      wsAuth).2.writes) :
  ∃ toolName arguments id,
    w ∈ (dispatchToolCall host state answer toolName arguments id mcpHeaders wsAuth).writes ∧
    ∀ auth, wsAuth = some auth → isWriteToolCall toolName arguments = true →
      mcpScopeAllowsWrite auth = true
  := by
  unfold handleMcpRpcRequest at hw
  -- an invalid request, `tools/list` and an unknown method write nothing
  by_cases hv : (rpc.getStr "jsonrpc" != some "2.0") = true
  · rw [if_pos hv] at hw
    exact absurd hw (List.not_mem_nil _)
  rw [if_neg hv] at hw
  by_cases hl : (rpc.getStr "method").getD "" = "tools/list"
  · rw [if_pos hl] at hw
    exact absurd hw (List.not_mem_nil _)
  rw [if_neg hl] at hw
  by_cases hc : (rpc.getStr "method").getD "" = "tools/call"
  swap
  · rw [if_neg hc] at hw
    exact absurd hw (List.not_mem_nil _)
  rw [if_pos hc] at hw
  -- `tools/call`: over HTTP the call is dispatched; over a WebSocket it is charged first
  rcases wsAuth with _ | auth
  · cases timedOut <;> exact ⟨_, _, _, hw, nofun⟩
  rcases hlim : limiter.checkAt auth.tokenId now with ⟨l', _ | r⟩ <;> simp only [hlim] at hw
  · split_ifs at hw with hwrite <;> try exact absurd hw (List.not_mem_nil _)
    all_goals
      refine ⟨_, _, _, hw, fun a ha hwr => ?_⟩
      cases ha
      simpa [hwr] using hwrite
  · exact absurd hw (List.not_mem_nil _)

theorem mem_registryKatTest_writes {registry : Except String RegistryView}
    {form : RegistryKatTestForm} {w : Write}
    (hw : w ∈ (registryKatTest host state answer registry form).2) :
  ∃ body, w ∈ (submitChipBytes host state none true body).writes
  := by
  unfold registryKatTest at hw
  repeat' split at hw
  all_goals first | (simp at hw; done) | exact ⟨_, hw⟩

theorem mem_narrateReceipt_writes {cid : String} {persist : Option Bool} {w : Write}
    (hw : w ∈ (narrateReceipt host state cid persist).writes) :
  persist = some true ∧ ∃ chip summary,
    state.chipStore.getChipByReceiptCid cid = .ok (some chip) ∧
    w = narrationWrite host state cid chip summary
  := by
  unfold narrateReceipt at hw
  split at hw
  · simp at hw
  · simp at hw
  · rename_i chip hchip
    dsimp only at hw
    split at hw
    · rename_i hpersist
      split at hw
      · simp only [List.mem_singleton] at hw
        refine ⟨?_, chip, _, hchip, hw⟩
        cases persist <;> simp_all
      · simp at hw
    · simp at hw

variable (registry : Except String RegistryView) (limiter : McpTokenRateLimiter) (now : Nat)
  (timedOut : Bool)

/-- Every write a request performs went through what `WriteOrigin` records for its route. -/
theorem writeOrigin_of_mem_writes {r : Request} {w : Write}
    (hw : w ∈ r.writes host state answer registry limiter now timedOut) :
  WriteOrigin host state r w
  := by
  cases r with
  | createChip headers body => exact .createChip (mem_submitChipBytes_writes host state hw)
  | narrateReceipt cid persist =>
    obtain ⟨rfl, chip, summary, hchip, rfl⟩ := mem_narrateReceipt_writes host state hw
    exact .narrateRoute hchip
  | registryKatTest form =>
    obtain ⟨body, hw⟩ := mem_registryKatTest_writes host state answer hw
    exact .katInput (mem_submitChipBytes_writes host state hw)
  | mcpRpc headers rpc =>
    obtain ⟨toolName, arguments, id, hw, -⟩ := mem_handleMcpRpcRequest_writes host state answer hw
    obtain ⟨-, ⟨body, hsub⟩ | ⟨receiptCid, chip, hchip, rfl⟩⟩ :=
      mem_dispatchToolCall_writes host state answer hw
    · exact .mcpDeliver hsub
    · exact .mcpNarrate hchip
  | mcpWsFrame auth rpc =>
    obtain ⟨toolName, arguments, id, hw, hscope⟩ :=
      mem_handleMcpRpcRequest_writes host state answer hw
    obtain ⟨hwrite, ⟨body, hsub⟩ | ⟨receiptCid, chip, hchip, rfl⟩⟩ :=
      mem_dispatchToolCall_writes host state answer hw
    · exact .wsDeliver (hscope auth rfl hwrite) hsub
    · exact .wsNarrate (hscope auth rfl hwrite) hchip

end

/-! ### A narration stored without credentials -/

/-- The stored chip of the receipt `b3:r`: the demo chip. -/
def demoReceiptChip : StoredChip :=
  ⟨"b3:chip", "ubl/document", demoChip, "b3:r", "", demoMetadata⟩

/-- The demo gate state, whose auth-required policy has no key and no public lane, with a
chip store that holds `demoReceiptChip` under every receipt CID and stores every chip. -/
def narrateState : AppState :=
  { demoState with chipStore := { demoChipStore with
      getChipByReceiptCid := fun _ => .ok (some demoReceiptChip)
      storeExecutedChip := fun _ _ _ => .ok "b3:advisory" } }

theorem writeOrigin_of_mem_writes_narrate :
  ∃ w, w ∈ (Request.narrateReceipt "b3:r" (some true)).writes demoHost narrateState
      (fun _ => ⟨200, [], .null⟩) (.error "") ⟨120, fun _ => []⟩ 0 false ∧
    WriteOrigin demoHost narrateState (.narrateReceipt "b3:r" (some true)) w
  := ⟨_, List.mem_singleton_self _, writeOrigin_of_mem_writes demoHost narrateState
    (fun _ => ⟨200, [], .null⟩) (.error "") ⟨120, fun _ => []⟩ 0 false (List.mem_singleton_self _)⟩

/-- Under a policy that requires authentication, `GET /v1/receipts/b3:r/narrate?persist=true`
sent without credentials stores an advisory chip in the chip store, although a request
without credentials fails the write authorization of an untrusted submission of that chip. -/
theorem narrateReceipt_stores_unauthenticated :
  narrateState.writeAccessPolicy.authRequired = true ∧
  ∃ body metadata,
    (narrateReceipt demoHost narrateState "b3:r" (some true)).writes =
      [.storeChip body "b3:r" metadata] ∧
    ∀ knockCid actorHint,
      (writeAuthorization demoHost narrateState none knockCid actorHint body).toOption = none
  := ⟨rfl, _, _, rfl, fun _ _ => rfl⟩

end UblGate
