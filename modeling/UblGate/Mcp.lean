import UblGate.Submit
import UblGate.Receipt
import UblGate.RateLimiter

/-!
# MCP tools

The JSON-RPC front of the gate.  `handleMcpRpcRequest` answers `tools/list` and
`tools/call`; a call over a WebSocket session is first charged to the session's token in
the MCP token rate limiter, and a write tool (`ubl.deliver`, `ubl.narrate` with
`persist`) needs a session scope of `write` or `mcp:write`.  `dispatchToolCall` runs the
tool.  `ubl.deliver` re-serializes the `chip` argument and submits it through
`submitChipBytes`, trusted when it comes over a WebSocket session; `ubl.narrate` with
`persist` stores an advisory chip.  Those are the only writes a tool call performs, the
deny receipt of a refused submission included, and `Handled.writes` lists them.

`ubl.receipt` answers a stored receipt without checking its auth chain: of all the reads
of a tampered receipt, it is the one that serves it (`tamperedReceipt_readPaths`).

What `submitChipBytes` answers once the pipeline has run is the business of the pipeline
crate; the section variable `answer` stands for it.
-/

namespace UblGate

/-- A write a handler performs. -/
inductive Write where
  /-- A chip handed to the pipeline by `process_chip_with_context`. -/
  | pipeline (request : ChipRequest) (ctx : AuthorshipContext)
  /-- A chip stored by `ChipStore::store_executed_chip`. -/
  | storeChip (body : Json) (receiptCid : String) (metadata : ExecutionMetadata)
  /-- The deny receipt `process_knock_rejection` issues for the knock CID, the reason code
  and message, and the subject. -/
  | denyReceipt (knockCid reasonCode reasonMsg subjectDid : String)

/-- The writes a submission performs: the deny receipt of a knock rejection and of a write
denial (`deny_write_with_receipt` calls `process_knock_rejection` too), the pipeline
hand-off, and nothing for a 429 answer. -/
def Submission.writes : Submission → List Write
  | .knockRejection knockCid reasonCode reasonMsg subjectDid =>
    [.denyReceipt knockCid reasonCode reasonMsg subjectDid]
  | .writeDenied d => [.denyReceipt d.knockCid d.reasonCode d.reasonMsg d.subjectDid]
  | .rateLimited _ _ => []
  | .pipeline request ctx => [.pipeline request ctx]

/-- A handled request: the status, the JSON answer and the writes performed. -/
structure Handled where
  status : Nat
  payload : Json
  writes : List Write

/-- `mcp_error_value`. -/
def mcpErrorValue (id : Json) (code : Int) (message : String) (data : Option Json) : Json :=
  .object [("jsonrpc", .string "2.0"), ("id", id), ("error", .object
    ([("code", Json.ofInt code), ("message", .string message)] ++
      (data.map fun d => [("data", d)]).getD []))]

/-- A tool result whose single content item is the text. -/
def toolText (id : Json) (text : String) : Json :=
  .object [("jsonrpc", .string "2.0"), ("id", id), ("result", .object
    [("content", .array [.object [("type", .string "text"), ("text", .string text)]])])]

/-- `canonical_tool_name`. -/
def canonicalToolName (name : String) : String :=
  match name with
  | "ubl.chip.submit" => "ubl.deliver"
  | "ubl.chip.get" => "ubl.query"
  | "ubl.chip.verify" => "ubl.verify"
  | other => other

/-- `is_write_tool_call`. -/
def isWriteToolCall (toolName : String) (arguments : Json) : Bool :=
  match canonicalToolName toolName with
  | "ubl.deliver" => true
  | "ubl.narrate" => ((arguments.get "persist").bind Json.asBool).getD false
  | _ => false

/-- `mcp_scope_allows_write`. -/
def mcpScopeAllowsWrite (auth : McpWsAuth) : Bool :=
  scopeAllowsAny auth.scope ["write", "mcp:write"]

/-- The MCP error code of a failed delivery, from its HTTP status. -/
def deliverStatusCode (status : Nat) : Int :=
  if status = 429 then -32006
  else if status = 400 ∨ status = 422 then -32602
  else if status = 401 then -32001
  else if status = 403 then -32003
  else if status = 404 then -32004
  else if status = 409 then -32005
  else if status = 503 then -32000
  else -32603

/-- The narration `ubl.narrate` and `narrate_receipt` build for a chip. -/
def narration (host : Host) (receiptCid : String) (chip : StoredChip) (summary : String) : Json :=
  .object [("@type", .string "ubl/advisory.narration"), ("receipt_cid", .string receiptCid),
    ("chip_cid", .string chip.cid), ("chip_type", .string chip.chipType),
    ("decision", .string "allow"),
    ("world", .string ((chip.chipData.getStr "@world").getD "a/system/t/unknown")),
    ("policy_count", .number (.posInt chip.executionMetadata.policiesApplied.length)),
    ("latency_ms", .number (.posInt chip.executionMetadata.executionTimeMs)),
    ("fuel_consumed", .number (.posInt chip.executionMetadata.fuelConsumed)),
    ("summary", .string summary), ("generated_at", .string host.nowRfc3339)]

/-- The summary a narration starts from. -/
def baseSummary (chip : StoredChip) : String :=
  chip.chipType ++ " processed as allow in " ++ toString chip.executionMetadata.executionTimeMs ++
    "ms (fuel " ++ toString chip.executionMetadata.fuelConsumed ++ ", policies " ++
    toString chip.executionMetadata.policiesApplied.length ++ ")."

/-- The advisory chip a persisted narration stores, and its execution metadata. -/
def narrationAdvisory (host : Host) (state : AppState) (receiptCid : String) (chip : StoredChip)
    (narration : Json) : Json × ExecutionMetadata :=
  (host.advisoryToChipBody
      ⟨state.passportCid, "narrate", receiptCid, narration, 90, state.advisoryModel, .onDemand⟩,
    ⟨"advisory/on-demand", 0, 0, [], chip.executionMetadata.executorDid, true⟩)

section

variable (host : Host) (state : AppState) (answer : Submission → Response)

/-- `ubl.deliver`. -/
def deliverTool (arguments id : Json) (mcpHeaders : Option HeaderMap)
    (wsAuth : Option McpWsAuth) : Handled :=
  let chip := (arguments.get "chip").getD (.object [])
  let bytes := host.toVec chip
  let submission := submitChipBytes host state mcpHeaders wsAuth.isSome bytes
  let r := answer submission
  let payload :=
    if 200 ≤ r.status ∧ r.status < 300 then toolText id (host.toJsonString r.body)
    else
      let (mcpCode, message) := match host.ublErrorOfJson r.body with
        | some e => (host.mcpCode e.code, e.message)
        | none => (deliverStatusCode r.status, "HTTP " ++ toString r.status)
      .object [("jsonrpc", .string "2.0"), ("id", id), ("error", .object
        [("code", Json.ofInt mcpCode), ("message", .string message), ("data", r.body)])]
  ⟨200, payload, submission.writes⟩

/-- `ubl.receipt`. -/
def receiptTool (arguments id : Json) : Json :=
  let cid := (arguments.getStr "cid").getD ""
  if cid.isEmpty then mcpErrorValue id (-32602) "missing required argument: cid" none
  else
    match state.durableStore with
    | none => mcpErrorValue id (-32000) "receipt store unavailable" none
    | some store =>
      match store.getReceipt cid with
      | .ok (some receipt) => toolText id (host.toJsonString receipt)
      | .ok none => mcpErrorValue id (-32004) ("Receipt " ++ cid ++ " not found") none
      | .error e => mcpErrorValue id (-32603) e none

/-- `ubl.receipt.trace`. -/
def receiptTraceTool (arguments id : Json) : Json :=
  let cid := (arguments.getStr "cid").getD ""
  if cid.isEmpty then mcpErrorValue id (-32602) "missing required argument: cid" none
  else
    let receiptCheck : Option Json :=
      match state.durableStore with
      | none => none
      | some store =>
        match store.getReceipt cid with
        | .ok (some receiptJson) =>
          match verifyReceiptAuthChain host cid receiptJson with
          | .error e => some (mcpErrorValue id (host.mcpCode e.code) e.message (some e.toJson))
          | .ok () => none
        | .ok none => some (mcpErrorValue id (-32004) ("Receipt " ++ cid ++ " not found") none)
        | .error e => some (mcpErrorValue id (-32603) ("Receipt fetch failed: " ++ e) none)
    match receiptCheck with
    | some r => r
    | none =>
      match state.chipStore.getChipByReceiptCid cid with
      | .ok (some chip) =>
        toolText id (host.toJsonString (.object [("receipt_cid", .string cid),
          ("chip_cid", .string chip.cid), ("chip_type", .string chip.chipType),
          ("execution_metadata", .object [
            ("runtime_version", .string chip.executionMetadata.runtimeVersion),
            ("execution_time_ms", .number (.posInt chip.executionMetadata.executionTimeMs)),
            ("fuel_consumed", .number (.posInt chip.executionMetadata.fuelConsumed)),
            ("policies_applied", .array (chip.executionMetadata.policiesApplied.map .string)),
            ("executor_did", .string chip.executionMetadata.executorDid),
            ("reproducible", .bool chip.executionMetadata.reproducible)])]))
      | .ok none => mcpErrorValue id (-32004) ("Receipt " ++ cid ++ " not found") none
      | .error e => mcpErrorValue id (-32603) e none

/-- `ubl.cid`. -/
def cidTool (arguments id : Json) : Json :=
  let payload := ((arguments.get "value").orElse fun _ => (arguments.get "json").orElse
    fun _ => arguments.get "chip").getD (.object [])
  match (host.toNrf1Bytes payload).bind host.computeCid with
  | .ok c => toolText id (host.toJsonString (.object [("cid", .string c)]))
  | .error e => mcpErrorValue id (-32602) ("CID compute failed: " ++ e) none

/-- `ubl.query` and `ubl.verify`: the stored chip of a CID, or whether its CID recomputes. -/
def chipTool (tool : String) (arguments id : Json) : Json :=
  let cid := (arguments.getStr "cid").getD ""
  match state.chipStore.getChip cid with
  | .ok (some chip) =>
    if tool = "ubl.query" then
      toolText id (host.toJsonString (.object [("cid", .string chip.cid),
        ("chip_type", .string chip.chipType), ("chip_data", chip.chipData),
        ("receipt_cid", .string chip.receiptCid)]))
    else
      let verified := match (host.toNrf1Bytes chip.chipData).bind host.computeCid with
        | .ok c => c == cid
        | .error _ => false
      toolText id (host.toJsonString (.object [("cid", .string cid),
        ("verified", .bool verified)]))
  | .ok none => mcpErrorValue id (-32004) ("Chip " ++ cid ++ " not found") none
  | .error e => mcpErrorValue id (-32603) e none

/-- `ubl.rb.execute`. -/
def rbExecuteTool (arguments id : Json) : Json :=
  let bytecodeHex := (arguments.getStr "bytecode_hex").getD ""
  if bytecodeHex.isEmpty then
    mcpErrorValue id (-32602) "missing required argument: bytecode_hex" none
  else
    let fuelLimit := max (((arguments.get "fuel_limit").bind Json.asU64).getD 1000000) 1
    match host.hexDecode bytecodeHex with
    | .error e => mcpErrorValue id (-32602) ("invalid bytecode_hex: " ++ e) none
    | .ok bytecode =>
      match host.rbExecute bytecode fuelLimit with
      | .ok outcome => toolText id (host.toJsonString outcome)
      | .error (.decode e) => mcpErrorValue id (-32602) ("invalid bytecode stream: " ++ e) none
      | .error (.run e) => mcpErrorValue id (-32602) ("rb execute failed: " ++ e) none

/-- `ubl.narrate`. -/
def narrateTool (arguments id : Json) : Handled :=
  let receiptCid := (arguments.getStr "cid").getD ""
  let persist := ((arguments.get "persist").bind Json.asBool).getD false
  if receiptCid.isEmpty then
    ⟨200, mcpErrorValue id (-32602) "missing required argument: cid" none, []⟩
  else
    match state.chipStore.getChipByReceiptCid receiptCid with
    | .ok none => ⟨200, mcpErrorValue id (-32004) ("Receipt " ++ receiptCid ++ " not found") none, []⟩
    | .error e => ⟨200, mcpErrorValue id (-32603) e none, []⟩
    | .ok (some chip) =>
      let narr := narration host receiptCid chip (baseSummary chip)
      let reply (persisted : Option String) : Json :=
        toolText id (host.toJsonString (.object [("receipt_cid", .string receiptCid),
          ("narration", narr), ("persisted_advisory_cid", (persisted.map .string).getD .null)]))
      if persist then
        let (body, metadata) := narrationAdvisory host state receiptCid chip narr
        match state.chipStore.storeExecutedChip body receiptCid metadata with
        | .ok advCid => ⟨200, reply (some advCid), [.storeChip body receiptCid metadata]⟩
        | .error e =>
          ⟨200, mcpErrorValue id (-32603) ("narration persist failed: " ++ e) none, []⟩
      else ⟨200, reply none, []⟩

/-- `registry.listTypes`. -/
def listTypesTool (id : Json) : Json :=
  toolText id (host.toJsonString (.array (state.manifestChipTypes.map fun ct =>
    .object [("type", .string ct.chipType), ("description", ct.description),
      ("required_cap", ct.requiredCap)])))

/-- `dispatch_tool_call`. -/
def dispatchToolCall (toolName : String) (arguments id : Json) (mcpHeaders : Option HeaderMap)
    (wsAuth : Option McpWsAuth) : Handled :=
  let reply (payload : Json) : Handled := ⟨200, payload, []⟩
  match canonicalToolName toolName with
  | "ubl.deliver" => deliverTool host state answer arguments id mcpHeaders wsAuth
  | "ubl.query" => reply (chipTool host state "ubl.query" arguments id)
  | "ubl.receipt" => reply (receiptTool host state arguments id)
  | "ubl.verify" => reply (chipTool host state "ubl.verify" arguments id)
  | "ubl.receipt.trace" => reply (receiptTraceTool host state arguments id)
  | "ubl.cid" => reply (cidTool host arguments id)
  | "ubl.rb.execute" => reply (rbExecuteTool host arguments id)
  | "ubl.narrate" => narrateTool host state arguments id
  | "registry.listTypes" => reply (listTypesTool host state id)
  | _ => reply (mcpErrorValue id (-32601) ("Tool not found: " ++ toolName) none)

/-- `handle_mcp_rpc_request`, with the MCP token rate limiter it charges, the instant the
limiter reads, and whether the 30 s timeout elapsed before the tool call finished.  A
timed-out call performs at most the writes of the finished one, and those are recorded. -/
def handleMcpRpcRequest (limiter : McpTokenRateLimiter) (now : Nat) (timedOut : Bool)
    (rpc : Json) (mcpHeaders : Option HeaderMap) (wsAuth : Option McpWsAuth) :
    McpTokenRateLimiter × Handled :=
  let id := (rpc.get "id").getD .null
  let method := (rpc.getStr "method").getD ""
  let params := (rpc.get "params").getD (.object [])
  if rpc.getStr "jsonrpc" != some "2.0" then
    (limiter, ⟨400, mcpErrorValue id (-32600) "Invalid Request: missing jsonrpc 2.0" none, []⟩)
  else if method = "tools/list" then
    (limiter, ⟨200, .object [("jsonrpc", .string "2.0"), ("id", id),
      ("result", .object [("tools", state.mcpTools)])], []⟩)
  else if method = "tools/call" then
    let toolName := (params.getStr "name").getD ""
    let arguments := (params.get "arguments").getD (.object [])
    let charged : McpTokenRateLimiter × Option Handled :=
      match wsAuth with
      | none => (limiter, none)
      | some auth =>
        match limiter.checkAt auth.tokenId now with
        | (limiter', some retryAfter) =>
          (limiter', some ⟨200, mcpErrorValue id (-32006)
            ("Rate limit exceeded for token; retry in " ++ toString retryAfter ++ "s")
            (some (.object [("retry_after_seconds", .number (.posInt retryAfter))])), []⟩)
        | (limiter', none) =>
          if isWriteToolCall toolName arguments && !mcpScopeAllowsWrite auth then
            (limiter', some ⟨200, mcpErrorValue id (host.mcpCode .policyDenied)
              "token scope does not allow write tools"
              (some (.object [("tool", .string toolName),
                ("required_scope", .string "write|*")])), []⟩)
          else (limiter', none)
    match charged with
    | (limiter', some refused) => (limiter', refused)
    | (limiter', none) =>
      let handled := dispatchToolCall host state answer toolName arguments id mcpHeaders wsAuth
      if timedOut then
        (limiter', ⟨200, mcpErrorValue id (-32000) "Tool call timed out (30s limit)"
          (some (.object [("timeout_seconds", .number (.posInt 30))])), handled.writes⟩)
      else (limiter', handled)
  else
    (limiter, ⟨200, mcpErrorValue id (-32601) ("Method not found: " ++ method) none, []⟩)

/-! ### Receipt reads over MCP -/

/-- `ubl.receipt.trace` answers a tamper error, carrying the `TAMPER_DETECTED` envelope, for
a tampered receipt. -/
theorem receiptTraceTool_of_tampered {store : DurableStore} {k : String} {r : Json}
    (hstore : state.durableStore = some store) (hr : store.getReceipt k = .ok (some r))
    (ht : Tampered host r) (hk : k ≠ "") (id : Json) :
  ∃ e : UblError, e.code = .tamperDetected ∧
    receiptTraceTool host state (.object [("cid", .string k)]) id =
      mcpErrorValue id (host.mcpCode e.code) e.message (some e.toJson)
  := by
  obtain ⟨e, he, hc⟩ := verifyReceiptAuthChain_of_tampered host (k := k) ht
  refine ⟨e, hc, ?_⟩
  simp [receiptTraceTool, Json.getStr, isEmpty_eq_false hk, hstore, hr, he]

/-- `ubl.receipt` answers the receipt stored under the CID as it is, whatever the receipt:
it runs no auth chain check, so a tampered receipt comes back as if valid. -/
theorem receiptTool_answers_unverified (k : String) (r id : Json) :
  dispatchToolCall host { state with durableStore := some ⟨fun _ => .ok (some r)⟩ } answer
      "ubl.receipt" (.object [("cid", .string ("b3:" ++ k))]) id none none =
    ⟨200, toolText id (host.toJsonString r), []⟩
  -- The CID is not empty, whatever `k` is, and nothing else is tested before the answer.
  := rfl

/-- `ubl.receipt` answers the receipt stored under a CID as it is. -/
theorem receiptTool_of_stored {store : DurableStore} {k : String} {r : Json}
    (hstore : state.durableStore = some store) (hr : store.getReceipt k = .ok (some r))
    (hk : k ≠ "") (id : Json) :
  receiptTool host state (.object [("cid", .string k)]) id = toolText id (host.toJsonString r)
  := by
  simp [receiptTool, Json.getStr, isEmpty_eq_false hk, hstore, hr]

/-- Of the reads of a receipt whose auth chain does not verify (or that does not parse), one
serves it: the MCP tool `ubl.receipt`, over `POST /mcp/rpc` or a WebSocket session, answers
the stored receipt as it is.  Every other read answers the `TAMPER_DETECTED` envelope in its
place: `GET /v1/receipts/{k}` (unless a conditional GET answers 304 first), its public URL
and its trace, the verification of every chip whose receipt it is, and `ubl.receipt.trace`. -/
theorem tamperedReceipt_readPaths {store : DurableStore} {k : String} {r : Json}
    (hstore : state.durableStore = some store) (hr : store.getReceipt k = .ok (some r))
    (ht : Tampered host r) {headers : HeaderMap} (hcid : Str.startsWith k "b3:" = true)
    (hnm : notModified k headers = none) (id : Json) (mcpHeaders : Option HeaderMap)
    (wsAuth : Option McpWsAuth) :
  (dispatchToolCall host state answer "ubl.receipt" (.object [("cid", .string k)]) id mcpHeaders
      wsAuth).payload = toolText id (host.toJsonString r) ∧
  (IsTamperAnswer (getReceipt host state k headers) ∧
    IsTamperAnswer (getReceiptPublicUrl host state k) ∧
    IsTamperAnswer (getReceiptTrace host state k) ∧
    ∀ cid chip, Str.startsWith cid "b3:" = true → state.chipStore.getChip cid = .ok (some chip) →
      chip.receiptCid = k → IsTamperAnswer (verifyChip host state cid)) ∧
  ∃ e : UblError, e.code = .tamperDetected ∧
    (dispatchToolCall host state answer "ubl.receipt.trace" (.object [("cid", .string k)]) id
      mcpHeaders wsAuth).payload = mcpErrorValue id (host.mcpCode e.code) e.message (some e.toJson)
  := ⟨receiptTool_of_stored host state hstore hr (ne_empty_of_startsWith_b3 hcid) id,
    receiptReads_of_tampered hstore hr ht hcid hnm,
    receiptTraceTool_of_tampered host state hstore hr ht (ne_empty_of_startsWith_b3 hcid) id⟩

theorem tamperedReceipt_readPaths_sample :
  brokenChainState.durableStore = some nullReceiptStore ∧
    nullReceiptStore.getReceipt "b3:r" = .ok (some .null) ∧ Tampered brokenChainHost .null ∧
    Str.startsWith "b3:r" "b3:" = true ∧ notModified "b3:r" ⟨[]⟩ = none ∧
    (dispatchToolCall brokenChainHost brokenChainState (fun _ => ⟨200, [], .null⟩) "ubl.receipt"
        (.object [("cid", .string "b3:r")]) .null none none).payload =
      toolText .null (brokenChainHost.toJsonString .null) ∧
    (IsTamperAnswer (getReceipt brokenChainHost brokenChainState "b3:r" ⟨[]⟩) ∧
      IsTamperAnswer (getReceiptPublicUrl brokenChainHost brokenChainState "b3:r") ∧
      IsTamperAnswer (getReceiptTrace brokenChainHost brokenChainState "b3:r") ∧
      ∀ cid chip, Str.startsWith cid "b3:" = true →
        brokenChainState.chipStore.getChip cid = .ok (some chip) → chip.receiptCid = "b3:r" →
        IsTamperAnswer (verifyChip brokenChainHost brokenChainState cid)) ∧
    ∃ e : UblError, e.code = .tamperDetected ∧
      (dispatchToolCall brokenChainHost brokenChainState (fun _ => ⟨200, [], .null⟩)
        "ubl.receipt.trace" (.object [("cid", .string "b3:r")]) .null none none).payload =
        mcpErrorValue .null (brokenChainHost.mcpCode e.code) e.message (some e.toJson)
  := have hbroken : Tampered brokenChainHost .null := fun h => by cases h
    ⟨rfl, rfl, hbroken, by decide, rfl,
      tamperedReceipt_readPaths brokenChainHost brokenChainState (fun _ => ⟨200, [], .null⟩)
        (rfl : brokenChainState.durableStore = some nullReceiptStore) rfl hbroken (by decide)
        (rfl : notModified "b3:r" ⟨[]⟩ = none) .null none none⟩

/-! ### Attribution of a delivered chip -/

/-- The JSON-RPC request calling `ubl.deliver` on a chip. -/
def deliverRpc (id chip : Json) : Json :=
  .object [("jsonrpc", .string "2.0"), ("id", id), ("method", .string "tools/call"),
    ("params", .object [("name", .string "ubl.deliver"),
      ("arguments", .object [("chip", chip)])])]

/-- The request `submitChipBytes` hands a knocked chip to the pipeline with. -/
def chipRequest (c : Json) : ChipRequest :=
  ⟨((c.get "@type").bind Json.asStr).getD "", c, [], some "create"⟩

/-- Over HTTP, a chip admitted by a bearer session is attributed to the session's DID when
its user chip has one. -/
theorem submitChipBytes_of_bearer_session {body : List UInt8} {c : Json} {h : HeaderMap}
    {tokenId : String} {auth : McpWsAuth} (hk : host.knock body = .ok c)
    (ht : parseBearerToken h = some tokenId)
    (hres : resolveSessionToken host state.chipStore tokenId = .ok auth)
    (hscope : scopeAllowsAny auth.scope ["write", "chip:write", "mcp:write"] = true)
    (hworld : worldScopeAllows auth.world ((c.getStr "@world").getD "") = true)
    (hlim : canonRateLimit host state c = none) :
  submitChipBytes host state (some h) false body =
    .pipeline (chipRequest c) ⟨some (auth.subjectDid.getD (resolveSubjectDid host (some c)
      (some (actorHintFromHeaders host (some h))))), some (knockCidFromBytes host body)⟩
  := by
  have htok := (tokenAuthorization_of_bearer host state ht (knockCidFromBytes host body)
    (actorHintFromHeaders host (some h)) c _).mpr
    ⟨auth, by simp [resolveSessionBearer_of_some host _ ht, hres, Except.map], hscope, hworld, rfl⟩
  simp [submitChipBytes, hk, writeAuthorization, htok, bind, Except.bind, pure, Except.pure,
    hlim, chipRequest]

/-- A trusted submission of a knocked chip that the canon rate limiter lets through is handed
to the pipeline attributed by `resolveSubjectDid` on the chip and the actor hint alone. -/
theorem submitChipBytes_trusted {body : List UInt8} {c : Json} {headers : Option HeaderMap}
    (hk : host.knock body = .ok c) (hlim : canonRateLimit host state c = none) :
  submitChipBytes host state headers true body =
    .pipeline (chipRequest c) ⟨some (resolveSubjectDid host (some c)
      (some (actorHintFromHeaders host headers))), some (knockCidFromBytes host body)⟩
  := by
  simp [submitChipBytes, hk, hlim, chipRequest]

end

/-- The chip of the failing input: a document in the demo world that names no DID. -/
def demoChip : Json :=
  .object [("@type", .string "ubl/document"), ("@world", .string "a/demo/t/main")]

/-- A host whose knock accepts every body as `demoChip`, whose NRF-1 content addresses are
all `b3:claims`, and whose clock reads before every session expiry. -/
def demoHost : Host where
  knock := fun _ => .ok demoChip
  blake3Hex := fun _ => "00"
  toNrf1Bytes := fun _ => .ok []
  computeCid := fun _ => .ok "b3:claims"
  toVec := fun _ => []
  isOnboardingType := fun _ => false
  sessionFromChipBody := fun _ => .ok ⟨"b3:user", ["write"], "2099-01-01T00:00:00Z"⟩
  parseRfc3339 := fun _ => .ok 1
  toJsonString := fun _ => ""
  toJsonStringPretty := fun _ => ""
  authChainOf := fun _ => .ok true
  publicReceiptLink := fun _ => none
  advisoryToChipBody := fun a => a.payload
  llmNarration := fun _ => none
  mcpCode := fun _ => -32003
  ublErrorOfJson := fun _ => none
  hexDecode := fun _ => .error "unused"
  rbExecute := fun _ _ => .error (.run "unused")
  now := 0
  nowMicros := 0
  nowRfc3339 := ""

/-- Execution metadata of the demo chips. -/
def demoMetadata : ExecutionMetadata := ⟨"", 0, 0, [], "", true⟩

/-- A chip store holding the write token `t` of the demo world, whose user chip carries the
DID `did:key:zUser`, and no revocation. -/
def demoChipStore : ChipStore where
  query := fun q =>
    if q.chipType = some "ubl/token" then
      .ok ⟨[⟨"b3:token", "ubl/token", .object [("@id", .string "t"),
        ("@world", .string "a/demo/t/main")], "", "", demoMetadata⟩], 1⟩
    else .ok ⟨[], 0⟩
  getChip := fun cid =>
    if cid = "b3:user" then
      .ok (some ⟨"b3:user", "ubl/user", .object [("did", .string "did:key:zUser")], "", "",
        demoMetadata⟩)
    else .ok none
  getChipByReceiptCid := fun _ => .ok none
  storeExecutedChip := fun _ _ _ => .error "unused"

/-- The gate state of the failing input: the demo chip store, an auth-required policy, no
canon rate limiter. -/
def demoState : AppState where
  chipStore := demoChipStore
  passportCid := "b3:gate-passport"
  advisoryModel := "ubl-gate/0.1"
  manifestChipTypes := []
  mcpTools := .array []
  durableStore := none
  writeAccessPolicy := ⟨true, [], [], []⟩
  canonRateLimiter := none

/-- The headers of a request authenticated with the bearer token `t`. -/
def bearerT : HeaderMap := ⟨[("authorization", "Bearer t")]⟩

/-- The same chip, admitted with the same bearer token `t` whose user chip carries
`did:key:zUser`, is handed to the pipeline as `did:key:zUser` over HTTP and as the
anonymous `did:ubl:anon:b3:claims` over a WebSocket session opened with `t`. -/
theorem deliver_attribution_differs_by_transport :
  (validateMcpWsBearer demoHost demoChipStore bearerT).toOption =
      some ⟨"t", "b3:token", "a/demo/t/main", ["write"], some "did:key:zUser"⟩ ∧
  (submitChipBytes demoHost demoState (some bearerT) false []).writes =
      [.pipeline (chipRequest demoChip) ⟨some "did:key:zUser", some "b3:00"⟩] ∧
  (handleMcpRpcRequest demoHost demoState (fun _ => ⟨200, [], .null⟩) ⟨120, fun _ => []⟩ 0 false
      (deliverRpc (.number (.posInt 1)) demoChip) none
      (some ⟨"t", "b3:token", "a/demo/t/main", ["write"], some "did:key:zUser"⟩)).2.writes =
      [.pipeline (chipRequest demoChip) ⟨some "did:ubl:anon:b3:claims", some "b3:00"⟩]
  := ⟨rfl, rfl, rfl⟩

end UblGate
