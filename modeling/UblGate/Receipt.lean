import UblGate.Scope
import UblGate.Store

/-!
# Receipt reads

The HTTP handlers that read a stored receipt: `getReceipt`, `getReceiptPublicUrl`,
`getReceiptTrace`, and `verifyChip`, which also reads the receipt of the chip it verifies.
Each of them passes the stored receipt through `verifyReceiptAuthChain` before answering,
and answers a `TAMPER_DETECTED` envelope instead when the receipt does not parse or its
auth chain does not verify: no `GET` route serves a tampered receipt
(`receiptReads_of_tampered`).  The MCP tool `ubl.receipt` does serve it
(`tamperedReceipt_readPaths`, with the MCP tools).
`getChip` answers a conditional GET that names the CID with `304 Not Modified` before it reads
the store (`getChip_notModified_iff`).  `verifyAdvisory` checks an advisory chip by its content
address alone: the lookups of its passport and its input are reported and never change the
verdict (`verifyAdvisory_verified`).
-/

namespace UblGate

/-- An HTTP answer: status, header lines and JSON body. -/
structure Response where
  status : Nat
  headers : List (String × String)
  body : Json

/-- The body `{"@type": "ubl/error", "code": code, "message": message}` of the handlers'
own error answers. -/
def errorBody (code message : String) : Json :=
  .object [("@type", .string "ubl/error"), ("code", .string code), ("message", .string message)]

/-- `StatusCode::from_u16(n).unwrap_or(default)`. -/
def statusFromU16 (n default : Nat) : Nat :=
  if 100 ≤ n ∧ n ≤ 999 then n else default

/-- The stored receipt does not parse, or its auth chain does not verify. -/
def Tampered (host : Host) (receipt : Json) : Prop :=
  host.authChainOf receipt ≠ .ok true

section

variable (host : Host) (state : AppState)

/-- `verify_receipt_auth_chain`. -/
def verifyReceiptAuthChain (receiptCid : String) (receiptJson : Json) : Except UblError Unit :=
  match host.authChainOf receiptJson with
  | .error e =>
    .error (tamperDetectedError host.nowMicros
      ("receipt " ++ receiptCid ++ " parse failed: " ++ e)
      (.object [("receipt_cid", .string receiptCid), ("reason", .string "receipt_parse_failed")]))
  | .ok verified =>
    if !verified then
      .error (tamperDetectedError host.nowMicros ("receipt " ++ receiptCid ++ " auth chain broken")
        (.object [("receipt_cid", .string receiptCid), ("reason", .string "auth_chain_broken")]))
    else .ok ()

/-- The answer of a handler to a receipt whose check failed. -/
def tamperResponse (e : UblError) : Response :=
  ⟨statusFromU16 e.code.httpStatus 422, [], e.toJson⟩

/-- The `304 Not Modified` answer of a conditional GET whose `If-None-Match` names the CID. -/
def notModified (cid : String) (headers : HeaderMap) : Option Response :=
  match (headers.get "if-none-match").bind headerToStr with
  | some inm =>
    let etag := "\"" ++ cid ++ "\""
    if inm == etag || Str.trimMatches inm '"' == cid then some ⟨304, [("etag", etag)], .null⟩
    else none
  | none => none

/-- The answer to a CID that does not start with `b3:`. -/
def invalidCid : Response :=
  ⟨400, [], errorBody "INVALID_CID" "CID must start with b3:"⟩

/-- The answer when no durable store is configured. -/
def receiptStoreUnavailable : Response :=
  ⟨503, [], errorBody "UNAVAILABLE" "Receipt store unavailable: enable SQLite durable store"⟩

/-- `get_receipt`. -/
def getReceipt (cid : String) (headers : HeaderMap) : Response :=
  if !Str.startsWith cid "b3:" then invalidCid
  else
    match notModified cid headers with
    | some r => r
    | none =>
      match state.durableStore with
      | none => receiptStoreUnavailable
      | some store =>
        match store.getReceipt cid with
        | .ok (some receipt) =>
          match verifyReceiptAuthChain host cid receipt with
          | .error e => tamperResponse e
          | .ok () =>
            ⟨200, [("etag", "\"" ++ cid ++ "\""),
              ("cache-control", "public, max-age=31536000, immutable")], receipt⟩
        | .ok none => ⟨404, [], errorBody "NOT_FOUND" ("Receipt " ++ cid ++ " not found")⟩
        | .error e => ⟨500, [], errorBody "INTERNAL_ERROR" ("Receipt fetch failed: " ++ e)⟩

/-- `get_receipt_public_url`. -/
def getReceiptPublicUrl (cid : String) : Response :=
  if !Str.startsWith cid "b3:" then invalidCid
  else
    match state.durableStore with
    | none => receiptStoreUnavailable
    | some store =>
      match store.getReceipt cid with
      | .ok (some receipt) =>
        match verifyReceiptAuthChain host cid receipt with
        | .error e => tamperResponse e
        | .ok () =>
          match host.publicReceiptLink receipt with
          | some link =>
            ⟨200, [], .object [("@type", .string "ubl/receipt.url"), ("receipt_cid", .string cid),
              ("receipt_url", .string link.url), ("receipt_public", link.json)]⟩
          | none =>
            ⟨500, [], errorBody "INTERNAL_ERROR" "failed to derive canonical public receipt URL"⟩
      | .ok none => ⟨404, [], errorBody "NOT_FOUND" ("Receipt " ++ cid ++ " not found")⟩
      | .error e => ⟨500, [], errorBody "INTERNAL_ERROR" ("Receipt fetch failed: " ++ e)⟩

/-- The trace of a chip by its receipt, as `get_receipt_trace` answers it. -/
def traceBody (cid : String) (chip : StoredChip) : Json :=
  .object [("@type", .string "ubl/trace"), ("receipt_cid", .string cid),
    ("chip_cid", .string chip.cid), ("chip_type", .string chip.chipType),
    ("auth_chain_verified", .bool state.durableStore.isSome),
    ("execution_metadata", .object [
      ("runtime_version", .string chip.executionMetadata.runtimeVersion),
      ("execution_time_ms", .number (.posInt chip.executionMetadata.executionTimeMs)),
      ("fuel_consumed", .number (.posInt chip.executionMetadata.fuelConsumed)),
      ("policies_applied", .array (chip.executionMetadata.policiesApplied.map .string)),
      ("reproducible", .bool chip.executionMetadata.reproducible)])]

/-- `get_receipt_trace`. -/
def getReceiptTrace (cid : String) : Response :=
  let receiptCheck : Option Response :=
    match state.durableStore with
    | none => none
    | some store =>
      match store.getReceipt cid with
      | .ok (some receiptJson) =>
        match verifyReceiptAuthChain host cid receiptJson with
        | .error e => some (tamperResponse e)
        | .ok () => none
      | .ok none => some ⟨404, [], errorBody "NOT_FOUND" ("Receipt " ++ cid ++ " not found")⟩
      | .error e => some ⟨500, [], errorBody "INTERNAL_ERROR" ("Receipt fetch failed: " ++ e)⟩
  match receiptCheck with
  | some r => r
  | none =>
    match state.chipStore.getChipByReceiptCid cid with
    | .ok (some chip) => ⟨200, [], traceBody state cid chip⟩
    | .ok none => ⟨404, [], errorBody "NOT_FOUND" ("Receipt " ++ cid ++ " not found")⟩
    | .error e => ⟨500, [], errorBody "INTERNAL_ERROR" e⟩

/-- `verify_chip`. -/
def verifyChip (cid : String) : Response :=
  if !Str.startsWith cid "b3:" then invalidCid
  else
    match state.chipStore.getChip cid with
    | .ok none => ⟨404, [], errorBody "NOT_FOUND" ("Chip " ++ cid ++ " not found")⟩
    | .error e => ⟨500, [], errorBody "INTERNAL_ERROR" e⟩
    | .ok (some chip) =>
      let (computedCid, encodingOk) :=
        match (host.toNrf1Bytes chip.chipData).bind host.computeCid with
        | .ok c => (c, true)
        | .error _ => ("", false)
      let cidMatches := encodingOk && computedCid == cid
      let receiptCid := chip.receiptCid
      let receiptCheck : Except Response (Bool × Option Bool) :=
        if receiptCid.isEmpty then .ok (false, none)
        else
          match state.durableStore with
          | some store =>
            match store.getReceipt receiptCid with
            | .ok (some receiptJson) =>
              match verifyReceiptAuthChain host receiptCid receiptJson with
              | .error e => .error (tamperResponse e)
              | .ok () => .ok (true, some true)
            | .ok none => .ok (false, none)
            | .error e =>
              .error ⟨500, [], errorBody "INTERNAL_ERROR" ("Receipt fetch failed: " ++ e)⟩
          | none =>
            match state.chipStore.getChipByReceiptCid receiptCid with
            | .ok c => .ok (c.isSome, none)
            | .error _ => .ok (false, none)
      match receiptCheck with
      | .error r => r
      | .ok (receiptExists, authChainVerified) =>
        ⟨200, [], .object [("@type", .string "ubl/chip.verification"), ("cid", .string cid),
          ("verified", .bool cidMatches), ("cid_matches", .bool cidMatches),
          ("computed_cid", .string computedCid), ("encoding_ok", .bool encodingOk),
          ("chip_type", .string chip.chipType), ("receipt_cid", .string chip.receiptCid),
          ("receipt_exists", .bool receiptExists),
          ("auth_chain_verified", (authChainVerified.map .bool).getD .null),
          ("created_at", .string chip.createdAt)]⟩

/-- `get_chip`, served as `GET /v1/chips/:cid` and `GET /v1/cas/:cid`; `tagsOf` gives the tags
the chip store keeps with a chip. -/
def getChip (tagsOf : StoredChip → List String) (cid : String) (headers : HeaderMap) : Response :=
  if !Str.startsWith cid "b3:" then invalidCid
  else
    match notModified cid headers with
    | some r => r
    | none =>
      match state.chipStore.getChip cid with
      | .ok (some chip) =>
        ⟨200, [("etag", "\"" ++ chip.cid ++ "\""),
            ("cache-control", "public, max-age=31536000, immutable")],
          .object [("@type", .string "ubl/chip"), ("cid", .string chip.cid),
            ("chip_type", .string chip.chipType), ("chip_data", chip.chipData),
            ("receipt_cid", .string chip.receiptCid), ("created_at", .string chip.createdAt),
            ("tags", .array ((tagsOf chip).map .string))]⟩
      | .ok none => ⟨404, [], errorBody "NOT_FOUND" ("Chip " ++ cid ++ " not found")⟩
      | .error e => ⟨500, [], errorBody "INTERNAL_ERROR" e⟩

/-! ### Conditional reads -/

theorem notModified_status {cid : String} {headers : HeaderMap} {r : Response}
    (h : notModified cid headers = some r) :
  r.status = 304
  := by
  unfold notModified at h
  split at h
  · dsimp only at h
    split_ifs at h
    cases h
    rfl
  · cases h

/-- `GET /v1/chips/:cid` answers `304 Not Modified` exactly when the CID starts with `b3:` and
the `If-None-Match` header names it.  That answer reads no store: it is the same whatever the
chip store holds, whether it holds the chip or not. -/
theorem getChip_notModified_iff (tagsOf : StoredChip → List String) (cid : String)
    (headers : HeaderMap) :
  ((getChip state tagsOf cid headers).status = 304 ↔
      Str.startsWith cid "b3:" = true ∧ (notModified cid headers).isSome) ∧
    ∀ state' : AppState, (notModified cid headers).isSome →
      getChip state' tagsOf cid headers = getChip state tagsOf cid headers
  := by
  unfold getChip
  cases hb : Str.startsWith cid "b3:"
  · exact ⟨by simp [invalidCid], fun _ _ => rfl⟩
  · cases hnm : notModified cid headers with
    | some r => exact ⟨by simp [notModified_status hnm], fun _ _ => rfl⟩
    | none =>
      refine ⟨?_, fun _ h => absurd h (by simp)⟩
      simp only [Bool.not_true, if_false, Option.isSome_none, and_false, iff_false]
      rcases state.chipStore.getChip cid with _ | _ | _ <;> simp

/-! ### Tamper detection -/

/-- An answer carrying a `TAMPER_DETECTED` envelope in place of the receipt. -/
def IsTamperAnswer (resp : Response) : Prop :=
  ∃ e : UblError, e.code = .tamperDetected ∧ resp = tamperResponse e

/-- On a tampered receipt the check fails with a `TAMPER_DETECTED` envelope. -/
theorem verifyReceiptAuthChain_of_tampered {k : String} {r : Json} (h : Tampered host r) :
  ∃ e, verifyReceiptAuthChain host k r = .error e ∧ e.code = .tamperDetected
  := by
  unfold verifyReceiptAuthChain
  rcases hc : host.authChainOf r with e | _ | _
  · exact ⟨_, rfl, rfl⟩
  · exact ⟨_, rfl, rfl⟩
  · exact absurd hc h

theorem ne_empty_of_startsWith_b3 {cid : String} (hcid : Str.startsWith cid "b3:" = true) :
  cid ≠ ""
  := by
  rintro rfl
  exact absurd hcid (by decide)

variable {host state} {store : DurableStore} {k : String} {r : Json}
  (hstore : state.durableStore = some store) (hr : store.getReceipt k = .ok (some r))
  (ht : Tampered host r)
include hstore hr ht

theorem getReceipt_of_tampered {headers : HeaderMap} (hcid : Str.startsWith k "b3:" = true)
    (hnm : notModified k headers = none) :
  IsTamperAnswer (getReceipt host state k headers)
  := by
  obtain ⟨e, he, hc⟩ := verifyReceiptAuthChain_of_tampered host (k := k) ht
  simp only [getReceipt, hcid, hnm, hstore, hr, he, Bool.not_true, if_false]
  exact ⟨e, hc, rfl⟩

theorem getReceiptPublicUrl_of_tampered (hcid : Str.startsWith k "b3:" = true) :
  IsTamperAnswer (getReceiptPublicUrl host state k)
  := by
  obtain ⟨e, he, hc⟩ := verifyReceiptAuthChain_of_tampered host (k := k) ht
  simp only [getReceiptPublicUrl, hcid, hstore, hr, he, Bool.not_true, if_false]
  exact ⟨e, hc, rfl⟩

theorem getReceiptTrace_of_tampered :
  IsTamperAnswer (getReceiptTrace host state k)
  := by
  obtain ⟨e, he, hc⟩ := verifyReceiptAuthChain_of_tampered host (k := k) ht
  simp only [getReceiptTrace, hstore, hr, he]
  exact ⟨e, hc, rfl⟩

/-- `verifyChip` on a chip whose receipt is `k` answers the tamper envelope. -/
theorem verifyChip_of_tampered {cid : String} {chip : StoredChip}
    (hcid : Str.startsWith cid "b3:" = true) (hchip : state.chipStore.getChip cid = .ok (some chip))
    (hk : chip.receiptCid = k) (hne : k ≠ "") :
  IsTamperAnswer (verifyChip host state cid)
  := by
  obtain ⟨e, he, hc⟩ := verifyReceiptAuthChain_of_tampered host (k := k) ht
  simp only [verifyChip, hcid, hchip, hk, isEmpty_eq_false hne, hstore, hr, he,
    Bool.not_true, if_false]
  exact ⟨e, hc, rfl⟩

/-- No `GET` route serves a tampered receipt: the receipt (unless a conditional GET answers 304
first), its public URL, its trace, and the verification of every chip whose receipt it is all
answer the `TAMPER_DETECTED` envelope. -/
theorem receiptReads_of_tampered {headers : HeaderMap} (hcid : Str.startsWith k "b3:" = true)
    (hnm : notModified k headers = none) :
  IsTamperAnswer (getReceipt host state k headers) ∧
    IsTamperAnswer (getReceiptPublicUrl host state k) ∧ IsTamperAnswer (getReceiptTrace host state k) ∧
    ∀ cid chip, Str.startsWith cid "b3:" = true → state.chipStore.getChip cid = .ok (some chip) →
      chip.receiptCid = k → IsTamperAnswer (verifyChip host state cid)
  := ⟨getReceipt_of_tampered hstore hr ht hcid hnm, getReceiptPublicUrl_of_tampered hstore hr ht hcid,
    getReceiptTrace_of_tampered hstore hr ht, fun _ _ hc hchip hk =>
      verifyChip_of_tampered hstore hr ht hc hchip hk (ne_empty_of_startsWith_b3 hcid)⟩

end

/-! ### A receipt whose auth chain is broken -/

/-- A host whose stored receipts parse and never verify. -/
def brokenChainHost : Host where
  knock := fun _ => .error "unused"
  blake3Hex := fun _ => "00"
  toNrf1Bytes := fun _ => .ok []
  computeCid := fun _ => .ok "b3:chip"
  toVec := fun _ => []
  isOnboardingType := fun _ => false
  sessionFromChipBody := fun _ => .error "unused"
  parseRfc3339 := fun _ => .error "unused"
  toJsonString := fun _ => ""
  toJsonStringPretty := fun _ => ""
  authChainOf := fun _ => .ok false
  publicReceiptLink := fun _ => none
  advisoryToChipBody := fun _ => .null
  llmNarration := fun _ => none
  mcpCode := fun _ => 0
  ublErrorOfJson := fun _ => none
  hexDecode := fun _ => .error "unused"
  rbExecute := fun _ _ => .error (.run "unused")
  nowRfc3339 := ""
  now := 0
  nowMicros := 0

/-- The chip `b3:chip`, whose receipt is `b3:r`. -/
def receiptChip : StoredChip :=
  ⟨"b3:chip", "ubl/document", .null, "b3:r", "", ⟨"", 0, 0, [], "", true⟩⟩

/-- A durable store holding `null` as the receipt under every CID. -/
def nullReceiptStore : DurableStore :=
  ⟨fun _ => .ok (some .null)⟩

/-- A gate state whose chip store holds `receiptChip` and whose durable store is
`nullReceiptStore`. -/
def brokenChainState : AppState where
  chipStore := ⟨fun _ => .ok ⟨[], 0⟩, fun _ => .ok (some receiptChip),
    fun _ => .ok (some receiptChip), fun _ _ _ => .error "read-only store"⟩
  passportCid := ""
  advisoryModel := ""
  manifestChipTypes := []
  mcpTools := .array []
  durableStore := some nullReceiptStore
  writeAccessPolicy := ⟨true, [], [], []⟩
  canonRateLimiter := none

/-! ### Advisories -/

/-- `format!("{:?}", hook)`. -/
def AdvisoryHook.debugName : AdvisoryHook → String
  | .onDemand => "OnDemand"

/-- Whether the chip store answers a chip under a CID; a store that fails answers no. -/
def chipExists (store : ChipStore) (cid : String) : Bool :=
  match store.getChip cid with
  | .ok found => found.isSome
  | .error _ => false

/-- The row of an advisory chip in the list of a passport's advisories. -/
def advisoryRow (chip : StoredChip) : Json :=
  .object [("cid", .string chip.cid),
    ("action", (chip.chipData.get "action").getD (.string "unknown")),
    ("hook", (chip.chipData.get "hook").getD (.string "unknown")),
    ("confidence", (chip.chipData.get "confidence").getD (.number (.posInt 0))),
    ("model", (chip.chipData.get "model").getD (.string "unknown")),
    ("input_cid", (chip.chipData.get "input_cid").getD (.string "")),
    ("created_at", .string chip.createdAt)]

section

variable (host : Host) (state : AppState)

/-- `get_passport_advisories`: the status and the body. -/
def getPassportAdvisories (passportCid : String) : Nat × Json :=
  match state.chipStore.query ⟨some "ubl/advisory", ["passport_cid:" ++ passportCid], some 100⟩ with
  | .ok result =>
    (200, .object [("@type", .string "ubl/advisory.list"), ("passport_cid", .string passportCid),
      ("count", .number (.posInt result.chips.length)),
      ("advisories", .array (result.chips.map advisoryRow))])
  | .error e => (500, errorBody "INTERNAL_ERROR" e)

/-- `verify_advisory`: the status and the body; `advisoryFromChipBody` is
`Advisory::from_chip_body`. -/
def verifyAdvisory (advisoryFromChipBody : Json → Except String Advisory) (cid : String) :
    Nat × Json :=
  match state.chipStore.getChip cid with
  | .ok none => (404, errorBody "NOT_FOUND" ("Advisory " ++ cid ++ " not found"))
  | .error e => (500, errorBody "INTERNAL_ERROR" e)
  | .ok (some chip) =>
    if chip.chipType != "ubl/advisory" then (400, errorBody "INVALID_TYPE" "Chip is not an advisory")
    else
      match advisoryFromChipBody chip.chipData with
      | .error e => (422, errorBody "INVALID_ADVISORY" e)
      | .ok advisory =>
        match host.toNrf1Bytes chip.chipData with
        | .error e => (500, errorBody "ENCODING_ERROR" e)
        | .ok nrfBytes =>
          match host.computeCid nrfBytes with
          | .error e => (500, errorBody "CID_ERROR" e)
          | .ok computedCid =>
            let cidValid := computedCid == cid
            (200, .object [("@type", .string "ubl/advisory.verification"),
              ("advisory_cid", .string cid), ("verified", .bool cidValid),
              ("cid_valid", .bool cidValid), ("computed_cid", .string computedCid),
              ("passport_cid", .string advisory.passportCid),
              ("passport_exists", .bool (chipExists state.chipStore advisory.passportCid)),
              ("input_cid", .string advisory.inputCid),
              ("input_exists", .bool (chipExists state.chipStore advisory.inputCid)),
              ("action", .string advisory.action), ("model", .string advisory.model),
              ("hook", .string advisory.hook.debugName),
              ("confidence", .number (.posInt advisory.confidence))])

/-- The verification answers only an advisory whose chip is stored, parses and has a CID. -/
theorem verifyAdvisory_answered {advisoryFromChipBody : Json → Except String Advisory}
    {cid : String} (h200 : (verifyAdvisory host state advisoryFromChipBody cid).1 = 200) :
  ∃ chip advisory bytes computed, state.chipStore.getChip cid = .ok (some chip) ∧
    chip.chipType = "ubl/advisory" ∧ advisoryFromChipBody chip.chipData = .ok advisory ∧
    host.toNrf1Bytes chip.chipData = .ok bytes ∧ host.computeCid bytes = .ok computed
  := by
  unfold verifyAdvisory at h200
  split at h200
  · simp at h200
  · simp at h200
  · next chip hchip =>
    split_ifs at h200 with htype
    · simp at h200
    · split at h200
      · simp at h200
      · next advisory hadv =>
        split at h200
        · simp at h200
        · next bytes hbytes =>
          split at h200
          · simp at h200
          · next computed hcomputed =>
            exact ⟨chip, advisory, bytes, computed, hchip, by simpa using htype, hadv, hbytes,
              hcomputed⟩

/-- The answer to a stored advisory that parses and has a CID: 200, with the verdict that its
CID is the one it is stored under. -/
theorem verifyAdvisory_of_answered {advisoryFromChipBody : Json → Except String Advisory}
    {cid : String} {chip : StoredChip} {advisory : Advisory} {bytes : List UInt8} {computed : String}
    (hchip : state.chipStore.getChip cid = .ok (some chip)) (htype : chip.chipType = "ubl/advisory")
    (hadv : advisoryFromChipBody chip.chipData = .ok advisory)
    (hbytes : host.toNrf1Bytes chip.chipData = .ok bytes) (hcomputed : host.computeCid bytes = .ok computed) :
  (verifyAdvisory host state advisoryFromChipBody cid).1 = 200 ∧
    (verifyAdvisory host state advisoryFromChipBody cid).2.get "verified" =
      some (.bool (computed == cid))
  := by
  have hadvisory : (chip.chipType != "ubl/advisory") = false := by simp [htype]
  simp only [verifyAdvisory, hchip, hadvisory, hadv, hbytes, hcomputed, Bool.false_eq_true,
    ↓reduceIte]
  constructor <;> trivial

/-- An advisory is answered exactly when the chip under its CID is a stored advisory whose body
parses and has a CID, and its verdict is then only whether that CID is the one it is stored
under: the passport and the input are looked up and reported beside it, and a chip store that
answers the same chip under the CID gives the same verdict, whatever else it holds. -/
theorem verifyAdvisory_verified (advisoryFromChipBody : Json → Except String Advisory)
    (cid : String) :
  ((verifyAdvisory host state advisoryFromChipBody cid).1 = 200 ↔
      ∃ chip advisory bytes computed, state.chipStore.getChip cid = .ok (some chip) ∧
        chip.chipType = "ubl/advisory" ∧ advisoryFromChipBody chip.chipData = .ok advisory ∧
        host.toNrf1Bytes chip.chipData = .ok bytes ∧ host.computeCid bytes = .ok computed) ∧
    (∀ chip bytes computed, state.chipStore.getChip cid = .ok (some chip) →
      host.toNrf1Bytes chip.chipData = .ok bytes → host.computeCid bytes = .ok computed →
      (verifyAdvisory host state advisoryFromChipBody cid).1 = 200 →
      (verifyAdvisory host state advisoryFromChipBody cid).2.get "verified" =
        some (.bool (computed == cid))) ∧
    ∀ state' : AppState, state'.chipStore.getChip cid = state.chipStore.getChip cid →
      (verifyAdvisory host state' advisoryFromChipBody cid).1 =
          (verifyAdvisory host state advisoryFromChipBody cid).1 ∧
        (verifyAdvisory host state' advisoryFromChipBody cid).2.get "verified" =
          (verifyAdvisory host state advisoryFromChipBody cid).2.get "verified"
  := by
  refine ⟨⟨verifyAdvisory_answered host state, fun ⟨chip, advisory, bytes, computed, hchip, htype,
      hadv, hbytes, hcomputed⟩ => (verifyAdvisory_of_answered host state hchip htype hadv hbytes
        hcomputed).1⟩, fun chip bytes computed hchip hbytes hcomputed h200 => ?_,
    fun state' hsame => ?_⟩
  · obtain ⟨chip', advisory, bytes', computed', hchip', htype, hadv, hbytes', hcomputed'⟩ :=
      verifyAdvisory_answered host state h200
    obtain rfl : chip = chip' := by simpa [hchip] using hchip'
    obtain rfl : bytes = bytes' := by simpa [hbytes] using hbytes'
    obtain rfl : computed = computed' := by simpa [hcomputed] using hcomputed'
    exact (verifyAdvisory_of_answered host state hchip htype hadv hbytes hcomputed).2
  · unfold verifyAdvisory
    rw [hsame]
    cases state.chipStore.getChip cid with
    | error e => constructor <;> trivial
    | ok found =>
      cases found with
      | none => constructor <;> trivial
      | some chip =>
        dsimp only
        split_ifs
        · constructor <;> trivial
        · cases advisoryFromChipBody chip.chipData with
          | error e => constructor <;> trivial
          | ok advisory =>
            dsimp only
            cases host.toNrf1Bytes chip.chipData with
            | error e => constructor <;> trivial
            | ok bytes =>
              dsimp only
              cases host.computeCid bytes with
              | error e => constructor <;> trivial
              | ok computed => constructor <;> trivial

end

end UblGate
