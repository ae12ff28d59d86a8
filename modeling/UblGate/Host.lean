import UblGate.Error

/-!
# The gate's collaborators

The gate calls into crates whose source is not part of this repository: the knock
validator, BLAKE3 and the NRF-1 content addresser, `serde_json`'s encoder, the session
token parser, the RFC 3339 clock parser and the receipt verifier.  `Host` collects them,
together with the two clock readings a request sees, so that every handler of the model is
a function of them.  Nothing is assumed of them beyond their types.
-/

namespace UblGate

/-- `SessionToken`, the parsed body of a `ubl/token` chip. -/
structure SessionToken where
  userCid : String
  scope : List String
  expiresAt : String

/-- `PublicReceiptLink`: the canonical public URL of a receipt, and the link as it
serializes. -/
structure PublicReceiptLink where
  url : String
  json : Json

/-- `AdvisoryHook`, the event an advisory answers. -/
inductive AdvisoryHook where
  | onDemand
  deriving DecidableEq, Repr

/-- `Advisory::new(passport_cid, action, input_cid, payload, confidence, model, hook)`. -/
structure Advisory where
  passportCid : String
  action : String
  inputCid : String
  payload : Json
  confidence : Nat
  model : String
  hook : AdvisoryHook

/-- Where `rb_vm` fails on a bytecode stream: decoding it, or running it. -/
inductive RbError where
  | decode (message : String)
  | run (message : String)

/-- The functions of other crates the gate calls, and the clock of a request. -/
structure Host where
  /-- `knock::knock`: the validated chip, or the text of the knock error. -/
  knock : List UInt8 → Except String Json
  /-- The lower-case hex digits of the BLAKE3 hash. -/
  blake3Hex : List UInt8 → String
  /-- `ubl_ai_nrf1::to_nrf1_bytes`. -/
  toNrf1Bytes : Json → Except String (List UInt8)
  /-- `ubl_ai_nrf1::compute_cid`. -/
  computeCid : List UInt8 → Except String String
  /-- `serde_json::to_vec`. -/
  toVec : Json → List UInt8
  /-- `ubl_runtime::auth::is_onboarding_type`. -/
  isOnboardingType : String → Bool
  /-- `SessionToken::from_chip_body`. -/
  sessionFromChipBody : Json → Except String SessionToken
  /-- `DateTime::parse_from_rfc3339`, as a timestamp. -/
  parseRfc3339 : String → Except String Int
  /-- `serde_json::to_string`. -/
  toJsonString : Json → String
  /-- `serde_json::to_string_pretty`. -/
  toJsonStringPretty : Json → String
  /-- `UnifiedReceipt::from_json` followed by `verify_auth_chain`. -/
  authChainOf : Json → Except String Bool
  /-- `build_public_receipt_link`, from the token and link builders of `rich_url`. -/
  publicReceiptLink : Json → Option PublicReceiptLink
  /-- `AdvisoryEngine::advisory_to_chip_body`. -/
  advisoryToChipBody : Advisory → Json
  /-- The narration of the LLM proxy, when it is enabled and answers. -/
  llmNarration : Json → Option String
  /-- `ErrorCode::mcp_code`. -/
  mcpCode : ErrorCode → Int
  /-- `serde_json::from_value::<UblError>`. -/
  ublErrorOfJson : Json → Option UblError
  /-- `hex::decode`. -/
  hexDecode : String → Except String (List UInt8)
  /-- `rb_vm` decoding a bytecode stream and running it under a fuel limit: the outcome
  the tool reports. -/
  rbExecute : List UInt8 → Nat → Except RbError Json
  /-- `Utc::now().to_rfc3339()` at the request. -/
  nowRfc3339 : String
  /-- `Utc::now()` at the request, as a timestamp. -/
  now : Int
  /-- `Utc::now().timestamp_micros()` at the request. -/
  nowMicros : Int

end UblGate
