import Mathlib.Data.List.Nodup
import UblGate.Routes
import UblGate.Knock
import UblGate.Adapter

/-!
# The pipeline's reading of a request

The first thing the pipeline does with a `ChipRequest` is `ParsedChipRequest::parse`: the body
must be an object, its `@type` a string equal to the request's chip type, and its `@world` a
string that `UblEnvelope::validate_world` accepts; the chip id is `@id`, or else `id`
(`parse_eq_ok_iff`).  Each failed check is an `InvalidChip` error that names it.

The gate builds the request from the value knock admitted, and knock admits only values whose
envelope is well formed (`knock_envelopeOk`).  So the two components agree: every request the
gate hands the pipeline passes the pipeline's reading except, possibly, the world check of
`validate_world`, which is outside this repository (`submitChipBytes_parse`).

The request comes with the subject it is attributed to, and that depends on the transport:
a chip delivered under one bearer session is attributed to the session's DID over
`POST /v1/chips`, and by the chip alone over the session's WebSocket
(`deliver_attribution_by_transport`).
-/

namespace UblGate


/-- A check that fails with an error lets a value through only when it passed. -/
theorem ite_error_eq_ok {c : Prop} [Decidable c] {e : String} {r : Except String Json} {v : Json}
    (h : (if c then .error e else r) = .ok v) : ¬c ∧ r = .ok v
  := by
  by_cases hc : c
  · rw [if_pos hc] at h
    cases h
  · rw [if_neg hc] at h
    exact ⟨hc, h⟩

/-- What knock's checks let through passed the check of repeated names in normal form C and
the envelope check, and is the parsed value. -/
theorem knockChecks_eq_ok {cfg : KnockConfig} {t v : Json} (h : knockChecks cfg t = .ok v) :
  t.anyNode (Json.nfcDuplicateAt cfg.nfc) = false ∧ t.envelopeOk = true ∧ v = t.normalize
  := by
  obtain ⟨hnfc, h⟩ := ite_error_eq_ok h
  obtain ⟨-, h⟩ := ite_error_eq_ok h
  obtain ⟨-, h⟩ := ite_error_eq_ok h
  obtain ⟨henv, h⟩ := ite_error_eq_ok h
  obtain ⟨-, h⟩ := ite_error_eq_ok h
  obtain ⟨-, h⟩ := ite_error_eq_ok h
  obtain ⟨-, h⟩ := ite_error_eq_ok h
  cases h
  exact ⟨by simpa using hnfc, by simpa using henv, rfl⟩

/-- Knock admits only values whose envelope is well formed. -/
theorem knock_envelopeOk {cfg : KnockConfig} {t v : Json} (h : knock cfg t = .ok v) :
  v.envelopeOk = true
  := by
  cases t with
  | object fs =>
    obtain ⟨hnfc, henv, rfl⟩ := knockChecks_eq_ok h
    have hn : (fs.map fun m => cfg.nfc m.1).Nodup := by
      by_contra hc
      simp [Json.anyNode, Json.nfcDuplicateAt, hc] at hnfc
    have hk : (Json.keys fs).Nodup :=
      List.Nodup.of_map cfg.nfc (by simpa [Json.keys, List.map_map] using hn)
    rw [Json.envelopeOk_normalize (by simp [Json.duplicateAt, hk])]
    exact henv
  | _ => cases h

/-- `ParsedChipRequest`: the request with the type, the id and the world of its body. -/
structure ParsedChipRequest where
  request : ChipRequest
  chipType : String
  chipId : Option String
  world : String

namespace ParsedChipRequest

/-- `ParsedChipRequest::parse`.  `UblEnvelope::validate_world` is outside this repository and
is the parameter `validateWorld`. -/
def parse (validateWorld : String → Except String Unit) (request : ChipRequest) :
    Except PipelineError ParsedChipRequest :=
  match request.body.asObject with
  | none => .error (.invalidChip "chip body must be object")
  | some _ =>
    match request.body.getStr "@type" with
    | none => .error (.invalidChip "missing @type")
    | some chipType =>
      if chipType != request.chipType then
        .error (.invalidChip ("request.chip_type '" ++ request.chipType ++ "' != body.@type '" ++
          chipType ++ "'"))
      else
        match request.body.getStr "@world" with
        | none => .error (.invalidChip "missing @world")
        | some world =>
          match validateWorld world with
          | .error e => .error (.invalidChip ("@world: " ++ e))
          | .ok () =>
            .ok ⟨request, chipType,
              (request.body.getStr "@id").orElse fun _ => request.body.getStr "id", world⟩

/-- The pipeline reads a request exactly when its body is an object whose `@type` is the
request's chip type and whose `@world` passes `validate_world`. -/
theorem parse_eq_ok_iff (validateWorld : String → Except String Unit) (request : ChipRequest)
    (p : ParsedChipRequest) :
  parse validateWorld request = .ok p ↔
    (∃ fs, request.body = .object fs) ∧ request.body.getStr "@type" = some request.chipType ∧
      ∃ world, request.body.getStr "@world" = some world ∧ validateWorld world = .ok () ∧
        p = ⟨request, request.chipType,
          (request.body.getStr "@id").orElse fun _ => request.body.getStr "id", world⟩
  := by
  unfold parse
  split
  · next hobj =>
    refine iff_of_false (by simp) ?_
    rintro ⟨⟨fs, hfs⟩, -⟩
    simp [hfs, Json.asObject] at hobj
  · next fs hobj =>
    split
    · next htype => simp [htype]
    · next t htype =>
      split
      · next hne =>
        refine iff_of_false (by simp) ?_
        rintro ⟨-, ht, -⟩
        rw [htype, Option.some.injEq] at ht
        simp [ht] at hne
      · next heq =>
        obtain rfl : t = request.chipType := by simpa using heq
        split
        · next hworld => simp [hworld]
        · next world hworld =>
          split
          · next e he => simp [hworld, he]
          · next hv =>
            simp only [Except.ok.injEq, hworld, hv, htype, Option.some.injEq, exists_eq_left',
              true_and]
            exact ⟨fun h => ⟨⟨fs, Json.asObject_eq_some.mp hobj⟩, h.symm⟩, fun h => h.2.symm⟩

/-- A request built from a value whose envelope knock accepts passes every check of the
pipeline's reading but the world check of `validate_world`. -/
theorem parse_chipRequest (validateWorld : String → Except String Unit) {value : Json}
    (h : value.envelopeOk = true) :
  ∃ world, value.getStr "@world" = some world ∧
    parse validateWorld (chipRequest value) =
      match validateWorld world with
      | .ok () => .ok ⟨chipRequest value, (chipRequest value).chipType,
          (value.getStr "@id").orElse fun _ => value.getStr "id", world⟩
      | .error e => .error (.invalidChip ("@world: " ++ e))
  := by
  unfold Json.envelopeOk at h
  cases ht : value.getStr "@type" with
  | none => simp [ht] at h
  | some t =>
    cases hw : value.getStr "@world" with
    | none => simp [ht, hw] at h
    | some world =>
      obtain ⟨fs, rfl⟩ : ∃ fs, value = .object fs := by
        cases value <;> simp [Json.getStr, Json.get] at ht ⊢
      refine ⟨world, rfl, ?_⟩
      have hchip : (chipRequest (.object fs)).chipType = t := by
        show (Json.getStr (.object fs) "@type").getD "" = t
        rw [ht]
        rfl
      have hbody : (chipRequest (.object fs)).body = .object fs := rfl
      cases hv : validateWorld world with
      | error e => simp [parse, hbody, hchip, Json.asObject, ht, hw, hv]
      | ok u =>
        exact (parse_eq_ok_iff _ _ _).mpr ⟨⟨fs, rfl⟩, hchip ▸ ht, world, hw, hv, hchip ▸ rfl⟩

end ParsedChipRequest

/-! ### What the gate hands the pipeline -/

/-- The contract of the host's knock that the pipeline relies on: what it admits has a
well-formed envelope. -/
def KnockAdmitsEnvelopes (host : Host) : Prop :=
  ∀ body value, host.knock body = .ok value → value.envelopeOk = true

/-- A host that knocks the tree its body parses to meets the contract. -/
theorem knockAdmitsEnvelopes_of_knock {host : Host} (cfg : KnockConfig)
    (parseJson : List UInt8 → Except String Json)
    (h : ∀ body, host.knock body = (parseJson body).bind (knock cfg)) :
  KnockAdmitsEnvelopes host
  := by
  intro body value hk
  rw [h] at hk
  cases hp : parseJson body with
  | error e => simp [hp, Except.bind] at hk
  | ok t =>
    rw [hp] at hk
    exact knock_envelopeOk hk

/-- The gate and the pipeline agree on what a request is: when the host's knock admits only
well-formed envelopes, as knock does, every request `submit_chip_bytes` hands to the pipeline
has an object body whose `@type` is the request's chip type and which has a `@world`, so
`ParsedChipRequest::parse` accepts it exactly when `validate_world` accepts that world, and
otherwise fails with `@world: ` and the reason. -/
theorem submitChipBytes_parse (validateWorld : String → Except String Unit) {host : Host}
    {state : AppState} {headers : Option HeaderMap} {trustedWrite : Bool} {body : List UInt8}
    {request : ChipRequest} {ctx : AuthorshipContext} (hknock : KnockAdmitsEnvelopes host)
    (h : submitChipBytes host state headers trustedWrite body = .pipeline request ctx) :
  ∃ world, request.body.getStr "@world" = some world ∧
    ParsedChipRequest.parse validateWorld request =
      match validateWorld world with
      | .ok () => .ok ⟨request, request.chipType,
          (request.body.getStr "@id").orElse fun _ => request.body.getStr "id", world⟩
      | .error e => .error (.invalidChip ("@world: " ++ e))
  := by
  obtain ⟨value, rfl, hk, -⟩ := submitChipBytes_eq_pipeline host state h
  exact ParsedChipRequest.parse_chipRequest validateWorld (hknock _ _ hk)

theorem submitChipBytes_parse_demo :
  KnockAdmitsEnvelopes (parseHost minimalChip) ∧
    ∃ request ctx, submitChipBytes (parseHost minimalChip) demoState none true [1] =
      .pipeline request ctx ∧
      ∃ world, request.body.getStr "@world" = some world ∧
        ParsedChipRequest.parse (fun _ => .ok ()) request =
          match (Except.ok () : Except String Unit) with
          | .ok () => .ok ⟨request, request.chipType,
              (request.body.getStr "@id").orElse fun _ => request.body.getStr "id", world⟩
          | .error e => .error (.invalidChip ("@world: " ++ e))
  := by
  have hknock : KnockAdmitsEnvelopes (parseHost minimalChip) :=
    knockAdmitsEnvelopes_of_knock asciiKnockConfig (chipParse minimalChip) fun _ => rfl
  obtain ⟨request, ctx, hsub⟩ : ∃ request ctx,
      submitChipBytes (parseHost minimalChip) demoState none true [1] = .pipeline request ctx :=
    ⟨_, _, rfl⟩
  exact ⟨hknock, request, ctx, hsub, submitChipBytes_parse (fun _ => .ok ()) hknock hsub⟩

/-! ### Attribution on the two transports -/

section

variable (host : Host) (state : AppState) (answer : Submission → Response)
  (registry : Except String RegistryView) (limiter : McpTokenRateLimiter) (now : Nat)
  (timedOut : Bool)

/-- A frame of a WebSocket session whose token the MCP limiter lets through and whose scope
allows writing, carrying a `ubl.deliver` request with a chip text of parse tree `t`, writes
what the trusted submission, without headers, of `to_vec` of the parsed chip writes. -/
theorem mcpWsFrame_deliver_writes (auth : McpWsAuth) (id t : Json)
    (hallowed : (limiter.checkAt auth.tokenId now).2 = none)
    (hw : mcpScopeAllowsWrite auth = true) :
  (Request.mcpWsFrame auth (deliverRpc id t).normalize).writes host state answer registry limiter
      now timedOut =
    (submitChipBytes host state none true (host.toVec t.normalize)).writes
  := by
  obtain ⟨limiter', hcheck⟩ : ∃ l, limiter.checkAt auth.tokenId now = (l, none) :=
    ⟨_, Prod.ext rfl hallowed⟩
  simp only [Request.writes, handleMcpRpcRequest, hcheck, hw, Bool.not_true, Bool.and_false,
    Bool.false_eq_true, if_false]
  cases timedOut <;> rfl

/-- The two transports attribute a chip delivered under one bearer session differently.
`POST /v1/chips` with the session's bearer token hands the chip to the pipeline attributed
to the DID the session vouches for, when its user chip has one; a frame of a WebSocket
session opened with the token hands the same chip to the pipeline attributed by
`resolve_subject_did` on the chip alone, without the session and without transport hints. -/
theorem deliver_attribution_by_transport {c : Json} {h : HeaderMap} {tokenId : String}
    {auth : McpWsAuth} {body : List UInt8} {id t : Json} (hk : host.knock body = .ok c)
    (hvec : host.knock (host.toVec t.normalize) = .ok c) (ht : parseBearerToken h = some tokenId)
    (hres : resolveSessionToken host state.chipStore tokenId = .ok auth)
    (hscope : scopeAllowsAny auth.scope ["write", "chip:write", "mcp:write"] = true)
    (hworld : worldScopeAllows auth.world ((c.getStr "@world").getD "") = true)
    (hlim : canonRateLimit host state c = none)
    (hallowed : (limiter.checkAt auth.tokenId now).2 = none)
    (hw : mcpScopeAllowsWrite auth = true) :
  (Request.createChip h body).writes host state answer registry limiter now timedOut =
    [.pipeline (chipRequest c) ⟨some (auth.subjectDid.getD (resolveSubjectDid host (some c)
      (some (actorHintFromHeaders host (some h))))), some (knockCidFromBytes host body)⟩] ∧
  (Request.mcpWsFrame auth (deliverRpc id t).normalize).writes host state answer registry limiter
      now timedOut =
    [.pipeline (chipRequest c) ⟨some (resolveSubjectDid host (some c) (some {})),
      some (knockCidFromBytes host (host.toVec t.normalize))⟩]
  := by
  constructor
  · show (submitChipBytes host state (some h) false body).writes = _
    rw [submitChipBytes_of_bearer_session host state hk ht hres hscope hworld hlim]
    rfl
  · rw [mcpWsFrame_deliver_writes host state answer registry limiter now timedOut auth id t
      hallowed hw, submitChipBytes_trusted host state hvec hlim]
    rfl

end

theorem deliver_attribution_by_transport_demo :
  demoHost.knock [] = .ok demoChip ∧ demoHost.knock (demoHost.toVec demoChip.normalize) = .ok demoChip ∧
  parseBearerToken bearerT = some "t" ∧
  resolveSessionToken demoHost demoState.chipStore "t" =
    .ok ⟨"t", "b3:token", "a/demo/t/main", ["write"], some "did:key:zUser"⟩ ∧
  (Request.createChip bearerT []).writes demoHost demoState (fun _ => ⟨200, [], .null⟩) (.error "")
      ⟨120, fun _ => []⟩ 0 false =
    [.pipeline (chipRequest demoChip) ⟨some ((some "did:key:zUser").getD (resolveSubjectDid
      demoHost (some demoChip) (some (actorHintFromHeaders demoHost (some bearerT))))),
      some (knockCidFromBytes demoHost [])⟩] ∧
  (Request.mcpWsFrame ⟨"t", "b3:token", "a/demo/t/main", ["write"], some "did:key:zUser"⟩
      (deliverRpc (.number (.posInt 1)) demoChip).normalize).writes demoHost demoState
      (fun _ => ⟨200, [], .null⟩) (.error "") ⟨120, fun _ => []⟩ 0 false =
    [.pipeline (chipRequest demoChip) ⟨some (resolveSubjectDid demoHost (some demoChip) (some {})),
      some (knockCidFromBytes demoHost (demoHost.toVec demoChip.normalize))⟩]
  := ⟨rfl, rfl, rfl, rfl, @deliver_attribution_by_transport demoHost demoState
    (fun _ => ⟨200, [], .null⟩) (.error "") ⟨120, fun _ => []⟩ 0 false demoChip bearerT "t"
    ⟨"t", "b3:token", "a/demo/t/main", ["write"], some "did:key:zUser"⟩ [] (.number (.posInt 1))
    demoChip rfl rfl rfl rfl rfl rfl rfl rfl rfl⟩

end UblGate
