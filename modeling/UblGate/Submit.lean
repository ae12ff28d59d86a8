import UblGate.Authorship
import UblGate.Session

/-!
# Chip submission

`submitChipBytes` is the entrance of every chip: the body is knocked, an untrusted write
is authorized, the canon rate limiter is consulted, and the chip is handed to the pipeline
with the subject DID it is attributed to.  The function ends in one of four calls, and
`Submission` records which one with its arguments: the knock rejection receipt, a write
denial receipt (`deny_write_with_receipt`), a 429 answer, or `process_chip_with_context`.
What the pipeline then answers is the business of the pipeline crate.

An untrusted write that carries a bearer token is decided by the token alone: its session
must allow writing and its world must allow the chip's world.  Without a bearer token the
write access policy decides.
-/

namespace UblGate

/-- `ChipRequest`. -/
structure ChipRequest where
  chipType : String
  body : Json
  parents : List String
  operation : Option String

/-- `AuthorshipContext`. -/
structure AuthorshipContext where
  subjectDidHint : Option String
  knockCid : Option String

/-- The arguments of `deny_write_with_receipt`: the knock CID, the reason code and message,
the error code, the chip and the subject the denial receipt is attributed to. -/
structure WriteDenial where
  knockCid : String
  reasonCode : String
  reasonMsg : String
  errCode : ErrorCode
  value : Json
  subjectDid : String

/-- The call `submit_chip_bytes` ends in. -/
inductive Submission where
  /-- `process_knock_rejection` with the knock CID, reason code, message and subject. -/
  | knockRejection (knockCid reasonCode reasonMsg subjectDid : String)
  /-- `deny_write_with_receipt`. -/
  | writeDenied (denial : WriteDenial)
  /-- The 429 answer, with its `Retry-After` seconds and error envelope. -/
  | rateLimited (retrySecs : Nat) (error : UblError)
  /-- `process_chip_with_context`. -/
  | pipeline (request : ChipRequest) (ctx : AuthorshipContext)

/-- `knock_reason_code`: the text of a knock error up to its first `:`. -/
def knockReasonCode (err : String) : String :=
  ⟨err.data.takeWhile (· != ':')⟩

section

variable (host : Host) (state : AppState)

/-- The bearer block of an untrusted write: whether the write is authorized by a bearer
session, and the DID that session vouches for, or the denial. -/
def tokenAuthorization (headers : Option HeaderMap) (knockCid : String) (actorHint : ActorHint)
    (value : Json) : Except WriteDenial (Bool × Option String) :=
  let world := (value.getStr "@world").getD ""
  let fallbackDid := resolveSubjectDid host (some value) (some actorHint)
  match headers with
  | none => .ok (false, none)
  | some h =>
    if (parseBearerToken h).isNone then .ok (false, none)
    else
      match resolveSessionBearer host state.chipStore h with
      | .ok none => .ok (false, none)
      | .ok (some auth) =>
        if scopeAllowsAny auth.scope ["write", "chip:write", "mcp:write"] then
          if !worldScopeAllows auth.world world then
            .error ⟨knockCid, ErrorCode.policyDenied.wireName,
              "token world '" ++ auth.world ++ "' does not authorize target world '" ++
                world ++ "'", .policyDenied, value, auth.subjectDid.getD fallbackDid⟩
          else .ok (true, auth.subjectDid)
        else
          .error ⟨knockCid, ErrorCode.policyDenied.wireName, "token scope does not allow write",
            .policyDenied, value, auth.subjectDid.getD fallbackDid⟩
      | .error msg =>
        .error ⟨knockCid, ErrorCode.unauthorized.wireName, msg, .unauthorized, value, fallbackDid⟩

/-- The authorization block of an untrusted write: the denial, or the DID hint of the
bearer session that authorized it. -/
def writeAuthorization (headers : Option HeaderMap) (knockCid : String) (actorHint : ActorHint)
    (value : Json) : Except WriteDenial (Option String) := do
  let (authorizedViaToken, subjectDidFromTokenHint) ←
    tokenAuthorization host state headers knockCid actorHint value
  if authorizedViaToken then pure subjectDidFromTokenHint
  else
    let chipType := (value.getStr "@type").getD ""
    let world := (value.getStr "@world").getD ""
    match state.writeAccessPolicy.authorizeWrite host.isOnboardingType headers chipType world with
    | .ok () => pure subjectDidFromTokenHint
    | .error (errCode, reasonMsg) =>
      .error ⟨knockCid, errCode.wireName, reasonMsg, errCode, value,
        subjectDidFromTokenHint.getD (resolveSubjectDid host (some value) (some actorHint))⟩

/-- The canon rate limiter block: the `Retry-After` seconds and the error envelope of the 429
answer, when the limiter is configured and limits the payload. -/
def canonRateLimit (value : Json) : Option (Nat × UblError) :=
  match state.canonRateLimiter with
  | none => none
  | some checkBody =>
    match checkBody value with
    | some (fp, .limited retryAfterSecs) =>
      let retrySecs := min (retryAfterSecs + 1) (2 ^ 64 - 1)
      some (retrySecs, tooManyRequestsError host.nowMicros
        ("Rate limit exceeded for canonical payload " ++ fp.rateKey)
        (.object [("limited_by", .string "canon_fingerprint"), ("fingerprint", .string fp.hash),
          ("at_type", .string fp.atType), ("at_ver", (fp.atVer.map .string).getD .null),
          ("at_world", .string fp.atWorld),
          ("retry_after_seconds", .number (.posInt retrySecs))]))
    | _ => none

/-- `submit_chip_bytes`. -/
def submitChipBytes (headers : Option HeaderMap) (trustedWrite : Bool) (body : List UInt8) :
    Submission :=
  let knockCid := knockCidFromBytes host body
  let actorHint := actorHintFromHeaders host headers
  match host.knock body with
  | .error e =>
    .knockRejection knockCid (knockReasonCode e) e (resolveSubjectDid host none (some actorHint))
  | .ok value =>
    let authorized : Except WriteDenial (Option String) :=
      if !trustedWrite then writeAuthorization host state headers knockCid actorHint value
      else .ok none
    match authorized with
    | .error denial => .writeDenied denial
    | .ok subjectDidFromTokenHint =>
      match canonRateLimit host state value with
      | some (retrySecs, error) => .rateLimited retrySecs error
      | none =>
        let request : ChipRequest :=
          ⟨((value.get "@type").bind Json.asStr).getD "", value, [], some "create"⟩
        let subjectDid :=
          if !trustedWrite then
            subjectDidFromTokenHint.getD (resolveSubjectDid host (some request.body) (some actorHint))
          else resolveSubjectDid host (some request.body) (some actorHint)
        .pipeline request ⟨some subjectDid, some knockCid⟩

/-- A body knock refuses is answered with the knock rejection receipt: the knock CID of the
body, the code of the error and the error, attributed to the subject the actor hint gives. -/
theorem submitChipBytes_of_knock_error {headers : Option HeaderMap} {trustedWrite : Bool}
    {body : List UInt8} {e : String} (hk : host.knock body = .error e) :
  submitChipBytes host state headers trustedWrite body =
    .knockRejection (knockCidFromBytes host body) (knockReasonCode e) e
      (resolveSubjectDid host none (some (actorHintFromHeaders host headers)))
  := by
  simp only [submitChipBytes, hk]

/-! ### Admission of untrusted writes -/

/-- The canon rate limiter is configured and limits the payload. -/
def CanonLimited (value : Json) : Prop :=
  ∃ checkBody fp r, state.canonRateLimiter = some checkBody ∧
    checkBody value = some (fp, .limited r)

theorem canonRateLimit_eq_none_iff (value : Json) :
  canonRateLimit host state value = none ↔ ¬ CanonLimited state value
  := by
  unfold canonRateLimit CanonLimited
  rcases state.canonRateLimiter with _ | checkBody
  · simp
  · rcases hc : checkBody value with _ | ⟨fp, _ | r⟩ <;> simp [hc]

theorem tokenAuthorization_of_no_bearer {headers : Option HeaderMap}
    (h : headers.bind parseBearerToken = none) (knockCid : String) (actorHint : ActorHint)
    (value : Json) :
  tokenAuthorization host state headers knockCid actorHint value = .ok (false, none)
  := by
  rcases headers with _ | hd
  · rfl
  · simp_all [tokenAuthorization]

/-- With a bearer token, the bearer block authorizes exactly a session with a write scope
whose world allows the chip's, and then vouches for the session's DID. -/
theorem tokenAuthorization_of_bearer {h : HeaderMap} {tokenId : String}
    (ht : parseBearerToken h = some tokenId) (knockCid : String) (actorHint : ActorHint)
    (value : Json) (r : Bool × Option String) :
  tokenAuthorization host state (some h) knockCid actorHint value = .ok r ↔
    ∃ auth, resolveSessionBearer host state.chipStore h = .ok (some auth) ∧
      scopeAllowsAny auth.scope ["write", "chip:write", "mcp:write"] = true ∧
      worldScopeAllows auth.world ((value.getStr "@world").getD "") = true ∧
      r = (true, auth.subjectDid)
  := by
  simp only [tokenAuthorization, ht, Option.isNone_some, if_false,
    resolveSessionBearer_of_some host state.chipStore ht, Bool.false_eq_true]
  rcases resolveSessionToken host state.chipStore tokenId with msg | auth
  · simp [Except.map]
  · simp only [Except.map, Except.ok.injEq, Option.some.injEq, exists_eq_left']
    split_ifs with hs hw
    · simp_all
    · simp only [Bool.not_eq_true', Bool.not_eq_false] at hw
      simp [hs, hw, eq_comm]
    · simp_all

/-- An untrusted write is authorized exactly when its bearer session allows it or, without
a bearer token, when the write access policy does. -/
theorem writeAuthorization_isOk_iff (headers : Option HeaderMap) (knockCid : String)
    (actorHint : ActorHint) (value : Json) :
  (∃ hint, writeAuthorization host state headers knockCid actorHint value = .ok hint) ↔
    (∃ h tokenId auth, headers = some h ∧ parseBearerToken h = some tokenId ∧
      resolveSessionBearer host state.chipStore h = .ok (some auth) ∧
      scopeAllowsAny auth.scope ["write", "chip:write", "mcp:write"] = true ∧
      worldScopeAllows auth.world ((value.getStr "@world").getD "") = true) ∨
    (headers.bind parseBearerToken = none ∧
      state.writeAccessPolicy.authorizeWrite host.isOnboardingType headers
        ((value.getStr "@type").getD "") ((value.getStr "@world").getD "") = .ok ())
  := by
  cases hb : headers.bind parseBearerToken with
  | none =>
    rw [or_iff_right (by rintro ⟨h, t, -, rfl, ht, -⟩; simp [ht] at hb), and_iff_right rfl]
    simp only [writeAuthorization, tokenAuthorization_of_no_bearer host state hb, bind_eq_ok]
    split <;> simp_all [pure, Except.pure]
  | some tokenId =>
    obtain ⟨h, rfl, ht⟩ := Option.bind_eq_some.mp hb
    simp only [writeAuthorization, bind_eq_ok, reduceCtorEq, false_and, or_false]
    constructor
    · rintro ⟨hint, r, htok, -⟩
      obtain ⟨auth, hres, hscope, hworld, -⟩ :=
        (tokenAuthorization_of_bearer host state ht knockCid actorHint value r).mp htok
      exact ⟨h, tokenId, auth, rfl, ht, hres, hscope, hworld⟩
    · rintro ⟨h', t', auth, hh, -, hres, hscope, hworld⟩
      cases hh
      exact ⟨_, _, (tokenAuthorization_of_bearer host state ht knockCid actorHint value _).mpr
        ⟨auth, hres, hscope, hworld, rfl⟩, rfl⟩

/-- What a denial of an untrusted write records: the knock CID and the chip it was given, and
the code `POLICY_DENIED` or `UNAUTHORIZED`, whose wire name is the reason code. -/
def WriteDenial.Of (knockCid : String) (value : Json) (d : WriteDenial) : Prop :=
  d.knockCid = knockCid ∧ d.value = value ∧ d.reasonCode = d.errCode.wireName ∧
    (d.errCode = .policyDenied ∨ d.errCode = .unauthorized)

/-- Every denial of the bearer block records the knock CID and the chip it was given, with
the code `POLICY_DENIED` or `UNAUTHORIZED`. -/
theorem tokenAuthorization_error {headers : Option HeaderMap} {knockCid : String}
    {actorHint : ActorHint} {value : Json} {d : WriteDenial}
    (h : tokenAuthorization host state headers knockCid actorHint value = .error d) :
  d.Of knockCid value
  := by
  have hof : ∀ msg errCode subjectDid, (errCode = .policyDenied ∨ errCode = .unauthorized) →
      WriteDenial.Of knockCid value ⟨knockCid, errCode.wireName, msg, errCode, value, subjectDid⟩ :=
    fun _ _ _ hc => ⟨rfl, rfl, rfl, hc⟩
  unfold tokenAuthorization at h
  rcases headers with _ | hd
  · cases h
  dsimp only at h
  rw [if_neg (by rintro hb; rw [if_pos hb] at h; cases h)] at h
  rcases hr : resolveSessionBearer host state.chipStore hd with msg | _ | auth <;>
    rw [hr] at h <;> dsimp only at h
  · cases h
    exact hof _ _ _ (.inr rfl)
  · cases h
  · split_ifs at h <;> cases h <;> exact hof _ _ _ (.inl rfl)

/-- Every denial of an untrusted write records the knock CID and the chip it was given, with
the code `POLICY_DENIED` or `UNAUTHORIZED`. -/
theorem writeAuthorization_error {headers : Option HeaderMap} {knockCid : String}
    {actorHint : ActorHint} {value : Json} {d : WriteDenial}
    (h : writeAuthorization host state headers knockCid actorHint value = .error d) :
  d.Of knockCid value
  := by
  simp only [writeAuthorization, bind, Except.bind] at h
  split at h
  · cases h
    exact tokenAuthorization_error host state (by assumption)
  · split at h
    · cases h
    · split at h
      · cases h
      · rename_i e he
        cases h
        exact ⟨rfl, rfl, rfl, .inr (WriteAccessPolicy.authorizeWrite_error_code _ he)⟩

/-- The untrusted path hands a knocked chip to the pipeline exactly when it is authorized
and not rate limited. -/
theorem submitChipBytes_untrusted_eq_pipeline {body : List UInt8} {value : Json}
    (hk : host.knock body = .ok value) (headers : Option HeaderMap) :
  (∃ request ctx, submitChipBytes host state headers false body = .pipeline request ctx) ↔
    (∃ hint, writeAuthorization host state headers (knockCidFromBytes host body)
      (actorHintFromHeaders host headers) value = .ok hint) ∧
    canonRateLimit host state value = none
  := by
  simp only [submitChipBytes, hk, Bool.not_false, if_true]
  cases writeAuthorization host state headers (knockCidFromBytes host body)
    (actorHintFromHeaders host headers) value with
  | error d => simp
  | ok hint =>
    cases canonRateLimit host state value with
    | none => simp
    | some r => simp

theorem submitChipBytes_untrusted_admission (headers : Option HeaderMap) (body : List UInt8) :
  (∃ request ctx, submitChipBytes host state headers false body = .pipeline request ctx) ↔
    ∃ value, host.knock body = .ok value ∧
      ((∃ h tokenId auth, headers = some h ∧ parseBearerToken h = some tokenId ∧
          resolveSessionBearer host state.chipStore h = .ok (some auth) ∧
          ("*" ∈ auth.scope ∨ "write" ∈ auth.scope ∨ "chip:write" ∈ auth.scope ∨
            "mcp:write" ∈ auth.scope) ∧
          worldScopeAllows auth.world ((value.getStr "@world").getD "") = true) ∨
        (headers.bind parseBearerToken = none ∧
          ((state.writeAccessPolicy.authRequired = false ∧ state.writeAccessPolicy.apiKeys = []) ∨
            (∃ h key, headers = some h ∧ extractApiKey h = some key ∧
              key ∈ state.writeAccessPolicy.apiKeys) ∨
            host.isOnboardingType ((value.getStr "@type").getD "") = true ∨
            ((value.getStr "@world").getD "" ∈ state.writeAccessPolicy.publicWorlds ∧
              (value.getStr "@type").getD "" ∈ state.writeAccessPolicy.publicTypes)))) ∧
      ¬ CanonLimited state value
  := by
  cases hk : host.knock body with
  | error e => simp [submitChipBytes, hk]
  | ok value =>
    rw [submitChipBytes_untrusted_eq_pipeline host state hk, writeAuthorization_isOk_iff,
      canonRateLimit_eq_none_iff, WriteAccessPolicy.authorizeWrite_eq_ok]
    simp [scopeAllowsAny_eq_true]

end

end UblGate
