import UblGate.Error
import UblGate.Text

/-!
# Write access

The request headers and the write access policy of the gate.  `extractApiKey` reads the
key a request presents, from `X-API-Key` or from an `Authorization` header with scheme
`ApiKey`, `Api-Key` or `Bearer`; `parseBearerToken` reads a bearer token.
`WriteAccessPolicy.authorizeWrite` lets a write through when the policy is open (no
authentication required and no key configured), when the presented key is configured,
or when the chip takes the public lane: an onboarding type, or an allowed pair of public
world and public type.  Which chip types are onboarding types is decided outside this
repository's source and is an argument here.
-/

namespace UblGate

/-- `http::HeaderMap`: the header lines of a request, each name lower-cased as
`HeaderName` stores it. -/
structure HeaderMap where
  entries : List (String × String)

/-- `HeaderMap::get`: the first value of a header; names compare case-insensitively. -/
def HeaderMap.get (h : HeaderMap) (name : String) : Option String :=
  (h.entries.find? fun e => e.1.data == name.data.map Char.toLower).map (·.2)

/-- `HeaderValue::to_str`: the value, when all its characters are visible ASCII or tab. -/
def headerToStr (v : String) : Option String :=
  if v.data.all fun c => c == '\t' || (32 ≤ c.toNat && c.toNat < 127) then some v else none

/-- `extract_api_key`. -/
def extractApiKey (headers : HeaderMap) : Option String :=
  match (((headers.get "x-api-key").bind headerToStr).map Str.trim).filter fun v => !v.isEmpty with
  | some k => some k
  | none => do
    let auth ← (headers.get "authorization").bind headerToStr
    let (scheme, token) ← Str.splitOnce auth ' '
    let schemeOk := Str.eqIgnoreAsciiCase scheme "apikey" ||
      Str.eqIgnoreAsciiCase scheme "api-key" || Str.eqIgnoreAsciiCase scheme "bearer"
    if !schemeOk then none
    else
      let token := Str.trim token
      if token.isEmpty then none else some token

/-- `parse_bearer_token`. -/
def parseBearerToken (headers : HeaderMap) : Option String := do
  let auth ← (headers.get "authorization").bind headerToStr
  let (scheme, token) ← Str.splitOnce auth ' '
  if !Str.eqIgnoreAsciiCase scheme "bearer" || (Str.trim token).isEmpty then none
  else some (Str.trim token)

/-- `WriteAccessPolicy`. -/
structure WriteAccessPolicy where
  authRequired : Bool
  apiKeys : List String
  publicWorlds : List String
  publicTypes : List String

namespace WriteAccessPolicy

variable (isOnboardingType : String → Bool)

/-- `WriteAccessPolicy::matches_api_key`. -/
def matchesApiKey (p : WriteAccessPolicy) (headers : Option HeaderMap) : Bool :=
  match headers with
  | none => false
  | some h =>
    match extractApiKey h with
    | none => false
    | some presented => p.apiKeys.any (· == presented)

/-- `WriteAccessPolicy::allows_public_unauthenticated`. -/
def allowsPublicUnauthenticated (p : WriteAccessPolicy) (chipType world : String) : Bool :=
  if isOnboardingType chipType then true
  else p.publicWorlds.any (· == world) && p.publicTypes.any (· == chipType)

/-- `WriteAccessPolicy::authorize_write`. -/
def authorizeWrite (p : WriteAccessPolicy) (headers : Option HeaderMap) (chipType world : String) :
    Except (ErrorCode × String) Unit :=
  if !p.authRequired && p.apiKeys.isEmpty then .ok ()
  else if p.matchesApiKey headers then .ok ()
  else if p.allowsPublicUnauthenticated isOnboardingType chipType world then .ok ()
  else .error (.unauthorized, "write auth required for @type='" ++ chipType ++ "' @world='" ++
    world ++ "'; provide X-API-Key or use allowed public onboarding lane")

theorem matchesApiKey_eq_true (p : WriteAccessPolicy) (headers : Option HeaderMap) :
  p.matchesApiKey headers = true ↔
    ∃ h key, headers = some h ∧ extractApiKey h = some key ∧ key ∈ p.apiKeys
  := by
  unfold matchesApiKey
  rcases headers with _ | h
  · simp
  · cases hk : extractApiKey h <;> simp [hk]

theorem allowsPublicUnauthenticated_eq_true (p : WriteAccessPolicy) (chipType world : String) :
  p.allowsPublicUnauthenticated isOnboardingType chipType world = true ↔
    isOnboardingType chipType = true ∨ (world ∈ p.publicWorlds ∧ chipType ∈ p.publicTypes)
  := by
  unfold allowsPublicUnauthenticated
  split_ifs with h <;> simp [h]

/-- The policy lets a write through exactly when it is open, the request presents a
configured key, or the chip takes the public lane. -/
theorem authorizeWrite_eq_ok (p : WriteAccessPolicy) (headers : Option HeaderMap)
    (chipType world : String) :
  p.authorizeWrite isOnboardingType headers chipType world = .ok () ↔
    (p.authRequired = false ∧ p.apiKeys = []) ∨
    (∃ h key, headers = some h ∧ extractApiKey h = some key ∧ key ∈ p.apiKeys) ∨
    isOnboardingType chipType = true ∨ (world ∈ p.publicWorlds ∧ chipType ∈ p.publicTypes)
  := by
  rw [← matchesApiKey_eq_true, ← allowsPublicUnauthenticated_eq_true]
  unfold authorizeWrite
  split_ifs <;> simp_all

/-- A refused write is refused as `UNAUTHORIZED`. -/
theorem authorizeWrite_error_code {p : WriteAccessPolicy} {headers : Option HeaderMap}
    {chipType world : String} {e : ErrorCode × String}
    (h : p.authorizeWrite isOnboardingType headers chipType world = .error e) :
  e.1 = .unauthorized
  := by
  unfold authorizeWrite at h
  split_ifs at h
  cases h
  rfl

end WriteAccessPolicy

end UblGate
