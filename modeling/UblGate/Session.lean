import UblGate.Scope
import UblGate.Store

/-!
# Bearer sessions

`resolveSessionBearer`, which turns the bearer
token of a request into a session: the `ubl/token` chip whose `@id` is the token, parsed
into a `SessionToken`, not expired and not revoked, whose user is not revoked either.  The
session carries the token's world, its scope list and, when the user chip has one, the
user's DID.  `validateMcpWsBearer` admits a WebSocket session whose bearer token resolves
to a session with an MCP scope.

A request without a bearer token has no session, and every other outcome of the lookup is
a session or an error message: `resolveSessionBearer` never answers "no session" to a
request that carries a token.
-/

namespace UblGate

/-- `McpWsAuth`, a resolved bearer session. -/
structure McpWsAuth where
  tokenId : String
  tokenCid : String
  world : String
  scope : List String
  subjectDid : Option String

section

variable (host : Host) (store : ChipStore)

/-- Whether a `ubl/revoke` chip targets the CID; a failed query counts as not revoked. -/
def revokedTarget (cid : String) : Bool :=
  match store.query ⟨some "ubl/revoke", ["target_cid:" ++ cid], some 1⟩ with
  | .ok r => decide (0 < r.totalCount)
  | .error _ => false

/-- The session of a bearer token, once the token has been read from the headers. -/
def resolveSessionToken (tokenId : String) : Except String McpWsAuth := do
  let tokenResult ← (store.query ⟨some "ubl/token", ["id:" ++ tokenId], some 10⟩).mapError
    fun e => "token query failed: " ++ e
  let some tokenChip := tokenResult.chips.find? fun chip =>
      chip.chipData.getStr "@id" == some tokenId
    | .error "token not found"
  let session ← (host.sessionFromChipBody tokenChip.chipData).mapError
    fun e => "invalid token chip: " ++ e
  let expiresAt ← (host.parseRfc3339 session.expiresAt).mapError
    fun e => "invalid token expiry: " ++ e
  if expiresAt ≤ host.now then .error "token expired"
  else if revokedTarget store tokenChip.cid then .error "token revoked"
  else
    let some tokenWorld := ((tokenChip.chipData.getStr "@world").map Str.trim).filter
        fun v => !v.isEmpty
      | .error "token missing @world"
    let subjectDid := match store.getChip session.userCid with
      | .ok (some userChip) =>
        (userChip.chipData.getStr "did").filter fun d => Str.startsWith d "did:"
      | _ => none
    if revokedTarget store session.userCid then .error "token user revoked"
    else .ok ⟨tokenId, tokenChip.cid, tokenWorld, session.scope, subjectDid⟩

/-- `resolve_session_bearer`. -/
def resolveSessionBearer (headers : HeaderMap) : Except String (Option McpWsAuth) :=
  match parseBearerToken headers with
  | none => .ok none
  | some tokenId => (resolveSessionToken host store tokenId).map some

/-- Why `validate_mcp_ws_bearer` refuses a WebSocket upgrade: the status and the message. -/
def validateMcpWsBearer (headers : HeaderMap) : Except (Nat × String × String) McpWsAuth :=
  match parseBearerToken headers with
  | none => .error (401, "UNAUTHORIZED", "missing Authorization: Bearer <token>")
  | some tokenId =>
    match resolveSessionBearer host store headers with
    | .ok none => .error (401, "UNAUTHORIZED", "token not found")
    | .error msg => .error (401, "UNAUTHORIZED", msg)
    | .ok (some auth) =>
      if !scopeAllowsAny auth.scope ["mcp", "read", "write", "mcp:write"] then
        .error (403, "POLICY_DENIED", "token scope does not allow MCP access")
      else if auth.tokenId != tokenId then .error (401, "UNAUTHORIZED", "token mismatch")
      else .ok auth

/-- A request with a bearer token has a session or an error, never no session. -/
theorem resolveSessionBearer_of_some {headers : HeaderMap} {tokenId : String}
    (h : parseBearerToken headers = some tokenId) :
  resolveSessionBearer host store headers = (resolveSessionToken host store tokenId).map some
  := by
  simp [resolveSessionBearer, h]

/-- A `do` block of `Except` succeeds when its first step does and the rest succeeds on
that step's value. -/
theorem bind_eq_ok {ε α β : Type} {x : Except ε α} {f : α → Except ε β} {b : β} :
  x >>= f = .ok b ↔ ∃ a, x = .ok a ∧ f a = .ok b
  := by
  cases x <;> simp [bind, Except.bind]

end

end UblGate
