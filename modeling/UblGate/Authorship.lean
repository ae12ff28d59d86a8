import UblGate.Access
import UblGate.Host

/-!
# Authorship

`resolveSubjectDid` names who is knocking.  An explicit DID in the chip wins: the first of
`actor.did`, `did` and `owner_did` that is a string starting with `did:`.  Otherwise the
subject is anonymous, `did:ubl:anon:` followed by the content address of a claims object
built from the stable string claims under `actor` and the transport hints
`actorHintFromHeaders` derives from the request headers: the `/24` prefix of the client
address and the BLAKE3 hash of the user agent.

The subject is a function of the identity claims alone (`resolveSubjectDid_depends_on_claims`):
of the explicit DID when there is one, and otherwise of the hints and of the five strings under
`actor` that `actorClaims` copies; and it is always a DID.
-/

namespace UblGate

/-- `ActorHint`, the transport-level hints of a request. -/
structure ActorHint where
  ipPrefix : Option String := none
  userAgentHash : Option String := none

section

variable (host : Host)

/-- `knock_cid_from_bytes`. -/
def knockCidFromBytes (bytes : List UInt8) : String :=
  "b3:" ++ host.blake3Hex bytes

/-- `extract_explicit_did`. -/
def extractExplicitDid (body : Json) : Option String :=
  let actorDid := (((body.get "actor").bind Json.asObject).bind fun o => o.lookup "did").bind
    Json.asStr
  match actorDid.filter fun s => Str.startsWith s "did:" with
  | some did => some did
  | none =>
    match (body.getStr "did").filter fun s => Str.startsWith s "did:" with
    | some did => some did
    | none => (body.getStr "owner_did").filter fun s => Str.startsWith s "did:"

/-- `copy_if_str`. -/
def copyIfStr (src : List (String × Json)) (key : String) (dst : List (String × Json)) :
    List (String × Json) :=
  match (src.lookup key).bind Json.asStr with
  | some v => Json.insertField key (.string v) dst
  | none => dst

/-- `claims_fingerprint`. -/
def claimsFingerprint (claims : Json) : String :=
  match (host.toNrf1Bytes claims).bind host.computeCid with
  | .ok cid => cid
  | .error _ => knockCidFromBytes host (host.toVec claims)

/-- The claims object of an anonymous subject: the stable string claims under `actor`. -/
def actorClaims (body : Option Json) : List (String × Json) :=
  match body.bind fun b => (b.get "actor").bind Json.asObject with
  | some actor =>
    copyIfStr actor "kid" <| copyIfStr actor "session_id" <| copyIfStr actor "device_id" <|
      copyIfStr actor "client_pubkey" <| copyIfStr actor "installation_key" []
  | none => []

/-- The claims object extended by the transport hints. -/
def hintClaims (hint : Option ActorHint) (claims : List (String × Json)) :
    List (String × Json) :=
  match hint with
  | some h =>
    let claims := match h.ipPrefix with
      | some ip => Json.insertField "ip_prefix" (.string ip) claims
      | none => claims
    match h.userAgentHash with
    | some ua => Json.insertField "user_agent_hash" (.string ua) claims
    | none => claims
  | none => claims

/-- `resolve_subject_did`. -/
def resolveSubjectDid (body : Option Json) (hint : Option ActorHint) : String :=
  match body.bind extractExplicitDid with
  | some did => did
  | none => "did:ubl:anon:" ++ claimsFingerprint host (.object (hintClaims hint (actorClaims body)))

/-- `actor_hint_from_headers`. -/
def actorHintFromHeaders (headers : Option HeaderMap) : ActorHint :=
  match headers with
  | none => {}
  | some h =>
    let ipPrefix :=
      match ((h.get "cf-connecting-ip").orElse fun _ => h.get "x-forwarded-for").bind
        headerToStr with
      | none => none
      | some forwardedFor =>
        let ip := Str.trim ⟨forwardedFor.data.takeWhile (· != ',')⟩
        if ip.isEmpty then none
        else
          match ip.data.splitOn '.' with
          | [a, b, c, _] => some (String.mk a ++ "." ++ String.mk b ++ "." ++ String.mk c ++ ".*")
          | _ => some ip
    let userAgentHash := ((h.get "user-agent").bind headerToStr).map fun ua =>
      "b3:" ++ host.blake3Hex ua.toUTF8.toList
    { ipPrefix, userAgentHash }

theorem resolveSubjectDid_of_explicit {body : Option Json} {did : String}
    (h : body.bind extractExplicitDid = some did) (hint : Option ActorHint) :
  resolveSubjectDid host body hint = did
  := by
  simp [resolveSubjectDid, h]

theorem resolveSubjectDid_of_anonymous {body : Option Json}
    (h : body.bind extractExplicitDid = none) (hint : Option ActorHint) :
  resolveSubjectDid host body hint =
    "did:ubl:anon:" ++ claimsFingerprint host (.object (hintClaims hint (actorClaims body)))
  := by
  simp [resolveSubjectDid, h]

/-! ### The subject depends only on the identity claims -/

/-- The identity claim `key` of a body: the string under `actor.key`, when there is one. -/
def actorClaim (body : Option Json) (key : String) : Option String :=
  ((body.bind fun b => (b.get "actor").bind Json.asObject).bind fun actor => actor.lookup key).bind
    Json.asStr

/-- The identity claims an anonymous subject is derived from. -/
def identityClaimKeys : List String :=
  ["installation_key", "client_pubkey", "device_id", "session_id", "kid"]

/-- The members of `actor`, none when the body has no `actor` object. -/
private def actorMembers (body : Option Json) : List (String × Json) :=
  (body.bind fun b => (b.get "actor").bind Json.asObject).getD []

private theorem actorClaims_eq (body : Option Json) :
  actorClaims body =
    (copyIfStr (actorMembers body) "kid" <| copyIfStr (actorMembers body) "session_id" <|
      copyIfStr (actorMembers body) "device_id" <| copyIfStr (actorMembers body) "client_pubkey" <|
        copyIfStr (actorMembers body) "installation_key" [])
  := by
  unfold actorClaims actorMembers
  cases body.bind fun b => (b.get "actor").bind Json.asObject <;> rfl

private theorem actorClaim_eq (body : Option Json) (key : String) :
  actorClaim body key = ((actorMembers body).lookup key).bind Json.asStr
  := by
  unfold actorClaim actorMembers
  cases body.bind fun b => (b.get "actor").bind Json.asObject <;> rfl

/-- Two bodies with the same identity claims have the same claims object. -/
theorem actorClaims_congr {b₁ b₂ : Option Json}
    (h : ∀ key ∈ identityClaimKeys, actorClaim b₁ key = actorClaim b₂ key) :
  actorClaims b₁ = actorClaims b₂
  := by
  have hcopy : ∀ key ∈ identityClaimKeys, ∀ dst,
      copyIfStr (actorMembers b₁) key dst = copyIfStr (actorMembers b₂) key dst := by
    intro key hkey dst
    unfold copyIfStr
    rw [← actorClaim_eq, ← actorClaim_eq, h key hkey]
  rw [actorClaims_eq, actorClaims_eq]
  simp only [hcopy "kid" (by decide), hcopy "session_id" (by decide),
    hcopy "device_id" (by decide), hcopy "client_pubkey" (by decide),
    hcopy "installation_key" (by decide)]

theorem startsWith_of_extractExplicitDid {body : Json} {did : String}
    (h : extractExplicitDid body = some did) :
  Str.startsWith did "did:" = true
  := by
  unfold extractExplicitDid at h
  dsimp only at h
  split at h
  · rename_i hactor
    cases h
    exact (Option.filter_eq_some.mp hactor).2
  · split at h
    · rename_i hroot
      cases h
      exact (Option.filter_eq_some.mp hroot).2
    · exact (Option.filter_eq_some.mp h).2

/-- The subject is a function of the identity claims: two requests whose bodies name the same
explicit DID, or name none and carry the same hints and the same identity claims, have the
same subject, and every subject is a DID.  A missing body, as on a knock rejection, is a
body without claims. -/
theorem resolveSubjectDid_depends_on_claims (b₁ b₂ : Option Json) (h₁ h₂ : Option ActorHint) :
  ((∃ did, b₁.bind extractExplicitDid = some did ∧ b₂.bind extractExplicitDid = some did) ∨
      (b₁.bind extractExplicitDid = none ∧ b₂.bind extractExplicitDid = none ∧ h₁ = h₂ ∧
        ∀ key ∈ identityClaimKeys, actorClaim b₁ key = actorClaim b₂ key) →
    resolveSubjectDid host b₁ h₁ = resolveSubjectDid host b₂ h₂) ∧
  Str.startsWith (resolveSubjectDid host b₁ h₁) "did:" = true
  := by
  refine ⟨?_, ?_⟩
  · rintro (⟨did, hd₁, hd₂⟩ | ⟨hn₁, hn₂, rfl, hclaims⟩)
    · rw [resolveSubjectDid_of_explicit host hd₁, resolveSubjectDid_of_explicit host hd₂]
    · rw [resolveSubjectDid_of_anonymous host hn₁, resolveSubjectDid_of_anonymous host hn₂,
        actorClaims_congr hclaims]
  · cases hd : b₁.bind extractExplicitDid with
    | some did =>
      rw [resolveSubjectDid_of_explicit host hd]
      obtain ⟨b, -, hb⟩ := Option.bind_eq_some.mp hd
      exact startsWith_of_extractExplicitDid hb
    | none =>
      rw [resolveSubjectDid_of_anonymous host hd]
      rfl


end

end UblGate
