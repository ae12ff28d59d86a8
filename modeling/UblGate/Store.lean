import UblGate.Access
import UblGate.Host

/-!
# Stores and gate state

The chip store and the durable receipt store as the handlers read them, and `AppState`.  Both live outside
this repository's source (`ubl_chipstore::ChipStore`, `ubl_runtime::durable_store`); a
handler sees the answers of their lookups at the time of the request, so each is a record
of lookup functions.  Writes to the chip store are effects of the handlers, modelled with
the handlers.  The canon rate limiter, also outside the source, is seen through its answer
for the payload at hand.
-/

namespace UblGate

/-- `ExecutionMetadata` of a stored chip. -/
structure ExecutionMetadata where
  runtimeVersion : String
  executionTimeMs : Nat
  fuelConsumed : Nat
  policiesApplied : List String
  executorDid : String
  reproducible : Bool

/-- `StoredChip`, a chip as the chip store holds it. -/
structure StoredChip where
  cid : String
  chipType : String
  chipData : Json
  receiptCid : String
  createdAt : String
  executionMetadata : ExecutionMetadata

/-- `ChipQuery`, with the fields the gate sets. -/
structure ChipQuery where
  chipType : Option String
  tags : List String
  limit : Option Nat

/-- The result of a chip query. -/
structure QueryResult where
  chips : List StoredChip
  totalCount : Nat

/-- What a handler reads from the chip store (`ubl_chipstore::ChipStore`, not in this
repository's source): the answers of its queries and lookups at the time of the request,
and the CID or error `store_executed_chip` answers for a chip stored. -/
structure ChipStore where
  query : ChipQuery → Except String QueryResult
  getChip : String → Except String (Option StoredChip)
  getChipByReceiptCid : String → Except String (Option StoredChip)
  storeExecutedChip : Json → String → ExecutionMetadata → Except String String

/-- What a handler reads from the durable store: the receipt body under a receipt CID. -/
structure DurableStore where
  getReceipt : String → Except String (Option Json)

/-- `RateLimitResult`, as the gate reads it: `limited` carries `retry_after.as_secs()`. -/
inductive RateLimitResult where
  | allowed
  | limited (retryAfterSecs : Nat)

/-- `CanonFingerprint`, the rate key of a canonical payload. -/
structure CanonFingerprint where
  hash : String
  atType : String
  atVer : Option String
  atWorld : String
  rateKey : String

/-- A chip type of the gate manifest. -/
structure ChipTypeInfo where
  chipType : String
  description : Json
  requiredCap : Json

/-- `AppState`, with the fields the modelled handlers read; `passportCid` and
`advisoryModel` are those of its advisory engine, `manifestChipTypes` and `mcpTools` what
its manifest lists.  The canon rate limiter is
seen through its answer to `check_body` for the request at hand. -/
structure AppState where
  chipStore : ChipStore
  passportCid : String
  advisoryModel : String
  manifestChipTypes : List ChipTypeInfo
  mcpTools : Json
  durableStore : Option DurableStore
  writeAccessPolicy : WriteAccessPolicy
  canonRateLimiter : Option (Json → Option (CanonFingerprint × RateLimitResult))

end UblGate
