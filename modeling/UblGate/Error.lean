import UblGate.Json

/-!
# Error codes and error envelopes

`ErrorCode` is the closed error code set of the gate, with the wire name each code
serializes to and the HTTP status it answers with; `UblError` is the error envelope, and
`tooManyRequestsError`, `tamperDetectedError` and `writeAccessError` are the three
envelopes the gate builds itself.  An envelope's `id` carries the microsecond clock
reading it was built at, an argument here.
-/

namespace UblGate

/-- `ErrorCode`.  Modelled from the spec: `ubl_runtime::error_response` is not in the
source; the variants and wire names are the closed code set of the external interfaces,
the statuses those the error classification gives. -/
inductive ErrorCode where
  | knockRejected
  | unauthorized
  | policyDenied
  | notFound
  | invalidCid
  | invalidSignature
  | signError
  | canonError
  | tamperDetected
  | conflict
  | tooManyRequests
  | unavailable
  | internalError
  deriving DecidableEq, Repr

namespace ErrorCode

/-- The string `serde_json::to_value(code)` gives. -/
def wireName : ErrorCode → String
  | knockRejected => "KNOCK_REJECTED"
  | unauthorized => "UNAUTHORIZED"
  | policyDenied => "POLICY_DENIED"
  | notFound => "NOT_FOUND"
  | invalidCid => "INVALID_CID"
  | invalidSignature => "INVALID_SIGNATURE"
  | signError => "SIGN_ERROR"
  | canonError => "CANON_ERROR"
  | tamperDetected => "TAMPER_DETECTED"
  | conflict => "CONFLICT"
  | tooManyRequests => "TOO_MANY_REQUESTS"
  | unavailable => "UNAVAILABLE"
  | internalError => "INTERNAL_ERROR"

/-- `ErrorCode::http_status`. -/
def httpStatus : ErrorCode → Nat
  | knockRejected => 422
  | unauthorized => 401
  | policyDenied => 403
  | notFound => 404
  | invalidCid => 400
  | invalidSignature => 422
  | signError => 422
  | canonError => 422
  | tamperDetected => 422
  | conflict => 409
  | tooManyRequests => 429
  | unavailable => 503
  | internalError => 500

end ErrorCode

/-- `UblError`, the error envelope. -/
structure UblError where
  errorType : String
  id : String
  ver : String
  world : String
  code : ErrorCode
  message : String
  link : String
  details : Option Json

/-- `UblError::to_json`.  Modelled from the spec: the error envelope of the external
interfaces. -/
def UblError.toJson (e : UblError) : Json :=
  .object [("@type", .string e.errorType), ("id", .string e.id), ("ver", .string e.ver),
    ("world", .string e.world), ("code", .string e.code.wireName),
    ("message", .string e.message), ("link", .string e.link),
    ("details", e.details.getD .null)]

/-- `too_many_requests_error`. -/
def tooManyRequestsError (nowMicros : Int) (message : String) (details : Json) : UblError where
  errorType := "ubl/error"
  id := "err-rate-" ++ toString nowMicros
  ver := "1.0"
  world := "a/system/t/errors"
  code := .tooManyRequests
  message := message
  link := "https://docs.ubl.agency/errors#TOO_MANY_REQUESTS"
  details := some details

/-- `tamper_detected_error`. -/
def tamperDetectedError (nowMicros : Int) (message : String) (details : Json) : UblError where
  errorType := "ubl/error"
  id := "err-tamper-" ++ toString nowMicros
  ver := "1.0"
  world := "a/system/t/errors"
  code := .tamperDetected
  message := message
  link := "https://docs.ubl.agency/errors#TAMPER_DETECTED"
  details := some details

/-- `write_access_error`. -/
def writeAccessError (nowMicros : Int) (code : ErrorCode) (message : String) (details : Json) :
    UblError where
  errorType := "ubl/error"
  id := "err-write-" ++ toString nowMicros
  ver := "1.0"
  world := "a/system/t/errors"
  code := code
  message := message
  link := "https://docs.ubl.agency/errors#" ++ code.wireName
  details := some details

end UblGate
