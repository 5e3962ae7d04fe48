import Wimsey.Wit.RoundTrip

/-!
# The issuer

The model of `crates/issuer/src/lib.rs`: the issuer and its `issue_wit` handler.
The clock and the random source are arguments of the handler: `now` is what
`now_unix` returns, and `random` is what `getrandom` fills the buffer with, if
it succeeds.
-/

namespace Wimsey.Issuance

open Wimsey.RustStd Wimsey.Codec Wimsey.Serde Wimsey.Jose Wimsey.Wit
open Wimsey.Identifier (WorkloadIdentifier ParseError)

/-! ## Errors -/

/-- The messages of `IssueError::BadRequest`, by what they are about. -/
inductive BadRequest where
  /-- "invalid sub: {e}" -/
  | invalidSub (e : ParseError)
  /-- "invalid cnf_jwk" -/
  | invalidCnfJwk
  /-- "ttl must be greater than 0" -/
  | zeroTtl
  /-- "requested ttl {ttl}s exceeds the maximum of {}s" -/
  | ttlTooLong (ttl maximum : UInt64)
  /-- "ttl overflows the expiry time" -/
  | ttlOverflow
deriving DecidableEq, Repr

/-- The details of `IssueError::Internal`, which are logged and not sent. -/
inductive Internal where
  | random
  | wit (e : WitError)
deriving DecidableEq, Repr

/-- `IssueError`. -/
inductive IssueError where
  | badRequest (message : BadRequest)
  | internal (detail : Internal)
deriving DecidableEq, Repr

/-! ## The issuer and its requests -/

section

variable [Ed25519] [P256]

/-- The configuration and the key of an issuer.  `Issuer::new` asserts that the
lifetime is not 0. -/
structure Issuer where
  signingKey : SigningKey
  iss : Str
  kid : Option Str
  defaultTtl : UInt64
  positive : 0 < defaultTtl

/-- `Issuer::new`. -/
def Issuer.new {ε : Type} (signingKey : SigningKey) (iss : Str)
    (kid : Option Str) (defaultTtl : UInt64) : Outcome ε Issuer :=
  if h : 0 < defaultTtl then
    .ok
      { signingKey := signingKey
        iss := iss
        kid := kid
        defaultTtl := defaultTtl
        positive := h }
  else .panic

/-- `Issuer::public_jwk`. -/
def Issuer.publicJwk {ε : Type} [Base64] (issuer : Issuer) : Outcome ε Jwk :=
  Jwk.fromVerifyingKey issuer.signingKey.verifyingKey

/-- A request to issue a token for a workload. -/
structure IssueRequest where
  sub : Str
  cnfJwk : Jwk
  ttl : Option UInt64
deriving DecidableEq, Repr

/-- The issued token. -/
structure IssueResponse where
  wit : Str
deriving DecidableEq, Repr

/-! ## The handler -/

/-- The digits of a byte. -/
def HEX : List Char := "0123456789abcdef".toList

/-- `random_id`. -/
def randomId (random : Option (Vector UInt8 16)) : Option Str :=
  random.map fun bytes => bytes.toList.flatMap fun (byte : UInt8) =>
    [HEX.getD (byte >>> 4).toNat '0', HEX.getD (byte &&& 0x0F).toNat '0']

/-- The lifetime of the token that a request asks for. -/
def IssueRequest.lifetime (request : IssueRequest) (issuer : Issuer) : UInt64 :=
  request.ttl.getD issuer.defaultTtl

/-- The claims of the token for a request. -/
def Issuer.claims (issuer : Issuer) (request : IssueRequest)
    (sub : WorkloadIdentifier) (iat exp : UInt64) (jti : Str) : WitClaims :=
  { iss := some issuer.iss
    sub := sub
    iat := some iat
    exp := exp
    jti := some jti
    cnf := { jwk := request.cnfJwk } }

/-- `issue_wit`. -/
def issueWit [Base64] [SerdeJson] (issuer : Issuer) (request : IssueRequest)
    (now : UInt64) (random : Option (Vector UInt8 16)) :
    Outcome IssueError IssueResponse := do
  let sub ← Outcome.mapErr (fun e => .badRequest (.invalidSub e))
    (Identifier.parse (Str.trim request.sub))
  let _ ← Outcome.mapErr
      (fun _ => .badRequest .invalidCnfJwk) request.cnfJwk.toVerifyingKey
  -- The default is also the maximum that may be requested.
  let ttl := request.lifetime issuer
  Outcome.failIf (ttl == 0) (.badRequest .zeroTtl)
  Outcome.failIf (issuer.defaultTtl < ttl)
    (.badRequest (.ttlTooLong ttl issuer.defaultTtl))
  let exp ← Outcome.okOr (.badRequest .ttlOverflow) (checkedAdd now ttl)
  let jti ← Outcome.okOr (.internal .random) (randomId random)
  let wit ← Outcome.mapErr (fun e => .internal (.wit e))
    (issue (issuer.claims request sub now exp jti) issuer.kid issuer.signingKey)
  .ok { wit := wit }

end

end Wimsey.Issuance
