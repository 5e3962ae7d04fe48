import Wimsey.Identifier.Grammar
import Wimsey.Jose.Jwk

/-!
# Workload Identity Tokens

The model of `crates/wit/src/`: the claims of a token, its issuance as a compact
JWS, and its verification.  Everything a caller can configure is in
`Validation`, and `verify` looks at it only after the signature.
-/

namespace Wimsey.Wit

open Wimsey.RustStd Wimsey.Codec Wimsey.Serde Wimsey.Jose
open Wimsey.Identifier (WorkloadIdentifier)

/-! ## Errors -/

/-- `WitError`. -/
inductive WitError where
  | malformedToken
  | tokenTooLong
  | unsupportedCritical
  | base64
  | json
  | wrongType (found : Str)
  | unsupportedAlg (found : Str)
  | invalidSignature
  | expired
  | issuedInFuture
  | issuerMismatch
  | invalidKey
  | algorithmMismatch
  | missingConfirmationAlg
  | forbiddenConfirmationAlg (found : Str)
  | unsupportedConfirmationAlg (found : Str)
deriving DecidableEq, Repr

/-- `From<JoseError> for WitError`. -/
def WitError.ofJose : JoseError → WitError
  | .missingAlg => .missingConfirmationAlg
  | .forbiddenAlg found => .forbiddenConfirmationAlg found
  | .unsupportedAlg found => .unsupportedConfirmationAlg found
  | .invalidSignature => .invalidSignature
  | _ => .invalidKey

/-- `From<serde_json::Error> for WitError`. -/
def WitError.ofJson : Serde.Error → WitError := fun _ => .json

/-! ## Claims -/

/-- The `cnf` claim. -/
structure Confirmation where
  jwk : Jwk
deriving DecidableEq, Repr

/-- The claims of a Workload Identity Token. -/
structure WitClaims where
  iss : Option Str
  sub : WorkloadIdentifier
  iat : Option UInt64
  exp : UInt64
  jti : Option Str
  cnf : Confirmation
deriving DecidableEq

/-- `Serialize` for `Confirmation`. -/
def Confirmation.serialize (cnf : Confirmation) : Json :=
  .object (member "jwk" cnf.jwk.serialize)

/-- `Deserialize` for `Confirmation`. -/
def Confirmation.deserialize (j : Json) : Outcome Error Confirmation := do
  let members ← fields ["jwk"] 1 j
  let jwk ← required Jwk.deserialize "jwk" members
  .ok { jwk := jwk }

/-- `Serialize` for `WitClaims`. -/
def WitClaims.serialize (claims : WitClaims) : Json :=
  .object (optMember "iss" .str claims.iss ++
    member "sub" claims.sub.serialize ++
    optMember "iat" .posInt claims.iat ++ member "exp" (.posInt claims.exp) ++
    optMember "jti" .str claims.jti ++ member "cnf" claims.cnf.serialize)

/-- `Deserialize` for `WitClaims`. -/
def WitClaims.deserialize (j : Json) : Outcome Error WitClaims := do
  let members ← fields ["iss", "sub", "iat", "exp", "jti", "cnf"] 6 j
  let iss ← optional deString "iss" members
  let sub ← required WorkloadIdentifier.deserialize "sub" members
  let iat ← optional deU64 "iat" members
  let exp ← required deU64 "exp" members
  let jti ← optional deString "jti" members
  let cnf ← required Confirmation.deserialize "cnf" members
  .ok { iss := iss, sub := sub, iat := iat, exp := exp, jti := jti, cnf := cnf }

/-! ## The token -/

/-- The JOSE `typ` of a Workload Identity Token. -/
def TYP : Str := "wit+jwt"

/-- The maximum size, in bytes, of a token. -/
def MAX_TOKEN_LEN : Nat := 8192

/-- The JOSE header.  `kid` has no default, so it may not be left out of a
header that is an array. -/
structure Header where
  typ : Str
  alg : Str
  kid : Option Str
  crit : Option (List Str)
deriving DecidableEq, Repr

/-- `Serialize` for `Header`. -/
def Header.serialize (header : Header) : Json :=
  .object (member "typ" (.str header.typ) ++ member "alg" (.str header.alg) ++
    optMember "kid" .str header.kid ++
    optMember "crit" (fun crit => .array (crit.map .str)) header.crit)

/-- `Deserialize` for `Header`. -/
def Header.deserialize (j : Json) : Outcome Error Header := do
  let members ← fields ["typ", "alg", "kid", "crit"] 3 j
  let typ ← required deString "typ" members
  let alg ← required deString "alg" members
  let kid ← optional deString "kid" members
  let crit ← optional (deVec deString) "crit" members
  .ok { typ := typ, alg := alg, kid := kid, crit := crit }

/-- Parameters of the verification. -/
structure Validation where
  now : UInt64
  leeway : UInt64
  expectedIssuer : Option Str
deriving DecidableEq, Repr

/-- `Validation::at`. -/
def Validation.at (now : UInt64) : Validation :=
  { now := now, leeway := 0, expectedIssuer := none }

/-- `Validation::with_leeway`. -/
def Validation.withLeeway (v : Validation) (leeway : UInt64) : Validation :=
  { v with leeway := leeway }

/-- `Validation::expect_issuer`. -/
def Validation.expectIssuer (v : Validation) (issuer : Str) : Validation :=
  { v with expectedIssuer := some issuer }

section

variable [Base64] [SerdeJson] [Ed25519] [P256]

/-- A token whose signature and claims have been verified. -/
structure VerifiedWit where
  claims : WitClaims
  kid : Option Str
  popKey : VerifyingKey
deriving DecidableEq

/-- `issue`. -/
def issue (claims : WitClaims) (kid : Option Str) (signingKey : SigningKey) :
    Outcome WitError Str := do
  let header : Header :=
    { typ := TYP
      alg := signingKey.algorithm.asStr
      kid := kid
      crit := none }
  let headerJson ← Outcome.mapErr WitError.ofJson (toVec header.serialize)
  let headerB64 := Base64.URL_SAFE_NO_PAD.encode headerJson
  let claimsJson ← Outcome.mapErr WitError.ofJson (toVec claims.serialize)
  let claimsB64 := Base64.URL_SAFE_NO_PAD.encode claimsJson
  let signingInput := headerB64 ++ '.' :: claimsB64
  let signature := signingKey.sign (Str.asBytes signingInput)
  let signatureB64 := Base64.URL_SAFE_NO_PAD.encode signature.toList
  .ok (signingInput ++ '.' :: signatureB64)

/-- The error for a header with an algorithm that does not parse. -/
def algError : JoseError → WitError
  | .unsupportedAlg found => .unsupportedAlg found
  | .forbiddenAlg found => .unsupportedAlg found
  | other => .ofJose other

/-- `verify`. -/
def verify (token : Str) (verifyingKey : VerifyingKey)
    (validation : Validation) :
    Outcome WitError VerifiedWit := do
  Outcome.failIf (MAX_TOKEN_LEN < Str.len token) .tokenTooLong
  match token.splitOn '.' with
  | [headerB64, claimsB64, signatureB64] => do
      let headerJson ←
        Outcome.okOr .base64 (Base64.URL_SAFE_NO_PAD.decode headerB64)
      let header ← Outcome.mapErr WitError.ofJson
          (fromSlice Header.deserialize headerJson)
      Outcome.failIf (header.typ != TYP) (.wrongType header.typ)
      let alg ← Outcome.mapErr algError (Algorithm.parse header.alg)
      Outcome.failIf (alg != verifyingKey.algorithm) .algorithmMismatch
      Outcome.failIf header.crit.isSome .unsupportedCritical
      let signature ←
        Outcome.okOr .base64 (Base64.URL_SAFE_NO_PAD.decode signatureB64)
      Outcome.failIf (signature.length != SIGNATURE_LEN) .malformedToken
      let signingInput := headerB64 ++ '.' :: claimsB64
      Outcome.mapErr (fun _ => .invalidSignature)
        (verifyingKey.verify (Str.asBytes signingInput) signature)
      let claimsJson ←
        Outcome.okOr .base64 (Base64.URL_SAFE_NO_PAD.decode claimsB64)
      let claims ← Outcome.mapErr WitError.ofJson
          (fromSlice WitClaims.deserialize claimsJson)
      Outcome.failIf (saturatingAdd claims.exp validation.leeway
        ≤ validation.now) .expired
      Outcome.ifSome claims.iat fun iat =>
        Outcome.failIf (saturatingAdd validation.now validation.leeway < iat)
          .issuedInFuture
      Outcome.ifSome validation.expectedIssuer fun expected =>
        Outcome.failIf (claims.iss != some expected) .issuerMismatch
      let popKey ← Outcome.mapErr WitError.ofJose claims.cnf.jwk.toVerifyingKey
      .ok { claims := claims, kid := header.kid, popKey := popKey }
  | _ => .err .malformedToken

/-! ## The two phases of the verification -/

/-- `verify` up to the point where the claims of a signed token have been read.
It does not depend on the `Validation`. -/
def authenticate (token : Str) (verifyingKey : VerifyingKey) :
    Outcome WitError (WitClaims × Option Str) := do
  Outcome.failIf (MAX_TOKEN_LEN < Str.len token) .tokenTooLong
  match token.splitOn '.' with
  | [headerB64, claimsB64, signatureB64] => do
      let headerJson ←
        Outcome.okOr .base64 (Base64.URL_SAFE_NO_PAD.decode headerB64)
      let header ← Outcome.mapErr WitError.ofJson
          (fromSlice Header.deserialize headerJson)
      Outcome.failIf (header.typ != TYP) (.wrongType header.typ)
      let alg ← Outcome.mapErr algError (Algorithm.parse header.alg)
      Outcome.failIf (alg != verifyingKey.algorithm) .algorithmMismatch
      Outcome.failIf header.crit.isSome .unsupportedCritical
      let signature ←
        Outcome.okOr .base64 (Base64.URL_SAFE_NO_PAD.decode signatureB64)
      Outcome.failIf (signature.length != SIGNATURE_LEN) .malformedToken
      let signingInput := headerB64 ++ '.' :: claimsB64
      Outcome.mapErr (fun _ => .invalidSignature)
        (verifyingKey.verify (Str.asBytes signingInput) signature)
      let claimsJson ←
        Outcome.okOr .base64 (Base64.URL_SAFE_NO_PAD.decode claimsB64)
      let claims ← Outcome.mapErr WitError.ofJson
          (fromSlice WitClaims.deserialize claimsJson)
      .ok (claims, header.kid)
  | _ => .err .malformedToken

/-- The rest of `verify`: the checks of the claims of a signed token. -/
def checkClaims (claims : WitClaims) (kid : Option Str)
    (validation : Validation) :
    Outcome WitError VerifiedWit := do
  Outcome.failIf (saturatingAdd claims.exp validation.leeway
    ≤ validation.now) .expired
  Outcome.ifSome claims.iat fun iat =>
    Outcome.failIf (saturatingAdd validation.now validation.leeway < iat)
      .issuedInFuture
  Outcome.ifSome validation.expectedIssuer fun expected =>
    Outcome.failIf (claims.iss != some expected) .issuerMismatch
  let popKey ← Outcome.mapErr WitError.ofJose claims.cnf.jwk.toVerifyingKey
  .ok { claims := claims, kid := kid, popKey := popKey }

theorem verify_eq (token : Str) (verifyingKey : VerifyingKey)
    (validation : Validation) :
    verify token verifyingKey validation
      = (do
          let (claims, kid) ← authenticate token verifyingKey
          checkClaims claims kid validation) := by
  rw [verify, authenticate, bind_assoc]
  congr 1
  funext _
  split
  · simp only [bind_assoc, Outcome.ok_bind, checkClaims]
  · rfl

end

/-! ## The parts do not panic -/

theorem Confirmation.deserialize_ne_panic (j : Json) :
    Confirmation.deserialize j ≠ .panic := by
  unfold deserialize
  apply Outcome.bind_ne_panic (fields_ne_panic _ _ j)
  intro members _
  apply Outcome.bind_ne_panic
    (required_ne_panic Jwk.deserialize_ne_panic _ members)
  exact fun jwk _ => nofun

theorem WitClaims.deserialize_ne_panic (j : Json) :
    WitClaims.deserialize j ≠ .panic := by
  unfold deserialize
  apply Outcome.bind_ne_panic (fields_ne_panic _ _ j)
  intro members _
  apply Outcome.bind_ne_panic (optional_ne_panic deString_ne_panic _ members)
  intro iss _
  apply Outcome.bind_ne_panic
    (required_ne_panic WorkloadIdentifier.deserialize_ne_panic _ members)
  intro sub _
  apply Outcome.bind_ne_panic (optional_ne_panic deU64_ne_panic _ members)
  intro iat _
  apply Outcome.bind_ne_panic (required_ne_panic deU64_ne_panic _ members)
  intro exp _
  apply Outcome.bind_ne_panic (optional_ne_panic deString_ne_panic _ members)
  intro jti _
  apply Outcome.bind_ne_panic
    (required_ne_panic Confirmation.deserialize_ne_panic _ members)
  exact fun cnf _ => nofun

theorem Header.deserialize_ne_panic (j : Json) :
    Header.deserialize j ≠ .panic := by
  unfold deserialize
  apply Outcome.bind_ne_panic (fields_ne_panic _ _ j)
  intro members _
  apply Outcome.bind_ne_panic (required_ne_panic deString_ne_panic _ members)
  intro typ _
  apply Outcome.bind_ne_panic (required_ne_panic deString_ne_panic _ members)
  intro alg _
  apply Outcome.bind_ne_panic (optional_ne_panic deString_ne_panic _ members)
  intro kid _
  apply Outcome.bind_ne_panic
    (optional_ne_panic (deVec_ne_panic deString_ne_panic) _ members)
  exact fun crit _ => nofun

/-! ## Round trips of the parts -/

theorem Confirmation.deserialize_serialize (cnf : Confirmation) :
    Confirmation.deserialize cnf.serialize = .ok cnf := by
  rw [Confirmation.deserialize, Confirmation.serialize, fields, Outcome.ok_bind]
  rw [required_eq (v := cnf.jwk.serialize) (by simp), Jwk.deserialize_serialize]
  rfl

theorem WitClaims.deserialize_serialize (claims : WitClaims) :
    WitClaims.deserialize claims.serialize = .ok claims := by
  rw [WitClaims.deserialize, WitClaims.serialize, fields, Outcome.ok_bind]
  rw [optional_eq (f := .str) (o := claims.iss) (by simp) (by simp)
    (fun _ => rfl)]
  rw [required_eq (v := claims.sub.serialize) (by simp),
    WorkloadIdentifier.deserialize_serialize]
  rw [optional_eq (f := .posInt) (o := claims.iat) (by simp) (by simp)
    (fun _ => rfl)]
  rw [required_eq (v := .posInt claims.exp) (by simp)]
  rw [optional_eq (f := .str) (o := claims.jti) (by simp) (by simp)
    (fun _ => rfl)]
  rw [required_eq (v := claims.cnf.serialize) (by simp),
    Confirmation.deserialize_serialize]
  rfl

theorem Header.deserialize_serialize (header : Header) :
    Header.deserialize header.serialize = .ok header := by
  rw [Header.deserialize, Header.serialize, fields, Outcome.ok_bind]
  rw [required_eq (v := .str header.typ) (by simp)]
  rw [required_eq (v := .str header.alg) (by simp)]
  rw [optional_eq (f := .str) (o := header.kid) (by simp) (by simp)
    (fun _ => rfl)]
  rw [optional_eq (f := fun crit => .array (crit.map .str)) (o := header.crit)
    (by simp) (by simp) deVec_deString_map]
  rfl

end Wimsey.Wit
