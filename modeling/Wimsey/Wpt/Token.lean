import Wimsey.Jose.Jwk

/-!
# Workload Proof Tokens

The model of `crates/wpt/src/`: the claims of a proof, its issuance as a compact
JWS, and its verification.  A proof binds a request by four hashes and an
audience: the `wth` claim names the identity token, `tth` a transaction token,
and each entry of `oth` a token in some other header field.

`verify` runs in two phases: `authenticate` depends on the proof and the key
only, and `checkClaims` compares what it read with the `Validation`.
-/

namespace Wimsey.Wpt

open Wimsey.RustStd Wimsey.Codec Wimsey.Serde Wimsey.Jose

/-- What the code uses of `sha2`. -/
class Sha2 where
  /-- `Sha256::digest`. -/
  digest : Bytes → Bytes

/-- A `sha2` with the real hashes of some inputs.  The others have longer
ones. -/
@[reducible] def Sha2.ofTable (table : List (Str × Vector UInt8 32)) :
    Sha2 where
  digest b :=
    match table.find? fun p => Str.asBytes p.1 = b with
    | some p => p.2.toList
    | none => List.replicate 33 0 ++ b

/-- A `sha2` with the real hash of one input. -/
@[reducible] def Sha2.single (input : Str) (hash : Vector UInt8 32) : Sha2 :=
  Sha2.ofTable [(input, hash)]

theorem Sha2.digest_single (input : Str) (hash : Vector UInt8 32) :
    @Sha2.digest (Sha2.single input hash) (Str.asBytes input)
      = hash.toList := by
  have hfind :
      [(input, hash)].find? (fun p => Str.asBytes p.1 = Str.asBytes input)
      = some (input, hash) :=
    List.find?_cons_of_pos (by simp)
  show (match [(input, hash)].find? fun p =>
    Str.asBytes p.1 = Str.asBytes input with
    | some p => p.2.toList
    | none => List.replicate 33 0 ++ Str.asBytes input) = hash.toList
  rw [hfind]

theorem Sha2.ofTable_injective {table : List (Str × Vector UInt8 32)}
    (h : (table.map (·.2)).Nodup) :
    Function.Injective (@Sha2.digest (Sha2.ofTable table)) := by
  intro a b hab
  have hlen : ∀ (hash : Vector UInt8 32) (c : Bytes),
      hash.toList ≠ List.replicate 33 0 ++ c := by
    intro hash c hc
    have := congrArg List.length hc
    simp at this
  change (match table.find? fun p => Str.asBytes p.1 = a with
    | some p => p.2.toList
    | none => List.replicate 33 0 ++ a)
    = (match table.find? fun p => Str.asBytes p.1 = b with
    | some p => p.2.toList
    | none => List.replicate 33 0 ++ b) at hab
  split at hab
  · rename_i p hp
    split at hab
    · rename_i q hq
      obtain rfl : p = q :=
        List.inj_on_of_nodup_map h (List.mem_of_find?_eq_some hp)
        (List.mem_of_find?_eq_some hq) (Vector.toList_inj.1 hab)
      have ha : Str.asBytes p.1 = a := by simpa using List.find?_some hp
      have hb : Str.asBytes p.1 = b := by simpa using List.find?_some hq
      exact ha.symm.trans hb
    · exact absurd hab (hlen p.2 b)
  · split at hab
    · rename_i q hq
      exact absurd hab.symm (hlen q.2 a)
    · exact List.append_cancel_left hab

/-- `WptError`. -/
inductive WptError where
  | malformedToken
  | tokenTooLong
  | base64
  | json
  | wrongType (found : Str)
  | unsupportedAlg (found : Str)
  | unsupportedCritical
  | algorithmMismatch
  | invalidSignature
  | expired
  | audienceMismatch
  | witBindingMismatch
  | txnTokenBindingMismatch
  | otherTokenBindingMismatch (name : Str)
  | lifetimeTooLong
deriving DecidableEq, Repr

/-- `From<serde_json::Error> for WptError`. -/
def WptError.ofJson : Serde.Error → WptError := fun _ => .json

/-! ## Claims -/

/-- The claims of a Workload Proof Token. -/
structure WptClaims where
  aud : Str
  exp : UInt64
  jti : Str
  wth : Str
  tth : Option Str
  oth : Option (BTreeMap Str)

/-- `Serialize` for `WptClaims`. -/
def WptClaims.serialize (claims : WptClaims) : Json :=
  .object (member "aud" (.str claims.aud) ++
    member "exp" (.posInt claims.exp) ++
    member "jti" (.str claims.jti) ++ member "wth" (.str claims.wth) ++
    optMember "tth" .str claims.tth ++ optMember "oth" serMap claims.oth)

/-- `Deserialize` for `WptClaims`. -/
def WptClaims.deserialize (j : Json) : Outcome Error WptClaims := do
  let members ← fields ["aud", "exp", "jti", "wth", "tth", "oth"] 4 j
  let aud ← required deString "aud" members
  let exp ← required deU64 "exp" members
  let jti ← required deString "jti" members
  let wth ← required deString "wth" members
  let tth ← optional deString "tth" members
  let oth ← optional deMap "oth" members
  .ok { aud := aud, exp := exp, jti := jti, wth := wth, tth := tth, oth := oth }

theorem WptClaims.deserialize_serialize (claims : WptClaims) :
    WptClaims.deserialize claims.serialize = .ok claims := by
  rw [WptClaims.deserialize, WptClaims.serialize, fields, Outcome.ok_bind]
  rw [required_eq (v := .str claims.aud) (by simp)]
  rw [required_eq (v := .posInt claims.exp) (by simp)]
  rw [required_eq (v := .str claims.jti) (by simp)]
  rw [required_eq (v := .str claims.wth) (by simp)]
  rw [optional_eq (f := .str) (o := claims.tth) (by simp) (by simp)
    (fun _ => rfl)]
  rw [optional_eq (f := serMap) (o := claims.oth) (by simp) (by simp [serMap])
    deMap_serMap]
  rfl

theorem WptClaims.deserialize_ne_panic (j : Json) :
    WptClaims.deserialize j ≠ .panic := by
  unfold deserialize
  apply Outcome.bind_ne_panic (fields_ne_panic _ _ j)
  intro members _
  apply Outcome.bind_ne_panic (required_ne_panic deString_ne_panic _ members)
  intro aud _
  apply Outcome.bind_ne_panic (required_ne_panic deU64_ne_panic _ members)
  intro exp _
  apply Outcome.bind_ne_panic (required_ne_panic deString_ne_panic _ members)
  intro jti _
  apply Outcome.bind_ne_panic (required_ne_panic deString_ne_panic _ members)
  intro wth _
  apply Outcome.bind_ne_panic (optional_ne_panic deString_ne_panic _ members)
  intro tth _
  apply Outcome.bind_ne_panic (optional_ne_panic deMap_ne_panic _ members)
  exact fun oth _ => nofun

/-! ## The token -/

/-- The JOSE `typ` of a Workload Proof Token. -/
def TYP : Str := "wpt+jwt"

/-- The maximum size, in bytes, of a token. -/
def MAX_TOKEN_LEN : Nat := 8192

/-- The JOSE header. -/
structure Header where
  typ : Str
  alg : Str
  crit : Option (List Str)
deriving DecidableEq, Repr

/-- `Serialize` for `Header`. -/
def Header.serialize (header : Header) : Json :=
  .object (member "typ" (.str header.typ) ++ member "alg" (.str header.alg) ++
    optMember "crit" (fun crit => .array (crit.map .str)) header.crit)

/-- `Deserialize` for `Header`. -/
def Header.deserialize (j : Json) : Outcome Error Header := do
  let members ← fields ["typ", "alg", "crit"] 2 j
  let typ ← required deString "typ" members
  let alg ← required deString "alg" members
  let crit ← optional (deVec deString) "crit" members
  .ok { typ := typ, alg := alg, crit := crit }

theorem Header.deserialize_serialize (header : Header) :
    Header.deserialize header.serialize = .ok header := by
  rw [Header.deserialize, Header.serialize, fields, Outcome.ok_bind]
  rw [required_eq (v := .str header.typ) (by simp)]
  rw [required_eq (v := .str header.alg) (by simp)]
  rw [optional_eq (f := fun crit => .array (crit.map .str)) (o := header.crit)
    (by simp) (by simp) deVec_deString_map]
  rfl

theorem Header.deserialize_ne_panic (j : Json) :
    Header.deserialize j ≠ .panic := by
  unfold deserialize
  apply Outcome.bind_ne_panic (fields_ne_panic _ _ j)
  intro members _
  apply Outcome.bind_ne_panic (required_ne_panic deString_ne_panic _ members)
  intro typ _
  apply Outcome.bind_ne_panic (required_ne_panic deString_ne_panic _ members)
  intro alg _
  apply Outcome.bind_ne_panic
    (optional_ne_panic (deVec_ne_panic deString_ne_panic) _ members)
  exact fun crit _ => nofun

/-- `str::trim_matches(' ')`. -/
def trimSpaces (s : Str) : Str := Str.trimMatches (· = ' ') s

section Thumbprints

variable [Base64] [Sha2]

/-- `sha256_b64u`. -/
def sha256B64u (value : Str) : Str :=
  Base64.URL_SAFE_NO_PAD.encode (Sha2.digest (Str.asBytes value))

/-- `wit_thumbprint`. -/
def witThumbprint (wit : Str) : Str := sha256B64u wit

/-- `txn_token_thumbprint`. -/
def txnTokenThumbprint (txnToken : Str) : Str := sha256B64u txnToken

/-- `other_token_entry`. -/
def otherTokenEntry (headerName headerValue : Str) : Str × Str :=
  (Str.toAsciiLowercase headerName, sha256B64u (trimSpaces headerValue))

end Thumbprints

/-- Parameters of the verification. -/
structure Validation where
  now : UInt64
  leeway : UInt64
  audience : Str
  wit : Str
  txnToken : Option Str
  otherTokens : BTreeMap Str
  maxLifetime : Option UInt64

namespace Validation

/-- `Validation::new`. -/
def new (now : UInt64) (audience wit : Str) : Validation :=
  { now := now
    leeway := 0
    audience := audience
    wit := wit
    txnToken := none
    otherTokens := ∅
    maxLifetime := none }

/-- `Validation::with_leeway`. -/
def withLeeway (v : Validation) (leeway : UInt64) : Validation :=
  { v with leeway := leeway }

/-- `Validation::with_txn_token`. -/
def withTxnToken (v : Validation) (txnToken : Str) : Validation :=
  { v with txnToken := some txnToken }

/-- `Validation::with_other_token`. -/
def withOtherToken (v : Validation) (headerName headerValue : Str) :
    Validation :=
  { v with
    otherTokens :=
      v.otherTokens.insert (Str.toAsciiLowercase headerName) headerValue }

/-- `Validation::with_max_lifetime`. -/
def withMaxLifetime (v : Validation) (seconds : UInt64) : Validation :=
  { v with maxLifetime := some seconds }

end Validation

/-- A proof whose signature, audience, time and bindings have been verified. -/
structure VerifiedWpt where
  claims : WptClaims

section

variable [Base64] [SerdeJson] [Sha2] [Ed25519] [P256]

/-- `issue`. -/
def issue (claims : WptClaims) (popSigningKey : SigningKey) :
    Outcome WptError Str := do
  let header : Header :=
    { typ := TYP
      alg := popSigningKey.algorithm.asStr
      crit := none }
  let headerJson ← Outcome.mapErr WptError.ofJson (toVec header.serialize)
  let headerB64 := Base64.URL_SAFE_NO_PAD.encode headerJson
  let claimsJson ← Outcome.mapErr WptError.ofJson (toVec claims.serialize)
  let claimsB64 := Base64.URL_SAFE_NO_PAD.encode claimsJson
  let signingInput := headerB64 ++ '.' :: claimsB64
  let signature := popSigningKey.sign (Str.asBytes signingInput)
  let signatureB64 := Base64.URL_SAFE_NO_PAD.encode signature.toList
  .ok (signingInput ++ '.' :: signatureB64)

/-- The error for a header with an algorithm that does not parse. -/
def algError (alg : Str) : JoseError → WptError
  | .unsupportedAlg found => .unsupportedAlg found
  | .forbiddenAlg found => .unsupportedAlg found
  | _ => .unsupportedAlg alg

/-- The `match` on the transaction token and the `tth` claim. -/
def checkTxnToken (txnToken tth : Option Str) : Outcome WptError Unit :=
  match txnToken, tth with
  | none, none => .ok ()
  | some txnToken, some tth =>
      Outcome.failIf (tth != txnTokenThumbprint txnToken)
        .txnTokenBindingMismatch
  | _, _ => .err .txnTokenBindingMismatch

/-- The loop over the entries of the `oth` claim. -/
def checkOtherTokens (otherTokens : BTreeMap Str) :
    List (Str × Str) → Outcome WptError Unit
  | [] => .ok ()
  | (name, hash) :: oth => do
      let presented ←
        Outcome.okOr (.otherTokenBindingMismatch name) otherTokens[name]?
      Outcome.failIf (hash != (otherTokenEntry name presented).2)
        (.otherTokenBindingMismatch name)
      checkOtherTokens otherTokens oth

/-- The length of the buffer that a signature is decoded into. -/
def SIGNATURE_BUF_LEN : Nat := 96

/-- `verify`. -/
def verify (wpt : Str) (popKey : VerifyingKey) (validation : Validation) :
    Outcome WptError VerifiedWpt := do
  Outcome.failIf (MAX_TOKEN_LEN < Str.len wpt) .tokenTooLong
  match wpt.splitOn '.' with
  | [headerB64, claimsB64, signatureB64] => do
      let headerJson ←
        Outcome.okOr .base64 (Base64.URL_SAFE_NO_PAD.decode headerB64)
      let header ← Outcome.mapErr WptError.ofJson
          (fromSlice Header.deserialize headerJson)
      Outcome.failIf (header.typ != TYP) (.wrongType header.typ)
      let alg ←
        Outcome.mapErr (algError header.alg) (Algorithm.parse header.alg)
      Outcome.failIf (alg != popKey.algorithm) .algorithmMismatch
      Outcome.failIf header.crit.isSome .unsupportedCritical
      let signature ← Outcome.okOr .malformedToken
        (Base64.URL_SAFE_NO_PAD.decodeSlice signatureB64 SIGNATURE_BUF_LEN)
      Outcome.failIf (signature.length != SIGNATURE_LEN) .malformedToken
      let signingInput := headerB64 ++ '.' :: claimsB64
      Outcome.mapErr (fun _ => .invalidSignature)
        (popKey.verify (Str.asBytes signingInput) signature)
      let claimsJson ←
        Outcome.okOr .base64 (Base64.URL_SAFE_NO_PAD.decode claimsB64)
      let claims ← Outcome.mapErr WptError.ofJson
          (fromSlice WptClaims.deserialize claimsJson)
      Outcome.failIf (saturatingAdd claims.exp validation.leeway
        ≤ validation.now) .expired
      Outcome.ifSome validation.maxLifetime fun max =>
        Outcome.failIf (max < saturatingSub claims.exp validation.now)
          .lifetimeTooLong
      Outcome.failIf (claims.aud != validation.audience) .audienceMismatch
      Outcome.failIf (claims.wth != witThumbprint validation.wit)
        .witBindingMismatch
      checkTxnToken validation.txnToken claims.tth
      Outcome.ifSome claims.oth fun oth =>
        checkOtherTokens validation.otherTokens oth.toList
      .ok { claims := claims }
  | _ => .err .malformedToken

/-! ## The two phases of the verification -/

/-- `verify` up to the point where the claims of a signed token have been read.
It does not depend on the `Validation`. -/
def authenticate (wpt : Str) (popKey : VerifyingKey) :
    Outcome WptError WptClaims := do
  Outcome.failIf (MAX_TOKEN_LEN < Str.len wpt) .tokenTooLong
  match wpt.splitOn '.' with
  | [headerB64, claimsB64, signatureB64] => do
      let headerJson ←
        Outcome.okOr .base64 (Base64.URL_SAFE_NO_PAD.decode headerB64)
      let header ← Outcome.mapErr WptError.ofJson
          (fromSlice Header.deserialize headerJson)
      Outcome.failIf (header.typ != TYP) (.wrongType header.typ)
      let alg ←
        Outcome.mapErr (algError header.alg) (Algorithm.parse header.alg)
      Outcome.failIf (alg != popKey.algorithm) .algorithmMismatch
      Outcome.failIf header.crit.isSome .unsupportedCritical
      let signature ← Outcome.okOr .malformedToken
        (Base64.URL_SAFE_NO_PAD.decodeSlice signatureB64 SIGNATURE_BUF_LEN)
      Outcome.failIf (signature.length != SIGNATURE_LEN) .malformedToken
      let signingInput := headerB64 ++ '.' :: claimsB64
      Outcome.mapErr (fun _ => .invalidSignature)
        (popKey.verify (Str.asBytes signingInput) signature)
      let claimsJson ←
        Outcome.okOr .base64 (Base64.URL_SAFE_NO_PAD.decode claimsB64)
      Outcome.mapErr WptError.ofJson
        (fromSlice WptClaims.deserialize claimsJson)
  | _ => .err .malformedToken

/-- The rest of `verify`: the checks of the claims of a signed token. -/
def checkClaims (claims : WptClaims) (validation : Validation) :
    Outcome WptError VerifiedWpt := do
  Outcome.failIf (saturatingAdd claims.exp validation.leeway
    ≤ validation.now) .expired
  Outcome.ifSome validation.maxLifetime fun max =>
    Outcome.failIf (max < saturatingSub claims.exp validation.now)
      .lifetimeTooLong
  Outcome.failIf (claims.aud != validation.audience) .audienceMismatch
  Outcome.failIf (claims.wth != witThumbprint validation.wit)
    .witBindingMismatch
  checkTxnToken validation.txnToken claims.tth
  Outcome.ifSome claims.oth fun oth =>
    checkOtherTokens validation.otherTokens oth.toList
  .ok { claims := claims }

theorem verify_eq (wpt : Str) (popKey : VerifyingKey)
    (validation : Validation) :
    verify wpt popKey validation
      = (do
          let claims ← authenticate wpt popKey
          checkClaims claims validation) := by
  rw [verify, authenticate, bind_assoc]
  congr 1
  funext _
  split
  · simp only [bind_assoc, checkClaims]
  · rfl

end

end Wimsey.Wpt
