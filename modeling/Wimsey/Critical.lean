import Wimsey.Forgery
import Wimsey.Wit.RoundTrip
import Wimsey.Wpt.RoundTrip

/-!
# Critical extensions

A JOSE header lists in `crit` the extensions that its reader must understand.
Neither verifier understands any, so each returns an error when the header it
has read has a `crit`.

The header is read by a derived reader, and to that an optional member that is
`null` is the same as none.  `ValidBesidesCrit` collects what the rest of the
verification asks of a token, and a header with a `crit` goes through exactly
when the `crit` is one `null` and the rest is satisfied.
-/

namespace Wimsey

open Wimsey.RustStd Wimsey.Codec Wimsey.Serde Wimsey.Jose

/-! ## The parts of a compact token -/

section Compact

variable [Base64] [SerdeJson]

/-- The JOSE header of the compact token is an object with these members. -/
def JoseHeader (token : Str) (members : List (Str × Json)) : Prop :=
  ∃ header claims signature json,
    token.splitOn '.' = [header, claims, signature] ∧
    Base64.URL_SAFE_NO_PAD.decode header = some json ∧
    SerdeJson.fromSlice json = some (.object members)

/-- The claims of the compact token, as `de` reads them. -/
def JoseClaims {α : Type} (de : Json → Outcome Error α) (token : Str)
    (claims : α) : Prop :=
  ∃ header claimsB64 signature json,
    token.splitOn '.' = [header, claimsB64, signature] ∧
    Base64.URL_SAFE_NO_PAD.decode claimsB64 = some json ∧
    fromSlice de json = .ok claims

/-- The object has a member named `crit`. -/
def HasCrit (members : List (Str × Json)) : Prop :=
  ∃ v, ("crit".toList, v) ∈ members

omit [Base64] [SerdeJson] in
theorem hasCrit_iff {members : List (Str × Json)} :
    HasCrit members ↔ matching "crit" members ≠ [] := by
  rw [matching, ne_eq, List.map_eq_nil_iff, List.filter_eq_nil_iff]
  constructor
  · rintro ⟨v, hv⟩ hnone
    exact hnone _ hv (decide_eq_true rfl)
  · intro hsome
    by_contra hcrit
    refine hsome fun p hp hname => hcrit ⟨p.2, ?_⟩
    rw [← of_decide_eq_true hname]
    exact hp

omit [Base64] [SerdeJson] in
theorem compactSigned_iff [Ed25519] [P256] {decode : Str → Option Bytes}
    {token : Str} {key : VerifyingKey} {header claims signature : Str}
    (hparts : token.splitOn '.' = [header, claims, signature]) :
    CompactSigned decode token key ↔ ∃ bytes, decode signature = some bytes ∧
      key.verify (Str.asBytes (header ++ '.' :: claims)) bytes = .ok () := by
  constructor
  · intro ⟨header', claims', signature', bytes, hparts', h⟩
    rw [hparts] at hparts'
    cases hparts'
    exact ⟨bytes, h⟩
  · intro ⟨bytes, h⟩
    exact ⟨header, claims, signature, bytes, hparts, h⟩

theorem joseClaims_iff {α : Type} {de : Json → Outcome Error α} {token : Str}
    {claims : α} {header claimsB64 signature : Str}
    (hparts : token.splitOn '.' = [header, claimsB64, signature]) :
    JoseClaims de token claims ↔
      ∃ json, Base64.URL_SAFE_NO_PAD.decode claimsB64 = some json ∧
        fromSlice de json = .ok claims := by
  constructor
  · intro ⟨header', claimsB64', signature', json, hparts', h⟩
    rw [hparts] at hparts'
    cases hparts'
    exact ⟨json, h⟩
  · intro ⟨json, h⟩
    exact ⟨header, claimsB64, signature, json, hparts, h⟩

end Compact

/-! ## Identity tokens -/

section

variable [Base64] [SerdeJson] [Ed25519] [P256]

/-- What the verification of a WIT asks for, apart from the absence of
`crit`. -/
structure Wit.ValidBesidesCrit (token : Str) (key : VerifyingKey)
    (validation : Validation) (members : List (Str × Json)) : Prop where
  len : Str.len token ≤ MAX_TOKEN_LEN
  typ : matching "typ" members = [.str TYP]
  alg : matching "alg" members = [.str key.algorithm.asStr]
  kid : matching "kid" members = [] ∨ matching "kid" members = [.null] ∨
    ∃ s, matching "kid" members = [.str s]
  signed : Signed token key
  claims : ∃ claims popKey, JoseClaims WitClaims.deserialize token claims ∧
    Accepts claims validation popKey

omit [Base64] [SerdeJson] [Ed25519] [P256] in
/-- The header of a WIT that is read without a `crit`. -/
theorem Wit.Header.deserialize_object_eq_ok_iff {members : List (Str × Json)}
    {typ alg : Str} {kid : Option Str} :
    Header.deserialize (.object members)
        = .ok { typ := typ, alg := alg, kid := kid, crit := none } ↔
      matching "typ" members = [.str typ] ∧
        matching "alg" members = [.str alg] ∧
        optional deString "kid" members = .ok kid ∧
        (matching "crit" members = [] ∨ matching "crit" members = [.null]) := by
  simp only [Header.deserialize, fields, Outcome.ok_bind,
    Outcome.bind_eq_ok_iff, required_eq_ok_iff, deString_eq_ok_iff,
    exists_eq_right, Outcome.ok.injEq, Header.mk.injEq]
  constructor
  · rintro ⟨_, htyp, _, halg, _, hkid, _, hcrit, rfl, rfl, rfl, rfl⟩
    exact ⟨htyp, halg, hkid, optional_eq_none_iff.1 hcrit⟩
  · rintro ⟨htyp, halg, hkid, hcrit⟩
    exact ⟨typ, htyp, alg, halg, kid, hkid, none, optional_eq_none_iff.2 hcrit,
      rfl, rfl, rfl, rfl⟩

/-- A WIT is authenticated when it has a header of the right type and algorithm
without a `crit`, a signature that verifies, and claims. -/
theorem Wit.authenticate_eq_ok_iff {token : Str} {key : VerifyingKey}
    {claims : WitClaims} {kid : Option Str} {header claimsB64 signature : Str}
    {headerJson : Bytes} {j : Json}
    (hparts : token.splitOn '.' = [header, claimsB64, signature])
    (hdecode : Base64.URL_SAFE_NO_PAD.decode header = some headerJson)
    (hjson : SerdeJson.fromSlice headerJson = some j) :
    authenticate token key = .ok (claims, kid) ↔
      Str.len token ≤ MAX_TOKEN_LEN ∧
        Header.deserialize j
          = .ok
            { typ := TYP
              alg := key.algorithm.asStr
              kid := kid
              crit := none } ∧
        Signed token key ∧ JoseClaims WitClaims.deserialize token claims := by
  rw [authenticate, Signed, compactSigned_iff hparts, joseClaims_iff hparts]
  simp only [hparts, Outcome.bind_eq_ok_iff, Outcome.failIf_eq_ok_iff,
    Outcome.okOr_eq_ok_iff, Outcome.mapErr_eq_ok_iff, hdecode, fromSlice, hjson,
    Algorithm.parse_eq_ok_iff, decide_eq_false_iff_not, Nat.not_lt,
    bne_eq_false_iff_eq, Option.isSome_eq_false_iff, Option.isNone_iff_eq_none,
    Option.some.injEq, exists_eq_left', exists_const]
  constructor
  · rintro ⟨hlen, ⟨typ, alg, kid', crit⟩, hheader, rfl, _, rfl, rfl, rfl, bytes,
      hbytes, _, _, hverify, json, hdecode', _, hclaims, hresult⟩
    cases hresult
    exact ⟨hlen, hheader, ⟨bytes, hbytes, hverify⟩, json, hdecode', hclaims⟩
  · rintro ⟨hlen, hheader, ⟨bytes, hbytes, hverify⟩, json, hdecode', hclaims⟩
    exact ⟨hlen, _, hheader, rfl, _, rfl, rfl, rfl, bytes, hbytes,
      VerifyingKey.length_of_verify hverify, (), hverify, json, hdecode',
      claims, hclaims, rfl⟩

/-- A WIT with a `crit` in its header verifies exactly when the `crit` is one
`null`, and nothing else is wrong with the token. -/
theorem Wit.verify_isOk_iff_of_crit {token : Str} {key : VerifyingKey}
    {validation : Validation} {members : List (Str × Json)}
    (hheader : JoseHeader token members) (hcrit : HasCrit members) :
    (∃ w, verify token key validation = .ok w) ↔
      matching "crit" members = [.null] ∧
      ValidBesidesCrit token key validation members := by
  obtain ⟨header, claimsB64, signature, json, hparts, hdecode, hjson⟩ := hheader
  simp only [verify_eq_ok_iff, authenticate_eq_ok_iff hparts hdecode hjson,
    Header.deserialize_object_eq_ok_iff]
  rw [hasCrit_iff] at hcrit
  constructor
  · intro ⟨w, ⟨hlen, ⟨htyp, halg, hkid, hnull⟩, hsigned, hclaims⟩, haccepts⟩
    exact ⟨hnull.resolve_left hcrit, hlen, htyp, halg,
      optional_deString_isOk_iff.1 ⟨_, hkid⟩, hsigned, _, _, hclaims, haccepts⟩
  · intro ⟨hnull, h⟩
    obtain ⟨kid, hkid⟩ := optional_deString_isOk_iff.2 h.kid
    obtain ⟨claims, popKey, hclaims, haccepts⟩ := h.claims
    exact ⟨⟨claims, kid, popKey⟩, ⟨h.len, ⟨h.typ, h.alg, hkid, Or.inr hnull⟩,
      h.signed, hclaims⟩, haccepts⟩

theorem Wit.verify_ne_panic (token : Str) (key : VerifyingKey)
    (validation : Validation) :
    verify token key validation ≠ .panic := by
  rw [verify_eq]
  apply Outcome.bind_ne_panic (authenticate_ne_panic token key)
  intro (claims, kid) _
  unfold checkClaims
  apply Outcome.bind_ne_panic Outcome.failIf_ne_panic
  intro _ _
  apply Outcome.bind_ne_panic
    (Outcome.ifSome_ne_panic fun _ => Outcome.failIf_ne_panic)
  intro _ _
  apply Outcome.bind_ne_panic
    (Outcome.ifSome_ne_panic fun _ => Outcome.failIf_ne_panic)
  intro _ _
  apply Outcome.bind_ne_panic
    (Outcome.mapErr_ne_panic (Jwk.toVerifyingKey_ne_panic _))
  exact fun popKey _ => nofun

/-! ## Proof tokens -/

/-- What the verification of a WPT asks for, apart from the absence of
`crit`. -/
structure Wpt.ValidBesidesCrit [Sha2] (wpt : Str) (popKey : VerifyingKey)
    (validation : Validation) (members : List (Str × Json)) : Prop where
  len : Str.len wpt ≤ MAX_TOKEN_LEN
  typ : matching "typ" members = [.str TYP]
  alg : matching "alg" members = [.str popKey.algorithm.asStr]
  signed : Signed wpt popKey
  claims : ∃ claims, JoseClaims WptClaims.deserialize wpt claims ∧
    Accepts claims validation

omit [Base64] [SerdeJson] [Ed25519] [P256] in
/-- The header of a WPT that is read without a `crit`. -/
theorem Wpt.Header.deserialize_object_eq_ok_iff {members : List (Str × Json)}
    {typ alg : Str} :
    Header.deserialize (.object members)
      = .ok { typ := typ, alg := alg, crit := none } ↔
      matching "typ" members = [.str typ] ∧
        matching "alg" members = [.str alg] ∧
        (matching "crit" members = [] ∨ matching "crit" members = [.null]) := by
  simp only [Header.deserialize, fields, Outcome.ok_bind,
    Outcome.bind_eq_ok_iff, required_eq_ok_iff, deString_eq_ok_iff,
    exists_eq_right, Outcome.ok.injEq, Header.mk.injEq]
  constructor
  · rintro ⟨_, htyp, _, halg, _, hcrit, rfl, rfl, rfl⟩
    exact ⟨htyp, halg, optional_eq_none_iff.1 hcrit⟩
  · rintro ⟨htyp, halg, hcrit⟩
    exact ⟨typ, htyp, alg, halg, none, optional_eq_none_iff.2 hcrit,
      rfl, rfl, rfl⟩

/-- A WPT is authenticated when it has a header of the right type and algorithm
without a `crit`, a signature that verifies, and claims. -/
theorem Wpt.authenticate_eq_ok_iff {wpt : Str} {popKey : VerifyingKey}
    {claims : WptClaims} {header claimsB64 signature : Str} {headerJson : Bytes}
    {j : Json} (hparts : wpt.splitOn '.' = [header, claimsB64, signature])
    (hdecode : Base64.URL_SAFE_NO_PAD.decode header = some headerJson)
    (hjson : SerdeJson.fromSlice headerJson = some j) :
    authenticate wpt popKey = .ok claims ↔
      Str.len wpt ≤ MAX_TOKEN_LEN ∧
        Header.deserialize j
          = .ok { typ := TYP, alg := popKey.algorithm.asStr, crit := none } ∧
        Signed wpt popKey ∧ JoseClaims WptClaims.deserialize wpt claims := by
  rw [authenticate, Signed, compactSigned_iff hparts, joseClaims_iff hparts]
  simp only [hparts, Outcome.bind_eq_ok_iff, Outcome.failIf_eq_ok_iff,
    Outcome.okOr_eq_ok_iff, Outcome.mapErr_eq_ok_iff, hdecode, fromSlice, hjson,
    Algorithm.parse_eq_ok_iff, decide_eq_false_iff_not, Nat.not_lt,
    bne_eq_false_iff_eq, Option.isSome_eq_false_iff, Option.isNone_iff_eq_none,
    Option.some.injEq, exists_eq_left', exists_const]
  constructor
  · rintro ⟨hlen, ⟨typ, alg, crit⟩, hheader, rfl, _, rfl, rfl, rfl, bytes,
      hbytes, _, _, hverify, json, hdecode', hclaims⟩
    exact ⟨hlen, hheader, ⟨bytes, hbytes, hverify⟩, json, hdecode', hclaims⟩
  · rintro ⟨hlen, hheader, ⟨bytes, hbytes, hverify⟩, json, hdecode', hclaims⟩
    exact ⟨hlen, _, hheader, rfl, _, rfl, rfl, rfl, bytes, hbytes,
      VerifyingKey.length_of_verify hverify, (), hverify, json,
      hdecode', hclaims⟩

/-- A WPT with a `crit` in its header verifies exactly when the `crit` is one
`null`, and nothing else is wrong with the token. -/
theorem Wpt.verify_isOk_iff_of_crit [Sha2] {wpt : Str} {popKey : VerifyingKey}
    {validation : Validation} {members : List (Str × Json)}
    (hheader : JoseHeader wpt members) (hcrit : HasCrit members) :
    (∃ w, verify wpt popKey validation = .ok w) ↔
      matching "crit" members = [.null] ∧
      ValidBesidesCrit wpt popKey validation members := by
  obtain ⟨header, claimsB64, signature, json, hparts, hdecode, hjson⟩ := hheader
  simp only [verify_eq_ok_iff, authenticate_eq_ok_iff hparts hdecode hjson,
    Header.deserialize_object_eq_ok_iff]
  rw [hasCrit_iff] at hcrit
  constructor
  · intro ⟨w, ⟨hlen, ⟨htyp, halg, hnull⟩, hsigned, hclaims⟩, haccepts⟩
    exact ⟨hnull.resolve_left hcrit, hlen, htyp, halg, hsigned, _,
      hclaims, haccepts⟩
  · intro ⟨hnull, h⟩
    obtain ⟨claims, hclaims, haccepts⟩ := h.claims
    exact ⟨⟨claims⟩,
      ⟨h.len, ⟨h.typ, h.alg, Or.inr hnull⟩, h.signed, hclaims⟩, haccepts⟩

omit [Ed25519] [P256] [SerdeJson] in
theorem Wpt.checkTxnToken_ne_panic [Sha2] (txnToken tth : Option Str) :
    checkTxnToken txnToken tth ≠ .panic := by
  unfold checkTxnToken
  split
  · exact nofun
  · exact Outcome.failIf_ne_panic
  · exact nofun

omit [Ed25519] [P256] [SerdeJson] in
theorem Wpt.checkOtherTokens_ne_panic [Sha2] (otherTokens : BTreeMap Str)
    (oth : List (Str × Str)) : checkOtherTokens otherTokens oth ≠ .panic := by
  induction oth with
  | nil => exact nofun
  | cons p oth ih =>
    unfold checkOtherTokens
    apply Outcome.bind_ne_panic Outcome.okOr_ne_panic
    intro presented _
    exact Outcome.bind_ne_panic Outcome.failIf_ne_panic fun _ _ => ih

theorem Wpt.verify_ne_panic [Sha2] (wpt : Str) (popKey : VerifyingKey)
    (validation : Validation) :
    verify wpt popKey validation ≠ .panic := by
  rw [verify_eq]
  apply Outcome.bind_ne_panic (authenticate_ne_panic wpt popKey)
  intro claims _
  unfold checkClaims
  apply Outcome.bind_ne_panic Outcome.failIf_ne_panic
  intro _ _
  apply Outcome.bind_ne_panic
    (Outcome.ifSome_ne_panic fun _ => Outcome.failIf_ne_panic)
  intro _ _
  apply Outcome.bind_ne_panic Outcome.failIf_ne_panic
  intro _ _
  apply Outcome.bind_ne_panic Outcome.failIf_ne_panic
  intro _ _
  apply Outcome.bind_ne_panic (checkTxnToken_ne_panic _ _)
  intro _ _
  apply Outcome.bind_ne_panic (Outcome.ifSome_ne_panic fun oth =>
    checkOtherTokens_ne_panic _ _)
  exact fun _ _ => nofun

/-! ## Both -/

/-- A token with a `crit` in its header is rejected, whatever the `crit` is,
unless the `crit` is one `null` and the rest of the verification is
satisfied. -/
theorem crit_rejected_iff [Wpt.Sha2] :
    (∀ token members, JoseHeader token members → HasCrit members →
      ∀ key validation,
        ((∃ e, Wit.verify token key validation = .err e) ↔
          ¬ (matching "crit" members = [.null] ∧
            Wit.ValidBesidesCrit token key validation members))) ∧
    ∀ wpt members, JoseHeader wpt members → HasCrit members →
      ∀ popKey validation,
        ((∃ e, Wpt.verify wpt popKey validation = .err e) ↔
          ¬ (matching "crit" members = [.null] ∧
            Wpt.ValidBesidesCrit wpt popKey validation members)) := by
  constructor
  · intro token members hheader hcrit key validation
    rw [Outcome.exists_err_iff (Wit.verify_ne_panic token key validation),
      Wit.verify_isOk_iff_of_crit hheader hcrit]
  · intro wpt members hheader hcrit popKey validation
    rw [Outcome.exists_err_iff (Wpt.verify_ne_panic wpt popKey validation),
      Wpt.verify_isOk_iff_of_crit hheader hcrit]

end

/-! ## Tokens with a `crit` that is `null` -/

namespace Example.Crit

/-- The signatures of the two signing inputs by the key of the seed `01 01 ...
01`. -/
def witSignature : Vector UInt8 64 :=
  #v[89, 207, 68, 50, 30, 58, 215, 148, 5, 222, 151, 82, 180, 191, 236, 161, 5,
    124, 229, 151, 151, 109, 198, 180, 68, 212, 254, 165, 233, 247, 193, 45,
    142, 72, 2, 173, 88, 220, 136, 252, 31, 206, 112, 167, 126, 128, 176, 55,
    186, 89, 196, 41, 14, 98, 254, 147, 187, 76, 196, 188, 85, 131, 134, 4]

def wptSignature : Vector UInt8 64 :=
  #v[163, 140, 186, 57, 200, 234, 172, 168, 74, 218, 151, 207, 12, 145, 85, 75,
    159, 93, 220, 183, 137, 90, 90, 184, 254, 160, 106, 219, 0, 179, 103, 60,
    203, 84, 82, 218, 63, 0, 175, 24, 25, 121, 183, 109, 11, 119, 201, 66, 30,
    254, 62, 37, 150, 151, 0, 146, 198, 190, 135, 88, 197, 156, 94, 3]

def witInput : Str :=
  ("eyJ0eXAiOiJ3aXQrand0IiwiYWxnIjoiRWREU0EiLCJjcml0IjpudWxsfQ.eyJzdWIiOiJzcGlmZmU6Ly9hLmIvYyI" ++
    "sImV4cCI6MTAwLCJjbmYiOnsiandrIjp7ImFsZyI6IkVkRFNBIiwia3R5IjoiT0tQIiwiY3J2IjoiRWQyNTUxOSIsI" ++
    "ngiOiJpb2pqM1hRSjhaWDlVdHN0UExwZGNzcG5DYjhkbEJJYjgzU0lBYlFQYjF3In19fQ")

def wptInput : Str :=
  ("eyJ0eXAiOiJ3cHQrand0IiwiYWxnIjoiRWREU0EiLCJjcml0IjpudWxsfQ.eyJhdWQiOiJodHRwczovL2EuYi9jIiwi" ++
    "ZXhwIjoxMDAsImp0aSI6IjEiLCJ3dGgiOiJrNTMwcHlZR1kyeGZhZ0FQXzJNbHF4X3diZzVvU0FpVTV5NERkNkJZQX" ++
    "FjIn0")

def witHeaderJson : Bytes :=
  Str.asBytes "\x7b\"typ\":\"wit+jwt\",\"alg\":\"EdDSA\",\"crit\":null\x7d"

def wptHeaderJson : Bytes :=
  Str.asBytes "\x7b\"typ\":\"wpt+jwt\",\"alg\":\"EdDSA\",\"crit\":null\x7d"

/-- The members of a header with this type and a `crit` that is `null`. -/
def headerMembers (typ : Str) : List (Str × Json) :=
  [("typ", .str typ), ("alg", .str "EdDSA"), ("crit", .null)]

/-- A header of nothing but a `crit` that is no list. -/
def numberMembers : List (Str × Json) := [("crit", .posInt 1)]

def numberJson : Bytes := Str.asBytes "\x7b\"crit\":1\x7d"

open scoped Rfc4648 P256.Keyless

local instance : Ed25519 :=
  Ed25519.signingTwo witInput witSignature wptInput wptSignature

local instance : Wpt.Sha2 := Wpt.Sha2.single "wit" Wpt.Example.hash

/-- The documents of the two tokens, and the header with a number. -/
def table : List (Json × Bytes) :=
  [(.object (headerMembers Wit.TYP), witHeaderJson),
    (Wit.Example.claims.serialize, Wit.Example.claimsJson),
    (.object (headerMembers Wpt.TYP), wptHeaderJson),
    (Wpt.Example.claims.serialize, Wpt.Example.claimsJson),
    (.object numberMembers, numberJson)]

noncomputable local instance : SerdeJson := SerdeJson.ofTable table

theorem nodup_table : (table.map (·.2)).Nodup := by
  unfold table witHeaderJson wptHeaderJson numberJson Wit.Example.claimsJson
    Wpt.Example.claimsJson
  repeat rw [String.toList_ofList]
  decide +kernel

def key : SigningKey := .ed25519 ()

/-- A compact token of these parts. -/
def token (headerJson claimsJson signature : Bytes) : Str :=
  Base64.URL_SAFE_NO_PAD.encode headerJson ++
    '.' :: Base64.URL_SAFE_NO_PAD.encode claimsJson ++
    '.' :: Base64.URL_SAFE_NO_PAD.encode signature

theorem splitOn_token (headerJson claimsJson signature : Bytes) :
    (token headerJson claimsJson signature).splitOn '.' =
      [Base64.URL_SAFE_NO_PAD.encode headerJson,
        Base64.URL_SAFE_NO_PAD.encode claimsJson,
        Base64.URL_SAFE_NO_PAD.encode signature] :=
  Rfc4648.urlSafe_lawful.splitOn_dots (by decide) headerJson
    claimsJson signature

theorem joseHeader_token {headerJson claimsJson signature : Bytes}
    {members : List (Str × Json)} (h : (.object members, headerJson) ∈ table) :
    JoseHeader (token headerJson claimsJson signature) members :=
  ⟨_, _, _, headerJson, splitOn_token headerJson claimsJson signature,
    Rfc4648.urlSafe_lawful.decode_encode headerJson,
    fromSlice_ofTable nodup_table h⟩

theorem joseClaims_token {headerJson claimsJson signature : Bytes} {α : Type}
    {de : Json → Outcome Error α} {claims : α} {j : Json}
    (h : (j, claimsJson) ∈ table) (hde : de j = .ok claims) :
    JoseClaims de (token headerJson claimsJson signature) claims := by
  refine ⟨_, _, _, claimsJson, splitOn_token headerJson claimsJson signature,
    Rfc4648.urlSafe_lawful.decode_encode claimsJson, ?_⟩
  rw [fromSlice, fromSlice_ofTable nodup_table h, Outcome.okOr_some,
    Outcome.ok_bind, hde]

def witToken : Str :=
  token witHeaderJson Wit.Example.claimsJson witSignature.toList

def wptToken : Str :=
  token wptHeaderJson Wpt.Example.claimsJson wptSignature.toList

theorem wit_header : JoseHeader witToken (headerMembers Wit.TYP) :=
  joseHeader_token (by simp [table])

theorem wpt_header : JoseHeader wptToken (headerMembers Wpt.TYP) :=
  joseHeader_token (by simp [table])

theorem signed_witToken : Wit.Signed witToken key.verifyingKey := by
  have hinput : Base64.URL_SAFE_NO_PAD.encode witHeaderJson ++
      '.' :: Base64.URL_SAFE_NO_PAD.encode Wit.Example.claimsJson
      = witInput := by
    unfold witHeaderJson Wit.Example.claimsJson witInput
    repeat rw [String.toList_ofList]
    decide +kernel
  have hverify : key.verifyingKey.verify (Str.asBytes witInput)
      (key.sign (Str.asBytes witInput)).toList = .ok () :=
    Ed25519.single_selfVerifies _ _ _ (Str.asBytes witInput)
  have hsign : (key.sign (Str.asBytes witInput)).toList = witSignature.toList :=
    Ed25519.sign_signingTwo_left witInput witSignature wptInput wptSignature
  rw [hsign] at hverify
  refine ⟨_, _, _, witSignature.toList, splitOn_token _ _ _,
    Rfc4648.urlSafe_lawful.decode_encode _, ?_⟩
  rw [hinput]
  exact hverify

theorem signed_wptToken : Wpt.Signed wptToken key.verifyingKey := by
  have hinput : Base64.URL_SAFE_NO_PAD.encode wptHeaderJson ++
      '.' :: Base64.URL_SAFE_NO_PAD.encode Wpt.Example.claimsJson
      = wptInput := by
    unfold wptHeaderJson Wpt.Example.claimsJson wptInput
    repeat rw [String.toList_ofList]
    decide +kernel
  have hne : wptInput ≠ witInput := by
    unfold wptInput witInput
    repeat rw [String.toList_ofList]
    decide +kernel
  have hverify : key.verifyingKey.verify (Str.asBytes wptInput)
      (key.sign (Str.asBytes wptInput)).toList = .ok () :=
    Ed25519.single_selfVerifies _ _ _ (Str.asBytes wptInput)
  have hsign : (key.sign (Str.asBytes wptInput)).toList = wptSignature.toList :=
    Ed25519.sign_signingTwo_right witInput witSignature wptInput
      wptSignature hne
  rw [hsign] at hverify
  refine ⟨_, _, _, wptSignature.toList, splitOn_token _ _ _,
    Rfc4648.urlSafe_lawful.decodeSlice_encode _ _ (by decide +kernel), ?_⟩
  rw [hinput]
  exact hverify

/-- An identity token and a proof with `"crit":null` verify. -/
theorem null_crit_accepted :
    (JoseHeader witToken (headerMembers Wit.TYP) ∧
      HasCrit (headerMembers Wit.TYP) ∧
      ∃ w, Wit.verify witToken key.verifyingKey (Wit.Validation.at 99)
        = .ok w) ∧
    JoseHeader wptToken (headerMembers Wpt.TYP) ∧
      HasCrit (headerMembers Wpt.TYP) ∧
      ∃ w, Wpt.verify wptToken key.verifyingKey (Wpt.Example.validation 99)
        = .ok w := by
  have hcrit : ∀ typ, HasCrit (headerMembers typ) :=
    fun typ => ⟨.null, by simp [headerMembers]⟩
  refine ⟨⟨wit_header, hcrit _,
    (Wit.verify_isOk_iff_of_crit wit_header (hcrit _)).2 ⟨rfl, ?_⟩⟩,
    wpt_header, hcrit _,
    (Wpt.verify_isOk_iff_of_crit wpt_header (hcrit _)).2 ⟨rfl, ?_⟩⟩
  · refine ⟨by decide +kernel, rfl, rfl, Or.inl rfl, signed_witToken,
      Wit.Example.claims, key.verifyingKey,
      joseClaims_token (by simp [table])
      (Wit.WitClaims.deserialize_serialize _), ?_⟩
    exact
      { exp := by decide
        iat := by simp [Wit.Example.claims]
        iss := by simp [Wit.Validation.at]
        cnf := by decide +kernel }
  · refine ⟨by decide +kernel, rfl, rfl, signed_wptToken, Wpt.Example.claims,
      joseClaims_token (by simp [table])
      (Wpt.WptClaims.deserialize_serialize _), ?_⟩
    exact Wpt.accepts_new (by decide +kernel) rfl rfl rfl (by decide)

/-- A `crit` that is a number is rejected in both. -/
theorem crit_rejected_iff_example :
    (∃ e, Wit.verify (token numberJson [] []) key.verifyingKey
      (Wit.Validation.at 99) = .err e) ∧
      ∃ e, Wpt.verify (token numberJson [] []) key.verifyingKey
        (Wpt.Example.validation 99) = .err e := by
  have hheader : JoseHeader (token numberJson [] []) numberMembers :=
    joseHeader_token (by simp [table])
  have hcrit : HasCrit numberMembers := ⟨.posInt 1, by simp [numberMembers]⟩
  have hnumber : matching "crit" numberMembers = [.posInt 1] := rfl
  obtain ⟨hwit, hwpt⟩ := crit_rejected_iff
  constructor
  · rw [hwit _ _ hheader hcrit, hnumber]
    simp
  · rw [hwpt _ _ hheader hcrit, hnumber]
    simp

end Example.Crit

end Wimsey
