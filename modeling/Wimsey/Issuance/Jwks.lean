import Wimsey.Issuance.Contract
import Wimsey.Serde.Value

/-!
# The published key

The key set of an issuer, which `Issuer::new` of `crates/issuer/src/lib.rs`
renders and the `/jwks` route hands out.  It is made as a `Value`, so the
members of its entry are in the order of their names, and the `kid` stands among
them.

`jwks_names_key` says that it leads to the key behind every token of the issuer:
by the only entry of the set, under the key identifier that the tokens carry.
-/

namespace Wimsey.Issuance

open Wimsey.RustStd Wimsey.Codec Wimsey.Serde Wimsey.Jose Wimsey.Wit

/-! ## The document -/

/-- The JWK as a `Value`, with the key identifier. -/
def jwksEntry (jwk : Jwk) (kid : Option Str) : Json :=
  match asObject jwk.serialize, kid with
  | some object, some kid => Members.value (object.insert "kid" (.str kid))
  | some object, none => object.value
  | none, _ => jwk.serialize

/-- The key set with one entry. -/
def keySet (entry : Json) : Json := .object (member "keys" (.array [entry]))

/-- The key set of the issuer. -/
def Issuer.jwks {ε : Type} [Base64] [SerdeJson] [Ed25519] [P256]
    (issuer : Issuer) :
    Outcome ε Bytes := do
  let jwk ← issuer.publicJwk
  Outcome.expect (SerdeJson.toVec (keySet (jwksEntry jwk issuer.kid)))

/-! ## The entry -/

/-- Only the identifier is added to the members of the JWK. -/
theorem matching_jwksEntry (jwk : Jwk) (kid : Option Str) :
    ∃ fields members, jwk.serialize = .object fields ∧
      jwksEntry jwk kid = .object members ∧
      matching "kid" members = kid.toList.map .str ∧
      ∀ key ≠ "kid".toList, matching key members = matching key fields := by
  have hnodup : ∀ fields, jwk.serialize = .object fields →
      (fields.map (·.1)).Nodup := by
    rintro _ ⟨⟩
    cases jwk.alg <;> cases jwk.y <;> simp [optMember, member]
  have hkid : ∀ fields, jwk.serialize = .object fields →
      matching "kid" fields = [] := by
    rintro _ ⟨⟩
    simp
  have hstruct : ∀ fields key, jwk.serialize = .object fields →
      matching key (Members.ofStruct fields).toList = matching key fields := by
    intro fields key hfields
    rw [matching_value, getElem?_ofStruct (hnodup fields hfields)]
  cases kid with
  | none =>
    refine ⟨_, _, rfl, rfl, ?_, fun key _ => hstruct _ key rfl⟩
    rw [hstruct _ _ rfl, hkid _ rfl]
    rfl
  | some kid =>
    refine ⟨_, _, rfl, rfl, ?_, fun key hkey => ?_⟩
    · rw [matching_insert, if_pos rfl]
      rfl
    · rw [matching_insert, if_neg hkey.symm, hstruct _ key rfl]

/-- The identifier is not read as a part of the JWK. -/
theorem deserialize_jwksEntry (jwk : Jwk) (kid : Option Str) :
    Jwk.deserialize (jwksEntry jwk kid) = .ok jwk := by
  obtain ⟨fields, members, hfields, hentry, _, hrest⟩ :=
    matching_jwksEntry jwk kid
  have hread := Jwk.deserialize_serialize jwk
  rw [hfields] at hread
  rw [hentry, ← hread]
  simp only [Jwk.deserialize, Serde.fields, Outcome.ok_bind]
  rw [optional_congr (hrest "alg" (by decide)),
    required_congr (hrest "kty" (by decide)),
    required_congr (hrest "crv" (by decide)),
    required_congr (hrest "x" (by decide)),
    optional_congr (hrest "y" (by decide))]

section Published

variable [Base64] [SerdeJson] [SerdeJson.Lawful] [Ed25519] [P256]

/-- The key set of an issuer has one entry.  It reads back as the JWK of the key
of the issuer, which verifies its tokens, and has the key identifier that is in
their headers. -/
theorem jwks_names_key
    (hbase64 : Base64.URL_SAFE_NO_PAD.Lawful Rfc4648.urlSafeAlphabet)
    (hed25519 : Ed25519.ReadsKeys) (hp256 : P256.ReadsKeys) {issuer : Issuer}
    (hkey : issuer.signingKey.SelfVerifies) {bytes : Bytes}
    (h : (issuer.jwks : Outcome JoseError Bytes) = .ok bytes) :
    ∃ members jwk key,
      SerdeJson.fromSlice bytes = some (keySet (.object members)) ∧
      Jwk.deserialize (.object members) = .ok jwk ∧
      (issuer.publicJwk : Outcome JoseError Jwk) = .ok jwk ∧
      jwk.toVerifyingKey = .ok key ∧ key = issuer.signingKey.verifyingKey ∧
      optional deString "kid" members = .ok issuer.kid ∧
      ∀ request now random response,
        issueWit issuer request now random = .ok response →
        Str.len response.wit ≤ MAX_TOKEN_LEN →
        ∃ sub exp jti, Identifier.parse (Str.trim request.sub) = .ok sub ∧
          checkedAdd now (request.lifetime issuer) = some exp ∧
          randomId random = some jti ∧
          ∀ v w, Wit.verify response.wit key v = .ok w ↔
            w.claims = issuer.claims request sub now exp jti ∧
              w.kid = issuer.kid ∧
              Accepts w.claims v w.popKey := by
  simp only [Issuer.jwks, Outcome.bind_eq_ok_iff] at h
  obtain ⟨jwk, hjwk, hbytes⟩ := h
  obtain ⟨jwk', hjwk', hread⟩ :=
    Jwk.exists_fromVerifyingKey (ε := JoseError) hbase64 hed25519 hp256
      issuer.signingKey.verifyingKey
  obtain rfl := Outcome.ok.inj (hjwk'.symm.trans hjwk)
  obtain ⟨_, members, _, hentry, hkid, _⟩ := matching_jwksEntry jwk' issuer.kid
  have hdocument :
      SerdeJson.fromSlice bytes = some (keySet (.object members)) := by
    rw [← hentry]
    apply SerdeJson.Lawful.fromSlice_toVec
    cases hvec : SerdeJson.toVec (keySet (jwksEntry jwk' issuer.kid)) with
    | none =>
      rw [hvec] at hbytes
      cases hbytes
    | some text =>
      rw [hvec] at hbytes
      exact congrArg some (Outcome.ok.inj hbytes)
  refine ⟨members, jwk', _, hdocument, ?_, hjwk', hread, rfl, ?_, ?_⟩
  · rw [← hentry]
    exact deserialize_jwksEntry jwk' issuer.kid
  · exact optional_eq hkid (fun _ => nofun) fun _ => rfl
  · intro request now random response hissue hlen
    obtain ⟨sub, popKey, exp, jti, hsub, _, _, _, hexp, hjti, hwit⟩ :=
      issueWit_eq_ok_iff.1 hissue
    refine ⟨sub, exp, jti, hsub, hexp, hjti, fun v w => ?_⟩
    rw [verify_eq_ok_iff, authenticate_issue hbase64 hkey hwit,
      decide_eq_false (Nat.not_lt.2 hlen), Outcome.failIf_false,
      Outcome.ok_bind, Outcome.ok.injEq, Prod.mk.injEq, and_assoc]
    constructor
    · intro ⟨hclaims, hkid, haccepts⟩
      exact ⟨hclaims.symm, hkid.symm, haccepts⟩
    · intro ⟨hclaims, hkid, haccepts⟩
      exact ⟨hclaims.symm, hkid.symm, haccepts⟩

end Published

/-! ## The key set of an issuer -/

namespace Example.Jwks

def jwksJson : Bytes :=
  Str.asBytes
    ("\x7b\"keys\":[\x7b\"alg\":\"EdDSA\",\"crv\":\"Ed25519\",\"kid\":\"k\"," ++
    "\"kty\":\"OKP\",\"x\":\"iojj3XQJ8ZX9UtstPLpdcspnCb8dlBIb83SIAbQPb1w\"\x7d]\x7d")

/-- The members in the order of their names. -/
def entry : List (Str × Json) :=
  member "alg" (.str "EdDSA") ++ member "crv" (.str "Ed25519") ++
    member "kid" (.str "k") ++
    member "kty" (.str "OKP") ++ member "x" (.str Wit.Example.jwk.x)

open scoped Rfc4648 P256.Keyless

/-- The key set and the two parts of a token as text. -/
def table : List (Json × Bytes) :=
  [(keySet (.object entry), jwksJson),
    (Issuance.Example.claims.serialize, Issuance.Example.claimsJson),
    (Issuance.Example.header.serialize, Issuance.Example.headerJson)]

theorem nodup_table : (table.map (·.1)).Nodup ∧ (table.map (·.2)).Nodup := by
  refine ⟨?_, by decide +kernel⟩
  simp [table, keySet, WitClaims.serialize, Header.serialize,
    Issuance.Example.claims, Issuance.Example.header, optMember, member]

noncomputable local instance : SerdeJson := SerdeJson.ofTable table

local instance : SerdeJson.Lawful := SerdeJson.ofTable_lawful nodup_table.2

def issuer : Issuer := Example.issuer

theorem jwksEntry_eq :
    jwksEntry Wit.Example.jwk (some "k".toList) = .object entry := by
  rfl

theorem jwks_issuer :
    (issuer.jwks : Outcome JoseError Bytes) = .ok jwksJson := by
  have hjwk :
      (issuer.publicJwk : Outcome JoseError Jwk) = .ok Wit.Example.jwk :=
    Wit.Example.fromVerifyingKey_ones _
  have hvec : SerdeJson.toVec (keySet (.object entry)) = some jwksJson :=
    Outcome.okOr_eq_ok_iff.1 (toVec_ofTable
      (p := (keySet (.object entry), jwksJson))
      nodup_table.1 (List.mem_cons_self ..))
  rw [Issuer.jwks, hjwk, Outcome.ok_bind]
  show Outcome.expect
    (SerdeJson.toVec (keySet (jwksEntry Wit.Example.jwk (some "k".toList)))) = _
  rw [jwksEntry_eq, hvec, Outcome.expect_some]

/-- A reader of the key set finds the key under the identifier `k`, and verifies
with it a token that the issuer has handed out. -/
theorem jwks_names_key_example : ∃ members jwk key response w,
    SerdeJson.fromSlice jwksJson = some (keySet (.object members)) ∧
    Jwk.deserialize (.object members) = .ok jwk ∧ jwk.toVerifyingKey = .ok key ∧
    optional deString "kid" members = .ok (some "k".toList) ∧
    issueWit issuer Issuance.Example.request 100 (some (Vector.replicate 16 0))
      = .ok response ∧
    Wit.verify response.wit key (Validation.at 100) = .ok w := by
  have hkey : issuer.signingKey.SelfVerifies :=
    Ed25519.single_selfVerifies _ _ _
  have hp256 : P256.ReadsKeys := fun key => nomatch key
  obtain ⟨members, jwk, key, hdocument, hread, _, hdecode, hself, hkid,
      htokens⟩ :=
    jwks_names_key Rfc4648.urlSafe_lawful (Ed25519.single_readsKeys _ _ _)
      hp256 hkey jwks_issuer
  obtain ⟨response, hissue, hlen⟩ := Issuance.Example.exists_issueWit
    (toVec_ofTable
      (p := (Issuance.Example.header.serialize, Issuance.Example.headerJson))
      nodup_table.1 (by simp [table]))
    (toVec_ofTable
      (p := (Issuance.Example.claims.serialize, Issuance.Example.claimsJson))
      nodup_table.1 (by simp [table]))
  obtain ⟨sub, exp, jti, _, hexp, _, hverify⟩ := htokens _ _ _ _ hissue hlen
  obtain rfl : 150 = exp := Option.some.inj hexp
  have hpop :
      Wit.Example.jwk.toVerifyingKey = .ok issuer.signingKey.verifyingKey := by
    decide +kernel
  have haccepts :
      Accepts (issuer.claims Issuance.Example.request sub 100 150 jti)
      (Validation.at 100) issuer.signingKey.verifyingKey :=
    { exp := by
        show (100 : UInt64) < saturatingAdd 150 0
        decide
      iat := fun iat hiat => by
        obtain rfl : 100 = iat := Option.some.inj hiat
        show (100 : UInt64) ≤ saturatingAdd 100 0
        decide
      iss := by simp [Validation.at]
      cnf := hpop }
  exact ⟨members, jwk, key, response, _, hdocument, hread, hdecode,
    hkid, hissue, (hverify _ ⟨_, issuer.kid, issuer.signingKey.verifyingKey⟩).2
      ⟨rfl, rfl, haccepts⟩⟩

end Example.Jwks

end Wimsey.Issuance
