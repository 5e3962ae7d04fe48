import Wimsey.HttpSig.Verdict
import Wimsey.Wit.RoundTrip
import Wimsey.Wpt.RoundTrip

/-!
# One algorithm along the chain

A credential chain is an identity token, signed by its issuer, and what its
confirmation key has signed: proofs of possession and message signatures.  No
part of the chain stores an algorithm that the others refer to.  Each verifier
compares the name it finds with the variant of the key it was given, and the
confirmation key has its variant from the JWK in the token.

`algorithm_pinned` puts the comparisons together.
-/

namespace Wimsey

open Wimsey.RustStd Wimsey.Codec Wimsey.Serde Wimsey.Jose

/-- The names of the two algorithms are not on the list of those that are never
accepted. -/
theorem isForbiddenAlg_asStr (algorithm : Algorithm) :
    isForbiddenAlg algorithm.asStr = false := by
  cases algorithm <;> decide

section Headers

variable [Base64] [SerdeJson] [Ed25519] [P256]

/-- The first part of the token is this JOSE header. -/
def Wit.HasHeader (token : Str) (header : Wit.Header) : Prop :=
  ∃ headerB64 rest headerJson, token.splitOn '.' = headerB64 :: rest ∧
    Base64.URL_SAFE_NO_PAD.decode headerB64 = some headerJson ∧
    fromSlice Wit.Header.deserialize headerJson = .ok header

/-- The first part of the proof is this JOSE header. -/
def Wpt.HasHeader (proof : Str) (header : Wpt.Header) : Prop :=
  ∃ headerB64 rest headerJson, proof.splitOn '.' = headerB64 :: rest ∧
    Base64.URL_SAFE_NO_PAD.decode headerB64 = some headerJson ∧
    fromSlice Wpt.Header.deserialize headerJson = .ok header

/-- A token with a valid signature names the algorithm of the key in its
header. -/
theorem Wit.header_of_authenticate {token : Str} {key : VerifyingKey}
    {read : Wit.WitClaims × Option Str}
    (h : Wit.authenticate token key = .ok read) :
    ∃ header, Wit.HasHeader token header ∧
    header.alg = key.algorithm.asStr := by
  unfold Wit.authenticate at h
  obtain ⟨_, _, h⟩ := Outcome.bind_eq_ok_iff.1 h
  split at h
  · rename_i headerB64 claimsB64 signatureB64 hparts
    simp only [Outcome.bind_eq_ok_iff, Outcome.okOr_eq_ok_iff,
      Outcome.mapErr_eq_ok_iff, Outcome.failIf_eq_ok_iff, bne_eq_false_iff_eq,
      Algorithm.parse_eq_ok_iff] at h
    obtain ⟨headerJson, hdecode, header, hheader, _, _, alg, halg, _,
        hkey, _⟩ := h
    refine ⟨header, ⟨headerB64, _, headerJson, hparts, hdecode, hheader⟩, ?_⟩
    rw [halg, hkey]
  · cases h

/-- A proof with a valid signature names the algorithm of the key in its
header. -/
theorem Wpt.header_of_authenticate {proof : Str} {key : VerifyingKey}
    {claims : Wpt.WptClaims} (h : Wpt.authenticate proof key = .ok claims) :
    ∃ header, Wpt.HasHeader proof header ∧
    header.alg = key.algorithm.asStr := by
  unfold Wpt.authenticate at h
  obtain ⟨_, _, h⟩ := Outcome.bind_eq_ok_iff.1 h
  split at h
  · rename_i headerB64 claimsB64 signatureB64 hparts
    simp only [Outcome.bind_eq_ok_iff, Outcome.okOr_eq_ok_iff,
      Outcome.mapErr_eq_ok_iff, Outcome.failIf_eq_ok_iff, bne_eq_false_iff_eq,
      Algorithm.parse_eq_ok_iff] at h
    obtain ⟨headerJson, hdecode, header, hheader, _, _, alg, halg, _,
        hkey, _⟩ := h
    refine ⟨header, ⟨headerB64, _, headerJson, hparts, hdecode, hheader⟩, ?_⟩
    rw [halg, hkey]
  · cases h

end Headers

/-- A profile that is enforced leaves no room for an `alg` parameter. -/
theorem HttpSig.Admits.alg_eq_none {M : Type} [HttpSig.ComponentSource M]
    [Ed25519] [P256] {message : M} {key : VerifyingKey}
    {config : HttpSig.VerifyConfig} {components : List HttpSig.Component}
    {params : HttpSig.SignatureParams}
    (h : HttpSig.Admits message key config components params)
    (hprofile : config.profiled = true) :
    params.alg = none := by
  rcases Bool.or_eq_true_iff.1 hprofile with hrequest | hresponse
  · exact (h.request hrequest).alg
  · exact (h.response hresponse).alg

/-- The issuer key decides the algorithm of the token, and the JWK in the token
that of the confirmation key and of everything the key has signed. -/
theorem algorithm_pinned [Base64] [SerdeJson] [Wpt.Sha2] [Ed25519] [P256]
    {token : Str} {issuerKey : VerifyingKey} {v : Wit.Validation}
    {w : Wit.VerifiedWit} (h : Wit.verify token issuerKey v = .ok w) :
    (∃ header, Wit.HasHeader token header ∧
      header.alg = issuerKey.algorithm.asStr ∧
      isForbiddenAlg header.alg = false) ∧
    w.claims.cnf.jwk.Names w.popKey ∧
    (∀ proof v' w', Wpt.verify proof w.popKey v' = .ok w' →
      ∃ header, Wpt.HasHeader proof header ∧
        w.claims.cnf.jwk.alg = some header.alg ∧
        isForbiddenAlg header.alg = false) ∧
    (∀ (M : Type) [HttpSig.ComponentSource M]
      (message : M) signatureInput signature config w',
      HttpSig.verify message signatureInput signature w.popKey config = .ok w' →
      (w'.params.alg = none ∨
        w'.params.alg = HttpSig.rfc9421Alg w.popKey.algorithm) ∧
        (config.profiled = true → w'.params.alg = none) ∧
        ∀ alg, w'.params.alg = some alg → isForbiddenAlg alg = false) := by
  obtain ⟨hauth, haccepts⟩ := Wit.verify_eq_ok_iff.1 h
  have hnames := Jwk.names_of_toVerifyingKey haccepts.cnf
  refine ⟨?_, hnames, ?_, ?_⟩
  · obtain ⟨header, hheader, halg⟩ := Wit.header_of_authenticate hauth
    exact ⟨header, hheader, halg, by rw [halg, isForbiddenAlg_asStr]⟩
  · intro proof v' w' hproof
    obtain ⟨header, hheader, halg⟩ :=
      Wpt.header_of_authenticate (Wpt.verify_eq_ok_iff.1 hproof).1
    exact ⟨header,
      hheader, by rw [halg, hnames.alg], by rw [halg, isForbiddenAlg_asStr]⟩
  · intro M _ message signatureInput signature config w' hsigned
    obtain ⟨member, hauthentic, _, rfl⟩ := HttpSig.verify_eq_ok_iff.1 hsigned
    have hadmits := hauthentic.admitted
    refine ⟨?_, hadmits.alg_eq_none, fun alg halg => ?_⟩
    · cases halg : member.params.alg with
      | none => exact Or.inl rfl
      | some alg => exact Or.inr (hadmits.alg alg halg).symm
    · have hname := hadmits.alg alg halg
      cases hkey : w.popKey.algorithm with
      | edDsa =>
        rw [hkey] at hname
        obtain rfl := Option.some.inj hname
        decide
      | es256 =>
        rw [hkey] at hname
        obtain rfl := Option.some.inj hname
        decide

namespace Example.Chain

open scoped Rfc4648 P256.Keyless

local instance : Ed25519 :=
  Ed25519.signing Wit.Example.signingInput Wit.Example.signature

local instance : Wpt.Sha2 := Wpt.Sha2.single [] (Vector.replicate 32 0)

noncomputable local instance : SerdeJson := Wit.Example.serdeJson

/-- The header of a token that verifies names the algorithm of the issuer
key. -/
theorem algorithm_pinned_example :
    ∃ token w header,
      Wit.verify token Wit.Example.key.verifyingKey (Wit.Validation.at 99)
        = .ok w ∧
        Wit.HasHeader token header ∧ header.alg = "EdDSA".toList := by
  obtain ⟨token, hauth, hpop⟩ := Wit.Example.exists_token
  have hverify :
      Wit.verify token Wit.Example.key.verifyingKey (Wit.Validation.at 99)
      = .ok ⟨Wit.Example.claims, none, Wit.Example.key.verifyingKey⟩ :=
    Wit.verify_eq_ok_iff.2 ⟨hauth, by decide, nofun, nofun, hpop⟩
  obtain ⟨header, hheader, halg, _⟩ := (algorithm_pinned hverify).1
  exact ⟨token, _, header, hverify, hheader, halg⟩

end Example.Chain

end Wimsey
