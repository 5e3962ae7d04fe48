import Wimsey.Wpt.RoundTrip

/-!
# A proof cannot be moved

The claims of a proof hold hashes of the tokens of a request.  When hashing is
injective the hashes are as good as the tokens, so a proof that verifies for two
requests finds the same audience and the same tokens in both.
-/

namespace Wimsey.Wpt

open Wimsey.RustStd Wimsey.Codec Wimsey.Serde Wimsey.Jose

section General

variable [Base64] [Sha2] [SerdeJson] [Ed25519] [P256]

/-- A proof that verifies for two requests binds the same audience and the same
tokens in both. -/
theorem proof_not_movable
    (hinjective : Function.Injective fun b : Bytes =>
      Base64.URL_SAFE_NO_PAD.encode (Sha2.digest b))
    {proof : Str} {key : VerifyingKey} {v₁ v₂ : Validation}
    {w₁ w₂ : VerifiedWpt} (h₁ : verify proof key v₁ = .ok w₁)
    (h₂ : verify proof key v₂ = .ok w₂) :
    w₁ = w₂ ∧ v₁.audience = v₂.audience ∧ v₁.wit = v₂.wit ∧
      v₁.txnToken = v₂.txnToken ∧
      ∀ oth, w₁.claims.oth = some oth → ∀ name ∈ oth,
        ∃ token₁ token₂, v₁.otherTokens[name]? = some token₁ ∧
          v₂.otherTokens[name]? = some token₂ ∧
          trimSpaces token₁ = trimSpaces token₂ := by
  have hhash : Function.Injective sha256B64u :=
    hinjective.comp Str.asBytes_injective
  obtain ⟨hauth₁, haccepts₁⟩ := verify_eq_ok_iff.1 h₁
  obtain ⟨hauth₂, haccepts₂⟩ := verify_eq_ok_iff.1 h₂
  have hclaims : w₁.claims = w₂.claims :=
    Outcome.ok.inj (hauth₁.symm.trans hauth₂)
  rw [← hclaims] at haccepts₂
  refine ⟨?_, haccepts₁.aud.symm.trans haccepts₂.aud, ?_, ?_, ?_⟩
  · exact congrArg VerifiedWpt.mk hclaims
  · exact hhash (haccepts₁.wth.symm.trans haccepts₂.wth)
  · exact Option.map_injective hhash (haccepts₁.tth.symm.trans haccepts₂.tth)
  · intro oth hoth name hname
    have hentry := Std.ExtTreeMap.getElem?_eq_some_getElem hname
    obtain ⟨token₁, hpresented₁, hhash₁⟩ := haccepts₁.oth oth hoth name _ hentry
    obtain ⟨token₂, hpresented₂, hhash₂⟩ := haccepts₂.oth oth hoth name _ hentry
    exact ⟨token₁, token₂, hpresented₁, hpresented₂,
      hhash (hhash₁.symm.trans hhash₂)⟩

end General

/-! ## A proof of three tokens -/

namespace Example.Moved

/-- The hash of the text `txn`. -/
def txnHash : Vector UInt8 32 :=
  #v[252, 68, 103, 135, 25, 170, 182, 20, 158, 208, 70, 158, 197, 51, 109, 86,
    235, 182, 164, 80, 77, 156, 40, 144, 59, 144, 216, 249, 43, 101, 164, 144]

/-- The hash of the text `ctx`. -/
def ctxHash : Vector UInt8 32 :=
  #v[2, 48, 198, 177, 216, 51, 197, 28, 196, 38, 73, 32, 34, 103, 123, 116, 198,
    13, 130, 137, 25, 49, 34, 26, 66, 219, 158, 123, 176, 98, 5, 233]

/-- The signature of the signing input by the key of the seed `01 01 ... 01`. -/
def signature : Vector UInt8 64 :=
  #v[83, 187, 110, 159, 52, 181, 31, 140, 188, 11, 237, 132, 116, 215, 14, 233,
    228, 250, 84, 214, 201, 243, 238, 209, 147, 81, 199, 142, 192, 201, 149,
    156, 136, 158, 24, 239, 156, 209, 230, 142, 212, 18, 184, 80, 162, 227, 217,
    117, 140, 237, 3, 62, 5, 166, 245, 155, 175, 15, 128, 161, 72, 5, 66, 5]

def signingInput : Str :=
  ("eyJ0eXAiOiJ3cHQrand0IiwiYWxnIjoiRWREU0EifQ.eyJhdWQiOiJodHRwczovL2EuYi9jIiwiZXhwIjoxMDAsImp0" ++
    "aSI6IjEiLCJ3dGgiOiJrNTMwcHlZR1kyeGZhZ0FQXzJNbHF4X3diZzVvU0FpVTV5NERkNkJZQXFjIiwidHRoIjoi" ++
    "X0VSbmh4bXF0aFNlMEVhZXhUTnRWdXUycEZCTm5DaVFPNURZLVN0bHBKQSIsIm90aCI6eyJ4LWEiOiJBakRHc2Rn" ++
    "enhSekVKa2tnSW1kN2RNWU5nb2taTVNJYVF0dWVlN0JpQmVrIn19")

def claimsJson : Bytes :=
  Str.asBytes ("\x7b\"aud\":\"https://a.b/c\",\"exp\":100,\"jti\":\"1\"," ++
    "\"wth\":\"k530pyYGY2xfagAP_2Mlqx_wbg5oSAiU5y4Dd6BYAqc\"," ++
    "\"tth\":\"_ERnhxmqthSe0EaexTNtVuu2pFBNnCiQO5DY-StlpJA\"," ++
    "\"oth\":\x7b\"x-a\":\"AjDGsdgzxRzEJkkgImd7dMYNgokZMSIaQtuee7BiBek\"\x7d\x7d")

open scoped Rfc4648 P256.Keyless

local instance : Ed25519 := Ed25519.signing signingInput signature

local instance : Sha2 :=
  Sha2.ofTable [("wit", Example.hash), ("txn", txnHash), ("ctx", ctxHash)]

/-- The claims for an identity token, a transaction token and a header field. -/
def claims : WptClaims :=
  { aud := "https://a.b/c"
    exp := 100
    jti := "1"
    wth := "k530pyYGY2xfagAP_2Mlqx_wbg5oSAiU5y4Dd6BYAqc"
    tth := some "_ERnhxmqthSe0EaexTNtVuu2pFBNnCiQO5DY-StlpJA"
    oth := some ((∅ : BTreeMap Str).insert "x-a".toList
      "AjDGsdgzxRzEJkkgImd7dMYNgokZMSIaQtuee7BiBek".toList) }

noncomputable local instance : SerdeJson :=
  SerdeJson.ofTable [(claims.serialize, claimsJson),
    (header.serialize, headerJson)]

local instance : SerdeJson.Lawful :=
  SerdeJson.ofTable_lawful (by decide +kernel)

def key : SigningKey := .ed25519 ()

/-- The request at some time, with the text of the header field as it
arrives. -/
def validation (now : UInt64) (field : Str) : Validation :=
  requestValidation (.new now "https://a.b/c" "wit") (some "txn")
    [("X-A", field)]

theorem accepts_claims {now : UInt64} {field : Str}
    (hfield : trimSpaces field = "ctx") (hnow : now < 100) :
    Accepts claims (validation now field) := by
  have hhash : claims.wth = witThumbprint "wit" ∧
      claims.tth = some (txnTokenThumbprint "txn") ∧
      sha256B64u "ctx" = "AjDGsdgzxRzEJkkgImd7dMYNgokZMSIaQtuee7BiBek".toList ∧
      Str.toAsciiLowercase "X-A" = "x-a".toList := by
    decide +kernel
  obtain ⟨hwth, htth, hctx, hname⟩ := hhash
  have hentries : otherEntries [("X-A", field)]
      = (∅ : BTreeMap Str).insert (Str.toAsciiLowercase "X-A")
        (sha256B64u (trimSpaces field)) := rfl
  have hoth : claims.oth = some (otherEntries [("X-A", field)]) := by
    rw [hentries, hfield, hctx, hname]
    rfl
  exact
    { bound_of_request rfl rfl hwth htth (Or.inr hoth) with
      exp := hnow
      lifetime := fun max hmax => by cases hmax
      aud := rfl }

/-- The proof of these claims verifies with and without blanks around the field,
so that both requests carry the same tokens. -/
theorem proof_not_movable_example : ∃ token,
    verify token key.verifyingKey (validation 98 "ctx")
      = .ok { claims := claims } ∧
      verify token key.verifyingKey (validation 99 " ctx ")
      = .ok { claims := claims } ∧
      (validation 98 "ctx").txnToken = (validation 99 " ctx ").txnToken ∧
      ∃ token₁ token₂, (validation 98 "ctx").otherTokens["x-a".toList]?
      = some token₁ ∧
        (validation 99 " ctx ").otherTokens["x-a".toList]? = some token₂ ∧
        trimSpaces token₁ = trimSpaces token₂ := by
  have hkey : key.SelfVerifies := Ed25519.single_selfVerifies _ _ _
  have hne : claims.serialize ≠ header.serialize := by
    intro h
    have hmember :=
      congrArg (fun p => p.1) (List.cons.inj (Json.object.inj h)).1
    exact absurd hmember (by decide)
  have hheader : toVec header.serialize = .ok headerJson :=
    toVec_ofTable (p := (header.serialize, headerJson))
      (by simp [hne]) (by simp)
  have hclaims : toVec claims.serialize = .ok claimsJson :=
    toVec_ofTable (p := (claims.serialize, claimsJson))
      (by simp [hne]) (by simp)
  have hinput : Base64.URL_SAFE_NO_PAD.encode headerJson ++ '.' ::
      Base64.URL_SAFE_NO_PAD.encode claimsJson = signingInput := by
    unfold headerJson claimsJson signingInput
    repeat rw [String.toList_ofList]
    decide +kernel
  have hissue : issue claims key = .ok _ :=
    issue_of_toVec hheader hclaims hinput
  have hsign :
      (key.sign (Str.asBytes signingInput)).toList = signature.toList :=
    Ed25519.sign_signing signingInput signature
  have hlen :
      Str.len (signingInput ++
        '.' :: Base64.URL_SAFE_NO_PAD.encode signature.toList)
      ≤ MAX_TOKEN_LEN := by
    unfold signingInput
    repeat rw [String.toList_ofList]
    decide +kernel
  rw [hsign] at hissue
  have hverify : ∀ {now : UInt64} {field : Str}, trimSpaces field = "ctx" →
      now < 100 →
      verify _ key.verifyingKey (validation now field)
      = .ok { claims := claims } :=
    fun hfield hnow =>
      (verify_issue_eq_ok_iff Rfc4648.urlSafe_lawful hkey hissue).2
      ⟨rfl, hlen, accepts_claims hfield hnow⟩
  have h₁ : verify _ key.verifyingKey (validation 98 "ctx")
      = .ok { claims := claims } :=
    hverify (by decide) (by decide)
  have h₂ : verify _ key.verifyingKey (validation 99 " ctx ")
      = .ok { claims := claims } :=
    hverify (by decide) (by decide)
  have hinjective : Function.Injective fun b : Bytes =>
      Base64.URL_SAFE_NO_PAD.encode (Sha2.digest b) :=
    Rfc4648.urlSafe_lawful.encode_injective.comp
      (Sha2.ofTable_injective (by decide +kernel))
  obtain ⟨_, _, _, htxn, hoth⟩ := proof_not_movable hinjective h₁ h₂
  refine ⟨_, h₁, h₂, htxn, hoth _ rfl "x-a".toList ?_⟩
  exact Std.ExtTreeMap.mem_insert_self

end Example.Moved

end Wimsey.Wpt
