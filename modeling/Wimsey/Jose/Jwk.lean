import Wimsey.Codec.Base64
import Wimsey.Jose.Key
import Wimsey.Serde.Json

/-!
# JSON Web Keys

The model of `crates/jose/src/jwk.rs`: the JWK that carries a public key inside
a credential, and the JWK of a private key.  The algorithm is decided by `alg`,
and the key type and curve must then agree with it.
-/

namespace Wimsey.Jose

open Wimsey.RustStd Wimsey.Codec Wimsey.Serde

/-- A public key in JWK form. -/
structure Jwk where
  alg : Option Str
  kty : Str
  crv : Str
  x : Str
  y : Option Str
deriving DecidableEq, Repr

/-- A private key in JWK form. -/
structure PrivateJwk where
  alg : Option Str
  kty : Str
  crv : Str
  x : Str
  y : Option Str
  d : Str
deriving DecidableEq, Repr

section

variable [Base64] {ε : Type}

/-- `coordinate`: 32 bytes of base64url. -/
def coordinate (value : Str) : Outcome JoseError (Vector UInt8 32) := do
  let bytes ←
    Outcome.okOr .invalidEncoding (Base64.URL_SAFE_NO_PAD.decode value)
  Outcome.okOr .invalidKey (tryInto 32 bytes)

theorem coordinate_ne_panic (value : Str) : coordinate value ≠ .panic := by
  unfold coordinate
  exact Outcome.bind_ne_panic Outcome.okOr_ne_panic fun bytes _ =>
    Outcome.okOr_ne_panic

variable [Ed25519] [P256]

/-- `Jwk::from_verifying_key`. -/
def Jwk.fromVerifyingKey : VerifyingKey → Outcome ε Jwk
  | .ed25519 key =>
      .ok
        { alg := some Algorithm.edDsa.asStr
          kty := "OKP"
          crv := "Ed25519"
          x :=
            Base64.URL_SAFE_NO_PAD.encode
              (Ed25519.verifyingKeyToBytes key).toList
          y := none }
  | .p256 key => do
      let x ← Outcome.expect (P256.sec1PointX key)
      let y ← Outcome.expect (P256.sec1PointY key)
      .ok
        { alg := some Algorithm.es256.asStr
          kty := "EC"
          crv := "P-256"
          x := Base64.URL_SAFE_NO_PAD.encode x.toList
          y := some (Base64.URL_SAFE_NO_PAD.encode y.toList) }

/-- `Jwk::validated_alg`. -/
def Jwk.validatedAlg (jwk : Jwk) : Outcome JoseError Algorithm := do
  let alg ← Outcome.okOr .missingAlg jwk.alg
  Algorithm.parse alg

/-- `Jwk::to_verifying_key`. -/
def Jwk.toVerifyingKey (jwk : Jwk) : Outcome JoseError VerifyingKey := do
  let alg ← jwk.validatedAlg
  match alg with
  | .edDsa => do
      Outcome.failIf (jwk.kty != "OKP" || jwk.crv != "Ed25519" || jwk.y.isSome)
        .invalidKey
      let x ← coordinate jwk.x
      VerifyingKey.ed25519 <$> Outcome.okOr .invalidKey
        (Ed25519.verifyingKeyFromBytes x)
  | .es256 => do
      Outcome.failIf (jwk.kty != "EC" || jwk.crv != "P-256") .invalidKey
      let x ← coordinate jwk.x
      let y ← Outcome.okOr .invalidKey jwk.y
      let y ← coordinate y
      let sec1 := 0x04 :: (x.toList ++ y.toList)
      VerifyingKey.p256 <$> Outcome.okOr .invalidKey (P256.fromSec1Bytes sec1)

/-- `PrivateJwk::from_signing_key`. -/
def PrivateJwk.fromSigningKey (key : SigningKey) : Outcome ε PrivateJwk := do
  let jwk ← Jwk.fromVerifyingKey key.verifyingKey
  .ok
    { alg := jwk.alg
      kty := jwk.kty
      crv := jwk.crv
      x := jwk.x
      y := jwk.y
      d := Base64.URL_SAFE_NO_PAD.encode key.toBytes.toList }

/-- `PrivateJwk::to_public`. -/
def PrivateJwk.toPublic (jwk : PrivateJwk) : Jwk :=
  { alg := jwk.alg
    kty := jwk.kty
    crv := jwk.crv
    x := jwk.x
    y := jwk.y }

/-- `PrivateJwk::to_signing_key`. -/
def PrivateJwk.toSigningKey (jwk : PrivateJwk) :
    Outcome JoseError SigningKey := do
  let secret ← coordinate jwk.d
  let alg ← jwk.toPublic.validatedAlg
  let signingKey ← match alg with
    | .edDsa => Outcome.ok (SigningKey.fromEd25519Seed secret)
    | .es256 => SigningKey.fromP256Scalar secret
  let verifyingKey ← jwk.toPublic.toVerifyingKey
  Outcome.failIf (signingKey.verifyingKey != verifyingKey) .invalidKey
  .ok signingKey

/-- Decoding a JWK never panics, whatever its members are. -/
theorem Jwk.toVerifyingKey_ne_panic (jwk : Jwk) :
    jwk.toVerifyingKey ≠ .panic := by
  unfold toVerifyingKey
  apply Outcome.bind_ne_panic
  · exact Outcome.bind_ne_panic Outcome.okOr_ne_panic fun alg _ =>
      Algorithm.parse_ne_panic alg
  · intro alg _
    cases alg with
    | edDsa =>
      apply Outcome.bind_ne_panic Outcome.failIf_ne_panic
      intro _ _
      apply Outcome.bind_ne_panic (coordinate_ne_panic jwk.x)
      exact fun x _ => Outcome.map_ne_panic Outcome.okOr_ne_panic
    | es256 =>
      apply Outcome.bind_ne_panic Outcome.failIf_ne_panic
      intro _ _
      apply Outcome.bind_ne_panic (coordinate_ne_panic jwk.x)
      intro x _
      apply Outcome.bind_ne_panic Outcome.okOr_ne_panic
      intro y _
      apply Outcome.bind_ne_panic (coordinate_ne_panic y)
      exact fun y _ => Outcome.map_ne_panic Outcome.okOr_ne_panic

omit [Ed25519] [P256] in
theorem coordinate_encode {alphabet : List Char}
    (hbase64 : Base64.URL_SAFE_NO_PAD.Lawful alphabet) (v : Vector UInt8 32) :
    coordinate (Base64.URL_SAFE_NO_PAD.encode v.toList) = .ok v := by
  rw [coordinate, hbase64.decode_encode, Outcome.okOr_some, Outcome.ok_bind,
    tryInto_toList, Outcome.okOr_some]

omit [Ed25519] [P256] in
/-- Under a canonical codec, the text of a coordinate is the encoding of its
bytes. -/
theorem eq_encode_of_coordinate (hbase64 : Base64.URL_SAFE_NO_PAD.Canonical)
    {value : Str} {v : Vector UInt8 32} (h : coordinate value = .ok v) :
    value = Base64.URL_SAFE_NO_PAD.encode v.toList := by
  simp only [coordinate, Outcome.bind_eq_ok_iff, Outcome.okOr_eq_ok_iff,
    tryInto_eq_some_iff] at h
  obtain ⟨_, hdecode, rfl⟩ := h
  exact hbase64 value _ hdecode

/-- A JWK made of a public key decodes to that key. -/
theorem Jwk.exists_fromVerifyingKey {alphabet : List Char}
    (hbase64 : Base64.URL_SAFE_NO_PAD.Lawful alphabet)
    (hed25519 : Ed25519.ReadsKeys) (hp256 : P256.ReadsKeys)
    (key : VerifyingKey) :
    ∃ jwk, (Jwk.fromVerifyingKey key : Outcome ε Jwk) = .ok jwk ∧
      jwk.toVerifyingKey = .ok key := by
  cases key with
  | ed25519 key =>
    refine ⟨_, rfl, ?_⟩
    simp only [toVerifyingKey, validatedAlg, Outcome.okOr_some, Outcome.ok_bind,
      Algorithm.parse_eq_ok_iff.2 (rfl : Algorithm.edDsa.asStr = _),
      bne_self_eq_false, Option.isSome_none, Bool.or_self, Outcome.failIf_false,
      coordinate_encode hbase64, hed25519 key, Outcome.map_ok]
  | p256 key =>
    obtain ⟨x, y, hx, hy, hkey⟩ := hp256 key
    refine ⟨_, by rw [fromVerifyingKey, hx, hy]; rfl, ?_⟩
    simp only [toVerifyingKey, validatedAlg, Outcome.okOr_some, Outcome.ok_bind,
      Algorithm.parse_eq_ok_iff.2 (rfl : Algorithm.es256.asStr = _),
      bne_self_eq_false, Bool.or_self, Outcome.failIf_false,
      coordinate_encode hbase64, hkey, Outcome.map_ok]

/-- The members of the JWK name the algorithm, the key type and the curve of the
key. -/
structure Jwk.Names (jwk : Jwk) (key : VerifyingKey) : Prop where
  alg : jwk.alg = some key.algorithm.asStr
  okp : key.algorithm = .edDsa → jwk.kty = "OKP".toList ∧
    jwk.crv = "Ed25519".toList ∧ jwk.y = none
  ec : key.algorithm = .es256 → jwk.kty = "EC".toList ∧
    jwk.crv = "P-256".toList ∧ jwk.y ≠ none

/-- A JWK decodes to a key that it names. -/
theorem Jwk.names_of_toVerifyingKey {jwk : Jwk} {key : VerifyingKey}
    (h : jwk.toVerifyingKey = .ok key) : jwk.Names key := by
  unfold toVerifyingKey validatedAlg at h
  simp only [Outcome.bind_eq_ok_iff, Outcome.okOr_eq_ok_iff,
    Algorithm.parse_eq_ok_iff] at h
  obtain ⟨alg, ⟨name, hname, rfl⟩, h⟩ := h
  cases alg with
  | edDsa =>
    simp only [Outcome.bind_eq_ok_iff, Outcome.failIf_eq_ok_iff,
      Bool.or_eq_false_iff, bne_eq_false_iff_eq, Option.isSome_eq_false_iff,
      Option.isNone_iff_eq_none] at h
    obtain ⟨_, ⟨⟨hkty, hcrv⟩, hy⟩, x, _, h⟩ := h
    cases hkey : Ed25519.verifyingKeyFromBytes x with
    | none =>
      rw [hkey] at h
      cases h
    | some key' =>
      rw [hkey] at h
      obtain rfl := Outcome.ok.inj h
      exact ⟨hname, fun _ => ⟨hkty, hcrv, hy⟩, nofun⟩
  | es256 =>
    simp only [Outcome.bind_eq_ok_iff, Outcome.failIf_eq_ok_iff,
      Bool.or_eq_false_iff, bne_eq_false_iff_eq, Outcome.okOr_eq_ok_iff] at h
    obtain ⟨_, ⟨hkty, hcrv⟩, x, _, y, hy, y', _, h⟩ := h
    cases hkey : P256.fromSec1Bytes (0x04 :: (x.toList ++ y'.toList)) with
    | none =>
      rw [hkey] at h
      cases h
    | some key' =>
      rw [hkey] at h
      obtain rfl := Outcome.ok.inj h
      exact ⟨hname, nofun, fun _ => ⟨hkty, hcrv, by rw [hy]; nofun⟩⟩

/-- The JWK of a key that a JWK decodes to is that JWK, member for member. -/
theorem Jwk.fromVerifyingKey_of_toVerifyingKey
    (hbase64 : Base64.URL_SAFE_NO_PAD.Canonical) (hed25519 : Ed25519.KeepsBytes)
    (hp256 : P256.KeepsCoordinates) {jwk : Jwk} {key : VerifyingKey}
    (h : jwk.toVerifyingKey = .ok key) :
    (Jwk.fromVerifyingKey key : Outcome ε Jwk) = .ok jwk := by
  have hnames := names_of_toVerifyingKey h
  obtain ⟨alg, kty, crv, x, y⟩ := jwk
  cases key with
  | ed25519 key =>
    obtain rfl : alg = _ := hnames.alg
    obtain ⟨rfl, rfl, rfl⟩ : kty = _ ∧ crv = _ ∧ y = none := hnames.okp rfl
    simp only [toVerifyingKey, validatedAlg, Outcome.okOr_some, Outcome.ok_bind,
      Algorithm.parse_eq_ok_iff.2 (rfl : Algorithm.edDsa.asStr = _),
      VerifyingKey.algorithm, bne_self_eq_false, Option.isSome_none,
      Bool.or_self, Outcome.failIf_false, Outcome.bind_eq_ok_iff] at h
    obtain ⟨bytes, hbytes, h⟩ := h
    cases hkey : Ed25519.verifyingKeyFromBytes bytes with
    | none =>
      rw [hkey] at h
      cases h
    | some key' =>
      rw [hkey] at h
      obtain rfl := VerifyingKey.ed25519.inj (Outcome.ok.inj h)
      rw [fromVerifyingKey, hed25519 bytes key' hkey,
        eq_encode_of_coordinate hbase64 hbytes]
      rfl
  | p256 key =>
    obtain rfl : alg = _ := hnames.alg
    obtain ⟨rfl, rfl, _⟩ : kty = _ ∧ crv = _ ∧ y ≠ none := hnames.ec rfl
    simp only [toVerifyingKey, validatedAlg, Outcome.okOr_some, Outcome.ok_bind,
      Algorithm.parse_eq_ok_iff.2 (rfl : Algorithm.es256.asStr = _),
      VerifyingKey.algorithm, bne_self_eq_false, Bool.or_self,
      Outcome.failIf_false, Outcome.bind_eq_ok_iff, Outcome.okOr_eq_ok_iff] at h
    obtain ⟨xBytes, hx, _, rfl, yBytes, hy, h⟩ := h
    cases hkey :
      P256.fromSec1Bytes (0x04 :: (xBytes.toList ++ yBytes.toList)) with
    | none =>
      rw [hkey] at h
      cases h
    | some key' =>
      rw [hkey] at h
      obtain rfl := VerifyingKey.p256.inj (Outcome.ok.inj h)
      obtain ⟨hpointX, hpointY⟩ := hp256 xBytes yBytes key' hkey
      rw [fromVerifyingKey, hpointX, hpointY,
        eq_encode_of_coordinate hbase64 hx, eq_encode_of_coordinate hbase64 hy]
      rfl

/-! ## Private keys -/

/-- The key that a private JWK decodes to is the one that its public half
advertises. -/
theorem PrivateJwk.public_of_toSigningKey {jwk : PrivateJwk} {key : SigningKey}
    (h : jwk.toSigningKey = .ok key) :
    jwk.toPublic.toVerifyingKey = .ok key.verifyingKey ∧
    jwk.alg = some key.algorithm.asStr := by
  -- The halves are compared in the same way in both branches on the algorithm.
  have hhalves : ∀ signingKey : SigningKey, (do
      let verifyingKey ← jwk.toPublic.toVerifyingKey
      Outcome.failIf (signingKey.verifyingKey != verifyingKey) .invalidKey
      .ok signingKey : Outcome JoseError SigningKey) = .ok key →
      jwk.toPublic.toVerifyingKey = .ok key.verifyingKey := by
    intro signingKey h
    simp only [Outcome.bind_eq_ok_iff, Outcome.failIf_eq_ok_iff,
      bne_eq_false_iff_eq] at h
    obtain ⟨verifyingKey, hpublic, _, rfl, h⟩ := h
    rwa [Outcome.ok.inj h] at hpublic
  simp only [toSigningKey, Outcome.bind_eq_ok_iff] at h
  obtain ⟨secret, _, alg, _, h⟩ := h
  have hpublic : jwk.toPublic.toVerifyingKey = .ok key.verifyingKey := by
    cases alg with
    | edDsa => exact hhalves _ h
    | es256 =>
      obtain ⟨signingKey, _, h⟩ := Outcome.bind_eq_ok_iff.1 h
      exact hhalves signingKey h
  have hnames : jwk.alg = some key.verifyingKey.algorithm.asStr :=
    (Jwk.names_of_toVerifyingKey hpublic).alg
  rw [key.algorithm_verifyingKey] at hnames
  exact ⟨hpublic, hnames⟩

/-- A private JWK made of a key decodes to that key. -/
theorem PrivateJwk.exists_fromSigningKey {alphabet : List Char}
    (hbase64 : Base64.URL_SAFE_NO_PAD.Lawful alphabet)
    (hed25519 : Ed25519.ReadsKeys) (hp256 : P256.ReadsKeys)
    (hseeds : Ed25519.ReadsSecrets) (hscalars : P256.ReadsSecrets)
    (key : SigningKey) :
    ∃ jwk, (PrivateJwk.fromSigningKey key : Outcome ε PrivateJwk) = .ok jwk ∧
      jwk.d = Base64.URL_SAFE_NO_PAD.encode key.toBytes.toList ∧
      jwk.toSigningKey = .ok key := by
  obtain ⟨jwk, hjwk, hread⟩ :=
    Jwk.exists_fromVerifyingKey (ε := ε) hbase64 hed25519 hp256 key.verifyingKey
  have halg : jwk.validatedAlg = .ok key.algorithm := by
    rw [Jwk.validatedAlg, (Jwk.names_of_toVerifyingKey hread).alg,
      Outcome.okOr_some, Outcome.ok_bind, Algorithm.parse_eq_ok_iff,
      key.algorithm_verifyingKey]
  refine ⟨{ alg := jwk.alg
            kty := jwk.kty
            crv := jwk.crv
            x := jwk.x
            y := jwk.y
            d := Base64.URL_SAFE_NO_PAD.encode key.toBytes.toList },
            ?_, rfl, ?_⟩
  · rw [fromSigningKey, hjwk, Outcome.ok_bind]
  · rw [toSigningKey]
    simp only [toPublic, coordinate_encode hbase64, halg, hread,
      Outcome.ok_bind]
    cases key with
    | ed25519 key =>
      simp only [SigningKey.algorithm, SigningKey.fromEd25519Seed,
        SigningKey.toBytes, hseeds key, Outcome.ok_bind, bne_self_eq_false,
        Outcome.failIf_false]
    | p256 key =>
      simp only [SigningKey.algorithm, SigningKey.fromP256Scalar,
        SigningKey.toBytes, hscalars key, Outcome.okOr_some, Outcome.map_ok,
        Outcome.ok_bind, bne_self_eq_false, Outcome.failIf_false]

end

/-! ## Serialization -/

/-- `Serialize` for `Jwk`. -/
def Jwk.serialize (jwk : Jwk) : Json :=
  .object (optMember "alg" .str jwk.alg ++ member "kty" (.str jwk.kty) ++
    member "crv" (.str jwk.crv) ++ member "x" (.str jwk.x) ++
    optMember "y" .str jwk.y)

/-- `Deserialize` for `Jwk`. -/
def Jwk.deserialize (j : Json) : Outcome Error Jwk := do
  let members ← fields ["alg", "kty", "crv", "x", "y"] 4 j
  let alg ← optional deString "alg" members
  let kty ← required deString "kty" members
  let crv ← required deString "crv" members
  let x ← required deString "x" members
  let y ← optional deString "y" members
  .ok { alg := alg, kty := kty, crv := crv, x := x, y := y }

/-- A JWK is read as it was written. -/
theorem Jwk.deserialize_serialize (jwk : Jwk) :
    Jwk.deserialize jwk.serialize = .ok jwk := by
  rw [Jwk.deserialize, Jwk.serialize, fields, Outcome.ok_bind]
  rw [optional_eq (f := .str) (o := jwk.alg) (by simp) (by simp) (fun _ => rfl),
    Outcome.ok_bind]
  rw [required_eq (v := .str jwk.kty) (by simp)]
  rw [required_eq (v := .str jwk.crv) (by simp)]
  rw [required_eq (v := .str jwk.x) (by simp)]
  rw [optional_eq (f := .str) (o := jwk.y) (by simp) (by simp) (fun _ => rfl)]
  rfl

theorem Jwk.deserialize_ne_panic (j : Json) : Jwk.deserialize j ≠ .panic := by
  unfold deserialize
  apply Outcome.bind_ne_panic (fields_ne_panic _ _ j)
  intro members _
  apply Outcome.bind_ne_panic (optional_ne_panic deString_ne_panic _ members)
  intro alg _
  apply Outcome.bind_ne_panic (required_ne_panic deString_ne_panic _ members)
  intro kty _
  apply Outcome.bind_ne_panic (required_ne_panic deString_ne_panic _ members)
  intro crv _
  apply Outcome.bind_ne_panic (required_ne_panic deString_ne_panic _ members)
  intro x _
  exact Outcome.bind_ne_panic (optional_ne_panic deString_ne_panic _ members)
    fun y _ => nofun

/-! ## One JWK for each key -/

/-- A public key and its JWK determine each other: the JWK of a key decodes to
that key, and a JWK that decodes to a key is the JWK of that key and names its
algorithm. -/
theorem Jwk.one_jwk_per_key [Base64] {ε : Type} [Ed25519] [P256]
    {alphabet : List Char} (hbase64 : Base64.URL_SAFE_NO_PAD.Lawful alphabet)
    (hcanonical : Base64.URL_SAFE_NO_PAD.Canonical)
    (hed25519 : Ed25519.ReadsKeys) (hkeeps : Ed25519.KeepsBytes)
    (hp256 : P256.ReadsKeys) (hcoordinates : P256.KeepsCoordinates) :
    (∀ key, ∃ jwk, (Jwk.fromVerifyingKey key : Outcome ε Jwk) = .ok jwk ∧
      jwk.toVerifyingKey = .ok key) ∧
    ∀ (jwk : Jwk) key, jwk.toVerifyingKey = .ok key →
      (Jwk.fromVerifyingKey key : Outcome ε Jwk) = .ok jwk ∧
        jwk.validatedAlg = .ok key.algorithm := by
  refine ⟨fun key => exists_fromVerifyingKey hbase64 hed25519 hp256 key,
    fun jwk key h => ?_⟩
  refine
    ⟨fromVerifyingKey_of_toVerifyingKey hcanonical hkeeps hcoordinates h, ?_⟩
  rw [validatedAlg, (names_of_toVerifyingKey h).alg, Outcome.okOr_some,
    Outcome.ok_bind, Algorithm.parse_eq_ok_iff]

namespace Example.Raw

open scoped Rfc4648

/-- The seed `01 01 ... 01` and its public key. -/
local instance : Ed25519 := Ed25519.signing [] (Vector.replicate 64 0)

/-- The scalar `03 03 ... 03` and its point. -/
local instance : P256 :=
  P256.single (Vector.replicate 32 3) x y fun _ => Vector.replicate 64 0

/-- The JWK of the point. -/
def jwk : Jwk :=
  { alg := some "ES256"
    kty := "EC"
    crv := "P-256"
    x := "WRq3ceu8_W2cuQlNEGUordGmnUTCwfYn8InsWLnGGt8"
    y := some "n05qvw0EXAxpOjxorXyXynK-ZN70om_s0mPdmKkngPA" }

theorem one_jwk_per_key_example :
    (Jwk.fromVerifyingKey (.p256 ()) : Outcome JoseError Jwk) = .ok jwk ∧
      ∃ edJwk : Jwk, edJwk.toVerifyingKey = .ok (.ed25519 ()) := by
  obtain ⟨hdecode, hencode⟩ :=
    Jwk.one_jwk_per_key (ε := JoseError) Rfc4648.urlSafe_lawful
    Rfc4648.engine_canonical (Ed25519.single_readsKeys _ _ _)
      (Ed25519.single_keepsBytes _ _ _)
    (P256.single_readsKeys _ _ _ _) (P256.single_keepsCoordinates _ _ _ _)
  have hjwk : jwk.toVerifyingKey = .ok (.p256 ()) := by decide +kernel
  obtain ⟨edJwk, _, hed⟩ := hdecode (.ed25519 ())
  exact ⟨(hencode jwk _ hjwk).1, edJwk, hed⟩

end Example.Raw

end Wimsey.Jose
