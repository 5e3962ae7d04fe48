import Wimsey.RustStd.UInt

/-!
# Keys and signature algorithms

The model of `crates/jose/src/error.rs` and `crates/jose/src/key.rs`.  A key is
of one of two algorithms, and a signature has 64 bytes under either.

The curve libraries are parameters: `Ed25519` is what the code uses of
`ed25519_dalek`, and `P256` what it uses of `p256`.  What a result assumes of a
key is `SelfVerifies`: it verifies the signatures it makes.
-/

namespace Wimsey.Jose

open Wimsey.RustStd

/-! ## The curve libraries -/

/-- What the code uses of `ed25519_dalek`. -/
class Ed25519 where
  SigningKey : Type
  VerifyingKey : Type
  decEq : DecidableEq VerifyingKey
  /-- `SigningKey::from_bytes`, from a seed. -/
  signingKeyFromBytes : Vector UInt8 32 → SigningKey
  signingKeyToBytes : SigningKey → Vector UInt8 32
  verifyingKey : SigningKey → VerifyingKey
  sign : SigningKey → Bytes → Vector UInt8 64
  verifyingKeyFromBytes : Vector UInt8 32 → Option VerifyingKey
  verifyingKeyToBytes : VerifyingKey → Vector UInt8 32
  verifyStrict : VerifyingKey → Bytes → Vector UInt8 64 → Bool

/-- What the code uses of `p256`.  The uncompressed SEC1 point of a key is given
by its bytes and its two coordinates. -/
class P256 where
  SigningKey : Type
  VerifyingKey : Type
  Signature : Type
  decEq : DecidableEq VerifyingKey
  /-- `SigningKey::from_bytes`, from a scalar. -/
  signingKeyFromBytes : Vector UInt8 32 → Option SigningKey
  signingKeyToBytes : SigningKey → Vector UInt8 32
  verifyingKey : SigningKey → VerifyingKey
  sign : SigningKey → Bytes → Signature
  signatureToBytes : Signature → Vector UInt8 64
  signatureFromBytes : Vector UInt8 64 → Option Signature
  fromSec1Bytes : Bytes → Option VerifyingKey
  sec1PointBytes : VerifyingKey → Bytes
  sec1PointX : VerifyingKey → Option (Vector UInt8 32)
  sec1PointY : VerifyingKey → Option (Vector UInt8 32)
  verify : VerifyingKey → Bytes → Signature → Bool

/-- A public key is read back from its bytes. -/
def Ed25519.ReadsKeys [Ed25519] : Prop :=
  ∀ key, Ed25519.verifyingKeyFromBytes (Ed25519.verifyingKeyToBytes key)
    = some key

/-- An uncompressed point has its two coordinates, and a public key is read back
from it. -/
def P256.ReadsKeys [P256] : Prop :=
  ∀ key, ∃ x y, P256.sec1PointX key = some x ∧ P256.sec1PointY key = some y ∧
    P256.fromSec1Bytes (0x04 :: (x.toList ++ y.toList)) = some key

/-- The octets of an uncompressed point, and that a public key is read back from
them. -/
def P256.ReadsPoints [P256] : Prop :=
  ∀ key, (P256.sec1PointBytes key).length = 65 ∧
    P256.fromSec1Bytes (P256.sec1PointBytes key) = some key

/-- A public key keeps the bytes it was read from. -/
def Ed25519.KeepsBytes [Ed25519] : Prop :=
  ∀ b key, Ed25519.verifyingKeyFromBytes b = some key →
    Ed25519.verifyingKeyToBytes key = b

/-- The point that is read from two coordinates has these coordinates. -/
def P256.KeepsCoordinates [P256] : Prop :=
  ∀ (x y : Vector UInt8 32) key,
    P256.fromSec1Bytes (0x04 :: (x.toList ++ y.toList)) = some key →
    P256.sec1PointX key = some x ∧ P256.sec1PointY key = some y

/-- The encodings of a point that are read: the uncompressed one, and others of
33 octets, of which every key has one. -/
structure P256.ReadsSec1 [P256] : Prop where
  uncompressed_or_short : ∀ b key, P256.fromSec1Bytes b = some key →
    b = P256.sec1PointBytes key ∨ b.length = 33
  exists_short : ∀ key, ∃ b, b.length = 33 ∧ P256.fromSec1Bytes b = some key

/-- A secret key is read back from its bytes. -/
def Ed25519.ReadsSecrets [Ed25519] : Prop :=
  ∀ key, Ed25519.signingKeyFromBytes (Ed25519.signingKeyToBytes key) = key

/-- A secret key is read back from its bytes. -/
def P256.ReadsSecrets [P256] : Prop :=
  ∀ key, P256.signingKeyFromBytes (P256.signingKeyToBytes key) = some key

instance [Ed25519] : DecidableEq Ed25519.VerifyingKey := Ed25519.decEq

instance [P256] : DecidableEq P256.VerifyingKey := P256.decEq

/-! ## Errors -/

/-- `FORBIDDEN_ALGS`. -/
def FORBIDDEN_ALGS : List Str :=
  [ -- The unsecured JWS algorithm.
    "none",
    -- JWS algorithms used with symmetric keys.
    "HS256", "HS384", "HS512",
    -- JWE key-management algorithms.
    "RSA1_5", "RSA-OAEP", "RSA-OAEP-256", "RSA-OAEP-384", "RSA-OAEP-512",
    "A128KW", "A192KW", "A256KW", "dir", "ECDH-ES", "ECDH-ES+A128KW",
    "ECDH-ES+A192KW", "ECDH-ES+A256KW", "A128GCMKW", "A192GCMKW", "A256GCMKW",
    "PBES2-HS256+A128KW", "PBES2-HS384+A192KW", "PBES2-HS512+A256KW"]

/-- `is_forbidden_alg`. -/
def isForbiddenAlg (alg : Str) : Bool :=
  FORBIDDEN_ALGS.any fun f => Str.eqIgnoreAsciiCase f alg

/-- `JoseError`. -/
inductive JoseError where
  | missingAlg
  | forbiddenAlg (found : Str)
  | unsupportedAlg (found : Str)
  | invalidKey
  | invalidSignature
  | invalidEncoding
deriving DecidableEq, Repr

/-! ## Algorithms -/

/-- A JOSE signature algorithm. -/
inductive Algorithm where
  | edDsa
  | es256
deriving DecidableEq, Repr

/-- `Algorithm::as_str`. -/
def Algorithm.asStr : Algorithm → Str
  | .edDsa => "EdDSA"
  | .es256 => "ES256"

/-- `Algorithm::parse`. -/
def Algorithm.parse (alg : Str) : Outcome JoseError Algorithm :=
  if alg = "EdDSA" then .ok .edDsa
  else if alg = "ES256" then .ok .es256
  else if isForbiddenAlg alg then .err (.forbiddenAlg alg)
  else .err (.unsupportedAlg alg)

/-- An algorithm is parsed from its own name only. -/
theorem Algorithm.parse_eq_ok_iff {s : Str} {alg : Algorithm} :
    Algorithm.parse s = .ok alg ↔ s = alg.asStr := by
  constructor
  · intro h
    rw [Algorithm.parse] at h
    split at h
    · rename_i hs
      obtain rfl := Outcome.ok.inj h
      exact hs
    · split at h
      · rename_i hs
        obtain rfl := Outcome.ok.inj h
        exact hs
      · split at h <;> cases h
  · rintro rfl
    cases alg <;> decide

theorem Algorithm.parse_ne_panic (s : Str) : Algorithm.parse s ≠ .panic := by
  rw [Algorithm.parse]
  split
  · simp
  · split
    · simp
    · split <;> simp

/-- The length of a signature. -/
def SIGNATURE_LEN : Nat := 64

/-! ## Keys -/

section Keys

variable [Ed25519] [P256]

/-- A public key that can verify. -/
inductive VerifyingKey where
  | ed25519 (key : Ed25519.VerifyingKey)
  | p256 (key : P256.VerifyingKey)
deriving DecidableEq

/-- A private key that can sign. -/
inductive SigningKey where
  | ed25519 (key : Ed25519.SigningKey)
  | p256 (key : P256.SigningKey)

namespace SigningKey

/-- `SigningKey::from_ed25519_seed`. -/
def fromEd25519Seed (seed : Vector UInt8 32) : SigningKey :=
  .ed25519 (Ed25519.signingKeyFromBytes seed)

/-- `SigningKey::from_p256_scalar`. -/
def fromP256Scalar (scalar : Vector UInt8 32) : Outcome JoseError SigningKey :=
  SigningKey.p256 <$> Outcome.okOr .invalidKey (P256.signingKeyFromBytes scalar)

/-- `SigningKey::algorithm`. -/
def algorithm : SigningKey → Algorithm
  | .ed25519 _ => .edDsa
  | .p256 _ => .es256

/-- `SigningKey::verifying_key`. -/
def verifyingKey : SigningKey → VerifyingKey
  | .ed25519 key => .ed25519 (Ed25519.verifyingKey key)
  | .p256 key => .p256 (P256.verifyingKey key)

/-- `SigningKey::to_bytes`. -/
def toBytes : SigningKey → Vector UInt8 32
  | .ed25519 key => Ed25519.signingKeyToBytes key
  | .p256 key => P256.signingKeyToBytes key

/-- `SigningKey::sign`. -/
def sign : SigningKey → Bytes → Vector UInt8 SIGNATURE_LEN
  | .ed25519 key, message => Ed25519.sign key message
  | .p256 key, message => P256.signatureToBytes (P256.sign key message)

end SigningKey

namespace VerifyingKey

/-- `VerifyingKey::algorithm`. -/
def algorithm : VerifyingKey → Algorithm
  | .ed25519 _ => .edDsa
  | .p256 _ => .es256

/-- `VerifyingKey::to_raw_bytes`. -/
def toRawBytes : VerifyingKey → Bytes
  | .ed25519 key => (Ed25519.verifyingKeyToBytes key).toList
  | .p256 key => P256.sec1PointBytes key

/-- `VerifyingKey::from_raw_bytes`. -/
def fromRawBytes (algorithm : Algorithm) (bytes : Bytes) :
    Outcome JoseError VerifyingKey :=
  match algorithm with
  | .edDsa => do
      let bytes ← Outcome.okOr .invalidKey (tryInto 32 bytes)
      VerifyingKey.ed25519 <$> Outcome.okOr .invalidKey
        (Ed25519.verifyingKeyFromBytes bytes)
  | .es256 =>
      VerifyingKey.p256 <$> Outcome.okOr .invalidKey (P256.fromSec1Bytes bytes)

/-- `VerifyingKey::verify`. -/
def verify (key : VerifyingKey) (message signature : Bytes) :
    Outcome JoseError Unit := do
  let signature ←
    Outcome.okOr .invalidSignature (tryInto SIGNATURE_LEN signature)
  match key with
  | .ed25519 key =>
      Outcome.failIf (!Ed25519.verifyStrict key message signature)
        .invalidSignature
  | .p256 key => do
      let signature ←
        Outcome.okOr .invalidSignature (P256.signatureFromBytes signature)
      Outcome.failIf (!P256.verify key message signature) .invalidSignature

/-- A public key is read back from its raw bytes, under its algorithm. -/
theorem fromRawBytes_toRawBytes (hed25519 : Ed25519.ReadsKeys)
    (hp256 : P256.ReadsPoints) (key : VerifyingKey) :
    fromRawBytes key.algorithm key.toRawBytes = .ok key := by
  cases key with
  | ed25519 key =>
    simp only [fromRawBytes, algorithm, toRawBytes, tryInto_toList,
      hed25519 key, Outcome.okOr_some, Outcome.ok_bind, Outcome.map_ok]
  | p256 key =>
    simp only [fromRawBytes, algorithm, toRawBytes, (hp256 key).2,
      Outcome.okOr_some, Outcome.map_ok]

theorem fromRawBytes_edDsa_eq_ok_iff {bytes : Bytes} {key : VerifyingKey} :
    fromRawBytes .edDsa bytes = .ok key ↔ ∃ (b : Vector UInt8 32)
    (k : Ed25519.VerifyingKey),
      bytes = b.toList ∧ Ed25519.verifyingKeyFromBytes b = some k ∧
      key = .ed25519 k := by
  simp only [fromRawBytes, Outcome.bind_eq_ok_iff, Outcome.okOr_eq_ok_iff,
    tryInto_eq_some_iff]
  constructor
  · intro ⟨b, hbytes, h⟩
    cases hb : Ed25519.verifyingKeyFromBytes b with
    | none =>
      rw [hb] at h
      cases h
    | some k =>
      rw [hb] at h
      exact ⟨b, k, hbytes, hb, (Outcome.ok.inj h).symm⟩
  · rintro ⟨b, k, hbytes, hb, rfl⟩
    refine ⟨b, hbytes, ?_⟩
    rw [hb, Outcome.okOr_some, Outcome.map_ok]

theorem fromRawBytes_es256_eq_ok_iff {bytes : Bytes} {key : VerifyingKey} :
    fromRawBytes .es256 bytes = .ok key ↔
      ∃ k : P256.VerifyingKey,
        P256.fromSec1Bytes bytes = some k ∧ key = .p256 k := by
  rw [fromRawBytes]
  cases hbytes : P256.fromSec1Bytes bytes with
  | none => simp
  | some k => simp [eq_comm]

/-- Raw bytes that are not read are an invalid key. -/
theorem fromRawBytes_cases (algorithm : Algorithm) (bytes : Bytes) :
    (∃ key, fromRawBytes algorithm bytes = .ok key) ∨
      fromRawBytes algorithm bytes = .err .invalidKey := by
  cases algorithm with
  | edDsa =>
    rw [fromRawBytes]
    cases tryInto 32 bytes with
    | none => exact Or.inr rfl
    | some b =>
      rw [Outcome.okOr_some, Outcome.ok_bind]
      cases Ed25519.verifyingKeyFromBytes b with
      | none => exact Or.inr rfl
      | some k => exact Or.inl ⟨.ed25519 k, rfl⟩
  | es256 =>
    rw [fromRawBytes]
    cases P256.fromSec1Bytes bytes with
    | none => exact Or.inr rfl
    | some k => exact Or.inl ⟨.p256 k, rfl⟩

/-- The length of the raw bytes of a key, as it is documented. -/
def rawLen : Algorithm → Nat
  | .edDsa => 32
  | .es256 => 65

/-- The bytes are read as it is documented: as a key of the algorithm that has
these raw bytes, and not at all unless they have the length for the
algorithm. -/
structure OneEncoding (algorithm : Algorithm) (bytes : Bytes) : Prop where
  read : ∀ key, fromRawBytes algorithm bytes = .ok key →
    key.algorithm = algorithm ∧ key.toRawBytes = bytes ∧
    bytes.length = rawLen algorithm
  rejected : bytes.length ≠ rawLen algorithm →
    fromRawBytes algorithm bytes = .err .invalidKey

theorem oneEncoding_of_read {algorithm : Algorithm} {bytes : Bytes}
    (h : ∀ key, fromRawBytes algorithm bytes = .ok key →
      key.algorithm = algorithm ∧ key.toRawBytes = bytes ∧
      bytes.length = rawLen algorithm) :
    OneEncoding algorithm bytes where
  read := h
  rejected hlen := by
    rcases fromRawBytes_cases algorithm bytes with ⟨key, hkey⟩ | hinvalid
    · exact absurd (h key hkey).2.2 hlen
    · exact hinvalid

/-- Every Ed25519 key has one encoding.  A P-256 key is also read from its other
SEC1 encodings, which have 33 octets. -/
theorem oneEncoding_iff (hed25519 : Ed25519.KeepsBytes)
    (hp256 : P256.ReadsPoints) (hsec1 : P256.ReadsSec1) (algorithm : Algorithm)
    (bytes : Bytes) :
    OneEncoding algorithm bytes ↔
      (algorithm = .es256 → bytes.length = 33 →
        P256.fromSec1Bytes bytes = none) := by
  cases algorithm with
  | edDsa =>
    refine ⟨fun _ => nofun, fun _ => oneEncoding_of_read fun key hkey => ?_⟩
    obtain ⟨b, k, rfl, hb, rfl⟩ := fromRawBytes_edDsa_eq_ok_iff.1 hkey
    refine ⟨rfl, ?_, b.length_toList⟩
    rw [toRawBytes, hed25519 b k hb]
  | es256 =>
    constructor
    · intro h _ hlen
      by_contra hsome
      obtain ⟨k, hk⟩ := Option.ne_none_iff_exists'.1 hsome
      have hread :=
        h.read (.p256 k) (fromRawBytes_es256_eq_ok_iff.2 ⟨k, hk, rfl⟩)
      have hlen' : bytes.length = 65 := hread.2.2
      omega
    · intro hnone
      refine oneEncoding_of_read fun key hkey => ?_
      obtain ⟨k, hk, rfl⟩ := fromRawBytes_es256_eq_ok_iff.1 hkey
      rcases hsec1.uncompressed_or_short bytes k hk with rfl | hshort
      · exact ⟨rfl, rfl, (hp256 k).1⟩
      · rw [hnone rfl hshort] at hk
        cases hk

/-- A signature verifies, or the error says that it does not. -/
theorem verify_cases (key : VerifyingKey) (message signature : Bytes) :
    key.verify message signature = .ok () ∨
      key.verify message signature = .err .invalidSignature := by
  have hfail : ∀ b : Bool,
      (Outcome.failIf b .invalidSignature : Outcome JoseError Unit) = .ok () ∨
      Outcome.failIf b JoseError.invalidSignature = .err .invalidSignature := by
    intro b
    cases b <;> simp
  rw [verify]
  cases tryInto SIGNATURE_LEN signature with
  | none => exact Or.inr rfl
  | some signature =>
    rw [Outcome.okOr_some, Outcome.ok_bind]
    cases key with
    | ed25519 key => exact hfail _
    | p256 key =>
      show (Outcome.okOr _ (P256.signatureFromBytes signature) >>= _) = _ ∨ _
      cases P256.signatureFromBytes signature with
      | none => exact Or.inr rfl
      | some signature => exact hfail _

theorem verify_ne_panic (key : VerifyingKey) (message signature : Bytes) :
    key.verify message signature ≠ .panic := by
  rcases key.verify_cases message signature with h | h <;> simp [h]

/-- Only a text of the length of a signature verifies. -/
theorem length_of_verify {key : VerifyingKey} {message signature : Bytes}
    (h : key.verify message signature = .ok ()) :
    signature.length = SIGNATURE_LEN := by
  rw [verify, Outcome.bind_eq_ok_iff] at h
  obtain ⟨s, hs, _⟩ := h
  rw [Outcome.okOr_eq_ok_iff, tryInto_eq_some_iff] at hs
  rw [hs, Vector.length_toList]

end VerifyingKey

theorem SigningKey.algorithm_verifyingKey (key : SigningKey) :
    key.verifyingKey.algorithm = key.algorithm := by
  cases key <;> rfl

/-- The key verifies its own signatures. -/
def SigningKey.SelfVerifies (key : SigningKey) : Prop :=
  ∀ message, key.verifyingKey.verify message (key.sign message).toList = .ok ()

end Keys

/-! ## Libraries with one key -/

/-- An `ed25519_dalek` that knows one key pair and signs as `sign` says. -/
@[reducible] def Ed25519.single (seed publicKey : Vector UInt8 32)
    (sign : Bytes → Vector UInt8 64) : Ed25519 where
  SigningKey := Unit
  VerifyingKey := Unit
  decEq := inferInstance
  signingKeyFromBytes _ := ()
  signingKeyToBytes _ := seed
  verifyingKey _ := ()
  sign _ := sign
  verifyingKeyFromBytes b := if b = publicKey then some () else none
  verifyingKeyToBytes _ := publicKey
  verifyStrict _ message signature := signature = sign message

/-- The public key of the seed `01 01 ... 01`. -/
def Ed25519.publicKeyOfOnes : Vector UInt8 32 :=
  #v[138, 136, 227, 221, 116, 9, 241, 149, 253, 82, 219, 45, 60, 186, 93, 114,
    202, 103, 9, 191, 29, 148, 18, 27, 243, 116, 136, 1, 180, 15, 111, 92]

/-- An `ed25519_dalek` with the key pair of the seed `01 01 ... 01`, which makes
a real signature of one input. -/
@[reducible] def Ed25519.signing (input : Str) (signature : Vector UInt8 64) :
    Ed25519 :=
  Ed25519.single (Vector.replicate 32 1) Ed25519.publicKeyOfOnes
    fun message => if message = Str.asBytes input then signature
      else Vector.replicate 64 0

/-- The same key pair, with real signatures of two inputs. -/
@[reducible] def Ed25519.signingTwo (input₁ : Str)
    (signature₁ : Vector UInt8 64) (input₂ : Str)
    (signature₂ : Vector UInt8 64) : Ed25519 :=
  Ed25519.single (Vector.replicate 32 1) Ed25519.publicKeyOfOnes
    fun message =>
      if message = Str.asBytes input₁ then signature₁
      else if message = Str.asBytes input₂ then signature₂
      else Vector.replicate 64 0

/-- The same library, where nothing else verifies. -/
@[reducible] def Ed25519.ideal (input : Str) (signature : Vector UInt8 64) :
    Ed25519 :=
  { Ed25519.signing input signature with
    verifyStrict := fun _ message s => message = Str.asBytes input ∧
    s = signature }

/-- A `p256` without keys. -/
@[reducible] def P256.empty : P256 where
  SigningKey := Empty
  VerifyingKey := Empty
  Signature := Empty
  decEq := inferInstance
  signingKeyFromBytes _ := none
  signingKeyToBytes := Empty.elim
  verifyingKey := Empty.elim
  sign := Empty.elim
  signatureToBytes := Empty.elim
  signatureFromBytes _ := none
  fromSec1Bytes _ := none
  sec1PointBytes := Empty.elim
  sec1PointX := Empty.elim
  sec1PointY := Empty.elim
  verify := Empty.elim

namespace P256.Keyless

scoped instance : P256 := P256.empty

end P256.Keyless

/-- A `p256` that knows one key pair, with the coordinates of its public key,
and signs as `sign` says. -/
@[reducible] def P256.single (scalar x y : Vector UInt8 32)
    (sign : Bytes → Vector UInt8 64) :
    P256 where
  SigningKey := Unit
  VerifyingKey := Unit
  Signature := Vector UInt8 64
  decEq := inferInstance
  signingKeyFromBytes b := if b = scalar then some () else none
  signingKeyToBytes _ := scalar
  verifyingKey _ := ()
  sign _ := sign
  signatureToBytes := id
  signatureFromBytes := some
  fromSec1Bytes b :=
    if b = 0x04 :: (x.toList ++ y.toList) then some () else none
  sec1PointBytes _ := 0x04 :: (x.toList ++ y.toList)
  sec1PointX _ := some x
  sec1PointY _ := some y
  verify _ message signature := signature = sign message

/-- The compressed SEC1 encoding of a point, with the tag for the parity of
`y`. -/
def P256.compressed (x y : Vector UInt8 32) : Bytes :=
  (if y[31] % 2 = 0 then 0x02 else 0x03) :: x.toList

/-- The same library, which also reads the compressed point. -/
@[reducible] def P256.compressing (scalar x y : Vector UInt8 32) : P256 :=
  { P256.single scalar x y fun _ => Vector.replicate 64 0 with
    fromSec1Bytes := fun b =>
      if b = 0x04 :: (x.toList ++ y.toList) then some ()
      else if b = P256.compressed x y then some ()
      else none }

theorem P256.single_selfVerifies (scalar x y : Vector UInt8 32)
    (sign : Bytes → Vector UInt8 64) [Ed25519] :
    @SigningKey.SelfVerifies _ (P256.single scalar x y sign)
      (@SigningKey.p256 _ (P256.single scalar x y sign) ()) := by
  intro message
  simp only [SigningKey.verifyingKey, VerifyingKey.verify, SigningKey.sign,
    SIGNATURE_LEN, tryInto_toList, Outcome.okOr_some, Outcome.ok_bind]
  show Outcome.failIf (!decide (sign message = sign message)) _ = _
  simp

theorem P256.single_readsPoints (scalar x y : Vector UInt8 32)
    (sign : Bytes → Vector UInt8 64) :
    @P256.ReadsPoints (P256.single scalar x y sign) := by
  intro key
  refine ⟨?_, if_pos rfl⟩
  show (0x04 :: (x.toList ++ y.toList)).length = 65
  simp

theorem P256.single_readsKeys (scalar x y : Vector UInt8 32)
    (sign : Bytes → Vector UInt8 64) :
    @P256.ReadsKeys (P256.single scalar x y sign) :=
  fun _ => ⟨x, y, rfl, rfl, if_pos rfl⟩

theorem P256.single_keepsCoordinates (scalar x y : Vector UInt8 32)
    (sign : Bytes → Vector UInt8 64) :
    @P256.KeepsCoordinates (P256.single scalar x y sign) := by
  intro x' y' key h
  change (if 0x04 :: (x'.toList ++ y'.toList) = 0x04 :: (x.toList ++ y.toList)
    then _ else _) = _ at h
  split at h
  · rename_i heq
    have hlen : x'.toList.length = x.toList.length := by simp
    obtain ⟨hx, hy⟩ := List.append_inj (List.cons.inj heq).2 hlen
    rw [Vector.toList_inj] at hx hy
    exact ⟨congrArg some hx.symm, congrArg some hy.symm⟩
  · cases h

theorem P256.compressing_readsSec1 (scalar x y : Vector UInt8 32) :
    @P256.ReadsSec1 (P256.compressing scalar x y) := by
  have hlen : (P256.compressed x y).length = 33 := by simp [P256.compressed]
  refine @P256.ReadsSec1.mk (P256.compressing scalar x y) (fun b key h => ?_)
    fun key => ?_
  · change (if b = 0x04 :: (x.toList ++ y.toList) then _
      else if b = P256.compressed x y then _
      else _) = _ at h
    split at h
    · rename_i huncompressed
      exact Or.inl huncompressed
    · split at h
      · rename_i hcompressed
        exact Or.inr (hcompressed ▸ hlen)
      · cases h
  · refine ⟨P256.compressed x y, hlen, ?_⟩
    exact ite_eq_left_iff.2 fun _ => if_pos rfl

theorem Ed25519.single_readsKeys (seed publicKey : Vector UInt8 32)
    (sign : Bytes → Vector UInt8 64) :
    @Ed25519.ReadsKeys (Ed25519.single seed publicKey sign) :=
  fun _ => if_pos rfl

theorem Ed25519.single_keepsBytes (seed publicKey : Vector UInt8 32)
    (sign : Bytes → Vector UInt8 64) :
    @Ed25519.KeepsBytes (Ed25519.single seed publicKey sign) := by
  intro b key h
  change (if b = publicKey then some () else none) = some key at h
  split at h
  · rename_i hb
    exact hb.symm
  · cases h

theorem Ed25519.single_selfVerifies (seed publicKey : Vector UInt8 32)
    (sign : Bytes → Vector UInt8 64) [P256] :
    @SigningKey.SelfVerifies (Ed25519.single seed publicKey sign) _
      (@SigningKey.ed25519 (Ed25519.single seed publicKey sign) _ ()) := by
  intro message
  simp only [SigningKey.verifyingKey, VerifyingKey.verify, SigningKey.sign,
    SIGNATURE_LEN, tryInto_toList, Outcome.okOr_some, Outcome.ok_bind]
  show Outcome.failIf (!decide (sign message = sign message)) _ = _
  simp

theorem Ed25519.single_verify_iff {seed publicKey : Vector UInt8 32}
    {sign : Bytes → Vector UInt8 64} [P256] {message : Bytes}
    {s : Vector UInt8 64} :
    @VerifyingKey.verify (Ed25519.single seed publicKey sign) _
        (@VerifyingKey.ed25519 (Ed25519.single seed publicKey sign) _ ())
          message s.toList = .ok () ↔
      s = sign message := by
  simp only [VerifyingKey.verify, SIGNATURE_LEN, tryInto_toList,
    Outcome.okOr_some, Outcome.ok_bind, Outcome.failIf_eq_ok_iff,
    Bool.not_eq_false']
  exact decide_eq_true_iff

theorem Ed25519.sign_signing [P256] (input : Str)
    (signature : Vector UInt8 64) :
    (@SigningKey.sign (Ed25519.signing input signature) _
      (@SigningKey.ed25519 (Ed25519.signing input signature) _ ())
        (Str.asBytes input)).toList
      = signature.toList :=
  congrArg (fun v : Vector UInt8 64 => v.toList) (if_pos rfl)

section Two

variable [P256] (input₁ : Str) (signature₁ : Vector UInt8 64) (input₂ : Str)
  (signature₂ : Vector UInt8 64)

theorem Ed25519.sign_signingTwo_left :
    (@SigningKey.sign (Ed25519.signingTwo input₁ signature₁ input₂ signature₂) _
      (@SigningKey.ed25519
        (Ed25519.signingTwo input₁ signature₁ input₂ signature₂) _ ())
      (Str.asBytes input₁)).toList = signature₁.toList :=
  congrArg (fun v : Vector UInt8 64 => v.toList) (if_pos rfl)

theorem Ed25519.sign_signingTwo_right (hne : input₂ ≠ input₁) :
    (@SigningKey.sign (Ed25519.signingTwo input₁ signature₁ input₂ signature₂) _
      (@SigningKey.ed25519
        (Ed25519.signingTwo input₁ signature₁ input₂ signature₂) _ ())
      (Str.asBytes input₂)).toList = signature₂.toList :=
  congrArg (fun v : Vector UInt8 64 => v.toList)
    ((if_neg fun h => hne (Str.asBytes_injective h)).trans (if_pos rfl))

end Two

/-- The one signature that the library with nothing else verifies. -/
theorem Ed25519.ideal_verify_iff [P256] {input : Str}
    {signature : Vector UInt8 64} {message s : Bytes} :
    @VerifyingKey.verify (Ed25519.ideal input signature) _
        (@VerifyingKey.ed25519 (Ed25519.ideal input signature) _ ()) message s
          = .ok () ↔
      message = Str.asBytes input ∧ s = signature.toList := by
  simp only [VerifyingKey.verify, Outcome.bind_eq_ok_iff,
    Outcome.okOr_eq_ok_iff, tryInto_eq_some_iff, Outcome.failIf_eq_ok_iff,
    Bool.not_eq_false']
  constructor
  · rintro ⟨(v : Vector UInt8 64), hs, hverify⟩
    obtain ⟨hmessage, hv⟩ : message = Str.asBytes input ∧ v = signature :=
      of_decide_eq_true hverify
    exact ⟨hmessage,
      hs.trans (congrArg (fun v : Vector UInt8 64 => v.toList) hv)⟩
  · intro ⟨hmessage, hs⟩
    exact ⟨signature, hs,
      decide_eq_true (⟨hmessage, rfl⟩ : message = Str.asBytes input ∧ _)⟩

theorem Ed25519.ideal_verify_sign [P256] (input : Str)
    (signature : Vector UInt8 64) :
    @VerifyingKey.verify (Ed25519.ideal input signature) _
        (@VerifyingKey.ed25519 (Ed25519.ideal input signature) _ ())
        (Str.asBytes input) (@SigningKey.sign (Ed25519.ideal input signature) _
          (@SigningKey.ed25519 (Ed25519.ideal input signature) _ ())
            (Str.asBytes input)).toList
      = .ok () := by
  have hsign : @SigningKey.sign (Ed25519.ideal input signature) _
      (@SigningKey.ed25519 (Ed25519.ideal input signature) _ ())
        (Str.asBytes input) = signature :=
    if_pos rfl
  rw [hsign]
  exact Ed25519.ideal_verify_iff.2 ⟨rfl, rfl⟩

/-! ## The encodings of a key -/

/-- Raw bytes have one encoding per key, except that a P-256 key has further
ones of 33 octets.  The raw bytes of a key are always read as that key. -/
theorem VerifyingKey.raw_bytes_encodings [Ed25519] [P256]
    (hed25519 : Ed25519.ReadsKeys) (hkeeps : Ed25519.KeepsBytes)
    (hp256 : P256.ReadsPoints) (hsec1 : P256.ReadsSec1) :
    (∀ algorithm bytes, OneEncoding algorithm bytes ↔
      (algorithm = .es256 → bytes.length = 33 →
        P256.fromSec1Bytes bytes = none)) ∧
    (∀ key, fromRawBytes key.algorithm key.toRawBytes = .ok key) ∧
    ∀ key : P256.VerifyingKey, ∃ bytes, bytes.length = 33 ∧
      fromRawBytes .es256 bytes = .ok (.p256 key) ∧
      ¬ OneEncoding .es256 bytes := by
  refine ⟨oneEncoding_iff hkeeps hp256 hsec1,
    fromRawBytes_toRawBytes hed25519 hp256, ?_⟩
  intro key
  obtain ⟨bytes, hlen, hbytes⟩ := hsec1.exists_short key
  refine ⟨bytes, hlen, fromRawBytes_es256_eq_ok_iff.2 ⟨key, hbytes, rfl⟩,
    fun hone => ?_⟩
  have hnone :=
    (oneEncoding_iff hkeeps hp256 hsec1 .es256 bytes).1 hone rfl hlen
  rw [hbytes] at hnone
  cases hnone

namespace Example.Raw

/-- The point of the scalar `03 03 ... 03`. -/
def x : Vector UInt8 32 :=
  #v[89, 26, 183, 113, 235, 188, 253, 109, 156, 185, 9, 77, 16, 101, 40, 173,
    209, 166, 157, 68, 194, 193, 246, 39, 240, 137, 236, 88, 185, 198, 26, 223]

def y : Vector UInt8 32 :=
  #v[159, 78, 106, 191, 13, 4, 92, 12, 105, 58, 60, 104, 173, 124, 151, 202,
    114, 190, 100, 222, 244, 162, 111, 236, 210, 99, 221, 152, 169,
    39, 128, 240]

/-- The seed `01 01 ... 01` and its public key. -/
local instance : Ed25519 := Ed25519.signing [] (Vector.replicate 64 0)

local instance : P256 := P256.compressing (Vector.replicate 32 3) x y

theorem raw_bytes_encodings_example :
    VerifyingKey.OneEncoding .es256 (0x04 :: (x.toList ++ y.toList)) ∧
      ¬ VerifyingKey.OneEncoding .es256 (0x02 :: x.toList) := by
  have hpoints : P256.ReadsPoints := by
    intro key
    exact ⟨rfl, if_pos rfl⟩
  obtain ⟨hone, _, _⟩ :=
    VerifyingKey.raw_bytes_encodings (Ed25519.single_readsKeys _ _ _)
    (Ed25519.single_keepsBytes _ _ _) hpoints (P256.compressing_readsSec1 _ _ _)
  constructor
  · rw [hone]
    exact fun _ hlen => absurd hlen (by decide +kernel)
  · rw [hone]
    exact fun h => absurd (h rfl (by decide +kernel)) (by decide +kernel)

/-- The compressed point is read as the key, whose raw bytes are other ones. -/
theorem compressed_point_read : ∃ key : VerifyingKey,
    VerifyingKey.fromRawBytes .es256 (0x02 :: x.toList) = .ok key ∧
      key.toRawBytes = 0x04 :: (x.toList ++ y.toList) ∧
      key.toRawBytes ≠ 0x02 :: x.toList ∧ (0x02 :: x.toList).length = 33 := by
  exact ⟨.p256 (), by decide +kernel, rfl, by decide +kernel, by decide +kernel⟩

end Example.Raw

end Wimsey.Jose
