import Wimsey.HttpSig.Message
import Wimsey.Wit.Token

/-!
# Key files

The model of `crates/cli/src/key.rs`: a key file is a JWK, with a `d` when it
holds a private key, and older files leave `alg` out.  A file with both halves
of a key is of use only when they belong together.

What the commands use of the operating system is a parameter, `Os`: the contents
of a file and the time.
-/

namespace Wimsey.Cli

open Wimsey.RustStd Wimsey.Codec Wimsey.Serde Wimsey.Jose

/-- What the commands use of the operating system. -/
class Os where
  /-- `std::fs::read`, of a path. -/
  read : Str → Option Bytes
  /-- `wimsey_wit::now_unix`. -/
  nowUnix : UInt64

/-- The errors that end a command: one of its own messages, or the error of a
library. -/
inductive CliError where
  | message (text : Str)
  | reading (path : Str)
  | parsing (path : Str)
  | file
  | invalidPublicKey (error : JoseError)
  | invalidPrivateKey (error : JoseError)
  | wit (error : Wit.WitError)
  | httpSig (error : HttpSig.HttpSigError)
deriving DecidableEq, Repr

/-- A JSON Web Key as stored on disk. -/
structure JwkKey where
  alg : Option Str
  kty : Str
  crv : Str
  x : Str
  y : Option Str
  d : Option Str
deriving DecidableEq, Repr

namespace JwkKey

/-- `Deserialize` for `JwkKey`. -/
def deserialize (j : Json) : Outcome Error JwkKey := do
  let members ← fields ["alg", "kty", "crv", "x", "y", "d"] 4 j
  let alg ← optional deString "alg" members
  let kty ← required deString "kty" members
  let crv ← required deString "crv" members
  let x ← required deString "x" members
  let y ← optional deString "y" members
  let d ← optional deString "d" members
  .ok { alg := alg, kty := kty, crv := crv, x := x, y := y, d := d }

/-- The error for a file without `alg` whose key type is not known. -/
def unsupportedKey (kty crv : Str) : CliError :=
  .message ("unsupported key: kty=".toList ++ kty ++ ", crv=".toList ++ crv)

/-- `JwkKey::public_jwk`. -/
def publicJwk (key : JwkKey) : Outcome CliError Jwk := do
  let alg ← match key.alg with
    | some alg => Outcome.ok alg
    | none =>
        if key.kty = "OKP" ∧ key.crv = "Ed25519" then .ok "EdDSA".toList
        else if key.kty = "EC" ∧ key.crv = "P-256" then .ok "ES256".toList
        else .err (unsupportedKey key.kty key.crv)
  .ok
    { alg := some alg
      kty := key.kty
      crv := key.crv
      x := key.x
      y := key.y }

section Keys

variable [Base64] [Ed25519] [P256]

/-- `JwkKey::from_signing_key`. -/
def fromSigningKey {ε : Type} (key : SigningKey) : Outcome ε JwkKey := do
  let jwk ← PrivateJwk.fromSigningKey key
  .ok
    { alg := jwk.alg
      kty := jwk.kty
      crv := jwk.crv
      x := jwk.x
      y := jwk.y
      d := some jwk.d }

/-- `JwkKey::to_public`. -/
def toPublic (key : JwkKey) : JwkKey := { key with d := none }

/-- `JwkKey::signing_key`. -/
def signingKey (key : JwkKey) : Outcome CliError SigningKey := do
  let jwk ← key.publicJwk
  let d ← Outcome.okOr (.message "key file has no private component `d`") key.d
  let privateJwk : PrivateJwk :=
    { alg := jwk.alg
      kty := jwk.kty
      crv := jwk.crv
      x := jwk.x
      y := jwk.y
      d := Str.trim d }
  Outcome.mapErr .invalidPrivateKey privateJwk.toSigningKey

/-- `JwkKey::verifying_key`. -/
def verifyingKey (key : JwkKey) : Outcome CliError VerifyingKey := do
  let jwk ← key.publicJwk
  Outcome.mapErr .invalidPublicKey jwk.toVerifyingKey

end Keys

end JwkKey

/-- `load`. -/
def load [Os] [SerdeJson] (path : Str) : Outcome CliError JwkKey := do
  let bytes ← Outcome.okOr (.reading path) (Os.read path)
  Outcome.mapErr (fun _ => .parsing path) (fromSlice JwkKey.deserialize bytes)

theorem load_of_deserialize [Os] [SerdeJson] {path : Str} {bytes : Bytes}
    {j : Json} {key : JwkKey} (hread : Os.read path = some bytes)
    (hjson : SerdeJson.fromSlice bytes = some j)
    (hkey : JwkKey.deserialize j = .ok key) : load path = .ok key := by
  rw [load, hread, Outcome.okOr_some, Outcome.ok_bind, fromSlice, hjson,
    Outcome.okOr_some, Outcome.ok_bind, hkey, Outcome.mapErr_ok]

/-! ## The two halves of a key -/

namespace JwkKey

/-- The JWK that a file with an algorithm is. -/
def asJwk (key : JwkKey) : Jwk :=
  { alg := key.alg
    kty := key.kty
    crv := key.crv
    x := key.x
    y := key.y }

theorem publicJwk_of_alg {key : JwkKey} {alg : Str} (h : key.alg = some alg) :
    key.publicJwk = .ok key.asJwk := by
  rw [publicJwk, asJwk, h]
  rfl

section Keys

variable [Base64] [Ed25519] [P256]

theorem verifyingKey_eq_ok_iff {key : JwkKey} {verifyingKey : VerifyingKey} :
    key.verifyingKey = .ok verifyingKey ↔
      ∃ jwk, key.publicJwk = .ok jwk ∧
      jwk.toVerifyingKey = .ok verifyingKey := by
  simp only [JwkKey.verifyingKey, Outcome.bind_eq_ok_iff,
    Outcome.mapErr_eq_ok_iff]

/-- What a file signs with is what it verifies with. -/
theorem public_of_signingKey {key : JwkKey} {signingKey : SigningKey}
    (h : key.signingKey = .ok signingKey) :
    ∃ jwk, key.publicJwk = .ok jwk ∧ jwk.alg = some signingKey.algorithm.asStr ∧
      jwk.toVerifyingKey = .ok signingKey.verifyingKey := by
  simp only [JwkKey.signingKey, Outcome.bind_eq_ok_iff,
    Outcome.mapErr_eq_ok_iff] at h
  obtain ⟨jwk, hjwk, d, _, hsigning⟩ := h
  obtain ⟨hpublic, halg⟩ := PrivateJwk.public_of_toSigningKey hsigning
  exact ⟨jwk, hjwk, halg, hpublic⟩

/-- A file made of a key is read as that key. -/
theorem exists_fromSigningKey {ε : Type}
    (hbase64 : Base64.URL_SAFE_NO_PAD.Lawful Rfc4648.urlSafeAlphabet)
    (hed25519 : Ed25519.ReadsKeys) (hp256 : P256.ReadsKeys)
    (hseeds : Ed25519.ReadsSecrets) (hscalars : P256.ReadsSecrets)
    (key : SigningKey) :
    ∃ file, (fromSigningKey key : Outcome ε JwkKey) = .ok file ∧
    file.signingKey = .ok key := by
  obtain ⟨jwk, hjwk, hd, hsigning⟩ :=
    PrivateJwk.exists_fromSigningKey (ε := ε) hbase64 hed25519 hp256 hseeds
      hscalars key
  obtain ⟨_, halg⟩ := PrivateJwk.public_of_toSigningKey hsigning
  have htrim : Str.trim jwk.d = jwk.d := by
    rw [hd]
    apply Str.trim_of_forall
    have halphabet : Rfc4648.urlSafeAlphabet.all (fun c => !Str.isWhitespace c)
        = true := by
      decide +kernel
    intro c hc
    simpa using List.all_eq_true.1 halphabet c (hbase64.mem_alphabet _ c hc)
  refine ⟨_, by rw [fromSigningKey, hjwk]; rfl, ?_⟩
  rw [JwkKey.signingKey, publicJwk_of_alg halg]
  simp only [Outcome.ok_bind, Outcome.okOr_some, htrim, asJwk, hsigning,
    Outcome.mapErr_ok]

/-- A private key never signs with one key while it advertises another, as a JWK
and as a key file, and a key is read back from what is made of it.  A public
file with an algorithm is read as the JWK that it is. -/
theorem signs_as_advertised {ε : Type}
    (hbase64 : Base64.URL_SAFE_NO_PAD.Lawful Rfc4648.urlSafeAlphabet)
    (hed25519 : Ed25519.ReadsKeys) (hp256 : P256.ReadsKeys)
    (hseeds : Ed25519.ReadsSecrets) (hscalars : P256.ReadsSecrets) :
    (∀ (jwk : PrivateJwk) key, jwk.toSigningKey = .ok key →
      jwk.toPublic.toVerifyingKey = .ok key.verifyingKey ∧
        jwk.alg = some key.algorithm.asStr) ∧
    (∀ key, ∃ jwk,
      (PrivateJwk.fromSigningKey key : Outcome ε PrivateJwk) = .ok jwk ∧
      jwk.toSigningKey = .ok key) ∧
    (∀ (file : JwkKey) key, file.signingKey = .ok key →
      file.verifyingKey = .ok key.verifyingKey ∧
        ∃ jwk, file.publicJwk = .ok jwk ∧ jwk.alg = some key.algorithm.asStr) ∧
    (∀ key, ∃ file, (fromSigningKey key : Outcome ε JwkKey) = .ok file ∧
      file.signingKey = .ok key) ∧
    ∀ (file : JwkKey) alg, file.alg = some alg → file.d = none →
      ∀ key, file.verifyingKey = .ok key ↔
        file.asJwk.toVerifyingKey = .ok key := by
  refine ⟨fun jwk key => PrivateJwk.public_of_toSigningKey, fun key => ?_,
    fun file key h => ?_,
    exists_fromSigningKey hbase64 hed25519 hp256 hseeds hscalars,
    fun file alg halg _ key => ?_⟩
  · obtain ⟨jwk, hjwk, _, hsigning⟩ :=
      PrivateJwk.exists_fromSigningKey (ε := ε) hbase64 hed25519 hp256 hseeds
        hscalars key
    exact ⟨jwk, hjwk, hsigning⟩
  · obtain ⟨jwk, hjwk, halg, hpublic⟩ := public_of_signingKey h
    exact ⟨verifyingKey_eq_ok_iff.2 ⟨jwk, hjwk, hpublic⟩, jwk, hjwk, halg⟩
  · rw [verifyingKey_eq_ok_iff]
    constructor
    · intro ⟨jwk, hjwk, hkey⟩
      rw [publicJwk_of_alg halg] at hjwk
      rwa [Outcome.ok.inj hjwk]
    · intro hkey
      exact ⟨file.asJwk, publicJwk_of_alg halg, hkey⟩

end Keys

end JwkKey

namespace Example.Key

open Wimsey.Jose.Example.Raw (x y)

open scoped Rfc4648

/-- The seed `01 01 ... 01` and its public key. -/
local instance : Ed25519 := Ed25519.signing [] (Vector.replicate 64 0)

/-- The scalar `03 03 ... 03` and its point. -/
local instance : P256 :=
  P256.single (Vector.replicate 32 3) x y fun _ => Vector.replicate 64 0

/-- An older file, with whitespace around the secret. -/
def file : JwkKey :=
  { alg := none
    kty := "EC"
    crv := "P-256"
    x := "WRq3ceu8_W2cuQlNEGUordGmnUTCwfYn8InsWLnGGt8"
    y := some "n05qvw0EXAxpOjxorXyXynK-ZN70om_s0mPdmKkngPA"
    d := some " AwMDAwMDAwMDAwMDAwMDAwMDAwMDAwMDAwMDAwMDAwM\n" }

theorem signs_as_advertised_example :
    file.verifyingKey = .ok (.p256 ()) ∧
      ∃ file' : JwkKey, file'.signingKey = .ok (.ed25519 ()) := by
  obtain ⟨_, _, hfile, hmade, _⟩ := JwkKey.signs_as_advertised (ε := CliError)
    Rfc4648.urlSafe_lawful (Ed25519.single_readsKeys _ _ _)
      (P256.single_readsKeys _ _ _ _)
    (fun _ => rfl) (fun _ => if_pos rfl)
  have hkey : file.signingKey = .ok (.p256 ()) := by
    have hsigning : ∃ key, file.signingKey = .ok key ∧
        key.algorithm = .es256 := by
      decide +kernel
    obtain ⟨key, hkey, halg⟩ := hsigning
    cases key with
    | ed25519 _ => cases halg
    | p256 _ => exact hkey
  obtain ⟨file', _, hfile'⟩ := hmade (.ed25519 ())
  exact ⟨(hfile file _ hkey).1, file', hfile'⟩

end Example.Key

end Wimsey.Cli
