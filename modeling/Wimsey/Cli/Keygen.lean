import Wimsey.Cli.Wic
import Wimsey.Serde.Value

/-!
# The key commands

The model of `run_key` of `crates/cli/src/main.rs`, with `to_json` of
`crates/cli/src/key.rs`.  The bytes of a random secret are a parameter,
`GetSeed`.

`key_generate_loads` says that a key file that was generated loads as the key
that it was generated for.  `key_public_keeps_key` says of every key file that
its public version has the same public key and no private one, and that it is
its own public version.
-/

namespace Wimsey.Cli

open Wimsey.RustStd Wimsey.Codec Wimsey.Serde Wimsey.Jose

/-! ## The functions -/

/-- What `key generate` uses of `getrandom`: 32 bytes, or the text of an
error. -/
class GetSeed where
  fill : Except Str (Vector UInt8 32)

/-- `Serialize` for `JwkKey`. -/
def JwkKey.serialize (key : JwkKey) : Json :=
  .object (optMember "alg" .str key.alg ++ member "kty" (.str key.kty) ++
    member "crv" (.str key.crv) ++ member "x" (.str key.x) ++
    optMember "y" .str key.y ++ optMember "d" .str key.d)

/-- `to_json`. -/
def toJson [SerdePretty] (key : JwkKey) : Outcome CommandError Str :=
  Outcome.mapErr (fun _ => .json) (toStringPretty key.serialize)

/-- The arguments of `key generate`. -/
structure KeyGenerateArgs where
  alg : Str
  seed : Option Str
  out : Option Str

/-- The arguments of `key public`. -/
structure KeyPublicArgs where
  input : Str
  out : Option Str

section Commands

variable [Base64]

/-- The secret of the key: the seed that was given, or a random one. -/
def KeyGenerateArgs.secret [GetSeed] (args : KeyGenerateArgs) :
    Outcome CommandError (Vector UInt8 32) :=
  match args.seed with
  | some seed => do
      let bytes ←
        Outcome.okOr .base64 (Base64.URL_SAFE_NO_PAD.decode (Str.trim seed))
      Outcome.okOr (.cli (.message "seed is not 32 bytes")) (tryInto 32 bytes)
  | none =>
    match GetSeed.fill with
    | .ok seed => .ok seed
    | .error e => .err (.cli (.message ("getrandom: ".toList ++ e)))

variable [Ed25519] [P256]

omit [Base64] in
/-- The key of the algorithm with this secret. -/
def keyOf (secret : Vector UInt8 32) :
    Algorithm → Outcome CommandError SigningKey
  | .edDsa => .ok (SigningKey.fromEd25519Seed secret)
  | .es256 =>
      Outcome.mapErr (fun _ =>
        .cli (.message "the seed is not a valid P-256 scalar"))
        (SigningKey.fromP256Scalar secret)

/-- `run_key`, for `key generate`. -/
def runKeyGenerate [GetSeed] [SerdePretty] (args : KeyGenerateArgs) :
    Outcome CommandError Emission := do
  let algorithm ← Outcome.mapErr .alg (Algorithm.parse (Str.trim args.alg))
  let secret ← args.secret
  let signingKey ← keyOf secret algorithm
  let jwk ← JwkKey.fromSigningKey signingKey
  let text ← toJson jwk
  .ok ⟨text, args.out⟩

/-- The check of a key file before it is exported: a private key has to match
the public one, and a public key has to be one. -/
def JwkKey.checkExport (jwk : JwkKey) : Outcome CommandError Unit :=
  if jwk.d.isSome then do
    let _ ← Outcome.mapErr .cli jwk.signingKey
    .ok ()
  else do
    let _ ← Outcome.mapErr .cli jwk.verifyingKey
    .ok ()

/-- `run_key`, for `key public`. -/
def runKeyPublic [Os] [SerdeJson] [SerdePretty] (args : KeyPublicArgs) :
    Outcome CommandError Emission := do
  let jwk ← Outcome.mapErr .cli (load args.input)
  jwk.checkExport
  let text ← toJson jwk.toPublic
  .ok ⟨text, args.out⟩

end Commands

/-! ## Key files -/

/-- A key file is read as it was written. -/
theorem JwkKey.deserialize_serialize (key : JwkKey) :
    JwkKey.deserialize key.serialize = .ok key := by
  rw [JwkKey.deserialize, JwkKey.serialize, fields, Outcome.ok_bind]
  rw [optional_eq (f := .str) (o := key.alg) (by simp) (by simp) (fun _ => rfl),
    Outcome.ok_bind]
  rw [required_eq (v := .str key.kty) (by simp)]
  rw [required_eq (v := .str key.crv) (by simp)]
  rw [required_eq (v := .str key.x) (by simp)]
  rw [optional_eq (f := .str) (o := key.y) (by simp) (by simp) (fun _ => rfl)]
  rw [optional_eq (f := .str) (o := key.d) (by simp) (by simp) (fun _ => rfl)]
  rfl

section Load

variable [SerdeJson] [SerdePretty] [SerdePretty.Lawful]

/-- A file that holds what was written of a key loads as that key. -/
theorem load_of_toJson [files : Os] {path text : Str} {key : JwkKey}
    (htext : toJson key = .ok text)
    (hread : files.read path = some (Str.asBytes text)) :
    load path = .ok key := by
  have hjson : fromSlice JwkKey.deserialize (Str.asBytes text) = .ok key := by
    rw [fromSlice_toStringPretty (Outcome.mapErr_eq_ok_iff.1 htext),
      JwkKey.deserialize_serialize]
  rw [load, hread, Outcome.okOr_some, Outcome.ok_bind, hjson, Outcome.mapErr_ok]

variable [Base64] [Ed25519] [P256]

omit [SerdeJson] [SerdePretty] [SerdePretty.Lawful] [Base64] in
/-- A key has the algorithm that it was made for. -/
theorem algorithm_of_keyOf {secret : Vector UInt8 32} {alg : Algorithm}
    {key : SigningKey} (h : keyOf secret alg = .ok key) :
    key.algorithm = alg := by
  cases alg with
  | edDsa =>
    obtain rfl := Outcome.ok.inj h
    rfl
  | es256 =>
    simp only [keyOf, Outcome.mapErr_eq_ok_iff, SigningKey.fromP256Scalar] at h
    cases hscalar : P256.signingKeyFromBytes secret with
    | none =>
      rw [hscalar] at h
      cases h
    | some inner =>
      rw [hscalar] at h
      obtain rfl := Outcome.ok.inj h
      rfl

/-- A success of `key generate` writes a file that loads as the key of the
algorithm and the secret that were asked for, and both halves of it are that
key. -/
theorem key_generate_loads [GetSeed]
    (hbase64 : Base64.URL_SAFE_NO_PAD.Lawful Rfc4648.urlSafeAlphabet)
    (hed25519 : Ed25519.ReadsKeys) (hp256 : P256.ReadsKeys)
    (hseeds : Ed25519.ReadsSecrets) (hscalars : P256.ReadsSecrets)
    {args : KeyGenerateArgs} {emission : Emission}
    (h : runKeyGenerate args = .ok emission) :
    ∃ key : SigningKey, Str.trim args.alg = key.algorithm.asStr ∧
      (∃ secret, args.secret = .ok secret ∧
        keyOf secret key.algorithm = .ok key) ∧
      emission.out = args.out ∧
      ∀ (files : Os) (path : Str),
      files.read path = some (Str.asBytes emission.content) →
        ∃ file, load path = .ok file ∧ file.signingKey = .ok key ∧
          file.verifyingKey = .ok key.verifyingKey := by
  simp only [runKeyGenerate, Outcome.bind_eq_ok_iff, Outcome.mapErr_eq_ok_iff,
    Algorithm.parse_eq_ok_iff, Outcome.ok.injEq] at h
  obtain ⟨alg, halg, secret, hsecret, key, hkey, jwk, hjwk, text, htext,
    rfl⟩ := h
  obtain rfl := algorithm_of_keyOf hkey
  obtain ⟨file, hfile, hsigning⟩ :=
    JwkKey.exists_fromSigningKey (ε := CommandError) hbase64
    hed25519 hp256 hseeds hscalars key
  obtain rfl := Outcome.ok.inj (hfile.symm.trans hjwk)
  refine ⟨key, halg, ⟨secret, hsecret, hkey⟩, rfl, fun files path hread => ?_⟩
  obtain ⟨jwk, hpublic, _, hverifying⟩ := JwkKey.public_of_signingKey hsigning
  exact ⟨file, load_of_toJson htext hread, hsigning,
    JwkKey.verifyingKey_eq_ok_iff.2 ⟨jwk, hpublic, hverifying⟩⟩

end Load

/-! ## The key of a seed -/

namespace Example.Keygen

/-- The private key file of the seed `01 01 ... 01`. -/
def file : JwkKey :=
  { alg := some "EdDSA"
    kty := "OKP"
    crv := "Ed25519"
    x := "iojj3XQJ8ZX9UtstPLpdcspnCb8dlBIb83SIAbQPb1w"
    y := none
    d := some "AQEBAQEBAQEBAQEBAQEBAQEBAQEBAQEBAQEBAQEBAQE" }

def publicText : Str :=
  "\x7b\n  \"alg\": \"EdDSA\",\n  \"kty\": \"OKP\",\n  \"crv\": \"Ed25519\"," ++
    "\n  \"x\": \"iojj3XQJ8ZX9UtstPLpdcspnCb8dlBIb83SIAbQPb1w\"\n\x7d"

def privateText : Str :=
  "\x7b\n  \"alg\": \"EdDSA\",\n  \"kty\": \"OKP\",\n  \"crv\": \"Ed25519\"," ++
    "\n  \"x\": \"iojj3XQJ8ZX9UtstPLpdcspnCb8dlBIb83SIAbQPb1w\"," ++
    "\n  \"d\": \"AQEBAQEBAQEBAQEBAQEBAQEBAQEBAQEBAQEBAQEBAQE\"\n\x7d"

open scoped Rfc4648 P256.Keyless

scoped instance : Ed25519 := Ed25519.signing [] (Vector.replicate 64 0)

scoped instance : GetSeed := ⟨.error "unavailable"⟩

/-- The two texts. -/
def table : List (Json × Str) :=
  [(file.serialize, privateText), (file.toPublic.serialize, publicText)]

noncomputable scoped instance : SerdeJson :=
  SerdeJson.ofTable (table.map fun p => (p.1, Str.asBytes p.2))

noncomputable scoped instance : SerdePretty := SerdePretty.ofTable table

scoped instance : SerdePretty.Lawful := by
  refine SerdePretty.ofTable_lawful ?_
  unfold table privateText publicText
  repeat rw [String.toList_ofList]
  decide +kernel

theorem nodup_table : (table.map (·.1)).Nodup := by
  simp [table, JwkKey.serialize, JwkKey.toPublic, file, optMember, member]

scoped instance : Os where
  read path := if path = "key.jwk" then some (Str.asBytes privateText) else none
  nowUnix := 0

/-- The algorithm and the seed are trimmed. -/
def args : KeyGenerateArgs where
  alg := " EdDSA"
  seed := some "AQEBAQEBAQEBAQEBAQEBAQEBAQEBAQEBAQEBAQEBAQE\n"
  out := none

theorem runKeyGenerate_args :
    runKeyGenerate args = .ok ⟨privateText, none⟩ := by
  have hdecode : Base64.URL_SAFE_NO_PAD.decode
      (Str.trim "AQEBAQEBAQEBAQEBAQEBAQEBAQEBAQEBAQEBAQEBAQE\n")
      = some (Vector.replicate 32 (1 : UInt8)).toList := by decide +kernel
  have hsecret : args.secret = .ok (Vector.replicate 32 1) := by
    show (Outcome.okOr CommandError.base64 (Base64.URL_SAFE_NO_PAD.decode _) >>=
      _) = _
    rw [hdecode, Outcome.okOr_some, Outcome.ok_bind, tryInto_toList]
    rfl
  have hkey : keyOf (Vector.replicate 32 1) .edDsa = .ok (.ed25519 ()) := rfl
  have halg : Algorithm.parse (Str.trim args.alg) = .ok .edDsa := by decide
  have hjwk :
      (JwkKey.fromSigningKey (.ed25519 ()) : Outcome CommandError JwkKey)
      = .ok file := by
    have hparts : Base64.URL_SAFE_NO_PAD.encode Ed25519.publicKeyOfOnes.toList
        = file.x ∧
        some (Base64.URL_SAFE_NO_PAD.encode
          (Vector.replicate 32 (1 : UInt8)).toList) = file.d := by
      decide +kernel
    exact congrArg₂ (fun x d => Outcome.ok { file with x := x, d := d })
      hparts.1 hparts.2
  have htext : toStringPretty file.serialize = .ok privateText :=
    toStringPretty_ofTable (p := (file.serialize, privateText)) nodup_table
      (List.mem_cons_self ..)
  rw [runKeyGenerate, halg, Outcome.mapErr_ok, Outcome.ok_bind, hsecret,
    Outcome.ok_bind, hkey, Outcome.ok_bind, hjwk, Outcome.ok_bind, toJson,
    htext, Outcome.mapErr_ok, Outcome.ok_bind]
  rfl

theorem key_generate_loads_example :
    ∃ emission, runKeyGenerate args = .ok emission ∧
    ∀ (files : Os), files.read "key.jwk" = some (Str.asBytes emission.content) →
      ∃ file key, load "key.jwk" = .ok file ∧ file.signingKey = .ok key ∧
        key.algorithm = .edDsa := by
  have hp256 : P256.ReadsKeys := fun key => nomatch key
  have hscalars : P256.ReadsSecrets := fun key => nomatch key
  obtain ⟨key, halg, _, _, hloads⟩ :=
    key_generate_loads Rfc4648.urlSafe_lawful (Ed25519.single_readsKeys _ _ _)
      hp256 (fun _ => rfl) hscalars runKeyGenerate_args
  refine ⟨_, runKeyGenerate_args, fun files hread => ?_⟩
  obtain ⟨file, hload, hsigning, _⟩ := hloads files "key.jwk" hread
  have hparse : Algorithm.parse (Str.trim args.alg) = .ok key.algorithm :=
    Algorithm.parse_eq_ok_iff.2 halg
  have hkey : Algorithm.parse (Str.trim args.alg) = .ok .edDsa := by decide
  exact ⟨file, key, hload, hsigning, Outcome.ok.inj (hparse.symm.trans hkey)⟩

end Example.Keygen

/-! ## Public keys -/

section Export

variable [Base64] [Ed25519] [P256]

/-- What passes the check has a public key, and its private key belongs to
it. -/
theorem JwkKey.key_of_checkExport {jwk : JwkKey}
    (h : jwk.checkExport = .ok ()) :
    ∃ key, jwk.verifyingKey = .ok key ∧
      (jwk.d.isSome = true → ∃ signingKey, jwk.signingKey = .ok signingKey ∧
        signingKey.verifyingKey = key) := by
  unfold checkExport at h
  split at h
  · simp only [Outcome.bind_eq_ok_iff, Outcome.mapErr_eq_ok_iff] at h
    obtain ⟨signingKey, hsigning, _⟩ := h
    obtain ⟨half, hhalf, _, hkey⟩ := public_of_signingKey hsigning
    exact ⟨_, verifyingKey_eq_ok_iff.2 ⟨half, hhalf, hkey⟩,
      fun _ => ⟨signingKey, hsigning, rfl⟩⟩
  · rename_i hd
    simp only [Outcome.bind_eq_ok_iff, Outcome.mapErr_eq_ok_iff] at h
    obtain ⟨key, hkey, _⟩ := h
    exact ⟨key, hkey, fun hsome => absurd hsome hd⟩

/-- The public version of a file has the public key of the file. -/
theorem JwkKey.verifyingKey_toPublic (jwk : JwkKey) :
    jwk.toPublic.verifyingKey = jwk.verifyingKey :=
  rfl

/-- Nothing can be signed with a public file. -/
theorem JwkKey.signingKey_toPublic {jwk : JwkKey} {key : VerifyingKey}
    (h : jwk.verifyingKey = .ok key) :
    jwk.toPublic.signingKey
      = .err (.message "key file has no private component `d`") := by
  obtain ⟨half, hhalf, _⟩ := verifyingKey_eq_ok_iff.1 h
  have hsame : jwk.toPublic.publicJwk = .ok half := hhalf
  rw [JwkKey.signingKey, hsame, Outcome.ok_bind]
  rfl

/-- A success of `key public` writes a file with the public key of the one that
it has read, whose private key belongs to this public key if it has one.
Nothing can be signed with what is written, and its own public version is the
same text. -/
theorem key_public_keeps_key [SerdeJson] [SerdePretty] [SerdePretty.Lawful] [Os]
    {args : KeyPublicArgs} {emission : Emission}
    (h : runKeyPublic args = .ok emission) :
    ∃ file key, load args.input = .ok file ∧ file.verifyingKey = .ok key ∧
      (file.d.isSome = true → ∃ signingKey, file.signingKey = .ok signingKey ∧
        signingKey.verifyingKey = key) ∧
      emission.out = args.out ∧
      ∀ (files : Os) (path : Str) (out : Option Str),
        files.read path = some (Str.asBytes emission.content) →
          ∃ exported, @load files _ path = .ok exported ∧
            exported.verifyingKey = .ok key ∧
            exported.signingKey
              = .err (.message "key file has no private component `d`") ∧
            @runKeyPublic _ _ _ files _ _ ⟨path, out⟩
              = .ok ⟨emission.content, out⟩ := by
  simp only [runKeyPublic, Outcome.bind_eq_ok_iff, Outcome.mapErr_eq_ok_iff,
    Outcome.ok.injEq] at h
  obtain ⟨file, hfile, _, hcheck, text, htext, rfl⟩ := h
  obtain ⟨key, hkey, hprivate⟩ := JwkKey.key_of_checkExport hcheck
  refine ⟨file, key, hfile, hkey, hprivate, rfl, fun files path out hread => ?_⟩
  have hload := load_of_toJson htext hread
  have hpublic : file.toPublic.verifyingKey = .ok key :=
    (file.verifyingKey_toPublic).trans hkey
  have hagain : file.toPublic.checkExport = .ok () := by
    show (Outcome.mapErr CommandError.cli file.toPublic.verifyingKey >>=
      fun _ => .ok ()) = _
    rw [hpublic, Outcome.mapErr_ok, Outcome.ok_bind]
  refine ⟨file.toPublic, hload, hpublic, JwkKey.signingKey_toPublic hkey, ?_⟩
  have hsame : file.toPublic.toPublic = file.toPublic := rfl
  simp only [runKeyPublic, hload, hagain, hsame, htext, Outcome.mapErr_ok,
    Outcome.ok_bind]

end Export

namespace Example.Keygen

open scoped Rfc4648 P256.Keyless

theorem load_key : load "key.jwk" = .ok file := by
  have htext : toJson file = .ok privateText :=
    Outcome.mapErr_eq_ok_iff.2
      (toStringPretty_ofTable (p := (file.serialize, privateText))
      nodup_table (List.mem_cons_self ..))
  exact load_of_toJson htext (if_pos rfl)

theorem runKeyPublic_key :
    runKeyPublic ⟨"key.jwk", none⟩ = .ok ⟨publicText, none⟩ := by
  have hcheck : ∃ key, file.signingKey = .ok key ∧ key.algorithm = .edDsa := by
    decide +kernel
  obtain ⟨key, hkey, _⟩ := hcheck
  have htext : toStringPretty file.toPublic.serialize = .ok publicText :=
    toStringPretty_ofTable
      (p := (file.toPublic.serialize, publicText)) nodup_table
      (List.mem_cons_of_mem _ (List.mem_cons_self ..))
  have hexport : file.checkExport = .ok () := by
    show (Outcome.mapErr CommandError.cli file.signingKey >>=
      fun _ => .ok ()) = _
    rw [hkey, Outcome.mapErr_ok, Outcome.ok_bind]
  simp only [runKeyPublic, load_key, hexport, toJson, htext, Outcome.mapErr_ok,
    Outcome.ok_bind]

/-- Files with the one that was written. -/
@[reducible] def exported : Os where
  read path :=
    if path = "public.jwk" then some (Str.asBytes publicText) else none
  nowUnix := 0

/-- The public file is its own public version. -/
theorem key_public_keeps_key_example :
    @runKeyPublic _ _ _ exported _ _ ⟨"public.jwk", none⟩
      = .ok ⟨publicText, none⟩ := by
  obtain ⟨_, _, _, _, _, _, hexported⟩ := key_public_keeps_key runKeyPublic_key
  have hread : exported.read "public.jwk" = some (Str.asBytes publicText) :=
    if_pos rfl
  obtain ⟨_, _, _, _, hagain⟩ := hexported exported "public.jwk" none hread
  exact hagain

end Example.Keygen

end Wimsey.Cli
