import Wimsey.Asn1.Der
import Wimsey.Identifier.Model
import Wimsey.RustStd.Slice

/-!
# ECDSA signatures in DER

The model of `crates/mtls/src/error.rs`, and of the part of
`crates/mtls/src/wic.rs` that re-encodes a signature: JOSE writes it as two
numbers of 32 octets, X.509 as a sequence of two `INTEGER`s.

The functions are written over `Outcome`, with every index and slice that could
panic.  `ecdsaSignatureToDer_eq` says that the writer never does, and what it
writes; `ecdsaSignatureFromDer_toDer` that the reader undoes it.
-/

namespace Wimsey.Mtls

open Wimsey.RustStd Wimsey.Asn1

/-- `rcgen::Error`, which nothing reads. -/
structure RcgenError where
deriving DecidableEq, Repr

/-- `MtlsError`. -/
inductive MtlsError where
  | generate (error : RcgenError)
  | parse
  | unsupportedAlgorithm
  | invalidKey
  | invalidSignature
  | notValid
  | missingIdentifier
  | multipleIdentifiers
  | identifier (error : Identifier.ParseError)
  | time
deriving DecidableEq, Repr

section Writer

variable {ε : Type}

/-- `integer`, of `ecdsa_signature_to_der`. -/
def writeInteger (value : Bytes) : Outcome ε Bytes := do
  let last ← Slice.subUsize value.length 1
  let start := (value.findIdx? (· != 0)).getD last
  let value ← Slice.sliceFrom value start
  let first ← Slice.index value 0
  if first &&& 0x80 == 0 then do
    let len ← Outcome.expect (Slice.u8TryFrom value.length)
    .ok (0x02 :: len :: value)
  else do
    let len ← Outcome.expect (Slice.u8TryFrom (value.length + 1))
    .ok (0x02 :: len :: 0x00 :: value)

/-- `ecdsa_signature_to_der`. -/
def ecdsaSignatureToDer (raw : Vector UInt8 64) : Outcome ε Bytes := do
  let (r, s) := (raw.toList.take 32, raw.toList.drop 32)
  let r ← writeInteger r
  let s ← writeInteger s
  let body := r ++ s
  let len ← Outcome.expect (Slice.u8TryFrom body.length)
  .ok (0x30 :: len :: body)

end Writer

/-- The `match` on the octets of an integer: a leading zero is kept only when it
stands alone, and is dropped only when it keeps the number from reading as
negative. -/
def integerValue (value : Bytes) : Outcome MtlsError Bytes :=
  match value with
  | [] => .ok value
  | b :: tail =>
      if b = 0x00 then
        if tail.isEmpty then .ok value
        else do
          let first ← Slice.index tail 0
          if first &&& 0x80 != 0 then .ok tail else .err .invalidSignature
      else .ok value

/-- `integer`, of `ecdsa_signature_from_der`: the octets of an integer, and the
input after it. -/
def readInteger (input : Bytes) : Outcome MtlsError (Bytes × Bytes) :=
  match input with
  | tag :: len :: rest =>
      if tag = 0x02 then do
        let len := len.toNat
        let value ← Outcome.okOr .invalidSignature (Slice.getTo rest len)
        let input ← Slice.sliceFrom rest len
        let value ← integerValue value
        Outcome.failIf (32 < value.length || value.isEmpty) .invalidSignature
        .ok (value, input)
      else .err .invalidSignature
  | _ => .err .invalidSignature

/-- `ecdsa_signature_from_der`. -/
def ecdsaSignatureFromDer (der : Bytes) :
    Outcome MtlsError (Vector UInt8 64) := do
  let (header, rest) ←
    Outcome.okOr .invalidSignature (Slice.splitAtChecked der 2)
  match header with
  | [tag, len] =>
      if tag = 0x30 then do
        Outcome.failIf (rest.length != len.toNat) .invalidSignature
        let (r, body) ← readInteger rest
        let (s, body) ← readInteger body
        Outcome.failIf (!body.isEmpty) .invalidSignature
        let raw := Vector.replicate 64 0
        let start ← Slice.subUsize 32 r.length
        let raw ← Slice.copyFromSlice raw start 32 r
        let start ← Slice.subUsize 64 s.length
        Slice.copyFromSlice raw start 64 s
      else .err .invalidSignature
  | _ => .err .invalidSignature

/-! ## What is written -/

section Written

variable {ε : Type} {value : Bytes}

/-- The octets that `position` finds the start of. -/
theorem drop_position (h : value ≠ []) :
    value.drop ((value.findIdx? (· != 0)).getD (value.length - 1))
      = Der.trimZeros value := by
  fun_induction Der.trimZeros value with
  | case1 => exact absurd rfl h
  | case2 b => by_cases hb : b = 0 <;> simp [List.findIdx?_cons, hb]
  | case3 c rest ih =>
    rw [← ih (by simp), List.findIdx?_cons]
    cases (c :: rest).findIdx? (· != 0) <;> simp
  | case4 b c rest hb => simp [List.findIdx?_cons, hb]

/-- The writer writes the `INTEGER` of the number. -/
theorem writeInteger_eq (hne : value ≠ []) (hlen : value.length + 1 < 0x80) :
    (writeInteger value : Outcome ε Bytes) = .ok (Der.natural value) := by
  have hpos : 0 < value.length := List.length_pos_iff.2 hne
  have hle :
      (value.findIdx? (· != 0)).getD (value.length - 1) ≤ value.length := by
    cases hfind : value.findIdx? (· != 0) with
    | none => simp
    | some i => exact Nat.le_of_lt (List.findIdx?_eq_some_iff_getElem.1 hfind).1
  have htrim := Der.length_trimZeros_le value
  rw [Der.natural_of_lt hlen]
  simp only [writeInteger]
  rw [Slice.subUsize_of_le hpos, Outcome.ok_bind, Slice.sliceFrom_of_le hle,
    Outcome.ok_bind, drop_position hne]
  cases htail : Der.trimZeros value with
  | nil => exact absurd htail (Der.trimZeros_ne_nil hne)
  | cons b rest =>
    rw [htail] at htrim
    have hshort : Slice.u8TryFrom (b :: rest).length
        = some (UInt8.ofNat (b :: rest).length) :=
      Slice.u8TryFrom_of_lt (by omega)
    have hlong : Slice.u8TryFrom ((b :: rest).length + 1)
        = some (UInt8.ofNat ((b :: rest).length + 1)) :=
      Slice.u8TryFrom_of_lt (by omega)
    show (if b &&& 0x80 == 0 then _ else _) = _
    by_cases hbit : b &&& 0x80 = 0
    · have hnegative : Der.negative (b :: rest) = false := by
        simp [Der.negative, hbit]
      rw [if_pos (by simp [hbit]), hshort, Outcome.expect_some, Outcome.ok_bind,
        Der.signExtend, hnegative]
      rfl
    · have hnegative : Der.negative (b :: rest) = true := by
        simp [Der.negative, hbit]
      rw [if_neg (by simp [hbit]), hlong, Outcome.expect_some, Outcome.ok_bind,
        Der.signExtend, hnegative]
      rfl

theorem length_natural_le (h : value.length ≤ 32) :
    (Der.natural value).length ≤ 35 := by
  have htrim := Der.length_trimZeros_le value
  have hextend := Der.length_signExtend_le (Der.trimZeros value)
  rw [Der.natural_of_lt (by omega)]
  simp only [List.length_cons]
  omega

/-- The two numbers of a signature together have one octet for the length. -/
theorem length_body_lt (raw : Vector UInt8 64) :
    (Der.natural (raw.toList.take 32) ++
      Der.natural (raw.toList.drop 32)).length < 0x80 := by
  have hr : (raw.toList.take 32).length ≤ 32 := by simp
  have hs : (raw.toList.drop 32).length ≤ 32 := by simp
  have hrlen := length_natural_le hr
  have hslen := length_natural_le hs
  rw [List.length_append]
  omega

/-- The writer never panics: it writes the sequence of the two numbers. -/
theorem ecdsaSignatureToDer_eq (raw : Vector UInt8 64) :
    (ecdsaSignatureToDer raw : Outcome ε Bytes)
      = .ok (Der.sequence [Der.natural (raw.toList.take 32),
        Der.natural (raw.toList.drop 32)]) := by
  have hr : (raw.toList.take 32).length = 32 := by simp
  have hs : (raw.toList.drop 32).length = 32 := by simp
  have hbody := length_body_lt raw
  simp only [ecdsaSignatureToDer]
  rw [writeInteger_eq (List.ne_nil_of_length_pos (by omega)) (by omega),
    Outcome.ok_bind,
    writeInteger_eq (List.ne_nil_of_length_pos (by omega)) (by omega),
    Outcome.ok_bind, Slice.u8TryFrom_of_lt (by omega), Outcome.expect_some,
    Outcome.ok_bind, Der.sequence, List.flatten_cons, List.flatten_singleton,
    Der.tlv_of_lt 0x30 hbody]

end Written

/-! ## What is read back -/

section Read

variable {value : Bytes}

/-- The octets of a number, read back without the sign. -/
theorem integerValue_signExtend (hne : value ≠ []) :
    integerValue (Der.signExtend (Der.trimZeros value))
      = .ok (Der.trimZeros value) := by
  cases htail : Der.trimZeros value with
  | nil => exact absurd htail (Der.trimZeros_ne_nil hne)
  | cons b rest =>
    by_cases hbit : b &&& 0x80 = 0
    · rcases Der.trimZeros_eq_zero_or htail with hb | rfl
      · simp [Der.signExtend, Der.negative, integerValue, hbit, hb]
      · by_cases hb : b = 0 <;>
          simp [Der.signExtend, Der.negative, integerValue, hbit, hb]
    · simp [Der.signExtend, Der.negative, integerValue, hbit, Slice.index]

theorem readInteger_natural (hne : value ≠ []) (hlen : value.length ≤ 32)
    (rest : Bytes) :
    readInteger (Der.natural value ++ rest)
      = .ok (Der.trimZeros value, rest) := by
  have htrim := Der.length_trimZeros_le value
  have hextend := Der.length_signExtend_le (Der.trimZeros value)
  have hshort : (Der.signExtend (Der.trimZeros value)).length < 2 ^ 8 := by
    omega
  have hbad :
      (decide (32 < (Der.trimZeros value).length) ||
        (Der.trimZeros value).isEmpty) = false := by
    simp only [Bool.or_eq_false_iff, decide_eq_false_iff_not,
      List.isEmpty_eq_false_iff]
    exact ⟨by omega, Der.trimZeros_ne_nil hne⟩
  rw [Der.natural_of_lt (by omega)]
  simp only [List.cons_append, readInteger, UInt8.toNat_ofNat_of_lt' hshort,
    Slice.getTo_append, Slice.sliceFrom_append, if_true, Outcome.okOr_some,
    Outcome.ok_bind, integerValue_signExtend hne, hbad, Outcome.failIf_false]

/-- The octets of a number, copied to the end of a range of zeros. -/
theorem copyFromSlice_trimZeros {n : Nat} {v w : Vector UInt8 n}
    (pre value post : Bytes)
    (hv : v.toList = pre ++ List.replicate value.length 0 ++ post)
    (hw : w.toList = pre ++ value ++ post) :
    (Slice.copyFromSlice v
      (pre.length + value.length - (Der.trimZeros value).length)
      (pre.length + value.length) (Der.trimZeros value) :
        Outcome MtlsError (Vector UInt8 n))
      = .ok w := by
  have htrim := Der.length_trimZeros_le value
  have hn : n = pre.length + value.length + post.length := by
    have hlen := congrArg List.length hw
    simpa [Nat.add_assoc] using hlen
  have hstart : pre.length + value.length - (Der.trimZeros value).length
      = pre.length + (value.length - (Der.trimZeros value).length) := by
    omega
  have hmin : min (value.length - (Der.trimZeros value).length) value.length
      = value.length - (Der.trimZeros value).length := by
    omega
  have htake :
      v.toList.take (pre.length + value.length - (Der.trimZeros value).length)
      = pre ++
        List.replicate (value.length - (Der.trimZeros value).length) 0 := by
    rw [hv, hstart, List.append_assoc, List.take_length_add_append,
      List.take_append_of_le_length, List.take_replicate, hmin]
    simp
  have hdrop : v.toList.drop (pre.length + value.length) = post := by
    rw [hv]
    exact List.drop_left' (by simp)
  refine Slice.copyFromSlice_eq_ok (by omega) (by omega) (by omega) ?_
  rw [hw, htake, hdrop,
    List.append_assoc pre (List.replicate _ 0) (Der.trimZeros value),
    Der.replicate_append_trimZeros]

/-- The reader undoes the writer. -/
theorem ecdsaSignatureFromDer_toDer (raw : Vector UInt8 64) :
    (do
      let der ← ecdsaSignatureToDer raw
      ecdsaSignatureFromDer der) = .ok raw := by
  have hr : (raw.toList.take 32).length = 32 := by simp
  have hs : (raw.toList.drop 32).length = 32 := by simp
  have hrtrim := Der.length_trimZeros_le (raw.toList.take 32)
  have hstrim := Der.length_trimZeros_le (raw.toList.drop 32)
  have hrfit : (Der.trimZeros (raw.toList.take 32)).length ≤ 32 := by omega
  have hsfit : (Der.trimZeros (raw.toList.drop 32)).length ≤ 64 := by omega
  have hbody := length_body_lt raw
  have hsecond :=
    readInteger_natural (List.ne_nil_of_length_pos (by omega))
      (Nat.le_of_eq hs) []
  rw [List.append_nil] at hsecond
  let half : Vector UInt8 64 :=
    ⟨(raw.toList.take 32 ++ List.replicate 32 0).toArray, by simp⟩
  have hfirst : (Slice.copyFromSlice (Vector.replicate 64 0)
      (32 - (Der.trimZeros (raw.toList.take 32)).length) 32
      (Der.trimZeros (raw.toList.take 32)) :
      Outcome MtlsError (Vector UInt8 64)) = .ok half := by
    have hcopy :=
      copyFromSlice_trimZeros (v := Vector.replicate 64 0) (w := half) []
      (raw.toList.take 32) (List.replicate 32 0) (by rw [hr]; rfl) rfl
    rwa [hr] at hcopy
  have hlast :
      (Slice.copyFromSlice half
        (64 - (Der.trimZeros (raw.toList.drop 32)).length) 64
      (Der.trimZeros (raw.toList.drop 32)) :
      Outcome MtlsError (Vector UInt8 64)) = .ok raw := by
    have hcopy :=
      copyFromSlice_trimZeros (v := half) (w := raw) (raw.toList.take 32)
      (raw.toList.drop 32) [] (by rw [hs, List.append_nil]; rfl) (by simp)
    rwa [hr, hs] at hcopy
  rw [ecdsaSignatureToDer_eq, Outcome.ok_bind, Der.sequence, List.flatten_cons,
    List.flatten_singleton, Der.tlv_of_lt 0x30 hbody]
  simp only [ecdsaSignatureFromDer, Slice.splitAtChecked_two, Outcome.okOr_some,
    Outcome.ok_bind, UInt8.toNat_ofNat_of_lt' (Nat.lt_trans hbody (by decide)),
    bne_self_eq_false, Outcome.failIf_false, if_true,
    readInteger_natural (List.ne_nil_of_length_pos (by omega))
    (Nat.le_of_eq hr), hsecond, List.isEmpty_nil, Bool.not_true,
    Slice.subUsize_of_le hrfit, hfirst, Slice.subUsize_of_le hsfit, hlast]

end Read

end Wimsey.Mtls
