import Wimsey.Mtls.Ecdsa

/-!
# The DER of an ECDSA signature

What `ecdsaSignatureToDer` writes is strict DER, and `ecdsaSignatureFromDer`
reads it back to the signature.  The reader also takes the octets of an integer
that starts with a set bit, which in DER are a negative number:
`readInteger_eq_ok_iff` says what it takes, and `accepted_der_strict_iff` that
these are the only other signatures it accepts.
-/

namespace Wimsey.Mtls

open Wimsey.RustStd Wimsey.Asn1

section Writer

variable {ε : Type}

/-- The contents that the writer gives to an `INTEGER`. -/
def content (octets : Bytes) : Bytes := Der.signExtend (Der.trimZeros octets)

theorem length_content_le {octets : Bytes} (h : octets.length ≤ 32) :
    (content octets).length ≤ 33 := by
  have htrim := Der.length_trimZeros_le octets
  have hextend := Der.length_signExtend_le (Der.trimZeros octets)
  rw [content]
  omega

/-- The octets of a signature as X.509 has it: a sequence of two integers with
these contents, each with one octet for its length. -/
def signatureOctets (r s : Bytes) : Bytes :=
  0x30 :: UInt8.ofNat (r.length + s.length + 4) ::
    (0x02 :: UInt8.ofNat r.length :: r ++ 0x02 :: UInt8.ofNat s.length :: s)

theorem signatureOctets_eq {r s : Bytes} (hr : r.length ≤ 33)
    (hs : s.length ≤ 33) :
    signatureOctets r s = Der.sequence [Der.tlv 0x02 r, Der.tlv 0x02 s] := by
  have hr' : Der.tlv 0x02 r = 0x02 :: UInt8.ofNat r.length :: r :=
    Der.tlv_of_lt 0x02 (by omega)
  have hs' : Der.tlv 0x02 s = 0x02 :: UInt8.ofNat s.length :: s :=
    Der.tlv_of_lt 0x02 (by omega)
  have hlen :
      (Der.tlv 0x02 r ++ Der.tlv 0x02 s).length = r.length + s.length + 4 := by
    simp only [hr', hs', List.length_append, List.length_cons]
    omega
  rw [Der.sequence, List.flatten_cons, List.flatten_singleton,
    Der.tlv_of_lt 0x30 (by omega), hlen, hr', hs']
  rfl

/-- The writer writes the octets of the two contents. -/
theorem ecdsaSignatureToDer_eq_octets (raw : Vector UInt8 64) :
    (ecdsaSignatureToDer raw : Outcome ε Bytes)
      = .ok (signatureOctets (content (raw.toList.take 32))
        (content (raw.toList.drop 32))) := by
  rw [ecdsaSignatureToDer_eq, signatureOctets_eq (length_content_le (by simp))
    (length_content_le (by simp))]
  rfl

end Writer

/-! ## What is read as an integer -/

theorem integerValue_of_head {octets : Bytes}
    (h : ∀ rest, octets = 0x00 :: rest → rest = []) :
    integerValue octets = .ok octets := by
  cases octets with
  | nil => rfl
  | cons b tail =>
    rw [integerValue]
    split
    · rename_i hb
      subst hb
      obtain rfl := h tail rfl
      rfl
    · rfl

theorem integerValue_zero_cons (c : UInt8) (rest : Bytes) :
    integerValue (0x00 :: c :: rest)
      = if Der.negative (c :: rest) = true then .ok (c :: rest)
        else .err .invalidSignature := by
  rfl

theorem integerValue_eq_ok_iff {octets number : Bytes} :
    integerValue octets = .ok number ↔
      (number = octets ∧ ∀ rest, octets = 0x00 :: rest → rest = []) ∨
        octets = 0x00 :: number ∧ Der.negative number = true := by
  by_cases hhead : ∀ rest, octets = 0x00 :: rest → rest = []
  · rw [integerValue_of_head hhead, Outcome.ok.injEq]
    constructor
    · rintro rfl
      exact Or.inl ⟨rfl, hhead⟩
    · rintro (⟨rfl, _⟩ | ⟨rfl, hnegative⟩)
      · rfl
      · obtain rfl := hhead number rfl
        cases hnegative
  · obtain ⟨tail, rfl, hne⟩ : ∃ tail, octets = 0x00 :: tail ∧ tail ≠ [] := by
      simpa using hhead
    obtain ⟨c, rest, rfl⟩ := List.exists_cons_of_ne_nil hne
    rw [integerValue_zero_cons]
    constructor
    · intro h
      split at h
      · rename_i hnegative
        obtain rfl := Outcome.ok.inj h
        exact Or.inr ⟨rfl, hnegative⟩
      · cases h
    · rintro (⟨_, hhead'⟩ | ⟨hcons, hnegative⟩)
      · exact absurd hhead' hhead
      · obtain rfl := (List.cons.inj hcons).2
        rw [if_pos hnegative]

theorem integerValue_ne_panic (octets : Bytes) :
    integerValue octets ≠ .panic := by
  by_cases hhead : ∀ rest, octets = 0x00 :: rest → rest = []
  · rw [integerValue_of_head hhead]
    exact nofun
  · obtain ⟨tail, rfl, hne⟩ : ∃ tail, octets = 0x00 :: tail ∧ tail ≠ [] := by
      simpa using hhead
    obtain ⟨c, rest, rfl⟩ := List.exists_cons_of_ne_nil hne
    rw [integerValue_zero_cons]
    split <;> exact nofun

/-- The reader of an integer takes contents with one octet for their length, of
either sign. -/
theorem readInteger_eq_ok_iff {input number rest : Bytes} :
    readInteger input = .ok (number, rest) ↔
      ∃ octets, input = 0x02 :: UInt8.ofNat octets.length :: octets ++ rest ∧
        integerValue octets = .ok number ∧ number ≠ [] ∧
        number.length ≤ 32 := by
  constructor
  · intro h
    unfold readInteger at h
    split at h
    · rename_i tag len body
      split at h
      · rename_i htag
        simp only [Outcome.bind_eq_ok_iff, Outcome.okOr_eq_ok_iff,
          Outcome.failIf_eq_ok_iff, Slice.getTo_eq_some_iff,
          Slice.sliceFrom_eq_ok_iff, Bool.or_eq_false_iff,
          decide_eq_false_iff_not, Nat.not_lt, List.isEmpty_eq_false_iff,
          exists_const] at h
        obtain ⟨octets, ⟨hlen, after, rfl⟩, input', ⟨octets', hlen', hsplit⟩,
          number', hnumber, ⟨hshort, hne⟩, hresult⟩ := h
        obtain ⟨rfl, rfl⟩ := Prod.mk.inj (Outcome.ok.inj hresult)
        obtain ⟨_, rfl⟩ := List.append_inj hsplit (hlen.trans hlen'.symm)
        refine ⟨octets, ?_, hnumber, hne, hshort⟩
        rw [htag, hlen, UInt8.ofNat_toNat]
        rfl
      · cases h
    · cases h
  · rintro ⟨octets, rfl, hnumber, hne, hshort⟩
    have hlen : octets.length < 2 ^ 8 := by
      rcases integerValue_eq_ok_iff.1 hnumber with ⟨rfl, _⟩ | ⟨rfl, _⟩
      · omega
      · rw [List.length_cons]
        omega
    have hbad : (decide (32 < number.length) || number.isEmpty) = false := by
      simp only [Bool.or_eq_false_iff, decide_eq_false_iff_not,
        List.isEmpty_eq_false_iff]
      exact ⟨by omega, hne⟩
    simp only [List.cons_append, readInteger, UInt8.toNat_ofNat_of_lt' hlen,
      Slice.getTo_append, Slice.sliceFrom_append, if_true, Outcome.okOr_some,
      Outcome.ok_bind, hnumber, hbad, Outcome.failIf_false]

theorem readInteger_ne_panic (input : Bytes) : readInteger input ≠ .panic := by
  unfold readInteger
  split
  · split
    · apply Outcome.bind_ne_panic Outcome.okOr_ne_panic
      intro octets hoctets
      -- The slice starts where `get` has found the end of the contents.
      obtain ⟨hlen, after, rfl⟩ :=
        Slice.getTo_eq_some_iff.1 (Outcome.okOr_eq_ok_iff.1 hoctets)
      rw [← hlen, Slice.sliceFrom_append, Outcome.ok_bind]
      apply Outcome.bind_ne_panic (integerValue_ne_panic octets)
      intro number _
      exact Outcome.bind_ne_panic Outcome.failIf_ne_panic fun _ _ => nofun
    · exact nofun
  · exact nofun

/-! ## What is read as a signature -/

/-- A number of at most 32 octets, with zeros before it. -/
def padded (number : Bytes) : Bytes :=
  List.replicate (32 - number.length) 0 ++ number

theorem length_padded {number : Bytes} (h : number.length ≤ 32) :
    (padded number).length = 32 := by
  rw [padded, List.length_append, List.length_replicate]
  omega

/-- The reader takes a sequence of two integers, and puts the two numbers at the
ends of the two halves. -/
theorem octets_of_ecdsaSignatureFromDer {der : Bytes} {raw : Vector UInt8 64}
    (h : ecdsaSignatureFromDer der = .ok raw) :
    ∃ a b r s, der = signatureOctets a b ∧ integerValue a = .ok r ∧
      integerValue b = .ok s ∧
      (r ≠ [] ∧ r.length ≤ 32) ∧ (s ≠ [] ∧ s.length ≤ 32) ∧
      raw.toList.take 32 = padded r ∧ raw.toList.drop 32 = padded s := by
  rw [ecdsaSignatureFromDer, Outcome.bind_eq_ok_iff] at h
  obtain ⟨⟨header, body⟩, hsplit, h⟩ := h
  rw [Outcome.okOr_eq_ok_iff, Slice.splitAtChecked_eq_some_iff] at hsplit
  obtain ⟨htwo, rfl⟩ := hsplit
  dsimp only at h
  split at h
  · rename_i tag len
    split at h
    · rename_i htag
      simp only [Outcome.bind_eq_ok_iff, Outcome.failIf_eq_ok_iff,
        bne_eq_false_iff_eq, Bool.not_eq_false', List.isEmpty_iff,
        Slice.subUsize_eq_ok_iff, Slice.copyFromSlice_eq_ok_iff,
        exists_const] at h
      obtain ⟨hlen, ⟨r, afterR⟩, hr, ⟨s, afterS⟩, hs, hend, _, ⟨_, rfl⟩, half,
        ⟨_, hhalf⟩, _, ⟨_, rfl⟩, _, hraw⟩ := h
      obtain ⟨a, rfl, ha, hrne, hrlen⟩ := readInteger_eq_ok_iff.1 hr
      obtain ⟨b, rfl, hb, hsne, hslen⟩ := readInteger_eq_ok_iff.1 hs
      obtain rfl : afterS = [] := hend
      have hhalf' : half.toList = padded r ++ List.replicate 32 0 := by
        have hzeros : (Vector.replicate 64 (0 : UInt8)).toList
            = List.replicate 64 0 := rfl
        have hmin : min (32 - r.length) 64 = 32 - r.length := by omega
        rw [hhalf, hzeros, List.take_replicate, List.drop_replicate, hmin]
        rfl
      have hhalves : raw.toList = padded r ++ padded s := by
        have hlenR := length_padded hrlen
        have htake :
            (padded r ++ List.replicate 32 (0 : UInt8)).take (64 - s.length)
            = padded r ++ List.replicate (32 - s.length) 0 := by
          have hsub : 64 - s.length - 32 = 32 - s.length := by omega
          have hmin : min (32 - s.length) 32 = 32 - s.length := by omega
          rw [List.take_append, List.take_of_length_le (by omega), hlenR, hsub,
            List.take_replicate, hmin]
        have hdrop : (padded r ++ List.replicate 32 (0 : UInt8)).drop 64
            = [] := by
          apply List.drop_of_length_le
          rw [List.length_append, List.length_replicate, hlenR]
        rw [hraw, hhalf', htake, hdrop, List.append_nil, List.append_assoc]
        rfl
      refine ⟨a, b, r, s, ?_, ha, hb, ⟨hrne, hrlen⟩, ⟨hsne, hslen⟩, ?_, ?_⟩
      · have hbody : len = UInt8.ofNat (a.length + b.length + 4) := by
          rw [← UInt8.ofNat_toNat (x := len), ← hlen]
          congr 1
          simp only [List.length_append, List.length_cons, List.length_nil]
          omega
        rw [htag, hbody, List.append_nil]
        rfl
      · rw [hhalves, List.take_left' (length_padded hrlen)]
      · rw [hhalves, List.drop_left' (length_padded hrlen)]
    · cases h
  · cases h

theorem ecdsaSignatureFromDer_ne_panic (der : Bytes) :
    ecdsaSignatureFromDer der ≠ .panic := by
  rw [ecdsaSignatureFromDer]
  apply Outcome.bind_ne_panic Outcome.okOr_ne_panic
  rintro ⟨header, body⟩ _
  dsimp only
  split
  · split
    · apply Outcome.bind_ne_panic Outcome.failIf_ne_panic
      intro _ _
      apply Outcome.bind_ne_panic (readInteger_ne_panic body)
      rintro ⟨r, afterR⟩ hr
      obtain ⟨_, _, _, _, hrlen⟩ := readInteger_eq_ok_iff.1 hr
      apply Outcome.bind_ne_panic (readInteger_ne_panic afterR)
      rintro ⟨s, afterS⟩ hs
      obtain ⟨_, _, _, _, hslen⟩ := readInteger_eq_ok_iff.1 hs
      apply Outcome.bind_ne_panic Outcome.failIf_ne_panic
      intro _ _
      -- The numbers fit in their halves, so both ranges are in the array.
      dsimp only
      rw [Slice.subUsize_of_le hrlen, Outcome.ok_bind, Slice.copyFromSlice,
        dif_pos (by omega), Outcome.ok_bind, Slice.subUsize_of_le (by omega),
        Outcome.ok_bind, Slice.copyFromSlice, dif_pos (by omega)]
      simp
    · simp
  · simp

/-! ## What is accepted -/

/-- Contents that are read as a number are minimal. -/
theorem minimal_of_integerValue {octets number : Bytes}
    (h : integerValue octets = .ok number) (hne : number ≠ []) :
    Der.Minimal octets := by
  rcases integerValue_eq_ok_iff.1 h with ⟨rfl, hhead⟩ | ⟨rfl, hnegative⟩
  · exact ⟨hne, fun rest hrest => Or.inl (hhead rest hrest)⟩
  · refine ⟨by simp, fun rest hrest => Or.inr ?_⟩
    rwa [← (List.cons.inj hrest).2]

/-- A number that was read is written with the contents it was read from exactly
when these do not start with a set bit. -/
theorem content_padded_eq_iff {octets number : Bytes}
    (h : integerValue octets = .ok number) (hne : number ≠ []) :
    content (padded number) = octets ↔ Der.negative octets = false := by
  rw [content, padded, Der.trimZeros_replicate_append hne]
  rcases integerValue_eq_ok_iff.1 h with ⟨rfl, hhead⟩ | ⟨rfl, hnegative⟩
  · rw [Der.trimZeros_of_head hhead, Der.signExtend]
    split
    · rename_i hnegative
      simp [hnegative]
    · rename_i hnegative
      simpa using hnegative
  · have htrim : Der.trimZeros number = number := by
      apply Der.trimZeros_of_head
      rintro rest rfl
      cases hnegative
    rw [htrim, Der.signExtend, if_pos hnegative]
    simp [Der.negative]

theorem length_of_integerValue {octets number : Bytes}
    (h : integerValue octets = .ok number) (hlen : number.length ≤ 32) :
    octets.length ≤ 33 := by
  rcases integerValue_eq_ok_iff.1 h with ⟨rfl, _⟩ | ⟨rfl, _⟩
  · omega
  · rw [List.length_cons]
    omega

theorem signatureOctets_inj {a b a' b' : Bytes} (ha : a.length ≤ 33)
    (hb : b.length ≤ 33) (ha' : a'.length ≤ 33) (hb' : b'.length ≤ 33)
    (h : signatureOctets a b = signatureOctets a' b') :
    a = a' ∧ b = b' := by
  have hbody : ∀ {c d : Bytes}, c.length ≤ 33 → d.length ≤ 33 →
      0x02 :: UInt8.ofNat c.length :: c ++ 0x02 :: UInt8.ofNat d.length :: d
        = Der.tlv 0x02 c ++ (Der.tlv 0x02 d ++ []) := by
    intro c d hc hd
    rw [Der.tlv_of_lt 0x02 (by omega), Der.tlv_of_lt 0x02 (by omega),
      List.append_nil]
  have htail := (List.cons.inj (List.cons.inj h).2).2
  rw [hbody ha hb, hbody ha' hb'] at htail
  obtain ⟨hfirst, hrest⟩ := Der.tlv_append_inj (by omega) (by omega) htail
  exact ⟨hfirst, (Der.tlv_append_inj (by omega) (by omega) hrest).1⟩

/-- The encoding is lossless.  The writer gives every signature the sequence of
its two numbers in minimal contents without a sign, each with one octet for its
length, and the reader reads the signature back.  The reader never panics. -/
theorem ecdsa_der_lossless :
    (∀ raw : Vector UInt8 64, ∃ der,
      (ecdsaSignatureToDer raw : Outcome MtlsError Bytes) = .ok der ∧
      ecdsaSignatureFromDer der = .ok raw ∧
      ∃ r s, der = 0x30 :: UInt8.ofNat (r.length + s.length + 4) ::
          (0x02 :: UInt8.ofNat r.length :: r ++
            0x02 :: UInt8.ofNat s.length :: s) ∧
        r.length + s.length + 4 ≤ 70 ∧
        (Der.Minimal r ∧ Der.negative r = false ∧
          Der.value r = Der.value (raw.toList.take 32)) ∧
        Der.Minimal s ∧ Der.negative s = false ∧
        Der.value s = Der.value (raw.toList.drop 32)) ∧
    ∀ der, ecdsaSignatureFromDer der ≠ .panic := by
  refine ⟨fun raw => ?_, ecdsaSignatureFromDer_ne_panic⟩
  have hread := ecdsaSignatureFromDer_toDer raw
  rw [ecdsaSignatureToDer_eq_octets, Outcome.ok_bind] at hread
  have hlenR : (content (raw.toList.take 32)).length ≤ 33 :=
    length_content_le (by simp)
  have hlenS : (content (raw.toList.drop 32)).length ≤ 33 :=
    length_content_le (by simp)
  have hinteger : ∀ octets : Bytes, octets ≠ [] → Der.Minimal (content octets) ∧
      Der.negative (content octets) = false ∧
      Der.value (content octets) = Der.value octets := by
    intro octets hne
    exact ⟨Der.minimal_signExtend hne,
      Der.negative_signExtend _, by simp [content]⟩
  refine ⟨_, ecdsaSignatureToDer_eq_octets raw, hread, _, _, rfl, by omega,
    hinteger _ ?_, hinteger _ ?_⟩
  · exact List.ne_nil_of_length_pos (by simp)
  · exact List.ne_nil_of_length_pos (by simp)

/-- A signature that is accepted is a sequence of two integers in minimal
contents, without anything else.  It is what the writer makes of the signature
that was read exactly when neither integer is negative. -/
theorem accepted_der_strict_iff (der : Bytes) (raw : Vector UInt8 64)
    (h : ecdsaSignatureFromDer der = .ok raw) :
    ∃ a b, der = 0x30 :: UInt8.ofNat (a.length + b.length + 4) ::
        (0x02 :: UInt8.ofNat a.length :: a ++
          0x02 :: UInt8.ofNat b.length :: b) ∧
      (Der.Minimal a ∧ a.length ≤ 33) ∧ (Der.Minimal b ∧ b.length ≤ 33) ∧
      ((ecdsaSignatureToDer raw : Outcome MtlsError Bytes) = .ok der ↔
        Der.negative a = false ∧ Der.negative b = false) := by
  obtain ⟨a, b, r, s, rfl, ha, hb, ⟨hrne, hrlen⟩, ⟨hsne, hslen⟩,
      hfirst, hlast⟩ :=
    octets_of_ecdsaSignatureFromDer h
  have halen := length_of_integerValue ha hrlen
  have hblen := length_of_integerValue hb hslen
  refine ⟨a, b, rfl, ⟨minimal_of_integerValue ha hrne, halen⟩,
    ⟨minimal_of_integerValue hb hsne, hblen⟩, ?_⟩
  rw [ecdsaSignatureToDer_eq_octets, hfirst, hlast, Outcome.ok.injEq,
    ← content_padded_eq_iff ha hrne, ← content_padded_eq_iff hb hsne]
  constructor
  · intro heq
    exact signatureOctets_inj
      (length_content_le (Nat.le_of_eq (length_padded hrlen)))
      (length_content_le (Nat.le_of_eq (length_padded hslen))) halen hblen heq
  · intro ⟨hreq, hseq⟩
    rw [hreq, hseq]

namespace Example.Strict

/-- The signature with these two numbers. -/
def signature (r s : UInt8) : Vector UInt8 64 :=
  ⟨(List.replicate 31 0 ++ r :: (List.replicate 31 0 ++ [s])).toArray, by simp⟩

theorem accepted_der_strict_iff_example :
    ∃ a b, ([0x30, 0x06, 0x02, 0x01, 0x01, 0x02, 0x01, 0x01] : Bytes)
        = 0x30 :: UInt8.ofNat (a.length + b.length + 4) ::
          (0x02 :: UInt8.ofNat a.length :: a ++
            0x02 :: UInt8.ofNat b.length :: b) ∧
      Der.negative a = false ∧ Der.negative b = false := by
  have hread : ecdsaSignatureFromDer
      [0x30, 0x06, 0x02, 0x01, 0x01, 0x02, 0x01, 0x01]
      = .ok (signature 0x01 0x01) := by
    decide +kernel
  have hwritten :
      (ecdsaSignatureToDer (signature 0x01 0x01) : Outcome MtlsError Bytes)
      = .ok [0x30, 0x06, 0x02, 0x01, 0x01, 0x02, 0x01, 0x01] := by
    decide +kernel
  obtain ⟨a, b, hder, _, _, hiff⟩ := accepted_der_strict_iff _ _ hread
  exact ⟨a, b, hder, hiff.1 hwritten⟩

/-- The first integer is -128. -/
def negativeDer : Bytes := [0x30, 0x06, 0x02, 0x01, 0x80, 0x02, 0x01, 0x01]

/-- A negative integer is read as the number without a sign, which is written
with a zero. -/
theorem negative_integer_accepted :
    ecdsaSignatureFromDer negativeDer = .ok (signature 0x80 0x01) ∧
      (ecdsaSignatureToDer (signature 0x80 0x01) : Outcome MtlsError Bytes)
        = .ok [0x30, 0x07, 0x02, 0x02, 0x00, 0x80, 0x02, 0x01, 0x01] ∧
      (ecdsaSignatureToDer (signature 0x80 0x01) : Outcome MtlsError Bytes)
        ≠ .ok negativeDer := by
  decide +kernel

end Example.Strict

end Wimsey.Mtls
