import Mathlib

/-!
# DER

The distinguished encoding of the ASN.1 values that X.509 is made of: octets
with a tag and a length, sequences, object identifiers, bit strings and natural
numbers.

A natural number is given by its big-endian octets, however many zeros they
start with.  `trimZeros` leaves the zeros out, and `signExtend` puts one back
where the first bit would read as a sign.  Nothing is lost:
`replicate_append_trimZeros`, and the contents that are written are the shortest
of their number and have no sign: `minimal_signExtend`, `negative_signExtend`.
-/

namespace Wimsey.Asn1.Der

/-! ## Tags and lengths -/

/-- The octets of a length: one of them below 128, and otherwise their number
and the octets. -/
def lengthOctets (n : Nat) : List UInt8 :=
  if n < 0x80 then [UInt8.ofNat n]
  else UInt8.ofNat (0x80 + (Nat.digits 256 n).length) ::
    ((Nat.digits 256 n).reverse.map UInt8.ofNat)

/-- A tag, a length and the contents. -/
def tlv (tag : UInt8) (content : List UInt8) : List UInt8 :=
  tag :: (lengthOctets content.length ++ content)

/-- The contents of less than 128 octets have one octet for the length. -/
theorem tlv_of_lt {content : List UInt8} (tag : UInt8)
    (h : content.length < 0x80) :
    tlv tag content = tag :: UInt8.ofNat content.length :: content := by
  rw [tlv, lengthOctets, if_pos h]
  rfl

/-- `SEQUENCE`. -/
def sequence (items : List (List UInt8)) : List UInt8 := tlv 0x30 items.flatten

/-- `BIT STRING`, without unused bits. -/
def bitString (octets : List UInt8) : List UInt8 := tlv 0x03 (0x00 :: octets)

/-- A sequence of something that is encoded already and a bit string, both
short. -/
theorem sequence_bitString_of_lt (head octets : List UInt8)
    (h : head.length + octets.length + 3 < 0x80) :
    sequence [head, bitString octets]
      = 0x30 :: UInt8.ofNat (head.length + octets.length + 3) ::
          (head ++ 0x03 :: UInt8.ofNat (octets.length + 1) :: 0x00
            :: octets) := by
  have hbits : bitString octets = 0x03 :: UInt8.ofNat (octets.length + 1)
      :: 0x00 :: octets :=
    tlv_of_lt 0x03 (by rw [List.length_cons]; omega)
  have hlen : [head, bitString octets].flatten.length
      = head.length + octets.length + 3 := by
    simp [hbits]
    omega
  rw [sequence, tlv_of_lt 0x30 (by omega), hlen, hbits, List.flatten_cons,
    List.flatten_singleton]

/-! ## Object identifiers -/

/-- The octets of one arc in base 128, all but the last with the first bit
set. -/
def arcOctets (n : Nat) : List UInt8 :=
  match Nat.digits 128 n with
  | [] => [0]
  | d :: ds =>
      (ds.map fun d => UInt8.ofNat (0x80 + d)).reverse ++ [UInt8.ofNat d]

/-- The octets of an object identifier.  The first two arcs share theirs. -/
def oidContent : List Nat → List UInt8
  | a :: b :: rest => arcOctets (40 * a + b) ++ rest.flatMap arcOctets
  | _ => []

/-- `OBJECT IDENTIFIER`. -/
def oid (arcs : List Nat) : List UInt8 := tlv 0x06 (oidContent arcs)

/-! ## Natural numbers -/

/-- The octets without the zeros at the start.  The last octet stays. -/
def trimZeros : List UInt8 → List UInt8
  | [] => []
  | [b] => [b]
  | b :: c :: rest => if b = 0 then trimZeros (c :: rest) else b :: c :: rest

/-- The first bit of the octets is set. -/
def negative : List UInt8 → Bool
  | [] => false
  | b :: _ => b &&& 0x80 != 0

/-- The octets of a number that is not negative. -/
def signExtend (octets : List UInt8) : List UInt8 :=
  if negative octets then 0x00 :: octets else octets

/-- `INTEGER`, of the natural number with these octets. -/
def natural (octets : List UInt8) : List UInt8 :=
  tlv 0x02 (signExtend (trimZeros octets))

theorem trimZeros_ne_nil {octets : List UInt8} (h : octets ≠ []) :
    trimZeros octets ≠ [] := by
  fun_induction trimZeros octets with
  | case1 => exact h
  | case2 b => exact h
  | case3 c rest ih => exact ih (by simp)
  | case4 b c rest hb => exact h

theorem length_trimZeros_le (octets : List UInt8) :
    (trimZeros octets).length ≤ octets.length := by
  fun_induction trimZeros octets with
  | case1 => simp
  | case2 b => simp
  | case3 c rest ih =>
    simp only [List.length_cons] at ih ⊢
    omega
  | case4 b c rest hb => simp

/-- What is left out are zeros. -/
theorem replicate_append_trimZeros (octets : List UInt8) :
    List.replicate (octets.length - (trimZeros octets).length) 0 ++
        trimZeros octets
      = octets := by
  fun_induction trimZeros octets with
  | case1 => rfl
  | case2 b => simp
  | case3 c rest ih =>
    have hle := length_trimZeros_le (c :: rest)
    have hlen : (0 :: c :: rest).length - (trimZeros (c :: rest)).length
        = (c :: rest).length - (trimZeros (c :: rest)).length + 1 := by
      simp only [List.length_cons] at hle ⊢
      omega
    rw [hlen, List.replicate_succ, List.cons_append, ih]
  | case4 b c rest hb => simp

/-- What is left does not start with a zero, unless it is one. -/
theorem trimZeros_eq_zero_or {b : UInt8} {octets rest : List UInt8}
    (h : trimZeros octets = b :: rest) : b ≠ 0 ∨ rest = [] := by
  fun_induction trimZeros octets with
  | case1 => cases h
  | case2 b' =>
    obtain ⟨_, rfl⟩ := List.cons.inj h
    exact Or.inr rfl
  | case3 c rest' ih => exact ih h
  | case4 b' c rest' hb =>
    obtain ⟨rfl, _⟩ := List.cons.inj h
    exact Or.inl hb

theorem length_signExtend_le (octets : List UInt8) :
    (signExtend octets).length ≤ octets.length + 1 := by
  rw [signExtend]
  split <;> simp

/-- A number of less than 127 octets has one octet for the length. -/
theorem natural_of_lt {octets : List UInt8} (h : octets.length + 1 < 0x80) :
    natural octets = 0x02
      :: UInt8.ofNat (signExtend (trimZeros octets)).length ::
      signExtend (trimZeros octets) := by
  have htrim := length_trimZeros_le octets
  have hextend := length_signExtend_le (trimZeros octets)
  exact tlv_of_lt 0x02 (by omega)

/-! ## Minimal contents -/

/-- The number with these big-endian octets. -/
def value (octets : List UInt8) : Nat :=
  octets.foldl (fun n b => n * 256 + b.toNat) 0

@[simp] theorem value_zero_cons (octets : List UInt8) :
    value (0x00 :: octets) = value octets := rfl

@[simp] theorem value_trimZeros (octets : List UInt8) :
    value (trimZeros octets) = value octets := by
  fun_induction trimZeros octets with
  | case1 => rfl
  | case2 b => rfl
  | case3 c rest ih => rw [ih, value_zero_cons]
  | case4 b c rest hb => rfl

@[simp] theorem value_signExtend (octets : List UInt8) :
    value (signExtend octets) = value octets := by
  rw [signExtend]
  split
  · exact value_zero_cons octets
  · rfl

/-- The octets are the shortest contents of an `INTEGER`: a zero at the start
stands alone, or keeps the number from reading as negative. -/
structure Minimal (octets : List UInt8) : Prop where
  ne_nil : octets ≠ []
  zero : ∀ rest, octets = 0x00 :: rest → rest = [] ∨ negative rest = true

theorem negative_signExtend (octets : List UInt8) :
    negative (signExtend octets) = false := by
  rw [signExtend]
  split
  · rfl
  · rename_i h
    exact Bool.eq_false_iff.2 h

/-- Trimmed octets, with the zero that they need, are minimal. -/
theorem minimal_signExtend {octets : List UInt8} (hne : octets ≠ []) :
    Minimal (signExtend (trimZeros octets)) := by
  rw [signExtend]
  split
  · rename_i hnegative
    refine ⟨by simp, fun rest h => Or.inr ?_⟩
    rwa [← (List.cons.inj h).2]
  · refine ⟨trimZeros_ne_nil hne, fun rest h => Or.inl ?_⟩
    exact (trimZeros_eq_zero_or h).resolve_left fun hzero => hzero rfl

/-- Octets that do not start with a zero, unless it is one, have nothing to
trim. -/
theorem trimZeros_of_head {octets : List UInt8}
    (h : ∀ rest, octets = 0x00 :: rest → rest = []) :
    trimZeros octets = octets := by
  fun_induction trimZeros octets with
  | case1 => rfl
  | case2 b => rfl
  | case3 c rest ih => exact absurd (h _ rfl) (by simp)
  | case4 b c rest hb => rfl

/-- Zeros before a number are trimmed. -/
theorem trimZeros_replicate_append {octets : List UInt8} (hne : octets ≠ [])
    (k : Nat) :
    trimZeros (List.replicate k 0 ++ octets) = trimZeros octets := by
  induction k with
  | zero => rfl
  | succ k ih =>
    obtain ⟨c, rest, hcons⟩ : ∃ c rest, List.replicate k 0 ++
        octets = c :: rest :=
      List.exists_cons_of_ne_nil (by simp [hne])
    rw [List.replicate_succ, List.cons_append, hcons, trimZeros, if_pos rfl,
      ← hcons, ih]

/-- A short value is read off its octets, with what follows it. -/
theorem tlv_append_inj {tag : UInt8} {a a' rest rest' : List UInt8}
    (ha : a.length < 0x80) (ha' : a'.length < 0x80)
    (h : tlv tag a ++ rest = tlv tag a' ++ rest') :
    a = a' ∧ rest = rest' := by
  rw [tlv_of_lt tag ha, tlv_of_lt tag ha'] at h
  obtain ⟨hlen, happend⟩ := List.cons.inj (List.cons.inj h).2
  have hlength : a.length = a'.length := by
    have hnat := congrArg UInt8.toNat hlen
    rwa [UInt8.toNat_ofNat_of_lt' (Nat.lt_trans ha (by decide)),
      UInt8.toNat_ofNat_of_lt' (Nat.lt_trans ha' (by decide))] at hnat
  exact List.append_inj happend hlength

end Wimsey.Asn1.Der
