import Wimsey.RustStd.Str

/-!
# Base64

An `Engine` is one configuration of a base64 codec.  The code that uses one
relies on three facts, which `Engine.Lawful` collects: decoding undoes encoding,
also into a buffer that is large enough, and encoded text stays within an
alphabet.

`engine` is the codec of RFC 4648, with or without padding, over any alphabet of
64 characters.  Its decoder accepts canonical text only: it reads the digits and
then requires the text to be the encoding of what it read.
-/

namespace Wimsey.Codec

open Wimsey.RustStd

/-! ## Engines -/

/-- A base64 codec. -/
structure Engine where
  encode : Bytes → Str
  decode : Str → Option Bytes
  /-- Decode into a buffer of the given length. -/
  decodeSlice : Str → Nat → Option Bytes

/-- What users of a codec rely on.  A buffer may have to be up to two bytes
longer than the decoded text, since its length is checked against an
estimate. -/
structure Engine.Lawful (e : Engine) (alphabet : List Char) : Prop where
  decode_encode (b : Bytes) : e.decode (e.encode b) = some b
  decodeSlice_encode (b : Bytes) (cap : Nat) (h : b.length + 2 ≤ cap) :
    e.decodeSlice (e.encode b) cap = some b
  mem_alphabet (b : Bytes) (c : Char) (h : c ∈ e.encode b) : c ∈ alphabet

/-- The character is in no text that decodes. -/
def Engine.Rejects (e : Engine) (c : Char) : Prop :=
  ∀ text, c ∈ text → e.decode text = none

/-- The texts that decode are the encoded ones. -/
def Engine.Canonical (e : Engine) : Prop :=
  ∀ text b, e.decode text = some b → text = e.encode b

/-- The two engines of `base64::engine::general_purpose` in use. -/
class Base64 where
  STANDARD : Engine
  URL_SAFE_NO_PAD : Engine

theorem Engine.Lawful.encode_injective {e : Engine} {alphabet : List Char}
    (h : e.Lawful alphabet) : Function.Injective e.encode := by
  intro a b hab
  have hdecode := congrArg e.decode hab
  rw [h.decode_encode, h.decode_encode] at hdecode
  exact Option.some.inj hdecode

/-- Three encoded texts joined by dots are cut at the two dots. -/
theorem Engine.Lawful.splitOn_dots {e : Engine} {alphabet : List Char}
    (h : e.Lawful alphabet) (hdot : '.' ∉ alphabet) (a b c : Bytes) :
    (e.encode a ++ '.' :: e.encode b ++ '.' :: e.encode c).splitOn '.'
      = [e.encode a, e.encode b, e.encode c] := by
  have hnot : ∀ b, '.' ∉ e.encode b :=
    fun b hmem => hdot (h.mem_alphabet b _ hmem)
  rw [List.append_assoc, List.cons_append, Str.splitOn_append_cons (hnot a),
    Str.splitOn_append_cons (hnot b), Str.splitOn_of_not_mem (hnot c)]

/-! ## RFC 4648 -/

namespace Rfc4648

/-- The digits of the bytes, without padding.  The last group has two digits for
one byte and three for two. -/
def digits : Bytes → List Nat
  | [] => []
  | [a] => [a.toNat / 4, a.toNat % 4 * 16]
  | [a, b] => [a.toNat / 4, a.toNat % 4 * 16 + b.toNat / 16, b.toNat % 16 * 4]
  | a :: b :: c :: rest =>
      a.toNat / 4 :: (a.toNat % 4 * 16 + b.toNat / 16)
        :: (b.toNat % 16 * 4 + c.toNat / 64) ::
        c.toNat % 64 :: digits rest

/-- The bytes of the digits. -/
def bytes : List Nat → Option Bytes
  | [] => some []
  | [_] => none
  | [u, v] => some [UInt8.ofNat (u * 4 + v / 16)]
  | [u, v, w] =>
      some [UInt8.ofNat (u * 4 + v / 16), UInt8.ofNat (v % 16 * 16 + w / 4)]
  | u :: v :: w :: x :: rest =>
      (bytes rest).map fun tail =>
        UInt8.ofNat (u * 4 + v / 16) :: UInt8.ofNat (v % 16 * 16 + w / 4) ::
          UInt8.ofNat (w % 4 * 64 + x) :: tail

theorem digits_lt (b : Bytes) : ∀ d ∈ digits b, d < 64 := by
  fun_induction digits b with
  | case1 => simp
  | case2 a =>
    have ha := a.toNat_lt
    simp only [List.forall_mem_cons, List.not_mem_nil, false_implies,
      implies_true, and_true]
    omega
  | case3 a b =>
    have ha := a.toNat_lt
    have hb := b.toNat_lt
    simp only [List.forall_mem_cons, List.not_mem_nil, false_implies,
      implies_true, and_true]
    omega
  | case4 a b c rest ih =>
    have ha := a.toNat_lt
    have hb := b.toNat_lt
    have hc := c.toNat_lt
    simp only [List.forall_mem_cons]
    exact ⟨by omega, by omega, by omega, by omega, ih⟩

theorem bytes_digits (b : Bytes) : bytes (digits b) = some b := by
  fun_induction digits b with
  | case1 => rfl
  | case2 a =>
    have ha := a.toNat_lt
    have h : a.toNat / 4 * 4 + a.toNat % 4 * 16 / 16 = a.toNat := by omega
    simp only [bytes, h, UInt8.ofNat_toNat]
  | case3 a b =>
    have ha := a.toNat_lt
    have hb := b.toNat_lt
    have h : a.toNat / 4 * 4 + (a.toNat % 4 * 16 + b.toNat / 16) / 16
        = a.toNat := by omega
    have h' : (a.toNat % 4 * 16 + b.toNat / 16) % 16 * 16 + b.toNat % 16 * 4 / 4
        = b.toNat := by
      omega
    simp only [bytes, h, h', UInt8.ofNat_toNat]
  | case4 a b c rest ih =>
    have ha := a.toNat_lt
    have hb := b.toNat_lt
    have hc := c.toNat_lt
    have h : a.toNat / 4 * 4 + (a.toNat % 4 * 16 + b.toNat / 16) / 16
        = a.toNat := by omega
    have h' :
        (a.toNat % 4 * 16 + b.toNat / 16) % 16 * 16
          + (b.toNat % 16 * 4 + c.toNat / 64) / 4
        = b.toNat := by omega
    have h'' : (b.toNat % 16 * 4 + c.toNat / 64) % 4 * 64 + c.toNat % 64
        = c.toNat := by omega
    simp only [bytes, ih, Option.map_some, h, h', h'', UInt8.ofNat_toNat]

/-- The padding of the last group. -/
def padding (b : Bytes) : Str :=
  match b.length % 3 with
  | 1 => ['=', '=']
  | 2 => ['=']
  | _ => []

variable (alphabet : List Char) (pad : Bool)

def encode (b : Bytes) : Str :=
  (digits b).map (fun d => alphabet.getD d '=') ++ if pad then padding b else []

def decode (s : Str) : Option Bytes := do
  let b ← bytes ((s.takeWhile (· ≠ '=')).map alphabet.idxOf)
  if encode alphabet pad b = s then some b else none

/-- The codec of RFC 4648 over an alphabet. -/
def engine : Engine where
  encode := encode alphabet pad
  decode := decode alphabet pad
  decodeSlice s cap := (decode alphabet pad s).filter (·.length ≤ cap)

/-- The alphabet of RFC 4648, Section 4. -/
def standardAlphabet : List Char :=
  "ABCDEFGHIJKLMNOPQRSTUVWXYZabcdefghijklmnopqrstuvwxyz0123456789+/".toList

/-- The alphabet of RFC 4648, Section 5. -/
def urlSafeAlphabet : List Char :=
  "ABCDEFGHIJKLMNOPQRSTUVWXYZabcdefghijklmnopqrstuvwxyz0123456789-_".toList

variable {alphabet : List Char} {pad : Bool}

/-- The digits of a text are read back from the characters before the
padding. -/
theorem decode_encode (hlength : alphabet.length = 64) (hnodup : alphabet.Nodup)
    (hpad : '=' ∉ alphabet) (b : Bytes) :
    decode alphabet pad (encode alphabet pad b) = some b := by
  have hdigit : ∀ d ∈ digits b, alphabet.getD d '=' ∈ alphabet ∧
      alphabet.idxOf (alphabet.getD d '=') = d := by
    intro d hd
    have hlt : d < alphabet.length := by
      rw [hlength]
      exact digits_lt b d hd
    rw [List.getD_eq_getElem _ _ hlt]
    exact ⟨List.getElem_mem hlt, hnodup.idxOf_getElem d hlt⟩
  have hbody : (encode alphabet pad b).takeWhile (· ≠ '=')
      = (digits b).map (fun d => alphabet.getD d '=') := by
    rw [encode, List.takeWhile_append_of_pos]
    · have hrest :
          (if pad then padding b else []).takeWhile (fun c => decide (c ≠ '='))
            = [] := by
        rw [padding]
        split
        · split <;> rfl
        · rfl
      rw [hrest, List.append_nil]
    · intro c hc
      obtain ⟨d, hd, rfl⟩ := List.mem_map.1 hc
      have hmem := (hdigit d hd).1
      simp only [decide_eq_true_eq]
      intro heq
      rw [heq] at hmem
      exact hpad hmem
  have hdigits :
      ((digits b).map (fun d => alphabet.getD d '=')).map alphabet.idxOf
      = digits b := by
    rw [List.map_map]
    exact (List.map_congr_left fun d hd => (hdigit d hd).2).trans
      (List.map_id _)
  rw [decode, hbody, hdigits, bytes_digits]
  exact if_pos rfl

theorem mem_of_mem_encode (hlength : alphabet.length = 64) {b : Bytes}
    {c : Char} (h : c ∈ encode alphabet pad b) : c ∈ alphabet ++ if pad
      then ['='] else [] := by
  rw [encode] at h
  rcases List.mem_append.1 h with h | h
  · obtain ⟨d, hd, rfl⟩ := List.mem_map.1 h
    have hlt : d < alphabet.length := by
      rw [hlength]
      exact digits_lt b d hd
    rw [List.getD_eq_getElem _ _ hlt]
    exact List.mem_append_left _ (List.getElem_mem hlt)
  · refine List.mem_append_right _ ?_
    cases pad with
    | false => exact h
    | true =>
      simp only [if_true, padding] at h
      split at h <;> simp_all

theorem engine_lawful (hlength : alphabet.length = 64) (hnodup : alphabet.Nodup)
    (hpad : '=' ∉ alphabet) :
    (engine alphabet pad).Lawful (alphabet ++ if pad then ['='] else []) where
  decode_encode b := decode_encode hlength hnodup hpad b
  decodeSlice_encode b cap h := by
    show (decode alphabet pad (encode alphabet pad b)).filter (·.length ≤ cap)
      = some b
    rw [decode_encode hlength hnodup hpad b, Option.filter_some, if_pos]
    exact decide_eq_true (by omega)
  mem_alphabet b c h := mem_of_mem_encode hlength h

theorem engine_canonical : (engine alphabet pad).Canonical := by
  intro text b h
  change decode alphabet pad text = some b at h
  rw [decode, Option.bind_eq_bind, Option.bind_eq_some_iff] at h
  obtain ⟨b', _, hb'⟩ := h
  split at hb'
  · rename_i hencode
    obtain rfl := Option.some.inj hb'
    exact hencode.symm
  · cases hb'

/-- Only characters of the alphabet are read. -/
theorem engine_rejects (hlength : alphabet.length = 64) {c : Char}
    (hc : c ∉ alphabet ++ if pad then ['='] else []) :
    (engine alphabet pad).Rejects c := by
  intro text hmem
  by_contra hne
  obtain ⟨b, hb⟩ := Option.ne_none_iff_exists'.1 hne
  rw [engine_canonical text b hb] at hmem
  exact hc (mem_of_mem_encode hlength hmem)

/-- The engines of RFC 4648: the standard one with padding, the URL-safe one
without. -/
@[reducible] def base64 : Base64 where
  STANDARD := engine standardAlphabet true
  URL_SAFE_NO_PAD := engine urlSafeAlphabet false

scoped instance : Base64 := base64

theorem urlSafe_lawful :
    (engine urlSafeAlphabet false).Lawful urlSafeAlphabet := by
  have h : (engine urlSafeAlphabet false).Lawful (urlSafeAlphabet ++ []) :=
    engine_lawful (by decide) (by decide) (by decide)
  rwa [List.append_nil] at h

theorem standard_lawful :
    (engine standardAlphabet true).Lawful (standardAlphabet ++ ['=']) :=
  engine_lawful (by decide) (by decide) (by decide)

end Rfc4648

end Wimsey.Codec
