import Mathlib.Data.Nat.Digits.Lemmas
import Wimsey.Asn1.Der
import Wimsey.Cli.Key
import Wimsey.Mtls.Wic
import Wimsey.RustStd.Text
import Wimsey.Wpt.Token

/-!
# Certificate files

The model of `pem` and `read_certificate` of `crates/cli/src/main.rs`.  The
commands write certificates as PEM, and they read PEM and raw DER, whichever a
file holds.

`certificate_file_read` says that both are read back.  What is read as PEM is
the first certificate of the file, behind any lines before it, and raw DER is
never mistaken for it, since the length of a certificate takes more than one
octet.
-/

namespace Wimsey.Cli

open Wimsey.RustStd Wimsey.Codec Wimsey.Asn1

/-! ## The functions -/

/-- The errors that end the commands of `main.rs`: one of the errors of a key
file, or the error of a library. -/
inductive CommandError where
  | cli (error : CliError)
  | io
  | base64
  | json
  /-- "--alg: {e}" -/
  | alg (error : Jose.JoseError)
  | identifier (error : Identifier.ParseError)
  | mtls (error : Mtls.MtlsError)
  | wpt (error : Wpt.WptError)

def BEGIN_CERTIFICATE : Str := "-----BEGIN CERTIFICATE-----".toList

def END_CERTIFICATE : Str := "-----END CERTIFICATE-----".toList

section Functions

variable [Base64]

/-- The first line of a file with this label. -/
def beginLine (label : Str) : Str :=
  "-----BEGIN ".toList ++ label ++ "-----\n".toList

/-- The last line. -/
def endLine (label : Str) : Str :=
  "-----END ".toList ++ label ++ "-----\n".toList

/-- One turn of the loop of `pem`. -/
def pushLine {ε : Type} (out : Str) (line : Bytes) : Outcome ε Str := do
  let line ← Outcome.expect (Str.fromUtf8 line)
  .ok (out ++ line ++ ['\n'])

/-- `pem`. -/
def pem {ε : Type} (label : Str) (der : Bytes) : Outcome ε Str := do
  let body := Base64.STANDARD.encode der
  let out ← (chunks 64 (Str.asBytes body)).foldlM pushLine (beginLine label)
  .ok (out ++ endLine label)

/-- `read_certificate`. -/
def readCertificate [Os] (path : Str) : Outcome CommandError Bytes := do
  let bytes ← Outcome.okOr .io (Os.read path)
  match Str.fromUtf8 bytes with
  | none => .ok bytes
  | some text =>
    match Str.findStr BEGIN_CERTIFICATE text with
    | none => .ok bytes
    | some start => do
      let body ← Str.sliceFrom text (start + Str.len BEGIN_CERTIFICATE)
      let stop ← Outcome.okOr
        (.cli (.message "PEM has a BEGIN line but no END line"))
        (Str.findStr END_CERTIFICATE body)
      let body ← Str.sliceTo body stop
      Outcome.okOr .base64
        (Base64.STANDARD.decode (Str.splitWhitespace body).flatten)

end Functions

/-! ## Writing -/

/-- The lines of the base64 text. -/
def bodyLines (body : Str) : Str := (chunks 64 body).flatMap (· ++ ['\n'])

/-- The text of a certificate with a label. -/
def pemText (label body : Str) : Str :=
  beginLine label ++ bodyLines body ++ endLine label

theorem pushLine_asBytes {ε : Type} (out line : Str) :
    (pushLine out (Str.asBytes line) : Outcome ε Str)
      = .ok (out ++ line ++ ['\n']) := by
  rw [pushLine, Str.fromUtf8_asBytes]
  rfl

/-- The loop writes the lines behind what has been written. -/
theorem foldlM_pushLine {ε : Type} {lines : List Str} (out : Str) :
    ((lines.map Str.asBytes).foldlM pushLine out : Outcome ε Str)
      = .ok (out ++ lines.flatMap (· ++ ['\n'])) := by
  induction lines generalizing out with
  | nil =>
    rw [List.flatMap_nil, List.append_nil]
    rfl
  | cons line lines ih =>
    rw [List.map_cons, List.foldlM_cons, pushLine_asBytes, Outcome.ok_bind, ih,
      List.flatMap_cons, List.append_assoc, List.append_assoc,
      List.append_assoc]

/-- A character that stands in base64 text may stand in the body of a
certificate file. -/
def isPlain (c : Char) : Bool :=
  c.toNat < 0x80 && !Str.isWhitespace c && c != '-'

theorem ascii_of_isPlain {c : Char} (h : isPlain c = true) :
    c.toNat < 0x80 := by
  simp only [isPlain, Bool.and_eq_true, decide_eq_true_eq] at h
  exact h.1.1

theorem kept_of_isPlain {c : Char} (h : isPlain c = true) :
    (!Str.isWhitespace c) = true := by
  simp only [isPlain, Bool.and_eq_true] at h
  exact h.1.2

section Certificates

variable [Base64]
  (hbase64 : Base64.STANDARD.Lawful (Rfc4648.standardAlphabet ++ ['=']))

include hbase64

theorem isPlain_of_encode {der : Bytes} {c : Char}
    (h : c ∈ Base64.STANDARD.encode der) :
    isPlain c = true := by
  have halphabet : (Rfc4648.standardAlphabet ++ ['=']).all isPlain = true := by
    decide
  exact List.all_eq_true.1 halphabet c (hbase64.mem_alphabet der c h)

/-- The function writes the text, and its `expect` holds. -/
theorem pem_eq {ε : Type} (label : Str) (der : Bytes) :
    (pem label der : Outcome ε Str)
      = .ok (pemText label (Base64.STANDARD.encode der)) := by
  have hascii : ∀ c ∈ Base64.STANDARD.encode der, c.toNat < 0x80 :=
    fun c hc => ascii_of_isPlain (isPlain_of_encode hbase64 hc)
  have hlines : chunks 64 (Str.asBytes (Base64.STANDARD.encode der))
      = (chunks 64 (Base64.STANDARD.encode der)).map Str.asBytes := by
    rw [Str.asBytes_of_ascii hascii, chunks_map]
    apply List.map_congr_left
    intro line hline
    exact (Str.asBytes_of_ascii fun c hc =>
      hascii c (mem_of_mem_chunks hline hc)).symm
  simp only [pem, hlines]
  rw [foldlM_pushLine, Outcome.ok_bind]
  rfl

omit hbase64 [Base64] in
/-- Without the line feeds the lines are the body. -/
theorem filter_bodyLines {body : Str} (h : ∀ c ∈ body, isPlain c = true) :
    (bodyLines body).filter (!Str.isWhitespace ·) = body := by
  have hlines : ∀ lines : List Str,
      (lines.flatMap (· ++ ['\n'])).filter (!Str.isWhitespace ·)
      = lines.flatten.filter (!Str.isWhitespace ·) := by
    intro lines
    induction lines with
    | nil => rfl
    | cons line lines ih =>
      have hfeed : ['\n'].filter (!Str.isWhitespace ·) = [] := by decide
      rw [List.flatMap_cons, List.filter_append, List.filter_append, hfeed, ih,
        List.flatten_cons, List.filter_append, List.append_nil]
  rw [bodyLines, hlines, flatten_chunks]
  exact List.filter_eq_self.2 fun c hc => kept_of_isPlain (h c hc)

omit hbase64 [Base64] in
theorem dash_not_mem_bodyLines {body : Str} (h : ∀ c ∈ body, isPlain c = true) :
    '-' ∉ '\n' :: bodyLines body := by
  have hdash : isPlain '-' = false := by decide
  intro hmem
  rcases List.mem_cons.1 hmem with hmem | hmem
  · cases hmem
  · obtain ⟨line, hline, hmem⟩ := List.mem_flatMap.1 hmem
    rcases List.mem_append.1 hmem with hmem | hmem
    · rw [h '-' (mem_of_mem_chunks hline hmem)] at hdash
      cases hdash
    · cases List.mem_singleton.1 hmem

/-! ## Reading -/

omit hbase64 [Base64] in
theorem pemText_certificate (body : Str) : pemText "CERTIFICATE" body
    = BEGIN_CERTIFICATE ++
    ('\n' :: bodyLines body ++ END_CERTIFICATE ++ ['\n']) := by
  have hbegin : beginLine "CERTIFICATE" = BEGIN_CERTIFICATE ++
      ['\n'] := by decide
  have hend : endLine "CERTIFICATE" = END_CERTIFICATE ++ ['\n'] := by decide
  rw [pemText, hbegin, hend]
  simp

/-- The lines before a certificate, as other tools write them. -/
structure Preamble (before : Str) : Prop where
  noMarker : ¬ BEGIN_CERTIFICATE <:+: before
  ends : ∀ c ∈ before.getLast?, c = '\n'

/-- The first certificate of a file is read, whatever comes after it. -/
theorem readCertificate_pem [Os] {path before after : Str} {der : Bytes}
    (hbefore : Preamble before)
    (hread : Os.read path = some (Str.asBytes
      (before ++ pemText "CERTIFICATE" (Base64.STANDARD.encode der) ++
        after))) :
    readCertificate path = .ok der := by
  have hplain : ∀ c ∈ Base64.STANDARD.encode der, isPlain c = true :=
    fun c hc => isPlain_of_encode hbase64 hc
  obtain ⟨body, hbody⟩ : ∃ body,
      body = '\n' :: bodyLines (Base64.STANDARD.encode der) :=
    ⟨_, rfl⟩
  have hlast : ∀ c ∈ before.getLast?, c ∉ BEGIN_CERTIFICATE := by
    intro c hc
    rw [hbefore.ends c hc]
    decide
  have hstart : Str.findStr BEGIN_CERTIFICATE
      (before ++ BEGIN_CERTIFICATE ++
        (body ++ END_CERTIFICATE ++ '\n' :: after))
      = some (Str.len before) :=
    Str.findStr_append_lines hbefore.noMarker hlast
  have hstop :
      Str.findStr END_CERTIFICATE (body ++ END_CERTIFICATE ++ '\n' :: after)
      = some (Str.len body) := by
    rw [hbody]
    exact Str.findStr_append_of_not_mem (dash_not_mem_bodyLines hplain)
  have hword :
      (Str.splitWhitespace body).flatten = Base64.STANDARD.encode der := by
    rw [hbody, Str.flatten_splitWhitespace, List.filter_cons_of_neg (by decide),
      filter_bodyLines hplain]
  have htext :
      before ++ pemText "CERTIFICATE" (Base64.STANDARD.encode der) ++ after
      = before ++ BEGIN_CERTIFICATE ++
        (body ++ END_CERTIFICATE ++ '\n' :: after) := by
    rw [pemText_certificate, hbody]
    simp
  rw [htext] at hread
  simp only [readCertificate, hread, Outcome.okOr_some, Outcome.ok_bind,
    Str.fromUtf8_asBytes, hstart]
  rw [← Str.len_append, Str.sliceFrom_len_append, Outcome.ok_bind, hstop,
    Outcome.okOr_some, Outcome.ok_bind, List.append_assoc,
    Str.sliceTo_len_append, Outcome.ok_bind, hword, hbase64.decode_encode]
  rfl

omit hbase64 in
/-- Raw DER whose length takes more than one octet is no text, so that it is
read as it is. -/
theorem readCertificate_der [Os] {path : Str} {items : List Bytes}
    (hlong : 0x80 ≤ items.flatten.length) (hlt : items.flatten.length < 2 ^ 64)
    (hread : Os.read path = some (Der.sequence items)) :
    readCertificate path = .ok (Der.sequence items) := by
  have hoctets : (Nat.digits 256 items.flatten.length).length ≤ 8 :=
    (Nat.digits_length_le_iff (by decide) _).2 (by simpa using hlt)
  have hbyte :
      (UInt8.ofNat (0x80 + (Nat.digits 256 items.flatten.length).length)).toNat
      = 0x80 + (Nat.digits 256 items.flatten.length).length := by
    have hsize : UInt8.size = 256 := rfl
    exact UInt8.toNat_ofNat_of_lt' (by omega)
  have hder : ∃ rest, Der.sequence items
      = 0x30
        :: UInt8.ofNat (0x80 + (Nat.digits 256 items.flatten.length).length)
        :: rest := by
    rw [Der.sequence, Der.tlv, Der.lengthOctets, if_neg (by omega)]
    exact ⟨_, rfl⟩
  obtain ⟨rest, hder⟩ := hder
  have hutf8 : Str.fromUtf8 (Der.sequence items) = none := by
    rw [hder]
    exact Str.fromUtf8_of_continuation (by decide) (by omega) (by omega)
  simp only [readCertificate, hread, Outcome.okOr_some, Outcome.ok_bind, hutf8]

omit hbase64 in
/-- The slices are at the ends of what was found, so that no file makes the
reader panic. -/
theorem readCertificate_ne_panic [Os] (path : Str) :
    readCertificate path ≠ .panic := by
  refine Outcome.bind_ne_panic Outcome.okOr_ne_panic fun bytes _ => ?_
  cases Str.fromUtf8 bytes with
  | none => exact nofun
  | some text =>
    cases hstart : Str.findStr BEGIN_CERTIFICATE text with
    | none => simp [hstart]
    | some start =>
      obtain ⟨before, rest, rfl, rfl⟩ := Str.append_of_findStr hstart
      have hbody : (Str.sliceFrom (before ++ (BEGIN_CERTIFICATE ++ rest))
          (Str.len before + Str.len BEGIN_CERTIFICATE) :
          Outcome CommandError Str) = .ok rest := by
        rw [← List.append_assoc, ← Str.len_append, Str.sliceFrom_len_append]
      simp only [hstart, hbody, Outcome.ok_bind]
      refine Outcome.bind_ne_panic Outcome.okOr_ne_panic fun stop hstop => ?_
      obtain ⟨body, after, rfl, rfl⟩ :=
        Str.append_of_findStr (Outcome.okOr_eq_ok_iff.1 hstop)
      rw [Str.sliceTo_len_append, Outcome.ok_bind]
      exact Outcome.okOr_ne_panic

/-- A certificate is read back from a file in either form: from PEM as it is
written, behind any lines and before anything else, and from raw DER.  No file
makes the reader panic. -/
theorem certificate_file_read [Os] (path : Str) :
    readCertificate path ≠ .panic ∧
    (∀ der, ∃ text,
      (pem "CERTIFICATE" der : Outcome CommandError Str) = .ok text ∧
      ∀ before after, Preamble before →
        Os.read path = some (Str.asBytes (before ++ text ++ after)) →
        readCertificate path = .ok der) ∧
    (∀ items : List Bytes, 0x80 ≤ items.flatten.length →
      items.flatten.length < 2 ^ 64 →
      Os.read path = some (Der.sequence items) →
      readCertificate path = .ok (Der.sequence items)) :=
  ⟨readCertificate_ne_panic path,
    fun der => ⟨_, pem_eq hbase64 _ der, fun _ _ hbefore hread =>
      readCertificate_pem hbase64 hbefore hread⟩,
    fun _ hlong hlt hread => readCertificate_der hlong hlt hread⟩

end Certificates

/-! ## A file with a certificate -/

namespace Example.Pem

open scoped Rfc4648

def der : Bytes := [0x30, 0x03, 0x02, 0x01, 0x2a]

def text : Str :=
  "-----BEGIN CERTIFICATE-----\nMAMCASo=\n-----END CERTIFICATE-----\n"

/-- The file has a line before the certificate and another certificate after
it. -/
local instance : Os where
  read path :=
    if path = "ca.pem"
      then some (Str.asBytes ("subject=CN = w\n".toList ++ text ++ text))
      else none
  nowUnix := 0

theorem pem_der :
    (pem "CERTIFICATE" der : Outcome CommandError Str) = .ok text := by
  have hencode : Base64.STANDARD.encode der = "MAMCASo=".toList := by
    decide +kernel
  have hlines : bodyLines "MAMCASo=" = "MAMCASo=\n".toList := by
    simp [bodyLines, chunks]
  have htext : beginLine "CERTIFICATE" ++ "MAMCASo=\n".toList ++
      endLine "CERTIFICATE" = text := by
    decide
  rw [pem_eq Rfc4648.standard_lawful, hencode, pemText, hlines, htext]

/-- The first certificate is read. -/
theorem certificate_file_read_example : readCertificate "ca.pem" = .ok der := by
  obtain ⟨written, hwritten, hread⟩ :=
    (certificate_file_read Rfc4648.standard_lawful "ca.pem").2.1 der
  obtain rfl := Outcome.ok.inj (pem_der.symm.trans hwritten)
  refine hread "subject=CN = w\n" text ⟨by decide, ?_⟩ (if_pos rfl)
  intro c hc
  obtain rfl := Option.some.inj hc
  rfl

end Example.Pem

end Wimsey.Cli
