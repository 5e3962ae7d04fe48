import Wimsey.Serde.Json

/-!
# The workload identifier parser

The model of `crates/identifier/src/lib.rs`.  An identifier is parsed by
`parse`: a length bound, a scheme prefix, a cut at the first `/`, and one check
for the trust domain and one for each path segment.  The parser rewrites
nothing; what it accepts it keeps as it came.

The Rust type has private fields and `parse` is its only constructor.
`WorkloadIdentifier` carries that as a field: its text parses to its parts.

Slices are taken at byte offsets and `u8` arithmetic is checked, so the model
panics wherever the source would.
-/

namespace Wimsey.Identifier

open Wimsey.RustStd

/-- The maximum length, in bytes, of a workload identifier. -/
def MAX_ID_LEN : Nat := 2048

/-- The maximum length, in bytes, of a `spiffe` trust domain. -/
def MAX_TRUST_DOMAIN_LEN : Nat := 255

/-- A URI scheme a workload identifier may use. -/
inductive Scheme where
  | spiffe
  | wimse
deriving DecidableEq, Repr

/-- `Scheme::as_str`. -/
def Scheme.asStr : Scheme → Str
  | .spiffe => "spiffe"
  | .wimse => "wimse"

/-- `Scheme::prefix`. -/
def Scheme.uriPrefix : Scheme → Str
  | .spiffe => "spiffe://"
  | .wimse => "wimse://"

/-- An error returned when parsing an identifier. -/
inductive ParseError where
  | tooLong
  | unsupportedScheme
  | hasQuery
  | hasFragment
  | hasUserInfo
  | hasPort
  | emptyTrustDomain
  | trustDomainTooLong
  | invalidTrustDomainChar (c : Char)
  | emptyPathSegment
  | dotSegment
  | invalidPathChar (c : Char)
  | badPercentEncoding
  | nonNormalizedPercentEncoding (escape : Str)
deriving DecidableEq, Repr

/-! ## Character classes -/

/-- `'a'..='z' | '0'..='9' | '.' | '-' | '_'`. -/
def isTrustDomainChar (c : Char) : Bool :=
  ('a' ≤ c && c ≤ 'z') || ('0' ≤ c && c ≤ '9') || c == '.' || c
    == '-' || c == '_'

/-- `'A'..='Z' | 'a'..='z' | '0'..='9' | '.' | '-' | '_'`. -/
def isSpiffeChar (c : Char) : Bool :=
  ('A' ≤ c && c ≤ 'Z') || ('a' ≤ c && c ≤ 'z') || ('0' ≤ c && c ≤ '9') ||
    c == '.' || c == '-' || c == '_'

/-- The bytes from `lo` to `hi`. -/
def byteIn (lo hi : Char) (b : UInt8) : Bool :=
  Str.byte lo ≤ b && b ≤ Str.byte hi

/-- `u8::is_ascii_hexdigit`. -/
def isAsciiHexdigit (b : UInt8) : Bool :=
  byteIn '0' '9' b || byteIn 'A' 'F' b || byteIn 'a' 'f' b

/-- `u8::is_ascii_lowercase`. -/
def isAsciiLowercase (b : UInt8) : Bool := byteIn 'a' 'z' b

/-- The RFC 3986 `unreserved` set. -/
def isUnreservedByte (b : UInt8) : Bool :=
  byteIn 'A' 'Z' b || byteIn 'a' 'z' b || byteIn '0' '9' b ||
    ("-._~".toList.map Str.byte).contains b

/-- The RFC 3986 `pchar` set, without percent-escapes. -/
def isPcharByte (b : UInt8) : Bool :=
  isUnreservedByte b || ("!$&'()*+,;=".toList.map Str.byte).contains b ||
    (":@".toList.map Str.byte).contains b

/-- The value of one uppercase-or-digit hex digit. -/
def decodeHex {ε : Type} (b : UInt8) : Outcome ε UInt8 :=
  if byteIn '0' '9' b then subU8 b (Str.byte '0')
  else do
    let d ← subU8 b (Str.byte 'A')
    addU8 d 10

/-! ## The checks -/

/-- Every character is allowed, or the first one that is not is reported. -/
def checkChars (allowed : Char → Bool) (error : Char → ParseError) :
    Str → Outcome ParseError Unit
  | [] => .ok ()
  | c :: s => if allowed c then checkChars allowed error s else .err (error c)

/-- `validate_trust_domain`. -/
def validateTrustDomain (scheme : Scheme) (td : Str) :
    Outcome ParseError Unit := do
  Outcome.failIf td.isEmpty .emptyTrustDomain
  Outcome.failIf (scheme == .spiffe && MAX_TRUST_DOMAIN_LEN < Str.len td)
    .trustDomainTooLong
  checkChars isTrustDomainChar .invalidTrustDomainChar td

/-- `validate_spiffe_segment`. -/
def validateSpiffeSegment (segment : Str) : Outcome ParseError Unit :=
  checkChars isSpiffeChar .invalidPathChar segment

/-- The loop of `validate_pchar_segment`, with the cursor at byte `i` and the
bytes from there on. -/
def validatePcharFrom (segment : Str) : Bytes → Nat → Outcome ParseError Unit
  | [], _ => .ok ()
  | b :: rest, i =>
      if b = Str.byte '%' then
        match rest with
        | h₁ :: h₂ :: rest => do
            let escape := [Char.ofNat h₁.toNat, Char.ofNat h₂.toNat]
            Outcome.failIf (!(isAsciiHexdigit h₁ && isAsciiHexdigit h₂))
              .badPercentEncoding
            Outcome.failIf (isAsciiLowercase h₁ || isAsciiLowercase h₂)
              (.nonNormalizedPercentEncoding escape)
            let hi ← decodeHex h₁
            let lo ← decodeHex h₂
            let scaled ← mulU8 hi 16
            let decoded ← addU8 scaled lo
            Outcome.failIf (isUnreservedByte decoded)
              (.nonNormalizedPercentEncoding escape)
            validatePcharFrom segment rest (i + 3)
        | _ => .err .badPercentEncoding
      else if !isPcharByte b then do
        -- The cursor is at a character boundary here, or this slice panics.
        let tail ← Str.sliceFrom segment i
        .err (.invalidPathChar (tail.head?.getD '\uFFFD'))
      else validatePcharFrom segment rest (i + 1)

/-- `validate_pchar_segment`. -/
def validatePcharSegment (segment : Str) : Outcome ParseError Unit :=
  validatePcharFrom segment (Str.asBytes segment) 0

/-- The checks that `validate_path` makes of one segment. -/
def validateSegment (scheme : Scheme) (segment : Str) :
    Outcome ParseError Unit := do
  Outcome.failIf segment.isEmpty .emptyPathSegment
  Outcome.failIf (segment == "." || segment == "..") .dotSegment
  match scheme with
  | .spiffe => validateSpiffeSegment segment
  | .wimse => validatePcharSegment segment

/-- The loop of `validate_path`. -/
def validateSegments (scheme : Scheme) : List Str → Outcome ParseError Unit
  | [] => .ok ()
  | segment :: segments => do
      validateSegment scheme segment
      validateSegments scheme segments

/-- `validate_path`. -/
def validatePath (scheme : Scheme) (path : Str) : Outcome ParseError Unit :=
  if path.isEmpty then .ok ()
  else validateSegments scheme ((path.splitOn '/').drop 1)

/-! ## The parser -/

/-- The fields of a `WorkloadIdentifier`. -/
structure Fields where
  uri : Str
  scheme : Scheme
  /-- Byte length of the trust domain, used to slice `uri`. -/
  trustDomainLen : Nat
deriving DecidableEq, Repr

/-- The cut of the text after the scheme into trust domain and path. -/
def splitAuthority (rest : Str) : Outcome ParseError (Str × Str) :=
  match Str.find '/' rest with
  | some idx => do
      let trustDomain ← Str.sliceTo rest idx
      let path ← Str.sliceFrom rest idx
      .ok (trustDomain, path)
  | none => .ok (rest, [])

/-- `WorkloadIdentifier::parse`, up to the type of its result. -/
def parseFields (input : Str) : Outcome ParseError Fields := do
  Outcome.failIf (MAX_ID_LEN < Str.len input) .tooLong
  let (scheme, rest) ← Outcome.okOr .unsupportedScheme
    ([Scheme.spiffe, Scheme.wimse].findSome? fun s =>
      (Str.stripPrefix s.uriPrefix input).map fun rest => (s, rest))
  Outcome.failIf (rest.contains '?') .hasQuery
  Outcome.failIf (rest.contains '#') .hasFragment
  let (trustDomain, path) ← splitAuthority rest
  Outcome.failIf (trustDomain.contains '@') .hasUserInfo
  Outcome.failIf (trustDomain.contains ':') .hasPort
  validateTrustDomain scheme trustDomain
  validatePath scheme path
  .ok { uri := input, scheme := scheme, trustDomainLen := Str.len trustDomain }

/-- The parser keeps its input as it came. -/
theorem parseFields_uri {input : Str} {fields : Fields}
    (h : parseFields input = .ok fields) :
    fields.uri = input := by
  simp only [parseFields, Outcome.bind_eq_ok_iff] at h
  obtain ⟨_, _, ⟨_, _⟩, _, _, _, _, _, ⟨_, _⟩, _, _, _, _, _, _, _, _, _,
      hfields⟩ := h
  obtain rfl := Outcome.ok.inj hfields
  rfl

/-- A validated workload identifier.  `parsed` is the invariant that the private
fields of the Rust type keep: the text parses to the other two. -/
structure WorkloadIdentifier extends Fields where
  parsed : parseFields uri = .ok toFields
deriving DecidableEq

/-- `WorkloadIdentifier::parse`. -/
def parse (input : Str) : Outcome ParseError WorkloadIdentifier :=
  match h : parseFields input with
  | .ok fields => .ok ⟨fields, by rw [parseFields_uri h, h]⟩
  | .err e => .err e
  | .panic => .panic

namespace WorkloadIdentifier

variable {ε : Type} (id : WorkloadIdentifier)

/-- `WorkloadIdentifier::as_str`. -/
def asStr : Str := id.uri

/-- `WorkloadIdentifier::trust_domain`. -/
def trustDomain : Outcome ε Str :=
  Str.slice id.uri (Str.len id.scheme.uriPrefix)
    (Str.len id.scheme.uriPrefix + id.trustDomainLen)

/-- `WorkloadIdentifier::path`. -/
def path : Outcome ε Str :=
  Str.sliceFrom id.uri (Str.len id.scheme.uriPrefix + id.trustDomainLen)

/-- `WorkloadIdentifier::origin`. -/
def origin : Outcome ε Str :=
  Str.sliceTo id.uri (Str.len id.scheme.uriPrefix + id.trustDomainLen)

end WorkloadIdentifier

/-- Parsing succeeds exactly with the fields it computes. -/
theorem parse_eq_ok_iff {input : Str} {id : WorkloadIdentifier} :
    parse input = .ok id ↔ parseFields input = .ok id.toFields := by
  rw [parse]
  split
  · rename_i fields h
    constructor
    · intro hid
      obtain rfl := Outcome.ok.inj hid
      exact h
    · intro hid
      obtain ⟨fields', hparsed⟩ := id
      obtain rfl : fields = fields' := Outcome.ok.inj (h.symm.trans hid)
      rfl
  · rename_i h
    simp [h]
  · rename_i h
    simp [h]

/-- The fields that `parse` computes are those of an identifier. -/
theorem exists_parse {input : Str} {fields : Fields}
    (h : parseFields input = .ok fields) :
    ∃ id, parse input = .ok id ∧ id.toFields = fields := by
  obtain rfl := parseFields_uri h
  exact ⟨⟨fields, h⟩, parse_eq_ok_iff.2 h, rfl⟩

/-! ## Serialization -/

/-- `Serialize` for `WorkloadIdentifier`. -/
def WorkloadIdentifier.serialize (id : WorkloadIdentifier) : Serde.Json :=
  .str id.uri

/-- `Deserialize` for `WorkloadIdentifier`. -/
def WorkloadIdentifier.deserialize (j : Serde.Json) :
    Outcome Serde.Error WorkloadIdentifier := do
  let s ← Serde.deString j
  Outcome.mapErr (fun _ => {}) (parse s)

/-- An identifier is read as it was written. -/
theorem WorkloadIdentifier.deserialize_serialize (id : WorkloadIdentifier) :
    deserialize id.serialize = .ok id := by
  have hparse : parse id.uri = .ok id := parse_eq_ok_iff.2 id.parsed
  rw [deserialize, serialize, Serde.deString, Outcome.ok_bind, hparse,
    Outcome.mapErr_ok]

end Wimsey.Identifier
