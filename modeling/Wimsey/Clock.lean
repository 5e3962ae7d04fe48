import Wimsey.HttpSig.RoundTrip
import Wimsey.Wit.RoundTrip
import Wimsey.Wpt.RoundTrip

/-!
# The clock checks

The three verifiers compare times that saturate at the largest `u64`.  Here each
comparison is given over unbounded integers: `InTime` says what the clock checks
of a verifier are without any saturation, and `verify_iff_inTime` that the
verifier decides just that, next to checks that do not look at the clock.

What is rejected as expired or too old stays rejected, so that the times at
which one credential is accepted form an interval.  The reason is the same for
the three: at an earlier time than one that is accepted, only the check against
a time in the future can fail.
-/

namespace Wimsey

open Wimsey.RustStd Wimsey.Codec Wimsey.Serde Wimsey.Jose

/-! ## Saturation does not show -/

theorem le_saturatingAdd_iff {a b c : UInt64} :
    a ≤ saturatingAdd b c ↔ (a.toNat : ℤ) ≤ b.toNat + c.toNat := by
  have ha : a.toNat < 2 ^ 64 := a.toNat_lt
  rw [UInt64.le_iff_toNat_le, toNat_saturatingAdd]
  omega

/-- Below the last time, a strict comparison is not changed by saturation
either. -/
theorem lt_saturatingAdd_iff {a b c : UInt64} (ha : a.toNat < 2 ^ 64 - 1) :
    a < saturatingAdd b c ↔ (a.toNat : ℤ) < b.toNat + c.toNat := by
  rw [UInt64.lt_iff_toNat_lt, toNat_saturatingAdd]
  omega

theorem saturatingSub_le_iff {a b c : UInt64} :
    saturatingSub a b ≤ c ↔ (a.toNat : ℤ) - b.toNat ≤ c.toNat := by
  rw [UInt64.le_iff_toNat_le, toNat_saturatingSub]
  omega

/-- The times at which something holds, as an interval of the natural
numbers. -/
def OneInterval (accepts : UInt64 → Prop) : Prop :=
  (UInt64.toNat '' {now | accepts now}).OrdConnected

theorem oneInterval_of_between {accepts : UInt64 → Prop}
    (h : ∀ first now last, first ≤ now → now ≤ last → accepts first →
      accepts last → accepts now) :
    OneInterval accepts := by
  refine ⟨?_⟩
  rintro _ ⟨first, hfirst, rfl⟩ _ ⟨last, hlast, rfl⟩ now ⟨hle, hle'⟩
  have hnow : (UInt64.ofNat now).toNat = now := by
    have hlt : last.toNat < 2 ^ 64 := last.toNat_lt
    have hsize : now < 2 ^ 64 := by omega
    exact UInt64.toNat_ofNat_of_lt' hsize
  refine ⟨UInt64.ofNat now, h first _ last ?_ ?_ hfirst hlast, hnow⟩
  · rw [UInt64.le_iff_toNat_le, hnow]
    exact hle
  · rw [UInt64.le_iff_toNat_le, hnow]
    exact hle'

end Wimsey

/-! ## Message signatures -/

namespace Wimsey.HttpSig

open Wimsey.RustStd Wimsey.Codec Wimsey.Jose

/-- The rules of the policy that do not look at a time. -/
structure Untimed (config : VerifyConfig) (components : List Component)
    (params : SignatureParams) : Prop where
  required : ∀ c ∈ config.requiredComponents,
    Component.contains components c = true
  audience : config.wimseProfile = true ∨ config.expectedAudiences ≠ [] →
    ∃ aud ∈ config.expectedAudiences, params.wimseAud = some aud
  reqNonce : ∀ nonce, config.expectedReqNonce = some nonce →
    params.wimseReqNonce = some nonce

/-- The rules about times, over unbounded integers. -/
structure InTime (now maxAge : Option UInt64) (leeway : UInt64)
    (params : SignatureParams) : Prop where
  window : ∀ created, params.created = some created → ∀ expires,
    params.expires = some expires →
    (created.toNat : ℤ) ≤ expires.toNat
  expires : ∀ t, now = some t → ∀ expires, params.expires = some expires →
    (t.toNat : ℤ) ≤ expires.toNat + leeway.toNat
  created : ∀ t, now = some t → ∀ created, params.created = some created →
    (created.toNat : ℤ) ≤ t.toNat + leeway.toNat
  maxAge : ∀ age, maxAge = some age →
    ∃ t, now = some t ∧ ∃ created, params.created = some created ∧
      (t.toNat : ℤ) - created.toNat ≤ age.toNat

theorem policy_iff {config : VerifyConfig} {components : List Component}
    {params : SignatureParams} :
    Policy config components params ↔
      Untimed config components params ∧
        InTime config.now config.maxAge config.leeway params := by
  constructor
  · intro h
    refine ⟨⟨h.required, h.audience, h.reqNonce⟩, ?_, ?_, ?_, ?_⟩
    · intro created hcreated expires hexpires
      have hle :=
        UInt64.le_iff_toNat_le.1 (h.window created hcreated expires hexpires)
      omega
    · exact fun t ht expires hexpires =>
        le_saturatingAdd_iff.1 (h.expires t ht expires hexpires)
    · exact fun t ht created hcreated =>
        le_saturatingAdd_iff.1 (h.created t ht created hcreated)
    · intro age hage
      obtain ⟨t, ht⟩ := Option.isSome_iff_exists.1 (h.clock (by rw [hage]; rfl))
      obtain ⟨created, hcreated, hle⟩ := h.maxAge t ht age hage
      exact ⟨t, ht, created, hcreated, saturatingSub_le_iff.1 hle⟩
  · intro ⟨hrest, h⟩
    refine ⟨hrest.required, hrest.audience, hrest.reqNonce, ?_, ?_, ?_, ?_, ?_⟩
    · intro created hcreated expires hexpires
      have hle := h.window created hcreated expires hexpires
      rw [UInt64.le_iff_toNat_le]
      omega
    · intro hmaxAge
      obtain ⟨age, hage⟩ := Option.isSome_iff_exists.1 hmaxAge
      obtain ⟨t, ht, _⟩ := h.maxAge age hage
      rw [ht]
      rfl
    · exact fun t ht expires hexpires =>
        le_saturatingAdd_iff.2 (h.expires t ht expires hexpires)
    · exact fun t ht created hcreated =>
        le_saturatingAdd_iff.2 (h.created t ht created hcreated)
    · intro t ht age hage
      obtain ⟨t', ht', created, hcreated, hle⟩ := h.maxAge age hage
      obtain rfl := Option.some.inj (ht.symm.trans ht')
      exact ⟨created, hcreated, saturatingSub_le_iff.2 hle⟩

/-- The rules hold between two times at which they hold. -/
theorem InTime.between {first now last : UInt64} (hfirst : first ≤ now)
    (hlast : now ≤ last) {maxAge : Option UInt64} {leeway : UInt64}
    {params : SignatureParams} (h : InTime (some first) maxAge leeway params)
    (h' : InTime (some last) maxAge leeway params) :
    InTime (some now) maxAge leeway params := by
  rw [UInt64.le_iff_toNat_le] at hfirst hlast
  refine ⟨h.window, ?_, ?_, ?_⟩
  · rintro _ ⟨⟩ expires hexpires
    have hle := h'.expires last rfl expires hexpires
    omega
  · rintro _ ⟨⟩ created hcreated
    have hle := h.created first rfl created hcreated
    omega
  · intro age hage
    obtain ⟨_, ⟨⟩, created, hcreated, hle⟩ := h'.maxAge age hage
    exact ⟨now, rfl, created, hcreated, by omega⟩

/-- The configuration at a time. -/
def VerifyConfig.withNow (config : VerifyConfig) (now : UInt64) :
    VerifyConfig :=
  { config with now := some now }

section

variable {M : Type} [ComponentSource M] [Base64] [Ed25519] [P256] {message : M}
  {signatureInput signature : Str} {key : VerifyingKey} {config : VerifyConfig}

theorem verify_iff_inTime {w : VerifiedSignature} :
    verify message signatureInput signature key config = .ok w ↔
      ∃ member, Authentic message signatureInput signature key config member ∧
        Untimed config member.components member.params ∧
        InTime config.now config.maxAge config.leeway member.params ∧
        w =
          { label := member.label
            components := member.components
            params := member.params } := by
  rw [verify_eq_ok_iff]
  simp only [policy_iff, and_assoc]

/-- The first phase does not look at the time. -/
theorem authenticate_withNow (now : UInt64) :
    authenticate message signatureInput signature key (config.withNow now)
      = authenticate message signatureInput signature key config := rfl

/-- At an earlier time than one that is accepted, only a creation in the future
can be found wrong. -/
theorem verify_earlier {earlier later : UInt64} (hle : earlier ≤ later)
    {w : VerifiedSignature}
    (h : verify message signatureInput signature key (config.withNow later)
      = .ok w) :
    verify message signatureInput signature key (config.withNow earlier)
      = .ok w ∨
      verify message signatureInput signature key (config.withNow earlier)
        = .err .createdInFuture := by
  rw [verify_eq, authenticate_withNow] at h ⊢
  obtain ⟨member, hauth, hpolicy⟩ := Outcome.bind_eq_ok_iff.1 h
  rw [hauth, Outcome.ok_bind]
  obtain ⟨hholds, hw⟩ := checkPolicy_eq_ok_iff.1 hpolicy
  unfold checkPolicy at hpolicy
  simp only [Outcome.bind_eq_ok_iff] at hpolicy
  obtain ⟨_, hrequired, _, haudience, _, hnonce, _, hwindow, _⟩ := hpolicy
  have hclock :
      Outcome.failIf (config.maxAge.isSome && (some earlier).isNone)
        HttpSigError.tooOld
      = .ok () := by
    rw [Outcome.failIf_eq_ok_iff, Option.isNone_some, Bool.and_false]
  have hexpires : Outcome.ifSome member.params.expires (fun expires =>
      Outcome.failIf (saturatingAdd expires config.leeway < earlier)
        HttpSigError.expired)
        = .ok () := by
    rw [Outcome.ifSome_eq_ok_iff]
    intro expires hexpires
    rw [Outcome.failIf_eq_ok_iff, decide_eq_false_iff_not, UInt64.not_lt]
    exact UInt64.le_trans hle (hholds.expires later rfl expires hexpires)
  have hmaxAge : Outcome.ifSome config.maxAge (fun maxAge => do
      let created ← Outcome.okOr HttpSigError.tooOld member.params.created
      Outcome.failIf (maxAge < saturatingSub earlier created) .tooOld)
        = .ok () := by
    rw [Outcome.ifSome_eq_ok_iff]
    intro maxAge hmaxAge
    obtain ⟨created, hcreated, hage⟩ := hholds.maxAge later rfl maxAge hmaxAge
    rw [hcreated, Outcome.okOr_some, Outcome.ok_bind, Outcome.failIf_eq_ok_iff,
      decide_eq_false_iff_not, UInt64.not_lt]
    rw [saturatingSub_le_iff] at hage ⊢
    rw [UInt64.le_iff_toNat_le] at hle
    omega
  have hvalue : checkPolicy member (config.withNow earlier) = (do
      Outcome.failIf
        (member.params.created.any (saturatingAdd earlier config.leeway < ·))
        .createdInFuture
      .ok w) := by
    rw [hw, ← Outcome.ifSome_failIf]
    unfold checkPolicy
    refine (Outcome.bind_of_ok hrequired).trans
      ((Outcome.bind_of_ok haudience).trans ?_)
    refine (Outcome.bind_of_ok hnonce).trans
      ((Outcome.bind_of_ok hwindow).trans ?_)
    refine (Outcome.bind_of_ok hclock).trans ?_
    exact congrArg (· >>= _) ((Outcome.bind_of_ok hexpires).trans
      ((bind_congr fun _ => hmaxAge).trans (bind_pure _)))
  rw [hvalue]
  cases member.params.created.any (saturatingAdd earlier config.leeway < ·) with
  | false => exact Or.inl rfl
  | true => exact Or.inr rfl

/-- What is accepted at two times is accepted between them. -/
theorem verify_between {first now last : UInt64} (hfirst : first ≤ now)
    (hlast : now ≤ last) {w w' : VerifiedSignature}
    (h : verify message signatureInput signature key (config.withNow first)
      = .ok w)
    (h' : verify message signatureInput signature key (config.withNow last)
      = .ok w') :
    verify message signatureInput signature key (config.withNow now)
      = .ok w := by
  obtain ⟨member, hauth, hrest, htime, hw⟩ := verify_iff_inTime.1 h
  obtain ⟨member', hauth', _, htime', _⟩ := verify_iff_inTime.1 h'
  rw [← authenticate_eq_ok_iff, authenticate_withNow] at hauth hauth'
  obtain rfl := Outcome.ok.inj (hauth.symm.trans hauth')
  refine verify_iff_inTime.2
    ⟨member, ?_, ?_, htime.between hfirst hlast htime', hw⟩
  · rw [← authenticate_eq_ok_iff, authenticate_withNow]
    exact hauth
  · exact ⟨hrest.required, hrest.audience, hrest.reqNonce⟩

end

end Wimsey.HttpSig

/-! ## Identity tokens -/

namespace Wimsey.Wit

open Wimsey.RustStd Wimsey.Codec Wimsey.Serde Wimsey.Jose

/-- The rules about times, over unbounded integers. -/
structure InTime (now leeway : UInt64) (claims : WitClaims) : Prop where
  exp : (now.toNat : ℤ) < claims.exp.toNat + leeway.toNat
  iat : ∀ iat, claims.iat = some iat →
    (iat.toNat : ℤ) ≤ now.toNat + leeway.toNat

/-- The validation at a time. -/
def Validation.withNow (v : Validation) (now : UInt64) : Validation :=
  { v with now := now }

section

variable [Base64] [SerdeJson] [Ed25519] [P256] {token : Str}
  {key : VerifyingKey} {v : Validation} {w : VerifiedWit}

theorem verify_iff_inTime (hnow : v.now.toNat < 2 ^ 64 - 1) :
    verify token key v = .ok w ↔
      authenticate token key = .ok (w.claims, w.kid) ∧
        InTime v.now v.leeway w.claims ∧
        (∀ iss, v.expectedIssuer = some iss → w.claims.iss = some iss) ∧
        w.claims.cnf.jwk.toVerifyingKey = .ok w.popKey := by
  rw [verify_eq_ok_iff]
  refine and_congr_right fun _ => ⟨fun h => ?_, fun ⟨h, hiss, hcnf⟩ => ?_⟩
  · exact ⟨⟨(lt_saturatingAdd_iff hnow).1 h.exp,
      fun iat hiat => le_saturatingAdd_iff.1 (h.iat iat hiat)⟩, h.iss, h.cnf⟩
  · exact ⟨(lt_saturatingAdd_iff hnow).2 h.exp,
      fun iat hiat => le_saturatingAdd_iff.2 (h.iat iat hiat), hiss, hcnf⟩

/-- At an earlier time than one that is accepted, only an issuance in the future
can be found wrong. -/
theorem verify_earlier {earlier later : UInt64} (hle : earlier ≤ later)
    (h : verify token key (v.withNow later) = .ok w) :
    verify token key (v.withNow earlier) = .ok w ∨
      verify token key (v.withNow earlier) = .err .issuedInFuture := by
  obtain ⟨hauth, hholds⟩ := verify_eq_ok_iff.1 h
  have hexp : ¬ saturatingAdd w.claims.exp v.leeway ≤ earlier := by
    rw [UInt64.not_le]
    exact UInt64.lt_of_le_of_lt hle hholds.exp
  have hiss : ¬ v.expectedIssuer.any (w.claims.iss != some ·) = true := by
    rw [Option.any_eq_true]
    intro ⟨iss, hexpected, hne⟩
    rw [hholds.iss iss hexpected, bne_self_eq_false] at hne
    cases hne
  have hvalue : verify token key (v.withNow earlier) =
      if w.claims.iat.any (saturatingAdd earlier v.leeway < ·)
        then .err .issuedInFuture
      else .ok w := by
    rw [verify_eq]
    refine (Outcome.bind_of_ok hauth).trans ((checkClaims_eq _ _ _).trans ?_)
    rw [hholds.cnf]
    exact (if_neg hexp).trans (if_congr Iff.rfl rfl (if_neg hiss))
  rw [hvalue]
  split
  · exact Or.inr rfl
  · exact Or.inl rfl

/-- What is accepted at two times is accepted between them. -/
theorem verify_between {first now last : UInt64} (hfirst : first ≤ now)
    (hlast : now ≤ last) {w' : VerifiedWit}
    (h : verify token key (v.withNow first) = .ok w)
    (h' : verify token key (v.withNow last) = .ok w') :
    verify token key (v.withNow now) = .ok w := by
  rw [verify_eq_ok_iff] at h h'
  obtain ⟨hauth, hholds⟩ := h
  obtain ⟨hauth', hholds'⟩ := h'
  obtain ⟨hclaims, _⟩ := Prod.mk.inj (Outcome.ok.inj (hauth.symm.trans hauth'))
  refine verify_eq_ok_iff.2
    ⟨hauth, ?_, fun iat hiat => ?_, hholds.iss, hholds.cnf⟩
  · rw [hclaims]
    exact UInt64.lt_of_le_of_lt hlast hholds'.exp
  · have hle := hholds.iat iat hiat
    rw [le_saturatingAdd_iff] at hle ⊢
    rw [UInt64.le_iff_toNat_le] at hfirst
    dsimp only [Validation.withNow] at hle ⊢
    omega

end

end Wimsey.Wit

/-! ## Proofs of possession -/

namespace Wimsey.Wpt

open Wimsey.RustStd Wimsey.Codec Wimsey.Serde Wimsey.Jose

/-- The rules about times, over unbounded integers. -/
structure InTime (now leeway : UInt64) (maxLifetime : Option UInt64)
    (claims : WptClaims) : Prop where
  exp : (now.toNat : ℤ) < claims.exp.toNat + leeway.toNat
  lifetime : ∀ max, maxLifetime = some max →
    (claims.exp.toNat : ℤ) - now.toNat ≤ max.toNat

/-- The validation at a time. -/
def Validation.withNow (v : Validation) (now : UInt64) : Validation :=
  { v with now := now }

section

variable [Base64] [SerdeJson] [Sha2] [Ed25519] [P256] {proof : Str}
  {key : VerifyingKey} {v : Validation} {w : VerifiedWpt}

theorem verify_iff_inTime (hnow : v.now.toNat < 2 ^ 64 - 1) :
    verify proof key v = .ok w ↔
      authenticate proof key = .ok w.claims ∧
        InTime v.now v.leeway v.maxLifetime w.claims ∧
        Bound w.claims v ∧ w.claims.aud = v.audience := by
  rw [verify_eq_ok_iff]
  refine and_congr_right fun _ => ⟨fun h => ?_, fun ⟨h, hbound, haud⟩ => ?_⟩
  · exact ⟨⟨(lt_saturatingAdd_iff hnow).1 h.exp,
      fun max hmax => saturatingSub_le_iff.1 (h.lifetime max hmax)⟩,
      h.toBound, h.aud⟩
  · exact ⟨hbound, (lt_saturatingAdd_iff hnow).2 h.exp,
      fun max hmax => saturatingSub_le_iff.2 (h.lifetime max hmax), haud⟩

/-- At an earlier time than one that is accepted, only the lifetime can be found
too long. -/
theorem verify_earlier {earlier later : UInt64} (hle : earlier ≤ later)
    (h : verify proof key (v.withNow later) = .ok w) :
    verify proof key (v.withNow earlier) = .ok w ∨
      verify proof key (v.withNow earlier) = .err .lifetimeTooLong := by
  obtain ⟨hauth, hholds⟩ := verify_eq_ok_iff.1 h
  have hchecks := checkClaims_eq_ok_iff.2 ⟨rfl, hholds⟩
  unfold checkClaims at hchecks
  simp only [Outcome.bind_eq_ok_iff] at hchecks
  obtain ⟨_, _, _, _, _, haud, _, hwth, _, htxn, _, hoth, _⟩ := hchecks
  have hexp :
      Outcome.failIf (saturatingAdd w.claims.exp v.leeway ≤ earlier)
        WptError.expired
      = .ok () := by
    rw [Outcome.failIf_eq_ok_iff, decide_eq_false_iff_not, UInt64.not_le]
    exact UInt64.lt_of_le_of_lt hle hholds.exp
  have hvalue : verify proof key (v.withNow earlier) = (do
      Outcome.failIf (v.maxLifetime.any
        (· < saturatingSub w.claims.exp earlier)) .lifetimeTooLong
      .ok w) := by
    rw [verify_eq, ← Outcome.ifSome_failIf]
    refine (Outcome.bind_of_ok hauth).trans ?_
    unfold checkClaims
    refine (Outcome.bind_of_ok hexp).trans (bind_congr fun _ => ?_)
    refine (Outcome.bind_of_ok haud).trans ((Outcome.bind_of_ok hwth).trans ?_)
    exact (Outcome.bind_of_ok htxn).trans (Outcome.bind_of_ok hoth)
  rw [hvalue]
  cases v.maxLifetime.any (· < saturatingSub w.claims.exp earlier) with
  | false => exact Or.inl rfl
  | true => exact Or.inr rfl

/-- What is accepted at two times is accepted between them. -/
theorem verify_between {first now last : UInt64} (hfirst : first ≤ now)
    (hlast : now ≤ last) {w' : VerifiedWpt}
    (h : verify proof key (v.withNow first) = .ok w)
    (h' : verify proof key (v.withNow last) = .ok w') :
    verify proof key (v.withNow now) = .ok w := by
  rw [verify_eq_ok_iff] at h h'
  obtain ⟨hauth, hholds⟩ := h
  obtain ⟨hauth', hholds'⟩ := h'
  have hclaims : w.claims = w'.claims :=
    Outcome.ok.inj (hauth.symm.trans hauth')
  have hbound : Bound w.claims (v.withNow now) :=
    ⟨hholds.wth, hholds.tth, hholds.oth⟩
  refine verify_eq_ok_iff.2 ⟨hauth, hbound, ?_, fun max hmax => ?_, hholds.aud⟩
  · rw [hclaims]
    exact UInt64.lt_of_le_of_lt hlast hholds'.exp
  · have hle := hholds.lifetime max hmax
    rw [saturatingSub_le_iff] at hle ⊢
    rw [UInt64.le_iff_toNat_le] at hfirst
    dsimp only [Validation.withNow] at hle ⊢
    omega

end

end Wimsey.Wpt

/-! ## The clock of the three verifiers -/

namespace Wimsey

open Wimsey.RustStd Wimsey.Codec Wimsey.Serde Wimsey.Jose

/-- The clock checks of the three verifiers are exact, and each credential is
accepted in one interval of times. -/
theorem clock_exact {M : Type} [HttpSig.ComponentSource M] [Base64] [SerdeJson]
    [Wpt.Sha2] [Ed25519] [P256] (message : M) (signatureInput signature : Str)
    (config : HttpSig.VerifyConfig) (token : Str) (v : Wit.Validation)
    (proof : Str) (v' : Wpt.Validation) (key : VerifyingKey) :
    -- What each verifier decides.
    (∀ w, HttpSig.verify message signatureInput signature key config = .ok w ↔
      ∃ member,
        HttpSig.Authentic message signatureInput signature key config member ∧
        HttpSig.Untimed config member.components member.params ∧
        HttpSig.InTime config.now config.maxAge config.leeway member.params ∧
        w =
          { label := member.label
            components := member.components
            params := member.params }) ∧
    (v.now.toNat < 2 ^ 64 - 1 → ∀ w, Wit.verify token key v = .ok w ↔
      Wit.authenticate token key = .ok (w.claims, w.kid) ∧
        Wit.InTime v.now v.leeway w.claims ∧
        (∀ iss, v.expectedIssuer = some iss → w.claims.iss = some iss) ∧
        w.claims.cnf.jwk.toVerifyingKey = .ok w.popKey) ∧
    (v'.now.toNat < 2 ^ 64 - 1 → ∀ w, Wpt.verify proof key v' = .ok w ↔
      Wpt.authenticate proof key = .ok w.claims ∧
        Wpt.InTime v'.now v'.leeway v'.maxLifetime w.claims ∧
        Wpt.Bound w.claims v' ∧
        w.claims.aud = v'.audience) ∧
    -- The accepting times.
    OneInterval (fun now => ∃ w,
      HttpSig.verify message signatureInput signature key (config.withNow now)
      = .ok w) ∧
    OneInterval (fun now => ∃ w, Wit.verify token key (v.withNow now) = .ok w) ∧
    OneInterval (fun now => ∃ w,
      Wpt.verify proof key (v'.withNow now) = .ok w) ∧
    -- What is past stays rejected.
    (∀ earlier later, earlier ≤ later →
      (HttpSig.verify message signatureInput signature key
        (config.withNow earlier) = .err .expired ∨
        HttpSig.verify message signatureInput signature key
          (config.withNow earlier) = .err .tooOld →
        ∀ w,
          HttpSig.verify message signatureInput signature key
            (config.withNow later) ≠ .ok w) ∧
      (Wit.verify token key (v.withNow earlier) = .err .expired →
        ∀ w, Wit.verify token key (v.withNow later) ≠ .ok w) ∧
      (Wpt.verify proof key (v'.withNow earlier) = .err .expired →
        ∀ w, Wpt.verify proof key (v'.withNow later) ≠ .ok w)) := by
  refine ⟨fun w => HttpSig.verify_iff_inTime,
    fun hv w => Wit.verify_iff_inTime hv,
    fun hv' w => Wpt.verify_iff_inTime hv', ?_, ?_, ?_, ?_⟩
  · apply oneInterval_of_between
    intro first now last hfirst hlast ⟨w, hw⟩ ⟨w', hw'⟩
    exact ⟨w, HttpSig.verify_between hfirst hlast hw hw'⟩
  · apply oneInterval_of_between
    intro first now last hfirst hlast ⟨w, hw⟩ ⟨w', hw'⟩
    exact ⟨w, Wit.verify_between hfirst hlast hw hw'⟩
  · apply oneInterval_of_between
    intro first now last hfirst hlast ⟨w, hw⟩ ⟨w', hw'⟩
    exact ⟨w, Wpt.verify_between hfirst hlast hw hw'⟩
  · intro earlier later hle
    refine ⟨fun he w hw => ?_, fun he w hw => ?_, fun he w hw => ?_⟩
    · rcases HttpSig.verify_earlier hle hw with h | h <;> rcases he
        with he | he <;>
        cases he.symm.trans h
    · rcases Wit.verify_earlier hle hw with h | h <;> cases he.symm.trans h
    · rcases Wpt.verify_earlier hle hw with h | h <;> cases he.symm.trans h

namespace Example.Clock

open scoped Rfc4648 P256.Keyless

local instance : Ed25519 :=
  Ed25519.signing Wit.Example.signingInput Wit.Example.signature

local instance : Wpt.Sha2 := Wpt.Sha2.single [] (Vector.replicate 32 0)

noncomputable local instance : SerdeJson := Wit.Example.serdeJson

/-- A token that expires at 100 is accepted at 99, and not at 100. -/
theorem clock_exact_example :
    ∃ token w,
      Wit.verify token Wit.Example.key.verifyingKey (Wit.Validation.at 99)
        = .ok w ∧
      ∀ w',
        Wit.verify token Wit.Example.key.verifyingKey (Wit.Validation.at 100)
          ≠ .ok w' := by
  obtain ⟨token, hauth, hpop⟩ := Wit.Example.exists_token
  have hexact := fun now =>
    (clock_exact HttpSig.Example.request [] [] HttpSig.Example.config token
      (Wit.Validation.at now) [] (Wpt.Validation.new now [] [])
      Wit.Example.key.verifyingKey).2.1
  refine ⟨token, ⟨Wit.Example.claims, none, Wit.Example.key.verifyingKey⟩, ?_,
    fun w' hw' => ?_⟩
  · refine (hexact 99 (by decide) _).2 ⟨hauth, ⟨by decide, nofun⟩, nofun, hpop⟩
  · obtain ⟨hauth', htime, _⟩ := (hexact 100 (by decide) w').1 hw'
    have hclaims := (Prod.mk.inj (Outcome.ok.inj (hauth.symm.trans hauth'))).1
    rw [← hclaims] at htime
    exact absurd htime.exp (by decide)

end Example.Clock

end Wimsey
