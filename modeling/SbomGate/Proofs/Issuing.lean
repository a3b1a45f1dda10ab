import SbomGate.Proofs.OptionalClaims
import SbomGate.Sample.Keys
/-!
# SbomGate.Proofs.Issuing

**What is signed here is verified here.**

A token that is made for a key pair is put together from three texts, each of
which is read back: the header whatever the name of the key is
(`headed_sign`), the signature byte by byte, and the payload as the claims that
its text stands for (`Claims.ofPayload_text`). The payload may nest as deep as a
reader of claims allows, which skips what it does not know, so it need not be a
text that spells a value.

Whether a signature fits is up to RSA. All that is needed of it is that a
signature fits its own key pair and not the other one (`FitsAlone`).
-/

namespace SbomGate

namespace Token

open Json

/-- The text of an object is a payload once claims can be read from it: no
subject and no time is in the way of the standard view. -/
theorem Claims.ofPayload_text {ms : Members} (hcanonical : (Value.object ms).Canonical)
    (hscalar : ∀ name ∈ ["sub", "exp", "nbf"], ∀ v, ms.get? name = some v →
      v.isContainer = false)
    {c : Claims} (h : Claims.ofBytes (bytesOf (Value.object ms).text) = .ok c) :
    Claims.ofPayload (bytesOf (Value.object ms).text) = .ok c := by
  obtain ⟨root, hdocument, hroot⟩ := document_text hcanonical.inRange
  obtain ⟨start, ns, stop, rfl, -, hns⟩ :=
    Node.object_of_read (hroot.shallow _ (Nat.lt_succ_self _))
  rw [Value.Canonical] at hcanonical
  have hstop : memberStop? ns = none := by
    rw [← Option.not_isSome_iff_eq_none, memberStop?_of_read hns, hcanonical.2.eq,
      Bool.not_eq_true, List.any_eq_false]
    rintro ⟨name, v⟩ hm
    have hget := (Members.get?_eq_some_iff hcanonical.1.nodup).mpr hm
    unfold obstructs
    split
    · next htime =>
        have hv : v.isContainer = false := by
          rcases htime with rfl | rfl
          · exact hscalar "exp" (by simp) v hget
          · exact hscalar "nbf" (by simp) v hget
        simp [Value.isFilled_of_scalar hv]
    · by_cases hsub : name = "sub"
      · subst hsub
        simp [hscalar "sub" (by simp) v hget]
      · simp [hsub]
  obtain ⟨w, hw, rfl⟩ := map_eq_ok_iff.mp h
  rw [Schema.readBytes] at hw
  rw [Claims.ofPayload, hw, hdocument]
  simp only [Except.mapError, ok_bind, standardFault?, hstop, Option.map_none]
  rfl

end Token

namespace Sample.KeyPair

open Token

/-- The public key of a pair. -/
def publicKey (k : KeyPair) : Rsa.PublicKey := ⟨bytes k.modulus, bytes publicExponent⟩

/-- A signature of a message fits the pair that it was made with, and no other
one. -/
def FitsAlone (pair : KeyPair) (message : Bytes) : Prop :=
  ∀ other ∈ all, Rsa.verify other.publicKey message (Rsa.sign pair.privateKey message) = true ↔
    other = pair

/-- The numbers of the pairs are Base64. -/
theorem isOk_modulus : ∀ pair ∈ all, (Base64Url.decodeText pair.modulus).isOk = true := by
  simp only [all, List.forall_mem_cons, List.not_mem_nil, false_imp_iff, implies_true, and_true,
    primary, secondary, Base64Url.decodeText, bytesOf, String.toList_append]
  -- a long literal is not taken apart by evaluation
  repeat rw [String.toList_ofList]
  decide +kernel

theorem decodeText_of_isOk {number : String} (h : (Base64Url.decodeText number).isOk = true) :
    Base64Url.decodeText number = .ok (bytes number) := by
  unfold bytes
  cases hdecode : Base64Url.decodeText number with
  | ok b => rfl
  | error f => rw [hdecode] at h; cases h

/-- The key of the published components of a pair. -/
theorem rsaKey_of_mem_all {pair : KeyPair} (h : pair ∈ all) :
    rsaKey pair.modulus publicExponent = .ok pair.publicKey := by
  have hexponent : (Base64Url.decodeText publicExponent).isOk = true := by decide
  rw [rsaKey, decodeText_of_isOk (isOk_modulus pair h), decodeText_of_isOk hexponent]
  rfl

/-- The published key of a pair, whatever it is called, is the key of the
pair. -/
theorem signatureKey_jwk {pair : KeyPair} (h : pair ∈ all) (kid : Option String) :
    Keys.signatureKey { pair.jwk with kid := kid } = .ok (.rsa pair.publicKey) := by
  simp [Keys.signatureKey, Keys.signatureKey.signatureKeyOf, jwk, rsaKey_of_mem_all h,
    Except.mapError, Except.map]

end Sample.KeyPair

namespace Auth

open Token Keys Json Sample

/-- A signature that does not fit is told as such. -/
theorem verifySignature_of_unfit {token : Bytes} {p : Parts} {h : Header} {key : Rsa.PublicKey}
    (hd : Headed token p h) (halg : h.algorithm = .rs256) {bytes : Bytes}
    (hbytes : decodePart p.signature = .ok bytes)
    (hunfit : Rsa.verify key p.message bytes = false) :
    verifySignature (.rsa key) token = .error .invalidSignature := by
  simp only [verifySignature, verifyWith, hd.parts.ofToken?, hd.header, ok_bind, halg, hbytes,
    hunfit]
  rfl

/-- **What is signed is verified.** A token that is made for a key pair from an
object that claims can be read from has three parts, and its header names the
algorithm and the key that it was made for. Its signature verifies with the key
of the pair, which gives the claims, and is invalid with the key of the other
pair. If the name of the key is acceptable, then whatever keys are published,
with the key of the pair as the first of that name, the token is verified as its
claims are. -/
theorem sign_verified {pair : KeyPair} (hpair : pair ∈ KeyPair.all) (kid : Option String)
    {ms : Members} (hcanonical : (Value.object ms).Canonical)
    (hscalar : ∀ name ∈ ["sub", "exp", "nbf"], ∀ v, ms.get? name = some v →
      v.isContainer = false)
    {c : Claims} (hclaims : Claims.ofBytes (bytesOf (Value.object ms).text) = .ok c)
    (hfits : pair.FitsAlone (joinParts (Header.signing kid).toValue (.object ms))) :
    let token := sign pair.privateKey kid (.object ms)
    (∃ p : Parts, p.Spells (bytesOf token)) ∧
      (∃ h, readHeader (bytesOf token) = .ok h ∧ h.algorithm = .rs256 ∧ h.kid = kid) ∧
      verifySignature pair.verificationKey (bytesOf token) = .ok c ∧
      (∀ other ∈ KeyPair.all, other ≠ pair →
        verifySignature other.verificationKey (bytesOf token) = .error .invalidSignature) ∧
      ∀ k, kid = some k → checkKid k = .ok () →
        ∀ (config : Config.Verifier) (now : Int) (s : Store) (set : KeySet),
          (s.get config.keySetUrl).2 = .ok set →
          set.find? k = some { pair.jwk with kid := some k } →
          (verifyToken config now s token).2 =
            (c.verify config.expectation now).mapError .ofClaimFailure := by
  intro token
  have hd : Headed (bytesOf token) (signedParts pair.privateKey kid (.object ms))
      (Header.signing kid) := headed_sign _ _ _
  have hsigned : Signed (signedParts pair.privateKey kid (.object ms)) (Header.signing kid)
      pair.publicKey := signed_sign ((hfits pair hpair).mpr rfl)
  have hclaimed : Claimed (signedParts pair.privateKey kid (.object ms)) c :=
    ⟨_, decodePart_payload _ _ _, Claims.ofPayload_text hcanonical hscalar hclaims⟩
  refine ⟨⟨_, hd.parts⟩, ⟨_, readHeader_eq_ok_iff.mpr ⟨_, hd⟩, rfl, rfl⟩,
    (verifySignature_eq_ok_iff hd).mpr ⟨hsigned, hclaimed⟩, fun other hother hne => ?_, ?_⟩
  · refine verifySignature_of_unfit hd rfl (decodePart_signature _ _ _) ?_
    rw [signedParts_message, ← Bool.not_eq_true]
    exact mt (hfits other hother).mp hne
  · rintro k rfl hk config now s set hset hfind
    have hselects : Selects set (Header.signing (some k)) pair.publicKey :=
      ⟨k, _, rfl, checkKid_eq_ok_iff.mp hk, hfind, KeyPair.signatureKey_jwk hpair _⟩
    rw [verifyToken_eq, hset, conclude, verifyWithKeys_of_signed hd hselects hsigned hclaimed]

theorem secondary_ne_primary : KeyPair.secondary ≠ KeyPair.primary := fun h =>
  absurd (congrArg KeyPair.kid h) (by decide)

/-- The signature of the first pair for the sample claims fits the first pair, and
not the second one. -/
theorem fitsAlone_primary :
    KeyPair.primary.FitsAlone
      (joinParts (Header.signing (some "k")).toValue (.object sampleMembers)) := by
  have hverify : [KeyPair.primary, KeyPair.secondary].map (fun other =>
      Rsa.verify other.publicKey
        (joinParts (Header.signing (some "k")).toValue (.object sampleMembers))
        (Rsa.sign KeyPair.primary.privateKey
          (joinParts (Header.signing (some "k")).toValue (.object sampleMembers)))) =
      [true, false] := by
    rw [joinParts_eq]
    simp only [List.map_cons, List.map_nil, KeyPair.publicKey, KeyPair.privateKey, KeyPair.bytes,
      KeyPair.primary, KeyPair.secondary, publicExponent, Base64Url.decodeText, bytesOf,
      String.toList_append]
    repeat rw [String.toList_ofList]
    decide +kernel
  obtain ⟨hprimary, hsecondary⟩ := by simpa using hverify
  simp [KeyPair.FitsAlone, KeyPair.all, hprimary, hsecondary, secondary_ne_primary]

/-- A store of keys, the first of which is that of the first pair. -/
def primaryKeyStore : Store :=
  { sampleStore with
    source := Source.empty.publish "u" [{ KeyPair.primary.jwk with kid := some "k" }, sampleJwk] }

/-- The sample claims, signed with the first pair, are verified by it and by no
other pair. -/
theorem sign_verified_primary :
    let token := sign KeyPair.primary.privateKey (some "k") (.object sampleMembers)
    verifySignature KeyPair.primary.verificationKey (bytesOf token) =
        .ok (Claims.ofMembers sampleMembers) ∧
      verifySignature KeyPair.secondary.verificationKey (bytesOf token) =
        .error .invalidSignature ∧
      ∃ c, (verifyToken sampleVerifier 9 primaryKeyStore token).2 = .ok c := by
  intro token
  have hcanonical : (Value.object sampleMembers).Canonical := by
    simp only [Value.Canonical, sampleMembers, Members.Sorted, Value.CanonicalMembers,
      Number.InRange]
    decide
  have hscalar : ∀ name ∈ ["sub", "exp", "nbf"], ∀ v, sampleMembers.get? name = some v →
      v.isContainer = false := by
    simp [sampleMembers, Value.isContainer]
  have hclaims : Claims.ofBytes (bytesOf (Value.object sampleMembers).text) =
      .ok (Claims.ofMembers sampleMembers) := by
    decide +kernel
  have hall : KeyPair.primary ∈ KeyPair.all ∧ KeyPair.secondary ∈ KeyPair.all := by
    simp [KeyPair.all]
  obtain ⟨-, -, hfits, hunfit, hverify⟩ :=
    sign_verified hall.1 (some "k") hcanonical hscalar hclaims fitsAlone_primary
  refine ⟨hfits, hunfit _ hall.2 secondary_ne_primary, ?_⟩
  rw [hverify "k" rfl (by decide) sampleVerifier 9 primaryKeyStore
    ⟨"u", [{ KeyPair.primary.jwk with kid := some "k" }, sampleJwk]⟩ rfl rfl]
  exact ⟨_, rfl⟩

end Auth

end SbomGate
