import SbomGate.Auth.Verifier
import SbomGate.Proofs.ClaimChecks
import SbomGate.Proofs.Compact
/-!
# SbomGate.Proofs.Admission

**Who is admitted**, and what everyone else is told.

The verifier takes its steps in a fixed order and reads the header of the
token twice. Here its outcome is said without steps, in terms of what the
token is:

* it is `Headed`: three parts, the first of which spells a header;
* its header `Selects` a key: the first of that name in the key set;
* it is `Signed` with that key;
* it is `Attested`: all of this, and the payload holds claims that suit the
  configuration.

An attested token is admitted until it expires. What is missing of the rest
fixes the category of the error, and nothing else does.
-/

namespace SbomGate

/-- A configuration is made of texts that are not empty. -/
theorem Config.Verifier.make_eq_ok_iff {audience issuer keySetUrl : String}
    {config : Config.Verifier} :
    Config.Verifier.make audience issuer keySetUrl = .ok config ↔
      config = ⟨issuer, keySetUrl, audience⟩ ∧ audience ≠ "" ∧ issuer ≠ "" ∧ keySetUrl ≠ "" := by
  have hrequire : ∀ field value, requireText field value = .ok () ↔ value ≠ "" := by
    intro field value
    simp [requireText]
  unfold Config.Verifier.make
  constructor
  · intro h
    obtain ⟨⟨⟩, ha, h⟩ := bind_eq_ok_iff.mp h
    obtain ⟨⟨⟩, hi, h⟩ := bind_eq_ok_iff.mp h
    obtain ⟨⟨⟩, hk, h⟩ := bind_eq_ok_iff.mp h
    exact ⟨(Except.ok.inj h).symm, (hrequire _ _).mp ha, (hrequire _ _).mp hi,
      (hrequire _ _).mp hk⟩
  · rintro ⟨rfl, ha, hi, hk⟩
    rw [(hrequire _ _).mpr ha, ok_bind, (hrequire _ _).mpr hi, ok_bind, (hrequire _ _).mpr hk,
      ok_bind]
    rfl

namespace Auth

open Token Keys

/-! ### Credentials -/

theorem dropStart?_eq_some_iff {p cs rest : List Char} :
    dropStart? p cs = some rest ↔ cs = p ++ rest := by
  induction p generalizing cs with
  | nil => simp [dropStart?]
  | cons d p ih =>
      cases cs with
      | nil => simp [dropStart?]
      | cons c cs =>
          rw [dropStart?]
          split
          · next h =>
              rw [ih]
              simp [h]
          · next h => simp [eq_comm, h]

theorem bearerToken_eq_ok_iff {credential : Option String} {token : String} :
    bearerToken credential = .ok token ↔ credential = some (scheme ++ token) := by
  cases credential with
  | none => simp [bearerToken]
  | some s =>
      simp only [bearerToken, Option.bind_some, Option.some.injEq]
      constructor
      · intro h
        split at h
        · next cs hcs =>
            obtain rfl := Except.ok.inj h
            rw [← String.toList_inj, dropStart?_eq_some_iff.mp hcs]
            simp
        · cases h
      · rintro rfl
        have : dropStart? scheme.toList (scheme ++ token).toList = some token.toList :=
          dropStart?_eq_some_iff.mpr String.toList_append
        rw [this]
        simp

theorem bearerToken_eq_error {credential : Option String} {e : Error}
    (h : bearerToken credential = .error e) : e = .unauthenticated := by
  unfold bearerToken at h
  split at h
  · cases h
  · exact (Except.error.inj h).symm

/-! ### The key for a token -/

/-- A name that is looked up among the keys of a set. -/
structure KidAcceptable (kid : String) : Prop where
  /-- It is not empty. -/
  nonempty : kid ≠ ""
  /-- It is not too long. -/
  short : (bytesOf kid).length ≤ 256
  /-- It has no controls. -/
  clean : ∀ c ∈ kid.toList, isControl c = false

theorem checkKid_eq_ok_iff {kid : String} : checkKid kid = .ok () ↔ KidAcceptable kid := by
  unfold checkKid
  split
  · next h => simp only [reduceCtorEq, false_iff]; exact fun hk => hk.nonempty (by simpa using h)
  · next hne =>
      split
      · next h =>
          simp only [reduceCtorEq, false_iff]
          rintro ⟨-, hshort, hclean⟩
          rcases h with h | h
          · exact absurd hshort (Nat.not_le.mpr h)
          · obtain ⟨c, hc, hcontrol⟩ := List.any_eq_true.mp h
            rw [hclean c hc] at hcontrol
            cases hcontrol
      · next h =>
          rw [not_or, Nat.not_lt, Bool.not_eq_true, List.any_eq_false] at h
          simp only [true_iff]
          exact ⟨by simpa using hne, h.1, fun c hc => by simpa using h.2 c hc⟩

theorem category_of_checkKid {kid : String} {e : Error} (h : checkKid kid = .error e) :
    e.category = .keyResolution := by
  unfold checkKid at h
  split at h
  · obtain rfl := Except.error.inj h; rfl
  · split at h
    · obtain rfl := Except.error.inj h; rfl
    · cases h

/-- A key is for RSA if it verifies anything. -/
theorem signatureKey_rsa {k : Jwk} {key : VerificationKey} (h : signatureKey k = .ok key) :
    ∃ rsa, key = .rsa rsa := by
  have hof : ∀ {k : Jwk} {key}, signatureKey.signatureKeyOf k = .ok key → ∃ rsa, key = .rsa rsa := by
    intro k key h
    unfold signatureKey.signatureKeyOf at h
    split at h
    · cases h
    · split at h
      · obtain ⟨rsa, -, rfl⟩ := map_eq_ok_iff.mp h
        exact ⟨rsa, rfl⟩
      all_goals cases h
  unfold signatureKey at h
  split at h
  · split at h
    · exact hof h
    · cases h
  · exact hof h

/-- The header of a token names a usable key of a set: the first key of that
name can verify signatures. -/
def Selects (set : KeySet) (h : Header) (key : Rsa.PublicKey) : Prop :=
  ∃ kid k, h.kid = some kid ∧ KidAcceptable kid ∧
    set.keys.find? (fun k => k.kid = some kid) = some k ∧ signatureKey k = .ok (.rsa key)

/-- The key for a header. -/
def selectKey (set : KeySet) (h : Header) : Except Error VerificationKey := do
  let kid ← requireKid h
  (set.verificationKey kid).mapError .keyResolution

theorem requireKid_eq_ok_iff {h : Header} {kid : String} :
    requireKid h = .ok kid ↔ h.kid = some kid ∧ KidAcceptable kid := by
  unfold requireKid
  split
  · next kid' hk =>
      rw [map_eq_ok_iff]
      constructor
      · rintro ⟨⟨⟩, hu, rfl⟩
        exact ⟨hk, checkKid_eq_ok_iff.mp hu⟩
      · rintro ⟨hk', ha⟩
        obtain rfl := Option.some.inj (hk.symm.trans hk')
        exact ⟨(), checkKid_eq_ok_iff.mpr ha, rfl⟩
  · next hk => simp [hk]

/-- The first key of a name is usable if it verifies anything. -/
theorem verificationKey_eq_ok_iff {set : KeySet} {kid : String} {key : VerificationKey} :
    set.verificationKey kid = .ok key ↔
      ∃ k, set.keys.find? (fun k => k.kid = some kid) = some k ∧ signatureKey k = .ok key := by
  rw [KeySet.verificationKey, KeySet.find?]
  cases hfind : set.keys.find? fun k => k.kid = some kid with
  | none => simp
  | some k => simp [mapError_eq_ok_iff]

/-- A header selects the usable first key of an acceptable name. -/
theorem selects_iff {set : KeySet} {h : Header} {key : Rsa.PublicKey} :
    Selects set h key ↔
      ∃ kid, h.kid = some kid ∧ KidAcceptable kid ∧ set.verificationKey kid = .ok (.rsa key) := by
  simp only [Selects, verificationKey_eq_ok_iff]
  constructor
  · rintro ⟨kid, k, hkid, ha, hfind, hkey⟩
    exact ⟨kid, hkid, ha, k, hfind, hkey⟩
  · rintro ⟨kid, hkid, ha, k, hfind, hkey⟩
    exact ⟨kid, k, hkid, ha, hfind, hkey⟩

theorem selectKey_eq_ok_iff {set : KeySet} {h : Header} {key : VerificationKey} :
    selectKey set h = .ok key ↔ ∃ rsa, key = .rsa rsa ∧ Selects set h rsa := by
  simp only [selectKey, bind_eq_ok_iff, requireKid_eq_ok_iff, mapError_eq_ok_iff, selects_iff]
  constructor
  · rintro ⟨kid, ⟨hkid, ha⟩, hkey⟩
    obtain ⟨k, -, hk⟩ := verificationKey_eq_ok_iff.mp hkey
    obtain ⟨rsa, rfl⟩ := signatureKey_rsa hk
    exact ⟨rsa, rfl, kid, hkid, ha, hkey⟩
  · rintro ⟨rsa, rfl, kid, hkid, ha, hkey⟩
    exact ⟨kid, ⟨hkid, ha⟩, hkey⟩

theorem category_of_selectKey {set : KeySet} {h : Header} {e : Error}
    (he : selectKey set h = .error e) : e.category = .keyResolution := by
  rcases bind_eq_error_iff.mp he with he | ⟨kid, -, he⟩
  · unfold requireKid at he
    split at he
    · exact category_of_checkKid (map_eq_error_iff.mp he)
    · obtain rfl := Except.error.inj he; rfl
  · obtain ⟨f, -, rfl⟩ := mapError_eq_error_iff.mp he
    rfl

/-! ### What a token is -/

/-- A token of three parts, the first of which spells a header. -/
structure Headed (token : Bytes) (p : Parts) (h : Header) : Prop where
  parts : p.Spells token
  header : Header.ofPart p.header = .ok h

/-- A token that is signed with a key. -/
structure Signed (p : Parts) (h : Header) (key : Rsa.PublicKey) : Prop where
  algorithm : h.algorithm = .rs256
  signature : ∃ bytes, decodePart p.signature = .ok bytes ∧ Rsa.verify key p.message bytes = true

/-- The claims in the payload of a token. -/
def Claimed (p : Parts) (d : Claims) : Prop :=
  ∃ text, decodePart p.payload = .ok text ∧ Claims.ofPayload text = .ok d

/-- A token that is right in every way, except that it may have expired. -/
structure Attested (set : KeySet) (e : Expectation) (token : Bytes) (c : VerifiedClaims) :
    Prop where
  /-- Its header names a key of the set, and it is signed with that key. -/
  signed : ∃ p h key, Headed token p h ∧ Selects set h key ∧ Signed p h key ∧ Claimed p c.found
  /-- Its claims are the expected ones. -/
  suits : c.Suits e

theorem Headed.headerOf {token : Bytes} {p : Parts} {h : Header} (hd : Headed token p h) :
    headerOf token = .ok h :=
  headerOf_eq_ok_iff.mpr ⟨p, hd.parts, hd.header⟩

/-- A token has one header. -/
theorem Headed.unique {token : Bytes} {p p' : Parts} {h h' : Header} (hd : Headed token p h)
    (hd' : Headed token p' h') : p = p' ∧ h = h' :=
  ⟨Option.some.inj (hd.parts.ofToken?.symm.trans hd'.parts.ofToken?),
    Except.ok.inj (hd.headerOf.symm.trans hd'.headerOf)⟩

/-- A header names one key. -/
theorem Selects.unique {set : KeySet} {h : Header} {key key' : Rsa.PublicKey}
    (hs : Selects set h key) (hs' : Selects set h key') : key = key' := by
  have h₁ := selectKey_eq_ok_iff.mpr ⟨key, rfl, hs⟩
  have h₂ := selectKey_eq_ok_iff.mpr ⟨key', rfl, hs'⟩
  exact VerificationKey.rsa.inj (Except.ok.inj (h₁.symm.trans h₂))

theorem readHeader_eq_ok_iff {token : Bytes} {h : Header} :
    readHeader token = .ok h ↔ ∃ p, Headed token p h := by
  rw [readHeader, mapError_eq_ok_iff, headerOf_eq_ok_iff]
  exact ⟨fun ⟨p, hp, hh⟩ => ⟨p, hp, hh⟩, fun ⟨p, hd⟩ => ⟨p, hd.parts, hd.header⟩⟩

theorem checkAlgorithm_eq_ok_iff {a : Algorithm} :
    checkAlgorithm a.name = .ok () ↔ a = .rs256 := by
  cases a <;> decide

theorem category_of_checkAlgorithm {name : String} {e : Error}
    (h : checkAlgorithm name = .error e) : e.category = .tokenInvalid := by
  unfold checkAlgorithm at h
  split at h
  · obtain rfl := Except.error.inj h; rfl
  · split at h
    · obtain rfl := Except.error.inj h; rfl
    · cases h

/-- Of a signed token only the payload is left to read. -/
theorem verifySignature_of_signed {token : Bytes} {p : Parts} {h : Header} {key : Rsa.PublicKey}
    {text : Bytes} (hd : Headed token p h) (hs : Signed p h key)
    (ht : decodePart p.payload = .ok text) :
    verifySignature (.rsa key) token = (Claims.ofPayload text).mapError .ofFault := by
  obtain ⟨halg, bytes, hbytes, hverify⟩ := hs
  simp [verifySignature, verifyWith, hd.parts.ofToken?, hd.header, halg, hbytes, hverify, ht]

/-- The second reading of the header sees the first one's header. -/
theorem verifySignature_eq_ok_iff {token : Bytes} {p : Parts} {h : Header} {key : Rsa.PublicKey}
    {d : Claims} (hd : Headed token p h) :
    verifySignature (.rsa key) token = .ok d ↔ Signed p h key ∧ Claimed p d := by
  constructor
  · intro hv
    rw [verifySignature, mapError_eq_ok_iff] at hv
    simp only [verifyWith, hd.parts.ofToken?, hd.header, ok_bind] at hv
    split at hv
    · cases hv
    · next halg =>
        obtain ⟨bytes, hbytes, hv⟩ := bind_eq_ok_iff.mp hv
        split at hv
        · cases hv
        · next hver =>
            obtain ⟨text, htext, hv⟩ := bind_eq_ok_iff.mp hv
            exact ⟨⟨by simpa using halg, bytes, hbytes, by simpa using hver⟩, text, htext, hv⟩
  · rintro ⟨hs, text, htext, hv⟩
    rw [verifySignature_of_signed hd hs htext, hv]
    rfl

/-! ### The steps behind the choice of the key -/

/-- What is done with a token once its header and its key are known. -/
def examine (e : Expectation) (now : Int) (token : Bytes) (h : Header) (key : VerificationKey) :
    Except Error VerifiedClaims := do
  checkAlgorithm h.algorithm.name
  let claims ← (verifySignature key token).mapError .tokenInvalid
  (claims.verify e now).mapError .ofClaimFailure

theorem verifyWithKeys_eq (set : KeySet) (e : Expectation) (now : Int) (token : Bytes) :
    verifyWithKeys set e now token =
      (readHeader token >>= fun h => selectKey set h >>= examine e now token h) := by
  simp only [verifyWithKeys, selectKey, bind_assoc]
  rfl

/-- Of a signed token only the claims are left to check. -/
theorem examine_of_signed {e : Expectation} {now : Int} {token : Bytes} {p : Parts} {h : Header}
    {key : Rsa.PublicKey} {d : Claims} (hd : Headed token p h) (hs : Signed p h key)
    (hc : Claimed p d) :
    examine e now token h (.rsa key) = (d.verify e now).mapError .ofClaimFailure := by
  have halg := checkAlgorithm_eq_ok_iff.mpr hs.algorithm
  have hsig := (verifySignature_eq_ok_iff hd).mpr ⟨hs, hc⟩
  simp only [examine, halg, hsig, ok_bind, Except.mapError]

theorem examine_sound {e : Expectation} {now : Int} {token : Bytes} {p : Parts} {h : Header}
    {key : Rsa.PublicKey} {c : VerifiedClaims} (hd : Headed token p h)
    (hx : examine e now token h (.rsa key) = .ok c) :
    Signed p h key ∧ Claimed p c.found ∧ c.Suits e ∧ now < c.exp := by
  obtain ⟨⟨⟩, -, hx⟩ := bind_eq_ok_iff.mp hx
  obtain ⟨d, hd', hx⟩ := bind_eq_ok_iff.mp hx
  obtain ⟨hs, hc⟩ := (verifySignature_eq_ok_iff hd).mp (mapError_eq_ok_iff.mp hd')
  obtain ⟨⟨rfl, hsuits⟩, hlt⟩ := verify_sound (mapError_eq_ok_iff.mp hx)
  exact ⟨hs, hc, hsuits, hlt⟩

/-- Behind the choice of the key the only failures are those of the token, and
expiry is told only of a token that is right otherwise. -/
theorem examine_eq_error {e : Expectation} (he : e.issuer ≠ "") {now : Int} {token : Bytes}
    {p : Parts} {h : Header} {key : Rsa.PublicKey} {f : Error} (hd : Headed token p h)
    (hx : examine e now token h (.rsa key) = .error f) :
    f.category = .tokenInvalid ∨
      f.category = .tokenExpired ∧
        ∃ c : VerifiedClaims, Signed p h key ∧ Claimed p c.found ∧ c.Suits e ∧ c.exp ≤ now := by
  rcases bind_eq_error_iff.mp hx with hx | ⟨⟨⟩, -, hx⟩
  · -- another algorithm is refused before the signature is looked at
    exact .inl (category_of_checkAlgorithm hx)
  rcases bind_eq_error_iff.mp hx with hx | ⟨d, hsig, hx⟩
  · obtain ⟨r, -, rfl⟩ := mapError_eq_error_iff.mp hx
    exact .inl rfl
  obtain ⟨hs, hc⟩ := (verifySignature_eq_ok_iff hd).mp (mapError_eq_ok_iff.mp hsig)
  obtain ⟨failure, hfailure, rfl⟩ := mapError_eq_error_iff.mp hx
  cases failure with
  | rejected r => exact .inl rfl
  | expired =>
      obtain ⟨c, ⟨rfl, hsuits⟩, hle⟩ := (verify_eq_expired_iff he).mp hfailure
      exact .inr ⟨rfl, c, hs, hc, hsuits, hle⟩

/-! ### Outcomes with a key set -/

/-- A failure of a category. -/
def Fails {α : Type} (r : Except Error α) (k : Category) : Prop :=
  ∃ e, r = .error e ∧ e.category = k

@[simp] theorem not_fails_ok {α : Type} {a : α} {k : Category} :
    ¬ Fails (.ok a : Except Error α) k := by
  rintro ⟨e, h, -⟩
  cases h

@[simp] theorem fails_error_iff {α : Type} {e : Error} {k : Category} :
    Fails (.error e : Except Error α) k ↔ e.category = k := by
  simp [Fails]

/-- A failure has one category. -/
theorem Fails.category_eq {α : Type} {r : Except Error α} {k k' : Category} (h : Fails r k)
    (h' : Fails r k') : k = k' := by
  obtain ⟨e, rfl, rfl⟩ := h
  simpa using h'

theorem Fails.ne_ok {α : Type} {r : Except Error α} {k : Category} (h : Fails r k) (a : α) :
    r ≠ .ok a := by
  rintro rfl
  exact not_fails_ok h

section

variable {set : KeySet} {e : Expectation} {now : Int} {token : Bytes}

/-- The three ways that a token can take: it has no header, its header names
no key, or the key is used. -/
theorem verifyWithKeys_cases (set : KeySet) (e : Expectation) (now : Int) (token : Bytes) :
    (¬ (∃ p h, Headed token p h) ∧ Fails (verifyWithKeys set e now token) .tokenInvalid) ∨
      (∃ p h, Headed token p h ∧ (¬ ∃ key, Selects set h key) ∧
        Fails (verifyWithKeys set e now token) .keyResolution) ∨
      (∃ p h key, Headed token p h ∧ Selects set h key ∧
        verifyWithKeys set e now token = examine e now token h (.rsa key)) := by
  rw [verifyWithKeys_eq]
  cases hr : readHeader token with
  | error f =>
      left
      refine ⟨?_, f, rfl, ?_⟩
      · intro ⟨p, h, hd⟩
        rw [readHeader_eq_ok_iff.mpr ⟨p, hd⟩] at hr
        cases hr
      · obtain ⟨f', -, rfl⟩ := mapError_eq_error_iff.mp hr
        rfl
  | ok h =>
      right
      obtain ⟨p, hd⟩ := readHeader_eq_ok_iff.mp hr
      cases hs : selectKey set h with
      | error f =>
          refine .inl ⟨p, h, hd, ?_, f, by simp [hs], category_of_selectKey hs⟩
          intro ⟨key, hkey⟩
          rw [selectKey_eq_ok_iff.mpr ⟨key, rfl, hkey⟩] at hs
          cases hs
      | ok key =>
          obtain ⟨rsa, rfl, hkey⟩ := selectKey_eq_ok_iff.mp hs
          exact .inr ⟨p, h, rsa, hd, hkey, by simp [hs]⟩

/-- A token has the header and the key that it is attested with. -/
theorem Attested.of_selects {p : Parts} {h : Header} {key : Rsa.PublicKey} {c : VerifiedClaims}
    (ha : Attested set e token c) (hd : Headed token p h) (hkey : Selects set h key) :
    Signed p h key ∧ Claimed p c.found := by
  obtain ⟨p', h', key', hd', hkey', hs, hc⟩ := ha.signed
  obtain ⟨rfl, rfl⟩ := hd.unique hd'
  obtain rfl := hkey.unique hkey'
  exact ⟨hs, hc⟩

/-- A token whose header names no usable key of a set. -/
def Keyless (set : KeySet) (token : Bytes) : Prop :=
  ∃ p h, Headed token p h ∧ ¬ ∃ key, Selects set h key

/-- An attested token has a header that names a key. -/
theorem Attested.not_keyless {c : VerifiedClaims} (ha : Attested set e token c) :
    ¬ Keyless set token := by
  rintro ⟨p, h, hd, hno⟩
  obtain ⟨p', h', key, hd', hkey, -⟩ := ha.signed
  obtain ⟨-, rfl⟩ := hd.unique hd'
  exact hno ⟨key, hkey⟩

/-- A token is attested with one set of claims. -/
theorem Attested.unique {c c' : VerifiedClaims} (ha : Attested set e token c)
    (ha' : Attested set e token c') : c = c' := by
  obtain ⟨p, h, key, hd, hkey, -, text, htext, hc⟩ := ha.signed
  obtain ⟨-, text', htext', hc'⟩ := ha'.of_selects hd hkey
  obtain rfl := Except.ok.inj (htext.symm.trans htext')
  exact VerifiedClaims.found_injective (Except.ok.inj (hc.symm.trans hc'))

/-- Of a token that is signed with the key it selects only the claims are left
to check. -/
theorem verifyWithKeys_of_signed {p : Parts} {h : Header} {key : Rsa.PublicKey} {d : Claims}
    (hd : Headed token p h) (hkey : Selects set h key) (hs : Signed p h key)
    (hc : Claimed p d) :
    verifyWithKeys set e now token = (d.verify e now).mapError .ofClaimFailure := by
  rw [verifyWithKeys_eq, readHeader_eq_ok_iff.mpr ⟨p, hd⟩, ok_bind,
    selectKey_eq_ok_iff.mpr ⟨key, rfl, hkey⟩, ok_bind, examine_of_signed hd hs hc]

/-- An attested token is admitted until it expires. -/
theorem verifyWithKeys_of_attested (he : e.issuer ≠ "") {c : VerifiedClaims}
    (ha : Attested set e token c) :
    verifyWithKeys set e now token = if c.exp ≤ now then .error .tokenExpired else .ok c := by
  obtain ⟨p, h, key, hd, hkey, hs, hc⟩ := ha.signed
  rw [verifyWithKeys_of_signed hd hkey hs hc]
  split
  · next hle =>
      rw [(verify_eq_expired_iff he).mpr ⟨c, ⟨rfl, ha.suits⟩, hle⟩]
      rfl
  · next hlt =>
      rw [(verify_eq_ok_iff he).mpr ⟨⟨rfl, ha.suits⟩, Int.not_le.mp hlt⟩]
      rfl

theorem verifyWithKeys_of_keyless (hk : Keyless set token) :
    Fails (verifyWithKeys set e now token) .keyResolution := by
  obtain ⟨p, h, hd, hno⟩ := hk
  rcases verifyWithKeys_cases set e now token with
    ⟨hno', -⟩ | ⟨-, -, -, -, hf⟩ | ⟨p', h', key, hd', hkey, -⟩
  · exact absurd ⟨p, h, hd⟩ hno'
  · exact hf
  · obtain ⟨-, rfl⟩ := hd.unique hd'
    exact absurd ⟨key, hkey⟩ hno

/-- What is neither attested nor without a key is invalid. -/
theorem verifyWithKeys_of_not_attested (he : e.issuer ≠ "") (hk : ¬ Keyless set token)
    (ha : ¬ ∃ c, Attested set e token c) :
    Fails (verifyWithKeys set e now token) .tokenInvalid := by
  rcases verifyWithKeys_cases set e now token with
    ⟨-, hf⟩ | ⟨p, h, hd, hno, -⟩ | ⟨p, h, key, hd, hkey, hx⟩
  · exact hf
  · exact absurd ⟨p, h, hd, hno⟩ hk
  · rw [hx]
    cases hr : examine e now token h (.rsa key) with
    | ok c =>
        obtain ⟨hs, hc, hsuits, -⟩ := examine_sound hd hr
        exact absurd ⟨c, ⟨p, h, key, hd, hkey, hs, hc⟩, hsuits⟩ ha
    | error f =>
        rcases examine_eq_error he hd hr with hcat | ⟨-, c, hs, hc, hsuits, -⟩
        · exact fails_error_iff.mpr hcat
        · exact absurd ⟨c, ⟨p, h, key, hd, hkey, hs, hc⟩, hsuits⟩ ha

/-- The outcome with a key set, by what the token is. -/
theorem verifyWithKeys_outcome (he : e.issuer ≠ "") :
    (∀ c, verifyWithKeys set e now token = .ok c ↔ Attested set e token c ∧ now < c.exp) ∧
      ¬ Fails (verifyWithKeys set e now token) .unauthenticated ∧
      (Fails (verifyWithKeys set e now token) .keyResolution ↔ Keyless set token) ∧
      (Fails (verifyWithKeys set e now token) .tokenExpired ↔
        ∃ c, Attested set e token c ∧ c.exp ≤ now) ∧
      (Fails (verifyWithKeys set e now token) .tokenInvalid ↔
        ¬ Keyless set token ∧ ¬ ∃ c, Attested set e token c) := by
  -- a token has no key, is attested, or is neither, and each decides the outcome
  by_cases hk : Keyless set token
  · have hf : Fails (verifyWithKeys set e now token) .keyResolution :=
      verifyWithKeys_of_keyless hk
    have hna : ∀ c, ¬ Attested set e token c := fun c ha => ha.not_keyless hk
    refine ⟨?_, ?_, ?_, ?_, ?_⟩
    · intro c
      simp [hf.ne_ok c, hna c]
    · intro h
      cases hf.category_eq h
    · simp [hf, hk]
    · simp only [hna, false_and, exists_false, iff_false]
      intro h
      cases hf.category_eq h
    · simp only [hk, not_true_eq_false, false_and, iff_false]
      intro h
      cases hf.category_eq h
  by_cases ha : ∃ c, Attested set e token c
  · obtain ⟨c, ha⟩ := ha
    have hx : verifyWithKeys set e now token =
        if c.exp ≤ now then .error .tokenExpired else .ok c := verifyWithKeys_of_attested he ha
    have honly : ∀ d, Attested set e token d ↔ d = c :=
      fun d => ⟨fun hd => hd.unique ha, fun hd => hd ▸ ha⟩
    -- its claims are the only ones, so expiry is a question about them alone
    simp only [honly, hk, exists_eq, exists_eq_left, not_true_eq_false, and_false, iff_false]
    by_cases hle : c.exp ≤ now
    · rw [if_pos hle] at hx
      simp only [hx, fails_error_iff, Error.category, reduceCtorEq, not_false_eq_true, hle,
        and_true, false_iff, not_and, Int.not_lt]
      exact fun d hd => hd ▸ hle
    · rw [if_neg hle] at hx
      simp only [hx, not_fails_ok, not_false_eq_true, hle, and_true, Except.ok.injEq]
      exact fun d => ⟨fun h => ⟨h.symm, h ▸ Int.not_le.mp hle⟩, fun h => h.1.symm⟩
  · have hf : Fails (verifyWithKeys set e now token) .tokenInvalid :=
      verifyWithKeys_of_not_attested he hk ha
    have hna : ∀ c, ¬ Attested set e token c := fun c hc => ha ⟨c, hc⟩
    refine ⟨?_, ?_, ?_, ?_, ?_⟩
    · intro c
      simp [hf.ne_ok c, hna c]
    · intro h
      cases hf.category_eq h
    · simp only [hk, iff_false]
      intro h
      cases hf.category_eq h
    · simp only [hna, false_and, exists_false, iff_false]
      intro h
      cases hf.category_eq h
    · simp [hf, hk, ha]

end

/-! ### Outcomes with a store of keys -/

theorem scheme_append_inj {token token' : String} :
    scheme ++ token = scheme ++ token' ↔ token = token' := by
  rw [← String.toList_inj, ← String.toList_inj, String.toList_append, String.toList_append,
    List.append_cancel_left_eq]

/-- The key set is looked up first, whatever the token looks like. -/
theorem verify_of_token (config : Config.Verifier) (now : Int) (s : Store) (token : String) :
    (verify config now s (some (scheme ++ token))).2 =
      match (s.get config.keySetUrl).2 with
      | .ok set => verifyWithKeys set config.expectation now (bytesOf token)
      | .error f => .error (.keyResolution f) := by
  simp only [verify, bearerToken_eq_ok_iff.mpr rfl, verifyToken]
  rcases s.get config.keySetUrl with ⟨s', set | f⟩ <;> rfl

/-- What a token comes to once its key set has been looked up. -/
def conclude (e : Expectation) (now : Int) (token : Bytes) :
    Except Keys.Fault KeySet → Except Error VerifiedClaims
  | .ok set => verifyWithKeys set e now token
  | .error f => .error (.keyResolution f)

theorem verifyToken_eq (config : Config.Verifier) (now : Int) (s : Store) (token : String) :
    verifyToken config now s token =
      ((s.get config.keySetUrl).1,
        conclude config.expectation now (bytesOf token) (s.get config.keySetUrl).2) := by
  unfold verifyToken
  rcases s.get config.keySetUrl with ⟨s', set | f⟩ <;> rfl

/-- Nobody is admitted without an attested token, however the verifier is
configured. -/
theorem attested_of_verify {config : Config.Verifier} {now : Int} {s : Store}
    {credential : Option String} {c : VerifiedClaims}
    (h : (verify config now s credential).2 = .ok c) :
    ∃ token set, credential = some (scheme ++ token) ∧ (s.get config.keySetUrl).2 = .ok set ∧
      Attested set config.expectation (bytesOf token) c ∧ now < c.exp := by
  cases hb : bearerToken credential with
  | error e => simp [verify, hb] at h
  | ok token =>
      obtain rfl := bearerToken_eq_ok_iff.mp hb
      rw [verify_of_token] at h
      cases hl : (s.get config.keySetUrl).2 with
      | error f => simp [hl] at h
      | ok set =>
          rw [hl] at h
          -- only the third way ends well, and soundness needs no issuer to be configured
          rcases verifyWithKeys_cases set config.expectation now (bytesOf token) with
            ⟨-, hf⟩ | ⟨p, hdr, -, -, hf⟩ | ⟨p, hdr, key, hd, hkey, hx⟩
          · exact absurd h (hf.ne_ok c)
          · exact absurd h (hf.ne_ok c)
          · obtain ⟨hs, hc, hsuits, hlt⟩ := examine_sound hd (hx.symm.trans h)
            exact ⟨token, set, rfl, rfl, ⟨⟨p, hdr, key, hd, hkey, hs, hc⟩, hsuits⟩, hlt⟩

/-- **Admission, sound and complete.** A credential is admitted exactly when
it is a token of three parts that is signed with the key that its header names
in the key set, whose claims suit the configuration and have not expired; the
verified claims are then those in the payload. What is missing decides the
category of the failure. -/
theorem verify_outcome {audience issuer keySetUrl : String} {config : Config.Verifier}
    (hconfig : Config.Verifier.make audience issuer keySetUrl = .ok config) (now : Int)
    (s : Store) (credential : Option String) :
    let result := (verify config now s credential).2
    let lookup := (s.get config.keySetUrl).2
    (∀ c, result = .ok c ↔
      ∃ token set, credential = some (scheme ++ token) ∧ lookup = .ok set ∧
        Attested set config.expectation (bytesOf token) c ∧ now < c.exp) ∧
    (Fails result .unauthenticated ↔ ¬ ∃ token, credential = some (scheme ++ token)) ∧
    (Fails result .keyResolution ↔
      ∃ token, credential = some (scheme ++ token) ∧
        ((∃ f, lookup = .error f) ∨ ∃ set, lookup = .ok set ∧ Keyless set (bytesOf token))) ∧
    (Fails result .tokenExpired ↔
      ∃ token set c, credential = some (scheme ++ token) ∧ lookup = .ok set ∧
        Attested set config.expectation (bytesOf token) c ∧ c.exp ≤ now) ∧
    (Fails result .tokenInvalid ↔
      ∃ token set, credential = some (scheme ++ token) ∧ lookup = .ok set ∧
        ¬ Keyless set (bytesOf token) ∧
        ¬ ∃ c, Attested set config.expectation (bytesOf token) c) := by
  have he : config.expectation.issuer ≠ "" := by
    obtain ⟨rfl, -, hi, -⟩ := Config.Verifier.make_eq_ok_iff.mp hconfig
    exact hi
  intro result lookup
  cases hb : bearerToken credential with
  | error e =>
      obtain rfl := bearerToken_eq_error hb
      have hno : ∀ token, credential ≠ some (scheme ++ token) := by
        intro token hc
        rw [bearerToken_eq_ok_iff.mpr hc] at hb
        cases hb
      have hr : result = .error .unauthenticated := by simp only [result, verify, hb]
      simp [hr, hno, Error.category]
  | ok token =>
      obtain rfl := bearerToken_eq_ok_iff.mp hb
      have hr := verify_of_token config now s token
      change result = match lookup with
        | .ok set => verifyWithKeys set config.expectation now (bytesOf token)
        | .error f => .error (.keyResolution f) at hr
      simp only [Option.some.injEq, scheme_append_inj, exists_eq_left', exists_and_left,
        exists_eq', not_true_eq_false, iff_false]
      cases hl : lookup with
      | error f => simp [hr, hl, Error.category]
      | ok set =>
          rw [hl] at hr
          obtain ⟨hok, hun, hkey, hexp, hinv⟩ :=
            @verifyWithKeys_outcome set _ now (bytesOf token) he
          simp only [hr, Except.ok.injEq, exists_eq_left', reduceCtorEq, exists_false, false_or]
          exact ⟨hok, hun, hkey, hexp, hinv⟩

/-- A store whose source publishes one RSA key under the name `k`. -/
def sampleStore : Store :=
  { source := Source.empty.publish "u"
      [{ use := none, operations := none, algorithm := none, kid := some "k", x5u := none,
         x5c := none, x5t := none, x5tS256 := none, material := .rsa "AQAB" "AQAB" }]
    cache := ⟨.standard, [], ⟨0, 0, 0⟩, 0⟩
    cutOff := false }

/-- A header that declares a shared secret is refused although its key is
there: the token is neither without a key nor attested. -/
theorem verify_outcome_shared_secret :
    Config.Verifier.make "a" "i" "u" = .ok ⟨"i", "u", "a"⟩ ∧
      Fails (verify ⟨"i", "u", "a"⟩ 0 sampleStore
        (some "Bearer eyJhbGciOiJIUzI1NiIsImtpZCI6ImsifQ.e30.")).2 .tokenInvalid ∧
      ∃ token set, some "Bearer eyJhbGciOiJIUzI1NiIsImtpZCI6ImsifQ.e30." = some (scheme ++ token) ∧
        (sampleStore.get "u").2 = .ok set ∧ ¬ Keyless set (bytesOf token) ∧
        ¬ ∃ c, Attested set ⟨"i", "a"⟩ (bytesOf token) c := by
  have hconfig : Config.Verifier.make "a" "i" "u" = .ok ⟨"i", "u", "a"⟩ := rfl
  have hr : (verify ⟨"i", "u", "a"⟩ 0 sampleStore
      (some "Bearer eyJhbGciOiJIUzI1NiIsImtpZCI6ImsifQ.e30.")).2 =
        .error (.tokenInvalid (.unsupportedAlgorithm (.forbidden "HS256"))) := by
    decide +kernel
  have hf : Fails _ .tokenInvalid := ⟨_, hr, rfl⟩
  exact ⟨hconfig, hf, (verify_outcome hconfig 0 sampleStore _).2.2.2.2.mp hf⟩

end Auth

end SbomGate
