import SbomGate.Proofs.Outcome
import SbomGate.Token.Claims
/-!
# SbomGate.Proofs.ClaimChecks

The **checks of claims** as one condition.

`Claims.verify` compares claims one after the other. What it accepts is said
here without an order: verified claims are claims as they are found
(`VerifiedClaims.found`) that suit what is expected and have not expired. An
expired token is one of which all of that holds but the last.
-/

namespace SbomGate.Token

open Json

/-- Verified claims as they are found in a token. -/
def VerifiedClaims.found (c : VerifiedClaims) : Claims :=
  { iss := some c.iss, aud := some (.string c.aud), exp := some c.exp,
    repository := some c.repository, actor := some c.actor, sub := c.sub,
    repositoryOwner := c.repositoryOwner, repositoryId := c.repositoryId, ref := c.ref,
    sha := c.sha, workflow := c.workflow, eventName := c.eventName, runId := c.runId,
    jti := c.jti, iat := c.iat, nbf := c.nbf }

/-- The claims say who submits, and come from the issuer for the audience that
are expected. -/
structure VerifiedClaims.Suits (c : VerifiedClaims) (e : Expectation) : Prop where
  /-- The issuer is the expected one. -/
  issuer : c.iss = e.issuer
  /-- The audience is the expected one. -/
  audience : c.aud = e.audience
  /-- The repository is named. -/
  repository : c.repository ≠ ""
  /-- The actor is named. -/
  actor : c.actor ≠ ""

/-- Claims that are found determine the verified claims. -/
theorem VerifiedClaims.found_injective : Function.Injective VerifiedClaims.found := by
  intro c d h
  cases c
  cases d
  simpa [VerifiedClaims.found] using h

/-! ### Single checks -/

theorem requireText_eq_ok_iff {name s : String} {claim : Option String} :
    requireText name claim = .ok s ↔ claim = some s ∧ s ≠ "" := by
  cases claim with
  | none => simp [requireText]
  | some t =>
      by_cases h : t = "" <;> grind [requireText, String.isEmpty_iff]

theorem requireText_ne_expired {name : String} {claim : Option String} :
    requireText name claim ≠ .error .expired := by
  unfold requireText
  split
  · split <;> simp
  · simp

theorem checkIssuer_eq_ok_iff {expected s : String} {claim : Option String} :
    checkIssuer expected claim = .ok s ↔ claim = some s ∧ s ≠ "" ∧ s = expected := by
  unfold checkIssuer
  rw [except_bind_eq_ok_iff]
  constructor
  · rintro ⟨t, ht, hs⟩
    obtain ⟨rfl, hne⟩ := requireText_eq_ok_iff.mp ht
    split at hs
    · next heq =>
        obtain rfl := Except.ok.inj hs
        exact ⟨rfl, hne, heq⟩
    · cases hs
  · rintro ⟨rfl, hne, rfl⟩
    exact ⟨s, requireText_eq_ok_iff.mpr ⟨rfl, hne⟩, if_pos rfl⟩

theorem checkIssuer_ne_expired {expected : String} {claim : Option String} :
    checkIssuer expected claim ≠ .error .expired := by
  intro h
  rcases bind_eq_error_iff.mp h with h | ⟨s, -, h⟩
  · exact requireText_ne_expired h
  · split at h <;> cases h

theorem checkAudience_eq_ok_iff {expected s : String} {claim : Option Value} :
    checkAudience expected claim = .ok s ↔ claim = some (.string s) ∧ s = expected := by
  unfold checkAudience
  split
  · simp
  · simp
  · next aud => by_cases h : aud = expected <;> grind
  · next v _ hstring =>
      have : v ≠ .string s := fun h => hstring s h
      simp [this]

theorem checkAudience_ne_expired {expected : String} {claim : Option Value} :
    checkAudience expected claim ≠ .error .expired := by
  unfold checkAudience
  split
  · simp
  · simp
  · split <;> simp
  · simp

theorem requireTime_eq_ok_iff {name : String} {t : Int} {claim : Option Int} :
    requireTime name claim = .ok t ↔ claim = some t := by
  cases claim <;> simp [requireTime]

theorem requireTime_ne_expired {name : String} {claim : Option Int} :
    requireTime name claim ≠ .error .expired := by
  cases claim <;> simp [requireTime]

/-! ### All checks -/

/-- The checks that do not look at the time. -/
def Claims.attest (d : Claims) (e : Expectation) : Except ClaimFailure VerifiedClaims := do
  let iss ← checkIssuer e.issuer d.iss
  let aud ← checkAudience e.audience d.aud
  let repository ← requireText "repository" d.repository
  let actor ← requireText "actor" d.actor
  let exp ← requireTime "exp" d.exp
  return { iss, aud, exp, repository, actor, sub := d.sub, repositoryOwner := d.repositoryOwner,
           repositoryId := d.repositoryId, ref := d.ref, sha := d.sha, workflow := d.workflow,
           eventName := d.eventName, runId := d.runId, jti := d.jti, iat := d.iat, nbf := d.nbf }

/-- Expiry is looked at last, and at nothing but the time of expiry. -/
theorem Claims.verify_eq_attest (d : Claims) (e : Expectation) (now : Int) :
    d.verify e now =
      (d.attest e >>= fun c => if c.exp ≤ now then .error .expired else .ok c) := by
  simp only [Claims.verify, Claims.attest, bind_assoc]
  -- whichever check fails first fails on both sides
  cases checkIssuer e.issuer d.iss with
  | error f => rfl
  | ok iss =>
  cases checkAudience e.audience d.aud with
  | error f => rfl
  | ok aud =>
  cases requireText "repository" d.repository with
  | error f => rfl
  | ok repository =>
  cases requireText "actor" d.actor with
  | error f => rfl
  | ok actor =>
  cases requireTime "exp" d.exp with
  | error f => rfl
  | ok exp =>
  simp only [ok_bind, pure_bind]
  split <;> rfl

/-- Whatever is expected, claims that pass are what was found, and suit. -/
theorem attest_sound {e : Expectation} {d : Claims} {c : VerifiedClaims}
    (h : d.attest e = .ok c) : d = c.found ∧ c.Suits e := by
  obtain ⟨iss, hiss, h⟩ := bind_eq_ok_iff.mp h
  obtain ⟨aud, haud, h⟩ := bind_eq_ok_iff.mp h
  obtain ⟨repository, hrepository, h⟩ := bind_eq_ok_iff.mp h
  obtain ⟨actor, hactor, h⟩ := bind_eq_ok_iff.mp h
  obtain ⟨exp, hexp, h⟩ := bind_eq_ok_iff.mp h
  obtain ⟨hiss, -, hissuer⟩ := checkIssuer_eq_ok_iff.mp hiss
  obtain ⟨haud, haudience⟩ := checkAudience_eq_ok_iff.mp haud
  obtain ⟨hrepository, hrne⟩ := requireText_eq_ok_iff.mp hrepository
  obtain ⟨hactor, hane⟩ := requireText_eq_ok_iff.mp hactor
  have hexp := requireTime_eq_ok_iff.mp hexp
  obtain rfl := Except.ok.inj h
  refine ⟨?_, ⟨hissuer, haudience, hrne, hane⟩⟩
  cases d
  simp_all [VerifiedClaims.found]

/-- An issuer that is expected has a name, so claims that suit pass. -/
theorem attest_eq_ok_iff {e : Expectation} (he : e.issuer ≠ "") {d : Claims}
    {c : VerifiedClaims} : d.attest e = .ok c ↔ d = c.found ∧ c.Suits e := by
  constructor
  · exact attest_sound
  · rintro ⟨rfl, hs⟩
    have hiss : checkIssuer e.issuer c.found.iss = .ok c.iss :=
      checkIssuer_eq_ok_iff.mpr ⟨rfl, by rw [hs.issuer]; exact he, hs.issuer⟩
    have haud : checkAudience e.audience c.found.aud = .ok c.aud :=
      checkAudience_eq_ok_iff.mpr ⟨rfl, hs.audience⟩
    have hrepository : requireText "repository" c.found.repository = .ok c.repository :=
      requireText_eq_ok_iff.mpr ⟨rfl, hs.repository⟩
    have hactor : requireText "actor" c.found.actor = .ok c.actor :=
      requireText_eq_ok_iff.mpr ⟨rfl, hs.actor⟩
    have hexp : requireTime "exp" c.found.exp = .ok c.exp := requireTime_eq_ok_iff.mpr rfl
    unfold Claims.attest
    rw [hiss, ok_bind, haud, ok_bind, hrepository, ok_bind, hactor, ok_bind, hexp, ok_bind]
    rfl

theorem attest_ne_expired {e : Expectation} {d : Claims} : d.attest e ≠ .error .expired := by
  intro h
  rcases bind_eq_error_iff.mp h with h | ⟨iss, -, h⟩
  · exact checkIssuer_ne_expired h
  rcases bind_eq_error_iff.mp h with h | ⟨aud, -, h⟩
  · exact checkAudience_ne_expired h
  rcases bind_eq_error_iff.mp h with h | ⟨repository, -, h⟩
  · exact requireText_ne_expired h
  rcases bind_eq_error_iff.mp h with h | ⟨actor, -, h⟩
  · exact requireText_ne_expired h
  rcases bind_eq_error_iff.mp h with h | ⟨exp, -, h⟩
  · exact requireTime_ne_expired h
  · cases h

theorem verify_sound {e : Expectation} {d : Claims} {now : Int} {c : VerifiedClaims}
    (h : d.verify e now = .ok c) : (d = c.found ∧ c.Suits e) ∧ now < c.exp := by
  rw [Claims.verify_eq_attest] at h
  obtain ⟨c', hc', h⟩ := bind_eq_ok_iff.mp h
  split at h
  · cases h
  · next hlt =>
      obtain rfl := Except.ok.inj h
      exact ⟨attest_sound hc', Int.not_le.mp hlt⟩

theorem verify_eq_ok_iff {e : Expectation} (he : e.issuer ≠ "") {d : Claims} {now : Int}
    {c : VerifiedClaims} : d.verify e now = .ok c ↔ (d = c.found ∧ c.Suits e) ∧ now < c.exp := by
  constructor
  · exact verify_sound
  · rintro ⟨hc, hlt⟩
    rw [Claims.verify_eq_attest, (attest_eq_ok_iff he).mpr hc, ok_bind]
    exact if_neg (Int.not_le.mpr hlt)

/-- Only the time of expiry decides between acceptance and the report that a
token has expired. -/
theorem verify_eq_expired_iff {e : Expectation} (he : e.issuer ≠ "") {d : Claims} {now : Int} :
    d.verify e now = .error .expired ↔
      ∃ c : VerifiedClaims, (d = c.found ∧ c.Suits e) ∧ c.exp ≤ now := by
  rw [Claims.verify_eq_attest, bind_eq_error_iff]
  constructor
  · rintro (h | ⟨c, hc, h⟩)
    · exact absurd h attest_ne_expired
    · refine ⟨c, (attest_eq_ok_iff he).mp hc, ?_⟩
      by_contra hlt
      rw [if_neg hlt] at h
      cases h
  · rintro ⟨c, hc, hle⟩
    exact .inr ⟨c, (attest_eq_ok_iff he).mpr hc, if_pos hle⟩

end SbomGate.Token
