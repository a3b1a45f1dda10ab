import SbomGate.Proofs.Intake
/-!
# SbomGate.Proofs.Discretion

**What a caller who is not admitted learns**: the category of the failure and
nothing else.

The response is a function of the category (`refusalOf`), so two requests that
fail in the same way are answered alike, whatever the gates hold, whatever the
time is and whatever was sent beside the credential. A caller without a
credential leaves no trace either: nothing is looked up for one.
-/

namespace SbomGate.Auth

open Token Keys

/-! ### Failures without a credential -/

/-- Once there is a token, whatever fails is not its absence. -/
theorem examine_category {e : Expectation} {now : Int} {token : Bytes} {h : Header}
    {key : VerificationKey} {f : Error} (hx : examine e now token h key = .error f) :
    f.category = .tokenInvalid ∨ f.category = .tokenExpired := by
  rcases bind_eq_error_iff.mp hx with hx | ⟨⟨⟩, -, hx⟩
  · exact .inl (category_of_checkAlgorithm hx)
  rcases bind_eq_error_iff.mp hx with hx | ⟨d, -, hx⟩
  · obtain ⟨r, -, rfl⟩ := mapError_eq_error_iff.mp hx
    exact .inl rfl
  · obtain ⟨failure, -, rfl⟩ := mapError_eq_error_iff.mp hx
    cases failure with
    | rejected r => exact .inl rfl
    | expired => exact .inr rfl

theorem not_fails_unauthenticated (set : KeySet) (e : Expectation) (now : Int) (token : Bytes) :
    ¬ Fails (verifyWithKeys set e now token) .unauthenticated := by
  intro hf
  rcases verifyWithKeys_cases set e now token with
    ⟨-, hf'⟩ | ⟨-, -, -, -, hf'⟩ | ⟨p, h, key, -, -, hx⟩
  · cases hf.category_eq hf'
  · cases hf.category_eq hf'
  · obtain ⟨f, hr, hcat⟩ := hf
    rcases examine_category (hx.symm.trans hr) with h | h <;> rw [hcat] at h <;> cases h

/-- Nothing is looked up for a caller without a credential. -/
theorem verify_of_unauthenticated {config : Config.Verifier} {now : Int} {s : Store}
    {credential : Option String}
    (h : Fails (verify config now s credential).2 .unauthenticated) :
    (verify config now s credential).1 = s := by
  cases hb : bearerToken credential with
  | error e => simp only [verify, hb]
  | ok token =>
      -- with a token the failure would be of another category
      exfalso
      obtain rfl := bearerToken_eq_ok_iff.mp hb
      rw [verify_of_token] at h
      cases hl : (s.get config.keySetUrl).2 with
      | error f => simp [hl, Error.category] at h
      | ok set =>
          rw [hl] at h
          exact not_fails_unauthenticated set _ _ _ h

/-- A key that cannot be found is told as such, whatever the cause: the lookup
of the key set fails, or the set has no usable key for the token. -/
theorem fails_keyResolution {config : Config.Verifier} {now : Int} {s : Store} {token : String}
    (h : (∃ f, (s.get config.keySetUrl).2 = .error f) ∨
      ∃ set, (s.get config.keySetUrl).2 = .ok set ∧ Keyless set (bytesOf token)) :
    Fails (verify config now s (some (scheme ++ token))).2 .keyResolution := by
  rw [verify_of_token]
  rcases h with ⟨f, hl⟩ | ⟨set, hl, hk⟩
  · simp [hl, Error.category]
  · rw [hl]
    exact verifyWithKeys_of_keyless hk

end SbomGate.Auth

namespace SbomGate.Gate

open Http

/-! ### Responses by category -/

/-- The response to a caller of whom only the category of the failure is
told. -/
def refusalOf (k : Auth.Category) : Response :=
  ⟨Refusal.statusOf k, Refusal.jsonHeader :: Refusal.challengeOf k,
    (Refusal.errorBody (Refusal.notice k)).text⟩

theorem handle_of_fails {g : Gate} {now : Int} {r : Request} {k : Auth.Category}
    (hr : Submits r) (hf : Auth.Fails (g.admission now r) k) :
    (g.handle now r).2 = refusalOf k := by
  obtain ⟨e, hadmission, rfl⟩ := hf
  rw [handle_of_submits hr, submit]
  rw [admission] at hadmission
  rcases hv : Auth.verify g.verifier now g.store (credential r) with ⟨store, e' | c⟩
  · rw [hv] at hadmission
    obtain rfl := Except.error.inj hadmission
    rfl
  · rw [hv] at hadmission
    cases hadmission

/-- A caller without a credential leaves the gate as it is. -/
theorem handle_of_unauthenticated {g : Gate} {now : Int} {r : Request} (hr : Submits r)
    (hf : Auth.Fails (g.admission now r) .unauthenticated) : (g.handle now r).1 = g := by
  have hstore := Auth.verify_of_unauthenticated hf
  obtain ⟨e, hadmission, -⟩ := hf
  rw [handle_of_submits hr, submit]
  rw [admission] at hadmission
  rcases hv : Auth.verify g.verifier now g.store (credential r) with ⟨store, e' | c⟩
  · rw [hv] at hstore
    obtain rfl := hstore
    rfl
  · rw [hv] at hadmission
    cases hadmission

theorem challenge_iff {k : Auth.Category} :
    (∃ value, ("www-authenticate", value) ∈ (refusalOf k).headers) ↔ k = .unauthenticated := by
  cases k <;> simp [refusalOf, Refusal.jsonHeader, Refusal.challengeOf]

/-- **A caller who is not admitted learns the category of the failure only.**
Two requests of any two gates whose admission fails in the same category have
the same response, with a challenge exactly where there was no credential; what
is in the body does not change it. Every cause for which a key cannot be found
is answered in one and the same way. A caller without a credential leaves the
gate as it is: its cache, the counters and the source of the keys included. -/
theorem handle_refused_alike {g₁ g₂ : Gate} {t₁ t₂ : Int} {r₁ r₂ : Request} {k : Auth.Category}
    (hr₁ : Submits r₁) (hr₂ : Submits r₂) (hf₁ : Auth.Fails (g₁.admission t₁ r₁) k)
    (hf₂ : Auth.Fails (g₂.admission t₂ r₂) k) :
    let response := (g₁.handle t₁ r₁).2
    (g₂.handle t₂ r₂).2 = response ∧
    ((∃ value, ("www-authenticate", value) ∈ response.headers) ↔ k = .unauthenticated) ∧
    (∀ body, (g₁.handle t₁ { r₁ with body }).2 = response) ∧
    (∀ (g : Gate) (t : Int) (r : Request) (token : String), Submits r →
      credential r = some (Auth.scheme ++ token) →
      ((∃ f, (g.store.get g.verifier.keySetUrl).2 = .error f) ∨
        ∃ set, (g.store.get g.verifier.keySetUrl).2 = .ok set ∧
          Auth.Keyless set (bytesOf token)) →
      (g.handle t r).2 = ⟨403, [("content-type", "application/json")],
        "\x7b\"error\":\"Unable to retrieve or select JWKS signing key.\"\x7d"⟩) ∧
    (k = .unauthenticated → (g₁.handle t₁ r₁).1 = g₁) := by
  intro response
  have hresponse : response = refusalOf k := handle_of_fails hr₁ hf₁
  refine ⟨?_, ?_, ?_, ?_, ?_⟩
  · rw [hresponse, handle_of_fails hr₂ hf₂]
  · rw [hresponse]
    exact challenge_iff
  · intro body
    -- neither the route nor the credential of a request is in its body
    have hr : Submits { r₁ with body } := ⟨hr₁.path, hr₁.method⟩
    rw [hresponse]
    exact handle_of_fails hr hf₁
  · intro g t r token hr hcredential hcause
    have hf : Auth.Fails (g.admission t r) .keyResolution := by
      rw [admission, hcredential]
      exact Auth.fails_keyResolution hcause
    rw [handle_of_fails hr hf]
    decide +kernel
  · rintro rfl
    exact handle_of_unauthenticated hr₁ hf₁

/-- Two gates over the sample keys, the second one with a source that is too
slow, and no room for bodies. -/
def sampleGates : Gate × Gate :=
  let slow := { Auth.sampleStore.source with failure := some (.timeout "u" (.ofSeconds 10)) }
  (⟨⟨"i", "u", "a"⟩, Auth.sampleStore, .accepting, 10⟩,
    ⟨⟨"i", "u", "b"⟩, { Auth.sampleStore with source := slow }, .accepting, 0⟩)

/-- A request for the route of submissions with a credential. -/
def sampleRequest (credential : String) (body : Bytes) : Request :=
  ⟨"POST", "/ingest/sbom", [("authorization", bytesOf credential)], body⟩

/-- The name of a key that is not there and a key set that does not come are
told alike; another scheme is told apart, and changes nothing. -/
theorem handle_refused_alike_unknown_and_late :
    let unknown := sampleRequest "Bearer eyJhbGciOiJSUzI1NiIsImtpZCI6InEifQ.e30." []
    let late := sampleRequest "Bearer " (bytesOf "too long for the gate")
    let basic := sampleRequest "Basic dTpw" []
    Auth.Fails (sampleGates.1.admission 0 unknown) .keyResolution ∧
      Auth.Fails (sampleGates.2.admission 5 late) .keyResolution ∧
      (sampleGates.2.handle 5 late).2 = (sampleGates.1.handle 0 unknown).2 ∧
      Auth.Fails (sampleGates.1.admission 0 basic) .unauthenticated ∧
      (sampleGates.1.handle 0 basic).1 = sampleGates.1 := by
  intro unknown late basic
  have hsubmits : Submits unknown ∧ Submits late ∧ Submits basic :=
    ⟨⟨by decide +kernel, rfl⟩, ⟨by decide +kernel, rfl⟩, ⟨by decide +kernel, rfl⟩⟩
  obtain ⟨hunknown, hlate, hbasic⟩ := hsubmits
  have hf₁ : Auth.Fails (sampleGates.1.admission 0 unknown) .keyResolution :=
    ⟨.keyResolution (.keyNotFound "q"), by decide +kernel, rfl⟩
  have hf₂ : Auth.Fails (sampleGates.2.admission 5 late) .keyResolution :=
    ⟨.keyResolution (.timeout "u" (.ofSeconds 10)), by decide +kernel, rfl⟩
  have hf₃ : Auth.Fails (sampleGates.1.admission 0 basic) .unauthenticated :=
    ⟨.unauthenticated, by decide +kernel, rfl⟩
  exact ⟨hf₁, hf₂, (handle_refused_alike hunknown hlate hf₁ hf₂).1, hf₃,
    (handle_refused_alike hbasic hbasic hf₃ hf₃).2.2.2.2 rfl⟩

end SbomGate.Gate
