import SbomGate.Proofs.Admission
import SbomGate.Server.Launch
/-!
# SbomGate.Proofs.Startup

**What settings that pass their checks can start.**

Each check is inverted once (`validate_eq_ok_iff`, for a configuration and for
settings): a URL that is one, and no time, room or length of zero. From there the
configurations of the cache and of the verifier follow. A cache keeps nothing for
longer than a thousand years, and no check looks at that end of a span, so
settings that are accepted start up to there and no further.

Main results:

* `accepted_starts_iff_lasts` — what was accepted starts exactly if keys are kept
  for at most a thousand years.
* `accepted_not_started` — settings that are accepted and do not start.
-/

namespace SbomGate

theorem Duration.isZero_ofSeconds {n : UInt64} : (Duration.ofSeconds n).isZero = false ↔ n ≠ 0 := by
  have hn : n.toNat = 0 ↔ n = 0 := by rw [← UInt64.toNat_inj, UInt64.toNat_zero]
  simp [Duration.isZero, Duration.ofSeconds, hn]

theorem Duration.toNanos_ofSeconds_le {n m : UInt64} :
    (Duration.ofSeconds n).toNanos ≤ (Duration.ofSeconds m).toNanos ↔ n ≤ m := by
  simp only [Duration.toNanos, Duration.ofSeconds, Nat.add_zero, UInt64.le_iff_toNat_le]
  exact Nat.mul_le_mul_right_iff (by decide)

/-! ### The checks -/

namespace Config.Cache

theorem requireTime_eq_ok_iff {field : String} {d : Duration} :
    requireTime field d = .ok () ↔ d.isZero = false := by
  simp [requireTime]

/-- Only zero is refused. -/
theorem validate_eq_ok_iff {c : Cache} :
    c.validate = .ok () ↔
      c.ttl.isZero = false ∧ c.capacity ≠ 0 ∧ c.fetchTimeout.isZero = false := by
  unfold validate
  constructor
  · intro h
    obtain ⟨⟨⟩, httl, h⟩ := bind_eq_ok_iff.mp h
    by_cases hcapacity : c.capacity = 0
    · rw [if_pos hcapacity] at h
      cases h
    · rw [if_neg hcapacity] at h
      exact ⟨requireTime_eq_ok_iff.mp httl, hcapacity, requireTime_eq_ok_iff.mp h⟩
  · rintro ⟨httl, hcapacity, htimeout⟩
    rw [requireTime_eq_ok_iff.mpr httl, ok_bind, if_neg hcapacity]
    exact requireTime_eq_ok_iff.mpr htimeout

theorem make_eq_ok_iff {ttl fetchTimeout : Duration} {capacity : Nat} {c : Cache} :
    make ttl capacity fetchTimeout = .ok c ↔
      c = ⟨ttl, capacity, fetchTimeout⟩ ∧ c.validate = .ok () := by
  rw [make, map_eq_ok_iff]
  constructor
  · rintro ⟨⟨⟩, hvalid, rfl⟩
    exact ⟨rfl, hvalid⟩
  · rintro ⟨rfl, hvalid⟩
    exact ⟨(), hvalid, rfl⟩

end Config.Cache

/-- A cache opens unless it would keep keys for more than a thousand years. -/
theorem Keys.Cache.isSome_empty? {config : Config.Cache} :
    (Keys.Cache.empty? config).isSome = true ↔ config.ttl.toNanos ≤ longestTtl.toNanos := by
  rw [Keys.Cache.empty?]
  split
  · next hlong => simp [hlong]
  · next hlong => simp [Nat.not_lt.mp hlong]

namespace Settings

/-- The configuration of the cache, whether or not it is acceptable. -/
def cacheOf (s : Settings) : Config.Cache :=
  ⟨.ofSeconds s.cacheTtl, Config.Cache.defaultCapacity, .ofSeconds s.fetchTimeout⟩

/-- The configuration of the verifier, whether or not it is acceptable. -/
def verifierOf (s : Settings) : Config.Verifier :=
  ⟨Config.githubIssuer, Config.githubKeySetUrl, s.apiUrl⟩

theorem cacheConfig_eq_ok_iff {s : Settings} {c : Config.Cache} :
    s.cacheConfig = .ok c ↔ c = s.cacheOf ∧ s.cacheTtl ≠ 0 ∧ s.fetchTimeout ≠ 0 := by
  rw [cacheConfig, mapError_eq_ok_iff, Config.Cache.make_eq_ok_iff,
    Config.Cache.validate_eq_ok_iff]
  constructor
  · rintro ⟨rfl, httl, -, htimeout⟩
    exact ⟨rfl, Duration.isZero_ofSeconds.mp httl, Duration.isZero_ofSeconds.mp htimeout⟩
  · rintro ⟨rfl, httl, htimeout⟩
    exact ⟨rfl, Duration.isZero_ofSeconds.mpr httl,
      show Config.Cache.defaultCapacity ≠ 0 by decide, Duration.isZero_ofSeconds.mpr htimeout⟩

theorem verifierConfig_eq_ok_iff {s : Settings} {c : Config.Verifier} :
    s.verifierConfig = .ok c ↔ c = s.verifierOf ∧ s.apiUrl ≠ "" := by
  have hissuer : Config.githubIssuer ≠ "" := by decide
  have hkeys : Config.githubKeySetUrl ≠ "" := by decide
  rw [verifierConfig, mapError_eq_ok_iff, Config.Verifier.make_eq_ok_iff]
  simp [verifierOf, hissuer, hkeys]

/-- Settings are accepted if their URL is one and nothing is zero. -/
theorem validate_eq_ok_iff {s : Settings} :
    s.validate = .ok () ↔
      Text.blank s.apiUrl = false ∧ (∃ url, Url.parse s.apiUrl = .ok url) ∧ s.bodyLimit ≠ 0 ∧
        s.cacheTtl ≠ 0 ∧ s.fetchTimeout ≠ 0 := by
  unfold validate
  constructor
  · intro h
    by_cases hblank : Text.blank s.apiUrl = true
    · rw [if_pos hblank] at h
      cases h
    rw [if_neg hblank] at h
    obtain ⟨url, hurl, h⟩ := bind_eq_ok_iff.mp h
    by_cases hlimit : s.bodyLimit = 0
    · rw [if_pos hlimit] at h
      cases h
    rw [if_neg hlimit] at h
    obtain ⟨c, hc, -⟩ := bind_eq_ok_iff.mp h
    exact ⟨by simpa using hblank, ⟨url, mapError_eq_ok_iff.mp hurl⟩, hlimit,
      (cacheConfig_eq_ok_iff.mp hc).2⟩
  · rintro ⟨hblank, ⟨url, hurl⟩, hlimit, hspans⟩
    rw [if_neg (by simp [hblank]), hurl, if_neg hlimit, cacheConfig_eq_ok_iff.mpr ⟨rfl, hspans⟩]
    rfl

/-- Settings that are accepted have both configurations. -/
theorem configs_of_validate {s : Settings} (h : s.validate = .ok ()) :
    s.cacheConfig = .ok s.cacheOf ∧ s.verifierConfig = .ok s.verifierOf := by
  obtain ⟨hblank, -, -, hspans⟩ := validate_eq_ok_iff.mp h
  refine ⟨cacheConfig_eq_ok_iff.mpr ⟨rfl, hspans⟩, verifierConfig_eq_ok_iff.mpr ⟨rfl, ?_⟩⟩
  rintro hempty
  rw [hempty, Text.blank_empty] at hblank
  cases hblank

/-- The plan of settings that are accepted. -/
theorem planOf_of_validate {s : Settings} (h : s.validate = .ok ()) (filter : Log.Filter) :
    ∃ plan, Server.planOf filter s = .ok plan ∧ plan.cache = s.cacheOf := by
  obtain ⟨hcache, hverifier⟩ := configs_of_validate h
  rw [Server.planOf, h, hcache, hverifier]
  exact ⟨_, rfl, rfl⟩

/-- The cache of settings opens up to a thousand years. -/
theorem isSome_empty?_cacheOf {s : Settings} :
    (Keys.Cache.empty? s.cacheOf).isSome = true ↔ s.cacheTtl ≤ 1000 * 365 * 24 * 3600 := by
  rw [Keys.Cache.isSome_empty?, cacheOf, Keys.longestTtl, Duration.toNanos_ofSeconds_le]

end Settings

/-- **What was accepted starts, up to a thousand years.** Settings that are
accepted have a configuration of the cache, one of the verifier and a plan, and
the cache and the gate open exactly if keys are kept for at most a thousand years
of 365 days. Of configurations the same is true, whether they were made from
values or read from a text and checked. -/
theorem accepted_starts_iff_lasts (s : Settings) (ttl : Duration) (capacity : Nat)
    (fetchTimeout : Duration) (text : Bytes) :
    (s.validate = .ok () → ∃ cache verifier,
      s.cacheConfig = .ok cache ∧ s.verifierConfig = .ok verifier ∧
        ((Keys.Cache.empty? cache).isSome = true ↔ s.cacheTtl ≤ 1000 * 365 * 24 * 3600) ∧
        ∀ filter, ∃ plan, Server.planOf filter s = .ok plan ∧ ∀ source,
          ((plan.gate? source).isSome = true ↔ s.cacheTtl ≤ 1000 * 365 * 24 * 3600)) ∧
      (∀ config, Config.Cache.make ttl capacity fetchTimeout = .ok config →
        ((Keys.Cache.empty? config).isSome = true ↔
          ttl.toNanos ≤ Keys.longestTtl.toNanos)) ∧
      ∀ config, Config.Cache.ofBytes text = .ok config → config.validate = .ok () →
        ((Keys.Cache.empty? config).isSome = true ↔
          config.ttl.toNanos ≤ Keys.longestTtl.toNanos) := by
  refine ⟨fun h => ?_, fun config h => ?_, fun _ _ _ => Keys.Cache.isSome_empty?⟩
  · obtain ⟨hcache, hverifier⟩ := Settings.configs_of_validate h
    refine ⟨_, _, hcache, hverifier, Settings.isSome_empty?_cacheOf, fun filter => ?_⟩
    obtain ⟨plan, hplan, hconfig⟩ := Settings.planOf_of_validate h filter
    refine ⟨plan, hplan, fun source => ?_⟩
    rw [Server.Plan.gate?, Option.isSome_map, hconfig]
    exact Settings.isSome_empty?_cacheOf
  · obtain ⟨rfl, -⟩ := Config.Cache.make_eq_ok_iff.mp h
    exact Keys.Cache.isSome_empty?

/-- Settings with a time for which keys are kept. -/
def sampleSettings (cacheTtl : UInt64) : Settings :=
  { apiUrl := "https://[::1]", cacheTtl, fetchTimeout := 10, logLevel := "info",
    bindAddress := .v4 [0, 0, 0, 0] 8000, bodyLimit := 10485760, databaseUrl := none }

theorem validate_sampleSettings {cacheTtl : UInt64} (h : cacheTtl ≠ 0) :
    (sampleSettings cacheTtl).validate = .ok () := by
  have hurl : (Url.parse "https://[::1]").isOk = true := by decide +kernel
  refine Settings.validate_eq_ok_iff.mpr
    ⟨show Text.blank "https://[::1]" = false by decide, ?_, show (10485760 : UInt64) ≠ 0 by decide,
      h, show (10 : UInt64) ≠ 0 by decide⟩
  change ∃ url, Url.parse "https://[::1]" = .ok url
  cases hparse : Url.parse "https://[::1]" with
  | ok url => exact ⟨url, rfl⟩
  | error flaw => rw [hparse] at hurl; cases hurl

/-- Keys can be kept for an hour, by settings, by values and by a text. -/
theorem accepted_starts_iff_lasts_hour :
    (∃ cache, (sampleSettings 3600).cacheConfig = .ok cache ∧
      (Keys.Cache.empty? cache).isSome = true) ∧
      (∃ config, Config.Cache.make (.ofSeconds 3600) 4 (.ofSeconds 10) = .ok config ∧
        (Keys.Cache.empty? config).isSome = true) ∧
      ∃ config, Config.Cache.ofBytes (bytesOf "\x7b\"ttl\":\"1h\"\x7d") = .ok config ∧
        (Keys.Cache.empty? config).isSome = true := by
  obtain ⟨hsettings, hmade, hread⟩ := accepted_starts_iff_lasts (sampleSettings 3600)
    (.ofSeconds 3600) 4 (.ofSeconds 10) (bytesOf "\x7b\"ttl\":\"1h\"\x7d")
  refine ⟨?_, ?_, ?_⟩
  · obtain ⟨cache, -, hcache, -, hopens, -⟩ := hsettings (validate_sampleSettings (by decide))
    exact ⟨cache, hcache, hopens.mpr (by decide)⟩
  · have h : Config.Cache.make (.ofSeconds 3600) 4 (.ofSeconds 10) = .ok .standard := by decide
    exact ⟨_, h, (hmade _ h).mpr (by decide)⟩
  · have h : Config.Cache.ofBytes (bytesOf "\x7b\"ttl\":\"1h\"\x7d") = .ok .standard := by
      decide +kernel
    exact ⟨_, h, (hread _ h (by decide)).mpr (by decide)⟩

/-- Settings, values and a text by which keys are kept for more than a thousand
years are accepted, and do not start. -/
theorem accepted_not_started :
    (sampleSettings 31656952001).validate = .ok () ∧
      (∃ cache, (sampleSettings 31656952001).cacheConfig = .ok cache ∧
        Keys.Cache.empty? cache = none) ∧
      (∃ config, Config.Cache.make (.ofSeconds 31656952001) 4 (.ofSeconds 10) = .ok config ∧
        Keys.Cache.empty? config = none) ∧
      ∃ config, Config.Cache.ofBytes (bytesOf "\x7b\"ttl\":\"31656952001s\"\x7d") = .ok config ∧
        config.validate = .ok () ∧ Keys.Cache.empty? config = none := by
  refine ⟨validate_sampleSettings (by decide), ⟨_, rfl, by decide⟩, ⟨_, rfl, by decide⟩, ?_⟩
  refine ⟨⟨.ofSeconds 31656952001, 4, .ofSeconds 10⟩, by decide +kernel, by decide, by decide⟩

end SbomGate
