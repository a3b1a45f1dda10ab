import SbomGate.Proofs.Signing
/-!
# SbomGate.Proofs.KeyChoice

**The first key of a name decides.**

A key verifies signatures or it does not, which is a matter of that key alone
(`Usable`). Of the keys of one name (`KeySet.named`) only the first is
looked at, so a name resolves exactly when that one is usable, whatever keys
stand behind it. As long as no two keys share the name, this is as good as
looking at all of them: the order of the keys does not matter, and neither do
keys of other names.
-/

namespace SbomGate.Keys

open Token

/-! ### One key -/

/-- A key that signatures can be verified with: RSA numbers that can be read, of
a key that names no other algorithm and is not kept for encryption. -/
structure Usable (k : Jwk) : Prop where
  numbers : ∃ n e key, k.material = .rsa n e ∧ rsaKey n e = .ok key
  algorithm : ∀ a, k.algorithm = some a → a = .signing .rs256
  use : k.use ≠ some "enc"

/-- A usable key that is published for signatures, or says nothing about its
use. -/
structure ForSignatures (k : Jwk) : Prop where
  usable : Usable k
  use : k.use = none ∨ k.use = some "sig"

/-- Whether a key verifies signatures is a matter of that key. -/
theorem exists_signatureKey_iff {k : Jwk} : (∃ key, signatureKey k = .ok key) ↔ Usable k := by
  have hof : (∃ key, signatureKey.signatureKeyOf k = .ok key) ↔
      k.use ≠ some "enc" ∧ ∃ n e key, k.material = .rsa n e ∧ rsaKey n e = .ok key := by
    unfold signatureKey.signatureKeyOf
    split
    · next henc => simp [henc]
    · next hother =>
        simp only [ne_eq, hother, not_false_eq_true, true_and]
        cases k.material with
        | rsa n e => simp [map_eq_ok_iff, mapError_eq_ok_iff]
        | _ => simp
  unfold signatureKey
  split
  · next a ha =>
      split
      · next hrs256 =>
          have halgorithm : ∀ b, k.algorithm = some b → b = .signing .rs256 := by
            intro b hb
            rw [← Option.some.inj (ha.symm.trans hb), hrs256]
          rw [hof]
          exact ⟨fun h => ⟨h.2, halgorithm, h.1⟩, fun h => ⟨h.use, h.numbers⟩⟩
      · next hother =>
          have hunusable : ¬ Usable k := fun h => hother (h.algorithm a ha)
          simp [hunusable]
  · next hnone =>
      have halgorithm : ∀ b, k.algorithm = some b → b = .signing .rs256 := by
        simp [hnone]
      rw [hof]
      exact ⟨fun h => ⟨h.2, halgorithm, h.1⟩, fun h => ⟨h.use, h.numbers⟩⟩

/-- Of keys for signatures or encryption the usable ones are for signatures. -/
theorem forSignatures_iff {k : Jwk} (h : k.use ∈ [none, some "sig", some "enc"]) :
    ForSignatures k ↔ Usable k := by
  refine ⟨ForSignatures.usable, fun husable => ⟨husable, ?_⟩⟩
  simpa [husable.use] using h

/-! ### The keys of a name -/

namespace KeySet

/-- The keys of a name, in the order of the set. -/
def named (s : KeySet) (kid : String) : List Jwk := s.keys.filter (·.kid = some kid)

theorem mem_named {s : KeySet} {kid : String} {k : Jwk} :
    k ∈ s.named kid ↔ k ∈ s.keys ∧ k.kid = some kid := by
  simp [named]

/-- The choice is made by the first key of the name. -/
theorem verificationKey_eq (s : KeySet) (kid : String) :
    s.verificationKey kid =
      match (s.named kid).head? with
      | none => .error (.keyNotFound kid)
      | some k => (signatureKey k).mapError (.unusableKey kid) := by
  rw [named, List.head?_filter]
  rfl

section

variable {s : KeySet} {kid : String}

theorem exists_verificationKey_iff :
    (∃ key, s.verificationKey kid = .ok key) ↔ ∃ k, (s.named kid).head? = some k ∧ Usable k := by
  rw [verificationKey_eq]
  cases (s.named kid).head? with
  | none => simp
  | some k => simp [mapError_eq_ok_iff, exists_signatureKey_iff]

theorem verificationKey_eq_keyNotFound_iff :
    s.verificationKey kid = .error (.keyNotFound kid) ↔ s.named kid = [] := by
  rw [verificationKey_eq, ← List.head?_eq_none_iff]
  cases (s.named kid).head? with
  | none => simp
  | some k =>
      simp only [reduceCtorEq, iff_false]
      intro h
      obtain ⟨r, -, hr⟩ := mapError_eq_error_iff.mp h
      cases hr

theorem exists_unusableKey_iff :
    (∃ r, s.verificationKey kid = .error (.unusableKey kid r)) ↔
      ∃ k, (s.named kid).head? = some k ∧ ¬ Usable k := by
  rw [verificationKey_eq]
  cases (s.named kid).head? with
  | none => simp
  | some k =>
      simp only [Option.some.injEq, exists_eq_left', ← exists_signatureKey_iff]
      cases signatureKey k with
      | ok key => simp [Except.mapError]
      | error r => simp [Except.mapError]

theorem named_of_length_le (hone : (s.named kid).length ≤ 1) :
    s.named kid = [] ∨ ∃ k, s.named kid = [k] := by
  rcases Nat.le_one_iff_eq_zero_or_eq_one.mp hone with h | h
  · exact .inl (List.length_eq_zero_iff.mp h)
  · exact .inr (List.length_eq_one_iff.mp h)

/-- Where no two keys share a name, the first key of the name is any. -/
theorem head?_named_iff (hone : (s.named kid).length ≤ 1) {k : Jwk} :
    (s.named kid).head? = some k ↔ k ∈ s.keys ∧ k.kid = some kid := by
  rw [← mem_named]
  rcases named_of_length_le hone with h | ⟨k', h⟩ <;> simp [h, eq_comm]

/-- Where no two keys share a name, the order of the keys is nothing to it. -/
theorem head?_named_of_perm (hone : (s.named kid).length ≤ 1) {s' : KeySet}
    (h : s'.keys.Perm s.keys) : (s'.named kid).head? = (s.named kid).head? := by
  have hnamed : (s'.named kid).Perm (s.named kid) := h.filter _
  rcases named_of_length_le hone with h | ⟨k, h⟩ <;> rw [h] at hnamed ⊢
  · rw [List.perm_nil.mp hnamed]
  · rw [List.perm_singleton.mp hnamed]

end

/-- **The first key of a name decides.** A name resolves exactly when the first
key that carries it is usable; it is unknown exactly when no key carries it; and
it is reported as unusable in all other cases. Keys of other names and keys
behind the first make no difference. Where no two keys share the name, it
resolves exactly when some key that carries it is usable, in whatever order the
keys are, and then, unless its key is published for some other use in words,
exactly when that key is for signatures. -/
theorem verificationKey_outcome (s : KeySet) (kid : String) :
    ((∃ key, s.verificationKey kid = .ok key) ↔
        ∃ k, (s.named kid).head? = some k ∧ Usable k) ∧
      (s.verificationKey kid = .error (.keyNotFound kid) ↔
        ∀ k ∈ s.keys, k.kid ≠ some kid) ∧
      ((∃ r, s.verificationKey kid = .error (.unusableKey kid r)) ↔
        ∃ k, (s.named kid).head? = some k ∧ ¬ Usable k) ∧
      (∀ s' : KeySet, (s'.named kid).head? = (s.named kid).head? →
        s'.verificationKey kid = s.verificationKey kid) ∧
      ((s.named kid).length ≤ 1 →
        ((∃ key, s.verificationKey kid = .ok key) ↔
          ∃ k ∈ s.keys, k.kid = some kid ∧ Usable k) ∧
        (∀ s' : KeySet, s'.keys.Perm s.keys →
          s'.verificationKey kid = s.verificationKey kid) ∧
        ((∀ k ∈ s.named kid, k.use ∈ [none, some "sig", some "enc"]) →
          ((∃ key, s.verificationKey kid = .ok key) ↔
            ∃ k ∈ s.keys, k.kid = some kid ∧ ForSignatures k))) := by
  have hcongr : ∀ s' : KeySet, (s'.named kid).head? = (s.named kid).head? →
      s'.verificationKey kid = s.verificationKey kid := by
    intro s' h
    rw [verificationKey_eq, verificationKey_eq, h]
  refine ⟨exists_verificationKey_iff, ?_, exists_unusableKey_iff, hcongr, fun hone => ?_⟩
  · rw [verificationKey_eq_keyNotFound_iff, named, List.filter_eq_nil_iff]
    simp
  · have hany : (∃ key, s.verificationKey kid = .ok key) ↔
        ∃ k ∈ s.keys, k.kid = some kid ∧ Usable k := by
      simp only [exists_verificationKey_iff, head?_named_iff hone, and_assoc]
    refine ⟨hany, fun s' h => hcongr s' (head?_named_of_perm hone h), fun huse => ?_⟩
    rw [hany]
    refine exists_congr fun k => and_congr_right fun hk => and_congr_right fun hkid => ?_
    exact (forSignatures_iff (huse k (mem_named.mpr ⟨hk, hkid⟩))).symm

/-! ### Keys that share a name -/

/-- A key on a curve, of the name of the sample key. -/
def curveJwk : Jwk :=
  { sampleJwk with material := .curvePoint "P-256" "AA" "AA" }

theorem verificationKey_sampleJwk (url : String) (keys : List Jwk) :
    verificationKey ⟨url, sampleJwk :: keys⟩ "k" = .ok (.rsa samplePublicKey) :=
  Auth.verificationKey_eq_ok_iff.mpr
    ⟨sampleJwk, List.find?_cons_of_pos (by simp [sampleJwk]), signatureKey_sampleJwk⟩

/-- A key of another name in front of the sample key makes no difference. -/
theorem verificationKey_outcome_sample :
    verificationKey ⟨"u", [{ curveJwk with kid := some "l" }, sampleJwk]⟩ "k" =
      .ok (.rsa samplePublicKey) := by
  have hone : (named ⟨"u", [sampleJwk, { curveJwk with kid := some "l" }]⟩ "k").length ≤ 1 := by
    simp [named, sampleJwk, curveJwk]
  obtain ⟨-, hperm, -⟩ := (verificationKey_outcome _ _).2.2.2.2 hone
  rw [hperm ⟨"u", [{ curveJwk with kid := some "l" }, sampleJwk]⟩ (List.Perm.swap _ _ _)]
  exact verificationKey_sampleJwk "u" _

theorem usable_sampleJwk : Usable sampleJwk :=
  exists_signatureKey_iff.mp ⟨_, signatureKey_sampleJwk⟩

/-- A usable key is not found behind another one of its name, and a key that is
published for something else than signatures is accepted. -/
theorem verificationKey_not_any_usable :
    let hidden : KeySet := ⟨"u", [curveJwk, sampleJwk]⟩
    let diverted : KeySet := ⟨"u", [{ sampleJwk with use := some "tls" }]⟩
    (sampleJwk ∈ hidden.keys ∧ sampleJwk.kid = some "k" ∧ ForSignatures sampleJwk ∧
      hidden.verificationKey "k" = .error (.unusableKey "k" .curvePoint) ∧
      verificationKey ⟨"u", hidden.keys.reverse⟩ "k" = .ok (.rsa samplePublicKey)) ∧
    (∀ k ∈ diverted.keys, ¬ ForSignatures k) ∧
      diverted.verificationKey "k" = .ok (.rsa samplePublicKey) := by
  intro hidden diverted
  refine ⟨⟨by simp [hidden], rfl, ⟨usable_sampleJwk, .inl rfl⟩, ?_,
    verificationKey_sampleJwk "u" [curveJwk]⟩, ?_, ?_⟩
  · rfl
  · intro k hk h
    obtain rfl := List.mem_singleton.mp hk
    exact absurd h.use (by simp)
  · refine Auth.verificationKey_eq_ok_iff.mpr
      ⟨_, List.find?_cons_of_pos (by simp [sampleJwk]), ?_⟩
    exact signatureKey_sampleJwk

end KeySet

end SbomGate.Keys
