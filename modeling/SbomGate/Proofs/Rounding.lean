import Mathlib.Data.Int.Log
import Mathlib.Data.Rat.Floor
import SbomGate.Binary64.Shortest
/-!
# SbomGate.Proofs.Rounding

**Decimals are read by value, and every double is read back from its shortest
decimal.**

`nearest?` and `ofDecimal?` work on numerators, denominators and digits. What
they find depends on nothing but the rational number behind these, so a
decimal may be padded with zeros or moved along its exponent. The magnitude of
a double is a number that rounds to that double, and the search for the
shortest decimal ends at the exact one at the latest.
-/

namespace SbomGate

/-! ### Powers -/

/-- A power with a negative exponent is written in the denominator. -/
theorem zpow_eq_div {b : Nat} (hb : 0 < b) (k : Int) :
    (b : ℚ) ^ k = (b : ℚ) ^ k.toNat / (b : ℚ) ^ (-k).toNat := by
  have hb' : (b : ℚ) ≠ 0 := by exact_mod_cast hb.ne'
  rw [← zpow_natCast, ← zpow_natCast, ← zpow_sub₀ hb']
  congr 1
  omega

/-- A power of the base moves the logarithm by its exponent. -/
theorem log_mul_zpow {b : Nat} (hb : 1 < b) {q : ℚ} (hq : 0 < q) (e : Int) :
    Int.log b (q * (b : ℚ) ^ e) = Int.log b q + e := by
  have hb' : (0 : ℚ) < b := by exact_mod_cast Nat.zero_lt_of_lt hb
  have hpow : (0 : ℚ) < (b : ℚ) ^ e := zpow_pos hb' e
  refine eq_of_forall_le_iff ?_
  intro x
  rw [← Int.zpow_le_iff_le_log hb (mul_pos hq hpow), ← sub_le_iff_le_add,
    ← Int.zpow_le_iff_le_log hb hq, zpow_sub₀ hb'.ne', div_le_iff₀ hpow]

namespace Binary64

/-! ### Rounding a fraction -/

theorem roundDiv_mul {k : Nat} (hk : 0 < k) (n d : Nat) :
    roundDiv (k * n) (k * d) = roundDiv n d := by
  have hlt : ∀ a b, 2 * (k * a) < k * b ↔ 2 * a < b := by
    intro a b
    rw [Nat.mul_left_comm, Nat.mul_lt_mul_left hk]
  have hgt : ∀ a b, k * b < 2 * (k * a) ↔ b < 2 * a := by
    intro a b
    rw [Nat.mul_left_comm, Nat.mul_lt_mul_left hk]
  simp only [roundDiv, Nat.mul_div_mul_left _ _ hk, Nat.mul_mod_mul_left, hlt, hgt]

/-- Equal fractions are rounded alike. -/
theorem roundDiv_congr {n d n' d' : Nat} (hd : 0 < d) (hd' : 0 < d') (h : n * d' = n' * d) :
    roundDiv n d = roundDiv n' d' := by
  rw [← roundDiv_mul hd' n d, ← roundDiv_mul hd n' d', Nat.mul_comm d' n, h, Nat.mul_comm n' d,
    Nat.mul_comm d' d]

/-- A whole number is its own rounding. -/
theorem roundDiv_mul_self (m : Nat) {d : Nat} (hd : 0 < d) : roundDiv (m * d) d = m := by
  simp [roundDiv, Nat.mul_div_cancel m hd, hd]

theorem unitsOf_eq (n d : Nat) (e : Int) :
    unitsOf n d e = roundDiv (n * 2 ^ (-e).toNat) (d * 2 ^ e.toNat) := by
  unfold unitsOf
  split
  · next he => simp [Int.toNat_of_nonpos (Int.neg_nonpos_of_nonneg he)]
  · next he => simp [Int.toNat_of_nonpos (Int.le_of_lt (Int.not_le.mp he))]

/-! ### The last place -/

theorem atLeastPow_eq_true_iff {n d : Nat} (hd : 0 < d) {k : Int} :
    atLeastPow n d k = true ↔ (2 : ℚ) ^ k ≤ n / d := by
  have hd' : (0 : ℚ) < d := by exact_mod_cast hd
  have hp : (0 : ℚ) < 2 ^ (-k).toNat := by positivity
  have hnat : atLeastPow n d k = true ↔ d * 2 ^ k.toNat ≤ n * 2 ^ (-k).toNat := by
    unfold atLeastPow
    split
    · next hk => simp [Int.toNat_of_nonpos (Int.neg_nonpos_of_nonneg hk)]
    · next hk => simp [Int.toNat_of_nonpos (Int.le_of_lt (Int.not_le.mp hk))]
  have hpow := zpow_eq_div (b := 2) (by decide) k
  rw [hnat, show (2 : ℚ) = ((2 : Nat) : ℚ) from rfl, hpow, le_div_iff₀ hd', div_mul_eq_mul_div,
    div_le_iff₀ (by exact_mod_cast hp), mul_comm (_ ^ _ : ℚ)]
  exact_mod_cast Iff.rfl

/-- The quotient of the powers of two below two numbers is its own power of two
or twice that. -/
theorem log_fraction_bounds {n d : Nat} (hn : 0 < n) (hd : 0 < d) :
    (n.log2 : Int) - d.log2 - 1 ≤ Int.log 2 (n / d : ℚ) ∧
      Int.log 2 (n / d : ℚ) ≤ (n.log2 : Int) - d.log2 := by
  have hd' : (0 : ℚ) < d := by exact_mod_cast hd
  have hq : (0 : ℚ) < n / d := by positivity
  have hnlo : (2 : ℚ) ^ (n.log2 : Int) ≤ n := by
    exact_mod_cast Nat.log2_self_le hn.ne'
  have hnhi : (n : ℚ) < 2 ^ ((n.log2 : Int) + 1) := by
    exact_mod_cast Nat.lt_log2_self (n := n)
  have hdlo : (2 : ℚ) ^ (d.log2 : Int) ≤ d := by
    exact_mod_cast Nat.log2_self_le hd.ne'
  have hdhi : (d : ℚ) < 2 ^ ((d.log2 : Int) + 1) := by
    exact_mod_cast Nat.lt_log2_self (n := d)
  have hsub : ∀ a b : Int, (2 : ℚ) ^ (a - b) = 2 ^ a / 2 ^ b := zpow_sub₀ two_ne_zero
  constructor
  · refine (Int.zpow_le_iff_le_log one_lt_two hq).mp ?_
    rw [Nat.cast_ofNat, Int.sub_sub, hsub]
    exact div_le_div₀ (Nat.cast_nonneg n) hnlo hd' hdhi.le
  · refine Int.lt_add_one_iff.mp ((Int.lt_zpow_iff_log_lt one_lt_two hq).mp ?_)
    rw [Nat.cast_ofNat, sub_add_eq_add_sub, hsub]
    exact div_lt_div₀ hnhi hdlo (zpow_pos two_pos _).le (zpow_pos two_pos _)

theorem lastPlace_eq {n d : Nat} (hn : 0 < n) (hd : 0 < d) :
    lastPlace n d = max (Int.log 2 (n / d : ℚ) - 52) (-1074) := by
  have hq : (0 : ℚ) < n / d := by
    have : (0 : ℚ) < d := by exact_mod_cast hd
    positivity
  have hle : atLeastPow n d (n.log2 - d.log2) = true ↔
      (n.log2 : Int) - d.log2 ≤ Int.log 2 (n / d : ℚ) := by
    rw [atLeastPow_eq_true_iff hd, ← Int.zpow_le_iff_le_log one_lt_two hq, Nat.cast_ofNat]
  obtain ⟨hlow, hhigh⟩ := log_fraction_bounds hn hd
  unfold lastPlace
  dsimp only
  split
  · next h =>
      rw [Int.le_antisymm hhigh (hle.mp h)]
  · next h =>
      have hlt : Int.log 2 (n / d : ℚ) < (n.log2 : Int) - d.log2 :=
        Int.not_le.mp fun hk => h (hle.mpr hk)
      rw [show Int.log 2 (n / d : ℚ) = (n.log2 : Int) - d.log2 - 1 by omega]

/-- Which double is nearest depends on the fraction as a number. -/
theorem nearest?_congr {s : Bool} {n d n' d' : Nat} (hd : 0 < d) (hd' : 0 < d')
    (h : (n / d : ℚ) = n' / d') : nearest? s n d = nearest? s n' d' := by
  have hd₀ : (d : ℚ) ≠ 0 := by exact_mod_cast hd.ne'
  have hd₀' : (d' : ℚ) ≠ 0 := by exact_mod_cast hd'.ne'
  have hcross : n * d' = n' * d := by exact_mod_cast (div_eq_div_iff hd₀ hd₀').mp h
  by_cases hn : n = 0
  · subst hn
    have hn' : n' = 0 := by
      rw [Nat.zero_mul, eq_comm, Nat.mul_eq_zero] at hcross
      exact hcross.resolve_right hd.ne'
    rw [hn', nearest?, nearest?]
    rfl
  · have hn' : n' ≠ 0 := by
      rintro rfl
      rw [Nat.zero_mul, Nat.mul_eq_zero] at hcross
      exact hcross.elim hn hd'.ne'
    -- equal fractions have one last place, and as many units in it
    have hplace : lastPlace n d = lastPlace n' d' := by
      rw [lastPlace_eq (Nat.pos_of_ne_zero hn) hd, lastPlace_eq (Nat.pos_of_ne_zero hn') hd', h]
    have hunits : ∀ e, unitsOf n d e = unitsOf n' d' e := by
      intro e
      rw [unitsOf_eq, unitsOf_eq]
      refine roundDiv_congr (Nat.mul_pos hd (by positivity)) (Nat.mul_pos hd' (by positivity)) ?_
      calc n * 2 ^ (-e).toNat * (d' * 2 ^ e.toNat)
          = n * d' * (2 ^ (-e).toNat * 2 ^ e.toNat) := by ring
        _ = n' * 2 ^ (-e).toNat * (d * 2 ^ e.toNat) := by rw [hcross]; ring
    simp only [nearest?, hn, hn', if_false, hplace, hunits]

/-! ### Doubles -/

/-- The magnitude of a double. -/
def magnitude (x : Binary64) : ℚ := x.mantissa * (2 : ℚ) ^ x.exponent

theorem zero_of_mantissa {x : Binary64} (h : x.mantissa = 0) : x = zero x.negative := by
  cases x with
  | mk s m e hnormal =>
      obtain rfl : m = 0 := h
      obtain rfl : e = -1074 := hnormal.2.2.2.resolve_left (by decide)
      rfl

/-- The last place of the magnitude of a double is the exponent of the
double. -/
theorem max_log_magnitude {x : Binary64} (hm : x.mantissa ≠ 0) :
    max (Int.log 2 x.magnitude - 52) (-1074) = x.exponent := by
  obtain ⟨hbound, hlow, -, hfull⟩ := x.normal
  have hm' : (0 : ℚ) < x.mantissa := by exact_mod_cast Nat.pos_of_ne_zero hm
  have hlog : Int.log 2 x.magnitude = Nat.log 2 x.mantissa + x.exponent := by
    have h := log_mul_zpow one_lt_two hm' x.exponent
    rwa [Int.log_natCast, Nat.cast_ofNat] at h
  have hlt : Nat.log 2 x.mantissa < 53 := (Nat.log_lt_iff_lt_pow one_lt_two hm).mpr hbound
  rw [hlog]
  -- a full mantissa has 53 digits; any other is at the least exponent
  rcases hfull with hfull | hexponent
  · have hge : 52 ≤ Nat.log 2 x.mantissa := (Nat.le_log_iff_pow_le one_lt_two hm).mpr hfull
    omega
  · omega

/-- The magnitude of a double rounds to that double. -/
theorem nearest?_magnitude {x : Binary64} (hm : x.mantissa ≠ 0) {n d : Nat} (hd : 0 < d)
    (h : (n / d : ℚ) = x.magnitude) : nearest? x.negative n d = some x := by
  have hpos : 0 < 2 ^ (-x.exponent).toNat := by positivity
  have hvalue : (n / d : ℚ) =
      (x.mantissa * 2 ^ x.exponent.toNat : Nat) / (2 ^ (-x.exponent).toNat : Nat) := by
    rw [h, magnitude, show (2 : ℚ) = ((2 : Nat) : ℚ) from rfl, zpow_eq_div (by decide)]
    push_cast
    ring
  have hn : x.mantissa * 2 ^ x.exponent.toNat ≠ 0 := Nat.mul_ne_zero hm (by positivity)
  have hplace : lastPlace (x.mantissa * 2 ^ x.exponent.toNat) (2 ^ (-x.exponent).toNat) =
      x.exponent := by
    rw [lastPlace_eq (Nat.pos_of_ne_zero hn) hpos, ← hvalue, h, max_log_magnitude hm]
  have hunits : unitsOf (x.mantissa * 2 ^ x.exponent.toNat) (2 ^ (-x.exponent).toNat) x.exponent =
      x.mantissa := by
    rw [unitsOf_eq, Nat.mul_assoc, Nat.mul_comm (2 ^ x.exponent.toNat)]
    exact roundDiv_mul_self _ (by positivity)
  have hmantissa : x.mantissa ≠ mantissaBound := Nat.ne_of_lt x.normal.1
  rw [nearest?_congr hd hpos hvalue, nearest?]
  simp only [hn, if_false, hplace, hunits, hmantissa, ofParts?, x.normal, dif_pos]

end Binary64

/-! ### Decimals -/

/-- The number that a decimal denotes. -/
def Decimal.value (d : Decimal) : ℚ := d.digits * (10 : ℚ) ^ d.exponent

/-- The decimal exponent of the first digit, counted from one. -/
def Decimal.top (d : Decimal) : Int := Decimal.width d.digits + d.exponent

theorem Decimal.width_eq {n : Nat} (hn : n ≠ 0) : Decimal.width n = Nat.log 10 n + 1 := by
  have hle : ∀ k, 0 < k → (Decimal.width n ≤ k ↔ Nat.log 10 n < k) := by
    intro k hk
    rw [width, if_neg hn, Nat.length_toDigits_le_iff (by decide) hk,
      Nat.log_lt_iff_lt_pow (by decide) hn]
  have h₁ := (hle (Nat.log 10 n + 1) (Nat.succ_pos _)).mpr (Nat.lt_succ_self _)
  have hpos : 0 < Decimal.width n := by
    rw [width, if_neg hn]
    exact Nat.length_toDigits_pos
  have h₂ := (hle _ hpos).mp (Nat.le_refl _)
  omega

theorem Decimal.top_eq {d : Decimal} (hd : d.digits ≠ 0) : d.top = Int.log 10 d.value + 1 := by
  have hpos : (0 : ℚ) < d.digits := by exact_mod_cast Nat.pos_of_ne_zero hd
  have h := log_mul_zpow (b := 10) (by decide) hpos d.exponent
  rw [Int.log_natCast, Nat.cast_ofNat] at h
  rw [Decimal.top, Decimal.value, h, Decimal.width_eq hd]
  push_cast
  ring

namespace Binary64

theorem ofDecimal?_eq {s : Bool} {d : Decimal} (hd : d.digits ≠ 0) :
    ofDecimal? s d =
      if 400 < d.top then none
      else if d.top < -400 then some (zero s)
      else nearest? s (d.digits * 10 ^ d.exponent.toNat) (10 ^ (-d.exponent).toNat) := by
  unfold ofDecimal?
  rw [if_neg hd]
  by_cases he : 0 ≤ d.exponent
  · simp [he, Decimal.top, Int.toNat_of_nonpos (Int.neg_nonpos_of_nonneg he)]
  · simp [he, Decimal.top, Int.toNat_of_nonpos (Int.le_of_lt (Int.not_le.mp he))]

theorem fraction_decimal (d : Decimal) :
    ((d.digits * 10 ^ d.exponent.toNat : Nat) / (10 ^ (-d.exponent).toNat : Nat) : ℚ) =
      d.value := by
  rw [Decimal.value, show (10 : ℚ) = ((10 : Nat) : ℚ) from rfl, zpow_eq_div (by decide)]
  push_cast
  ring

/-- Which double a decimal stands for depends on its value alone. -/
theorem ofDecimal?_congr {s : Bool} {d d' : Decimal} (h : d.value = d'.value) :
    ofDecimal? s d = ofDecimal? s d' := by
  have hzero : ∀ {d : Decimal}, d.digits = 0 ↔ d.value = 0 := by
    intro d
    simp [Decimal.value, zpow_ne_zero]
  by_cases hd : d.digits = 0
  · have hd' : d'.digits = 0 := hzero.mpr (h ▸ hzero.mp hd)
    simp [ofDecimal?, hd, hd']
  · have hd' : d'.digits ≠ 0 := fun h' => hd (hzero.mpr (h.trans (hzero.mp h')))
    have htop : d.top = d'.top := by rw [Decimal.top_eq hd, Decimal.top_eq hd', h]
    rw [ofDecimal?_eq hd, ofDecimal?_eq hd', htop]
    refine if_congr Iff.rfl rfl (if_congr Iff.rfl rfl (nearest?_congr ?_ ?_ ?_))
    · positivity
    · positivity
    · rw [fraction_decimal, fraction_decimal, h]

/-- A decimal that stands for a double other than zero is neither zero nor far
from the range of doubles. -/
theorem top_bounds {s : Bool} {d : Decimal} {x : Binary64} (h : ofDecimal? s d = some x)
    (hm : x.mantissa ≠ 0) : d.digits ≠ 0 ∧ -400 ≤ d.top ∧ d.top ≤ 400 := by
  by_cases hd : d.digits = 0
  · rw [ofDecimal?, if_pos hd] at h
    obtain rfl := Option.some.inj h
    exact absurd rfl hm
  · rw [ofDecimal?_eq hd] at h
    split at h
    · cases h
    split at h
    · obtain rfl := Option.some.inj h
      exact absurd rfl hm
    · exact ⟨hd, by omega, by omega⟩

/-! ### The shortest decimal -/

theorem exactDecimal_value (x : Binary64) : x.exactDecimal.value = x.magnitude := by
  unfold exactDecimal
  split
  · next he =>
      have hpow : (2 : ℚ) ^ x.exponent = 2 ^ x.exponent.toNat := by
        rw [← zpow_natCast, Int.toNat_of_nonneg he]
      simp [Decimal.value, magnitude, hpow]
  · next he =>
      have hpow : (5 : ℚ) ^ (-x.exponent).toNat = (5 ^ x.exponent)⁻¹ := by
        rw [← zpow_natCast, Int.toNat_of_nonneg (by omega), zpow_neg]
      have hten : (10 : ℚ) ^ x.exponent = 2 ^ x.exponent * 5 ^ x.exponent := by
        rw [← mul_zpow]
        norm_num
      have hfive : (5 : ℚ) ^ x.exponent ≠ 0 := zpow_ne_zero _ (by decide)
      simp only [Decimal.value, magnitude, Nat.pow_eq, Nat.cast_mul, Nat.cast_pow, Nat.cast_ofNat,
        hpow, hten]
      field_simp

theorem magnitude_bounds {x : Binary64} (hm : x.mantissa ≠ 0) :
    (2 : ℚ) ^ (-1074 : Int) ≤ x.magnitude ∧ x.magnitude < (2 : ℚ) ^ (1024 : Int) := by
  obtain ⟨hbound, hlow, hhigh, -⟩ := x.normal
  have hone : (1 : ℚ) ≤ x.mantissa := by exact_mod_cast Nat.one_le_iff_ne_zero.mpr hm
  have hlt : (x.mantissa : ℚ) < 2 ^ (53 : Int) := by exact_mod_cast hbound
  have hpos : (0 : ℚ) < 2 ^ x.exponent := zpow_pos two_pos _
  constructor
  · calc (2 : ℚ) ^ (-1074 : Int) ≤ 2 ^ x.exponent := zpow_le_zpow_right₀ one_le_two hlow
      _ ≤ x.mantissa * 2 ^ x.exponent := le_mul_of_one_le_left hpos.le hone
  · calc x.mantissa * (2 : ℚ) ^ x.exponent < 2 ^ (53 : Int) * 2 ^ x.exponent :=
          mul_lt_mul_of_pos_right hlt hpos
      _ ≤ 2 ^ (53 : Int) * 2 ^ (971 : Int) :=
          mul_le_mul_of_nonneg_left (zpow_le_zpow_right₀ one_le_two hhigh) (zpow_pos two_pos _).le
      _ = 2 ^ (1024 : Int) := by rw [← zpow_add₀ two_ne_zero]; rfl

/-- A decimal of the magnitude of a double stands for that double. -/
theorem ofDecimal?_of_value {x : Binary64} (hm : x.mantissa ≠ 0) {d : Decimal}
    (h : d.value = x.magnitude) : ofDecimal? x.negative d = some x := by
  obtain ⟨hlow, hhigh⟩ := magnitude_bounds hm
  have hpos : 0 < d.value := by
    rw [h]
    exact lt_of_lt_of_le (zpow_pos two_pos _) hlow
  have hd : d.digits ≠ 0 := by
    intro hzero
    simp [Decimal.value, hzero] at hpos
  have htop := Decimal.top_eq hd
  -- the bound 400 is generous: a power of eight is below that power of ten
  have hpow : (2 : ℚ) ^ (1200 : Int) ≤ 10 ^ (400 : Int) := by
    rw [show (1200 : Int) = 3 * 400 from rfl, zpow_mul]
    exact zpow_le_zpow_left₀ (by decide) (by norm_num) (by norm_num)
  have hmono : ∀ {a b : Int}, a ≤ b → (2 : ℚ) ^ a ≤ 2 ^ b := zpow_le_zpow_right₀ one_le_two
  have hlog₁ : -400 ≤ Int.log 10 d.value := by
    refine (Int.zpow_le_iff_le_log (by decide) hpos).mp ?_
    calc ((10 : Nat) : ℚ) ^ (-400 : Int) = (10 ^ (400 : Int))⁻¹ := zpow_neg _ _
      _ ≤ (2 ^ (1200 : Int))⁻¹ := inv_anti₀ (zpow_pos two_pos _) hpow
      _ = 2 ^ (-1200 : Int) := (zpow_neg _ _).symm
      _ ≤ 2 ^ (-1074 : Int) := hmono (by decide)
      _ ≤ d.value := h ▸ hlow
  have hlog₂ : Int.log 10 d.value < 400 := by
    refine (Int.lt_zpow_iff_log_lt (by decide) hpos).mp ?_
    calc d.value < 2 ^ (1024 : Int) := h ▸ hhigh
      _ ≤ 2 ^ (1200 : Int) := hmono (by decide)
      _ ≤ 10 ^ (400 : Int) := hpow
  rw [ofDecimal?_eq hd, if_neg (by omega), if_neg (by omega)]
  exact nearest?_magnitude hm (by positivity) ((fraction_decimal d).trans h)

theorem onGrid?_reads {x : Binary64} {k : Int} {d : Decimal} (h : onGrid? x k = some d) :
    ofDecimal? x.negative d = some x := by
  have hpick : ∀ {a b : Decimal},
      (if ofDecimal? x.negative a = some x then some a
        else if ofDecimal? x.negative b = some x then some b else none) = some d →
      ofDecimal? x.negative d = some x := by
    intro a b hab
    split at hab
    · next ha => exact Option.some.inj hab ▸ ha
    · split at hab
      · next hb => exact Option.some.inj hab ▸ hb
      · cases hab
  exact hpick h

theorem searchGrid_reads {x : Binary64} (hm : x.mantissa ≠ 0) (fuel : Nat) (k : Int) :
    ofDecimal? x.negative (searchGrid x k fuel) = some x := by
  induction fuel generalizing k with
  -- the exact decimal, which is there when no grid has one, is the double itself
  | zero => exact ofDecimal?_of_value hm (exactDecimal_value x)
  | succ fuel ih =>
      rw [searchGrid]
      split
      · next d hd => exact onGrid?_reads hd
      · exact ih (k - 1)

/-- **Every double is read back from its shortest decimal.** -/
theorem ofDecimal?_shortest (x : Binary64) : ofDecimal? x.negative x.shortest = some x := by
  unfold shortest
  split
  · next hm =>
      rw [ofDecimal?, if_pos rfl]
      exact congrArg some (zero_of_mantissa hm).symm
  · next hm => exact searchGrid_reads hm 17 _

end Binary64

end SbomGate
