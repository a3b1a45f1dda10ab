import Mathlib.Data.List.TakeWhile
import SbomGate.Json.Token
import SbomGate.Proofs.Rounding
import SbomGate.Proofs.Utf8
/-!
# SbomGate.Proofs.Numeral

**Numbers are read back from their text.**

A `Numeral` is a number as it is written: a sign, digits before and after the
point, an exponent. The scanner takes a numeral off the front of any text that
cannot extend it (`scanNumber_numeral`), and what it denotes is a whole number
or the double of its decimal. Each of the printer's layouts is a numeral of
the value that is printed.
-/

namespace SbomGate.Json

open Text.Utf8

/-! ### Digits -/

/-- Decimal digits. -/
def Digits (ds : List Char) : Prop := ∀ c ∈ ds, c.isDigit = true

/-- What digits denote. -/
abbrev valueOf (ds : List Char) : Nat := Nat.ofDigitChars 10 ds 0

theorem Digits.append {a b : List Char} (ha : Digits a) (hb : Digits b) : Digits (a ++ b) := by
  intro c hc
  rcases List.mem_append.mp hc with hc | hc
  · exact ha c hc
  · exact hb c hc

theorem digits_digitsOf (n : Nat) : Digits (digitsOf n) :=
  fun _ hc => Nat.isDigit_of_mem_toDigits (by decide) (by decide) hc

theorem toNat_of_isDigit {c : Char} (h : c.isDigit = true) : 0x30 ≤ c.toNat ∧ c.toNat ≤ 0x39 := by
  simp only [Char.isDigit, Bool.and_eq_true, decide_eq_true_eq, ge_iff_le] at h
  exact h

theorem toNat_asciiByte {c : Char} (h : c.toNat < 0x80) : (asciiByte c).toNat = c.toNat := by
  rw [asciiByte, UInt8.toNat_ofNat', Nat.mod_eq_of_lt (by omega)]

theorem Digits.encode_eq {ds : List Char} (h : Digits ds) : encode ds = ds.map asciiByte :=
  encode_ascii fun c hc => Nat.lt_of_le_of_lt (toNat_of_isDigit (h c hc)).2 (by decide)

theorem Digits.length_encode {ds : List Char} (h : Digits ds) : (encode ds).length = ds.length := by
  rw [h.encode_eq, List.length_map]

theorem Digits.isDigit_of_mem {ds : List Char} (h : Digits ds) {b : UInt8} (hb : b ∈ encode ds) :
    isDigit b = true := by
  rw [h.encode_eq] at hb
  obtain ⟨c, hc, rfl⟩ := List.mem_map.mp hb
  have hdigit := toNat_of_isDigit (h c hc)
  have hbyte := toNat_asciiByte (c := c) (by omega)
  simp only [isDigit, Bool.and_eq_true, decide_eq_true_eq, UInt8.le_iff_toNat_le, hbyte]
  exact hdigit

/-- Bytes of digits denote what the digits denote. -/
theorem Digits.digitsValue_encode {ds : List Char} (h : Digits ds) :
    digitsValue (encode ds) = valueOf ds := by
  have hfold : ∀ {ds : List Char} (n : Nat), Digits ds →
      (ds.map asciiByte).foldl (fun n d => n * 10 + (d.toNat - 0x30)) n =
        Nat.ofDigitChars 10 ds n := by
    intro ds
    induction ds with
    | nil =>
        intro n _
        simp
    | cons c ds ih =>
        intro n hds
        have hdigit := toNat_of_isDigit (hds c (by simp))
        rw [List.map_cons, List.foldl_cons, toNat_asciiByte (by omega),
          ih _ fun d hd => hds d (by simp [hd]), Nat.ofDigitChars_cons, Nat.mul_comm]
        rfl
  rw [h.encode_eq]
  exact hfold 0 h

/-! ### Numerals -/

/-- A number as it is written. -/
structure Numeral where
  /-- Whether a minus sign stands in front. -/
  negative : Bool
  /-- The digits before the point. -/
  integer : List Char
  /-- The digits after the point; no point is written without them. -/
  fraction : List Char
  /-- The exponent, if one is written. -/
  exponent : Option Int

namespace Numeral

/-- The text of a fraction. -/
def fractionChars : List Char → List Char
  | [] => []
  | d :: ds => '.' :: d :: ds

/-- The text of an exponent, always with a sign. -/
def exponentChars : Option Int → List Char
  | none => []
  | some e => 'e' :: (if e < 0 then '-' else '+') :: digitsOf e.natAbs

/-- The text of a numeral. -/
def chars (n : Numeral) : List Char :=
  (if n.negative then ['-'] else []) ++
    (n.integer ++ (fractionChars n.fraction ++ exponentChars n.exponent))

/-- The decimal that a numeral denotes, but for its sign. -/
def decimal (n : Numeral) : Decimal :=
  ⟨valueOf (n.integer ++ n.fraction), n.exponent.getD 0 - n.fraction.length⟩

/-- Numerals that are numbers: there are digits before the point, and a zero
does not lead others. -/
structure Proper (n : Numeral) : Prop where
  /-- The digits before the point are digits. -/
  integer : Digits n.integer
  /-- The digits after the point are digits. -/
  fraction : Digits n.fraction
  /-- There are digits before the point. -/
  nonempty : n.integer ≠ []
  /-- A zero in front of the point stands alone. -/
  leading : n.integer.head? = some '0' → n.integer.length = 1

end Numeral

/-- A text that cannot extend a number in front of it. -/
def Terminated (rest : Bytes) : Prop :=
  ∀ b, rest.head? = some b → isDigit b = false ∧ b ≠ 0x2E ∧ b ≠ 0x65 ∧ b ≠ 0x45

theorem takeWhile_isDigit {ds rest : Bytes} (hds : ∀ b ∈ ds, isDigit b = true)
    (hrest : ∀ b, rest.head? = some b → isDigit b = false) :
    (ds ++ rest).takeWhile isDigit = ds := by
  rw [List.takeWhile_append_of_pos hds]
  cases rest with
  | nil => simp
  | cons b rest => simp [hrest b rfl]

/-- The parts of an exponent, read from `offset` on. -/
def Numeral.withExponent (t : NumberText) (offset : Nat) : Option Int → NumberText
  | none => t
  | some e =>
    { t with marked := true, exponentNegative := decide (e < 0),
             exponent := encode (digitsOf e.natAbs), exponentStart := offset + 2 }

/-- The scanner takes a sign and the digits behind it. -/
theorem scanExponent_signed (t : NumberText) (offset : Nat) {sign : UInt8} {ds rest : Bytes}
    (hsign : sign = 0x2D ∨ sign = 0x2B) (hne : ds ≠ []) (hds : ∀ b ∈ ds, isDigit b = true)
    (hrest : ∀ b, rest.head? = some b → isDigit b = false) :
    scanExponent t offset (0x65 :: sign :: (ds ++ rest)) =
      .ok ({ t with marked := true, exponentNegative := decide (sign = 0x2D),
                    exponent := ds, exponentStart := offset + 2 }, offset + 2 + ds.length) := by
  obtain ⟨d, ds, rfl⟩ := List.exists_cons_of_ne_nil hne
  have htake := takeWhile_isDigit hds hrest
  rw [List.cons_append] at htake
  simp only [List.cons_append, scanExponent, true_or, if_true, List.head?_cons,
    Option.some.injEq, hsign, List.drop_succ_cons, List.drop_zero, htake, List.isEmpty_cons,
    Bool.false_eq_true, if_false]

/-- The scanner takes an exponent off the front of a text. -/
theorem scanExponent_exponentChars (t : NumberText) (offset : Nat) {rest : Bytes}
    (hrest : Terminated rest) (e : Option Int) :
    scanExponent t offset (encode (Numeral.exponentChars e) ++ rest) =
      .ok (Numeral.withExponent t offset e,
        offset + (encode (Numeral.exponentChars e)).length) := by
  cases e with
  | none =>
      cases rest with
      | nil => rfl
      | cons b rest =>
          obtain ⟨-, -, he, hE⟩ := hrest b rfl
          simp [Numeral.exponentChars, scanExponent, he, hE, Numeral.withExponent]
  | some e =>
      have hne : digitsOf e.natAbs ≠ [] := Nat.toDigits_ne_nil
      have hscan (sign : UInt8) (hsign : sign = 0x2D ∨ sign = 0x2B) :=
        scanExponent_signed t offset hsign (encode_ne_nil hne)
          (fun _ => (digits_digitsOf e.natAbs).isDigit_of_mem) fun b hb => (hrest b hb).1
      have hchars : encode (Numeral.exponentChars (some e)) =
          0x65 :: (if e < 0 then 0x2D else 0x2B) :: encode (digitsOf e.natAbs) := by
        rw [Numeral.exponentChars, encode_cons]
        split <;> rfl
      rw [hchars, List.cons_append, List.cons_append]
      by_cases hneg : e < 0
      · rw [if_pos hneg, hscan 0x2D (.inl rfl)]
        simp only [Numeral.withExponent, hneg, decide_true, List.length_cons]
        congr 2
        omega
      · rw [if_neg hneg, hscan 0x2B (.inr rfl)]
        simp only [Numeral.withExponent, hneg, List.length_cons]
        congr 2
        omega

/-- Neither digits nor a point stand behind the digits of a numeral. -/
theorem head_exponentChars {rest : Bytes} (hrest : Terminated rest) (e : Option Int) {b : UInt8}
    (h : (encode (Numeral.exponentChars e) ++ rest).head? = some b) :
    isDigit b = false ∧ b ≠ 0x2E := by
  cases e with
  | none =>
      obtain ⟨hdigit, hpoint, -⟩ := hrest b h
      exact ⟨hdigit, hpoint⟩
  | some e =>
      obtain rfl : 0x65 = b := Option.some.inj h
      decide

/-- The parts of a fraction. -/
def Numeral.withFraction (t : NumberText) : List Char → NumberText
  | [] => t
  | d :: ds => { t with fraction := encode (d :: ds), marked := true }

/-- The scanner takes a fraction and an exponent off the front of a text. -/
theorem scanFraction_chars (t : NumberText) (offset : Nat) {rest : Bytes} {f : List Char}
    (hf : Digits f) (hrest : Terminated rest) (e : Option Int) :
    ∃ start, scanFraction t offset
        (encode (Numeral.fractionChars f) ++ (encode (Numeral.exponentChars e) ++ rest)) =
      .ok (Numeral.withExponent (Numeral.withFraction t f) start e,
        offset + (encode (Numeral.fractionChars f ++ Numeral.exponentChars e)).length) := by
  have hscan := fun t offset => scanExponent_exponentChars t offset hrest e
  have hhead := fun b => head_exponentChars hrest e (b := b)
  rw [encode_append]
  generalize encode (Numeral.exponentChars e) = exponent at hscan hhead ⊢
  cases f with
  | nil =>
      refine ⟨offset, ?_⟩
      simp only [Numeral.fractionChars, encode_nil, List.nil_append, Numeral.withFraction]
      rw [← hscan]
      cases hb : exponent ++ rest with
      | nil => rfl
      | cons b bs =>
          obtain ⟨-, hpoint⟩ := hhead b (by rw [hb]; rfl)
          rw [scanFraction, if_neg hpoint]
  | cons d ds =>
      have htake : (encode (d :: ds) ++ (exponent ++ rest)).takeWhile isDigit =
          encode (d :: ds) :=
        takeWhile_isDigit (fun _ => hf.isDigit_of_mem) fun b hb => (hhead b hb).1
      have hpoint : encode (Numeral.fractionChars (d :: ds)) = 0x2E :: encode (d :: ds) := rfl
      refine ⟨offset + 1 + (encode (d :: ds)).length, ?_⟩
      rw [hpoint]
      obtain ⟨b, bs, hb⟩ := List.exists_cons_of_ne_nil (encode_ne_nil (List.cons_ne_nil d ds))
      rw [Numeral.withFraction]
      rw [hb] at htake ⊢
      rw [List.cons_append] at htake
      simp only [List.cons_append, scanFraction, if_true, htake, List.isEmpty_cons,
        Bool.false_eq_true, if_false]
      rw [show (b :: (bs ++ (exponent ++ rest))).drop (b :: bs).length = exponent ++ rest by simp,
        hscan]
      simp only [List.length_cons, List.length_append]
      congr 2
      omega

/-- The parts of a numeral, the digits of its exponent starting at `start`. -/
def Numeral.parts (n : Numeral) (start : Nat) : NumberText :=
  withExponent (withFraction ⟨n.negative, encode n.integer, [], false, false, [], 0⟩ n.fraction)
    start n.exponent

theorem asciiByte_eq_zero {c : Char} (h : c.isDigit = true) (hb : asciiByte c = 0x30) :
    c = '0' := by
  have hdigit := toNat_of_isDigit h
  have hbyte := toNat_asciiByte (c := c) (by omega)
  rw [hb] at hbyte
  exact Char.toNat_inj.mp hbyte.symm

/-- The scanner takes all digits that stand in front. -/
theorem scanDigits_append {negative : Bool} {offset : Nat} {i rest : Bytes} (hne : i ≠ [])
    (hi : ∀ b ∈ i, isDigit b = true) (hlead : i.head? = some 0x30 → i.length = 1)
    (hrest : ∀ b, rest.head? = some b → isDigit b = false) :
    scanDigits negative offset (i ++ rest) =
      scanFraction ⟨negative, i, [], false, false, [], 0⟩ (offset + i.length) rest := by
  obtain ⟨d, ds, rfl⟩ := List.exists_cons_of_ne_nil hne
  have hdigit : isDigit d = true := hi d List.mem_cons_self
  have hzero : ¬ (d = 0x30 ∧ 1 < (d :: ds).length) := by
    rintro ⟨rfl, hlen⟩
    exact absurd (hlead rfl) (Nat.ne_of_gt hlen)
  have htake := takeWhile_isDigit hi hrest
  rw [List.cons_append] at htake
  rw [List.cons_append, scanDigits]
  simp only [hdigit, Bool.not_true, Bool.false_eq_true, if_false, htake, hzero]
  rw [← List.cons_append, List.drop_left]

/-- The digits of a numeral, and what follows them, stand in front of a
text. -/
theorem scanDigits_numeral {n : Numeral} (hn : n.Proper) (offset : Nat) {rest : Bytes}
    (hrest : Terminated rest) :
    ∃ start, scanDigits n.negative offset (encode (n.integer ++
        (Numeral.fractionChars n.fraction ++ Numeral.exponentChars n.exponent)) ++ rest) =
      .ok (n.parts start, offset + (encode (n.integer ++
        (Numeral.fractionChars n.fraction ++ Numeral.exponentChars n.exponent))).length) := by
  obtain ⟨start, hscan⟩ := scanFraction_chars ⟨n.negative, encode n.integer, [], false, false, [], 0⟩
    (offset + (encode n.integer).length) hn.fraction hrest n.exponent
  have hlead : (encode n.integer).head? = some 0x30 → (encode n.integer).length = 1 := by
    intro hzero
    rw [hn.integer.length_encode]
    refine hn.leading ?_
    rw [hn.integer.encode_eq, List.head?_map, Option.map_eq_some_iff] at hzero
    obtain ⟨d, hd, hbyte⟩ := hzero
    rw [hd, asciiByte_eq_zero (hn.integer d (List.mem_of_mem_head? hd)) hbyte]
  -- the digits end at a point, at an exponent or where the number ends
  have hboundary : ∀ b, (encode (Numeral.fractionChars n.fraction) ++
      (encode (Numeral.exponentChars n.exponent) ++ rest)).head? = some b →
      isDigit b = false := by
    intro b hb
    cases hf : n.fraction with
    | nil =>
        rw [hf] at hb
        exact (head_exponentChars hrest n.exponent hb).1
    | cons c cs =>
        rw [hf] at hb
        obtain rfl : 0x2E = b := Option.some.inj hb
        decide
  refine ⟨start, ?_⟩
  rw [encode_append, List.append_assoc, encode_append, List.append_assoc,
    scanDigits_append (encode_ne_nil hn.nonempty) (fun _ => hn.integer.isDigit_of_mem) hlead
      hboundary, hscan]
  simp only [encode_append, List.length_append, Nat.add_assoc, Numeral.parts]

/-- **The scanner takes a numeral off the front of a text.** -/
theorem scanNumber_numeral {n : Numeral} (hn : n.Proper) (offset : Nat) {rest : Bytes}
    (hrest : Terminated rest) :
    ∃ start, scanNumber offset (encode n.chars ++ rest) =
      .ok (n.parts start, offset + (encode n.chars).length) := by
  unfold Numeral.chars
  by_cases hneg : n.negative = true
  · obtain ⟨start, hscan⟩ := scanDigits_numeral hn (offset + 1) hrest
    rw [hneg] at hscan
    refine ⟨start, ?_⟩
    have hminus : encode ['-'] = [0x2D] := rfl
    rw [if_pos hneg, encode_append, hminus, List.append_assoc, List.singleton_append, scanNumber,
      if_pos rfl, hscan]
    simp only [List.length_append, List.length_singleton, Nat.add_assoc]
  · obtain ⟨start, hscan⟩ := scanDigits_numeral hn offset hrest
    rw [Bool.not_eq_true] at hneg
    rw [hneg] at hscan
    refine ⟨start, ?_⟩
    obtain ⟨b, bs, hb⟩ := List.exists_cons_of_ne_nil (encode_ne_nil hn.nonempty)
    -- a digit is no sign
    have hfirst : b ≠ 0x2D := by
      rintro rfl
      exact absurd (hn.integer.isDigit_of_mem (by rw [hb]; exact List.mem_cons_self)) (by decide)
    rw [if_neg (by rw [hneg]; decide), List.nil_append, ← hscan, encode_append, hb,
      List.append_assoc, List.cons_append, scanNumber, if_neg hfirst]

/-! ### What a numeral denotes -/

section

variable (n : Numeral) (start : Nat)

@[simp] theorem Numeral.parts_negative : (n.parts start).negative = n.negative := by
  rcases n with ⟨s, i, f, e⟩
  cases f <;> cases e <;> rfl

@[simp] theorem Numeral.parts_integer : (n.parts start).integer = encode n.integer := by
  rcases n with ⟨s, i, f, e⟩
  cases f <;> cases e <;> rfl

@[simp] theorem Numeral.parts_fraction : (n.parts start).fraction = encode n.fraction := by
  rcases n with ⟨s, i, f, e⟩
  cases f <;> cases e <;> rfl

@[simp] theorem Numeral.parts_marked :
    (n.parts start).marked = (!n.fraction.isEmpty || n.exponent.isSome) := by
  rcases n with ⟨s, i, f, e⟩
  cases f <;> cases e <;> rfl

/-- The exponent is small enough to be taken at its value. -/
theorem exponentOverflow?_eq_none {ds : Bytes} {value count : Nat}
    (h : ds.foldl (fun n d => n * 10 + (d.toNat - 0x30)) value < 0x80000000) :
    exponentOverflow? value count ds = none := by
  induction ds generalizing value count with
  | nil => rfl
  | cons d ds ih =>
      rw [List.foldl_cons] at h
      -- a digit never makes the value less, so it is within bounds at every digit
      have hmono : ∀ (ds : Bytes) (v : Nat),
          v ≤ ds.foldl (fun n d => n * 10 + (d.toNat - 0x30)) v := by
        intro ds
        induction ds with
        | nil => exact fun v => Nat.le_refl v
        | cons d ds ih =>
            intro v
            have hstep : v ≤ v * 10 + (d.toNat - 0x30) := by omega
            exact Nat.le_trans hstep (ih _)
      have hle := hmono ds (value * 10 + (d.toNat - 0x30))
      rw [exponentOverflow?]
      simp only [Nat.not_le.mpr (Nat.lt_of_le_of_lt hle h), if_false]
      exact ih h

theorem digitsValue_digitsOf (m : Nat) : digitsValue (encode (digitsOf m)) = m := by
  rw [(digits_digitsOf m).digitsValue_encode]
  exact Nat.ofDigitChars_ten_toDigits

/-- The exponent of a numeral is read as it is written. -/
theorem Numeral.parts_exponent (hsmall : ∀ e, n.exponent = some e → e.natAbs < 0x80000000) :
    exponentOverflow? 0 0 (n.parts start).exponent = none ∧
      (if (n.parts start).exponentNegative then -(digitsValue (n.parts start).exponent : Int)
        else digitsValue (n.parts start).exponent) = n.exponent.getD 0 := by
  rcases n with ⟨s, i, f, e⟩
  cases e with
  | none => cases f <;> exact ⟨rfl, rfl⟩
  | some e =>
      have hvalue := digitsValue_digitsOf e.natAbs
      have hparts : ((Numeral.mk s i f (some e)).parts start).exponent =
          encode (digitsOf e.natAbs) := by cases f <;> rfl
      have hneg : ((Numeral.mk s i f (some e)).parts start).exponentNegative =
          decide (e < 0) := by cases f <;> rfl
      rw [hparts, hneg, hvalue]
      refine ⟨exponentOverflow?_eq_none (hvalue.trans_lt (hsmall e rfl)), ?_⟩
      simp only [decide_eq_true_eq, Option.getD_some]
      split <;> omega

/-- A numeral with a point or an exponent denotes the double of its decimal. -/
theorem Numeral.value_real (hn : n.Proper) (hmarked : n.fraction ≠ [] ∨ n.exponent.isSome = true)
    (hsmall : ∀ e, n.exponent = some e → e.natAbs < 0x80000000) {x : Binary64}
    (hx : Binary64.ofDecimal? n.negative n.decimal = some x) (stop : Nat) :
    (n.parts start).value stop = .ok (.real x) := by
  obtain ⟨hoverflow, hexponent⟩ := n.parts_exponent start hsmall
  have hmark : (n.parts start).marked = true := by
    rw [Numeral.parts_marked]
    simpa using hmarked
  have hdigits : digitsValue ((n.parts start).integer ++ (n.parts start).fraction) =
      valueOf (n.integer ++ n.fraction) := by
    rw [Numeral.parts_integer, Numeral.parts_fraction, ← encode_append,
      (hn.integer.append hn.fraction).digitsValue_encode]
  have hscale : (n.parts start).fraction.length = n.fraction.length := by
    rw [Numeral.parts_fraction, hn.fraction.length_encode]
  rw [NumberText.value]
  simp only [hmark, Bool.not_true, Bool.false_and, Bool.false_eq_true, if_false, hoverflow,
    hexponent, hdigits, hscale, Numeral.parts_negative]
  rw [← Numeral.decimal, hx]

end

/-- The numeral of a whole number. -/
def Numeral.whole (i : Int) : Numeral := ⟨decide (i < 0), digitsOf i.natAbs, [], none⟩

theorem Numeral.whole_chars (i : Int) : (whole i).chars = (Number.whole i).render := by
  rw [Numeral.chars, Number.render, Number.renderWhole]
  by_cases hi : i < 0 <;> simp [Numeral.whole, hi, fractionChars, exponentChars]

/-- A zero does not lead other digits. -/
theorem head_digitsOf (m : Nat) (h : (digitsOf m).head? = some '0') : m = 0 := by
  induction m using Nat.strong_induction_on with
  | _ m ih =>
      rw [digitsOf, Nat.toDigits_eq_if (by decide)] at h
      split at h
      · next hlt =>
          have hall : ∀ k < 10, Nat.digitChar k = '0' → k = 0 := by decide
          exact hall m hlt (Option.some.inj h)
      · next hge =>
          rw [List.head?_append_of_ne_nil _ Nat.toDigits_ne_nil] at h
          have hzero := ih (m / 10) (by omega) h
          omega

theorem Numeral.whole_proper (i : Int) : (whole i).Proper where
  integer := digits_digitsOf _
  fraction := fun _ hc => by cases hc
  nonempty := Nat.toDigits_ne_nil
  leading := by
    intro h
    have hzero := head_digitsOf _ h
    simp only [Numeral.whole, hzero]
    rfl

/-- A whole number of a 64-bit word is read as such. -/
theorem Numeral.value_whole {i : Int} (hi : (Number.whole i).InRange) (start stop : Nat) :
    ((whole i).parts start).value stop = .ok (.whole i) := by
  obtain ⟨hlow, hhigh⟩ := hi
  have hdigits : digitsValue ((whole i).parts start).integer = i.natAbs := by
    rw [Numeral.parts_integer]
    exact digitsValue_digitsOf i.natAbs
  have hmark : ((whole i).parts start).marked = false := by
    rw [Numeral.parts_marked]
    rfl
  have hnegative : ((whole i).parts start).negative = decide (i < 0) := by
    rw [Numeral.parts_negative]
    rfl
  have hsize : UInt64.size = 0x10000000000000000 := rfl
  rw [NumberText.value]
  simp only [hdigits, hmark, hnegative]
  have habs : (i.natAbs : Int) = if i < 0 then -i else i := by omega
  generalize i.natAbs = m at habs
  by_cases hneg : i < 0
  · rw [if_pos hneg] at habs
    have hne : m ≠ 0 := by omega
    have hle : m ≤ 0x8000000000000000 := by omega
    simp [hneg, hne, hle, habs]
  · rw [if_neg hneg] at habs
    have hlt : m < UInt64.size := by omega
    simp [hneg, hlt, habs]

/-! ### The layouts of a double -/

/-- The digits of a decimal without the zeros at their end. -/
def significant (m : Nat) : List Char := ((digitsOf m).reverse.dropWhile (· = '0')).reverse

theorem digitsOf_eq_append (m : Nat) :
    ∃ zeros, digitsOf m = significant m ++ List.replicate zeros '0' := by
  have hsplit := List.takeWhile_append_dropWhile (p := (· = '0')) (l := (digitsOf m).reverse)
  have hzeros : ∀ c ∈ (digitsOf m).reverse.takeWhile (· = '0'), c = '0' := by
    intro c hc
    simpa using List.mem_takeWhile_imp hc
  refine ⟨((digitsOf m).reverse.takeWhile (· = '0')).length, ?_⟩
  rw [← List.reverse_inj, List.reverse_append, List.reverse_replicate, significant,
    List.reverse_reverse, ← List.eq_replicate_of_mem hzeros, hsplit]

theorem digits_significant (m : Nat) : Digits (significant m) := by
  obtain ⟨zeros, hzeros⟩ := digitsOf_eq_append m
  intro c hc
  exact digits_digitsOf m c (by rw [hzeros]; exact List.mem_append_left _ hc)

/-- A number other than zero has digits, and the first one is not zero. -/
theorem head_significant {m : Nat} (hm : m ≠ 0) :
    ∃ c ds, significant m = c :: ds ∧ c ≠ '0' := by
  obtain ⟨zeros, hzeros⟩ := digitsOf_eq_append m
  have hhead : (digitsOf m).head? ≠ some '0' := fun h => hm (head_digitsOf m h)
  cases hs : significant m with
  | nil =>
      rw [hs, List.nil_append] at hzeros
      cases zeros with
      | zero => exact absurd hzeros Nat.toDigits_ne_nil
      | succ zeros => exact absurd (by rw [hzeros]; rfl) hhead
  | cons c ds =>
      refine ⟨c, ds, rfl, ?_⟩
      rintro rfl
      exact hhead (by rw [hzeros, hs]; rfl)

/-- The numeral of digits whose first one has the decimal exponent `e`. -/
def Numeral.layout (negative : Bool) (ds : List Char) (e : Int) : Numeral :=
  if Number.positional e then
    if e < 0 then ⟨negative, ['0'], List.replicate (-e - 1).toNat '0' ++ ds, none⟩
    else if ds.length ≤ e.toNat + 1 then
      ⟨negative, ds ++ List.replicate (e.toNat + 1 - ds.length) '0', ['0'], none⟩
    else ⟨negative, ds.take (e.toNat + 1), ds.drop (e.toNat + 1), none⟩
  else ⟨negative, ds.take 1, ds.drop 1, some e⟩

theorem Numeral.layout_proper {negative : Bool} {c : Char} {ds : List Char} (e : Int)
    (hds : Digits (c :: ds)) (hc : c ≠ '0') : (layout negative (c :: ds) e).Proper := by
  have hzeros : ∀ k, Digits (List.replicate k '0') := by
    intro k d hd
    rw [List.eq_of_mem_replicate hd]
    rfl
  have htake : ∀ k, Digits ((c :: ds).take k) := fun k d hd => hds d (List.mem_of_mem_take hd)
  have hdrop : ∀ k, Digits ((c :: ds).drop k) := fun k d hd => hds d (List.mem_of_mem_drop hd)
  -- digits that begin with `c` do not begin with a zero
  have hlead : ∀ {is : List Char}, is.head? = some c → is.head? = some '0' → is.length = 1 := by
    intro is hfirst hzero
    exact absurd (Option.some.inj (hfirst.symm.trans hzero)) hc
  unfold layout
  split
  · split
    · exact ⟨hzeros 1, (hzeros _).append hds, List.cons_ne_nil _ _, fun _ => rfl⟩
    · split
      · exact ⟨hds.append (hzeros _), hzeros 1, List.cons_ne_nil _ _, hlead rfl⟩
      · exact ⟨htake _, hdrop _, List.cons_ne_nil _ _, hlead rfl⟩
  · exact ⟨htake _, hdrop _, List.cons_ne_nil _ _, hlead rfl⟩

/-- Zeros behind digits multiply, zeros in front of them do nothing. -/
theorem valueOf_append_zeros (ds : List Char) (k : Nat) :
    valueOf (ds ++ List.replicate k '0') = valueOf ds * 10 ^ k := by
  rw [valueOf, Nat.ofDigitChars_append, Nat.ofDigitChars_replicate_zero, Nat.mul_comm]

theorem valueOf_zeros_append (ds : List Char) (k : Nat) :
    valueOf (List.replicate k '0' ++ ds) = valueOf ds := by
  rw [valueOf, Nat.ofDigitChars_append, Nat.ofDigitChars_replicate_zero, Nat.mul_zero]

/-- A layout denotes its digits, the first of them at its exponent. -/
theorem Numeral.layout_value (negative : Bool) {ds : List Char} (hne : ds ≠ []) (e : Int) :
    (layout negative ds e).decimal.value =
      valueOf ds * (10 : ℚ) ^ (e + 1 - (ds.length : Int)) := by
  have hlen : 0 < ds.length := List.length_pos_iff.mpr hne
  unfold layout
  split
  · split
    · next he =>
        have hdigits : valueOf (['0'] ++ (List.replicate (-e - 1).toNat '0' ++ ds)) =
            valueOf ds := by
          rw [← List.append_assoc, ← List.replicate_one, ← List.replicate_add,
            valueOf_zeros_append]
        simp only [decimal, Decimal.value, hdigits]
        congr 2
        simp only [Option.getD_none, List.length_append, List.length_replicate, Nat.cast_add]
        omega
    · next he =>
        split
        · next hfits =>
            have hdigits : valueOf (ds ++ List.replicate (e.toNat + 1 - ds.length) '0' ++ ['0']) =
                valueOf ds * 10 ^ (e.toNat + 1 - ds.length + 1) := by
              rw [List.append_assoc, ← List.replicate_one, ← List.replicate_add,
                valueOf_append_zeros]
            simp only [decimal, Decimal.value, hdigits]
            push_cast
            rw [mul_assoc, ← zpow_natCast, ← zpow_add₀ (by norm_num)]
            congr 2
            simp only [Option.getD_none, List.length_singleton]
            omega
        · next hlong =>
            simp only [decimal, Decimal.value, List.take_append_drop]
            congr 2
            simp only [Option.getD_none, List.length_drop]
            omega
  · simp only [decimal, Decimal.value, List.take_append_drop]
    congr 2
    simp only [Option.getD_some, List.length_drop]
    omega

theorem Numeral.fractionChars_of_ne_nil {ds : List Char} (h : ds ≠ []) :
    fractionChars ds = '.' :: ds := by
  obtain ⟨d, ds, rfl⟩ := List.exists_cons_of_ne_nil h
  rfl

/-- The printer writes a decimal in the layout of its significant digits. -/
theorem Numeral.layout_chars (negative : Bool) {d : Decimal} (hd : d.digits ≠ 0) :
    (layout negative (significant d.digits) (d.exponent + (digitsOf d.digits).length - 1)).chars =
      (if negative then ['-'] else []) ++ Number.renderDecimal d := by
  obtain ⟨c, cs, hds, -⟩ := head_significant hd
  unfold Number.renderDecimal layout
  rw [if_neg hd]
  dsimp only
  rw [← significant]
  have hne : significant d.digits ≠ [] := by rw [hds]; exact List.cons_ne_nil _ _
  generalize significant d.digits = ds at hne
  generalize d.exponent + (digitsOf d.digits).length - 1 = e
  by_cases hpos : Number.positional e = true
  · rw [if_pos hpos, if_pos hpos]
    by_cases he : e < 0
    · rw [if_pos he, if_pos he]
      have hback : List.replicate (-e - 1).toNat '0' ++ ds ≠ [] :=
        List.append_ne_nil_of_right_ne_nil _ hne
      rw [chars, fractionChars_of_ne_nil hback]
      simp [exponentChars]
    · rw [if_neg he, if_neg he]
      by_cases hfits : ds.length ≤ e.toNat + 1
      · rw [if_pos hfits]
        simp [chars, fractionChars, exponentChars, List.take_of_length_le hfits,
          List.drop_eq_nil_of_le hfits]
      · rw [if_neg hfits]
        have hback : ds.drop (e.toNat + 1) ≠ [] := by
          rw [ne_eq, List.drop_eq_nil_iff]
          exact hfits
        have hzeros : e.toNat + 1 - ds.length = 0 := by omega
        simp [chars, fractionChars_of_ne_nil hback, exponentChars, hzeros, hback]
  · rw [if_neg hpos, if_neg hpos]
    cases hback : ds.drop 1 with
    | nil => simp [chars, fractionChars, exponentChars]
    | cons b bs => simp [chars, fractionChars, exponentChars]

theorem Numeral.layout_marked (negative : Bool) {ds : List Char} (hne : ds ≠ []) (e : Int) :
    (layout negative ds e).fraction ≠ [] ∨ (layout negative ds e).exponent.isSome = true := by
  unfold layout
  split
  · left
    split
    · exact List.append_ne_nil_of_right_ne_nil _ hne
    · split
      · exact List.cons_ne_nil _ _
      · next hlong =>
          rw [ne_eq, List.drop_eq_nil_iff]
          exact hlong
  · exact .inr rfl

theorem Numeral.layout_exponent {negative : Bool} {ds : List Char} {e e' : Int}
    (h : (layout negative ds e).exponent = some e') : e' = e := by
  unfold layout at h
  split at h
  · split at h
    · cases h
    · split at h <;> cases h
  · exact (Option.some.inj h).symm

theorem Numeral.layout_negative (negative : Bool) (ds : List Char) (e : Int) :
    (layout negative ds e).negative = negative := by
  unfold layout
  split
  · split
    · rfl
    · split <;> rfl
  · rfl

/-! ### Reading numbers back -/

/-- The numeral that the printer writes for a double. -/
def Numeral.real (x : Binary64) : Numeral :=
  let d := x.shortest
  if d.digits = 0 then ⟨x.negative, ['0'], ['0'], none⟩
  else layout x.negative (significant d.digits) (d.exponent + (digitsOf d.digits).length - 1)

theorem Numeral.real_chars (x : Binary64) : (real x).chars = (Number.real x).render := by
  unfold real
  dsimp only
  split
  · next hd =>
      simp only [Number.render, Number.renderDecimal, hd, if_true]
      cases x.negative <;> rfl
  · next hd =>
      rw [layout_chars _ hd, Number.render]
      cases x.negative <;> rfl

theorem Numeral.real_proper (x : Binary64) : (real x).Proper := by
  unfold real
  dsimp only
  split
  · have hzero : Digits ['0'] := by
      intro c hc
      obtain rfl := List.mem_singleton.mp hc
      rfl
    exact ⟨hzero, hzero, List.cons_ne_nil _ _, fun _ => rfl⟩
  · next hd =>
      obtain ⟨c, ds, hds, hc⟩ := head_significant hd
      have hdigits := digits_significant x.shortest.digits
      rw [hds] at hdigits ⊢
      exact layout_proper _ hdigits hc

/-- The layout keeps the value of the decimal. -/
theorem Numeral.layout_significant_value (negative : Bool) {d : Decimal} (hd : d.digits ≠ 0) :
    (layout negative (significant d.digits)
      (d.exponent + (digitsOf d.digits).length - 1)).decimal.value = d.value := by
  obtain ⟨c, ds, hds, -⟩ := head_significant hd
  obtain ⟨zeros, hzeros⟩ := digitsOf_eq_append d.digits
  have hne : significant d.digits ≠ [] := by rw [hds]; exact List.cons_ne_nil _ _
  have hdigits : d.digits = valueOf (significant d.digits) * 10 ^ zeros := by
    rw [← valueOf_append_zeros, ← hzeros]
    exact Nat.ofDigitChars_ten_toDigits.symm
  have hlen : (digitsOf d.digits).length = (significant d.digits).length + zeros := by
    rw [hzeros, List.length_append, List.length_replicate]
  rw [layout_value negative hne, Decimal.value, hlen]
  conv_rhs => rw [hdigits]
  push_cast
  rw [mul_assoc, ← zpow_natCast, ← zpow_add₀ (by norm_num)]
  congr 2
  omega

theorem Numeral.real_value (x : Binary64) : (real x).decimal.value = x.shortest.value := by
  unfold real
  dsimp only
  split
  · next hd => simp [decimal, Decimal.value, hd, valueOf, Nat.ofDigitChars_cons]
  · next hd => exact layout_significant_value _ hd

theorem Numeral.real_negative (x : Binary64) : (real x).negative = x.negative := by
  unfold real
  dsimp only
  split
  · rfl
  · exact layout_negative _ _ _

theorem Numeral.real_marked (x : Binary64) :
    (real x).fraction ≠ [] ∨ (real x).exponent.isSome = true := by
  unfold real
  dsimp only
  split
  · exact .inl (List.cons_ne_nil _ _)
  · next hd =>
      obtain ⟨c, ds, hds, -⟩ := head_significant hd
      exact layout_marked _ (by rw [hds]; exact List.cons_ne_nil _ _) _

/-- The exponent of a double is far from the largest one that is taken at its
value. -/
theorem Numeral.real_exponent {x : Binary64} {e : Int} (h : (real x).exponent = some e) :
    e.natAbs < 0x80000000 := by
  unfold real at h
  dsimp only at h
  split at h
  · cases h
  · next hd =>
      have hm : x.mantissa ≠ 0 := by
        intro hm
        rw [Binary64.shortest, if_pos hm] at hd
        exact hd rfl
      obtain ⟨-, hlow, hhigh⟩ := Binary64.top_bounds (Binary64.ofDecimal?_shortest x) hm
      obtain rfl := layout_exponent h
      rw [Decimal.top, Decimal.width, if_neg hd, ← digitsOf] at hlow hhigh
      omega

/-- A double is read from the text that it is written as. -/
theorem Numeral.value_of_real (x : Binary64) (start stop : Nat) :
    ((real x).parts start).value stop = .ok (.real x) := by
  refine value_real _ _ (real_proper x) (real_marked x) (fun e he => real_exponent he) ?_ stop
  rw [real_negative, Binary64.ofDecimal?_congr (real_value x)]
  exact Binary64.ofDecimal?_shortest x

/-- The numeral that the printer writes for a number. -/
def Numeral.ofNumber : Number → Numeral
  | .whole i => whole i
  | .real x => real x

theorem Numeral.ofNumber_chars (n : Number) : (ofNumber n).chars = n.render := by
  cases n with
  | whole i => exact whole_chars i
  | real x => exact real_chars x

theorem Numeral.ofNumber_proper (n : Number) : (ofNumber n).Proper := by
  cases n with
  | whole i => exact whole_proper i
  | real x => exact real_proper x

theorem Numeral.value_ofNumber {n : Number} (hn : n.InRange) (start stop : Nat) :
    ((ofNumber n).parts start).value stop = .ok n := by
  cases n with
  | whole i => exact value_whole hn start stop
  | real x => exact value_of_real x start stop

/-- The text of a number starts with a minus sign or a digit. -/
theorem head_render (n : Number) :
    ∃ b tail, encode n.render = b :: tail ∧ (b = 0x2D ∨ isDigit b = true) := by
  have hn := Numeral.ofNumber_proper n
  rw [← Numeral.ofNumber_chars, Numeral.chars]
  obtain ⟨b, tail, hb⟩ := List.exists_cons_of_ne_nil (encode_ne_nil hn.nonempty)
  split
  · exact ⟨0x2D, _, rfl, .inl rfl⟩
  · rw [List.nil_append, encode_append, hb]
    exact ⟨b, _, rfl, .inr (hn.integer.isDigit_of_mem (by rw [hb]; exact List.mem_cons_self))⟩

/-- **Numbers are read back from their text**, whatever stands behind it that
cannot extend it. -/
theorem numberToken_render {n : Number} (hn : n.InRange) (offset : Nat) {rest : Bytes}
    (hrest : Terminated rest) :
    numberToken offset (encode n.render ++ rest) =
      (.leaf (.number (.ok n)), offset + (encode n.render).length) := by
  obtain ⟨start, hscan⟩ := scanNumber_numeral (Numeral.ofNumber_proper n) offset hrest
  rw [Numeral.ofNumber_chars] at hscan
  rw [numberToken, hscan]
  dsimp only
  rw [Numeral.value_ofNumber hn]

end SbomGate.Json
