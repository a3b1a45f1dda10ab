import SbomGate.Duration.Spelled
/-!
# SbomGate.Proofs.Spelling

**A span of time is read back from the sum that spells it.**

What is written is a list of summands, those of number zero left out (`summands`,
`written`). Reading goes through one summand after the other and adds it to the
sum so far (`read_text`). Every sum on the way is at most the span itself, which
is what keeps each addition within range (`read_summands`). That the summands come
to the span, whatever the lengths of months and years, is one computation
(`total_summands`).
-/

namespace SbomGate.Duration

/-! ### Summands -/

/-- The parts of a second have their length in nanoseconds only; other units have
it in seconds as well. -/
theorem nanos_of_mem_units : ∀ u ∈ units,
    0 < u.nanos ∧ (u.seconds = 0 ∨ u.nanos = u.seconds * nanosPerSecond) := by
  decide

/-- The names of units have letters, and no other characters. -/
theorem letters_of_mem_units : ∀ u ∈ units, ∀ name ∈ u.names,
    name.toList ≠ [] ∧ name.toList.all isUnitLetter = true := by
  decide

/-- Letters of units are told from digits and blanks. -/
theorem isUnitLetter_apart {c : Char} (h : isUnitLetter c = true) :
    c.isDigit = false ∧ Text.isBlank c = false := by
  rcases (Bool.or_eq_true _ _).mp h with h | h
  · have hcases : (decide (c.val ≥ 'A'.val ∧ c.val ≤ 'Z'.val) ||
        (c.val ≥ 'a'.val && c.val ≤ 'z'.val)) = true := h
    have hletter : 65 ≤ c.toNat ∧ c.toNat ≤ 90 ∨ 97 ≤ c.toNat ∧ c.toNat ≤ 122 := by
      simpa [UInt32.le_iff_toNat_le] using hcases
    have hdigit : c.isDigit = true → 48 ≤ c.toNat ∧ c.toNat ≤ 57 := by
      simp [Char.isDigit, UInt32.le_iff_toNat_le]
    refine ⟨Bool.eq_false_iff.mpr fun h => ?_, ?_⟩
    · have hbounds := hdigit h
      omega
    · simp only [Text.isBlank, Bool.or_eq_false_iff, Bool.and_eq_false_imp, decide_eq_true_eq,
        decide_eq_false_iff_not]
      omega
  · obtain rfl := of_decide_eq_true h
    decide

/-- A number of units, under a name of the unit. -/
structure Summand where
  count : Nat
  name : String
  unit : TimeUnit
  /-- The name is one of the unit. -/
  named : unitOf? name = some unit

namespace Summand

/-- The length in nanoseconds. -/
def nanos (t : Summand) : Nat := t.count * t.unit.nanos

/-- The summand as it is written. -/
def text (t : Summand) : String := toString t.count ++ t.name

/-- The parts of a second do not make one. -/
def Proper (t : Summand) : Prop := t.unit.seconds = 0 → t.nanos < nanosPerSecond

variable {t : Summand}

theorem mem_units (t : Summand) : t.unit ∈ units := List.mem_of_find?_eq_some t.named

theorem letters (t : Summand) :
    t.name.toList ≠ [] ∧ ∀ c ∈ t.name.toList, isUnitLetter c = true := by
  have hname : t.name ∈ t.unit.names := by simpa using List.find?_some t.named
  obtain ⟨hne, hall⟩ := letters_of_mem_units t.unit t.mem_units t.name hname
  exact ⟨hne, List.all_eq_true.mp hall⟩

theorem nanos_of_seconds (h : t.unit.seconds ≠ 0) :
    t.nanos = t.count * t.unit.seconds * nanosPerSecond := by
  obtain ⟨-, hunit⟩ := nanos_of_mem_units t.unit t.mem_units
  rw [nanos, hunit.resolve_left h, Nat.mul_assoc]

/-- A number of units that is within range fits into 64 bits, also in seconds if
the unit has them. -/
theorem count_lt (ht : t.Proper) (h : t.nanos < UInt64.size * nanosPerSecond) :
    t.count < UInt64.size ∧ t.count * t.unit.seconds < UInt64.size := by
  obtain ⟨hpos, -⟩ := nanos_of_mem_units t.unit t.mem_units
  by_cases hseconds : t.unit.seconds = 0
  · have hcount : t.count ≤ t.nanos := Nat.le_mul_of_pos_right _ hpos
    have hlt : t.count < UInt64.size :=
      Nat.lt_of_le_of_lt hcount (Nat.lt_trans (ht hseconds) (by decide))
    exact ⟨hlt, by rw [hseconds, Nat.mul_zero]; decide⟩
  · have hlt : t.count * t.unit.seconds < UInt64.size :=
      Nat.lt_of_mul_lt_mul_right (nanos_of_seconds hseconds ▸ h)
    have hcount : t.count ≤ t.count * t.unit.seconds :=
      Nat.le_mul_of_pos_right _ (Nat.pos_of_ne_zero hseconds)
    exact ⟨Nat.lt_of_le_of_lt hcount hlt, hlt⟩

end Summand

/-! ### Adding a summand -/

theorem exists_ofNanos? {n : Nat} (h : n < UInt64.size * nanosPerSecond) :
    ∃ d, ofNanos? n = some d ∧ d.toNanos = n :=
  ⟨_, dif_pos (Nat.div_lt_of_lt_mul (Nat.mul_comm _ _ ▸ h)), Nat.div_add_mod' n nanosPerSecond⟩

/-- Seconds and nanoseconds are added as long as the sum is within range. -/
theorem exists_plus? (sum : Duration) (seconds : Nat) {nanos : Nat}
    (h : sum.toNanos + seconds * nanosPerSecond + nanos < UInt64.size * nanosPerSecond)
    (hnanos : nanos < nanosPerSecond) :
    ∃ d, sum.plus? seconds nanos = some d ∧
      d.toNanos = sum.toNanos + seconds * nanosPerSecond + nanos := by
  have hsum := sum.nanos_lt
  have hword : sum.nanos + nanos < UInt64.size := by
    simp only [nanosPerSecond, UInt64.size] at *
    omega
  have htotal : (sum.seconds + seconds) * nanosPerSecond + (sum.nanos + nanos) =
      sum.toNanos + seconds * nanosPerSecond + nanos := by
    rw [toNanos, Nat.add_mul]
    omega
  rw [plus?, word?, if_pos hword, Option.bind_eq_bind, Option.bind_some, ofParts?, htotal]
  exact exists_ofNanos? h

theorem addTerm?_summand (sum : Duration) {t : Summand} {seconds nanos : Nat}
    (hpart : wholePart? t.count t.unit = some (seconds, nanos)) :
    addTerm? sum t.count none t.name.toList = sum.plus? seconds nanos := by
  simp [addTerm?, t.named, hpart]

/-- A summand is added as long as the sum is within range. -/
theorem exists_addTerm? (sum : Duration) {t : Summand} (ht : t.Proper)
    (h : sum.toNanos + t.nanos < UInt64.size * nanosPerSecond) :
    ∃ d, addTerm? sum t.count none t.name.toList = some d ∧
      d.toNanos = sum.toNanos + t.nanos := by
  by_cases hseconds : t.unit.seconds = 0
  · have hfine : t.nanos < nanosPerSecond := ht hseconds
    have hword : t.nanos < UInt64.size := Nat.lt_trans hfine (by decide)
    have hpart : wholePart? t.count t.unit = some (0, t.nanos) := by
      rw [wholePart?, if_pos hseconds, word?, ← Summand.nanos, if_pos hword, Option.map_some]
    have hsum : sum.toNanos + t.nanos = sum.toNanos + 0 * nanosPerSecond + t.nanos := by
      rw [Nat.zero_mul, Nat.add_zero]
    rw [addTerm?_summand sum hpart, hsum]
    exact exists_plus? sum 0 (hsum ▸ h) hfine
  · obtain ⟨-, hword⟩ := t.count_lt ht (Nat.lt_of_le_of_lt (Nat.le_add_left _ _) h)
    have hpart : wholePart? t.count t.unit = some (t.count * t.unit.seconds, 0) := by
      rw [wholePart?, if_neg hseconds, word?, if_pos hword, Option.map_some]
    have hsum : sum.toNanos + t.nanos =
        sum.toNanos + t.count * t.unit.seconds * nanosPerSecond + 0 := by
      rw [Summand.nanos_of_seconds hseconds, Nat.add_zero]
    rw [addTerm?_summand sum hpart, hsum]
    exact exists_plus? sum _ (hsum ▸ h) (by decide)

/-! ### Reading one summand -/

theorem read_digits (sum : Option Duration) {n : Nat} (h : n < UInt64.size) :
    (Nat.toDigits 10 n).foldlM step (sum, .idle) = some (sum, .number n) := by
  induction n using Nat.strongRecOn with
  | ind n ih =>
      have hdigit {k : Nat} (hk : k < 10) :
          k.digitChar.isDigit = true ∧ digitOf k.digitChar = k := by
        rw [Nat.isDigit_digitChar, digitOf, Nat.toNat_digitChar_of_lt_ten hk]
        exact ⟨decide_eq_true hk, Nat.add_sub_cancel_left ..⟩
      rw [Nat.toDigits_eq_if (by decide)]
      split
      · next hlt =>
          obtain ⟨hisDigit, hvalue⟩ := hdigit hlt
          simp [step, hisDigit, hvalue]
      · next hge =>
          obtain ⟨hisDigit, hvalue⟩ := hdigit (Nat.mod_lt n (by decide : 0 < 10))
          have hword : n / 10 * 10 + n % 10 = n := Nat.div_add_mod' n 10
          rw [List.foldlM_append, ih (n / 10) (by omega) (by omega)]
          simp [step, hisDigit, hvalue, hword, word?, h]

theorem read_letters (sum : Option Duration) (n : Nat) {name : List Char} (hne : name ≠ [])
    (hletters : ∀ c ∈ name, isUnitLetter c = true) :
    name.foldlM step (sum, .number n) = some (sum, .unit n none name.reverse) := by
  have hunit : ∀ (rest letters : List Char), (∀ c ∈ rest, isUnitLetter c = true) →
      rest.foldlM step (sum, .unit n none letters) =
        some (sum, .unit n none (rest.reverse ++ letters)) := by
    intro rest
    induction rest with
    | nil => exact fun letters _ => rfl
    | cons c rest ih =>
        intro letters h
        obtain ⟨hc, hrest⟩ := List.forall_mem_cons.mp h
        simp [step, hc, ih _ hrest]
  obtain ⟨c, rest, rfl⟩ := List.exists_cons_of_ne_nil hne
  obtain ⟨hc, hrest⟩ := List.forall_mem_cons.mp hletters
  obtain ⟨hdigit, hblank⟩ := isUnitLetter_apart hc
  simp [step, hc, hdigit, hblank, hunit rest [c] hrest]

/-- A summand is read up to the last letter of its unit. -/
theorem read_text (sum : Option Duration) (t : Summand) (hcount : t.count < UInt64.size) :
    t.text.toList.foldlM step (sum, .idle) =
      some (sum, .unit t.count none t.name.toList.reverse) := by
  obtain ⟨hne, hletters⟩ := t.letters
  rw [Summand.text, String.toList_append, List.foldlM_append, Nat.toString_eq_ofList_toDigits,
    String.toList_ofList, read_digits sum hcount]
  exact read_letters sum t.count hne hletters

/-! ### Reading a sum -/

/-- The length of all summands in nanoseconds. -/
def total : List Summand → Nat
  | [] => 0
  | t :: ts => t.nanos + total ts

/-- Summands are read one after the other; the sum so far and what is to come are
within range together. -/
theorem read_summands {ts : List Summand} (hne : ts ≠ []) (hproper : ∀ t ∈ ts, t.Proper)
    (sum : Option Duration)
    (h : (sum.getD zero).toNanos + total ts < UInt64.size * nanosPerSecond) :
    ∃ d, ((" ".intercalate (ts.map Summand.text)).toList.foldlM step (sum, .idle)).bind finish =
        some d ∧ d.toNanos = (sum.getD zero).toNanos + total ts := by
  induction ts generalizing sum with
  | nil => exact absurd rfl hne
  | cons t ts ih =>
      obtain ⟨ht, hts⟩ := List.forall_mem_cons.mp hproper
      rw [total] at h ⊢
      obtain ⟨hcount, -⟩ := t.count_lt ht (by omega)
      obtain ⟨d, hd, hnanos⟩ := exists_addTerm? (sum.getD zero) ht (by omega)
      cases ts with
      | nil =>
          refine ⟨d, ?_, hnanos⟩
          rw [List.map_singleton, String.intercalate_singleton, read_text sum t hcount]
          simpa [finish] using hd
      | cons u us =>
          obtain ⟨d', hd', hnanos'⟩ := ih (List.cons_ne_nil u us) hts (some d)
            (by rw [Option.getD_some]; omega)
          rw [Option.getD_some] at hnanos'
          refine ⟨d', ?_, by omega⟩
          have hblank : step (sum, .unit t.count none t.name.toList.reverse) ' ' =
              some (some d, .idle) := by
            simp [step, isUnitLetter, Text.isBlank, hd]
          rw [List.map_cons, List.map_cons, String.intercalate_cons_cons, String.toList_append,
            String.toList_append, List.append_assoc, List.foldlM_append, read_text sum t hcount]
          simpa [hblank] using hd'

/-! ### The summands of a span -/

/-- A name that takes an `s` for more than one. -/
def plural (n : Nat) (name : String) : String := if n = 1 then name else name ++ "s"

/-- A number of units with such a name. -/
def counted (n : Nat) (name : String) (unit : TimeUnit) (hone : unitOf? name = some unit)
    (hmany : unitOf? (name ++ "s") = some unit) : Summand where
  count := n
  name := plural n name
  unit := unit
  named := by
    unfold plural
    split
    · exact hone
    · exact hmany

/-- The summands of a span, those of number zero among them. -/
def summands (d : Duration) : List Summand :=
  let inYear := d.seconds % 31557600
  let inMonth := inYear % 2630016
  let inDay := inMonth % 86400
  [counted (d.seconds / 31557600) "year" _ rfl rfl, counted (inYear / 2630016) "month" _ rfl rfl,
    counted (inMonth / 86400) "day" _ rfl rfl, ⟨inDay / 3600, "h", _, rfl⟩,
    ⟨inDay / 60 % 60, "m", _, rfl⟩, ⟨inDay % 60, "s", _, rfl⟩, ⟨d.nanos / 1000000, "ms", _, rfl⟩,
    ⟨d.nanos / 1000 % 1000, "us", _, rfl⟩, ⟨d.nanos % 1000, "ns", _, rfl⟩]

/-- The summands that are written. -/
def written (ts : List Summand) : List Summand := ts.filter (·.count ≠ 0)

@[simp] theorem written_nil : written [] = [] := rfl

theorem written_cons (t : Summand) (ts : List Summand) :
    written (t :: ts) = (if t.count = 0 then [] else [t]) ++ written ts := by
  by_cases h : t.count = 0 <;> simp [written, h]

theorem total_written (ts : List Summand) : total (written ts) = total ts := by
  induction ts with
  | nil => rfl
  | cons t ts ih =>
      rw [written_cons, total]
      split
      · next hcount => rw [List.nil_append, ih, Summand.nanos, hcount, Nat.zero_mul, Nat.zero_add]
      · rw [List.singleton_append, total, ih]

theorem map_written_cons (t : Summand) (ts : List Summand) :
    (written (t :: ts)).map Summand.text =
      term t.count t.name ++ (written ts).map Summand.text := by
  rw [written_cons, List.map_append, term]
  split <;> rfl

theorem terms_eq (d : Duration) : d.terms = (written d.summands).map Summand.text := by
  simp only [summands, map_written_cons, written_nil, List.map_nil, List.append_nil, terms,
    List.append_assoc]
  rfl

theorem total_summands (d : Duration) : total d.summands = d.toNanos := by
  have hseconds (s : Nat) :
      s / 31557600 * 31557600 + s % 31557600 / 2630016 * 2630016 +
        s % 31557600 % 2630016 / 86400 * 86400 +
        s % 31557600 % 2630016 % 86400 / 3600 * 3600 +
        s % 31557600 % 2630016 % 86400 / 60 % 60 * 60 +
        s % 31557600 % 2630016 % 86400 % 60 * 1 = s := by
    omega
  have hnanos (n : Nat) :
      n / 1000000 * 1000000 + (n / 1000 % 1000 * 1000 + n % 1000 * 1) = n := by
    omega
  have hcoarse (n : Nat) (names : List String) (s : Nat) (fine : Bool) :
      n * (coarseUnit names s fine).nanos = n * s * nanosPerSecond :=
    (Nat.mul_assoc ..).symm
  have hfine (n : Nat) (names : List String) (ns : Nat) : n * (fineUnit names ns).nanos = n * ns :=
    rfl
  simp only [summands, total, Summand.nanos, counted, hcoarse, hfine,
    ← Nat.add_assoc, ← Nat.add_mul, Nat.add_zero]
  rw [hseconds, Nat.add_assoc, Nat.add_assoc, hnanos, toNanos]

theorem proper_summands (d : Duration) : ∀ t ∈ d.summands, t.Proper := by
  have hnanos : d.nanos < 1000000000 := d.nanos_lt
  have hcoarse {t : Summand} (h : t.unit.seconds ≠ 0) : t.Proper := fun h' => absurd h' h
  have hfine {n : Nat} {name : String} {names : List String} {ns : Nat}
      (h : unitOf? name = some (fineUnit names ns)) (hlt : n * ns < 1000000000) :
      (Summand.mk n name (fineUnit names ns) h).Proper := fun _ => hlt
  simp only [summands, List.forall_mem_cons]
  exact ⟨hcoarse (Nat.succ_ne_zero _), hcoarse (Nat.succ_ne_zero _), hcoarse (Nat.succ_ne_zero _),
    hcoarse (Nat.succ_ne_zero _), hcoarse (Nat.succ_ne_zero _), hcoarse (Nat.succ_ne_zero _),
    hfine _ (by omega), hfine _ (by omega), hfine _ (by omega), by simp⟩

/-! ### Reading what is spelled -/

theorem eq_zero_of_isZero {d : Duration} (h : d.isZero = true) : d = zero := by
  obtain ⟨seconds, nanos, hseconds, hnanos⟩ := d
  simp only [isZero, Bool.and_eq_true, decide_eq_true_eq] at h
  obtain ⟨rfl, rfl⟩ := h
  rfl

theorem toNanos_pos {d : Duration} (h : d.isZero = false) : 0 < d.toNanos := by
  simp only [isZero, Bool.and_eq_false_iff, decide_eq_false_iff_not] at h
  simp only [toNanos, nanosPerSecond]
  omega

/-- **A span of time is read back** from the sum that spells it, be it as long as it
may. -/
theorem ofSpelling?_spell (d : Duration) : ofSpelling? d.spell = some d := by
  rw [spell]
  cases hzero : d.isZero with
  | true =>
      obtain rfl := eq_zero_of_isZero hzero
      rfl
  | false =>
      have hlength : (Option.getD none zero).toNanos + total (written d.summands) = d.toNanos := by
        rw [total_written, total_summands]
        exact Nat.zero_add _
      have hne : written d.summands ≠ [] := by
        intro hnil
        have hpos := toNanos_pos hzero
        rw [← hlength, hnil] at hpos
        exact Nat.lt_irrefl 0 hpos
      have hproper : ∀ t ∈ written d.summands, t.Proper := fun t ht =>
        d.proper_summands t (List.mem_filter.mp ht).1
      obtain ⟨sum, hsum, hnanos⟩ :=
        read_summands hne hproper none (by rw [hlength]; exact d.toNanos_lt)
      have hsame : some sum = some d := by
        rw [← ofNanos?_toNanos sum, hnanos, hlength, ofNanos?_toNanos]
      rw [← terms_eq, hsame] at hsum
      -- a lone zero would be read without a unit
      have hword : " ".intercalate d.terms ≠ "0" := by
        intro h
        rw [h] at hsum
        cases hsum
      rw [if_neg Bool.false_ne_true, ofSpelling?, if_neg hword, hsum]

end SbomGate.Duration
