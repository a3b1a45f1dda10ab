import Mathlib.Tactic.Common
import SbomGate.Text.Utf8
/-!
# SbomGate.Proofs.Utf8

**Reading back UTF-8**: the bytes of a character are read as that character,
whatever stands behind them.
-/

namespace SbomGate.Text.Utf8

/-- A character is its scalar value. -/
theorem ofNat_toNat_val (c : Char) : Char.ofNat c.val.toNat = c := Char.ofNat_toNat c

theorem toNat_val_ofNat {n : Nat} (h : n.isValidChar) : (Char.ofNat n).val.toNat = n := by
  rw [Char.ofNat, dif_pos h]
  rfl

theorem scalar?_toNat {least : Nat} {c : Char} (h : least ≤ c.val.toNat) :
    scalar? least c.val.toNat = some c := by
  rw [scalar?, if_pos ⟨h, c.valid⟩, ofNat_toNat_val]

theorem tailBits_ofNat {n : Nat} (h : n < 64) : tailBits (UInt8.ofNat (n + 0x80)) = n := by
  simp only [tailBits, UInt8.toNat_ofNat']
  omega

theorem ofNat_lt_iff {n k : Nat} (hn : n < 256) (hk : k < 256) :
    UInt8.ofNat n < UInt8.ofNat k ↔ n < k := by
  rw [UInt8.lt_iff_toNat_lt, UInt8.toNat_ofNat_of_lt' hn, UInt8.toNat_ofNat_of_lt' hk]

/-- A first byte lies in a range when its number does. -/
theorem lead_mem_iff {n a b : Nat} (hn : n < 256) (ha : a < 256) (hb : b < 256) :
    (UInt8.ofNat a ≤ UInt8.ofNat n ∧ UInt8.ofNat n < UInt8.ofNat b) ↔ a ≤ n ∧ n < b := by
  rw [UInt8.le_iff_toNat_le, UInt8.lt_iff_toNat_lt, UInt8.toNat_ofNat_of_lt' hn,
    UInt8.toNat_ofNat_of_lt' ha, UInt8.toNat_ofNat_of_lt' hb]

theorem isTail_ofNat {n : Nat} (h : n < 64) : isTail (UInt8.ofNat (n + 0x80)) = true := by
  simp only [isTail, Bool.and_eq_true, decide_eq_true_eq]
  rw [UInt8.le_iff_toNat_le, UInt8.le_iff_toNat_le,
    UInt8.toNat_ofNat_of_lt' (show n + 0x80 < 256 by omega)]
  exact ⟨Nat.le_add_left _ _, Nat.le_of_lt_succ (Nat.add_lt_add_right h 0x80)⟩

section

variable {n m k l : Nat} (rest : Bytes)

theorem first?_one (hn : n < 0x80) :
    first? (UInt8.ofNat n :: rest) = some (Char.ofNat n, 1) := by
  have h1 : UInt8.ofNat n < 0x80 := (ofNat_lt_iff (k := 0x80) (by omega) (by decide)).mpr hn
  have h2 : (UInt8.ofNat n).toNat = n := UInt8.toNat_ofNat_of_lt' (show n < 256 by omega)
  unfold first?
  simp only [h1, if_true, h2]

theorem first?_two (hn : n < 32) (hm : m < 64) :
    first? (UInt8.ofNat (n + 0xC0) :: UInt8.ofNat (m + 0x80) :: rest) =
      (scalar? 0x80 (n * 64 + m)).map (·, 2) := by
  have h1 : ¬ UInt8.ofNat (n + 0xC0) < 0x80 :=
    mt (ofNat_lt_iff (k := 0x80) (by omega) (by decide)).mp (by omega)
  have h2 : 0xC0 ≤ UInt8.ofNat (n + 0xC0) ∧ UInt8.ofNat (n + 0xC0) < 0xE0 :=
    (lead_mem_iff (a := 0xC0) (b := 0xE0) (by omega) (by decide) (by decide)).mpr (by omega)
  have hlead : (n + 0xC0) % 32 = n := by omega
  rw [first?, if_neg h1, if_pos h2]
  simp only [isTail_ofNat hm, tailBits_ofNat hm,
    UInt8.toNat_ofNat_of_lt' (show n + 0xC0 < 256 by omega), hlead, if_true]

theorem first?_three (hn : n < 16) (hm : m < 64) (hk : k < 64) :
    first? (UInt8.ofNat (n + 0xE0) :: UInt8.ofNat (m + 0x80) :: UInt8.ofNat (k + 0x80) :: rest) =
      (scalar? 0x800 ((n * 64 + m) * 64 + k)).map (·, 3) := by
  have h1 : ¬ UInt8.ofNat (n + 0xE0) < 0x80 :=
    mt (ofNat_lt_iff (k := 0x80) (by omega) (by decide)).mp (by omega)
  have h2 : ¬ (0xC0 ≤ UInt8.ofNat (n + 0xE0) ∧ UInt8.ofNat (n + 0xE0) < 0xE0) :=
    mt (lead_mem_iff (a := 0xC0) (b := 0xE0) (by omega) (by decide) (by decide)).mp (by omega)
  have h3 : 0xE0 ≤ UInt8.ofNat (n + 0xE0) ∧ UInt8.ofNat (n + 0xE0) < 0xF0 :=
    (lead_mem_iff (a := 0xE0) (b := 0xF0) (by omega) (by decide) (by decide)).mpr (by omega)
  have hlead : (n + 0xE0) % 16 = n := by omega
  rw [first?, if_neg h1, if_neg h2, if_pos h3]
  simp only [isTail_ofNat hm, isTail_ofNat hk, tailBits_ofNat hm, tailBits_ofNat hk,
    UInt8.toNat_ofNat_of_lt' (show n + 0xE0 < 256 by omega), hlead, Bool.and_self, if_true]

theorem first?_four (hn : n < 8) (hm : m < 64) (hk : k < 64) (hl : l < 64) :
    first? (UInt8.ofNat (n + 0xF0) :: UInt8.ofNat (m + 0x80) :: UInt8.ofNat (k + 0x80) ::
        UInt8.ofNat (l + 0x80) :: rest) =
      (scalar? 0x10000 (((n * 64 + m) * 64 + k) * 64 + l)).map (·, 4) := by
  have h1 : ¬ UInt8.ofNat (n + 0xF0) < 0x80 :=
    mt (ofNat_lt_iff (k := 0x80) (by omega) (by decide)).mp (by omega)
  have h2 : ¬ (0xC0 ≤ UInt8.ofNat (n + 0xF0) ∧ UInt8.ofNat (n + 0xF0) < 0xE0) :=
    mt (lead_mem_iff (a := 0xC0) (b := 0xE0) (by omega) (by decide) (by decide)).mp (by omega)
  have h3 : ¬ (0xE0 ≤ UInt8.ofNat (n + 0xF0) ∧ UInt8.ofNat (n + 0xF0) < 0xF0) :=
    mt (lead_mem_iff (a := 0xE0) (b := 0xF0) (by omega) (by decide) (by decide)).mp (by omega)
  have h4 : 0xF0 ≤ UInt8.ofNat (n + 0xF0) ∧ UInt8.ofNat (n + 0xF0) < 0xF8 :=
    (lead_mem_iff (a := 0xF0) (b := 0xF8) (by omega) (by decide) (by decide)).mpr (by omega)
  have hlead : (n + 0xF0) % 8 = n := by omega
  rw [first?, if_neg h1, if_neg h2, if_neg h3, if_pos h4]
  simp only [isTail_ofNat hm, isTail_ofNat hk, isTail_ofNat hl, tailBits_ofNat hm,
    tailBits_ofNat hk, tailBits_ofNat hl, UInt8.toNat_ofNat_of_lt' (show n + 0xF0 < 256 by omega),
    hlead, Bool.and_self, if_true]

end

theorem toNat_val_lt (c : Char) : c.val.toNat < 0x110000 := by
  rcases c.valid with h | h
  · exact Nat.lt_trans h (by decide)
  · exact h.2

/-- The bytes of a character are read as that character. -/
theorem first?_encodeChar (c : Char) (rest : Bytes) :
    first? (String.utf8EncodeChar c ++ rest) = some (c, (String.utf8EncodeChar c).length) := by
  have hvalid := toNat_val_lt c
  -- one range of scalar values for each number of bytes
  by_cases h1 : c.val.toNat ≤ 0x7f
  · have he : String.utf8EncodeChar c = [UInt8.ofNat c.val.toNat] := if_pos h1
    rw [he, List.singleton_append, first?_one rest (by omega), ofNat_toNat_val]
    rfl
  by_cases h2 : c.val.toNat ≤ 0x7ff
  · have he : String.utf8EncodeChar c = [UInt8.ofNat (c.val.toNat / 64 % 0x20 + 0xc0),
        UInt8.ofNat (c.val.toNat % 0x40 + 0x80)] := by
      simp only [String.utf8EncodeChar, if_neg h1, if_pos h2]
    have hsum : c.val.toNat / 64 % 0x20 * 64 + c.val.toNat % 0x40 = c.val.toNat := by omega
    rw [he]
    simp only [List.cons_append, List.nil_append]
    rw [first?_two rest (by omega) (by omega), hsum, scalar?_toNat (by omega)]
    rfl
  by_cases h3 : c.val.toNat ≤ 0xffff
  · have he : String.utf8EncodeChar c = [UInt8.ofNat (c.val.toNat / 4096 % 0x10 + 0xe0),
        UInt8.ofNat (c.val.toNat / 64 % 0x40 + 0x80), UInt8.ofNat (c.val.toNat % 0x40 + 0x80)] := by
      simp only [String.utf8EncodeChar, if_neg h1, if_neg h2, if_pos h3]
    have hsum : (c.val.toNat / 4096 % 0x10 * 64 + c.val.toNat / 64 % 0x40) * 64 +
        c.val.toNat % 0x40 = c.val.toNat := by omega
    rw [he]
    simp only [List.cons_append, List.nil_append]
    rw [first?_three rest (by omega) (by omega) (by omega), hsum, scalar?_toNat (by omega)]
    rfl
  · have he : String.utf8EncodeChar c = [UInt8.ofNat (c.val.toNat / 262144 % 0x08 + 0xf0),
        UInt8.ofNat (c.val.toNat / 4096 % 0x40 + 0x80), UInt8.ofNat (c.val.toNat / 64 % 0x40 + 0x80),
        UInt8.ofNat (c.val.toNat % 0x40 + 0x80)] := by
      simp only [String.utf8EncodeChar, if_neg h1, if_neg h2, if_neg h3]
    have hsum : ((c.val.toNat / 262144 % 0x08 * 64 + c.val.toNat / 4096 % 0x40) * 64 +
        c.val.toNat / 64 % 0x40) * 64 + c.val.toNat % 0x40 = c.val.toNat := by omega
    rw [he]
    simp only [List.cons_append, List.nil_append]
    rw [first?_four rest (by omega) (by omega) (by omega) (by omega), hsum,
      scalar?_toNat (by omega)]
    rfl

/-! ### Texts -/

theorem decodeFrom_skip (taken : List Char) (rest tail : Bytes) (offset : Nat) :
    decodeFrom taken tail.length offset (tail ++ rest) =
      decodeFrom taken 0 (offset + tail.length) rest := by
  induction tail generalizing offset with
  | nil => rfl
  | cons b tail ih =>
      rw [List.cons_append, List.length_cons, decodeFrom, ih]
      congr 1
      omega

theorem decodeFrom_encode (cs taken : List Char) (offset : Nat) :
    decodeFrom taken 0 offset (encode cs) = .ok (taken.reverse ++ cs) := by
  induction cs generalizing taken offset with
  | nil => simp [decodeFrom]
  | cons c cs ih =>
      have hfirst := first?_encodeChar c (encode cs)
      cases hc : String.utf8EncodeChar c with
      | nil => exact absurd hc String.utf8EncodeChar_ne_nil
      | cons b tail =>
          rw [hc, List.cons_append] at hfirst
          rw [encode_cons, hc, List.cons_append, decodeFrom, hfirst]
          dsimp only
          -- the bytes behind the first one belong to the same character
          rw [List.length_cons, Nat.add_sub_cancel, decodeFrom_skip, ih]
          simp

/-- The bytes of a text are read as that text. -/
theorem decode_encode (cs : List Char) : decode (encode cs) = .ok cs :=
  decodeFrom_encode cs [] 0

theorem encode_injective : Function.Injective encode := by
  intro cs ds h
  have hd := decode_encode ds
  rw [← h, decode_encode] at hd
  exact Except.ok.inj hd

/-- An ASCII byte is the only byte of its character. -/
theorem encodeChar_ofNat_toNat {b : UInt8} (h : b < 0x80) :
    String.utf8EncodeChar (Char.ofNat b.toNat) = [b] := by
  have hb : b.toNat < 0x80 := UInt8.lt_iff_toNat_lt.mp h
  have hval : (Char.ofNat b.toNat).val.toNat = b.toNat :=
    toNat_val_ofNat (.inl (Nat.lt_trans hb (by decide)))
  rw [String.utf8EncodeChar, hval, if_pos (by omega), UInt8.ofNat_toNat]

theorem encode_map_ofNat {bytes : Bytes} (h : ∀ b ∈ bytes, b < 0x80) :
    encode (bytes.map fun b => Char.ofNat b.toNat) = bytes := by
  induction bytes with
  | nil => rfl
  | cons b bytes ih =>
      obtain ⟨hb, hbytes⟩ := List.forall_mem_cons.mp h
      rw [List.map_cons, encode_cons, encodeChar_ofNat_toNat hb, ih hbytes]
      rfl

theorem encode_ne_nil {cs : List Char} (h : cs ≠ []) : encode cs ≠ [] :=
  fun he => h (encode_injective he)

/-- The byte of an ASCII character. -/
def asciiByte (c : Char) : UInt8 := UInt8.ofNat c.toNat

theorem encodeChar_ascii {c : Char} (h : c.toNat < 0x80) :
    String.utf8EncodeChar c = [asciiByte c] := by
  have hle : c.val.toNat ≤ 0x7f := Nat.le_of_lt_succ h
  exact if_pos hle

theorem encode_ascii {cs : List Char} (h : ∀ c ∈ cs, c.toNat < 0x80) :
    encode cs = cs.map asciiByte := by
  induction cs with
  | nil => rfl
  | cons c cs ih =>
      obtain ⟨hc, hcs⟩ := List.forall_mem_cons.mp h
      rw [encode_cons, encodeChar_ascii hc, ih hcs]
      rfl

end SbomGate.Text.Utf8

namespace SbomGate

theorem bytesOf_injective : Function.Injective bytesOf := by
  intro s t h
  exact String.toList_inj.mp (Text.Utf8.encode_injective h)

end SbomGate
