import SbomGate.Json.Token
import SbomGate.Proofs.Utf8
/-!
# SbomGate.Proofs.Literal

**Strings are read back from their literals.**

Whatever the printer writes for a character is one piece to the reader, and
the piece is that character (`pieceAt_escapeChar`); a literal is read piece by
piece up to its closing quote.
-/

namespace SbomGate.Json

open Text.Utf8

/-! ### Characters -/

/-- A byte below `0x80` at the front of the bytes of a character is that
character. -/
theorem eq_ofNat_of_encodeChar {c : Char} {b : UInt8} {tail : Bytes}
    (h : String.utf8EncodeChar c = b :: tail) (hb : b < 0x80) : c = Char.ofNat b.toNat := by
  have hfirst := first?_encodeChar c []
  have hone : first? (b :: tail) = some (Char.ofNat b.toNat, 1) := if_pos hb
  rw [h, List.append_nil, hone, Option.some.injEq, Prod.mk.injEq] at hfirst
  exact hfirst.1.symm

/-- A character that needs no escape stands for itself. -/
theorem pieceAt_encodeChar {c : Char} (hquote : c ≠ '"') (hbackslash : c ≠ '\\')
    (hcontrol : ¬ c.toNat < 0x20) (offset : Nat) (rest : Bytes) :
    pieceAt offset (String.utf8EncodeChar c ++ rest) =
      .char c (String.utf8EncodeChar c).length := by
  have hfirst := first?_encodeChar c rest
  cases hc : String.utf8EncodeChar c with
  | nil => exact absurd hc String.utf8EncodeChar_ne_nil
  | cons b tail =>
      have hchar : b < 0x80 → c = Char.ofNat b.toNat := eq_ofNat_of_encodeChar hc
      have h₁ : b ≠ 0x22 := by
        rintro rfl
        exact hquote (hchar (by decide))
      have h₂ : b ≠ 0x5C := by
        rintro rfl
        exact hbackslash (hchar (by decide))
      have h₃ : ¬ b < 0x20 := by
        intro hlt
        have hb : b.toNat < 0x20 := UInt8.lt_iff_toNat_lt.mp hlt
        have hval : (Char.ofNat b.toNat).toNat = b.toNat :=
          toNat_val_ofNat (.inl (Nat.lt_trans hb (by decide)))
        rw [← hchar (UInt8.lt_trans hlt (by decide))] at hval
        exact hcontrol (by omega)
      rw [hc, List.cons_append] at hfirst
      rw [List.cons_append, pieceAt, if_neg h₁, if_neg h₂, if_neg h₃, hfirst]

theorem hexValue?_hexDigit : ∀ n < 16, hexValue? (asciiByte (hexDigit n)) = some n := by
  decide

/-- A control character is escaped by its code. -/
theorem pieceAt_controlEscape {c : Char} (hcontrol : c.toNat < 0x20) (offset : Nat)
    (rest : Bytes) :
    let escape := ['\\', 'u', '0', '0', hexDigit (c.toNat / 16), hexDigit (c.toNat % 16)]
    pieceAt offset (encode escape ++ rest) = .char c (encode escape).length := by
  have hascii : ∀ n < 16, (hexDigit n).toNat < 0x80 := by decide
  have hhigh := hexValue?_hexDigit (c.toNat / 16) (by omega)
  have hlow := hexValue?_hexDigit (c.toNat % 16) (by omega)
  intro escape
  have hencode : encode escape =
      [0x5C, 0x75, 0x30, 0x30, asciiByte (hexDigit (c.toNat / 16)),
        asciiByte (hexDigit (c.toNat % 16))] := by
    rw [encode_ascii]
    · rfl
    · intro d hd
      simp only [escape, List.mem_cons, List.not_mem_nil, or_false] at hd
      rcases hd with rfl | rfl | rfl | rfl | rfl | rfl
      · decide
      · decide
      · decide
      · decide
      · exact hascii _ (by omega)
      · exact hascii _ (by omega)
  have hzero : hexValue? 0x30 = some 0 := by decide
  have hcode : ((0 * 16 + 0) * 16 + c.toNat / 16) * 16 + c.toNat % 16 = c.toNat := by omega
  have hquote : (0x5C : UInt8) ≠ 0x22 := by decide
  have hlone : ¬ (0xDC00 ≤ c.toNat ∧ c.toNat ≤ 0xDFFF) := by omega
  have hpair : ¬ (0xD800 ≤ c.toNat ∧ c.toNat ≤ 0xDBFF) := by omega
  rw [hencode]
  simp only [List.cons_append, List.nil_append, pieceAt, hquote, if_false, if_true, escapePiece,
    unitEscape, hexQuad, hzero, hhigh, hlow, hcode, hlone, hpair, Char.ofNat_toNat]
  rfl

/-- What is written for a character is read as one piece, that character. -/
theorem pieceAt_escapeChar (c : Char) (offset : Nat) (rest : Bytes) :
    pieceAt offset (encode (escapeChar c) ++ rest) =
      .char c (encode (escapeChar c)).length := by
  unfold escapeChar
  split
  · next h => subst h; rfl
  split
  · next h => subst h; rfl
  split
  · next h => subst h; rfl
  split
  · next h => subst h; rfl
  split
  · next h => subst h; rfl
  split
  · next h => subst h; rfl
  split
  · next h => subst h; rfl
  split
  · next hcontrol => exact pieceAt_controlEscape hcontrol offset rest
  · next hquote hbackslash _ _ _ _ _ hcontrol =>
      rw [encode_cons, encode_nil, List.append_nil]
      exact pieceAt_encodeChar hquote hbackslash hcontrol offset rest

theorem encode_escapeChar_ne_nil (c : Char) : encode (escapeChar c) ≠ [] := by
  intro h
  have hpiece := pieceAt_escapeChar c 0 []
  rw [h] at hpiece
  cases hpiece

/-! ### Literals -/

theorem readString_skip (taken : List Char) (bad : Option Nat) (rest tail : Bytes)
    (offset : Nat) :
    readString taken bad tail.length offset (tail ++ rest) =
      readString taken bad 0 (offset + tail.length) rest := by
  induction tail generalizing offset with
  | nil => rfl
  | cons b tail ih =>
      rw [List.cons_append, List.length_cons, readString, ih]
      congr 1
      omega

/-- The characters of a literal are read one after the other, up to the closing
quote. -/
theorem readString_escaped (rest : Bytes) (cs taken : List Char) (offset : Nat) :
    readString taken none 0 offset (encode (cs.flatMap escapeChar) ++ 0x22 :: rest) =
      .ok (String.ofList (taken.reverse ++ cs),
        offset + (encode (cs.flatMap escapeChar)).length + 1) := by
  induction cs generalizing taken offset with
  | nil => simp [readString, pieceAt]
  | cons c cs ih =>
      have hpiece := pieceAt_escapeChar c offset
        (encode (cs.flatMap escapeChar) ++ 0x22 :: rest)
      rw [List.flatMap_cons, encode_append, List.append_assoc]
      cases hc : encode (escapeChar c) with
      | nil => exact absurd hc (encode_escapeChar_ne_nil c)
      | cons b tail =>
          -- the piece says how many bytes behind its first one are its own
          rw [hc, List.cons_append] at hpiece
          rw [List.cons_append, readString, hpiece]
          dsimp only
          rw [List.length_cons, Nat.add_sub_cancel, readString_skip, ih]
          simp only [List.reverse_cons, List.append_assoc, List.singleton_append, List.length_cons,
            List.length_append]
          congr 2
          omega

/-- **Strings are read back from their literals.** -/
theorem stringToken_escaped (s : String) (offset : Nat) (rest : Bytes) :
    stringToken offset (encode (s.toList.flatMap escapeChar) ++ 0x22 :: rest) =
      (.leaf (.string (.ok s)), offset + (encode (s.toList.flatMap escapeChar)).length + 1) := by
  rw [stringToken, readString_escaped, List.reverse_nil, List.nil_append, String.ofList_toList]

theorem encode_renderString (s : String) :
    encode (renderString s) = 0x22 :: (encode (s.toList.flatMap escapeChar) ++ [0x22]) := by
  rw [renderString, encode_cons, encode_append]
  rfl

end SbomGate.Json
