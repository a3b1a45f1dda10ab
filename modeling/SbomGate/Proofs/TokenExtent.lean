import SbomGate.Proofs.Reading
/-!
# SbomGate.Proofs.TokenExtent

**A token is a matter of its own bytes.** Where a readable token stands in a text, and
what follows it, make no difference to it: it is found at every offset, and in front of
every text that cannot extend a number.

* `Token.Sound` — the token is complete, and a reader finds no fault with it.
* `Scans` — what a scanner of numbers takes off the front of a text.
* `tokenAt_append` — the main result, put together from strings (`stringToken_append`),
  numbers (`numberToken_append`) and words (`wordToken_append`).
-/

namespace SbomGate.Json

open Text.Utf8

/-! ### Strings -/

/-- A part of a string without fault. -/
def Piece.Sound : Piece → Prop
  | .close | .char _ _ => True
  | .illFormed | .fault _ => False

theorem hexQuad_append {offset n : Nat} {bytes : Bytes} (h : hexQuad offset bytes = .ok n)
    (offset' : Nat) (extra : Bytes) : hexQuad offset' (bytes ++ extra) = .ok n := by
  match bytes, h with
  | a :: b :: c :: d :: rest, h =>
      simp only [hexQuad, List.cons_append] at h ⊢
      split at h
      · exact h
      · cases h

section

variable {offset : Nat} {bytes : Bytes} {p : Piece} (hp : p.Sound) (offset' : Nat) (extra : Bytes)

include hp

theorem lowHalf_append {high : Nat} (h : lowHalf high offset bytes = p) :
    lowHalf high offset' (bytes ++ extra) = p := by
  match bytes with
  | [] => subst h; cases hp
  | [b] =>
      simp only [lowHalf] at h
      split at h <;> subst h <;> cases hp
  | b :: u :: rest =>
      simp only [lowHalf, List.cons_append] at h ⊢
      split at h
      · subst h; cases hp
      next hb =>
      rw [if_neg hb]
      split at h
      · subst h; cases hp
      next hu =>
      rw [if_neg hu]
      cases hquad : hexQuad (offset + 2) rest with
      | error f => rw [hquad] at h; subst h; cases hp
      | ok low =>
          rw [hquad] at h
          rw [hexQuad_append hquad]
          dsimp only at h ⊢
          split at h
          · subst h; cases hp
          · next hlow => rw [if_neg hlow]; exact h

theorem unitEscape_append (h : unitEscape offset bytes = p) :
    unitEscape offset' (bytes ++ extra) = p := by
  unfold unitEscape at h ⊢
  cases hquad : hexQuad offset bytes with
  | error f => rw [hquad] at h; subst h; cases hp
  | ok n =>
      have hlength : 4 ≤ bytes.length := by
        match bytes, hquad with
        | _ :: _ :: _ :: _ :: _, _ => simp
      rw [hquad] at h
      rw [hexQuad_append hquad, List.drop_append_of_le_length hlength]
      dsimp only at h ⊢
      split at h
      · subst h; cases hp
      next hlone =>
      rw [if_neg hlone]
      split at h
      · next hpair => rw [if_pos hpair]; exact lowHalf_append hp _ extra h
      · next hpair => rw [if_neg hpair]; exact h

theorem escapePiece_append (h : escapePiece offset bytes = p) :
    escapePiece offset' (bytes ++ extra) = p := by
  cases bytes with
  | nil => subst h; cases hp
  | cons b rest =>
      simp only [escapePiece, List.cons_append] at h ⊢
      split at h
      · next hu => rw [if_pos hu]; exact unitEscape_append hp _ extra h
      next hu =>
      rw [if_neg hu]
      cases hletter : letterEscape? b with
      | some c => rw [hletter] at h; exact h
      | none => rw [hletter] at h; subst h; cases hp

end

/-- A well-formed character is complete. -/
theorem first?_append {bytes : Bytes} {p : Char × Nat} (h : first? bytes = some p)
    (extra : Bytes) : first? (bytes ++ extra) = some p := by
  cases bytes with
  | nil => cases h
  | cons a rest =>
      simp only [first?, List.cons_append] at h ⊢
      split at h
      · next h₁ => rw [if_pos h₁]; exact h
      next h₁ =>
      rw [if_neg h₁]
      split at h
      · next h₂ =>
          rw [if_pos h₂]
          cases rest with
          | nil => cases h
          | cons b rest => exact h
      next h₂ =>
      rw [if_neg h₂]
      split at h
      · next h₃ =>
          rw [if_pos h₃]
          rcases rest with _ | ⟨b, _ | ⟨c, rest⟩⟩
          · cases h
          · cases h
          · exact h
      next h₃ =>
      rw [if_neg h₃]
      split at h
      · next h₄ =>
          rw [if_pos h₄]
          rcases rest with _ | ⟨b, _ | ⟨c, _ | ⟨d, rest⟩⟩⟩
          · cases h
          · cases h
          · cases h
          · exact h
      · cases h

theorem pieceAt_append {offset : Nat} {b : UInt8} {rest : Bytes} {p : Piece} (hp : p.Sound)
    (h : pieceAt offset (b :: rest) = p) (offset' : Nat) (extra : Bytes) :
    pieceAt offset' (b :: (rest ++ extra)) = p := by
  rw [pieceAt] at h ⊢
  split at h
  · next hquote => rw [if_pos hquote]; exact h
  next hquote =>
  rw [if_neg hquote]
  split at h
  · next hescape => rw [if_pos hescape]; exact escapePiece_append hp _ extra h
  next hescape =>
  rw [if_neg hescape]
  split at h
  · subst h; cases hp
  next hcontrol =>
  rw [if_neg hcontrol]
  cases hfirst : first? (b :: rest) with
  | none => rw [hfirst] at h; subst h; cases hp
  | some c =>
      have happend := first?_append hfirst extra
      rw [List.cons_append] at happend
      rw [hfirst] at h
      rw [happend]
      exact h

/-- An ill-formed byte is not forgotten. -/
theorem readString_bad {o : Nat} {r : String × Nat} (bytes : Bytes) (taken : List Char)
    (skip offset : Nat) : readString taken (some o) skip offset bytes ≠ .ok r := by
  induction bytes generalizing taken skip offset with
  | nil => simp [readString]
  | cons b rest ih =>
      cases skip with
      | succ skip => exact ih taken skip (offset + 1)
      | zero =>
          rw [readString]
          cases pieceAt offset (b :: rest) with
          | close => simp
          | char c width => exact ih (c :: taken) (width - 1) (offset + 1)
          | illFormed => exact ih taken 0 (offset + 1)
          | fault f => simp

/-- A string that can be read ends where it ends, whatever follows. -/
theorem readString_append {s : String} {stop : Nat} (bytes : Bytes) (taken : List Char)
    (skip offset : Nat) (h : readString taken none skip offset bytes = .ok (s, stop)) :
    ∃ width, width ≤ bytes.length ∧ ∀ offset' extra,
      readString taken none skip offset' (bytes ++ extra) = .ok (s, offset' + width) := by
  induction bytes generalizing taken skip offset with
  | nil => cases h
  | cons b rest ih =>
      -- the rest of the string, read on with other counters, is one byte shorter
      have hnext : ∀ taken skip, readString taken none skip (offset + 1) rest = .ok (s, stop) →
          ∃ width, width ≤ rest.length ∧ ∀ offset' extra,
            readString taken none skip (offset' + 1) (rest ++ extra) =
              .ok (s, offset' + (width + 1)) := by
        intro taken skip h
        obtain ⟨width, hwidth, hread⟩ := ih taken skip (offset + 1) h
        refine ⟨width, hwidth, fun offset' extra => ?_⟩
        rw [hread, Nat.add_right_comm, Nat.add_assoc]
      cases skip with
      | succ skip =>
          obtain ⟨width, hwidth, hread⟩ := hnext taken skip h
          exact ⟨width + 1, Nat.succ_le_succ hwidth, hread⟩
      | zero =>
          rw [readString] at h
          cases hpiece : pieceAt offset (b :: rest) with
          | fault f => rw [hpiece] at h; cases h
          | illFormed =>
              rw [hpiece] at h
              exact absurd h (readString_bad rest taken 0 (offset + 1))
          | close =>
              rw [hpiece] at h
              obtain ⟨rfl, -⟩ := Prod.mk.inj (Except.ok.inj h)
              refine ⟨1, by simp, fun offset' extra => ?_⟩
              rw [List.cons_append, readString, pieceAt_append (p := .close) trivial hpiece]
          | char c width =>
              rw [hpiece] at h
              obtain ⟨k, hk, hread⟩ := hnext (c :: taken) (width - 1) h
              refine ⟨k + 1, Nat.succ_le_succ hk, fun offset' extra => ?_⟩
              rw [List.cons_append, readString, pieceAt_append (p := .char c width) trivial hpiece]
              exact hread offset' extra

/-! ### Numbers -/

theorem takeWhile_append {extra : Bytes} (hextra : Terminated extra) (bytes : Bytes) :
    (bytes ++ extra).takeWhile isDigit = bytes.takeWhile isDigit := by
  induction bytes with
  | nil =>
      cases extra with
      | nil => rfl
      | cons b extra => exact List.takeWhile_cons_of_neg (by simp [(hextra b rfl).1])
  | cons b bytes ih => rw [List.cons_append, List.takeWhile_cons, List.takeWhile_cons, ih]

theorem length_takeWhile_le (bytes : Bytes) : (bytes.takeWhile isDigit).length ≤ bytes.length :=
  (List.takeWhile_sublist isDigit).length_le

theorem drop_takeWhile_append (bytes extra : Bytes) :
    (bytes ++ extra).drop (bytes.takeWhile isDigit).length =
      bytes.drop (bytes.takeWhile isDigit).length ++ extra :=
  List.drop_append_of_le_length (length_takeWhile_le bytes)

/-- The same number, with its exponent at another offset. -/
def NumberText.moved (t : NumberText) (start : Nat) : NumberText := { t with exponentStart := start }

/-- What a scanner takes off the front of a text, it takes off at every offset and in front
of every text that cannot extend a number. -/
def Scans (scan : Nat → Bytes → Except Break (NumberText × Nat)) (bytes : Bytes) (t : NumberText)
    (width : Nat) : Prop :=
  ∀ offset extra, Terminated extra →
    ∃ start, scan offset (bytes ++ extra) = .ok (t.moved start, offset + width)

/-- The digits of an exponent, behind its sign. -/
def exponentDigits (t : NumberText) (negative : Bool) (start : Nat) (bytes : Bytes) :
    Except Break (NumberText × Nat) :=
  let ds := bytes.takeWhile isDigit
  if ds.isEmpty then .error (.all (Defect.badNumber.at (start + 1)))
  else
    .ok ({ t with marked := true, exponentNegative := negative, exponent := ds,
                  exponentStart := start }, start + ds.length)

theorem scans_exponentDigits {t t' : NumberText} {negative : Bool} {start stop : Nat}
    {bytes : Bytes} (h : exponentDigits t negative start bytes = .ok (t', stop)) :
    ∃ width, width ≤ bytes.length ∧
      ∀ begun, Scans (exponentDigits (t.moved begun) negative) bytes t' width := by
  rw [exponentDigits] at h
  split at h
  · cases h
  next hdigits =>
  obtain ⟨rfl, -⟩ := Prod.mk.inj (Except.ok.inj h)
  refine ⟨_, length_takeWhile_le bytes, fun begun start' extra hextra => ⟨start', ?_⟩⟩
  simp only [exponentDigits, takeWhile_append hextra, hdigits]
  rfl

section

variable (t : NumberText) (offset : Nat) {e r : UInt8} (he : e = 0x65 ∨ e = 0x45)

include he

theorem scanExponent_of_sign (hr : r = 0x2D ∨ r = 0x2B) (d : UInt8) (rest : Bytes) :
    scanExponent t offset (e :: r :: d :: rest) =
      exponentDigits t (r = 0x2D) (offset + 2) (d :: rest) := by
  simp only [scanExponent, he, if_true, List.head?_cons, Option.some.injEq, hr, List.drop_one,
    List.tail_cons, exponentDigits]

theorem scanExponent_of_no_sign (hr : ¬(r = 0x2D ∨ r = 0x2B)) (rest : Bytes) :
    scanExponent t offset (e :: r :: rest) =
      exponentDigits t (r = 0x2D) (offset + 1) (r :: rest) := by
  simp only [scanExponent, he, if_true, List.head?_cons, Option.some.injEq, hr, if_false,
    exponentDigits]

end

theorem scans_exponent {t t' : NumberText} {offset stop : Nat} {bytes : Bytes}
    (h : scanExponent t offset bytes = .ok (t', stop)) :
    ∃ width, width ≤ bytes.length ∧ ∀ begun, Scans (scanExponent (t.moved begun)) bytes t' width := by
  cases bytes with
  | nil =>
      obtain ⟨rfl, -⟩ := Prod.mk.inj (Except.ok.inj h)
      refine ⟨0, Nat.le_refl _, fun begun offset' extra hextra => ⟨begun, ?_⟩⟩
      cases extra with
      | nil => rfl
      | cons e extra =>
          obtain ⟨-, -, he, hE⟩ := hextra e rfl
          rw [List.nil_append, scanExponent, if_neg (by simp [he, hE])]
          rfl
  | cons e rest =>
      by_cases he : e = 0x65 ∨ e = 0x45
      · cases rest with
        | nil => simp [scanExponent, he] at h
        | cons r rest =>
            by_cases hr : r = 0x2D ∨ r = 0x2B
            · cases rest with
              | nil => simp [scanExponent, he, hr] at h
              | cons d rest =>
                  rw [scanExponent_of_sign t offset he hr] at h
                  obtain ⟨width, hwidth, hscan⟩ := scans_exponentDigits h
                  refine ⟨width + 2, Nat.add_le_add_right hwidth 2, ?_⟩
                  intro begun offset' extra hextra
                  simp only [List.cons_append, scanExponent_of_sign _ offset' he hr]
                  rw [← List.cons_append, Nat.add_comm width, ← Nat.add_assoc]
                  exact hscan begun (offset' + 2) extra hextra
            · rw [scanExponent_of_no_sign t offset he hr] at h
              obtain ⟨width, hwidth, hscan⟩ := scans_exponentDigits h
              refine ⟨width + 1, Nat.add_le_add_right hwidth 1, ?_⟩
              intro begun offset' extra hextra
              simp only [List.cons_append, scanExponent_of_no_sign _ offset' he hr]
              rw [← List.cons_append, Nat.add_comm width, ← Nat.add_assoc]
              exact hscan begun (offset' + 1) extra hextra
      · rw [scanExponent, if_neg he] at h
        obtain ⟨rfl, -⟩ := Prod.mk.inj (Except.ok.inj h)
        refine ⟨0, Nat.zero_le _, fun begun offset' extra hextra => ⟨begun, ?_⟩⟩
        rw [List.cons_append, scanExponent, if_neg he]
        rfl

theorem scans_fraction {t t' : NumberText} {offset stop : Nat} {bytes : Bytes}
    (h : scanFraction t offset bytes = .ok (t', stop)) :
    ∃ width, width ≤ bytes.length ∧ ∀ begun, Scans (scanFraction (t.moved begun)) bytes t' width := by
  cases bytes with
  | nil =>
      obtain ⟨rfl, -⟩ := Prod.mk.inj (Except.ok.inj h)
      refine ⟨0, Nat.le_refl _, fun begun offset' extra hextra => ⟨begun, ?_⟩⟩
      cases extra with
      | nil => rfl
      | cons p extra =>
          obtain ⟨-, hp, he, hE⟩ := hextra p rfl
          rw [List.nil_append, scanFraction, if_neg hp, scanExponent, if_neg (by simp [he, hE])]
          rfl
  | cons p rest =>
      by_cases hp : p = 0x2E
      · cases rest with
        | nil => simp [scanFraction, hp] at h
        | cons d rest =>
            simp only [scanFraction, hp, if_true] at h
            split at h
            · cases h
            next hdigits =>
            obtain ⟨width, hwidth, hscan⟩ := scans_exponent h
            have hle := length_takeWhile_le (d :: rest)
            refine ⟨((d :: rest).takeWhile isDigit).length + width + 1, ?_, ?_⟩
            · rw [List.length_drop] at hwidth
              rw [List.length_cons]
              omega
            · intro begun offset' extra hextra
              have hsame := takeWhile_append hextra (d :: rest)
              have hdrop := drop_takeWhile_append (d :: rest) extra
              rw [List.cons_append] at hsame hdrop
              obtain ⟨start, hstart⟩ := hscan begun
                (offset' + 1 + ((d :: rest).takeWhile isDigit).length) extra hextra
              refine ⟨start, ?_⟩
              simp only [List.cons_append, scanFraction, hp, if_true, hsame, hdigits, hdrop]
              refine hstart.trans ?_
              congr 2
              omega
      · rw [scanFraction, if_neg hp] at h
        obtain ⟨width, hwidth, hscan⟩ := scans_exponent h
        refine ⟨width, hwidth, fun begun offset' extra hextra => ?_⟩
        rw [List.cons_append, scanFraction, if_neg hp, ← List.cons_append]
        exact hscan begun offset' extra hextra

theorem scans_digits {negative : Bool} {t : NumberText} {offset stop : Nat} {bytes : Bytes}
    (h : scanDigits negative offset bytes = .ok (t, stop)) :
    ∃ width, 1 ≤ width ∧ width ≤ bytes.length ∧ Scans (scanDigits negative) bytes t width := by
  cases bytes with
  | nil => cases h
  | cons d rest =>
      rw [scanDigits] at h
      split at h
      · cases h
      next hdigit =>
      dsimp only at h
      split at h
      · cases h
      next hzero =>
      have hpos : 1 ≤ ((d :: rest).takeWhile isDigit).length := by
        rw [List.takeWhile_cons_of_pos (by simpa using hdigit)]
        simp
      obtain ⟨width, hwidth, hscan⟩ := scans_fraction h
      have hle := length_takeWhile_le (d :: rest)
      rw [List.length_drop] at hwidth
      refine ⟨((d :: rest).takeWhile isDigit).length + width, by omega, by omega, ?_⟩
      intro offset' extra hextra
      have hsame := takeWhile_append hextra (d :: rest)
      have hdrop := drop_takeWhile_append (d :: rest) extra
      rw [List.cons_append] at hsame hdrop
      obtain ⟨start, hstart⟩ := hscan 0
        (offset' + ((d :: rest).takeWhile isDigit).length) extra hextra
      refine ⟨start, ?_⟩
      rw [List.cons_append, scanDigits, if_neg hdigit]
      dsimp only
      rw [hsame, if_neg hzero, hdrop]
      refine Eq.trans hstart ?_
      rw [Nat.add_assoc]

theorem scans_number {t : NumberText} {offset stop : Nat} {bytes : Bytes}
    (h : scanNumber offset bytes = .ok (t, stop)) :
    ∃ width, 1 ≤ width ∧ width ≤ bytes.length ∧ Scans scanNumber bytes t width := by
  cases bytes with
  | nil => cases h
  | cons b rest =>
      by_cases hb : b = 0x2D
      · rw [scanNumber, if_pos hb] at h
        obtain ⟨width, -, hwidth, hscan⟩ := scans_digits h
        refine ⟨width + 1, by omega, Nat.succ_le_succ hwidth, fun offset' extra hextra => ?_⟩
        rw [List.cons_append, scanNumber, if_pos hb, Nat.add_comm width, ← Nat.add_assoc]
        exact hscan (offset' + 1) extra hextra
      · rw [scanNumber, if_neg hb] at h
        obtain ⟨width, hpos, hwidth, hscan⟩ := scans_digits h
        refine ⟨width, hpos, hwidth, fun offset' extra hextra => ?_⟩
        rw [List.cons_append, scanNumber, if_neg hb, ← List.cons_append]
        exact hscan offset' extra hextra

/-- A number does not depend on where it stands. -/
theorem NumberText.value_moved {t : NumberText} {stop : Nat} {n : Number}
    (h : t.value stop = .ok n) (start stop' : Nat) : (t.moved start).value stop' = .ok n := by
  obtain ⟨negative, integer, fraction, marked, exponentNegative, exponent, before⟩ := t
  show value ⟨negative, integer, fraction, marked, exponentNegative, exponent, start⟩ stop' = .ok n
  simp only [value] at h ⊢
  split at h
  · next hword => rw [if_pos hword]; exact h
  next hword =>
  rw [if_neg hword]
  split at h
  · next hnegative => rw [if_pos hnegative]; exact h
  next hnegative =>
  rw [if_neg hnegative]
  -- only the faults say where the number stands
  cases hover : exponentOverflow? 0 0 exponent with
  | some count =>
      rw [hover] at h
      dsimp only at h ⊢
      split at h
      · next hzero => rw [if_pos hzero]; exact h
      · cases h
  | none =>
      rw [hover] at h
      dsimp only at h ⊢
      split at h
      · exact h
      · cases h

theorem numberToken_append {offset stop : Nat} {bytes : Bytes} {n : Number}
    (h : numberToken offset bytes = (.leaf (.number (.ok n)), stop)) :
    ∃ width, 1 ≤ width ∧ width ≤ bytes.length ∧ ∀ offset' extra, Terminated extra →
      numberToken offset' (bytes ++ extra) = (.leaf (.number (.ok n)), offset' + width) := by
  unfold numberToken at h
  cases hscan : scanNumber offset bytes with
  | error b => rw [hscan] at h; cases h
  | ok p =>
      obtain ⟨t, stop⟩ := p
      rw [hscan] at h
      simp only [Prod.mk.injEq, Token.leaf.injEq, Leaf.number.injEq] at h
      obtain ⟨width, hpos, hwidth, hscans⟩ := scans_number hscan
      refine ⟨width, hpos, hwidth, fun offset' extra hextra => ?_⟩
      obtain ⟨start, hstart⟩ := hscans offset' extra hextra
      rw [numberToken, hstart]
      simp only [NumberText.value_moved h.1]

/-! ### Words and tokens -/

theorem scanWord_append {offset stop : Nat} {word bytes : Bytes}
    (h : scanWord offset word bytes = .ok stop) :
    word.length ≤ bytes.length ∧ ∀ offset' extra,
      scanWord offset' word (bytes ++ extra) = .ok (offset' + word.length) := by
  induction word generalizing offset bytes with
  | nil => exact ⟨Nat.zero_le _, fun _ _ => by rw [scanWord]; rfl⟩
  | cons e es ih =>
      cases bytes with
      | nil => cases h
      | cons b bs =>
          rw [scanWord] at h
          split at h
          · next hb =>
              obtain ⟨hle, hscan⟩ := ih h
              refine ⟨Nat.succ_le_succ hle, fun offset' extra => ?_⟩
              rw [List.cons_append, scanWord, if_pos hb, hscan, List.length_cons,
                Nat.add_right_comm, Nat.add_assoc]
          · cases h

theorem wordToken_append {content : Leaf} {word : String} {offset stop : Nat} {bytes : Bytes}
    {t : Token} (ht : ∀ b, t ≠ .brokenScalar b)
    (h : wordToken content word offset bytes = (t, stop)) :
    ∃ width, width ≤ bytes.length ∧ ∀ offset' extra,
      wordToken content word offset' (bytes ++ extra) = (t, offset' + width) := by
  unfold wordToken at h
  split at h
  · next hscan =>
      obtain ⟨rfl, -⟩ := Prod.mk.inj h
      obtain ⟨hle, happend⟩ := scanWord_append hscan
      exact ⟨_, hle, fun offset' extra => by rw [wordToken, happend]⟩
  · exact absurd (Prod.mk.inj h).1.symm (ht _)

/-- The token is complete, and a reader finds no fault with it. -/
def Token.Sound : Token → Prop
  | .leaf content => ∃ v, content.read = .ok v
  | .listOpen | .listClose | .objectOpen | .objectClose | .comma | .colon => True
  | .brokenString _ | .brokenScalar _ | .stray => False

theorem stringToken_append {offset stop : Nat} {bytes : Bytes} {t : Token} (ht : t.Sound)
    (h : stringToken offset bytes = (t, stop)) :
    ∃ width, width ≤ bytes.length ∧ ∀ offset' extra,
      stringToken offset' (bytes ++ extra) = (t, offset' + width) := by
  unfold stringToken at h
  split at h
  · next hread =>
      obtain ⟨rfl, -⟩ := Prod.mk.inj h
      obtain ⟨width, hwidth, happend⟩ := readString_append bytes [] 0 offset hread
      exact ⟨width, hwidth, fun offset' extra => by rw [stringToken, happend]⟩
  · split at h
    · obtain ⟨rfl, -⟩ := Prod.mk.inj h
      obtain ⟨v, hv⟩ := ht
      cases hv
    · obtain ⟨rfl, -⟩ := Prod.mk.inj h
      cases ht

/-- The first byte of a token says what kind of token it is. -/
theorem tokenAt_cases (b : UInt8) :
    (∃ u, ∀ offset rest, tokenAt offset b rest = (u, offset + 1)) ∨
      (∀ offset rest, tokenAt offset b rest = stringToken (offset + 1) rest) ∨
      (∃ content word, ∀ offset rest,
        tokenAt offset b rest = wordToken content word (offset + 1) rest) ∨
      ∀ offset rest, tokenAt offset b rest = numberToken offset (b :: rest) := by
  by_cases hnumber : b = 0x2D ∨ isDigit b = true
  · exact .inr (.inr (.inr (tokenAt_number hnumber)))
  by_cases hother : b ∈ [0x5B, 0x5D, 0x7B, 0x7D, 0x2C, 0x3A, 0x22, 0x6E, 0x74, 0x66]
  · simp only [List.mem_cons, List.not_mem_nil, or_false] at hother
    rcases hother with rfl | rfl | rfl | rfl | rfl | rfl | rfl | rfl | rfl | rfl
    · exact .inl ⟨_, fun _ _ => rfl⟩
    · exact .inl ⟨_, fun _ _ => rfl⟩
    · exact .inl ⟨_, fun _ _ => rfl⟩
    · exact .inl ⟨_, fun _ _ => rfl⟩
    · exact .inl ⟨_, fun _ _ => rfl⟩
    · exact .inl ⟨_, fun _ _ => rfl⟩
    · exact .inr (.inl fun _ _ => rfl)
    · exact .inr (.inr (.inl ⟨_, _, fun _ _ => rfl⟩))
    · exact .inr (.inr (.inl ⟨_, _, fun _ _ => rfl⟩))
    · exact .inr (.inr (.inl ⟨_, _, fun _ _ => rfl⟩))
  · refine .inl ⟨.stray, fun offset rest => ?_⟩
    simp only [List.mem_cons, List.not_mem_nil, or_false, not_or] at hother hnumber
    simp [tokenAt, hother, hnumber]

/-- **A token is a matter of its own bytes.** A sound token is the same at every offset
and in front of every text that cannot extend a number. -/
theorem tokenAt_append {offset stop : Nat} {b : UInt8} {rest : Bytes} {t : Token} (ht : t.Sound)
    (h : tokenAt offset b rest = (t, stop)) :
    ∃ width, width ≤ rest.length ∧ ∀ offset' extra, Terminated extra →
      tokenAt offset' b (rest ++ extra) = (t, offset' + 1 + width) := by
  rcases tokenAt_cases b with ⟨u, hb⟩ | hb | ⟨content, word, hb⟩ | hb
  · rw [hb] at h
    obtain ⟨rfl, -⟩ := Prod.mk.inj h
    exact ⟨0, Nat.zero_le _, fun offset' extra _ => hb offset' (rest ++ extra)⟩
  · rw [hb] at h
    obtain ⟨width, hwidth, happend⟩ := stringToken_append ht h
    refine ⟨width, hwidth, fun offset' extra _ => ?_⟩
    rw [hb, happend]
  · rw [hb] at h
    have hbroken : ∀ b, t ≠ .brokenScalar b := by
      rintro b rfl
      cases ht
    obtain ⟨width, hwidth, happend⟩ := wordToken_append hbroken h
    refine ⟨width, hwidth, fun offset' extra _ => ?_⟩
    rw [hb, happend]
  · rw [hb] at h
    obtain ⟨n, rfl⟩ : ∃ n, t = .leaf (.number (.ok n)) := by
      unfold numberToken at h
      split at h
      · next t' _ _ =>
          obtain ⟨rfl, -⟩ := Prod.mk.inj h
          obtain ⟨v, hv⟩ := ht
          obtain ⟨n, hn, -⟩ := map_eq_ok_iff.mp hv
          exact ⟨n, by rw [hn]⟩
      · obtain ⟨rfl, -⟩ := Prod.mk.inj h
        cases ht
    obtain ⟨width, hpos, hwidth, happend⟩ := numberToken_append h
    refine ⟨width - 1, ?_, fun offset' extra hextra => ?_⟩
    · rw [List.length_cons] at hwidth
      omega
    · rw [hb, ← List.cons_append, happend offset' extra hextra]
      congr 1
      omega

end SbomGate.Json
