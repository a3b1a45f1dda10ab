import Mathlib.Data.List.TakeWhile
import SbomGate.Proofs.Outcome
import SbomGate.Token.Compact
/-!
# SbomGate.Proofs.Compact

The **compact form of a token**: which texts have a header, and what the
parts are.

Reading cuts at the last two dots and says nothing of the dots in front of
them. `Parts.Spells` is the plain form, three parts without dots; the two
agree on every token whose header can be decoded, because a dot is no symbol
of Base64.
-/

namespace SbomGate

/-! ### Symbols of Base64 -/

namespace Base64Url

theorem valueAt_eq_ok {offset v : Nat} {b : UInt8} (h : valueAt offset b = .ok v) :
    (value? b).isSome := by
  unfold valueAt at h
  cases hb : value? b with
  | none => simp [hb] at h
  | some v => rfl

/-- Padding that was seen is reported. -/
theorem lastValues_padded {offset o : Nat} : ∀ {index : Nat} {taken values : List Nat} (last : Bytes),
    lastValues offset index (some o) taken last ≠ .ok (values, false)
  | _, _, _, [] => by simp [lastValues]
  | index, taken, values, b :: rest => by
      rw [lastValues]
      split
      · split
        · simp
        · exact lastValues_padded rest
      · simp

/-- The last symbols are symbols unless there is padding among them. -/
theorem lastValues_symbols {offset : Nat} : ∀ {index : Nat} {taken values : List Nat} {last : Bytes},
    lastValues offset index none taken last = .ok (values, false) →
      ∀ b ∈ last, (value? b).isSome
  | _, _, _, [], _ => by simp
  | index, taken, values, b :: rest, h => by
      rw [lastValues] at h
      split at h
      · split at h
        · cases h
        · exact absurd h (lastValues_padded rest)
      · obtain ⟨v, hv, hrest⟩ := bind_eq_ok_iff.mp h
        intro c hc
        rcases List.mem_cons.mp hc with rfl | hc
        · exact valueAt_eq_ok hv
        · exact lastValues_symbols hrest c hc

theorem decodeLast_symbols {offset : Nat} {last bytes : Bytes}
    (h : decodeLast offset last = .ok bytes) : ∀ b ∈ last, (value? b).isSome := by
  obtain ⟨⟨values, padded⟩, hv, hrest⟩ := bind_eq_ok_iff.mp h
  cases padded with
  | false => exact lastValues_symbols hv
  | true =>
      -- padding is refused, however many symbols stand before it
      exfalso
      simp only [if_true] at hrest
      split at hrest <;> cases hrest

theorem decodeFrom_symbols : ∀ {offset : Nat} {text bytes : Bytes},
    decodeFrom offset text = .ok bytes → ∀ b ∈ text, (value? b).isSome := by
  intro offset text
  fun_induction decodeFrom offset text with
  | case1 offset a b c d e rest ih =>
      intro bytes h
      obtain ⟨va, ha, h⟩ := bind_eq_ok_iff.mp h
      obtain ⟨vb, hb, h⟩ := bind_eq_ok_iff.mp h
      obtain ⟨vc, hc, h⟩ := bind_eq_ok_iff.mp h
      obtain ⟨vd, hd, h⟩ := bind_eq_ok_iff.mp h
      obtain ⟨more, hmore, -⟩ := bind_eq_ok_iff.mp h
      intro x hx
      simp only [List.mem_cons] at hx
      rcases hx with rfl | rfl | rfl | rfl | hx
      · exact valueAt_eq_ok ha
      · exact valueAt_eq_ok hb
      · exact valueAt_eq_ok hc
      · exact valueAt_eq_ok hd
      · exact ih hmore x (List.mem_cons.mpr hx)
  | case2 offset last _ =>
      intro bytes h
      exact decodeLast_symbols h

/-- Every byte of a decodable text is a symbol. -/
theorem decode_symbols {text bytes : Bytes} (h : decode text = .ok bytes) :
    ∀ b ∈ text, (value? b).isSome := by
  unfold decode at h
  split at h
  · split at h
    · cases h
    · exact decodeFrom_symbols h
  · next hnone =>
      rw [List.getLast?_eq_none_iff.mp hnone]
      simp

end Base64Url

namespace Token

/-! ### Cutting at a dot -/

/-- A text is cut in front of what has no more dots. -/
theorem splitLast?_append {front behind : Bytes} (hfree : dot ∉ behind) :
    splitLast? (front ++ dot :: behind) = some (front, behind) := by
  have htake : (front ++ dot :: behind).reverse.takeWhile (· ≠ dot) = behind.reverse := by
    rw [List.reverse_append, List.reverse_cons, List.append_assoc, List.takeWhile_append_of_pos]
    · simp
    · intro b hb
      have : b ≠ dot := fun e => hfree (by simpa [e] using hb)
      simpa using this
  have hlen : (front ++ dot :: behind).length - behind.length - 1 = front.length := by
    simp only [List.length_append, List.length_cons]
    omega
  simp only [splitLast?, htake, List.reverse_reverse, hlen]
  rw [if_neg (by simp only [List.length_append, List.length_cons]; omega)]
  simp

theorem splitLast?_of_not_mem {bytes : Bytes} (hfree : dot ∉ bytes) : splitLast? bytes = none := by
  have htake : bytes.reverse.takeWhile (· ≠ dot) = bytes.reverse := by
    refine List.takeWhile_eq_self_iff.mpr ?_
    intro b hb
    have : b ≠ dot := fun e => hfree (by simpa [e] using hb)
    simpa using this
  simp only [splitLast?, htake, List.reverse_reverse, if_true]

theorem splitLast?_eq_some_iff {bytes front behind : Bytes} :
    splitLast? bytes = some (front, behind) ↔ bytes = front ++ dot :: behind ∧ dot ∉ behind := by
  constructor
  · intro h
    by_cases hmem : dot ∈ bytes
    · -- the first dot from behind is the last one
      obtain ⟨before, after, hsplit, hfree⟩ :=
        List.eq_append_cons_of_mem (List.mem_reverse.mpr hmem)
      have hbytes : bytes = after.reverse ++ dot :: before.reverse := by
        rw [← List.reverse_inj, hsplit]
        simp
      have hfree : dot ∉ before.reverse := by simpa using hfree
      rw [hbytes, splitLast?_append hfree] at h
      obtain ⟨rfl, rfl⟩ := Prod.mk.inj (Option.some.inj h)
      exact ⟨hbytes, hfree⟩
    · simp [splitLast?_of_not_mem hmem] at h
  · rintro ⟨rfl, hfree⟩
    exact splitLast?_append hfree

/-- The parts of a token, none of them with a dot. -/
structure Parts.Spells (p : Parts) (token : Bytes) : Prop where
  spelled : token = p.header ++ dot :: (p.payload ++ dot :: p.signature)
  header_free : dot ∉ p.header
  payload_free : dot ∉ p.payload
  signature_free : dot ∉ p.signature

/-- Reading cuts at the last two dots. -/
theorem Parts.ofToken?_eq_some_iff {token : Bytes} {p : Parts} :
    Parts.ofToken? token = some p ↔
      token = p.header ++ dot :: (p.payload ++ dot :: p.signature) ∧
        dot ∉ p.payload ∧ dot ∉ p.signature := by
  constructor
  · intro h
    obtain ⟨⟨message, signature⟩, hm, h⟩ := Option.bind_eq_some_iff.mp h
    obtain ⟨⟨header, payload⟩, hp, h⟩ := Option.bind_eq_some_iff.mp h
    obtain rfl := Option.some.inj h
    obtain ⟨rfl, hsig⟩ := splitLast?_eq_some_iff.mp hm
    obtain ⟨rfl, hpay⟩ := splitLast?_eq_some_iff.mp hp
    exact ⟨by simp, hpay, hsig⟩
  · rintro ⟨rfl, hp, hs⟩
    have hm : splitLast? (p.header ++ dot :: (p.payload ++ dot :: p.signature)) =
        some (p.header ++ dot :: p.payload, p.signature) :=
      splitLast?_eq_some_iff.mpr ⟨by simp, hs⟩
    have hh : splitLast? (p.header ++ dot :: p.payload) = some (p.header, p.payload) :=
      splitLast?_eq_some_iff.mpr ⟨rfl, hp⟩
    simp [Parts.ofToken?, hm, hh]

theorem Parts.Spells.ofToken? {p : Parts} {token : Bytes} (h : p.Spells token) :
    Parts.ofToken? token = some p :=
  Parts.ofToken?_eq_some_iff.mpr ⟨h.spelled, h.payload_free, h.signature_free⟩

/-! ### Headers -/

/-- A part that can be decoded has no dot. -/
theorem dot_not_mem_of_decodePart {part bytes : Bytes} (h : decodePart part = .ok bytes) :
    dot ∉ part := by
  intro hmem
  have := Base64Url.decode_symbols (mapError_eq_ok_iff.mp h) dot hmem
  exact absurd this (by decide)

theorem dot_not_mem_of_header {part : Bytes} {h : Header} (hh : Header.ofPart part = .ok h) :
    dot ∉ part := by
  obtain ⟨text, htext, -⟩ := bind_eq_ok_iff.mp hh
  exact dot_not_mem_of_decodePart htext

/-- A token has a header when it has three parts, the first of which spells
one. -/
theorem headerOf_eq_ok_iff {token : Bytes} {h : Header} :
    headerOf token = .ok h ↔ ∃ p : Parts, p.Spells token ∧ Header.ofPart p.header = .ok h := by
  unfold headerOf
  constructor
  · intro hh
    cases hp : Parts.ofToken? token with
    | none => simp [hp] at hh
    | some p =>
        simp only [hp] at hh
        obtain ⟨htoken, hpay, hsig⟩ := Parts.ofToken?_eq_some_iff.mp hp
        exact ⟨p, ⟨htoken, dot_not_mem_of_header hh, hpay, hsig⟩, hh⟩
  · rintro ⟨p, hp, hh⟩
    simp [hp.ofToken?, hh]

end Token

end SbomGate
