import SbomGate.Proofs.Admission
import SbomGate.Proofs.PlainReading
import SbomGate.Proofs.Reading
/-!
# SbomGate.Proofs.Signing

**Tokens that are made here can be taken apart.**

Base64 loses nothing (`Base64Url.decode_encode`) and uses no dots, so a token
has the three parts that it was put together from (`signedParts_spells`), its
payload is the text of the claims, and the key that is published for a modulus
is the key of that modulus.
-/

namespace SbomGate

/-! ### Base64 -/

namespace Base64Url

theorem value?_symbolOf {v : Nat} (h : v < 64) : value? (symbolOf v) = some v := by
  have hall : ∀ v : Fin 64, value? (symbolOf v) = some v.val := by decide
  exact hall ⟨v, h⟩

theorem valueAt_symbolOf {v : Nat} (h : v < 64) (offset : Nat) :
    valueAt offset (symbolOf v) = .ok v := by
  rw [valueAt, value?_symbolOf h]

theorem symbolOf_ne_pad {v : Nat} (h : v < 64) : symbolOf v ≠ pad := by
  intro hpad
  have hnone : value? pad = none := by decide
  rw [← hpad, value?_symbolOf h] at hnone
  cases hnone

/-- Symbols have their values, and no padding is seen among them. -/
theorem lastValues_map_symbolOf (values : List Nat) (h : ∀ v ∈ values, v < 64)
    (offset index : Nat) (taken : List Nat) :
    lastValues offset index none taken (values.map symbolOf) =
      .ok (taken.reverse ++ values, false) := by
  induction values generalizing index taken with
  | nil => simp [lastValues]
  | cons v values ih =>
      obtain ⟨hv, hvalues⟩ := List.forall_mem_cons.mp h
      rw [List.map_cons, lastValues, if_neg (symbolOf_ne_pad hv), valueAt_symbolOf hv, ok_bind,
        ih hvalues]
      simp

section

variable {a b c d : Nat} (ha : a < 64) (hb : b < 64) (hc : c < 64) (hd : d < 64) (offset : Nat)
include ha hb

theorem decodeLast_two (hzero : b % 16 = 0) :
    decodeLast offset [symbolOf a, symbolOf b] = .ok [UInt8.ofNat (a * 4 + b / 16)] := by
  have hvalues : lastValues offset 0 none [] [symbolOf a, symbolOf b] = .ok ([a, b], false) :=
    lastValues_map_symbolOf [a, b] (by simp [ha, hb]) offset 0 []
  rw [decodeLast, hvalues]
  simp [hzero, pure, Except.pure]

include hc

theorem decodeLast_three (hzero : c % 4 = 0) :
    decodeLast offset [symbolOf a, symbolOf b, symbolOf c] =
      .ok [UInt8.ofNat (a * 4 + b / 16), UInt8.ofNat (b % 16 * 16 + c / 4)] := by
  have hvalues : lastValues offset 0 none [] [symbolOf a, symbolOf b, symbolOf c] =
      .ok ([a, b, c], false) :=
    lastValues_map_symbolOf [a, b, c] (by simp [ha, hb, hc]) offset 0 []
  rw [decodeLast, hvalues]
  simp [hzero, pure, Except.pure]

include hd

theorem decodeLast_four :
    decodeLast offset [symbolOf a, symbolOf b, symbolOf c, symbolOf d] =
      .ok (threeBytes a b c d) := by
  have hvalues : lastValues offset 0 none [] [symbolOf a, symbolOf b, symbolOf c, symbolOf d] =
      .ok ([a, b, c, d], false) :=
    lastValues_map_symbolOf [a, b, c, d] (by simp [ha, hb, hc, hd]) offset 0 []
  rw [decodeLast, hvalues]
  simp [pure, Except.pure]

/-- Four symbols in front of others are three bytes in front of theirs. -/
theorem decodeFrom_four {rest more : Bytes} (hrest : rest ≠ [])
    (hmore : decodeFrom (offset + 4) rest = .ok more) :
    decodeFrom offset (symbolOf a :: symbolOf b :: symbolOf c :: symbolOf d :: rest) =
      .ok (threeBytes a b c d ++ more) := by
  obtain ⟨e, rest, rfl⟩ := List.exists_cons_of_ne_nil hrest
  rw [decodeFrom, valueAt_symbolOf ha, ok_bind, valueAt_symbolOf hb, ok_bind, valueAt_symbolOf hc,
    ok_bind, valueAt_symbolOf hd, ok_bind, hmore]
  rfl

end

theorem ofNat_eq {n : Nat} {b : UInt8} (h : n = b.toNat) : UInt8.ofNat n = b := by
  rw [h, UInt8.ofNat_toNat]

theorem threeBytes_spelled (a b c : UInt8) :
    threeBytes (a.toNat / 4) (a.toNat % 4 * 16 + b.toNat / 16) (b.toNat % 16 * 4 + c.toNat / 64)
      (c.toNat % 64) = [a, b, c] := by
  have ha := a.toNat_lt
  have hb := b.toNat_lt
  have hc := c.toNat_lt
  rw [threeBytes, ofNat_eq (b := a) (by omega), ofNat_eq (b := b) (by omega),
    ofNat_eq (b := c) (by omega)]

theorem encode_eq_nil_iff {bytes : Bytes} : encode bytes = [] ↔ bytes = [] := by
  cases bytes using encode.fun_cases <;> simp [encode]

theorem decodeFrom_encode (bytes : Bytes) (offset : Nat) :
    decodeFrom offset (encode bytes) = .ok bytes := by
  induction bytes using encode.induct generalizing offset with
  | case1 => rfl
  | case2 a =>
      have ha := a.toNat_lt
      rw [encode, decodeFrom, decodeLast_two (by omega) (by omega) _ (by omega)]
      · rw [ofNat_eq (b := a) (by omega)]
      · simp
  | case3 a b =>
      have ha := a.toNat_lt
      have hb := b.toNat_lt
      rw [encode, decodeFrom, decodeLast_three (by omega) (by omega) (by omega) _ (by omega)]
      · rw [ofNat_eq (b := a) (by omega), ofNat_eq (b := b) (by omega)]
      · simp
  | case4 a b c rest ih =>
      have ha := a.toNat_lt
      have hb := b.toNat_lt
      have hc := c.toNat_lt
      rw [encode]
      -- the last four symbols are decoded apart from those in front of them
      by_cases hrest : rest = []
      · subst hrest
        rw [encode, decodeFrom, decodeLast_four (by omega) (by omega) (by omega) (by omega),
          threeBytes_spelled]
        simp
      · rw [decodeFrom_four (by omega) (by omega) (by omega) (by omega) _
          (mt encode_eq_nil_iff.mp hrest) (ih _), threeBytes_spelled]
        rfl

theorem encode_symbols (bytes : Bytes) : ∀ b ∈ encode bytes, (value? b).isSome :=
  decodeFrom_symbols (decodeFrom_encode bytes 0)

/-- Every byte string is read back from its spelling. -/
theorem decode_encode (bytes : Bytes) : decode (encode bytes) = .ok bytes := by
  unfold decode
  split
  · next b hlast =>
      have hsymbol := encode_symbols bytes b (List.mem_of_getLast? hlast)
      rw [if_neg, decodeFrom_encode]
      rintro ⟨-, -, hnone⟩
      rw [Option.isNone_iff_eq_none.mp hnone] at hsymbol
      cases hsymbol
  · next hnone =>
      rw [List.getLast?_eq_none_iff, encode_eq_nil_iff] at hnone
      rw [hnone]

/-- What holds of the symbols one by one holds of every byte that is one. -/
theorem forall_symbol {P : UInt8 → Prop}
    (h : ∀ n : Fin 256, (value? (UInt8.ofNat n)).isSome → P (UInt8.ofNat n)) {b : UInt8}
    (hb : (value? b).isSome) : P b := by
  have hn := h ⟨b.toNat, b.toNat_lt⟩
  rw [UInt8.ofNat_toNat] at hn
  exact hn hb

theorem ascii_of_symbol {b : UInt8} (h : (value? b).isSome) : b < 0x80 :=
  forall_symbol (P := (· < 0x80)) (by decide +kernel) h

theorem encode_ascii (bytes : Bytes) : ∀ b ∈ encode bytes, b < 0x80 :=
  fun b hb => ascii_of_symbol (encode_symbols bytes b hb)

theorem bytesOf_encodeText (bytes : Bytes) : bytesOf (encodeText bytes) = encode bytes := by
  rw [bytesOf, encodeText, String.toList_ofList, Text.Utf8.encode_map_ofNat (encode_ascii bytes)]

theorem decodeText_encodeText (bytes : Bytes) : decodeText (encodeText bytes) = .ok bytes := by
  rw [decodeText, bytesOf_encodeText, decode_encode]

end Base64Url

namespace Token

open Json

/-! ### The parts of a token -/

theorem decodePart_encode (bytes : Bytes) : decodePart (Base64Url.encode bytes) = .ok bytes := by
  rw [decodePart, Base64Url.decode_encode]
  rfl

theorem dot_not_mem_encode (bytes : Bytes) : dot ∉ Base64Url.encode bytes :=
  dot_not_mem_of_decodePart (decodePart_encode bytes)

theorem bytesOf_asciiText {bytes : Bytes} (h : ∀ b ∈ bytes, b < 0x80) :
    bytesOf (asciiText bytes) = bytes := by
  rw [bytesOf, asciiText, String.toList_ofList, Text.Utf8.encode_map_ofNat h]

/-- The parts that a signed token is put together from. -/
def signedParts (key : Rsa.PrivateKey) (kid : Option String) (claims : Value) : Parts :=
  { header := Base64Url.encode (bytesOf (Header.signing kid).toValue.text)
    payload := Base64Url.encode (bytesOf claims.text)
    signature := Base64Url.encode (Rsa.sign key (joinParts (Header.signing kid).toValue claims)) }

section

variable (key : Rsa.PrivateKey) (kid : Option String) (claims : Value)

theorem signedParts_spells :
    (signedParts key kid claims).Spells (bytesOf (sign key kid claims)) where
  spelled := by
    have hascii : ∀ b ∈ joinParts (Header.signing kid).toValue claims ++
        dot :: Base64Url.encode (Rsa.sign key (joinParts (Header.signing kid).toValue claims)),
        b < 0x80 := by
      simp only [joinParts, List.mem_append, List.mem_cons]
      rintro b ((hb | rfl | hb) | rfl | hb)
      · exact Base64Url.encode_ascii _ b hb
      · decide
      · exact Base64Url.encode_ascii _ b hb
      · decide
      · exact Base64Url.encode_ascii _ b hb
    rw [sign, bytesOf_asciiText hascii]
    simp [signedParts, joinParts]
  header_free := by simp only [signedParts, dot_not_mem_encode, not_false_eq_true]
  payload_free := by simp only [signedParts, dot_not_mem_encode, not_false_eq_true]
  signature_free := by simp only [signedParts, dot_not_mem_encode, not_false_eq_true]

theorem signedParts_message :
    (signedParts key kid claims).message = joinParts (Header.signing kid).toValue claims := by
  simp only [Parts.message, signedParts, joinParts]

theorem decodePart_payload :
    decodePart (signedParts key kid claims).payload = .ok (bytesOf claims.text) := by
  simp only [signedParts, decodePart_encode]

theorem decodePart_signature :
    decodePart (signedParts key kid claims).signature =
      .ok (Rsa.sign key (signedParts key kid claims).message) := by
  rw [signedParts_message]
  simp only [signedParts, decodePart_encode]

end

/-- The key of published components is the key that they were published for. -/
theorem rsaKey_encodeText (modulus exponent : Bytes) :
    rsaKey (Base64Url.encodeText modulus) (Base64Url.encodeText exponent) =
      .ok ⟨modulus, exponent⟩ := by
  simp only [rsaKey, Base64Url.decodeText_encodeText]
  rfl

/-- The text of an object spells it, its values in canonical form. -/
theorem spellsObject_text_of_inRange {ms : Members} (h : (Value.object ms).InRange)
    (hdepth : (Value.object ms).depth ≤ 127) :
    SpellsObject (bytesOf (Value.object ms).text) (Value.canonicalMembers ms) := by
  obtain ⟨root, hdocument, hroot⟩ := document_text h
  refine ⟨ms, ?_, rfl⟩
  rw [hdocument, hroot.shallow depthLimit (Nat.lt_succ_of_le hdepth)]
  rfl

/-- The payload of a signed token spells the claims. -/
theorem spellsObject_text {ms : Members} (h : (Value.object ms).Canonical)
    (hdepth : (Value.object ms).depth ≤ 127) :
    SpellsObject (bytesOf (Value.object ms).text) ms := by
  have hspells := spellsObject_text_of_inRange h.inRange hdepth
  rw [Value.Canonical] at h
  rwa [h.2.eq] at hspells

/-! ### The header of a signed token -/

/-- The members of the header of a signed token. -/
def signingMembers (kid : Option String) : Members :=
  textMember "typ" "JWT" ++ textMember "alg" "RS256" ++ textMember? "kid" kid

theorem toValue_signing (kid : Option String) :
    (Header.signing kid).toValue = .object (signingMembers kid) := by
  cases kid <;> rfl

theorem text_of_mem_signingMembers {kid : Option String} {m : String × Value}
    (h : m ∈ signingMembers kid) : ∃ t, m.2 = .string t := by
  cases kid <;> simp [signingMembers, textMember, textMember?] at h
  · rcases h with rfl | rfl <;> simp
  · rcases h with rfl | rfl | rfl <;> simp

theorem project_signing (kid : Option String) :
    Header.schema.project (.object (signingMembers kid)) = .ok (.object (signingMembers kid)) := by
  have halgorithm : ∃ a ∈ Algorithm.all, a.name = "RS256" := ⟨.rs256, by decide, rfl⟩
  cases kid <;>
    simp [Header.schema, Header.optionalField, signingMembers, textMember, textMember?,
      Schema.project, Schema.core, Schema.projectScalar, projectMembers, projectField, assemble,
      halgorithm, Except.bind, Except.map]

theorem spellsObject_signing (kid : Option String) :
    SpellsObject (bytesOf (Header.signing kid).toValue.text) (signingMembers kid) := by
  rw [toValue_signing]
  have hinRange : (Value.object (signingMembers kid)).InRange := by
    cases kid <;>
      simp [signingMembers, textMember, textMember?, Value.InRange, Value.InRangeMembers]
  have hdepth : (Value.object (signingMembers kid)).depth ≤ 127 := by
    cases kid <;>
      simp [signingMembers, textMember, textMember?, Value.depth, Value.depthMembers]
  have hcanonical : Value.canonicalMembers (signingMembers kid) = signingMembers kid := by
    cases kid <;> rfl
  have hspells := spellsObject_text_of_inRange hinRange hdepth
  rwa [hcanonical] at hspells

/-- The header of a signed token is read back, whatever the name of its key. -/
theorem ofPart_signing (kid : Option String) :
    Header.ofPart (Base64Url.encode (bytesOf (Header.signing kid).toValue.text)) =
      .ok (Header.signing kid) := by
  -- only strings are read, so it does not matter that a header has other fields as well
  obtain ⟨o, ho⟩ : ∃ o, Header.schema.readBytes (bytesOf (Header.signing kid).toValue.text) =
      (Header.schema.project (.object (signingMembers kid))).mapError fun m =>
        (m.at o).locate (bytesOf (Header.signing kid).toValue.text) :=
    readBytes_of_spellsObject (fun _ _ m hm _ => .inr (text_of_mem_signingMembers hm))
      (spellsObject_signing kid)
  rw [Header.ofPart, decodePart_encode, ok_bind, ho, project_signing]
  cases kid <;> rfl

/-- A signed token has three parts, and the header that it was given. -/
theorem headed_sign (key : Rsa.PrivateKey) (kid : Option String) (claims : Value) :
    Auth.Headed (bytesOf (sign key kid claims)) (signedParts key kid claims)
      (Header.signing kid) where
  parts := signedParts_spells key kid claims
  header := by simp only [signedParts, ofPart_signing]

/-- A token is signed once its signature is seen to fit. -/
theorem signed_sign {key : Rsa.PrivateKey} {other : Rsa.PublicKey} {kid : Option String}
    {claims : Value}
    (h : Rsa.verify other (joinParts (Header.signing kid).toValue claims)
      (Rsa.sign key (joinParts (Header.signing kid).toValue claims)) = true) :
    Auth.Signed (signedParts key kid claims) (Header.signing kid) other where
  algorithm := rfl
  signature := by
    refine ⟨_, decodePart_signature _ _ _, ?_⟩
    rw [signedParts_message]
    exact h

/-- What is signed, without a detour through texts. -/
theorem joinParts_eq (header payload : Value) :
    joinParts header payload = Base64Url.encode (Text.Utf8.encode header.render) ++
      dot :: Base64Url.encode (Text.Utf8.encode payload.render) := by
  simp only [joinParts, bytesOf, Value.text, String.toList_ofList]

/-! ### A key pair for trials

The modulus is prime, which makes it short to write down and the exponents easy
to tell: three, and its inverse modulo one less than the modulus. -/

/-- A prime of 2048 bits for which three is a public exponent. -/
def sampleModulus : Nat := 2 ^ 2048 - 1942289

/-- The private key: the inverse of three modulo one less than the prime. -/
def sampleKey : Rsa.PrivateKey :=
  ⟨Rsa.bytesOf sampleModulus 256, Rsa.bytesOf ((2 * sampleModulus - 1) / 3) 256⟩

/-- The public key, with the exponent three. -/
def samplePublicKey : Rsa.PublicKey := ⟨sampleKey.modulus, [3]⟩

/-- The public key as it is published, under the name `k`. -/
def sampleJwk : Jwk :=
  { use := none, operations := none, algorithm := none, kid := some "k", x5u := none, x5c := none,
    x5t := none, x5tS256 := none,
    material := .rsa (Base64Url.encodeText samplePublicKey.modulus)
      (Base64Url.encodeText samplePublicKey.exponent) }

/-- The header of a token signed with the key for trials. -/
def sampleHeader : Header := .signing (some "k")

/-- A payload signed with the key for trials. -/
def sampleToken (ms : Members) : String := sign sampleKey (some "k") (.object ms)

/-- The parts of the token that a payload is signed to. -/
def sampleParts (ms : Members) : Parts := signedParts sampleKey (some "k") (.object ms)

theorem signatureKey_sampleJwk : Keys.signatureKey sampleJwk = .ok (.rsa samplePublicKey) := by
  simp only [Keys.signatureKey, Keys.signatureKey.signatureKeyOf, sampleJwk, rsaKey_encodeText]
  rfl

theorem selects_sampleJwk (url : String) (keys : List Jwk) :
    Auth.Selects ⟨url, sampleJwk :: keys⟩ sampleHeader samplePublicKey := by
  refine ⟨"k", sampleJwk, rfl, Auth.checkKid_eq_ok_iff.mp (by decide), ?_, signatureKey_sampleJwk⟩
  exact List.find?_cons_of_pos (by simp [sampleJwk])

theorem headed_sampleToken (ms : Members) :
    Auth.Headed (bytesOf (sampleToken ms)) (sampleParts ms) sampleHeader :=
  headed_sign _ _ _

theorem signed_sampleToken {ms : Members}
    (h : Rsa.verify samplePublicKey (joinParts sampleHeader.toValue (.object ms))
      (Rsa.sign sampleKey (joinParts sampleHeader.toValue (.object ms))) = true) :
    Auth.Signed (sampleParts ms) sampleHeader samplePublicKey :=
  signed_sign h

/-! ### Claims for trials -/

/-- Claims of `i` for `a` that expire at the time ten. -/
def sampleMembers : Members :=
  [("actor", .string "b"), ("aud", .string "a"), ("exp", .number (.whole 10)),
    ("iss", .string "i"), ("repository", .string "r")]

/-- Who requires such claims. -/
def sampleVerifier : Config.Verifier := ⟨"i", "u", "a"⟩

theorem signed_sampleMembers :
    Auth.Signed (sampleParts sampleMembers) sampleHeader samplePublicKey := by
  refine signed_sampleToken ?_
  rw [joinParts_eq]
  decide +kernel

theorem claimed_sampleMembers :
    Auth.Claimed (sampleParts sampleMembers) (Claims.ofMembers sampleMembers) := by
  refine ⟨_, decodePart_payload _ _ _, ?_⟩
  decide +kernel

end Token

end SbomGate
