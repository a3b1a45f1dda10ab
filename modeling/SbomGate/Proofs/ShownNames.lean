import SbomGate.Proofs.Discretion
import SbomGate.Proofs.Failures
import SbomGate.Proofs.OptionalClaims
/-!
# SbomGate.Proofs.ShownNames

**The names of keys that errors show.**

Whoever makes a token chooses the name of its key, and two faults repeat that
name where people read it. A name gets there on two ways only. One that is
refused before the lookup is cut and loses its controls (`shown_of_checkKid`);
one that is looked up has passed the check and is repeated as it is
(`shown_of_verificationKey`). Nothing else that is done with a token names a
key, so what is shown is always short and free of controls.
-/

namespace SbomGate

/-- The name of a key that a fault shows. -/
def Keys.Fault.shown? : Keys.Fault → Option String
  | .keyNotFound kid | .unusableKey kid _ => some kid
  | _ => none

/-- A character takes at most four bytes. -/
theorem Text.Utf8.length_encode_le (cs : List Char) : (encode cs).length ≤ 4 * cs.length := by
  induction cs with
  | nil => exact Nat.le_refl 0
  | cons c cs ih =>
      have hc : (String.utf8EncodeChar c).length ≤ 4 := by
        rw [String.length_utf8EncodeChar]
        exact Char.utf8Size_le_four c
      rw [encode_cons, List.length_append, List.length_cons]
      omega

namespace Auth

open Token Keys

/-! ### Names that can be shown -/

/-- A name that can stand in a line of a log. -/
structure Presentable (name : String) : Prop where
  /-- It is not too long. -/
  short : (bytesOf name).length ≤ 256
  /-- It has no controls. -/
  clean : ∀ c ∈ name.toList, isControl c = false

theorem kidAcceptable_iff {kid : String} : KidAcceptable kid ↔ kid ≠ "" ∧ Presentable kid :=
  ⟨fun h => ⟨h.nonempty, h.short, h.clean⟩, fun ⟨hne, h⟩ => ⟨hne, h.short, h.clean⟩⟩

theorem toList_shownKid (kid : String) :
    (shownKid kid).toList = (kid.toList.take 32).filter fun c => !isControl c := by
  rw [shownKid, String.toList_ofList]

/-- Thirty-two characters are short enough, however many bytes they take. -/
theorem presentable_shownKid (kid : String) : Presentable (shownKid kid) where
  short := by
    have hbytes := Text.Utf8.length_encode_le (shownKid kid).toList
    have hfilter := List.length_filter_le (fun c => !isControl c) (kid.toList.take 32)
    have htake := List.length_take_le 32 kid.toList
    rw [bytesOf]
    rw [toList_shownKid] at hbytes ⊢
    omega
  clean := by
    intro c hc
    rw [toList_shownKid, List.mem_filter] at hc
    simpa using hc.2

/-- How a name that a token gives is shown: as it is if it can be looked up, and
else without the controls among its first characters. -/
structure ShownAs (kid shown : String) : Prop where
  presentable : Presentable shown
  kept : kid ≠ "" → Presentable kid → shown = kid
  cut : ¬ (kid ≠ "" ∧ Presentable kid) →
    shown.toList = (kid.toList.take 32).filter fun c => !isControl c

theorem shownAs_self {kid : String} (h : KidAcceptable kid) : ShownAs kid kid where
  presentable := (kidAcceptable_iff.mp h).2
  kept _ _ := rfl
  cut hnot := absurd (kidAcceptable_iff.mp h) hnot

theorem shownAs_shownKid {kid : String} (h : ¬ KidAcceptable kid) :
    ShownAs kid (shownKid kid) where
  presentable := presentable_shownKid kid
  kept hne hkid := absurd (kidAcceptable_iff.mpr ⟨hne, hkid⟩) h
  cut _ := toList_shownKid kid

/-! ### Where names are shown -/

section

variable {f : Keys.Fault} {kid shown : String}

/-- A name that is refused is shown without what it was refused for. -/
theorem shown_of_checkKid (h : checkKid kid = .error (.keyResolution f))
    (hshown : f.shown? = some shown) : ShownAs kid shown := by
  have hkid : ¬ KidAcceptable kid := fun ha => by
    rw [checkKid_eq_ok_iff.mpr ha] at h
    cases h
  unfold checkKid at h
  split at h
  · cases h
    cases hshown
  · split at h
    · cases h
      cases hshown
      exact shownAs_shownKid hkid
    · cases h

theorem shown_of_requireKid {h : Header} (he : requireKid h = .error (.keyResolution f))
    (hshown : f.shown? = some shown) : ∃ kid, h.kid = some kid ∧ ShownAs kid shown := by
  unfold requireKid at he
  split at he
  · next kid hkid => exact ⟨kid, hkid, shown_of_checkKid (map_eq_error_iff.mp he) hshown⟩
  · cases he
    cases hshown

/-- Whatever is wrong with the key of a name, the name is shown as it was looked
up. -/
theorem shown_of_verificationKey {set : KeySet} (h : set.verificationKey kid = .error f) :
    f.shown? = some kid := by
  unfold KeySet.verificationKey at h
  split at h
  · cases h
    rfl
  · obtain ⟨r, -, rfl⟩ := mapError_eq_error_iff.mp h
    rfl

theorem shown_of_selectKey {set : KeySet} {h : Header}
    (he : selectKey set h = .error (.keyResolution f)) (hshown : f.shown? = some shown) :
    ∃ kid, h.kid = some kid ∧ ShownAs kid shown := by
  rcases bind_eq_error_iff.mp he with he | ⟨kid, hkid, he⟩
  · exact shown_of_requireKid he hshown
  · obtain ⟨hkid, ha⟩ := requireKid_eq_ok_iff.mp hkid
    obtain ⟨f', hf, heq⟩ := mapError_eq_error_iff.mp he
    obtain rfl := Error.keyResolution.inj heq
    rw [shown_of_verificationKey hf] at hshown
    obtain rfl := Option.some.inj hshown
    exact ⟨kid, hkid, shownAs_self ha⟩

theorem shown_of_verifyWithKeys {set : KeySet} {e : Expectation} {now : Int} {token : Bytes}
    (he : verifyWithKeys set e now token = .error (.keyResolution f))
    (hshown : f.shown? = some shown) :
    ∃ header kid, readHeader token = .ok header ∧ header.kid = some kid ∧ ShownAs kid shown := by
  rw [verifyWithKeys_eq] at he
  rcases bind_eq_error_iff.mp he with he | ⟨header, hheader, he⟩
  · obtain ⟨f', -, heq⟩ := mapError_eq_error_iff.mp he
    cases heq
  · rcases bind_eq_error_iff.mp he with he | ⟨key, -, he⟩
    · obtain ⟨kid, hkid, h⟩ := shown_of_selectKey he hshown
      exact ⟨header, kid, hheader, hkid, h⟩
    · -- behind the choice of the key no failure is one of a key
      rcases examine_category he with h | h <;> cases h

/-- A lookup of a key set shows no name, unless its source does. -/
theorem shown_of_get {s : Store} {url : String}
    (hsource : ∀ f, s.source.answer url = .error f → f.shown? = none)
    (h : (s.get url).2 = .error f) : f.shown? = none := by
  rcases (Store.get_error h).2 with ⟨-, rfl⟩ | ⟨-, -, rfl⟩ | ⟨-, -, hanswer⟩
  · rfl
  · rfl
  · exact hsource f hanswer

end

/-- **Names of keys are harmless where they are shown.** If a token is refused
with a fault that shows the name of a key, the token has a header that names a
key. What is shown is at most 256 bytes long and has no controls: the name
itself, if that is so of it and it is not empty, and otherwise the characters
among its first thirty-two that are no controls. -/
theorem verifyToken_shows_presentable {config : Config.Verifier} {now : Int} {s : Store}
    {token : String} {f : Keys.Fault} {shown : String}
    (hsource : ∀ f, s.source.answer config.keySetUrl = .error f → f.shown? = none)
    (h : (verifyToken config now s token).2 = .error (.keyResolution f))
    (hshown : f.shown? = some shown) :
    ∃ header kid, readHeader (bytesOf token) = .ok header ∧ header.kid = some kid ∧
      ShownAs kid shown := by
  rw [verifyToken_eq] at h
  cases hlookup : (s.get config.keySetUrl).2 with
  | error f' =>
      rw [hlookup, conclude] at h
      obtain rfl := Error.keyResolution.inj (Except.error.inj h)
      rw [shown_of_get hsource hlookup] at hshown
      cases hshown
  | ok set =>
      rw [hlookup, conclude] at h
      exact shown_of_verifyWithKeys h hshown

/-- A token whose name of a key leads to no key is refused for that. -/
theorem verifyToken_sign_of_selectKey {kid : String} {f : Keys.Fault}
    (h : selectKey ⟨"u", [sampleJwk]⟩ (.signing (some kid)) = .error (.keyResolution f)) :
    (verifyToken sampleVerifier 0 sampleKeyStore (sign sampleKey (some kid) .null)).2 =
      .error (.keyResolution f) := by
  have hheader := readHeader_eq_ok_iff.mpr ⟨_, headed_sign sampleKey (some kid) .null⟩
  rw [verifyToken_eq, lookup_sampleKeyStore, conclude, verifyWithKeys_eq, hheader, ok_bind, h,
    error_bind]

/-- A name that would begin a line of its own in a log. -/
def forgedName : String := "k\nINFO admitted"

/-- A name that begins a line is shown on one, and the name of no published key
is shown as it is. -/
theorem verifyToken_shows_presentable_forged :
    ((verifyToken sampleVerifier 0 sampleKeyStore (sign sampleKey (some forgedName) .null)).2 =
        .error (.keyResolution (.keyNotFound "kINFO admitted")) ∧
      ShownAs forgedName "kINFO admitted") ∧
      (verifyToken sampleVerifier 0 sampleKeyStore (sign sampleKey (some "µ") .null)).2 =
          .error (.keyResolution (.keyNotFound "µ")) ∧
        ShownAs "µ" "µ" := by
  have hsource : ∀ f, sampleKeyStore.source.answer sampleVerifier.keySetUrl = .error f →
      f.shown? = none := by
    intro f hf
    cases hf
  have hshows (asked shown : String)
      (hselect : selectKey ⟨"u", [sampleJwk]⟩ (.signing (some asked)) =
        .error (.keyResolution (.keyNotFound shown))) :
      (verifyToken sampleVerifier 0 sampleKeyStore (sign sampleKey (some asked) .null)).2 =
          .error (.keyResolution (.keyNotFound shown)) ∧
        ShownAs asked shown := by
    have hverify := verifyToken_sign_of_selectKey hselect
    obtain ⟨header, kid, hheader, hkid, hshown⟩ :=
      verifyToken_shows_presentable hsource hverify rfl
    rw [readHeader_eq_ok_iff.mpr ⟨_, headed_sign sampleKey (some asked) .null⟩] at hheader
    obtain rfl := Except.ok.inj hheader
    obtain rfl := Option.some.inj hkid
    exact ⟨hverify, hshown⟩
  exact ⟨hshows forgedName "kINFO admitted" (by decide +kernel),
    hshows "µ" "µ" (by decide +kernel)⟩

end Auth

end SbomGate
