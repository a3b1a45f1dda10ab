import SbomGate.Proofs.Embedding
import SbomGate.Proofs.Envelope
/-!
# SbomGate.Proofs.Transparency

**What an envelope makes of a document**, and what it does not.

A document without an envelope is taken as it is, unless it has a member that makes it
look like an envelope (`ofBytes_of_ofDocument`). And a text around which an envelope is
put stands for what it stood for before, be it a submission or a rejection
(`ofBytes_envelopeText`): the text reads the same inside the envelope, and whatever comes
after reading is a matter of the value. The envelope itself is one more level of nesting.
The limit on that is for the text as it is written, so a member that is replaced by a
later one of the same name counts as well (`writtenDepth`).
-/

namespace SbomGate.Json

/-- A member nests less deep than its object. -/
theorem Members.depth_lt {ms : Members} {name : String} {v : Value} (h : ms.get? name = some v) :
    v.depth < (Value.object ms).depth := by
  rw [Value.depth, Nat.lt_succ_iff]
  induction ms with
  | nil => cases h
  | cons m ms ih =>
      obtain ⟨k, w⟩ := m
      rw [Value.depthMembers]
      rw [get?_cons] at h
      split at h
      · cases h
        exact Nat.le_max_left _ _
      · exact Nat.le_trans (ih h) (Nat.le_max_right _ _)

/-- How deep the arrays and objects of a text nest as they are written. -/
def writtenDepth (text : Bytes) : Nat :=
  match writtenValue text with
  | .ok v => v.depth
  | .error _ => 0

end SbomGate.Json

namespace SbomGate.Spdx

open Json

theorem decode_eq_ok_iff {text : Bytes} {v : Value} :
    decode text = .ok v ↔ Value.ofBytes text = .ok v := mapError_eq_ok_iff

theorem ofBytes_of_decode {text : Bytes} {v : Value} (h : decode text = .ok v) :
    Submission.ofBytes text = Submission.ofValue (unwrap v) := by
  rw [Submission.ofBytes, h]
  rfl

/-! ### Documents without an envelope -/

theorem unwrap_of_member {v : Value} {ms : Members} (h : v.member? envelopeName = some (.object ms)) :
    unwrap v = .object ms := by
  rw [unwrap, unwrap?, h]
  rfl

theorem unwrap_of_no_member {v : Value} (h : ∀ ms, v.member? envelopeName ≠ some (.object ms)) :
    unwrap v = v := by
  unfold unwrap unwrap?
  split
  · next ms hms => exact absurd hms (h ms)
  · rfl

theorem raw_of_ofDocument {text : Bytes} {s : Submission} (h : Submission.ofDocument text = .ok s) :
    decode text = .ok s.raw ∧ Submission.ofValue s.raw = .ok s := by
  obtain ⟨v, hdecode, hvalue⟩ := bind_eq_ok_iff.mp h
  obtain ⟨members, w, -, -, -, rfl⟩ := ofValue_eq_ok_iff.mp hvalue
  exact ⟨hdecode, hvalue⟩

/-- A submission is not what its own member stands for. -/
theorem ofValue_member_ne {s : Submission} {ms : Members}
    (h : s.raw.member? envelopeName = some (.object ms)) :
    Submission.ofValue (.object ms) ≠ .ok s := by
  intro hvalue
  obtain ⟨members, w, hobject, -, -, rfl⟩ := ofValue_eq_ok_iff.mp hvalue
  have hdepth : (Value.object ms).depth < (Value.object ms).depth := Members.depth_lt h
  exact absurd hdepth (Nat.lt_irrefl _)

/-- **A document without an envelope** is the same submission where envelopes are taken
off, exactly if it has no member that makes an envelope of it. One that has is taken for
the envelope of that member, and is what the member alone stands for. -/
theorem ofBytes_of_ofDocument {text : Bytes} {s : Submission}
    (h : Submission.ofDocument text = .ok s) :
    (Submission.ofBytes text = .ok s ↔
      ∀ ms, s.raw.member? envelopeName ≠ some (.object ms)) ∧
    ∀ ms, s.raw.member? envelopeName = some (.object ms) →
      Submission.ofBytes text = Submission.ofValue (.object ms) := by
  obtain ⟨hdecode, hvalue⟩ := raw_of_ofDocument h
  rw [ofBytes_of_decode hdecode]
  refine ⟨⟨?_, ?_⟩, ?_⟩
  · intro hok ms hms
    rw [unwrap_of_member hms] at hok
    exact ofValue_member_ne hms hok
  · intro hms
    rw [unwrap_of_no_member hms]
    exact hvalue
  · intro ms hms
    rw [unwrap_of_member hms]

/-- A document with a member more. -/
def documentWith (member : String) : Bytes :=
  bytesOf "\x7b\"spdxVersion\":\"SPDX-2.3\",\"SPDXID\":\"SPDXRef-D\",\"name\":\"n\"," ++
    bytesOf "\"documentNamespace\":\"a:b\"," ++ bytesOf member ++ [0x7D]

/-- A note of the name is no envelope. -/
theorem ofBytes_of_ofDocument_note :
    ∃ s, Submission.ofDocument (documentWith "\"sbom\":1") = .ok s ∧
      Submission.ofBytes (documentWith "\"sbom\":1") = .ok s := by
  have hnote : (Submission.ofDocument (documentWith "\"sbom\":1")).map
      (·.raw.member? envelopeName) = .ok (some (.number (.whole 1))) := by decide +kernel
  obtain ⟨s, hs, hmember⟩ := map_eq_ok_iff.mp hnote
  refine ⟨s, hs, (ofBytes_of_ofDocument hs).1.mpr fun ms hms => ?_⟩
  rw [hmember] at hms
  cases hms

/-- A document with an empty object of the name is a submission, and is no longer one
where envelopes are taken off. -/
theorem ofBytes_ne_ofDocument :
    ∃ s, Submission.ofDocument (documentWith "\"sbom\":\x7b\x7d") = .ok s ∧
      Submission.ofBytes (documentWith "\"sbom\":\x7b\x7d") ≠ .ok s := by
  have hobject : (Submission.ofDocument (documentWith "\"sbom\":\x7b\x7d")).map
      (·.raw.member? envelopeName) = .ok (some (.object [])) := by decide +kernel
  obtain ⟨s, hs, hmember⟩ := map_eq_ok_iff.mp hobject
  refine ⟨s, hs, ?_⟩
  rw [ofBytes_of_decode (raw_of_ofDocument hs).1, unwrap_of_member hmember]
  exact ofValue_member_ne hmember

/-! ### Texts in an envelope -/

/-- A text in an envelope. -/
def envelopeText (text : Bytes) : Bytes := bytesOf "\x7b\"sbom\":" ++ text ++ bytesOf "\x7d"

theorem envelopeText_eq (text : Bytes) : envelopeText text = memberText envelopeName text := by
  have hopen : bytesOf "\x7b\"sbom\":" =
      [0x7B] ++ (Text.Utf8.encode (renderString envelopeName) ++ [0x3A]) := by decide
  have hclose : bytesOf "\x7d" = [0x7D] := by decide
  rw [envelopeText, memberText, hopen, hclose]
  simp only [List.append_assoc]

/-- **A text in an envelope stands for what it stands for alone**, whether that is a
submission or a rejection, if it nests at most 126 arrays and objects as it is written
and is not an envelope itself. A deeper one is refused for its nesting alone. -/
theorem ofBytes_envelopeText {text : Bytes} {v : Value} (h : decode text = .ok v)
    (hobject : v.isObject = true) (hbare : ∀ ms, v.member? envelopeName ≠ some (.object ms)) :
    (writtenDepth text ≤ 126 →
      Submission.ofBytes (envelopeText text) = Submission.ofBytes text) ∧
    (126 < writtenDepth text → ∃ line column, Submission.ofBytes (envelopeText text) =
      .error (.of (.notJson ⟨.defect .tooDeep, line, column⟩))) := by
  have hwritten := decode_eq_ok_iff.mp h
  rw [ofBytes_eq_map_written] at hwritten
  obtain ⟨w, hw, rfl⟩ := map_eq_ok_iff.mp hwritten
  obtain ⟨hshallow, hdeep⟩ := ofBytes_memberText hw envelopeName
  have hdepth : writtenDepth text = w.depth := by rw [writtenDepth, hw]
  rw [hdepth, envelopeText_eq]
  constructor
  · intro hle
    -- inside the envelope there is the same value, and after that only the value counts
    have henvelope : decode (memberText envelopeName text) = .ok (wrap w.canonical) :=
      decode_eq_ok_iff.mpr (hshallow (Nat.lt_succ_of_le hle))
    rw [ofBytes_of_decode henvelope, ofBytes_of_decode h, unwrap_wrap hobject,
      unwrap_of_no_member hbare]
  · intro hlt
    obtain ⟨line, column, hread⟩ := hdeep hlt
    refine ⟨line, column, ?_⟩
    rw [Submission.ofBytes, decode, hread]
    rfl

/-- Either side of the limit. -/
theorem ofBytes_envelopeText_nested :
    Submission.ofBytes (envelopeText (nestedText 125)) = Submission.ofBytes (nestedText 125) ∧
    ∃ line column, Submission.ofBytes (envelopeText (nestedText 126)) =
      .error (.of (.notJson ⟨.defect .tooDeep, line, column⟩)) := by
  have hread : ∀ k, k = 125 ∨ k = 126 → writtenDepth (nestedText k) = k + 1 ∧
      (decode (nestedText k)).map (fun v => (v.isObject, v.member? envelopeName)) =
        .ok (true, none) := by
    rintro k (rfl | rfl)
    · decide +kernel
    · decide +kernel
  obtain ⟨hdepth, hlow⟩ := hread 125 (.inl rfl)
  obtain ⟨hdepth', hhigh⟩ := hread 126 (.inr rfl)
  obtain ⟨v, hv, hkind⟩ := map_eq_ok_iff.mp hlow
  obtain ⟨v', hv', hkind'⟩ := map_eq_ok_iff.mp hhigh
  obtain ⟨hobject, hnone⟩ := Prod.mk.inj hkind
  obtain ⟨hobject', hnone'⟩ := Prod.mk.inj hkind'
  exact ⟨(ofBytes_envelopeText hv hobject (by simp [hnone])).1 (by omega),
    (ofBytes_envelopeText hv' hobject' (by simp [hnone'])).2 (by omega)⟩

/-- A document with two members of one name, of which the first nests `k` arrays and the
second takes its place. -/
def repeatedText (k : Nat) : Bytes :=
  bytesOf "\x7b\"spdxVersion\":\"SPDX-2.3\",\"SPDXID\":\"SPDXRef-D\",\"name\":\"n\"," ++
    bytesOf "\"documentNamespace\":\"a:b\",\"deep\":" ++
      (List.replicate k 0x5B ++ List.replicate k 0x5D ++ bytesOf ",\"deep\":0\x7d")

/-- What is replaced is read all the same: a document that is one object without any
nesting can be too deep for an envelope. -/
theorem ofBytes_envelopeText_repeated :
    ∃ v, decode (repeatedText 126) = .ok v ∧ v.isObject = true ∧ v.depth = 1 ∧
      v.member? envelopeName = none ∧
      Submission.ofBytes (envelopeText (repeatedText 126)) ≠
        Submission.ofBytes (repeatedText 126) := by
  have hread : (decode (repeatedText 126)).map
      (fun v => (v.isObject, v.depth, v.member? envelopeName)) = .ok (true, 1, none) := by
    decide +kernel
  have hbare : (Submission.ofBytes (repeatedText 126)).isOk = true := by decide +kernel
  have henvelope : (Submission.ofBytes (envelopeText (repeatedText 126))).isOk = false := by
    decide +kernel
  obtain ⟨v, hv, hfacts⟩ := map_eq_ok_iff.mp hread
  obtain ⟨hobject, hfacts⟩ := Prod.mk.inj hfacts
  obtain ⟨hdepth, hmember⟩ := Prod.mk.inj hfacts
  refine ⟨v, hv, hobject, hdepth, hmember, fun heq => ?_⟩
  rw [heq, hbare] at henvelope
  cases henvelope

end SbomGate.Spdx
