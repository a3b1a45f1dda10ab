import SbomGate.Proofs.Reading
import SbomGate.Proofs.Scalars
import SbomGate.Proofs.Submission
/-!
# SbomGate.Proofs.Envelope

**Submissions in an envelope of their own**: what was received once can be put
into an envelope and received again, as the same submission, unless the
envelope makes it nest too deep.
-/

namespace SbomGate.Spdx

open Json

/-- What is in an envelope is what was put into it. -/
theorem unwrap_wrap {v : Value} (h : v.isObject = true) : unwrap (wrap v) = v := by
  cases v with
  | object members => simp [unwrap, unwrap?, wrap, Value.member?]
  | _ => cases h

theorem wrap_depth (v : Value) : (wrap v).depth = v.depth + 1 := by
  simp [wrap, Value.depth, Value.depthMembers]

theorem wrap_canonical {v : Value} (h : v.Canonical) : (wrap v).Canonical := by
  rw [wrap, Value.Canonical, Value.canonicalMembers_iff]
  exact ⟨List.pairwise_singleton _ _, by simpa using h⟩

theorem unwrap_canonical {v : Value} (h : v.Canonical) : (unwrap v).Canonical := by
  unfold unwrap unwrap?
  split
  · next members hm => exact h.member? hm
  · exact h

/-- What a submission was read from. -/
theorem raw_of_ofBytes {text : Bytes} {s : Submission} (h : Submission.ofBytes text = .ok s) :
    s.raw.Canonical ∧ s.raw.isObject = true ∧ Submission.ofValue s.raw = .ok s := by
  obtain ⟨v, hread, hvalue⟩ := ofBytes_eq_ok_iff.mp h
  obtain ⟨members, w, hobject, -, -, rfl⟩ := ofValue_eq_ok_iff.mp hvalue
  exact ⟨unwrap_canonical (ofBytes_canonical hread), by rw [hobject]; rfl, hvalue⟩

/-- What is said of a text that nests too deep. -/
theorem messages_tooDeep (line column : Nat) :
    (Rejection.of (.notJson ⟨.defect .tooDeep, line, column⟩)).messages =
      ["document is not valid JSON: " ++ ("recursion limit exceeded" ++
        " at line " ++ toString line ++ " column " ++ toString column)] := by
  have hread : (ReadError.mk (.defect .tooDeep) line column).message =
      "recursion limit exceeded" ++ " at line " ++ toString line ++ " column " ++
        toString column := rfl
  rw [Rejection.messages, Rejection.of, List.map_cons, List.map_nil, ← hread]
  rfl

/-- **A submission survives an envelope of its own exactly when it nests at
most 126 arrays and objects.** A deeper one is then refused for its nesting
alone. -/
theorem ofBytes_wrapText {text : Bytes} {s : Submission} (h : Submission.ofBytes text = .ok s) :
    (Submission.ofBytes (bytesOf (wrapText s.raw)) = .ok s ↔ s.raw.depth ≤ 126) ∧
      (126 < s.raw.depth → ∃ rejection line column,
        Submission.ofBytes (bytesOf (wrapText s.raw)) = .error rejection ∧
          rejection.problems = [.notJson ⟨.defect .tooDeep, line, column⟩] ∧
          rejection.messages = ["document is not valid JSON: " ++ ("recursion limit exceeded" ++
            " at line " ++ toString line ++ " column " ++ toString column)]) := by
  obtain ⟨hcanonical, hobject, hvalue⟩ := raw_of_ofBytes h
  obtain ⟨hshallow, hdeep⟩ := ofBytes_text (wrap_canonical hcanonical)
  rw [wrap_depth] at hshallow hdeep
  have hreject : 126 < s.raw.depth → ∃ line column,
      Submission.ofBytes (bytesOf (wrapText s.raw)) =
        .error (.of (.notJson ⟨.defect .tooDeep, line, column⟩)) := by
    intro hdepth
    obtain ⟨line, column, hread⟩ := hdeep (by omega)
    refine ⟨line, column, ?_⟩
    rw [wrapText, Submission.ofBytes, decode, hread]
    rfl
  refine ⟨⟨?_, ?_⟩, ?_⟩
  · intro hok
    by_contra hdepth
    obtain ⟨line, column, herror⟩ := hreject (by omega)
    rw [hok] at herror
    cases herror
  · intro hdepth
    -- read back, the envelope is opened again and what was in it is checked again
    refine ofBytes_eq_ok_iff.mpr ⟨wrap s.raw, hshallow (by omega), ?_⟩
    rw [unwrap_wrap hobject]
    exact hvalue
  · intro hdepth
    obtain ⟨line, column, herror⟩ := hreject hdepth
    exact ⟨.of (.notJson ⟨.defect .tooDeep, line, column⟩), line, column, herror, rfl,
      messages_tooDeep line column⟩

/-- A document with a member that nests `k` arrays. -/
def nestedText (k : Nat) : Bytes :=
  bytesOf "\x7b\"spdxVersion\":\"SPDX-2.3\",\"SPDXID\":\"SPDXRef-D\",\"name\":\"n\"," ++
    bytesOf "\"documentNamespace\":\"a:b\",\"deep\":" ++
      (List.replicate k 0x5B ++ List.replicate k 0x5D ++ [0x7D])

/-- Either side of the limit: both documents are received, and the envelope is
too much for one of them. -/
theorem ofBytes_wrapText_nested :
    (∃ s, Submission.ofBytes (nestedText 125) = .ok s ∧
      Submission.ofBytes (bytesOf (wrapText s.raw)) = .ok s) ∧
    ∃ s, Submission.ofBytes (nestedText 126) = .ok s ∧ ∃ rejection line column,
      Submission.ofBytes (bytesOf (wrapText s.raw)) = .error rejection ∧
        rejection.problems = [.notJson ⟨.defect .tooDeep, line, column⟩] := by
  have hdepth : ∀ k, k = 125 ∨ k = 126 →
      (Submission.ofBytes (nestedText k)).map (·.raw.depth) = .ok (k + 1) := by
    rintro k (rfl | rfl)
    · decide +kernel
    · decide +kernel
  obtain ⟨s, hs, hlow⟩ := map_eq_ok_iff.mp (hdepth 125 (.inl rfl))
  obtain ⟨s', hs', hhigh⟩ := map_eq_ok_iff.mp (hdepth 126 (.inr rfl))
  obtain ⟨rejection, line, column, herror, hproblems, -⟩ := (ofBytes_wrapText hs').2 (by omega)
  exact ⟨⟨s, hs, (ofBytes_wrapText hs).1.mpr (by omega)⟩,
    s', hs', rejection, line, column, herror, hproblems⟩

end SbomGate.Spdx
