import SbomGate.Proofs.Signing
import SbomGate.Proofs.Written
/-!
# SbomGate.Proofs.RecordText

**A record is read back from the text that is written for it.**

The members of a record are written in the order of declaration, and a text that
spells them is read member by member, so what was written comes out whether or
not the record is closed (`Written.readBytes`). What has to be seen of a record is
that its schemas take what is written for its fields, which for texts and numbers
is one evaluation (`Rereads.ofText`, `Rereads.ofWhole`).
-/

namespace SbomGate.Json

theorem Value.depth_of_scalar {v : Value} (h : v.isContainer = false) : v.depth = 0 := by
  cases v with
  | array items => cases h
  | object members => cases h
  | _ => rw [Value.depth]

namespace Rereads

variable {levels : Nat}

/-- Texts and numbers are read back by a plain schema that takes them. -/
theorem scalar {s : Schema} {v : Value} (hs : s.IsPlain) (hv : v.isContainer = false)
    (hrange : v.InRange) (h : s.projectScalar v = .ok v) : Rereads s levels v where
  project := by rw [Value.canonical_of_scalar hv, Schema.project_of_isPlain hs, h]
  inRange := hrange
  depth := by rw [Value.depth_of_scalar hv]; exact Nat.zero_le _

theorem ofText {s : Schema} {t : String} (hs : s.IsPlain)
    (h : s.projectScalar (.string t) = .ok (.string t)) : Rereads s levels (.string t) :=
  .scalar hs rfl (by rw [Value.InRange]; trivial) h

theorem ofWhole {s : Schema} {i : Int} (hs : s.IsPlain) (hrange : (Number.whole i).InRange)
    (h : s.projectScalar (.number (.whole i)) = .ok (.number (.whole i))) :
    Rereads s levels (.number (.whole i)) :=
  .scalar hs rfl (by rwa [Value.InRange]) h

end Rereads

namespace Written

variable {levels : Nat} {fields : Fields} {ms : Members}

/-- The text of what was written spells it as a value, too. -/
theorem valueOfBytes (h : Written levels fields ms) (hlevels : levels < 127) :
    Value.ofBytes (bytesOf (Value.object ms).text) = .ok (Value.object ms).canonical :=
  (ofBytes_text_of_inRange h.object_inRange).1 (h.object_depth.trans hlevels)

/-- A record of plain fields is read back from the text of what was written for
it. -/
theorem readBytes (h : Written levels fields ms) (hnames : (fields.map (·.1)).Nodup)
    (hplain : ∀ field ∈ fields, field.2.2.IsPlain) (hlevels : levels < 127) (title : String)
    (closed : Bool) :
    (Schema.record title closed fields).readBytes (bytesOf (Value.object ms).text) =
      .ok (.object ms) := by
  obtain ⟨o, ho⟩ : ∃ o, (Schema.record title closed fields).readBytes
      (bytesOf (Value.object ms).text) =
        ((Schema.record title closed fields).project
          (.object (Value.canonicalMembers ms))).mapError
            fun m => (m.at o).locate (bytesOf (Value.object ms).text) :=
    readBytes_of_spellsObject (Fields.takeWhole_of_isPlain hplain _)
      (Token.spellsObject_text_of_inRange h.object_inRange (h.object_depth.trans hlevels))
  have hnodup : (ms.map (·.1)).Nodup := hnames.sublist h.names
  rw [ho, h.project_of_get? hnames title closed (by rwa [Members.names_canonicalMembers])
    (Members.get?_canonicalMembers ms)]
  rfl

end Written

/-! ### Members that are left out -/

/-- A member that is left out under some names. -/
theorem Written.without {levels : Nat} {s : Schema} (name : String) {v : Value}
    (h : Rereads s levels v) (omitted : List String) :
    Written levels [(name, .defaulted, s)] ([(name, v)].filter (·.1 ∉ omitted)) := by
  by_cases hname : name ∈ omitted
  · simpa [hname] using Written.skip (by decide) .nil
  · simpa [hname] using Written.keep h .nil

theorem Members.get?_without (omitted : List String) (ms : Members) (name : String) :
    Members.get? (ms.filter (·.1 ∉ omitted)) name =
      if name ∈ omitted then none else Members.get? ms name := by
  split
  · next h => exact get?_filter_of_neg (p := fun k => k ∉ omitted) (by simpa using h) ms
  · next h => exact get?_filter (p := fun k => k ∉ omitted) (by simpa using h) ms

end SbomGate.Json
