import SbomGate.Config.Cache
import SbomGate.Proofs.RecordText
import SbomGate.Proofs.Spelling
/-!
# SbomGate.Proofs.CacheText

**The configuration of a cache is read back from its text**, whatever members are
left out of it: a span of time is read back from the sum that spells it
(`Duration.ofSpelling?_spell`), and a member that is left out stands for its
default.
-/

namespace SbomGate.Config.Cache

open Json

/-! ### Members that are left out -/

/-- The fields of a configuration. -/
def fields : Fields :=
  [("ttl", .defaulted, durationSchema), ("capacity", .defaulted, .word64),
    ("fetch_timeout", .defaulted, durationSchema)]

/-- The members that are written for a configuration, but for some names. -/
def membersWithout (c : Cache) (omitted : List String) : Members :=
  c.toValue.members.filter (·.1 ∉ omitted)

/-- A configuration with defaults under some names. -/
def withDefaults (c : Cache) (omitted : List String) : Cache where
  ttl := if "ttl" ∈ omitted then defaultTtl else c.ttl
  capacity := if "capacity" ∈ omitted then defaultCapacity else c.capacity
  fetchTimeout := if "fetch_timeout" ∈ omitted then defaultFetchTimeout else c.fetchTimeout

theorem rereads_duration (d : Duration) : Rereads durationSchema 0 (.string d.spell) := by
  have hspelled : durationSchema.projectScalar (.string d.spell) = .ok (.string d.spell) := by
    rw [durationSchema, Schema.projectScalar, Duration.ofSpelling?_spell]
    rfl
  exact .ofText (by decide) hspelled

theorem rereads_capacity {n : Nat} (h : n < UInt64.size) :
    Rereads .word64 0 (.number (.whole n)) := by
  have hrange : (Number.whole n).InRange := by
    rw [Number.InRange]
    rw [UInt64.size] at h
    omega
  exact .ofWhole (by decide) hrange (if_pos (Int.natCast_nonneg n))

theorem written {c : Cache} (h : c.capacity < UInt64.size) (omitted : List String) :
    Written 0 fields (c.membersWithout omitted) := by
  have all := ((Written.without "ttl" (rereads_duration c.ttl) omitted).append
    (Written.without "capacity" (rereads_capacity h) omitted)).append
    (Written.without "fetch_timeout" (rereads_duration c.fetchTimeout) omitted)
  rwa [← List.filter_append, ← List.filter_append] at all

theorem durationOf_without {c : Cache} {name : String} {d : Duration}
    (h : Members.get? c.toValue.members name = some (.string d.spell)) (omitted : List String)
    (default : Duration) :
    durationOf (c.membersWithout omitted) name default = if name ∈ omitted then default else d := by
  rw [durationOf, Members.text?, membersWithout, Members.get?_without]
  split
  · rfl
  · rw [h, Option.bind_some, Value.asString?, Option.bind_some, Duration.ofSpelling?_spell,
      Option.getD_some]

/-- What is left out stands for its default. -/
theorem ofMembers_without (c : Cache) (omitted : List String) :
    ofMembers (c.membersWithout omitted) = c.withDefaults omitted := by
  have hcapacity : ((Members.whole? (c.membersWithout omitted) "capacity").map Int.toNat).getD
      defaultCapacity = if "capacity" ∈ omitted then defaultCapacity else c.capacity := by
    rw [Members.whole?, membersWithout, Members.get?_without]
    by_cases hname : "capacity" ∈ omitted
    · rw [if_pos hname, if_pos hname]
      rfl
    · rw [if_neg hname, if_neg hname]
      rfl
  rw [ofMembers, hcapacity, durationOf_without (d := c.ttl) rfl,
    durationOf_without (d := c.fetchTimeout) rfl, withDefaults]

/-- The text without some members is read as the configuration with their
defaults. -/
theorem ofBytes_without {c : Cache} (h : c.capacity < UInt64.size) (omitted : List String) :
    ofBytes (bytesOf (Value.object (c.membersWithout omitted)).text) =
      .ok (c.withDefaults omitted) := by
  have hread : schema.readBytes (bytesOf (Value.object (c.membersWithout omitted)).text) =
      .ok (.object (c.membersWithout omitted)) :=
    (written h omitted).readBytes (by decide) (by decide) (by decide) "JwksCacheConfig" true
  rw [ofBytes, hread]
  exact congrArg Except.ok (c.ofMembers_without omitted)

/-- **A configuration is read back from its text**, whatever its spans of time and its
capacity are, and gets the same verdict. Members that are left out of the text stand
for their defaults, and the others for what they were written for. -/
theorem cache_reread {c : Cache} (h : c.capacity < UInt64.size) :
    (∃ read, ofBytes (bytesOf c.toValue.text) = .ok read ∧ read = c ∧
        read.validate = c.validate) ∧
      ∀ omitted : List String,
        ofBytes (bytesOf (Value.object (c.membersWithout omitted)).text) =
          .ok (c.withDefaults omitted) := by
  have hall : Value.object (c.membersWithout []) = c.toValue := by
    simp [membersWithout, toValue, Value.members]
  have hsame : c.withDefaults [] = c := rfl
  have hread := ofBytes_without h []
  rw [hall, hsame] at hread
  exact ⟨⟨c, hread, rfl, rfl⟩, ofBytes_without h⟩

/-- The longest span of time. -/
def longest : Duration where
  seconds := 0xFFFFFFFFFFFFFFFF
  nanos := 999999999

/-- The largest configuration. -/
def largest : Cache := ⟨longest, 0xFFFFFFFFFFFFFFFF, longest⟩

/-- It is read with all its members, and with one. -/
theorem cache_reread_largest :
    ofBytes (bytesOf largest.toValue.text) = .ok largest ∧
      ofBytes (bytesOf (Value.object (largest.membersWithout ["ttl", "capacity"])).text) =
        .ok ⟨defaultTtl, defaultCapacity, longest⟩ ∧
      longest.spell = "584542046090years 7months 15days 17h 5m 3s 999ms 999us 999ns" := by
  obtain ⟨⟨read, hread, rfl, -⟩, hwithout⟩ := @cache_reread largest (by decide)
  exact ⟨hread, hwithout ["ttl", "capacity"], by decide +kernel⟩

end SbomGate.Config.Cache
