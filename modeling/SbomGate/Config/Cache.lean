import SbomGate.Config.Fault
import SbomGate.Duration.Label
import SbomGate.Duration.Spelled
import SbomGate.Json.Projection
/-!
# SbomGate.Config.Cache

The **configuration of the key cache**: how long a key set is kept, how many
of them, and how long fetching one may take.

A configuration can be read from JSON, where spans of time are spelled as sums
and every member may be left out. What is read is checked by `validate` only.
-/

namespace SbomGate.Config

open Json

/-- The configuration of a key cache. -/
structure Cache where
  /-- How long a key set is kept. -/
  ttl : Duration
  /-- How many key sets are kept. -/
  capacity : Nat
  /-- How long a fetch may take. -/
  fetchTimeout : Duration
  deriving DecidableEq

namespace Cache

/-- A key set is kept for an hour. -/
def defaultTtl : Duration := .ofSeconds 3600

/-- The capacity of a cache for which none is given. -/
def defaultCapacity : Nat := 4

/-- A fetch may take ten seconds. -/
def defaultFetchTimeout : Duration := .ofSeconds 10

/-- The configuration for which nothing is given. -/
def standard : Cache := ⟨defaultTtl, defaultCapacity, defaultFetchTimeout⟩

/-- Refuses a span of no time. -/
def requireTime (field : String) (d : Duration) : Except Fault Unit :=
  if d.isZero then .error (.belowMinimum field "0s" "1ms") else .ok ()

/-- Refuses spans of no time and a cache without room. -/
def validate (c : Cache) : Except Fault Unit := do
  requireTime "ttl" c.ttl
  if c.capacity = 0 then throw (.belowMinimum "capacity" "0" "1")
  requireTime "fetch_timeout" c.fetchTimeout

/-- The configuration of some values, if they are acceptable. -/
def make (ttl : Duration) (capacity : Nat) (fetchTimeout : Duration) : Except Fault Cache :=
  let c : Cache := ⟨ttl, capacity, fetchTimeout⟩
  c.validate.map fun _ => c

/-- The schema of a span of time. -/
def durationSchema : Schema :=
  .spelling "a duration" fun s => (Duration.ofSpelling? s).isSome

/-- The object that a configuration is read from: no member is required, and none is unknown. -/
def schema : Schema :=
  .record "JwksCacheConfig" true
    [("ttl", .defaulted, durationSchema), ("capacity", .defaulted, .word64),
      ("fetch_timeout", .defaulted, durationSchema)]

/-- A span of time among members, or its default. -/
def durationOf (ms : Members) (name : String) (default : Duration) : Duration :=
  ((ms.text? name).bind Duration.ofSpelling?).getD default

/-- The configuration that checked members spell, the standard one where they are silent. -/
def ofMembers (ms : Members) : Cache :=
  { ttl := durationOf ms "ttl" defaultTtl
    capacity := ((ms.whole? "capacity").map Int.toNat).getD defaultCapacity
    fetchTimeout := durationOf ms "fetch_timeout" defaultFetchTimeout }

/-- The configuration that a text spells. -/
def ofBytes (text : Bytes) : Except ReadError Cache :=
  (schema.readBytes text).map fun v => ofMembers v.members

/-- A configuration as an object, all members written. -/
def toValue (c : Cache) : Value :=
  .object (textMember "ttl" c.ttl.spell ++ wholeMember? "capacity" (some c.capacity) ++
    textMember "fetch_timeout" c.fetchTimeout.spell)

/-- A configuration with the names of its fields, for a log. -/
def describe (c : Cache) : String :=
  "JwksCacheConfig \x7b ttl: " ++ c.ttl.label ++ ", capacity: " ++ toString c.capacity ++
    ", fetch_timeout: " ++ c.fetchTimeout.label ++ " \x7d"

end Cache

end SbomGate.Config
