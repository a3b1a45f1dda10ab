/-!
# SbomGate.Duration.Basic

**Spans of time** in whole nanoseconds, up to `2 ^ 64` seconds.
-/

namespace SbomGate

/-- The number of nanoseconds in a second. -/
abbrev nanosPerSecond : Nat := 1000000000

/-- A span of time: seconds and the nanoseconds beyond them. -/
structure Duration where
  seconds : Nat
  /-- The nanoseconds beyond them. -/
  nanos : Nat
  /-- Seconds fit into 64 bits. -/
  seconds_lt : seconds < UInt64.size := by decide
  /-- Nanoseconds do not make a second. -/
  nanos_lt : nanos < nanosPerSecond := by decide
  deriving DecidableEq

namespace Duration

/-- No time at all. -/
def zero : Duration := { seconds := 0, nanos := 0 }

instance : Inhabited Duration := ⟨zero⟩

/-- The span of some nanoseconds, if it is within range. -/
def ofNanos? (n : Nat) : Option Duration :=
  if h : n / nanosPerSecond < UInt64.size then
    some { seconds := n / nanosPerSecond, nanos := n % nanosPerSecond, seconds_lt := h,
           nanos_lt := Nat.mod_lt _ (by decide) }
  else none

/-- The length in nanoseconds; no two spans have the same. -/
def toNanos (d : Duration) : Nat := d.seconds * nanosPerSecond + d.nanos

/-- The span of some seconds and nanoseconds, if it is within range. -/
def ofParts? (seconds nanos : Nat) : Option Duration := ofNanos? (seconds * nanosPerSecond + nanos)

/-- The span of some milliseconds, if it is within range. -/
def ofMillis? (n : Nat) : Option Duration := ofNanos? (n * 1000000)

/-- Some seconds as a span of time. -/
def ofSeconds (n : UInt64) : Duration :=
  { seconds := n.toNat, nanos := 0, seconds_lt := n.toNat_lt_size }

/-- Whether there is no time in the span. -/
def isZero (d : Duration) : Bool := d.seconds = 0 && d.nanos = 0

theorem toNanos_lt (d : Duration) : d.toNanos < UInt64.size * nanosPerSecond := by
  have h := d.seconds_lt
  have h' := d.nanos_lt
  simp only [toNanos, nanosPerSecond] at *
  omega

@[simp] theorem ofNanos?_toNanos (d : Duration) : ofNanos? d.toNanos = some d := by
  have h := d.nanos_lt
  have e : d.toNanos / nanosPerSecond = d.seconds := by
    simp only [toNanos, nanosPerSecond] at *
    omega
  have e' : d.toNanos % nanosPerSecond = d.nanos := by
    simp only [toNanos, nanosPerSecond] at *
    omega
  rw [ofNanos?, dif_pos (by rw [e]; exact d.seconds_lt)]
  simp only [e, e']

end Duration

end SbomGate
