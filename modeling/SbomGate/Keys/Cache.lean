import SbomGate.Config.Cache
import SbomGate.Keys.Source
/-!
# SbomGate.Keys.Cache

The **cache of key sets**, by the place where they are published.

Design points:

* A lookup is two steps, so that lookups can overlap. `start` answers from the
  cache or counts a miss; `finish` takes the result of the fetch that a miss
  calls for, and stores it or counts an error. Nothing else changes an entry
  except time and the room there is.
* What a lookup does to the cache (`settle`) is apart from the choice of the
  entries to let go of (`trim`).
* An entry is as old as the time since it was stored. It answers lookups while
  it is younger than the configured span; looking it up does not make it any
  younger.
* A lookup that fetches takes the time of its fetch (`Store.await`), by the clock
  that the age of entries is told from. What it stores is stored when that time is
  over.
* Fetches for one place are not combined: overlapping misses all fetch, and
  the last one to finish leaves its entry.
-/

namespace SbomGate.Keys

open Token

/-- A stored key set. -/
structure Entry where
  /-- The place that it is stored for. -/
  url : String
  set : KeySet
  /-- When it was stored, in nanoseconds. -/
  stored : Nat

/-- How often lookups were answered from the cache, were not, and failed. -/
structure Metrics where
  /-- Lookups answered from the cache. -/
  hits : Nat
  /-- Lookups that called for a fetch. -/
  misses : Nat
  fetchErrors : Nat
  deriving DecidableEq

/-- A cache of key sets. -/
structure Cache where
  config : Config.Cache
  /-- The stored key sets, the latest first, at most one for a place. -/
  entries : List Entry
  metrics : Metrics
  /-- The present, in nanoseconds. -/
  now : Nat

/-- The longest span for which a cache keeps anything: a thousand years of 365
days. -/
def longestTtl : Duration := .ofSeconds (1000 * 365 * 24 * 3600)

namespace Cache

/-- An empty cache, unless its entries would outlive a thousand years. -/
def empty? (config : Config.Cache) : Option Cache :=
  if longestTtl.toNanos < config.ttl.toNanos then none else some ⟨config, [], ⟨0, 0, 0⟩, 0⟩

/-- Whether an entry is young enough. -/
def isFresh (c : Cache) (e : Entry) : Bool := c.now - e.stored < c.config.ttl.toNanos

/-- The key set of a place, if a young enough one is stored. -/
def lookup? (c : Cache) (url : String) : Option KeySet :=
  (c.entries.find? fun e => e.url = url && c.isFresh e).map (·.set)

/-- Counts a lookup answered from the cache. -/
def countHit (c : Cache) : Cache :=
  { c with metrics := { c.metrics with hits := c.metrics.hits + 1 } }

/-- Counts a lookup that calls for a fetch. -/
def countMiss (c : Cache) : Cache :=
  { c with metrics := { c.metrics with misses := c.metrics.misses + 1 } }

/-- Counts a lookup whose fetch failed. -/
def countError (c : Cache) : Cache :=
  { c with metrics := { c.metrics with fetchErrors := c.metrics.fetchErrors + 1 } }

/-- Starts a lookup: the key set, if the cache has it. -/
def start (c : Cache) (url : String) : Cache × Option KeySet :=
  match c.lookup? url with
  | some set => (c.countHit, some set)
  | none => (c.countMiss, none)

/-- Stores a key set for a place, instead of the one before. -/
def insert (c : Cache) (url : String) (set : KeySet) : Cache :=
  { c with entries := ⟨url, set, c.now⟩ :: c.entries.filter (·.url ≠ url) }

/-- Lets go of entries that are too old or too many. -/
def trim (c : Cache) : Cache :=
  { c with entries := (c.entries.filter c.isFresh).take c.config.capacity }

/-- Takes the result of a fetch: stores the key set or counts an error. -/
def settle (c : Cache) (url : String) (r : Except Fault (List Jwk)) :
    Cache × Except Fault KeySet :=
  match r with
  | .ok keys => (c.insert url ⟨url, keys⟩, .ok ⟨url, keys⟩)
  | .error f => (c.countError, .error f)

/-- Finishes a lookup with the result of its fetch. -/
def finish (c : Cache) (url : String) (r : Except Fault (List Jwk)) :
    Cache × Except Fault KeySet :=
  match c.settle url r with
  | (c, .ok set) => (c.trim, .ok set)
  | (c, .error f) => (c, .error f)

/-- Lets some nanoseconds pass. What is too old by then stays until it is let go of. -/
def advance (c : Cache) (span : Nat) : Cache := { c with now := c.now + span }

/-- The number of entries that are young enough. -/
def size (c : Cache) : Nat := (c.entries.filter c.isFresh).length

/-- What a log shows of a cache; the entries are only counted. -/
def describe (c : Cache) : String :=
  "JwksCache \x7b config: " ++ c.config.describe ++ ", entry_count: " ++ toString c.size ++
    ", metrics: JwksCacheMetrics \x7b hits: " ++ toString c.metrics.hits ++ ", misses: " ++
    toString c.metrics.misses ++ ", fetch_errors: " ++ toString c.metrics.fetchErrors ++
    " \x7d, .. \x7d"

end Cache

/-- A cache with the source it fetches from. -/
structure Store where
  source : Source
  cache : Cache
  /-- Whether every fetch is cut off before it reaches the source. -/
  cutOff : Bool

namespace Store

/-- The fault of a fetch that is cut off. -/
def cutOffFault (url : String) : Fault :=
  .unavailable url "injected failure before JWKS fetch"

/-- The fetch that a miss calls for. -/
def fetch (s : Store) (url : String) : Store × Except Fault (List Jwk) :=
  if s.cutOff then (s, .error (cutOffFault url))
  else
    let (source, attempt) := s.source.ask url
    ({ s with source }, attempt.within s.cache.config.fetchTimeout url)

/-- Starts a lookup: its answer from the cache, or the result that its fetch
is going to have. -/
def start (s : Store) (url : String) :
    Store × (KeySet ⊕ Except Fault (List Jwk)) :=
  match s.cache.start url with
  | (cache, some set) => ({ s with cache }, .inl set)
  | (cache, none) =>
    let (s, r) := { s with cache }.fetch url
    (s, .inr r)

/-- Finishes a lookup that was started. -/
def finish (s : Store) (url : String) :
    KeySet ⊕ Except Fault (List Jwk) → Store × Except Fault KeySet
  | .inl set => (s, .ok set)
  | .inr r =>
    let (cache, result) := s.cache.finish url r
    ({ s with cache }, result)

/-- How long a fetch takes: until the answer is there, or until the limit of time
is reached. One that is cut off takes no time. -/
def fetchTime (s : Store) : Nat :=
  if s.cutOff then 0 else min s.source.delay.toNanos s.cache.config.fetchTimeout.toNanos

/-- Lets the time go by for which lookups wait that were started together: that of
one fetch, if any of them calls for a fetch. -/
def await (s : Store) (pending : List (KeySet ⊕ Except Fault (List Jwk))) : Store :=
  if pending.any (·.isRight) then { s with cache := s.cache.advance s.fetchTime } else s

/-- A lookup from start to end. -/
def get (s : Store) (url : String) : Store × Except Fault KeySet :=
  let (s, pending) := s.start url
  (s.await [pending]).finish url pending

/-- Starts `n` lookups, one after the other. -/
def startAll (s : Store) (url : String) :
    Nat → Store × List (KeySet ⊕ Except Fault (List Jwk))
  | 0 => (s, [])
  | n + 1 =>
    let (s, p) := s.start url
    let (s, ps) := startAll s url n
    (s, p :: ps)

/-- Finishes lookups in the order in which they were started. -/
def finishAll (s : Store) (url : String) :
    List (KeySet ⊕ Except Fault (List Jwk)) → Store × List (Except Fault KeySet)
  | [] => (s, [])
  | p :: ps =>
    let (s, r) := s.finish url p
    let (s, rs) := finishAll s url ps
    (s, r :: rs)

/-- `n` lookups one after the other. -/
def getEach (s : Store) (url : String) : Nat → Store × List (Except Fault KeySet)
  | 0 => (s, [])
  | n + 1 =>
    let (s, r) := s.get url
    let (s, rs) := getEach s url n
    (s, r :: rs)

/-- `n` lookups that overlap: if answers take time, all are started before the
first one is finished. -/
def getTogether (s : Store) (url : String) (n : Nat) : Store × List (Except Fault KeySet) :=
  if s.source.delay.isZero then s.getEach url n
  else
    let (s, ps) := s.startAll url n
    (s.await ps).finishAll url ps

end Store

end SbomGate.Keys
