import SbomGate.Keys.Cache
/-!
# SbomGate.Proofs.Traffic

A cache of key sets **in traffic**: lookups of any places that overlap in any
way, fetches that return what they like and when they like, time, and entries
that are let go of at any moment.

* `Traffic.step` — what a single act does. Lookups go through `Cache.start` and
  `Cache.settle`; everything else an act can do is to let time pass, to arm the
  switch that cuts fetches off, or to let go of entries.
* `Traffic.log` — the history: every fetch that returned, with its result, and
  every end of a lookup, with its answer.
* `Traffic.Moves` — the same by cases, each with the state that it leads to.
  Whatever is said of all runs is said of these cases first.
-/

namespace SbomGate.Keys

open Token

/-! ## Lookups, acts and history -/

/-- A lookup: its number, its place and when it began. -/
structure Lookup where
  id : Nat
  url : String
  began : Nat

/-- An event in the life of a lookup, with its time. -/
inductive Event where
  /-- The fetch that the lookup called for returned. -/
  | fetched (l : Lookup) (time : Nat) (r : Except Fault (List Jwk))
  /-- The lookup was answered from the cache. -/
  | hit (l : Lookup) (time : Nat) (set : KeySet)
  /-- The lookup had missed and was answered. -/
  | missed (l : Lookup) (time : Nat) (r : Except Fault KeySet)
  /-- The lookup was abandoned while it waited for its fetch. -/
  | abandoned (l : Lookup) (time : Nat)

namespace Event

/-- The lookup that an event is about. -/
def lookup : Event → Lookup
  | fetched l _ _ | hit l _ _ | missed l _ _ | abandoned l _ => l

/-- The number of the lookup, if the event is the return of its fetch. -/
def fetchId? : Event → Option Nat
  | fetched l _ _ => some l.id
  | _ => none

/-- The number of the lookup, if the event is its end. -/
def endId? : Event → Option Nat
  | fetched _ _ _ => none
  | hit l _ _ | missed l _ _ | abandoned l _ => some l.id

/-- What the lookup is answered with, if the event is its answer. -/
def answer? : Event → Option (Except Fault KeySet)
  | hit _ _ set => some (.ok set)
  | missed _ _ r => some r
  | _ => none

theorem fetchId?_eq {ev : Event} {i : Nat} (h : ev.fetchId? = some i) : ev.lookup.id = i := by
  cases ev <;> simp_all [fetchId?, lookup]

theorem endId?_eq {ev : Event} {i : Nat} (h : ev.endId? = some i) : ev.lookup.id = i := by
  cases ev <;> simp_all [endId?, lookup]

end Event

/-- A cache, the lookups that wait for their fetch, and what happened so far,
the latest first. -/
structure Traffic where
  cache : Cache
  /-- Whether fetches are cut off before they begin. -/
  cutOff : Bool
  /-- How many lookups began. -/
  begun : Nat
  /-- How many fetches began. -/
  asked : Nat
  waiting : List Lookup
  log : List Event

/-- What can happen next. -/
inductive Act where
  /-- A lookup begins. -/
  | look (url : String)
  /-- The fetch that a lookup waits for returns. -/
  | reply (id : Nat) (r : Except Fault (List Jwk))
  /-- The fetch that a lookup waits for takes too long. -/
  | timeOut (id : Nat)
  /-- A lookup that waits is abandoned. -/
  | abandon (id : Nat)
  /-- Time passes. -/
  | pass (span : Nat)
  /-- The cache lets go of what it has, except for some places. -/
  | evict (kept : List String)
  /-- Fetches are cut off from now on, or no longer. -/
  | cutOff (armed : Bool)

/-- The number of the lookup that an act is about, if it is about one that
waits. -/
def Act.id? : Act → Option Nat
  | .reply id _ | .timeOut id | .abandon id => some id
  | _ => none

namespace Traffic

/-- A cache before its first lookup. -/
def initial (c : Cache) : Traffic := ⟨c, false, 0, 0, [], []⟩

/-- Answers a lookup that missed, with the result of its fetch. -/
def answer (s : Traffic) (l : Lookup) (r : Except Fault (List Jwk)) : Traffic :=
  let (cache, result) := s.cache.settle l.url r
  { s with cache, log := .missed l s.cache.now result :: s.log }

/-- Takes a lookup from those that wait. -/
def leave (s : Traffic) (l : Lookup) : Traffic :=
  { s with waiting := s.waiting.filter (·.id ≠ l.id) }

/-- Adds an event to the history. -/
def record (s : Traffic) (ev : Event) : Traffic := { s with log := ev :: s.log }

/-- One act. An act on a lookup that does not wait changes nothing. -/
def step (s : Traffic) : Act → Traffic
  | .look url =>
      let l : Lookup := ⟨s.begun, url, s.cache.now⟩
      match s.cache.start url with
      | (cache, some set) =>
          { s with cache, begun := s.begun + 1 }.record (.hit l s.cache.now set)
      | (cache, none) =>
          if s.cutOff then
            { s with cache, begun := s.begun + 1 }.answer l (.error (Store.cutOffFault url))
          else
            { s with
              cache
              begun := s.begun + 1
              asked := s.asked + 1
              waiting := l :: s.waiting }
  | .reply id r =>
      match s.waiting.find? (·.id = id) with
      | none => s
      | some l => ((s.leave l).record (.fetched l s.cache.now r)).answer l r
  | .timeOut id =>
      match s.waiting.find? (·.id = id) with
      | none => s
      | some l => (s.leave l).answer l (.error (.timeout l.url s.cache.config.fetchTimeout))
  | .abandon id =>
      match s.waiting.find? (·.id = id) with
      | none => s
      | some l => (s.leave l).record (.abandoned l s.cache.now)
  | .pass span => { s with cache := s.cache.advance span }
  | .evict kept =>
      { s with
        cache := { s.cache with entries := s.cache.entries.filter (·.url ∈ kept) } }
  | .cutOff armed => { s with cutOff := armed }

/-- The traffic after some acts, one behind the other. -/
def run (s : Traffic) (acts : List Act) : Traffic := acts.foldl step s

@[simp] theorem run_cons (s : Traffic) (a : Act) (acts : List Act) :
    s.run (a :: acts) = (s.step a).run acts := rfl

@[simp] theorem run_nil (s : Traffic) : s.run [] = s := rfl

theorem run_append (s : Traffic) (as bs : List Act) : s.run (as ++ bs) = (s.run as).run bs := by
  simp [run]

/-- What one act can do, case by case. -/
inductive Moves (s : Traffic) : Act → Traffic → Prop where
  | hit {url : String} {set : KeySet} (hfind : s.cache.lookup? url = some set) :
      Moves s (.look url) { s with
        cache := s.cache.countHit
        begun := s.begun + 1
        log := .hit ⟨s.begun, url, s.cache.now⟩ s.cache.now set :: s.log }
  | cut {url : String} (hfind : s.cache.lookup? url = none) (hcut : s.cutOff = true) :
      Moves s (.look url) { s with
        cache := s.cache.countMiss.countError
        begun := s.begun + 1
        log := .missed ⟨s.begun, url, s.cache.now⟩ s.cache.now
          (.error (Store.cutOffFault url)) :: s.log }
  | wait {url : String} (hfind : s.cache.lookup? url = none) (hcut : s.cutOff = false) :
      Moves s (.look url) { s with
        cache := s.cache.countMiss
        begun := s.begun + 1
        asked := s.asked + 1
        waiting := ⟨s.begun, url, s.cache.now⟩ :: s.waiting }
  | store {l : Lookup} (hl : l ∈ s.waiting) (keys : List Jwk) :
      Moves s (.reply l.id (.ok keys)) { s with
        cache := s.cache.insert l.url ⟨l.url, keys⟩
        waiting := s.waiting.filter (·.id ≠ l.id)
        log := .missed l s.cache.now (.ok ⟨l.url, keys⟩) ::
          .fetched l s.cache.now (.ok keys) :: s.log }
  | fail {l : Lookup} (hl : l ∈ s.waiting) (f : Fault) :
      Moves s (.reply l.id (.error f)) { s with
        cache := s.cache.countError
        waiting := s.waiting.filter (·.id ≠ l.id)
        log := .missed l s.cache.now (.error f) ::
          .fetched l s.cache.now (.error f) :: s.log }
  | late {l : Lookup} (hl : l ∈ s.waiting) :
      Moves s (.timeOut l.id) { s with
        cache := s.cache.countError
        waiting := s.waiting.filter (·.id ≠ l.id)
        log := .missed l s.cache.now
          (.error (.timeout l.url s.cache.config.fetchTimeout)) :: s.log }
  | abandon {l : Lookup} (hl : l ∈ s.waiting) :
      Moves s (.abandon l.id) { s with
        waiting := s.waiting.filter (·.id ≠ l.id)
        log := .abandoned l s.cache.now :: s.log }
  | pass (span : Nat) : Moves s (.pass span) { s with cache := s.cache.advance span }
  | evict (kept : List String) :
      Moves s (.evict kept) { s with
        cache := { s.cache with entries := s.cache.entries.filter (·.url ∈ kept) } }
  | arm (armed : Bool) : Moves s (.cutOff armed) { s with cutOff := armed }
  | idle {a : Act} {id : Nat} (hid : a.id? = some id) (hwait : ∀ l ∈ s.waiting, l.id ≠ id) :
      Moves s a s

/-- The lookup with a number, if it waits. -/
theorem find?_waiting (s : Traffic) (id : Nat) :
    (s.waiting.find? (·.id = id) = none ∧ ∀ l ∈ s.waiting, l.id ≠ id) ∨
      ∃ l ∈ s.waiting, l.id = id ∧ s.waiting.find? (·.id = id) = some l := by
  cases hfind : s.waiting.find? (·.id = id) with
  | none =>
      refine .inl ⟨rfl, ?_⟩
      intro l hl
      simpa using List.find?_eq_none.mp hfind l hl
  | some l =>
      exact .inr ⟨l, List.mem_of_find?_eq_some hfind, by simpa using List.find?_some hfind, rfl⟩

theorem step_moves (s : Traffic) (a : Act) : s.Moves a (s.step a) := by
  cases a with
  | look url =>
      cases hfind : s.cache.lookup? url with
      | some set =>
          simp only [step, Cache.start, hfind]
          exact .hit hfind
      | none =>
          cases hcut : s.cutOff with
          | true =>
              simp only [step, Cache.start, hfind, hcut, if_true]
              exact hcut ▸ .cut hfind hcut
          | false =>
              simp only [step, Cache.start, hfind, hcut, Bool.false_eq_true, if_false]
              exact hcut ▸ .wait hfind hcut
  | reply id r =>
      rcases s.find?_waiting id with ⟨hfind, hnone⟩ | ⟨l, hl, rfl, hfind⟩
      · simp only [step, hfind]
        exact .idle rfl hnone
      · simp only [step, hfind]
        cases r with
        | ok keys => exact .store hl keys
        | error f => exact .fail hl f
  | timeOut id =>
      rcases s.find?_waiting id with ⟨hfind, hnone⟩ | ⟨l, hl, rfl, hfind⟩
      · simp only [step, hfind]
        exact .idle rfl hnone
      · simp only [step, hfind]
        exact .late hl
  | abandon id =>
      rcases s.find?_waiting id with ⟨hfind, hnone⟩ | ⟨l, hl, rfl, hfind⟩
      · simp only [step, hfind]
        exact .idle rfl hnone
      · simp only [step, hfind]
        exact .abandon hl
  | pass span => exact .pass span
  | evict kept => exact .evict kept
  | cutOff armed => exact .arm armed

end Traffic

end SbomGate.Keys
