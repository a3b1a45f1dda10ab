import Mathlib.Data.List.Dedup
import Mathlib.Data.List.Induction
import SbomGate.Proofs.Rotation
/-!
# SbomGate.Proofs.Session

**Which lookups fetch.** A session takes steps with a store: it looks up key sets,
verifies tokens, changes what the source answers, and lets time pass. Its log has
one `Visit` for every lookup.

A lookup that fetches takes time, and meanwhile what was stored for other places
grows older. So a visit has two times: by the first one it is told whether what is
stored is young enough, and by the second one how old it is itself.

Proof shape:
* `Keys.Store.Looks` — the three ways that a lookup can go.
* `InOrder` — the visits of a log come one after the other.
* `Session.Recalls` — the invariant. What the cache has for a place is the set that
  was inserted for it last, unless that is too old. So lookups can be told from the
  log alone (`Session.Recalls.lookup?_eq_some_iff`).
* `Session.Recalls.step` — a step keeps it, as long as there is room for every place
  that is looked up: then the cache lets go of nothing but what is too old.
* `Session.exists_step_of_log` — a visit is a step taken after the visits before it.
* `Session.lookup_fetches_iff` — the main result.
-/

namespace SbomGate

namespace Keys

open Token

/-! ## What a lookup comes to -/

/-- The ways that a lookup can go. -/
inductive Store.Looks (s : Store) (url : String) : Store × Except Fault KeySet → Prop where
  | hit {set : KeySet} (found : s.cache.lookup? url = some set) :
      Looks s url ({ s with cache := s.cache.countHit }, .ok set)
  | failed {source : Source} {f : Fault} (missed : s.cache.lookup? url = none)
      (count : source.count = s.source.count + if s.cutOff then 0 else 1) :
      Looks s url
        ({ s with source, cache := (s.cache.countMiss.advance s.fetchTime).countError }, .error f)
  | fetched {source : Source} {set : KeySet} (missed : s.cache.lookup? url = none)
      (count : source.count = s.source.count + if s.cutOff then 0 else 1) :
      Looks s url
        ({ s with source, cache := ((s.cache.countMiss.advance s.fetchTime).insert url set).trim },
          .ok set)

theorem Store.get_looks (s : Store) (url : String) : s.Looks url (s.get url) := by
  cases hfind : s.cache.lookup? url with
  | some set =>
      rw [get_hit hfind]
      exact .hit hfind
  | none =>
      by_cases hcut : s.cutOff = true
      · rw [get_cut hfind hcut]
        have htime : s.fetchTime = 0 := by simp [fetchTime, hcut]
        have hfailed : Looks s url
            ({ s with cache := (s.cache.countMiss.advance s.fetchTime).countError },
              .error (cutOffFault url)) := .failed hfind (by simp [hcut])
        rwa [htime, Cache.advance_zero] at hfailed
      · have hcount : (s.source.ask url).1.count = s.source.count + if s.cutOff then 0 else 1 := by
          simp [hcut, Source.ask]
        rw [get_of_start (start_asked hfind (by simpa using hcut))]
        cases Attempt.within (s.source.ask url).2 s.cache.config.fetchTimeout url with
        | error f => exact .failed hfind hcount
        | ok keys => exact .fetched hfind hcount

theorem Cache.isFresh_iff {c : Cache} {e : Entry} (hpast : e.stored ≤ c.now) :
    c.isFresh e = true ↔ c.now < e.stored + c.config.ttl.toNanos := by
  rw [isFresh, decide_eq_true_eq]
  omega

/-- With room for all entries, only those that are too old are let go of. -/
theorem Cache.mem_trim_iff {c : Cache} (hroom : c.entries.length ≤ c.config.capacity) {e : Entry} :
    e ∈ c.trim.entries ↔ e ∈ c.entries ∧ c.isFresh e = true := by
  have hfit : (c.entries.filter c.isFresh).length ≤ c.config.capacity :=
    Nat.le_trans (List.length_filter_le _ _) hroom
  show e ∈ (c.entries.filter c.isFresh).take c.config.capacity ↔ _
  rw [List.take_of_length_le hfit, List.mem_filter]

section

variable {c : Cache} {url : String} {set : KeySet}

theorem Cache.mem_insert_iff {e : Entry} :
    e ∈ (c.insert url set).entries ↔ e = ⟨url, set, c.now⟩ ∨ (e ∈ c.entries ∧ e.url ≠ url) := by
  simp [insert]

/-- A place has one entry at most. -/
theorem Cache.nodup_insert (h : (c.entries.map (·.url)).Nodup) :
    ((c.insert url set).entries.map (·.url)).Nodup := by
  refine List.nodup_cons.mpr ⟨?_, h.sublist (List.filter_sublist.map _)⟩
  simp

/-- There are no more entries than there are places for them. -/
theorem Cache.length_le_places {places : List String} (h : (c.entries.map (·.url)).Nodup)
    (hplaces : ∀ e ∈ c.entries, e.url ∈ places) : c.entries.length ≤ places.length := by
  have hsub : c.entries.map (·.url) ⊆ places := by
    intro url hurl
    obtain ⟨e, he, rfl⟩ := List.mem_map.mp hurl
    exact hplaces e he
  have hle := (List.subperm_of_subset h hsub).length_le
  rwa [List.length_map] at hle

end

end Keys

namespace Auth

open Token Keys

/-! ## Sessions -/

/-- A step of a session. -/
inductive Step where
  | get (url : String)
  /-- Looks up a key set and takes a key from it. -/
  | key (url kid : String)
  | verify (now : Int) (credential : Option String)
  | verifyToken (now : Int) (token : String)
  | publish (url : String) (keys : List Jwk)
  | withdraw (url : String)
  /-- Makes every answer of the source a failure, or undoes that. -/
  | fail (failure : Option Keys.Fault)
  /-- Sets how long the source takes to answer. -/
  | delay (span : Duration)
  /-- Sets whether fetches are cut off. -/
  | cutOff (on : Bool)
  | sleep (span : Nat)

/-- What a step comes to. -/
inductive Reply where
  | silence
  | set (r : Except Keys.Fault KeySet)
  | key (r : Except Keys.Fault VerificationKey)
  | verdict (r : Except Error VerifiedClaims)

namespace Step

/-- Takes a step with a store. -/
def perform (config : Config.Verifier) (s : Store) : Step → Store × Reply
  | get url => ((s.get url).1, .set (s.get url).2)
  | key url kid => ((s.get url).1, .key ((s.get url).2.bind (·.verificationKey kid)))
  | verify now credential =>
      ((Auth.verify config now s credential).1,
        .verdict (Auth.verify config now s credential).2)
  | verifyToken now token =>
      ((Auth.verifyToken config now s token).1, .verdict (Auth.verifyToken config now s token).2)
  | publish url keys => ({ s with source := s.source.publish url keys }, .silence)
  | withdraw url => ({ s with source := s.source.withdraw url }, .silence)
  | fail failure => ({ s with source := { s.source with failure } }, .silence)
  | delay span => ({ s with source := { s.source with delay := span } }, .silence)
  | cutOff on => ({ s with cutOff := on }, .silence)
  | sleep span => ({ s with cache := s.cache.advance span }, .silence)

/-- The place that a step looks up. A credential without a token is refused before
any lookup. -/
def url? (config : Config.Verifier) : Step → Option String
  | get url | key url _ => some url
  | verify _ credential => (bearerToken credential).toOption.map fun _ => config.keySetUrl
  | verifyToken _ _ => some config.keySetUrl
  | publish _ _ | withdraw _ | fail _ | delay _ | cutOff _ | sleep _ => none

/-- What a step comes to, when its lookup has an answer. -/
def reply (config : Config.Verifier) (answer : Except Keys.Fault KeySet) : Step → Reply
  | get _ => .set answer
  | key _ kid => .key (answer.bind (·.verificationKey kid))
  | verify now credential =>
      .verdict ((bearerToken credential).bind fun token =>
        conclude config.expectation now (bytesOf token) answer)
  | verifyToken now token => .verdict (conclude config.expectation now (bytesOf token) answer)
  | publish _ _ | withdraw _ | fail _ | delay _ | cutOff _ | sleep _ => .silence

variable {config : Config.Verifier} {a : Step} {url : String}

/-- A step that looks up a place does nothing else to the store, and what it comes to
is a matter of the answer. -/
theorem perform_of_url? (h : a.url? config = some url) (s : Store) :
    a.perform config s = ((s.get url).1, a.reply config (s.get url).2) := by
  cases a with
  | get u => cases h; rfl
  | key u kid => cases h; rfl
  | verifyToken now token =>
      cases h
      simp only [perform, verifyToken_eq, reply]
  | verify now credential =>
      cases hb : bearerToken credential with
      | error e => simp [url?, hb, Except.toOption] at h
      | ok token =>
          obtain rfl : config.keySetUrl = url := by simpa [url?, hb, Except.toOption] using h
          simp only [perform, Auth.verify, hb, verifyToken_eq, reply]
          rfl
  | publish | withdraw | fail | delay | cutOff | sleep => cases h

/-- A step that looks up nothing leaves the entries and the counts alone. -/
theorem perform_of_no_url (h : a.url? config = none) (s : Store) :
    (a.perform config s).1.cache.config = s.cache.config ∧
      (a.perform config s).1.cache.entries = s.cache.entries ∧
      s.cache.now ≤ (a.perform config s).1.cache.now ∧
      (a.perform config s).1.source.count = s.source.count := by
  cases a with
  | get | key | verifyToken => cases h
  | verify now credential =>
      cases hb : bearerToken credential with
      | ok token => simp [url?, hb, Except.toOption] at h
      | error e => simp [perform, Auth.verify, hb]
  | sleep span => exact ⟨rfl, rfl, Nat.le_add_right _ _, rfl⟩
  | publish | withdraw | fail | delay | cutOff => exact ⟨rfl, rfl, Nat.le_refl _, rfl⟩

end Step

/-- A lookup that a step made, with the store before and after it. -/
structure Visit where
  step : Step
  url : String
  before : Store
  after : Store
  reply : Reply

namespace Visit

/-- The time at which the lookup began. -/
def time (v : Visit) : Nat := v.before.cache.now

/-- The time at which the lookup ended. What it inserted was inserted then. -/
def ended (v : Visit) : Nat := v.after.cache.now

/-- What the lookup was answered with. -/
def answer (v : Visit) : Except Keys.Fault KeySet := (v.before.get v.url).2

/-- The lookup was counted as answered from the cache. -/
def Hit (v : Visit) : Prop :=
  v.after.cache.metrics.hits = v.before.cache.metrics.hits + 1

instance (v : Visit) : Decidable v.Hit := Nat.decEq _ _

/-- The set that the lookup inserted: it had to be fetched, and it was. -/
def inserted? (v : Visit) : Option KeySet := if v.Hit then none else v.answer.toOption

/-- The lookup called for no fetch: nothing was asked of the source, and it took no
time. -/
structure FromCache (v : Visit) : Prop where
  misses : v.after.cache.metrics.misses = v.before.cache.metrics.misses
  source : v.after.source = v.before.source
  ended : v.ended = v.time

/-- The lookup called for one fetch and took as long as that. The source was asked for
it once, unless it was cut off. -/
structure Fetched (v : Visit) : Prop where
  misses : v.after.cache.metrics.misses = v.before.cache.metrics.misses + 1
  hits : v.after.cache.metrics.hits = v.before.cache.metrics.hits
  count : v.after.source.count = v.before.source.count + if v.before.cutOff then 0 else 1
  ended : v.ended = v.time + v.before.fetchTime

theorem inserted?_of_hit {v : Visit} (h : v.Hit) : v.inserted? = none := if_pos h

theorem inserted?_of_not_hit {v : Visit} (h : ¬ v.Hit) : v.inserted? = v.answer.toOption :=
  if_neg h

theorem Fetched.not_hit {v : Visit} (h : v.Fetched) : ¬ v.Hit := by
  simp [Hit, h.hits]

/-- Whether a visit fetched can be seen from the source and the cache that it left. -/
theorem Fetched.of_after {v : Visit} {source : Source} {c : Cache}
    (h : v.after = { v.before with source, cache := c })
    (count : source.count = v.before.source.count + if v.before.cutOff then 0 else 1)
    (misses : c.metrics.misses = v.before.cache.metrics.misses + 1)
    (hits : c.metrics.hits = v.before.cache.metrics.hits)
    (now : c.now = v.time + v.before.fetchTime) : v.Fetched where
  misses := by rw [h]; exact misses
  hits := by rw [h]; exact hits
  count := by rw [h]; exact count
  ended := by rw [Visit.ended, h]; exact now

end Visit

/-- The visits of a log follow one another: none ends before it begins, and each one
begins when those before it are over. -/
structure InOrder (log : List Visit) : Prop where
  forward : ∀ v ∈ log, v.time ≤ v.ended
  apart : log.Pairwise fun newer older => older.ended ≤ newer.time

namespace InOrder

variable {newer older log : List Visit} {v w : Visit}

theorem cons (h : InOrder log) (hv : v.time ≤ v.ended) (hpast : ∀ w ∈ log, w.ended ≤ v.time) :
    InOrder (v :: log) where
  forward := List.forall_mem_cons.mpr ⟨hv, h.forward⟩
  apart := List.pairwise_cons.mpr ⟨hpast, h.apart⟩

theorem ended_le (h : InOrder (newer ++ v :: older)) (hw : w ∈ older) : w.ended ≤ v.time :=
  (List.pairwise_cons.mp (List.pairwise_append.mp h.apart).2.1).1 w hw

end InOrder

/-- A session: a store, and the lookups so far. -/
structure Session where
  store : Store
  /-- The lookups, the latest first. -/
  log : List Visit

namespace Session

/-- The lookup of a place by a step. -/
def visit (config : Config.Verifier) (s : Session) (a : Step) (url : String) : Visit :=
  ⟨a, url, s.store, (a.perform config s.store).1, (a.perform config s.store).2⟩

/-- Takes a step. -/
def step (config : Config.Verifier) (s : Session) (a : Step) : Session where
  store := (a.perform config s.store).1
  log :=
    match a.url? config with
    | some url => s.visit config a url :: s.log
    | none => s.log

/-- A session after some steps, one behind the other. -/
def run (config : Config.Verifier) (s : Session) (steps : List Step) : Session :=
  steps.foldl (step config) s

/-- The places that steps look up, each one once. -/
def places (config : Config.Verifier) (steps : List Step) : List String :=
  (steps.filterMap (·.url? config)).dedup

variable {config : Config.Verifier} {s : Session} {a : Step} {url : String} {log : List Visit}

theorem run_snoc (s : Session) (steps : List Step) (a : Step) :
    s.run config (steps ++ [a]) = (s.run config steps).step config a := by
  simp [run]

theorem log_step_of_url? (h : a.url? config = some url) :
    (s.step config a).log = s.visit config a url :: s.log := by
  simp only [step, h]

theorem log_step_of_no_url (h : a.url? config = none) : (s.step config a).log = s.log := by
  simp only [step, h]

/-- A visit in the log was made by a step, with what the steps before it left. -/
theorem exists_step_of_log {st : Store} {newer older : List Visit} {v : Visit} (steps : List Step)
    (h : (run config ⟨st, []⟩ steps).log = newer ++ v :: older) :
    ∃ before a after, steps = before ++ a :: after ∧ a.url? config = some v.url ∧
      (run config ⟨st, []⟩ before).log = older ∧
      v = (run config ⟨st, []⟩ before).visit config a v.url := by
  induction steps using List.reverseRecOn generalizing newer with
  | nil => simp [run] at h
  | append_singleton steps b ih =>
      rw [run_snoc] at h
      cases hurl : b.url? config with
      | none =>
          rw [log_step_of_no_url hurl] at h
          obtain ⟨before, a, after, hsteps, hvisit⟩ := ih h
          exact ⟨before, a, after ++ [b], by simp [hsteps], hvisit⟩
      | some url =>
          rw [log_step_of_url? hurl] at h
          cases newer with
          | nil =>
              obtain ⟨rfl, rfl⟩ := List.cons.inj h
              exact ⟨steps, b, [], rfl, hurl, rfl, rfl⟩
          | cons w newer =>
              obtain ⟨before, a, after, hsteps, hvisit⟩ := ih (List.cons.inj h).2
              exact ⟨before, a, after ++ [b], by simp [hsteps], hvisit⟩

/-! ## What the log says about the cache -/

/-- The set that was inserted last for a place, with the time. -/
def lastInserted? (url : String) (log : List Visit) : Option (Nat × KeySet) :=
  log.findSome? fun v => if v.url = url then v.inserted?.map (v.ended, ·) else none

theorem lastInserted?_cons_of_none {v : Visit} (h : v.inserted? = none) :
    lastInserted? url (v :: log) = lastInserted? url log := by
  simp [lastInserted?, h]

theorem lastInserted?_cons_of_ne {v : Visit} (h : v.url ≠ url) :
    lastInserted? url (v :: log) = lastInserted? url log := by
  simp [lastInserted?, h]

theorem lastInserted?_cons_self {v : Visit} {set : KeySet} (h : v.inserted? = some set) :
    lastInserted? v.url (v :: log) = some (v.ended, set) := by
  simp [lastInserted?, h]

/-- What was inserted last was inserted by a visit, and by none of those after it. -/
theorem lastInserted?_eq_some_iff {t : Nat} {set : KeySet} :
    lastInserted? url log = some (t, set) ↔
      ∃ newer w older, log = newer ++ w :: older ∧ w.url = url ∧ w.ended = t ∧
        w.inserted? = some set ∧ ∀ x ∈ newer, x.url = url → x.inserted? = none := by
  rw [lastInserted?, List.findSome?_eq_some_iff]
  simp only [ite_eq_right_iff, Option.map_eq_none_iff, Option.ite_none_right_eq_some,
    Option.map_eq_some_iff, Prod.mk.injEq]
  constructor
  · rintro ⟨newer, w, older, hlog, ⟨hurl, set', hset, ht, rfl⟩, hnewer⟩
    exact ⟨newer, w, older, hlog, hurl, ht, hset, hnewer⟩
  · rintro ⟨newer, w, older, hlog, hurl, ht, hset, hnewer⟩
    exact ⟨newer, w, older, hlog, ⟨hurl, set, hset, ht, rfl⟩, hnewer⟩

/-- The cache and the log agree. -/
structure Recalls (ttl capacity : Nat) (places : List String) (s : Session) : Prop where
  ttl_eq : s.store.cache.config.ttl.toNanos = ttl
  capacity_eq : s.store.cache.config.capacity = capacity
  /-- An entry is what was inserted last. -/
  entry : ∀ e ∈ s.store.cache.entries, lastInserted? e.url s.log = some (e.stored, e.set)
  /-- What was inserted last is still there, if it is young enough. -/
  kept : ∀ url t set, lastInserted? url s.log = some (t, set) → s.store.cache.now < t + ttl →
    ⟨url, set, t⟩ ∈ s.store.cache.entries
  urls : (s.store.cache.entries.map (·.url)).Nodup
  places : ∀ e ∈ s.store.cache.entries, e.url ∈ places
  past : ∀ v ∈ s.log, v.ended ≤ s.store.cache.now
  ordered : InOrder s.log

namespace Recalls

variable {ttl capacity : Nat} {places : List String}

theorem initial {st : Store} (h : st.cache.entries = []) :
    Recalls st.cache.config.ttl.toNanos st.cache.config.capacity places ⟨st, []⟩ where
  ttl_eq := rfl
  capacity_eq := rfl
  entry := by simp [h]
  kept := by simp [lastInserted?]
  urls := by simp [h]
  places := by simp [h]
  past := by simp
  ordered := ⟨by simp, .nil⟩

theorem time_le (h : Recalls ttl capacity places s) {t : Nat} {set : KeySet}
    (hlast : lastInserted? url s.log = some (t, set)) : t ≤ s.store.cache.now := by
  obtain ⟨newer, w, older, hlog, -, rfl, -⟩ := lastInserted?_eq_some_iff.mp hlast
  exact h.past w (by simp [hlog])

/-- What is found for a place can be told from the log. -/
theorem lookup?_eq_some_iff (h : Recalls ttl capacity places s) {set : KeySet} :
    s.store.cache.lookup? url = some set ↔
      ∃ t, lastInserted? url s.log = some (t, set) ∧ s.store.cache.now < t + ttl := by
  constructor
  · intro hfind
    obtain ⟨e, he, rfl, rfl, hfresh⟩ := Cache.entry_of_lookup? hfind
    rw [h.ttl_eq] at hfresh
    exact ⟨e.stored, h.entry e he, by omega⟩
  · rintro ⟨t, hlast, hfresh⟩
    have he := h.kept url t set hlast hfresh
    cases hfind : s.store.cache.lookup? url with
    | none =>
        rw [Cache.lookup?, Option.map_eq_none_iff, List.find?_eq_none] at hfind
        have hyoung : s.store.cache.isFresh ⟨url, set, t⟩ = true :=
          (Cache.isFresh_iff (h.time_le hlast)).mpr (h.ttl_eq ▸ hfresh)
        exact absurd (hfind _ he) (by simp [hyoung])
    | some found =>
        -- there is no other set for the place that it could be
        obtain ⟨e, he', rfl, rfl, -⟩ := Cache.entry_of_lookup? hfind
        have hsame := (h.entry e he').symm.trans hlast
        cases hsame
        rfl

/-- A step that leaves the entries alone, and adds nothing to the log about
insertions, keeps the agreement. -/
theorem of_entries (h : Recalls ttl capacity places s) {s' : Session}
    (hconfig : s'.store.cache.config = s.store.cache.config)
    (hentries : s'.store.cache.entries = s.store.cache.entries)
    (hnow : s.store.cache.now ≤ s'.store.cache.now)
    (hlast : ∀ url, lastInserted? url s'.log = lastInserted? url s.log)
    (hpast : ∀ v ∈ s'.log, v.ended ≤ s'.store.cache.now) (hordered : InOrder s'.log) :
    Recalls ttl capacity places s' where
  ttl_eq := hconfig ▸ h.ttl_eq
  capacity_eq := hconfig ▸ h.capacity_eq
  entry := by
    intro e he
    rw [hlast]
    exact h.entry e (hentries ▸ he)
  kept := by
    intro url t set ht hfresh
    rw [hlast] at ht
    rw [hentries]
    exact h.kept url t set ht (Nat.lt_of_le_of_lt hnow hfresh)
  urls := hentries ▸ h.urls
  places := hentries ▸ h.places
  past := hpast
  ordered := hordered

/-- What a fetch returned is inserted when it has taken its time, and there is room
for it. -/
theorem insert (h : Recalls ttl capacity places s) (hroom : places.length ≤ capacity)
    {v : Visit} {set : KeySet} {source : Source} {span : Nat} (hplace : v.url ∈ places)
    (htime : v.ended = s.store.cache.now + span) (hset : v.inserted? = some set)
    (hordered : InOrder (v :: s.log)) :
    Recalls ttl capacity places
      ⟨{ s.store with
          source, cache := ((s.store.cache.countMiss.advance span).insert v.url set).trim },
        v :: s.log⟩ := by
  let c := (s.store.cache.countMiss.advance span).insert v.url set
  have hurls : (c.entries.map (·.url)).Nodup := Cache.nodup_insert h.urls
  have hplaces : ∀ e ∈ c.entries, e.url ∈ places := by
    intro e he
    rcases Cache.mem_insert_iff.mp he with rfl | ⟨he, -⟩
    · exact hplace
    · exact h.places e he
  have hlength : c.entries.length ≤ c.config.capacity :=
    Nat.le_trans (Cache.length_le_places hurls hplaces) (h.capacity_eq.symm ▸ hroom)
  have hsub : c.trim.entries ⊆ c.entries := fun e he => ((Cache.mem_trim_iff hlength).mp he).1
  have hlast : ∀ url, url ≠ v.url →
      lastInserted? url (v :: s.log) = lastInserted? url s.log := fun url hne =>
    lastInserted?_cons_of_ne (Ne.symm hne)
  have hself : lastInserted? v.url (v :: s.log) = some (s.store.cache.now + span, set) := by
    rw [lastInserted?_cons_self hset, htime]
  refine ⟨h.ttl_eq, h.capacity_eq, ?_, ?_, ?_, fun e he => hplaces e (hsub he), ?_, hordered⟩
  · intro e he
    rcases Cache.mem_insert_iff.mp (hsub he) with rfl | ⟨he, hne⟩
    · exact hself
    · exact (hlast e.url hne).trans (h.entry e he)
  · intro url t last ht hfresh
    have hpresent : ⟨url, last, t⟩ ∈ c.entries ∧ t ≤ c.now := by
      by_cases hurl : url = v.url
      · subst hurl
        cases hself.symm.trans ht
        exact ⟨Cache.mem_insert_iff.mpr (.inl rfl), Nat.le_refl _⟩
      · rw [hlast url hurl] at ht
        have hlater : s.store.cache.now ≤ c.now := Nat.le_add_right _ _
        have hkept := h.kept url t last ht (Nat.lt_of_le_of_lt hlater hfresh)
        exact ⟨Cache.mem_insert_iff.mpr (.inr ⟨hkept, hurl⟩), Nat.le_trans (h.time_le ht) hlater⟩
    have hyoung := (Cache.isFresh_iff (c := c) (e := ⟨url, last, t⟩) hpresent.2).mpr
      (h.ttl_eq ▸ hfresh)
    exact (Cache.mem_trim_iff hlength).mpr ⟨hpresent.1, hyoung⟩
  · exact hurls.sublist (((List.take_sublist _ _).trans List.filter_sublist).map _)
  · intro w hw
    rcases List.mem_cons.mp hw with rfl | hw
    · exact Nat.le_of_eq htime
    · exact Nat.le_trans (h.past w hw) (Nat.le_add_right _ _)

end Recalls

/-! ## One step -/

/-- How a lookup shows in its visit, and what it leaves in the store. -/
theorem visit_cases (hurl : a.url? config = some url) :
    let v := s.visit config a url
    (∃ set, s.store.cache.lookup? url = some set ∧ v.answer = .ok set ∧ v.Hit ∧ v.FromCache ∧
      v.after = { s.store with cache := s.store.cache.countHit }) ∨
    (s.store.cache.lookup? url = none ∧ ¬ v.Hit ∧ v.Fetched ∧ ∃ source,
      let c := s.store.cache.countMiss.advance s.store.fetchTime
      (∃ f, v.answer = .error f ∧ v.after = { s.store with source, cache := c.countError }) ∨
      ∃ set, v.answer = .ok set ∧
        v.after = { s.store with source, cache := (c.insert url set).trim }) := by
  intro v
  have hafter : v.after = (s.store.get url).1 := by
    simp only [v, visit, Step.perform_of_url? hurl]
  have hanswer : v.answer = (s.store.get url).2 := rfl
  have hlooks := s.store.get_looks url
  generalize s.store.get url = p at hlooks hafter hanswer
  cases hlooks with
  | @hit set found =>
      left
      refine ⟨set, found, hanswer, ?_, ⟨?_, ?_, ?_⟩, hafter⟩
      · rw [Visit.Hit, hafter]; rfl
      · rw [hafter]; rfl
      · rw [hafter]; rfl
      · rw [Visit.ended, hafter]; rfl
  | @failed source f missed count =>
      right
      have hf : v.Fetched := .of_after hafter count rfl rfl rfl
      exact ⟨missed, hf.not_hit, hf, source, .inl ⟨f, hanswer, hafter⟩⟩
  | @fetched source set missed count =>
      right
      have hf : v.Fetched := .of_after hafter count rfl rfl rfl
      exact ⟨missed, hf.not_hit, hf, source, .inr ⟨set, hanswer, hafter⟩⟩

/-- A lookup does not end before it begins. -/
theorem time_le_ended (hurl : a.url? config = some url) :
    s.store.cache.now ≤ (s.visit config a url).ended := by
  rcases visit_cases (s := s) hurl with ⟨-, -, -, -, hcache, -⟩ | ⟨-, -, hfetched, -⟩
  · exact Nat.le_of_eq hcache.ended.symm
  · exact hfetched.ended ▸ Nat.le_add_right _ _

theorem step_of_url? (hurl : a.url? config = some url) :
    s.step config a = ⟨(s.visit config a url).after, s.visit config a url :: s.log⟩ := by
  rw [step, hurl]
  rfl

theorem step_of_no_url (hurl : a.url? config = none) :
    s.step config a = ⟨(a.perform config s.store).1, s.log⟩ := by
  rw [step, hurl]

/-- A step keeps the cache and the log in agreement. -/
theorem Recalls.step {ttl capacity : Nat} {places : List String}
    (h : Recalls ttl capacity places s) (hroom : places.length ≤ capacity)
    (hplace : ∀ url, a.url? config = some url → url ∈ places) :
    Recalls ttl capacity places (s.step config a) := by
  cases hurl : a.url? config with
  | none =>
      obtain ⟨hconfig, hentries, hnow, -⟩ := Step.perform_of_no_url hurl s.store
      rw [step_of_no_url hurl]
      exact h.of_entries hconfig hentries hnow (fun _ => rfl)
        (fun v hv => Nat.le_trans (h.past v hv) hnow) h.ordered
  | some url =>
      rw [step_of_url? hurl]
      -- time has passed by as much as the lookup took
      have hforward := time_le_ended (s := s) hurl
      have hordered : InOrder (s.visit config a url :: s.log) := h.ordered.cons hforward h.past
      have hpast : ∀ v ∈ s.visit config a url :: s.log,
          v.ended ≤ (s.visit config a url).after.cache.now := by
        intro v hv
        rcases List.mem_cons.mp hv with rfl | hv
        · exact Nat.le_refl _
        · exact Nat.le_trans (h.past v hv) hforward
      rcases visit_cases (s := s) hurl with ⟨set, -, -, hhit, -, hafter⟩ |
        ⟨-, hmiss, hfetched, source, ⟨f, hanswer, hafter⟩ | ⟨set, hanswer, hafter⟩⟩
      · rw [hafter] at hpast ⊢
        exact h.of_entries rfl rfl (Nat.le_refl _)
          (fun _ => lastInserted?_cons_of_none (Visit.inserted?_of_hit hhit)) hpast hordered
      · rw [hafter] at hpast ⊢
        have hnone : (s.visit config a url).inserted? = none := by
          rw [Visit.inserted?_of_not_hit hmiss, hanswer]
          rfl
        exact h.of_entries rfl rfl (Nat.le_add_right _ _)
          (fun _ => lastInserted?_cons_of_none hnone) hpast hordered
      · rw [hafter]
        have hset : (s.visit config a url).inserted? = some set := by
          rw [Visit.inserted?_of_not_hit hmiss, hanswer]
          rfl
        exact h.insert (v := s.visit config a url) hroom (hplace url hurl) hfetched.ended hset
          hordered

theorem Recalls.run {ttl capacity : Nat} {places : List String}
    (h : Recalls ttl capacity places s) (hroom : places.length ≤ capacity) (steps : List Step)
    (hplaces : ∀ a ∈ steps, ∀ url, a.url? config = some url → url ∈ places) :
    Recalls ttl capacity places (s.run config steps) := by
  induction steps generalizing s with
  | nil => exact h
  | cons a steps ih =>
      have hstep := h.step hroom (hplaces a List.mem_cons_self)
      exact ih hstep fun b hb => hplaces b (List.mem_cons_of_mem a hb)

/-! ## The fetches of a session -/

/-- How many lookups of a log asked the source. -/
def asked (log : List Visit) : Nat := log.countP fun v => !decide v.Hit && !v.before.cutOff

theorem count_step (s : Session) (a : Step) {n : Nat}
    (h : s.store.source.count = n + asked s.log) :
    (s.step config a).store.source.count = n + asked (s.step config a).log := by
  cases hurl : a.url? config with
  | none =>
      rw [step_of_no_url hurl]
      exact (Step.perform_of_no_url hurl s.store).2.2.2.trans h
  | some url =>
      rw [step_of_url? hurl]
      rcases visit_cases (s := s) hurl with ⟨-, -, -, hhit, hcache, -⟩ | ⟨-, hmiss, hfetched, -⟩
      · have hsame : asked (s.visit config a url :: s.log) = asked s.log := by
          simp [asked, hhit]
        show (s.visit config a url).after.source.count = _
        rw [hcache.source, hsame]
        exact h
      · have hone : asked (s.visit config a url :: s.log) =
            asked s.log + if s.store.cutOff then 0 else 1 := by
          have hbefore : (s.visit config a url).before.cutOff = s.store.cutOff := rfl
          cases hcut : s.store.cutOff <;> simp [asked, hmiss, hbefore, hcut]
        show (s.visit config a url).after.source.count = _
        rw [hfetched.count, hone, ← Nat.add_assoc, ← h]
        rfl

/-- The source is asked by the lookups that miss, and by nothing else. -/
theorem count_run (st : Store) (steps : List Step) :
    (run config ⟨st, []⟩ steps).store.source.count =
      st.source.count + asked (run config ⟨st, []⟩ steps).log := by
  induction steps using List.reverseRecOn with
  | nil => rfl
  | append_singleton steps a ih =>
      rw [run_snoc]
      exact count_step _ a ih

/-! ## Which lookups fetch -/

/-- If a set was inserted for a place, then one was inserted for it last. -/
theorem exists_lastInserted? (hordered : InOrder log) {w : Visit} {set : KeySet} (hw : w ∈ log)
    (hset : w.inserted? = some set) :
    ∃ t last, lastInserted? w.url log = some (t, last) ∧ w.ended ≤ t := by
  cases hlast : lastInserted? w.url log with
  | none =>
      rw [lastInserted?, List.findSome?_eq_none_iff] at hlast
      have hnone := hlast w hw
      simp [hset] at hnone
  | some p =>
      obtain ⟨t, last⟩ := p
      refine ⟨t, last, rfl, ?_⟩
      obtain ⟨newer, x, older, rfl, -, rfl, -, hnewer⟩ := lastInserted?_eq_some_iff.mp hlast
      rcases List.mem_append.mp hw with hw | hw
      · rw [hnewer w hw rfl] at hset
        cases hset
      · rcases List.mem_cons.mp hw with rfl | hw
        · exact Nat.le_refl _
        · exact Nat.le_trans (hordered.ended_le hw) (hordered.forward x (by simp))

/-- A lookup is a hit if what was inserted last is young enough. -/
theorem Recalls.hit_iff {ttl capacity : Nat} {places : List String}
    (h : Recalls ttl capacity places s) (hurl : a.url? config = some url) :
    (s.visit config a url).Hit ↔
      ∃ t set, lastInserted? url s.log = some (t, set) ∧ s.store.cache.now < t + ttl := by
  rcases visit_cases (s := s) hurl with ⟨set, hfind, -, hhit, -⟩ | ⟨hfind, hmiss, -⟩
  · obtain ⟨t, ht⟩ := h.lookup?_eq_some_iff.mp hfind
    exact iff_of_true hhit ⟨t, set, ht⟩
  · refine iff_of_false hmiss ?_
    rintro ⟨t, set, ht⟩
    rw [h.lookup?_eq_some_iff.mpr ⟨t, ht⟩] at hfind
    cases hfind

/-- A hit answers with what was inserted last. -/
theorem Recalls.answer_of_hit {ttl capacity : Nat} {places : List String}
    (h : Recalls ttl capacity places s) (hurl : a.url? config = some url)
    (hhit : (s.visit config a url).Hit) :
    (s.visit config a url).FromCache ∧
      ∃ t set, lastInserted? url s.log = some (t, set) ∧
        (s.visit config a url).answer = .ok set := by
  rcases visit_cases (s := s) hurl with ⟨set, hfind, hanswer, -, hcache, -⟩ | ⟨-, hmiss, -⟩
  · obtain ⟨t, ht, -⟩ := h.lookup?_eq_some_iff.mp hfind
    exact ⟨hcache, t, set, ht, hanswer⟩
  · exact absurd hhit hmiss

/-- A visit in the log found the cache and the log before it in agreement. -/
theorem exists_recalls_of_log {st : Store} (hempty : st.cache.entries = []) {steps : List Step}
    (hroom : (places config steps).length ≤ st.cache.config.capacity)
    {newer older : List Visit} {v : Visit}
    (hlog : (run config ⟨st, []⟩ steps).log = newer ++ v :: older) :
    ∃ s a, Recalls st.cache.config.ttl.toNanos st.cache.config.capacity (places config steps) s ∧
      s.log = older ∧ a.url? config = some v.url ∧ v = s.visit config a v.url := by
  obtain ⟨before, a, after, hsteps, hurl, holder, hv⟩ := exists_step_of_log steps hlog
  refine ⟨_, a, (Recalls.initial hempty).run hroom before ?_, holder, hurl, hv⟩
  intro b hb url hb'
  exact List.mem_dedup.mpr (List.mem_filterMap.mpr ⟨b, by simp [hsteps, hb], hb'⟩)

/-- Every visit of a log is explained by the visits before it. -/
structure Explained (ttl : Nat) (log : List Visit) : Prop where
  hit : ∀ newer v older, log = newer ++ v :: older →
    (v.Hit ↔ ∃ w ∈ older, w.url = v.url ∧ w.inserted?.isSome ∧ v.time < w.ended + ttl)
  answer : ∀ newer v older, log = newer ++ v :: older → v.Hit →
    v.FromCache ∧ ∃ t set, lastInserted? v.url older = some (t, set) ∧ v.answer = .ok set
  miss : ∀ newer v older, log = newer ++ v :: older → ¬ v.Hit → v.Fetched
  ordered : InOrder log

theorem Recalls.explains {ttl capacity : Nat} {places : List String}
    (h : Recalls ttl capacity places s) (hurl : a.url? config = some url) :
    (s.visit config a url).Hit ↔
      ∃ w ∈ s.log, w.url = url ∧ w.inserted?.isSome ∧ s.store.cache.now < w.ended + ttl := by
  rw [h.hit_iff hurl]
  constructor
  · rintro ⟨t, set, hlast, hfresh⟩
    obtain ⟨_, w, _, hlog, hplace, rfl, hset, -⟩ := lastInserted?_eq_some_iff.mp hlast
    exact ⟨w, by simp [hlog], hplace, by simp [hset], hfresh⟩
  · rintro ⟨w, hw, rfl, hset, hfresh⟩
    obtain ⟨set, hset⟩ := Option.isSome_iff_exists.mp hset
    obtain ⟨t, last, hlast, hle⟩ := exists_lastInserted? h.ordered hw hset
    exact ⟨t, last, hlast, by omega⟩

theorem explained_of_run (st : Store) (hempty : st.cache.entries = []) {steps : List Step}
    (hroom : (places config steps).length ≤ st.cache.config.capacity) :
    Explained st.cache.config.ttl.toNanos (run config ⟨st, []⟩ steps).log where
  hit := by
    intro newer v older hlog
    obtain ⟨s, a, hs, rfl, hurl, hv⟩ := exists_recalls_of_log hempty hroom hlog
    rw [hv]
    exact hs.explains hurl
  answer := by
    intro newer v older hlog hhit
    obtain ⟨s, a, hs, rfl, hurl, hv⟩ := exists_recalls_of_log hempty hroom hlog
    rw [hv] at hhit ⊢
    exact hs.answer_of_hit hurl hhit
  miss := by
    intro newer v older hlog hmiss
    obtain ⟨s, a, -, -, hurl, hv⟩ := exists_recalls_of_log hempty hroom hlog
    rw [hv] at hmiss ⊢
    rcases visit_cases (s := s) hurl with ⟨-, -, -, hhit, -⟩ | ⟨-, -, hfetched, -⟩
    · exact absurd hhit hmiss
    · exact hfetched
  ordered := by
    refine ((Recalls.initial hempty).run hroom steps ?_).ordered
    intro a ha url hurl
    exact List.mem_dedup.mpr (List.mem_filterMap.mpr ⟨a, ha, hurl⟩)

namespace Explained

variable {ttl : Nat} {newer older : List Visit} {v : Visit}

/-- While a set is young enough, every lookup of its place has it from the cache. -/
theorem window (h : Explained ttl log) (hlog : log = newer ++ v :: older) {set : KeySet}
    (hset : v.inserted? = some set) {x : Visit} (hx : x ∈ newer) (hplace : x.url = v.url)
    (hfresh : x.time < v.ended + ttl) : x.Hit ∧ x.FromCache ∧ x.answer = .ok set := by
  have hyoung : ∀ n₁ y n₂, newer = n₁ ++ y :: n₂ → y.url = v.url → y.time < v.ended + ttl →
      y.Hit := by
    intro n₁ y n₂ hsplit hy hyfresh
    refine (h.hit n₁ y (n₂ ++ v :: older) (by simp [hlog, hsplit])).mpr ?_
    exact ⟨v, by simp, hy.symm, by simp [hset], hyfresh⟩
  obtain ⟨n₁, n₂, hsplit⟩ := List.append_of_mem hx
  have hxlog : log = n₁ ++ x :: (n₂ ++ v :: older) := by simp [hlog, hsplit]
  have hhit : x.Hit := hyoung n₁ x n₂ hsplit hplace hfresh
  obtain ⟨hcache, t, last, hlast, hanswer⟩ := h.answer _ x _ hxlog hhit
  -- the visits in between are earlier than the lookup, so they are hits and insert nothing
  have hself : lastInserted? x.url (n₂ ++ v :: older) = some (v.ended, set) := by
    refine lastInserted?_eq_some_iff.mpr ⟨n₂, v, older, rfl, hplace.symm, rfl, hset, ?_⟩
    intro y hy hyplace
    have hordered : InOrder (n₁ ++ x :: (n₂ ++ v :: older)) := hxlog ▸ h.ordered
    have hle : y.time ≤ x.time :=
      Nat.le_trans (hordered.forward y (by simp [hy]))
        (hordered.ended_le (List.mem_append_left _ hy))
    obtain ⟨m₁, m₂, rfl⟩ := List.append_of_mem hy
    exact Visit.inserted?_of_hit (hyoung (n₁ ++ x :: m₁) y m₂ (by simp [hsplit])
      (hyplace.trans hplace) (Nat.lt_of_le_of_lt hle hfresh))
  rw [hself] at hlast
  cases hlast
  exact ⟨hhit, hcache, hanswer⟩

/-- As long as no lookup of a place succeeds, each of them calls for a fetch. -/
theorem fetched_of_failures (h : Explained ttl log) (hlog : log = newer ++ v :: older)
    (hfail : ∀ w ∈ older, w.url = v.url → ∃ f, w.answer = .error f) : v.Fetched := by
  refine h.miss newer v older hlog fun hhit => ?_
  obtain ⟨w, hw, hplace, hset, -⟩ := (h.hit newer v older hlog).mp hhit
  obtain ⟨f, hf⟩ := hfail w hw hplace
  by_cases hw' : w.Hit
  · simp [Visit.inserted?_of_hit hw'] at hset
  · simp [Visit.inserted?_of_not_hit hw', hf, Except.toOption] at hset

end Explained

/-- **Which lookups fetch**, in a session that looks up no more places than the cache
has room for. A lookup is a hit exactly when an earlier lookup of the place inserted a
set less than the time to live before, the time that delayed fetches took included. A
hit causes no fetch and answers with the set that was inserted last. Every other lookup
calls for one fetch, and nothing else ever asks the source. So while a set is young
enough all lookups of its place, by whatever steps, have it without a fetch; and as
long as none succeeds, each of them calls for one. -/
theorem lookup_fetches_iff {cacheConfig : Config.Cache} {c : Cache}
    (h : Cache.empty? cacheConfig = some c) (config : Config.Verifier) (source : Source)
    (cutOff : Bool) (steps : List Step)
    (hroom : (places config steps).length ≤ cacheConfig.capacity) :
    let s := run config ⟨⟨source, c, cutOff⟩, []⟩ steps
    let ttl := cacheConfig.ttl.toNanos
    s.store.source.count = source.count + asked s.log ∧
    ∀ newer v older, s.log = newer ++ v :: older →
      v.after = (v.before.get v.url).1 ∧
      v.reply = v.step.reply config v.answer ∧
      (v.Hit ↔ ∃ w ∈ older, w.url = v.url ∧ w.inserted?.isSome ∧ v.time < w.ended + ttl) ∧
      (v.Hit → v.FromCache ∧ ∃ between w before set, older = between ++ w :: before ∧
        w.url = v.url ∧ w.inserted? = some set ∧ v.answer = .ok set ∧
        ∀ x ∈ between, x.url = v.url → x.inserted? = none) ∧
      (¬ v.Hit → v.Fetched) ∧
      (∀ set, v.inserted? = some set → ∀ x ∈ newer, x.url = v.url → x.time < v.ended + ttl →
        x.Hit ∧ x.FromCache ∧ x.answer = .ok set) ∧
      ((∀ w ∈ older, w.url = v.url → ∃ f, w.answer = .error f) → v.Fetched) := by
  intro s ttl
  have hempty : c.entries = [] := Cache.entries_of_empty? h
  obtain rfl : c.config = cacheConfig := (Traffic.sound_of_empty? h).2
  have hs : Explained ttl s.log := explained_of_run ⟨source, c, cutOff⟩ hempty hroom
  refine ⟨count_run _ steps, ?_⟩
  intro newer v older hlog
  obtain ⟨before, a, -, -, hurl, -, hv⟩ := exists_step_of_log steps hlog
  refine ⟨?_, ?_, hs.hit newer v older hlog, ?_, hs.miss newer v older hlog,
    fun set hset x hx => hs.window hlog hset hx, hs.fetched_of_failures hlog⟩
  · rw [hv]
    simp only [visit, Step.perform_of_url? hurl]
  · rw [hv]
    simp only [visit, Step.perform_of_url? hurl, Visit.answer]
  · intro hhit
    obtain ⟨hcache, t, set, hlast, hset⟩ := hs.answer newer v older hlog hhit
    obtain ⟨between, w, before, holder, hplace, -, hw, hbetween⟩ :=
      lastInserted?_eq_some_iff.mp hlast
    exact ⟨hcache, between, w, before, set, holder, hplace, hw, hset, hbetween⟩

/-- Two sets are fetched, and the second fetch takes five seconds. In the meantime a
token without any sense is checked with the first set. Six seconds later, and although
the source has begun to fail, the second set is still young enough, since it was
inserted as its fetch ended; the first one has to be fetched again. -/
theorem lookup_fetches_iff_delayed :
    let config : Config.Verifier := ⟨"i", "u", "a"⟩
    let limits : Config.Cache := ⟨.ofSeconds 10, 4, .ofSeconds 10⟩
    let c : Cache := ⟨limits, [], ⟨0, 0, 0⟩, 0⟩
    let initial : Session := ⟨⟨.empty, c, false⟩, []⟩
    let steps : List Step := [.publish "u" [], .publish "v" [], .get "u", .delay (.ofSeconds 5),
      .verifyToken 0 "garbage", .get "v", .fail (some (.httpStatus "u" 503)), .sleep 6000000000,
      .get "v", .key "u" "k"]
    let after (n : Nat) := run config initial (steps.take n)
    let first := visit config (after 2) (.get "u") "u"
    let second := visit config (after 4) (.verifyToken 0 "garbage") "u"
    let third := visit config (after 5) (.get "v") "v"
    let fourth := visit config (after 8) (.get "v") "v"
    let fifth := visit config (after 9) (.key "u" "k") "u"
    Cache.empty? limits = some c ∧ (places config steps).length ≤ limits.capacity ∧
      (run config initial steps).log = [fifth, fourth, third, second, first] ∧
      (first.inserted? = some ⟨"u", []⟩ ∧ third.inserted? = some ⟨"v", []⟩) ∧
      (second.Hit ∧ second.FromCache ∧ second.answer = .ok ⟨"u", []⟩) ∧
      (fourth.Hit ∧ fourth.FromCache ∧ fourth.answer = .ok ⟨"v", []⟩) ∧
      (third.time + limits.ttl.toNanos < fourth.time ∧
        fourth.time < third.ended + limits.ttl.toNanos) ∧
      (¬ fifth.Hit ∧ fifth.Fetched) ∧
      (run config ⟨⟨.empty, c, false⟩, []⟩ steps).store.source.count = 3 := by
  intro config limits c initial steps after first second third fourth fifth
  have hempty : Cache.empty? limits = some c := if_neg (by decide)
  have hroom : (places config steps).length ≤ limits.capacity := by decide
  obtain ⟨hcount, hvisits⟩ := lookup_fetches_iff hempty config .empty false steps hroom
  have hlog : (run config initial steps).log = [fifth, fourth, third, second, first] := rfl
  have hfirst : first.inserted? = some ⟨"u", []⟩ := by decide +kernel
  have hthird : third.inserted? = some ⟨"v", []⟩ := by decide +kernel
  have hearly : second.time < first.ended + limits.ttl.toNanos := by decide +kernel
  have hyoung : third.time + limits.ttl.toNanos < fourth.time ∧
      fourth.time < third.ended + limits.ttl.toNanos := by decide +kernel
  have hold : ¬ fifth.Hit := by decide +kernel
  have hasked : Source.empty.count + asked [fifth, fourth, third, second, first] = 3 := by
    decide +kernel
  obtain ⟨-, -, -, -, -, hwindow, -⟩ := hvisits [fifth, fourth, third, second] first [] hlog
  obtain ⟨-, -, -, -, -, hwindow', -⟩ := hvisits [fifth, fourth] third [second, first] hlog
  obtain ⟨-, -, -, -, hmiss, -⟩ := hvisits [] fifth [fourth, third, second, first] hlog
  have hsecond : second ∈ [fifth, fourth, third, second] :=
    List.mem_append_right [fifth, fourth, third] List.mem_cons_self
  have hfourth : fourth ∈ [fifth, fourth] := List.mem_cons_of_mem _ List.mem_cons_self
  have hplace : second.url = first.url := show "u" = "u" from rfl
  have hplace' : fourth.url = third.url := show "v" = "v" from rfl
  rw [hlog] at hcount
  exact ⟨hempty, hroom, hlog, ⟨hfirst, hthird⟩, hwindow _ hfirst second hsecond hplace hearly,
    hwindow' _ hthird fourth hfourth hplace' hyoung.2, hyoung, ⟨hold, hmiss hold⟩,
    hcount.trans hasked⟩

end Session

end Auth

end SbomGate
