import SbomGate.Proofs.Failures
import SbomGate.Proofs.Session
/-!
# SbomGate.Proofs.Accounting

**The counts of a cache add up**, while lookups overlap and whatever becomes of
them.

* `Keys.Traffic.Accounts` — the counts of a cache against the history: every lookup
  that began was counted as a hit or a miss, and a miss failed, succeeded, waits, or
  was abandoned. One act keeps this (`Keys.Traffic.Accounts.move`).
* `Auth.Crowd` — traffic that comes from callers: the steps of sessions, taken while
  others wait, with the source that is asked for them. A move of a crowd is some acts
  of its traffic (`Auth.Crowd.traffic_step`), and a lookup that misses asks the source
  once, unless it is cut off (`Auth.Crowd.count_step`).
* `Auth.Crowd.exists_run_of_perform` — a step taken at once is a run of a crowd.
* `Auth.Crowd.run_accounts` — the main result.
-/

namespace SbomGate

namespace Keys

open Token

namespace Cache

theorem metrics_countHit (c : Cache) :
    c.countHit.metrics = { c.metrics with hits := c.metrics.hits + 1 } := rfl

theorem metrics_countMiss (c : Cache) :
    c.countMiss.metrics = { c.metrics with misses := c.metrics.misses + 1 } := rfl

theorem metrics_countError (c : Cache) :
    c.countError.metrics = { c.metrics with fetchErrors := c.metrics.fetchErrors + 1 } := rfl

theorem metrics_insert (c : Cache) (url : String) (set : KeySet) :
    (c.insert url set).metrics = c.metrics := rfl

theorem metrics_of_empty? {config : Config.Cache} {c : Cache} (h : empty? config = some c) :
    c.metrics = ⟨0, 0, 0⟩ := by
  unfold empty? at h
  split at h
  · cases h
  · cases h
    rfl

end Cache

namespace Event

/-- The lookup missed and was answered with a fault. -/
@[simp] def isFailure : Event → Bool
  | missed _ _ (.error _) => true
  | _ => false

/-- The lookup missed and was answered with a set. -/
@[simp] def isSuccess : Event → Bool
  | missed _ _ (.ok _) => true
  | _ => false

/-- Whether a lookup was given up. -/
@[simp] def isAbandoned : Event → Bool
  | abandoned _ _ => true
  | _ => false

end Event

/-- Whether an act begins a lookup. -/
def Act.isLook : Act → Bool
  | .look _ => true
  | _ => false

namespace Traffic

variable {s s' : Traffic} {a : Act}

/-! ## The counts against the history -/

/-- The counts agree with the history. -/
structure Accounts (s : Traffic) : Prop where
  /-- Every lookup that began was a hit or a miss. -/
  started : s.cache.metrics.hits + s.cache.metrics.misses = s.begun
  /-- The errors are the lookups that failed. -/
  failures : s.cache.metrics.fetchErrors = s.log.countP Event.isFailure
  /-- A miss failed, succeeded, waits or was abandoned. -/
  misses : s.cache.metrics.misses = s.cache.metrics.fetchErrors +
    s.log.countP Event.isSuccess + s.waiting.length + s.log.countP Event.isAbandoned

theorem Accounts.initial {c : Cache} (hc : c.metrics = ⟨0, 0, 0⟩) :
    (Traffic.initial c).Accounts := by
  constructor <;> simp [Traffic.initial, hc]

/-- One lookup leaves those that wait. -/
theorem length_leave (hnodup : (s.waiting.map (·.id)).Nodup) {l : Lookup} (hl : l ∈ s.waiting) :
    (s.waiting.filter (·.id ≠ l.id)).length + 1 = s.waiting.length := by
  have hids : (s.waiting.filter (·.id ≠ l.id)).map (·.id) =
      (s.waiting.map (·.id)).erase l.id := by
    rw [hnodup.erase_eq_filter, List.filter_map]
    congr 1
    exact List.filter_congr fun w _ => by simp [bne, beq_eq_decide]
  have hlength := congrArg List.length hids
  rw [List.length_map, List.length_erase_of_mem (List.mem_map_of_mem hl),
    List.length_map] at hlength
  have hpos := List.length_pos_of_mem hl
  omega

/-- One act keeps the counts in agreement. -/
theorem Accounts.move (hs : s.Accounts) (hnodup : (s.waiting.map (·.id)).Nodup)
    (h : s.Moves a s') : s'.Accounts := by
  obtain ⟨hstarted, hfailures, hmisses⟩ := hs
  cases h with
  | hit hfind | cut hfind hcut | wait hfind hcut =>
      constructor <;>
        simp [List.countP_cons, Cache.metrics_countHit, Cache.metrics_countMiss,
          Cache.metrics_countError] <;> omega
  | @store l hl _ | @fail l hl _ | @late l hl | @abandon l hl =>
      -- one lookup less waits, and its end is in the history instead
      have hleft := length_leave hnodup hl
      constructor <;>
        simp [List.countP_cons, Cache.metrics_countError, Cache.metrics_insert] at hleft ⊢ <;>
        omega
  | pass | evict | arm | idle => exact ⟨hstarted, hfailures, hmisses⟩

theorem accounts_of_run {config : Config.Cache} {c : Cache} (h : Cache.empty? config = some c)
    (acts : List Act) : ((initial c).run acts).Accounts := by
  have hc : c.entries = [] := Cache.entries_of_empty? h
  induction acts using List.reverseRecOn with
  | nil => exact .initial (Cache.metrics_of_empty? h)
  | append_singleton acts a ih =>
      rw [run_snoc]
      exact ih.move (nodup_waiting c hc acts) (step_moves _ a)

/-! ## Which acts count -/

theorem Moves.begun (h : s.Moves a s') :
    s'.begun = s.begun + if a.isLook then 1 else 0 := by
  cases h with
  | @idle a id hid hwait => cases a <;> first | rfl | cases hid
  | _ => rfl

theorem begun_run (s : Traffic) (acts : List Act) :
    (s.run acts).begun = s.begun + acts.countP Act.isLook := by
  induction acts generalizing s with
  | nil => rfl
  | cons a acts ih =>
      rw [run_cons, ih, (s.step_moves a).begun, List.countP_cons]
      omega

/-- What is no lookup counts neither hits nor misses. -/
theorem Moves.counts (h : s.Moves a s') (hlook : a.isLook = false) :
    s'.cache.metrics.hits = s.cache.metrics.hits ∧
      s'.cache.metrics.misses = s.cache.metrics.misses := by
  cases h with
  | hit hfind | cut hfind hcut | wait hfind hcut => cases hlook
  | _ => exact ⟨rfl, rfl⟩

theorem run_counts {acts : List Act} (hacts : ∀ a ∈ acts, a.isLook = false) :
    (s.run acts).cache.metrics.hits = s.cache.metrics.hits ∧
      (s.run acts).cache.metrics.misses = s.cache.metrics.misses := by
  induction acts generalizing s with
  | nil => exact ⟨rfl, rfl⟩
  | cons a acts ih =>
      obtain ⟨ha, hacts⟩ := List.forall_mem_cons.mp hacts
      have hstep := (s.step_moves a).counts ha
      have hrest := @ih (s.step a) hacts
      exact ⟨hrest.1.trans hstep.1, hrest.2.trans hstep.2⟩

/-- A lookup is a hit or a miss, whatever comes of it. -/
theorem metrics_look (s : Traffic) (url : String) :
    (s.step (.look url)).cache.metrics.hits =
        s.cache.metrics.hits + (if (s.cache.lookup? url).isNone then 0 else 1) ∧
      (s.step (.look url)).cache.metrics.misses =
        s.cache.metrics.misses + if (s.cache.lookup? url).isNone then 1 else 0 := by
  have hstep := s.step_moves (.look url)
  generalize s.step (.look url) = s' at hstep
  cases hstep with
  | hit hfind | cut hfind hcut | wait hfind hcut =>
      rw [hfind]
      exact ⟨rfl, rfl⟩
  | idle hid hwait => cases hid

end Traffic

/-- A lookup of a store asks the source once if it misses and is not cut off. -/
theorem Store.count_start (st : Store) (url : String) :
    (st.start url).1.source.count =
      st.source.count + if (st.cache.lookup? url).isNone && !st.cutOff then 1 else 0 := by
  cases hfind : st.cache.lookup? url with
  | some set => simp [start, Cache.start, hfind]
  | none =>
      cases hcut : st.cutOff with
      | true => simp [start, Cache.start, hfind, fetch, hcut]
      | false =>
          rw [start_asked hfind hcut]
          rfl

/-- A lookup asks the source as it begins and not again. -/
theorem Store.source_get (st : Store) (url : String) :
    (st.get url).1.source = (st.start url).1.source := by
  unfold get
  generalize st.start url = p
  obtain ⟨st', pending⟩ := p
  cases pending <;> rfl

end Keys

namespace Auth

open Token Keys

/-! ## Crowds -/

/-- Traffic that comes from callers, and the source that is asked for them. -/
structure Crowd where
  traffic : Traffic
  source : Source

namespace Crowd

/-- A crowd that has not moved yet. -/
def initial (cache : Cache) (source : Source) : Crowd := ⟨.initial cache, source⟩

/-- What the callers have in common. -/
def store (c : Crowd) : Store := ⟨c.source, c.traffic.cache, c.traffic.cutOff⟩

/-- What can happen next. -/
inductive Move where
  /-- A caller takes a step. If that looks up a place that is not in the cache, the
  caller waits. -/
  | take (a : Step)
  /-- The fetch that a caller waits for returns. -/
  | reply (id : Nat) (r : Except Keys.Fault (List Jwk))
  /-- The fetch that a caller waits for takes too long. -/
  | timeOut (id : Nat)
  /-- A caller that waits gives up. -/
  | abandon (id : Nat)
  /-- The cache lets go of what it has, except for some places. -/
  | evict (kept : List String)

namespace Move

/-- Whether a move begins a lookup. -/
def looks (config : Config.Verifier) : Move → Bool
  | take a => (a.url? config).isSome
  | _ => false

/-- What a move does to the traffic. -/
def acts (config : Config.Verifier) : Move → List Act
  | take a =>
      match a.url? config, a with
      | some url, _ => [.look url]
      | none, .sleep span => [.pass span]
      | none, .cutOff on => [.cutOff on]
      | none, _ => []
  | reply id r => [.reply id r]
  | timeOut id => [.timeOut id]
  | abandon id => [.abandon id]
  | evict kept => [.evict kept]

theorem countP_acts (config : Config.Verifier) (m : Move) :
    (m.acts config).countP Act.isLook = if m.looks config then 1 else 0 := by
  cases m with
  | take a =>
      simp only [acts, looks]
      split <;> simp_all [Act.isLook]
  | _ => rfl

end Move

/-- One move. A step that looks up nothing is taken at once; a lookup begins as it does
in the store. -/
def step (config : Config.Verifier) (c : Crowd) : Move → Crowd
  | .take a =>
      match a.url? config with
      | some url => ⟨c.traffic.step (.look url), (c.store.start url).1.source⟩
      | none =>
          let store := (a.perform config c.store).1
          ⟨{ c.traffic with cache := store.cache, cutOff := store.cutOff }, store.source⟩
  | .reply id r => { c with traffic := c.traffic.step (.reply id r) }
  | .timeOut id => { c with traffic := c.traffic.step (.timeOut id) }
  | .abandon id => { c with traffic := c.traffic.step (.abandon id) }
  | .evict kept => { c with traffic := c.traffic.step (.evict kept) }

/-- A crowd after some moves, one behind the other. -/
def run (config : Config.Verifier) (c : Crowd) (moves : List Move) : Crowd :=
  moves.foldl (step config) c

/-- Whether a move begins a lookup that is cut off. -/
def cutsOff (config : Config.Verifier) (c : Crowd) : Move → Bool
  | .take a =>
      match a.url? config with
      | some url => c.store.cutOff && (c.store.cache.lookup? url).isNone
      | none => false
  | _ => false

/-- How many lookups of a run are cut off. -/
def cuts (config : Config.Verifier) (c : Crowd) : List Move → Nat
  | [] => 0
  | m :: moves =>
      (if c.cutsOff config m then 1 else 0) + (c.step config m).cuts config moves

variable {config : Config.Verifier} {c : Crowd}

theorem run_cons (c : Crowd) (m : Move) (moves : List Move) :
    c.run config (m :: moves) = (c.step config m).run config moves := rfl

/-- A move of a crowd is some acts of its traffic. -/
theorem traffic_step (c : Crowd) (m : Move) :
    (c.step config m).traffic = c.traffic.run (m.acts config) := by
  cases m with
  | take a =>
      cases hurl : a.url? config with
      | some url => simp only [step, Move.acts, hurl]; rfl
      | none =>
          simp only [step, Move.acts, hurl]
          cases a with
          | get url | key url kid | verifyToken now token => cases hurl
          | verify now credential =>
              cases hb : bearerToken credential with
              | ok token => simp [Step.url?, hb, Except.toOption] at hurl
              | error e => simp only [Step.perform, Auth.verify, hb]; rfl
          | publish | withdraw | fail | delay | cutOff | sleep => rfl
  | _ => rfl

theorem traffic_run (c : Crowd) (moves : List Move) :
    (c.run config moves).traffic = c.traffic.run (moves.flatMap (Move.acts config)) := by
  induction moves generalizing c with
  | nil => rfl
  | cons m moves ih =>
      rw [run_cons, ih, traffic_step, List.flatMap_cons, Traffic.run_append]

theorem begun_run (c : Crowd) (moves : List Move) :
    (c.run config moves).traffic.begun = c.traffic.begun + moves.countP (·.looks config) := by
  induction moves generalizing c with
  | nil => rfl
  | cons m moves ih =>
      rw [run_cons, ih, traffic_step, Traffic.begun_run, Move.countP_acts, List.countP_cons]
      omega

/-- A move that begins no lookup counts neither hits nor misses. -/
theorem counts_step {m : Move} (h : m.looks config = false) :
    (c.step config m).store.cache.metrics.hits = c.store.cache.metrics.hits ∧
      (c.step config m).store.cache.metrics.misses = c.store.cache.metrics.misses := by
  have hacts : ∀ a ∈ m.acts config, a.isLook = false := by
    have hcount := m.countP_acts config
    rw [h, if_neg (by decide), List.countP_eq_zero] at hcount
    exact fun a ha => by simpa using hcount a ha
  show (c.step config m).traffic.cache.metrics.hits = _ ∧
    (c.step config m).traffic.cache.metrics.misses = _
  rw [traffic_step]
  exact Traffic.run_counts hacts

/-- A move asks the source as often as it misses without being cut off. -/
theorem count_step (c : Crowd) (m : Move) :
    ∃ n, (c.step config m).source.count = c.source.count + n ∧
      (c.step config m).store.cache.metrics.misses =
        c.store.cache.metrics.misses + n + if c.cutsOff config m then 1 else 0 := by
  cases m with
  | take a =>
      cases hurl : a.url? config with
      | none =>
          have hcut : c.cutsOff config (.take a) = false := by simp [cutsOff, hurl]
          have hcount : (c.step config (.take a)).source.count = c.source.count := by
            simp only [step, hurl]
            exact (Step.perform_of_no_url hurl c.store).2.2.2
          have hlooks : (Move.take a).looks config = false := by simp [Move.looks, hurl]
          refine ⟨0, hcount, ?_⟩
          rw [(counts_step hlooks).2, hcut]
          rfl
      | some url =>
          have hmisses : (c.traffic.step (.look url)).cache.metrics.misses =
              c.store.cache.metrics.misses +
                if (c.store.cache.lookup? url).isNone then 1 else 0 :=
            (c.traffic.metrics_look url).2
          simp only [step, hurl, cutsOff]
          refine ⟨_, c.store.count_start url, ?_⟩
          show (c.traffic.step (.look url)).cache.metrics.misses = _
          rw [hmisses]
          -- a hit, a miss that is cut off, and another one
          cases (c.store.cache.lookup? url).isNone <;> cases c.store.cutOff <;> rfl
  | reply | timeOut | abandon | evict => exact ⟨0, rfl, (counts_step rfl).2⟩

theorem count_run (c : Crowd) (moves : List Move) :
    ∃ n, (c.run config moves).source.count = c.source.count + n ∧
      (c.run config moves).store.cache.metrics.misses =
        c.store.cache.metrics.misses + n + c.cuts config moves := by
  induction moves generalizing c with
  | nil => exact ⟨0, rfl, rfl⟩
  | cons m moves ih =>
      obtain ⟨n, hcount, hmisses⟩ := @count_step config c m
      obtain ⟨k, hcount', hmisses'⟩ := ih (c.step config m)
      refine ⟨n + k, ?_, ?_⟩
      · rw [run_cons, hcount', hcount, Nat.add_assoc]
      · rw [run_cons, cuts, hmisses', hmisses]
        omega

/-! ## Steps taken at once -/

/-- Acts that conclude lookups are moves. -/
theorem exists_moves_of_concludes {rest : List Act} (h : ∀ a ∈ rest, a.concludes) :
    ∃ moves : List Move, (∀ m ∈ moves, m.looks config = false) ∧
      ∀ c, run config c moves = { c with traffic := c.traffic.run rest } := by
  induction rest with
  | nil => exact ⟨[], by simp, fun c => rfl⟩
  | cons a rest ih =>
      obtain ⟨ha, hrest⟩ := List.forall_mem_cons.mp h
      obtain ⟨moves, hmoves, hrun⟩ := ih hrest
      cases a with
      | pass span =>
          refine ⟨.take (.sleep span) :: moves, List.forall_mem_cons.mpr ⟨rfl, hmoves⟩, fun c => ?_⟩
          rw [run_cons, hrun]
          rfl
      | reply id r =>
          refine ⟨.reply id r :: moves, List.forall_mem_cons.mpr ⟨rfl, hmoves⟩, fun c => ?_⟩
          rw [run_cons, hrun]
          rfl
      | evict kept =>
          refine ⟨.evict kept :: moves, List.forall_mem_cons.mpr ⟨rfl, hmoves⟩, fun c => ?_⟩
          rw [run_cons, hrun]
          rfl
      | _ => cases ha

/-- A step that is taken at once is a run of a crowd: the step, and what becomes of its
lookup. -/
theorem exists_run_of_perform (hs : c.traffic.Sound) (a : Step) :
    ∃ moves, (∀ m ∈ moves, m.looks config = false) ∧
      (c.run config (.take a :: moves)).store = (a.perform config c.store).1 := by
  cases hurl : a.url? config with
  | none =>
      refine ⟨[], by simp, ?_⟩
      rw [run_cons]
      simp only [step, hurl]
      rfl
  | some url =>
      obtain ⟨rest, hrest, hcache, hcut, -⟩ :=
        @Traffic.exists_run_of_look c.traffic c.store hs rfl rfl url
      obtain ⟨moves, hmoves, hrun⟩ := exists_moves_of_concludes hrest
      refine ⟨moves, hmoves, ?_⟩
      have htake : c.step config (.take a) =
          ⟨c.traffic.step (.look url), (c.store.start url).1.source⟩ := by
        simp only [step, hurl]
      rw [Step.perform_of_url? hurl, run_cons, hrun, htake]
      show Store.mk (c.store.start url).1.source (c.traffic.run (.look url :: rest)).cache
        (c.traffic.run (.look url :: rest)).cutOff = (c.store.get url).1
      rw [hcache, hcut, ← Store.source_get]

/-! ## The credentials of verifiers -/

theorem url?_verify_of_lacking {credential : Option String}
    (h : ∀ token, credential ≠ some (scheme ++ token)) (now : Int) :
    (Step.verify now credential).url? config = none := by
  cases hb : bearerToken credential with
  | ok token => exact absurd (bearerToken_eq_ok_iff.mp hb) (h token)
  | error e => simp [Step.url?, hb, Except.toOption]

theorem url?_verify (now : Int) (token : String) :
    (Step.verify now (some (scheme ++ token))).url? config = some config.keySetUrl := by
  simp [Step.url?, bearerToken_eq_ok_iff.mpr rfl, Except.toOption]

/-- A credential without the scheme does nothing to the store. -/
theorem verify_lacking {credential : Option String}
    (h : ∀ token, credential ≠ some (scheme ++ token)) (config : Config.Verifier) (now : Int)
    (st : Store) : (Auth.verify config now st credential).1 = st := by
  cases hb : bearerToken credential with
  | ok token => exact absurd (bearerToken_eq_ok_iff.mp hb) (h token)
  | error e => simp only [Auth.verify, hb]

/-- A credential with the scheme is one lookup, whatever the verdict. -/
theorem verify_counts (config : Config.Verifier) (now : Int) (st : Store) (token : String) :
    let st' := (Auth.verify config now st (some (scheme ++ token))).1
    st'.cache.metrics.hits + st'.cache.metrics.misses =
      st.cache.metrics.hits + st.cache.metrics.misses + 1 := by
  intro st'
  have hst' : st' = (st.get config.keySetUrl).1 :=
    congrArg Prod.fst (Step.perform_of_url? (url?_verify now token) st)
  have hlooks := st.get_looks config.keySetUrl
  rw [hst']
  generalize st.get config.keySetUrl = r at hlooks
  cases hlooks with
  | hit found => exact Nat.add_right_comm _ _ _
  | failed missed count => rfl
  | fetched missed count => rfl

/-- A caller without the scheme is turned away, and nothing else happens. -/
theorem step_verify_lacking {credential : Option String}
    (h : ∀ token, credential ≠ some (scheme ++ token)) (now : Int) (c : Crowd) :
    c.step config (.take (.verify now credential)) = c := by
  have hstore : ((Step.verify now credential).perform config c.store).1 = c.store :=
    verify_lacking h config now c.store
  simp only [step, url?_verify_of_lacking h, hstore]
  rfl

/-- A caller with the scheme begins one lookup, which is a hit or a miss. -/
theorem step_verify (now : Int) (token : String) (c : Crowd) :
    let c' := c.step config (.take (.verify now (some (scheme ++ token))))
    c'.traffic.begun = c.traffic.begun + 1 ∧
      c'.store.cache.metrics.hits + c'.store.cache.metrics.misses =
        c.store.cache.metrics.hits + c.store.cache.metrics.misses + 1 := by
  intro c'
  have htraffic : c'.traffic = c.traffic.step (.look config.keySetUrl) := by
    simp only [c', step, url?_verify]
  obtain ⟨hhits, hmisses⟩ := c.traffic.metrics_look config.keySetUrl
  show c'.traffic.begun = _ ∧ c'.traffic.cache.metrics.hits + c'.traffic.cache.metrics.misses =
    c.traffic.cache.metrics.hits + c.traffic.cache.metrics.misses + 1
  rw [htraffic, hhits, hmisses]
  refine ⟨(c.traffic.step_moves (.look config.keySetUrl)).begun, ?_⟩
  split <;> omega

/-- **The counts add up**, after any moves of any callers in any order.

Every lookup that began is a hit or a miss. The errors are the lookups that failed. A
miss failed, succeeded, waits, or was abandoned, and the source was asked for it once
unless it was cut off. Of the credentials that are verified, one without the scheme
does nothing at all, and every other one is one lookup, whatever the verdict. A step
that is taken at once is among these runs. The counts are natural numbers; those of 64
bits agree with them below `2 ^ 64`. -/
theorem run_accounts {limits : Config.Cache} {cache : Cache}
    (h : Cache.empty? limits = some cache) (config : Config.Verifier) (source : Source)
    (moves : List Move) :
    let c := (initial cache source).run config moves
    let m := c.store.cache.metrics
    let log := c.traffic.log
    let cuts := (initial cache source).cuts config moves
    (m.hits + m.misses = moves.countP (·.looks config) ∧
      (log.filterMap Event.endId?).Nodup ∧
      m.fetchErrors = log.countP Event.isFailure ∧
      m.misses = m.fetchErrors + log.countP Event.isSuccess + c.traffic.waiting.length +
        log.countP Event.isAbandoned ∧
      cuts ≤ m.misses ∧ c.source.count = source.count + (m.misses - cuts)) ∧
    (∀ now credential, (∀ token, credential ≠ some (scheme ++ token)) →
      c.step config (.take (.verify now credential)) = c ∧
        ∀ st, (Auth.verify config now st credential).1 = st) ∧
    (∀ now token,
      let c' := c.step config (.take (.verify now (some (scheme ++ token))))
      c'.traffic.begun = c.traffic.begun + 1 ∧
        c'.store.cache.metrics.hits + c'.store.cache.metrics.misses = m.hits + m.misses + 1 ∧
        ∀ st, let st' := (Auth.verify config now st (some (scheme ++ token))).1
          st'.cache.metrics.hits + st'.cache.metrics.misses =
            st.cache.metrics.hits + st.cache.metrics.misses + 1) ∧
    ∀ a : Step, ∃ rest, (∀ move ∈ rest, move.looks config = false) ∧
      (c.run config (.take a :: rest)).store = (a.perform config c.store).1 := by
  intro c m log cuts
  have htraffic : c.traffic =
      (Traffic.initial cache).run (moves.flatMap (Move.acts config)) := traffic_run _ moves
  have haccounts : c.traffic.Accounts := htraffic ▸ Traffic.accounts_of_run h _
  have hs : c.traffic.Sound := htraffic ▸ (Traffic.sound_of_empty? h).1.run _
  have hbegun : c.traffic.begun = moves.countP (·.looks config) :=
    (begun_run _ moves).trans (Nat.zero_add _)
  have hasked : cuts ≤ m.misses ∧ c.source.count = source.count + (m.misses - cuts) := by
    obtain ⟨n, hcount, hmisses⟩ := @count_run config (initial cache source) moves
    have hzero : (initial cache source).store.cache.metrics.misses = 0 :=
      congrArg Metrics.misses (Cache.metrics_of_empty? h)
    rw [hzero, Nat.zero_add] at hmisses
    have hless : m.misses - cuts = n := Nat.sub_eq_of_eq_add hmisses
    exact ⟨hmisses ▸ Nat.le_add_left .., hless ▸ hcount⟩
  refine ⟨⟨haccounts.started.trans hbegun, hs.numbered.ends, haccounts.failures,
    haccounts.misses, hasked⟩, ?_, ?_, fun a => exists_run_of_perform hs a⟩
  · intro now credential hlacking
    exact ⟨step_verify_lacking hlacking now c, verify_lacking hlacking config now⟩
  · intro now token c'
    obtain ⟨hone, hcounted⟩ := step_verify now token c
    exact ⟨hone, hcounted, fun st => verify_counts config now st token⟩

/-- Two lookups of one place overlap. One is answered and the other one is given up; then
a lookup is answered from the cache, and one of another place is cut off. -/
theorem run_accounts_overlap :
    let config : Config.Verifier := ⟨"i", "u", "a"⟩
    let cache : Cache := ⟨.standard, [], ⟨0, 0, 0⟩, 0⟩
    let start := initial cache .empty
    let moves : List Move := [.take (.get "u"), .take (.key "u" "k"), .reply 0 (.ok []),
      .abandon 1, .take (.get "u"), .take (.cutOff true), .take (.get "v")]
    let c := start.run config moves
    let m := c.store.cache.metrics
    Cache.empty? .standard = some cache ∧
      m = ⟨1, 3, 1⟩ ∧ moves.countP (·.looks config) = 4 ∧ start.cuts config moves = 1 ∧
      m.hits + m.misses = moves.countP (·.looks config) ∧
      c.source.count = Source.empty.count + (m.misses - start.cuts config moves) ∧
      c.step config (.take (.verify 0 none)) = c ∧
      (c.step config (.take (.verify 0 (some (scheme ++ "t"))))).traffic.begun =
        c.traffic.begun + 1 := by
  intro config cache start moves c m
  have hempty : Cache.empty? .standard = some cache := if_neg (by decide)
  obtain ⟨⟨hlooks, -, -, -, -, hcount⟩, hlacking, hbearer, -⟩ :=
    run_accounts hempty config .empty moves
  have hnone : ∀ token, (none : Option String) ≠ some (scheme ++ token) := by simp
  have hmetrics : m = ⟨1, 3, 1⟩ := by decide +kernel
  have hfour : moves.countP (·.looks config) = 4 := by decide +kernel
  have hone : start.cuts config moves = 1 := by decide +kernel
  -- the counts of the theorem are those of the run as they stand, nothing is computed
  with_reducible exact ⟨hempty, hmetrics, hfour, hone, hlooks, hcount, (hlacking 0 none hnone).1,
    (hbearer 0 "t").1⟩

end Crowd

end Auth

end SbomGate
