import SbomGate.Proofs.Freshness
/-!
# SbomGate.Proofs.StoreLookup

The lookups of a `Store` **are traffic**: from start to end, a lookup is a few
acts, and its answer is the answer in the history. What the cache lets go of by
itself when there is too much in it is one of the choices that it has.
-/

namespace SbomGate.Keys

open Token

/-- Parts of a list without repetitions can be told by their values. -/
theorem filter_mem_map_of_sublist {α β : Type} [DecidableEq β] {f : α → β} {l₁ l₂ : List α}
    (hsub : l₁.Sublist l₂) (hnodup : (l₂.map f).Nodup) :
    l₂.filter (fun a => f a ∈ l₁.map f) = l₁ := by
  induction hsub with
  | slnil => rfl
  | cons a hsub ih =>
      rw [List.map_cons, List.nodup_cons] at hnodup
      rw [List.filter_cons_of_neg, ih hnodup.2]
      intro hmem
      exact hnodup.1 ((hsub.map f).subset (of_decide_eq_true hmem))
  | cons_cons a hsub ih =>
      rw [List.map_cons, List.nodup_cons] at hnodup
      rw [List.filter_cons_of_pos (by simp)]
      congr 1
      refine Eq.trans (List.filter_congr ?_) (ih hnodup.2)
      intro b hb
      have hne : f b ≠ f a := by
        intro heq
        exact hnodup.1 (heq ▸ List.mem_map_of_mem hb)
      simp [hne]

/-- What the cache lets go of by itself is a choice among its entries. -/
theorem Cache.trim_eq_filter {c : Cache} (h : (c.entries.map (·.url)).Nodup) :
    c.trim =
      { c with entries := c.entries.filter (·.url ∈ c.trim.entries.map (·.url)) } := by
  have hsub : c.trim.entries.Sublist c.entries :=
    (List.take_sublist _ _).trans List.filter_sublist
  rw [filter_mem_map_of_sublist hsub h]
  rfl

theorem Cache.advance_zero (c : Cache) : c.advance 0 = c := rfl

namespace Store

variable {st : Store} {url : String}

theorem get_hit {set : KeySet} (hfind : st.cache.lookup? url = some set) :
    st.get url = ({ st with cache := st.cache.countHit }, .ok set) := by
  simp [get, start, Cache.start, hfind, await, finish]

theorem get_cut (hfind : st.cache.lookup? url = none) (hcut : st.cutOff = true) :
    st.get url =
      ({ st with cache := st.cache.countMiss.countError }, .error (cutOffFault url)) := by
  simp [get, start, Cache.start, hfind, fetch, hcut, await, fetchTime, Cache.advance, finish,
    Cache.finish, Cache.settle, Cache.countMiss]

theorem fetch_asked (hcut : st.cutOff = false) :
    st.fetch url =
      ({ st with source := (st.source.ask url).1 },
        (st.source.ask url).2.within st.cache.config.fetchTimeout url) := by
  rw [fetch, hcut, if_neg (by decide)]

theorem start_asked (hfind : st.cache.lookup? url = none) (hcut : st.cutOff = false) :
    st.start url =
      ({ st with source := (st.source.ask url).1, cache := st.cache.countMiss },
        .inr ((st.source.ask url).2.within st.cache.config.fetchTimeout url)) := by
  have hfetch : fetch { st with cache := st.cache.countMiss } url = _ := fetch_asked hcut
  simp only [start, Cache.start, hfind, hfetch]
  rfl

/-- A lookup that misses ends when its fetch has taken its time. -/
theorem get_of_start {st' : Store} {r : Except Fault (List Jwk)}
    (h : st.start url = (st', .inr r)) :
    let c := st'.cache.advance st'.fetchTime
    st.get url = ({ st' with cache := (c.finish url r).1 }, (c.finish url r).2) := by
  unfold get
  rw [h]
  rfl

end Store

/-- The act can belong to the conclusion of a lookup that waits: its fetch takes its
time, the fetch returns, or the cache makes room for what it stored. -/
def Act.concludes : Act → Bool
  | .pass _ | .reply _ _ | .evict _ => true
  | _ => false

namespace Traffic

variable {s : Traffic} {url : String}

/-- No time at all changes nothing. -/
theorem step_pass_zero (s : Traffic) : s.step (.pass 0) = s := rfl

/-- A lookup misses, and its fetch returns after some time. -/
theorem run_look_reply (hfind : s.cache.lookup? url = none) (hcut : ¬s.cutOff = true)
    (span : Nat) (r : Except Fault (List Jwk)) :
    let c := s.cache.countMiss.advance span
    s.run [.look url, .pass span, .reply s.begun r] = { s with
      cache := (c.settle url r).1
      begun := s.begun + 1
      asked := s.asked + 1
      waiting := (Lookup.mk s.begun url s.cache.now :: s.waiting).filter (·.id ≠ s.begun)
      log := .missed ⟨s.begun, url, s.cache.now⟩ c.now (c.settle url r).2 ::
        .fetched ⟨s.begun, url, s.cache.now⟩ c.now r :: s.log } := by
  intro c
  have hlook : s.step (.look url) = { s with
      cache := s.cache.countMiss
      begun := s.begun + 1
      asked := s.asked + 1
      waiting := ⟨s.begun, url, s.cache.now⟩ :: s.waiting } := by
    simp only [step, Cache.start, hfind, if_neg hcut]
  have hwaits : (Lookup.mk s.begun url s.cache.now :: s.waiting).find? (·.id = s.begun) =
      some ⟨s.begun, url, s.cache.now⟩ := List.find?_cons_of_pos (by simp)
  rw [run_cons, run_cons, run_cons, run_nil, hlook]
  simp only [step, hwaits]
  rfl

/-- A lookup of a store, from start to end, is a lookup that begins, and what becomes of
it. Its answer is an event. -/
theorem exists_run_of_look {st : Store} (hs : s.Sound) (hcache : s.cache = st.cache)
    (hcut : s.cutOff = st.cutOff) (url : String) :
    ∃ rest, (∀ a ∈ rest, a.concludes) ∧
      (s.run (.look url :: rest)).cache = (st.get url).1.cache ∧
      (s.run (.look url :: rest)).cutOff = (st.get url).1.cutOff ∧
      ∃ ev ∈ (s.run (.look url :: rest)).log, ev.lookup = ⟨s.begun, url, s.cache.now⟩ ∧
        ev.answer? = some (st.get url).2 := by
  obtain ⟨source, cache, off⟩ := st
  obtain rfl : s.cache = cache := hcache
  obtain rfl : s.cutOff = off := hcut
  cases hfind : s.cache.lookup? url with
  | some set =>
      refine ⟨[], by simp, ?_⟩
      rw [Store.get_hit hfind, run_cons, run_nil]
      simp only [step, Cache.start, hfind]
      exact ⟨rfl, rfl, _, List.mem_cons_self, rfl, rfl⟩
  | none =>
      by_cases hoff : s.cutOff = true
      · refine ⟨[], by simp, ?_⟩
        rw [Store.get_cut hfind hoff, run_cons, run_nil]
        simp only [step, Cache.start, hfind, if_pos hoff]
        exact ⟨rfl, rfl, _, List.mem_cons_self, rfl, rfl⟩
      · rw [Store.get_of_start (Store.start_asked hfind (by simpa using hoff))]
        generalize Attempt.within _ _ _ = r
        let span := Store.fetchTime ⟨source, s.cache, s.cutOff⟩
        have hrun := run_look_reply hfind hoff span r
        cases r with
        | error f =>
            refine ⟨[.pass span, .reply s.begun (.error f)], by simp [Act.concludes], ?_⟩
            rw [hrun]
            exact ⟨rfl, rfl, _, List.mem_cons_self, rfl, rfl⟩
        | ok keys =>
            -- what the cache lets go of by itself is one of the choices it has
            let stored := (s.cache.countMiss.advance span).insert url ⟨url, keys⟩
            have hurls : (stored.entries.map (·.url)).Nodup := by
              have hsound := hs.run [.look url, .pass span, .reply s.begun (.ok keys)]
              rw [hrun] at hsound
              exact hsound.mirrors.urls
            refine ⟨[.pass span, .reply s.begun (.ok keys)] ++
              [.evict (stored.trim.entries.map (·.url))], by simp [Act.concludes], ?_⟩
            rw [← List.cons_append, run_append, hrun]
            exact ⟨(Cache.trim_eq_filter hurls).symm, rfl, _, List.mem_cons_self, rfl, rfl⟩

/-- A lookup of a store, from start to end, is made of acts, and its answer is an
event. -/
theorem exists_run_of_get {st : Store} (hs : s.Sound) (hcache : s.cache = st.cache)
    (hcut : s.cutOff = st.cutOff) (url : String) :
    ∃ acts, (s.run acts).cache = (st.get url).1.cache ∧
      (s.run acts).cutOff = (st.get url).1.cutOff ∧
      ∃ ev ∈ (s.run acts).log, ev.lookup = ⟨s.begun, url, s.cache.now⟩ ∧
        ev.answer? = some (st.get url).2 := by
  obtain ⟨rest, -, hrun⟩ := exists_run_of_look hs hcache hcut url
  exact ⟨.look url :: rest, hrun⟩

end Traffic

end SbomGate.Keys
