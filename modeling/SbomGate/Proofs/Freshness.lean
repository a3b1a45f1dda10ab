import SbomGate.Proofs.Traffic
/-!
# SbomGate.Proofs.Freshness

**Freshness and isolation** of the key sets that a cache hands out, in every
state that traffic can bring about.

The invariant `Traffic.Sound` has three parts. What is stored for a place is the
whole of what the last successful fetch of that place returned (`Mirrors`);
lookups that wait have no history yet, so no lookup has two fetches or two
answers (`Numbered`); and every answer in the history is accounted for by what
stands before it (`Justified`). The last part speaks about the past only, so
neither an entry that is overwritten under a waiting lookup nor one that is let
go of does any harm to it.
-/

namespace SbomGate.Keys

open Token

/-! ## What a lookup does to the cache -/

namespace Cache

/-- What is found is stored for the place, and young enough. -/
theorem entry_of_lookup? {c : Cache} {url : String} {set : KeySet}
    (h : c.lookup? url = some set) :
    ∃ e ∈ c.entries, e.url = url ∧ e.set = set ∧ c.now - e.stored < c.config.ttl.toNanos := by
  unfold lookup? at h
  obtain ⟨e, hfind, hset⟩ := Option.map_eq_some_iff.mp h
  have hprop := List.find?_some hfind
  simp only [isFresh, Bool.and_eq_true, decide_eq_true_eq] at hprop
  exact ⟨e, List.mem_of_find?_eq_some hfind, hprop.1, hset, hprop.2⟩

end Cache

/-- The last keys that a fetch of a place returned, with the time. -/
def latest? (url : String) : List Event → Option (Nat × List Jwk)
  | [] => none
  | .fetched l time (.ok keys) :: log =>
      if l.url = url then some (time, keys) else latest? url log
  | _ :: log => latest? url log

/-- What is returned last was returned by a fetch. -/
theorem fetched_of_latest? {url : String} {log : List Event} {time : Nat} {keys : List Jwk}
    (h : latest? url log = some (time, keys)) :
    ∃ l, .fetched l time (.ok keys) ∈ log ∧ l.url = url := by
  induction log with
  | nil => simp [latest?] at h
  | cons ev log ih =>
      -- only a fetch of the place that returned keys can be the last one itself
      have hrest : latest? url log = some (time, keys) →
          ∃ l, .fetched l time (.ok keys) ∈ ev :: log ∧ l.url = url := by
        intro h
        obtain ⟨l, hl, hurl⟩ := ih h
        exact ⟨l, List.mem_cons_of_mem ev hl, hurl⟩
      unfold latest? at h
      split at h
      · simp at h
      · rename_i l t ks _ heq
        cases heq
        by_cases hurl : l.url = url
        · rw [if_pos hurl] at h
          cases h
          exact ⟨l, List.mem_cons_self, hurl⟩
        · rw [if_neg hurl] at h
          exact hrest h
      · rename_i heq
        cases heq
        exact hrest h

/-- The cache has, for a place, at most the last that a fetch of it returned,
whole and at its age. -/
structure Cache.Mirrors (c : Cache) (log : List Event) : Prop where
  entry : ∀ e ∈ c.entries, e.stored ≤ c.now ∧
    ∃ keys, latest? e.url log = some (e.stored, keys) ∧ e.set = ⟨e.url, keys⟩
  urls : (c.entries.map (·.url)).Nodup

namespace Cache.Mirrors

variable {c d : Cache} {log : List Event}

/-- Letting go of entries and letting time pass leave the rest as it is. -/
theorem of_sublist (h : c.Mirrors log) (hsub : d.entries.Sublist c.entries)
    (hnow : c.now ≤ d.now) : d.Mirrors log where
  entry e he :=
    have hmirror := h.entry e (hsub.subset he)
    ⟨Nat.le_trans hmirror.1 hnow, hmirror.2⟩
  urls := h.urls.sublist (hsub.map _)

theorem counted (h : c.Mirrors log) (m : Metrics) :
    Mirrors { c with metrics := m } log :=
  h.of_sublist (List.Sublist.refl _) (Nat.le_refl _)

theorem cons {ev : Event} (h : c.Mirrors log)
    (hev : ∀ l t keys, ev ≠ .fetched l t (.ok keys)) : c.Mirrors (ev :: log) where
  entry e he := by
    have hsame : latest? e.url (ev :: log) = latest? e.url log := by
      rw [latest?]
      intro l t keys heq
      exact hev l t keys heq
    rw [hsame]
    exact h.entry e he
  urls := h.urls

/-- Storing what a fetch returned. Entries for other places stay, and their
last fetch is still the last. -/
theorem insert (h : c.Mirrors log) (l : Lookup) (keys : List Jwk) :
    (c.insert l.url ⟨l.url, keys⟩).Mirrors (.fetched l c.now (.ok keys) :: log) where
  entry e he := by
    rcases List.mem_cons.mp he with rfl | he
    · exact ⟨Nat.le_refl c.now, keys, by simp [latest?], rfl⟩
    · obtain ⟨hmem, hurl⟩ := List.mem_filter.mp he
      have hother : l.url ≠ e.url := by
        intro heq
        simp [heq] at hurl
      rw [latest?, if_neg hother]
      exact h.entry e hmem
  urls := by
    show (l.url :: (c.entries.filter (·.url ≠ l.url)).map (·.url)).Nodup
    refine List.nodup_cons.mpr ⟨?_, h.urls.sublist (List.filter_sublist.map _)⟩
    intro hmem
    obtain ⟨e, he, hurl⟩ := List.mem_map.mp hmem
    simpa [hurl] using (List.mem_filter.mp he).2

end Cache.Mirrors

/-! ## Numbers of lookups -/

/-- Lookups that wait have no history yet, and no lookup has two fetches or two
ends. -/
structure Numbered (begun : Nat) (waiting : List Lookup) (log : List Event) : Prop where
  waits : ∀ l ∈ waiting, l.id < begun ∧ ∀ ev ∈ log, ev.lookup.id ≠ l.id
  known : ∀ ev ∈ log, ev.lookup.id < begun
  fetches : (log.filterMap Event.fetchId?).Nodup
  ends : (log.filterMap Event.endId?).Nodup

/-- Numbers taken from events are those of their lookups. -/
theorem not_mem_filterMap_id {f : Event → Option Nat} {log : List Event} {i : Nat}
    (hf : ∀ {ev : Event} {j : Nat}, f ev = some j → ev.lookup.id = j)
    (h : ∀ ev ∈ log, ev.lookup.id ≠ i) : i ∉ log.filterMap f := by
  intro hmem
  obtain ⟨ev, hev, hid⟩ := List.mem_filterMap.mp hmem
  exact h ev hev (hf hid)

namespace Numbered

variable {begun : Nat} {waiting : List Lookup} {log : List Event} {l : Lookup}

theorem next (h : Numbered begun waiting log) : Numbered (begun + 1) waiting log where
  waits w hw := ⟨Nat.lt_succ_of_lt (h.waits w hw).1, (h.waits w hw).2⟩
  known ev hev := Nat.lt_succ_of_lt (h.known ev hev)
  fetches := h.fetches
  ends := h.ends

theorem wait (h : Numbered begun waiting log) (hl : l.id = begun) :
    Numbered (begun + 1) (l :: waiting) log where
  waits w hw := by
    rcases List.mem_cons.mp hw with rfl | hw
    · refine ⟨by omega, ?_⟩
      intro ev hev
      have hold := h.known ev hev
      omega
    · exact h.next.waits w hw
  known ev hev := Nat.lt_succ_of_lt (h.known ev hev)
  fetches := h.fetches
  ends := h.ends

/-- An event of a lookup that does not wait and has no event of this sort. -/
theorem record {ev : Event} (h : Numbered begun waiting log) (hid : ev.lookup.id < begun)
    (hwait : ∀ w ∈ waiting, w.id ≠ ev.lookup.id)
    (hfetch : ∀ i, ev.fetchId? = some i → i ∉ log.filterMap Event.fetchId?)
    (hend : ∀ i, ev.endId? = some i → i ∉ log.filterMap Event.endId?) :
    Numbered begun waiting (ev :: log) where
  waits w hw := by
    refine ⟨(h.waits w hw).1, ?_⟩
    intro e he
    rcases List.mem_cons.mp he with rfl | he
    · exact (hwait w hw).symm
    · exact (h.waits w hw).2 e he
  known e he := by
    rcases List.mem_cons.mp he with rfl | he
    · exact hid
    · exact h.known e he
  fetches := by
    cases hev : ev.fetchId? with
    | none => rw [List.filterMap_cons_none hev]; exact h.fetches
    | some i =>
        rw [List.filterMap_cons_some hev]
        exact List.nodup_cons.mpr ⟨hfetch i hev, h.fetches⟩
  ends := by
    cases hev : ev.endId? with
    | none => rw [List.filterMap_cons_none hev]; exact h.ends
    | some i =>
        rw [List.filterMap_cons_some hev]
        exact List.nodup_cons.mpr ⟨hend i hev, h.ends⟩

/-- A lookup without a history gets its first event. -/
theorem record_first {ev : Event} (h : Numbered begun waiting log) (hid : ev.lookup.id < begun)
    (hwait : ∀ w ∈ waiting, w.id ≠ ev.lookup.id)
    (hnew : ∀ e ∈ log, e.lookup.id ≠ ev.lookup.id) : Numbered begun waiting (ev :: log) := by
  refine h.record hid hwait ?_ ?_
  · intro i hi
    exact Event.fetchId?_eq hi ▸ not_mem_filterMap_id Event.fetchId?_eq hnew
  · intro i hi
    exact Event.endId?_eq hi ▸ not_mem_filterMap_id Event.endId?_eq hnew

/-- A lookup ends right as it begins. -/
theorem record_begun {ev : Event} (h : Numbered begun waiting log) (hid : ev.lookup.id = begun) :
    Numbered (begun + 1) waiting (ev :: log) := by
  refine h.next.record_first (by omega) ?_ ?_
  · intro w hw
    have hold := (h.waits w hw).1
    omega
  · intro e he
    have hold := h.known e he
    omega

/-- A lookup stops waiting. -/
theorem leave (h : Numbered begun waiting log) (l : Lookup) :
    Numbered begun (waiting.filter (·.id ≠ l.id)) log where
  waits w hw := h.waits w (List.mem_filter.mp hw).1
  known := h.known
  fetches := h.fetches
  ends := h.ends

theorem ne_of_leave {w : Lookup} (hw : w ∈ waiting.filter (·.id ≠ l.id)) : w.id ≠ l.id := by
  simpa using (List.mem_filter.mp hw).2

/-- A lookup stops waiting and has its first event. -/
theorem record_leave {ev : Event} (h : Numbered begun waiting log) (hl : l ∈ waiting)
    (hev : ev.lookup = l) : Numbered begun (waiting.filter (·.id ≠ l.id)) (ev :: log) := by
  subst hev
  exact (h.leave ev.lookup).record_first (h.waits _ hl).1 (fun w hw => ne_of_leave hw)
    (h.waits _ hl).2

end Numbered

/-! ## Answers that are accounted for -/

/-- What stands behind an answer in the history before it. A set from the cache
is the last that a fetch of the place returned, less than `ttl` nanoseconds
before; a set after a miss was returned by the fetch of that very lookup. -/
def Event.Justified (ttl : Nat) (older : List Event) : Event → Prop
  | .hit l t set =>
      ∃ t₀ keys, latest? l.url older = some (t₀, keys) ∧ set = ⟨l.url, keys⟩ ∧
        t₀ ≤ t ∧ t - t₀ < ttl
  | .missed l t (.ok set) =>
      ∃ keys, .fetched l t (.ok keys) ∈ older ∧ set = ⟨l.url, keys⟩
  | _ => True

/-- Every answer in the history has what stands behind it. -/
def Justified (ttl : Nat) : List Event → Prop
  | [] => True
  | ev :: older => ev.Justified ttl older ∧ Justified ttl older

theorem Justified.of_append {ttl : Nat} {newer older : List Event}
    (h : Justified ttl (newer ++ older)) : Justified ttl older := by
  induction newer with
  | nil => exact h
  | cons ev newer ih => exact ih h.2

/-- The invariant of traffic. -/
structure Traffic.Sound (s : Traffic) : Prop where
  mirrors : s.cache.Mirrors s.log
  numbered : Numbered s.begun s.waiting s.log
  justified : Justified s.cache.config.ttl.toNanos s.log

namespace Traffic


namespace Sound

variable {s : Traffic}

theorem initial {c : Cache} (hc : c.entries = []) : (Traffic.initial c).Sound where
  mirrors := ⟨by simp [Traffic.initial, hc], by simp [Traffic.initial, hc]⟩
  numbered := ⟨by simp [Traffic.initial], by simp [Traffic.initial], .nil, .nil⟩
  justified := trivial

/-- A set that is found is the last one returned for the place, and is fresh. -/
theorem hit_justified (hs : s.Sound) {url : String} {set : KeySet}
    (hfind : s.cache.lookup? url = some set) :
    Event.Justified s.cache.config.ttl.toNanos s.log
      (.hit ⟨s.begun, url, s.cache.now⟩ s.cache.now set) := by
  obtain ⟨e, he, hurl, hset, hfresh⟩ := Cache.entry_of_lookup? hfind
  obtain ⟨hpast, keys, hlatest, hwhole⟩ := hs.mirrors.entry e he
  refine ⟨e.stored, keys, hurl ▸ hlatest, ?_, hpast, hfresh⟩
  rw [← hset, hwhole, hurl]

/-- The fetch of a lookup returns and the lookup is answered: its first event and
its only end. -/
theorem numbered_reply (hs : s.Sound) {l : Lookup} (hl : l ∈ s.waiting)
    (r : Except Fault (List Jwk)) (answer : Except Fault KeySet) :
    Numbered s.begun (s.waiting.filter (·.id ≠ l.id))
      (.missed l s.cache.now answer :: .fetched l s.cache.now r :: s.log) := by
  have hfetched : Numbered s.begun (s.waiting.filter (·.id ≠ l.id))
      (.fetched l s.cache.now r :: s.log) := hs.numbered.record_leave hl rfl
  refine hfetched.record (hs.numbered.waits l hl).1 (fun w hw => Numbered.ne_of_leave hw) ?_ ?_
  · intro i hi
    simp [Event.fetchId?] at hi
  · intro i hi
    cases hi
    rw [List.filterMap_cons_none rfl]
    exact not_mem_filterMap_id Event.endId?_eq (hs.numbered.waits l hl).2

/-- One act keeps the invariant. -/
theorem move (hs : s.Sound) {a : Act} {s' : Traffic} (h : s.Moves a s') : s'.Sound := by
  have ⟨hmirrors, hnumbered, hjustified⟩ := hs
  cases h with
  | hit hfind =>
      exact
        { mirrors := (hmirrors.counted _).cons (by simp)
          numbered := hnumbered.record_begun rfl
          justified := ⟨hs.hit_justified hfind, hjustified⟩ }
  | cut hfind hcut =>
      exact
        { mirrors := (hmirrors.counted _).cons (by simp)
          numbered := hnumbered.record_begun rfl
          justified := ⟨trivial, hjustified⟩ }
  | wait hfind hcut =>
      exact
        { mirrors := hmirrors.counted _
          numbered := hnumbered.wait rfl
          justified := hjustified }
  | store hl keys =>
      -- what other lookups stored while this one waited is replaced as a whole
      exact
        { mirrors := (hmirrors.insert _ keys).cons (by simp)
          numbered := hs.numbered_reply hl _ _
          justified := ⟨⟨keys, List.mem_cons_self, rfl⟩, trivial, hjustified⟩ }
  | fail hl f =>
      exact
        { mirrors := ((hmirrors.counted _).cons (by simp)).cons (by simp)
          numbered := hs.numbered_reply hl _ _
          justified := ⟨trivial, trivial, hjustified⟩ }
  | late hl =>
      -- the fetch has not returned, so there is nothing to account for
      exact
        { mirrors := (hmirrors.counted _).cons (by simp)
          numbered := hnumbered.record_leave hl rfl
          justified := ⟨trivial, hjustified⟩ }
  | abandon hl =>
      exact
        { mirrors := hmirrors.cons (by simp)
          numbered := hnumbered.record_leave hl rfl
          justified := ⟨trivial, hjustified⟩ }
  | pass span =>
      exact
        { mirrors := hmirrors.of_sublist (List.Sublist.refl _) (Nat.le_add_right _ _)
          numbered := hnumbered
          justified := hjustified }
  | evict kept =>
      exact
        { mirrors := hmirrors.of_sublist List.filter_sublist (Nat.le_refl _)
          numbered := hnumbered
          justified := hjustified }
  | arm armed => exact ⟨hmirrors, hnumbered, hjustified⟩
  | idle hid hwait => exact ⟨hmirrors, hnumbered, hjustified⟩

/-- Any number of acts in any order keep the invariant. -/
theorem run (hs : s.Sound) (acts : List Act) : (s.run acts).Sound := by
  induction acts generalizing s with
  | nil => exact hs
  | cons a acts ih => exact ih (hs.move (s.step_moves a))

end Sound

theorem Moves.config {s s' : Traffic} {a : Act} (h : s.Moves a s') :
    s'.cache.config = s.cache.config := by
  cases h <;> rfl

theorem run_config (s : Traffic) (acts : List Act) :
    (s.run acts).cache.config = s.cache.config := by
  induction acts generalizing s with
  | nil => rfl
  | cons a acts ih => rw [run_cons, ih, (s.step_moves a).config]

/-- A cache begins without entries. -/
theorem sound_of_empty? {config : Config.Cache} {c : Cache} (h : Cache.empty? config = some c) :
    (initial c).Sound ∧ c.config = config := by
  unfold Cache.empty? at h
  split at h
  · cases h
  · cases h
    exact ⟨Sound.initial rfl, rfl⟩

/-- **Freshness and isolation**, after any acts in any order. No lookup has two
fetches, and none has two ends. Every entry is, whole, what one fetch of its place
returned when the entry was stored, and a lookup that finds a set finds an entry
that is younger than the configured span. A set from the cache is, whole, what one
fetch of the place had returned less than that span before; a set after a miss is
what the lookup's own fetch had returned. -/
theorem run_sets_whole_and_fresh {config : Config.Cache} {c : Cache}
    (h : Cache.empty? config = some c) (acts : List Act) :
    let s := (initial c).run acts
    (s.log.filterMap Event.fetchId?).Nodup ∧
    (s.log.filterMap Event.endId?).Nodup ∧
    (s.cache.entries.map (·.url)).Nodup ∧
    (∀ e ∈ s.cache.entries, e.stored ≤ s.cache.now ∧
      ∃ f keys, .fetched f e.stored (.ok keys) ∈ s.log ∧ f.url = e.url ∧
        e.set = ⟨e.url, keys⟩) ∧
    (∀ url set, (s.cache.start url).2 = some set →
      ∃ e ∈ s.cache.entries, e.url = url ∧ e.set = set ∧
        s.cache.now - e.stored < config.ttl.toNanos) ∧
    (∀ newer older l t set, s.log = newer ++ .hit l t set :: older →
      ∃ f t₀ keys, .fetched f t₀ (.ok keys) ∈ older ∧ f.url = l.url ∧ set = ⟨l.url, keys⟩ ∧
        t₀ ≤ t ∧ t - t₀ < config.ttl.toNanos) ∧
    (∀ newer older l t set, s.log = newer ++ .missed l t (.ok set) :: older →
      ∃ keys, .fetched l t (.ok keys) ∈ older ∧ set = ⟨l.url, keys⟩) := by
  intro s
  obtain ⟨hinitial, hconfig⟩ := sound_of_empty? h
  have hs : s.Sound := hinitial.run acts
  have hconfig : s.cache.config = config := (run_config _ acts).trans hconfig
  have hj : Justified config.ttl.toNanos s.log := hconfig ▸ hs.justified
  -- an answer is judged by the history before it, whatever came later
  refine ⟨hs.numbered.fetches, hs.numbered.ends, hs.mirrors.urls, ?_, ?_, ?_, ?_⟩
  · intro e he
    obtain ⟨hpast, keys, hlatest, hwhole⟩ := hs.mirrors.entry e he
    obtain ⟨f, hf, hplace⟩ := fetched_of_latest? hlatest
    exact ⟨hpast, f, keys, hf, hplace, hwhole⟩
  · intro url set hstart
    rw [← hconfig]
    cases hfind : s.cache.lookup? url with
    | none => simp [Cache.start, hfind] at hstart
    | some found =>
        simp only [Cache.start, hfind] at hstart
        cases hstart
        exact Cache.entry_of_lookup? hfind
  · intro newer older l t set hlog
    rw [hlog] at hj
    obtain ⟨t₀, keys, hlatest, hwhole, hpast, hfresh⟩ := hj.of_append.1
    obtain ⟨f, hf, hplace⟩ := fetched_of_latest? hlatest
    exact ⟨f, t₀, keys, hf, hplace, hwhole, hpast, hfresh⟩
  · intro newer older l t set hlog
    rw [hlog] at hj
    exact hj.of_append.1

/-- Two lookups of one place overlap, and their fetches return different keys. The
fetch that returns last leaves its set, and a later lookup has just that. -/
theorem run_sets_whole_and_fresh_overlap :
    let url := "https://issuer.test/jwks"
    let key (kid : String) : Jwk := ⟨none, none, none, some kid, none, none, none, none, .secret ""⟩
    let c : Cache := ⟨.standard, [], ⟨0, 0, 0⟩, 0⟩
    let s := (initial c).run
      [.look url, .look url, .reply 1 (.ok [key "a", key "b"]), .pass 7,
        .reply 0 (.ok [key "c"]), .pass 5, .look url]
    Cache.empty? .standard = some c ∧
    s.cache.entries = [⟨url, ⟨url, [key "c"]⟩, 7⟩] ∧
    (∃ older, s.log = .hit ⟨2, url, 12⟩ 12 ⟨url, [key "c"]⟩ :: older ∧
      ∃ f t₀ keys, .fetched f t₀ (.ok keys) ∈ older ∧ f.url = url ∧
        KeySet.mk url [key "c"] = ⟨url, keys⟩ ∧ t₀ ≤ 12 ∧
        12 - t₀ < Config.Cache.standard.ttl.toNanos) ∧
    (∀ e ∈ s.cache.entries, e.stored ≤ s.cache.now ∧
      ∃ f keys, .fetched f e.stored (.ok keys) ∈ s.log ∧ f.url = e.url ∧
        e.set = ⟨e.url, keys⟩) := by
  intro url key c s
  have hempty : Cache.empty? .standard = some c := if_neg (by decide)
  obtain ⟨-, -, -, hentries, -, hhits, -⟩ := run_sets_whole_and_fresh hempty
    [.look url, .look url, .reply 1 (.ok [key "a", key "b"]), .pass 7,
      .reply 0 (.ok [key "c"]), .pass 5, .look url]
  have hlast : s.log.head? = some (.hit ⟨2, url, 12⟩ 12 ⟨url, [key "c"]⟩) := rfl
  obtain ⟨older, hlog⟩ := List.head?_eq_some_iff.mp hlast
  exact ⟨hempty, rfl, ⟨older, hlog, hhits [] older _ _ _ hlog⟩, hentries⟩

end Traffic

end SbomGate.Keys
