import SbomGate.Proofs.Rotation
/-!
# SbomGate.Proofs.Failures

**Lookups that fail change no entry**, and the last success wins.

Proof shape:
* `Traffic.Moves.stores_or_keeps` — one act in three cases. A fetch returns keys to
  a lookup that waits, and they are stored; entries are let go of; or the entries
  stay as they are. Only in the first case a success is recorded.
* `Traffic.recent_of_run` — so an entry is always the last success of its place.
* `Traffic.Fails` — the three ways in which an act fails a lookup. The failures in a
  history are just these (`Traffic.failed_iff`), which tells the fault of each.
* `Traffic.answered_of_reply` — whatever failed before, a lookup that gets keys
  succeeds.
-/

namespace SbomGate.Keys

open Token

/-! ## Successes -/

/-- The set that a lookup of a place was answered with after it missed, with the time,
if the event is such an answer. -/
def Event.success? (url : String) : Event → Option (Nat × KeySet)
  | missed l t (.ok set) => if l.url = url then some (t, set) else none
  | _ => none

theorem Event.success?_eq_some_iff {ev : Event} {url : String} {t : Nat} {set : KeySet} :
    ev.success? url = some (t, set) ↔ ∃ l, ev = .missed l t (.ok set) ∧ l.url = url := by
  cases ev with
  | missed l time r =>
      cases r with
      | error f => simp [success?]
      | ok found =>
          simp only [success?, Option.ite_none_right_eq_some, Option.some.injEq, Prod.mk.injEq,
            missed.injEq, Except.ok.injEq]
          constructor
          · rintro ⟨hurl, rfl, rfl⟩
            exact ⟨l, ⟨rfl, rfl, rfl⟩, hurl⟩
          · rintro ⟨_, ⟨rfl, rfl, rfl⟩, hurl⟩
            exact ⟨hurl, rfl, rfl⟩
  | _ => simp [success?]

/-- The last success in the lookups of a place. -/
def lastSuccess? (url : String) (log : List Event) : Option (Nat × KeySet) :=
  log.findSome? (Event.success? url)

theorem lastSuccess?_eq_some {url : String} {log : List Event} {t : Nat} {set : KeySet}
    (h : lastSuccess? url log = some (t, set)) :
    ∃ newer l older, log = newer ++ .missed l t (.ok set) :: older ∧ l.url = url ∧
      ∀ l' t' set', .missed l' t' (.ok set') ∈ newer → l'.url ≠ url := by
  obtain ⟨newer, ev, older, rfl, hev, hnewer⟩ := List.findSome?_eq_some_iff.mp h
  obtain ⟨l, rfl, hurl⟩ := Event.success?_eq_some_iff.mp hev
  refine ⟨newer, l, older, rfl, hurl, ?_⟩
  intro l' t' set' hmem hurl'
  have hsome : Event.success? url (.missed l' t' (.ok set')) = some (t', set') :=
    Event.success?_eq_some_iff.mpr ⟨l', rfl, hurl'⟩
  rw [hnewer _ hmem] at hsome
  cases hsome

theorem lastSuccess?_cons (url : String) (ev : Event) (log : List Event) :
    lastSuccess? url (ev :: log) = (ev.success? url).or (lastSuccess? url log) := by
  rw [lastSuccess?, List.findSome?_cons]
  cases ev.success? url <;> rfl

/-- Events that are no successes change nothing about the last one. -/
theorem lastSuccess?_append {url : String} {new log : List Event}
    (h : ∀ ev ∈ new, ev.success? url = none) :
    lastSuccess? url (new ++ log) = lastSuccess? url log := by
  rw [lastSuccess?, List.findSome?_append, List.findSome?_eq_none_iff.mpr h]
  rfl

theorem Attempt.within_of_late (attempt : Attempt) {limit : Duration}
    (h : limit.toNanos < attempt.delay.toNanos) (url : String) :
    attempt.within limit url = .error (.timeout url limit) := if_pos h

theorem Attempt.within_of_timely (attempt : Attempt) {limit : Duration}
    (h : attempt.delay.toNanos ≤ limit.toNanos) (url : String) :
    attempt.within limit url = attempt.result := if_neg (Nat.not_lt.mpr h)

/-- The end of a wait for a fetch that takes as long as it does. -/
def Act.ofAttempt (limit : Duration) (id : Nat) (attempt : Attempt) : Act :=
  if limit.toNanos < attempt.delay.toNanos then .timeOut id else .reply id attempt.result

namespace Traffic

variable {s s' : Traffic} {a : Act}

/-- An act stores the keys that a fetch returned to a lookup that waits, which is a
success; or it is none, and leaves the entries alone unless it lets go of some. -/
theorem Moves.stores_or_keeps (h : s.Moves a s') :
    (∃ l ∈ s.waiting, ∃ keys, a = .reply l.id (.ok keys) ∧
      s'.cache.entries = (s.cache.insert l.url ⟨l.url, keys⟩).entries ∧
      s'.log = .missed l s.cache.now (.ok ⟨l.url, keys⟩) ::
        .fetched l s.cache.now (.ok keys) :: s.log) ∨
    (s'.cache.entries = s.cache.entries ∨
      ∃ kept, a = .evict kept ∧ s'.cache.entries = s.cache.entries.filter (·.url ∈ kept)) ∧
    ∃ new, s'.log = new ++ s.log ∧ ∀ ev ∈ new, ∀ url, ev.success? url = none := by
  have hnil : ∀ ev ∈ ([] : List Event), ∀ url, ev.success? url = none := by simp
  cases h with
  | hit hfind => exact .inr ⟨.inl rfl, [_], rfl, by simp [Event.success?]⟩
  | cut hfind hcut => exact .inr ⟨.inl rfl, [_], rfl, by simp [Event.success?]⟩
  | wait hfind hcut => exact .inr ⟨.inl rfl, [], rfl, hnil⟩
  | store hl keys => exact .inl ⟨_, hl, keys, rfl, rfl, rfl⟩
  | fail hl f => exact .inr ⟨.inl rfl, [_, _], rfl, by simp [Event.success?]⟩
  | late hl => exact .inr ⟨.inl rfl, [_], rfl, by simp [Event.success?]⟩
  | abandon hl => exact .inr ⟨.inl rfl, [_], rfl, by simp [Event.success?]⟩
  | pass span => exact .inr ⟨.inl rfl, [], rfl, hnil⟩
  | evict kept => exact .inr ⟨.inr ⟨kept, rfl, rfl⟩, [], rfl, hnil⟩
  | arm armed => exact .inr ⟨.inl rfl, [], rfl, hnil⟩
  | idle hid hwait => exact .inr ⟨.inl rfl, [], rfl, hnil⟩

/-! ## The last success wins -/

/-- Every entry is the last success of its place. -/
def Recent (s : Traffic) : Prop :=
  ∀ e ∈ s.cache.entries, lastSuccess? e.url s.log = some (e.stored, e.set)

theorem Recent.move (hs : s.Recent) (h : s.Moves a s') : s'.Recent := by
  intro e he
  rcases h.stores_or_keeps with ⟨l, hl, keys, -, hentries, hlog⟩ | ⟨hentries, new, hlog, hnew⟩
  · rw [hentries] at he
    rw [hlog, lastSuccess?_cons, lastSuccess?_cons]
    rcases List.mem_cons.mp he with rfl | he
    · simp [Event.success?]
    · obtain ⟨hmem, hurl⟩ := List.mem_filter.mp he
      have hother : l.url ≠ e.url := by
        intro heq
        simp [heq] at hurl
      simpa [Event.success?, hother] using hs e hmem
  · have hmem : e ∈ s.cache.entries := by
      rcases hentries with hsame | ⟨kept, -, hkept⟩
      · exact hsame ▸ he
      · rw [hkept] at he
        exact (List.mem_filter.mp he).1
    rw [hlog, lastSuccess?_append fun ev hev => hnew ev hev e.url]
    exact hs e hmem

theorem recent_of_run {c : Cache} (hc : c.entries = []) (acts : List Act) :
    ((initial c).run acts).Recent := by
  induction acts using List.reverseRecOn with
  | nil => simp [Recent, Traffic.initial, hc]
  | append_singleton acts a ih =>
      rw [run_snoc]
      exact ih.move (step_moves _ a)

/-! ## Failures -/

/-- An act fails a lookup with a fault: the lookup misses while fetches are cut off,
its fetch fails, or its fetch takes too long. -/
inductive Fails (s : Traffic) : Act → Lookup → Fault → Prop where
  | cut {url : String} (hfind : s.cache.lookup? url = none) (hcut : s.cutOff = true) :
      Fails s (.look url) ⟨s.begun, url, s.cache.now⟩ (Store.cutOffFault url)
  | refused {l : Lookup} (hl : l ∈ s.waiting) (f : Fault) :
      Fails s (.reply l.id (.error f)) l f
  | late {l : Lookup} (hl : l ∈ s.waiting) :
      Fails s (.timeOut l.id) l (.timeout l.url s.cache.config.fetchTimeout)

theorem find?_of_mem_waiting (hnodup : (s.waiting.map (·.id)).Nodup) {l : Lookup}
    (hl : l ∈ s.waiting) : s.waiting.find? (·.id = l.id) = some l := by
  rcases s.find?_waiting l.id with ⟨-, hnone⟩ | ⟨w, hw, hid, hfind⟩
  · exact absurd rfl (hnone l hl)
  · rw [hfind, List.inj_on_of_nodup_map hnodup hw hl hid]

theorem step_reply (hnodup : (s.waiting.map (·.id)).Nodup) {l : Lookup} (hl : l ∈ s.waiting)
    (r : Except Fault (List Jwk)) :
    s.step (.reply l.id r) =
      ((s.leave l).record (.fetched l s.cache.now r)).answer l r := by
  simp only [step, find?_of_mem_waiting hnodup hl]

theorem step_timeOut (hnodup : (s.waiting.map (·.id)).Nodup) {l : Lookup} (hl : l ∈ s.waiting) :
    s.step (.timeOut l.id) =
      (s.leave l).answer l (.error (.timeout l.url s.cache.config.fetchTimeout)) := by
  simp only [step, find?_of_mem_waiting hnodup hl]

/-- A lookup that fails is answered with the fault, and the entries stay as they
are. -/
theorem Fails.step (h : s.Fails a l f) (hnodup : (s.waiting.map (·.id)).Nodup) :
    (s.step a).log.head? = some (.missed l s.cache.now (.error f)) ∧
      (s.step a).cache.entries = s.cache.entries := by
  cases h with
  | cut hfind hcut =>
      simp only [Traffic.step, Cache.start, hfind, hcut, if_true]
      exact ⟨rfl, rfl⟩
  | refused hl f =>
      rw [step_reply hnodup hl]
      exact ⟨rfl, rfl⟩
  | late hl =>
      rw [step_timeOut hnodup hl]
      exact ⟨rfl, rfl⟩

/-- A failure in the history was there, or is that of the last act. -/
theorem Moves.failed (h : s.Moves a s') {l : Lookup} {t : Nat} {f : Fault}
    (hf : .missed l t (.error f) ∈ s'.log) :
    .missed l t (.error f) ∈ s.log ∨ s.Fails a l f ∧ t = s.cache.now := by
  cases h with
  | hit hfind =>
      simp only [List.mem_cons, reduceCtorEq, false_or] at hf
      exact .inl hf
  | cut hfind hcut =>
      rcases List.mem_cons.mp hf with heq | hf
      · cases heq
        exact .inr ⟨.cut hfind hcut, rfl⟩
      · exact .inl hf
  | store hl keys =>
      simp only [List.mem_cons, Event.missed.injEq, reduceCtorEq, and_false, false_or] at hf
      exact .inl hf
  | fail hl f =>
      rcases List.mem_cons.mp hf with heq | hf
      · cases heq
        exact .inr ⟨.refused hl f, rfl⟩
      · simp only [List.mem_cons, reduceCtorEq, false_or] at hf
        exact .inl hf
  | late hl =>
      rcases List.mem_cons.mp hf with heq | hf
      · cases heq
        exact .inr ⟨.late hl, rfl⟩
      · exact .inl hf
  | abandon hl =>
      simp only [List.mem_cons, reduceCtorEq, false_or] at hf
      exact .inl hf
  | _ => exact .inl hf

/-- The failures in a history are the failures of lookups by acts, each at its
time. -/
theorem failed_iff {c : Cache} (hc : c.entries = []) {acts : List Act} {l : Lookup} {t : Nat}
    {f : Fault} :
    .missed l t (.error f) ∈ ((initial c).run acts).log ↔
      ∃ before a behind, acts = before ++ a :: behind ∧
        ((initial c).run before).Fails a l f ∧ t = ((initial c).run before).cache.now := by
  constructor
  · intro h
    induction acts using List.reverseRecOn with
    | nil => simp [Traffic.initial] at h
    | append_singleton acts a ih =>
        rw [run_snoc] at h
        rcases (step_moves _ a).failed h with h | ⟨hfails, ht⟩
        · obtain ⟨before, b, behind, rfl, hfails⟩ := ih h
          exact ⟨before, b, behind ++ [a], by simp, hfails⟩
        · exact ⟨acts, a, [], rfl, hfails, ht⟩
  · rintro ⟨before, a, behind, rfl, hfails, rfl⟩
    have hstep := (hfails.step (nodup_waiting c hc before)).1
    obtain ⟨new, hlog, -⟩ := run_entries (((initial c).run before).step a) behind
    rw [run_append, run_cons, hlog]
    exact List.mem_append_right _ (List.mem_of_head? hstep)

/-- A lookup that has a history does not wait, and what its fetch returns from then on
is lost. -/
theorem Sound.step_reply_of_mem_log (hs : s.Sound) {ev : Event} (hev : ev ∈ s.log)
    (r : Except Fault (List Jwk)) : s.step (.reply ev.lookup.id r) = s := by
  rcases s.find?_waiting ev.lookup.id with ⟨hfind, -⟩ | ⟨l, hl, hid, -⟩
  · simp only [Traffic.step, hfind]
  · exact absurd hid.symm ((hs.numbered.waits l hl).2 ev hev)

/-! ## Fetches that take their time -/

/-- A fetch that takes too long is a timeout, whatever it would have returned, and
leaves the entries as they are. -/
theorem step_ofAttempt_late (hnodup : (s.waiting.map (·.id)).Nodup) {l : Lookup}
    (hl : l ∈ s.waiting) {attempt : Attempt}
    (hlate : s.cache.config.fetchTimeout.toNanos < attempt.delay.toNanos) :
    (s.step (.ofAttempt s.cache.config.fetchTimeout l.id attempt)).log.head? =
        some (.missed l s.cache.now (.error (.timeout l.url s.cache.config.fetchTimeout))) ∧
      (s.step (.ofAttempt s.cache.config.fetchTimeout l.id attempt)).cache.entries =
        s.cache.entries := by
  rw [Act.ofAttempt, if_pos hlate]
  exact (Fails.late hl).step hnodup

/-! ## Success after failures -/

theorem Moves.stays (h : s.Moves a s') {l : Lookup} (hl : l ∈ s.waiting)
    (hid : a.id? ≠ some l.id) : l ∈ s'.waiting := by
  have hleave : ∀ w : Lookup, some w.id ≠ some l.id → l ∈ s.waiting.filter (·.id ≠ w.id) :=
    fun w hne => List.mem_filter.mpr ⟨hl, decide_eq_true fun heq => hne (heq ▸ rfl)⟩
  cases h with
  | wait hfind hcut => exact List.mem_cons_of_mem _ hl
  | store hw keys => exact hleave _ hid
  | fail hw f => exact hleave _ hid
  | late hw => exact hleave _ hid
  | abandon hw => exact hleave _ hid
  | _ => exact hl

theorem run_stays {acts : List Act} {l : Lookup} (hl : l ∈ s.waiting)
    (hid : ∀ a ∈ acts, a.id? ≠ some l.id) : l ∈ (s.run acts).waiting := by
  induction acts generalizing s with
  | nil => exact hl
  | cons a acts ih =>
      obtain ⟨ha, hacts⟩ := List.forall_mem_cons.mp hid
      exact ih ((s.step_moves a).stays hl ha) hacts

/-- A lookup that is not cut off and gets keys is answered with a set, whatever else
happens while it waits. -/
theorem answered_of_reply {c : Cache} (hc : c.entries = []) {acts mid : List Act}
    (hcut : ((initial c).run acts).cutOff = false)
    (hmid : ∀ a ∈ mid, a.id? ≠ some ((initial c).run acts).begun) (url : String)
    (keys : List Jwk) :
    let s := (initial c).run acts
    let s' := s.run (.look url :: mid ++ [.reply s.begun (.ok keys)])
    let l : Lookup := ⟨s.begun, url, s.cache.now⟩
    (∃ set, .hit l l.began set ∈ s'.log) ∨ ∃ t, .missed l t (.ok ⟨url, keys⟩) ∈ s'.log := by
  intro s s' l
  have hgrows : ∀ (s₀ : Traffic) (more : List Act), s₀.log ⊆ (s₀.run more).log := by
    intro s₀ more ev hev
    obtain ⟨new, hlog, -⟩ := run_entries s₀ more
    exact hlog ▸ List.mem_append_right _ hev
  have hs' : s' = ((s.step (.look url)).run mid).step (.reply s.begun (.ok keys)) := by
    show s.run _ = _
    rw [run_append, run_cons]
    rfl
  cases hfind : s.cache.lookup? url with
  | some set =>
      left
      refine ⟨set, ?_⟩
      have hlook : .hit l l.began set ∈ (s.step (.look url)).log := by
        simp only [step, Cache.start, hfind]
        exact List.mem_cons_self
      exact hgrows (s.step (.look url)) (mid ++ [.reply s.begun (.ok keys)]) hlook
  | none =>
      right
      have hwaits : l ∈ (s.step (.look url)).waiting := by
        simp only [step, Cache.start, hfind, show s.cutOff = false from hcut,
          Bool.false_eq_true, if_false]
        exact List.mem_cons_self
      have hstill : l ∈ ((s.step (.look url)).run mid).waiting := run_stays hwaits hmid
      have hnodup : ((((s.step (.look url)).run mid).waiting).map (·.id)).Nodup := by
        have hrun : (initial c).run (acts ++ .look url :: mid) = (s.step (.look url)).run mid := by
          rw [run_append, run_cons]
        exact hrun ▸ nodup_waiting c hc _
      refine ⟨((s.step (.look url)).run mid).cache.now, ?_⟩
      rw [hs', show Act.reply s.begun (.ok keys) = .reply l.id (.ok keys) from rfl,
        step_reply hnodup hstill]
      exact List.mem_cons_self

end Traffic

/-! ## Lookups of a store -/

namespace Store

variable {st st' : Store} {url : String}

theorem get_snd_of_start {r : Except Fault (List Jwk)} (h : st.start url = (st', .inr r)) :
    (st.get url).2 = r.map (⟨url, ·⟩) := by
  rw [get_of_start h]
  cases r <;> rfl

theorem entries_get_of_start {f : Fault} (h : st.start url = (st', .inr (.error f))) :
    (st.get url).1.cache.entries = st'.cache.entries := by
  rw [get_of_start h]
  rfl

/-- A lookup that fails leaves the entries as they are, and fails because fetches are
cut off, because the fetch takes too long, or because it fails itself. -/
theorem get_error {f : Fault} (h : (st.get url).2 = .error f) :
    (st.get url).1.cache.entries = st.cache.entries ∧
      (st.cutOff = true ∧ f = cutOffFault url ∨
        st.cutOff = false ∧ st.cache.config.fetchTimeout.toNanos < st.source.delay.toNanos ∧
          f = .timeout url st.cache.config.fetchTimeout ∨
        st.cutOff = false ∧ st.source.delay.toNanos ≤ st.cache.config.fetchTimeout.toNanos ∧
          st.source.answer url = .error f) := by
  cases hfind : st.cache.lookup? url with
  | some set =>
      rw [get_hit hfind] at h
      cases h
  | none =>
      cases hcut : st.cutOff with
      | true =>
          rw [get_cut hfind hcut] at h ⊢
          exact ⟨rfl, .inl ⟨rfl, (Except.error.inj h).symm⟩⟩
      | false =>
          have hstart := start_asked hfind hcut
          rw [get_snd_of_start hstart, map_eq_error_iff] at h
          rw [h] at hstart
          refine ⟨(entries_get_of_start hstart).trans rfl, .inr ?_⟩
          have hask : (st.source.ask url).2 = ⟨st.source.delay, st.source.answer url⟩ := rfl
          rw [hask] at h
          rcases Nat.lt_or_ge st.cache.config.fetchTimeout.toNanos st.source.delay.toNanos with
            hlate | htimely
          · rw [Attempt.within_of_late ⟨_, _⟩ hlate] at h
            exact .inl ⟨rfl, hlate, (Except.error.inj h).symm⟩
          · rw [Attempt.within_of_timely ⟨_, _⟩ htimely] at h
            exact .inr ⟨rfl, htimely, h⟩

/-- A lookup succeeds when fetches are not cut off and the source answers in time with
keys, whatever became of the lookups before. -/
theorem get_ok {keys : List Jwk} (hcut : st.cutOff = false)
    (hdelay : st.source.delay.toNanos ≤ st.cache.config.fetchTimeout.toNanos)
    (hanswer : st.source.answer url = .ok keys) : ∃ set, (st.get url).2 = .ok set := by
  cases hget : (st.get url).2 with
  | ok set => exact ⟨set, rfl⟩
  | error f =>
      rcases (get_error hget).2 with ⟨harmed, -⟩ | ⟨-, hlate, -⟩ | ⟨-, -, herror⟩
      · rw [hcut] at harmed
        cases harmed
      · omega
      · rw [hanswer] at herror
        cases herror

end Store

namespace Traffic

variable {s : Traffic}

/-- What is neither a success nor an eviction leaves the entries as they are. -/
theorem entries_step {a : Act} (hstore : ∀ l ∈ s.waiting, ∀ keys, a ≠ .reply l.id (.ok keys))
    (hevict : ∀ kept, a ≠ .evict kept) : (s.step a).cache.entries = s.cache.entries := by
  rcases (s.step_moves a).stores_or_keeps with ⟨l, hl, keys, ha, -⟩ | ⟨hsame | ⟨kept, ha, -⟩, -⟩
  · exact absurd ha (hstore l hl keys)
  · exact hsame
  · exact absurd ha (hevict kept)

theorem step_abandon (hnodup : (s.waiting.map (·.id)).Nodup) {l : Lookup} (hl : l ∈ s.waiting) :
    s.step (.abandon l.id) = (s.leave l).record (.abandoned l s.cache.now) := by
  simp only [step, find?_of_mem_waiting hnodup hl]

/-- The fault of a failed lookup is that of the switch, a timeout, or its fetch's
own. -/
theorem fault_of_run {c : Cache} (hc : c.entries = []) {acts : List Act} {l : Lookup} {t : Nat}
    {f : Fault} (h : .missed l t (.error f) ∈ ((initial c).run acts).log) :
    f = Store.cutOffFault l.url ∨ f = .timeout l.url c.config.fetchTimeout ∨
      .fetched l t (.error f) ∈ ((initial c).run acts).log := by
  obtain ⟨before, a, behind, rfl, hfails, rfl⟩ := (failed_iff hc).mp h
  cases hfails with
  | cut hfind hcut => exact .inl rfl
  | late hl =>
      rw [run_config]
      exact .inr (.inl rfl)
  | refused hl f =>
      have hstep := step_reply (nodup_waiting c hc before) hl (.error f)
      obtain ⟨new, hlog, -⟩ :=
        run_entries (((initial c).run before).step (.reply l.id (.error f))) behind
      rw [run_append, run_cons, hlog, hstep]
      exact .inr (.inr (List.mem_append_right _ (List.mem_cons_of_mem _ List.mem_cons_self)))

/-- **Failed lookups change no entry, and the last success wins**, after any acts in
any order.

An entry is the last success of its place. Only a fetch that returns keys to a lookup
that waits stores anything, so nothing does that fails or is abandoned; what the fetch
of a lookup returns after the lookup has ended is lost. A lookup fails because it is
cut off, because its fetch takes too long, however it would have ended, or with the
fault of its fetch. And the next one that gets keys succeeds. -/
theorem run_last_success_wins {config : Config.Cache} {c : Cache}
    (h : Cache.empty? config = some c) (acts : List Act) :
    let s := (initial c).run acts
    ((s.cache.entries.map (·.url)).Nodup ∧
      ∀ e ∈ s.cache.entries, ∃ newer l older,
        s.log = newer ++ .missed l e.stored (.ok e.set) :: older ∧ l.url = e.url ∧
          ∀ l' t set, .missed l' t (.ok set) ∈ newer → l'.url ≠ e.url) ∧
    (∀ a, (∀ l ∈ s.waiting, ∀ keys, a ≠ .reply l.id (.ok keys)) → (∀ kept, a ≠ .evict kept) →
      (s.step a).cache.entries = s.cache.entries) ∧
    (∀ a l f, s.Fails a l f →
      (s.step a).log.head? = some (.missed l s.cache.now (.error f)) ∧
        (s.step a).cache.entries = s.cache.entries) ∧
    (∀ l ∈ s.waiting, (s.step (.abandon l.id)).log = .abandoned l s.cache.now :: s.log ∧
      (s.step (.abandon l.id)).cache = s.cache) ∧
    (∀ l ∈ s.waiting, ∀ attempt : Attempt,
      config.fetchTimeout.toNanos < attempt.delay.toNanos →
        (s.step (.ofAttempt config.fetchTimeout l.id attempt)).log.head? =
            some (.missed l s.cache.now (.error (.timeout l.url config.fetchTimeout))) ∧
          (s.step (.ofAttempt config.fetchTimeout l.id attempt)).cache.entries =
            s.cache.entries) ∧
    (∀ ev ∈ s.log, ∀ r, s.step (.reply ev.lookup.id r) = s) ∧
    (∀ l t f, .missed l t (.error f) ∈ s.log →
      (∃ before a behind, acts = before ++ a :: behind ∧
        ((initial c).run before).Fails a l f ∧ t = ((initial c).run before).cache.now) ∧
      (f = Store.cutOffFault l.url ∨ f = .timeout l.url config.fetchTimeout ∨
        .fetched l t (.error f) ∈ s.log)) ∧
    (s.cutOff = false → ∀ url keys mid, (∀ a ∈ mid, a.id? ≠ some s.begun) →
      let s' := s.run (.look url :: mid ++ [.reply s.begun (.ok keys)])
      let l : Lookup := ⟨s.begun, url, s.cache.now⟩
      (∃ set, .hit l l.began set ∈ s'.log) ∨ ∃ t, .missed l t (.ok ⟨url, keys⟩) ∈ s'.log) ∧
    (∀ (st : Store) (url : String) (f : Fault), (st.get url).2 = .error f →
      (st.get url).1.cache.entries = st.cache.entries ∧
        (st.cutOff = true ∧ f = Store.cutOffFault url ∨
          st.cutOff = false ∧ st.cache.config.fetchTimeout.toNanos < st.source.delay.toNanos ∧
            f = .timeout url st.cache.config.fetchTimeout ∨
          st.cutOff = false ∧ st.source.delay.toNanos ≤ st.cache.config.fetchTimeout.toNanos ∧
            st.source.answer url = .error f)) ∧
    (∀ (st : Store) (url : String) (keys : List Jwk), st.cutOff = false →
      st.source.delay.toNanos ≤ st.cache.config.fetchTimeout.toNanos →
        st.source.answer url = .ok keys → ∃ set, (st.get url).2 = .ok set) := by
  intro s
  have hc : c.entries = [] := Cache.entries_of_empty? h
  obtain ⟨hinitial, hconfig⟩ := sound_of_empty? h
  have hs : s.Sound := hinitial.run acts
  have hnodup : (s.waiting.map (·.id)).Nodup := nodup_waiting c hc acts
  have hlimit : s.cache.config = config := (run_config _ acts).trans hconfig
  refine ⟨⟨hs.mirrors.urls, fun e he => lastSuccess?_eq_some (recent_of_run hc acts e he)⟩,
    fun a => entries_step, fun a l f hfails => hfails.step hnodup, ?_, ?_,
    fun ev hev => hs.step_reply_of_mem_log hev, ?_,
    fun hcut url keys mid hmid => answered_of_reply hc hcut hmid url keys,
    fun st url f => Store.get_error, fun st url keys => Store.get_ok⟩
  · intro l hl
    rw [step_abandon hnodup hl]
    exact ⟨rfl, rfl⟩
  · intro l hl attempt hlate
    rw [← hlimit] at hlate ⊢
    exact step_ofAttempt_late hnodup hl hlate
  · intro l t f hmem
    exact ⟨(failed_iff hc).mp hmem, hconfig ▸ fault_of_run hc hmem⟩

/-- Two lookups of one place overlap. One is answered, and the other one takes too
long; a lookup of another place is cut off. The entry is that of the one success, and
the next lookup succeeds. -/
theorem run_last_success_wins_overlap :
    let url := "https://issuer.test/jwks"
    let other := "b"
    let keys : List Jwk := [⟨none, none, none, some "a", none, none, none, none, .secret ""⟩]
    let c : Cache := ⟨.standard, [], ⟨0, 0, 0⟩, 0⟩
    let s := (initial c).run
      [.look url, .look url, .reply 1 (.ok keys), .pass 3, .timeOut 0, .cutOff true, .look other,
        .cutOff false]
    Cache.empty? .standard = some c ∧
    s.cache.entries = [⟨url, ⟨url, keys⟩, 0⟩] ∧
    (∃ newer l older, s.log = newer ++ .missed l 0 (.ok ⟨url, keys⟩) :: older ∧ l.url = url ∧
      ∀ l' t set, .missed l' t (.ok set) ∈ newer → l'.url ≠ url) ∧
    s.step (.reply 0 (.ok keys)) = s ∧
    let s' := s.run (.look other :: [] ++ [.reply s.begun (.ok keys)])
    let l : Lookup := ⟨s.begun, other, s.cache.now⟩
    (∃ set, .hit l l.began set ∈ s'.log) ∨ ∃ t, .missed l t (.ok ⟨other, keys⟩) ∈ s'.log := by
  intro url other keys c s
  have hempty : Cache.empty? .standard = some c := if_neg (by decide)
  obtain ⟨⟨-, hentries⟩, -, -, -, -, hlost, -, hnext, -⟩ := run_last_success_wins hempty
    [.look url, .look url, .reply 1 (.ok keys), .pass 3, .timeOut 0, .cutOff true, .look other,
      .cutOff false]
  have hone : s.cache.entries = [⟨url, ⟨url, keys⟩, 0⟩] := rfl
  have hlate : s.log.map (·.lookup.id) = [2, 0, 1, 1] := rfl
  have hcut : s.cutOff = false := rfl
  obtain ⟨ev, hev, hid⟩ := List.mem_map.mp (show 0 ∈ s.log.map (·.lookup.id) by simp [hlate])
  have hlast := hentries ⟨url, ⟨url, keys⟩, 0⟩ (hone ▸ List.mem_cons_self)
  exact ⟨hempty, hone, hlast, hid ▸ hlost ev hev _, hnext hcut other keys [] (by simp)⟩

end Traffic

end SbomGate.Keys
