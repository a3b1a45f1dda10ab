import Mathlib.Data.List.Induction
import Mathlib.Data.List.Nodup
import SbomGate.Proofs.Signing
import SbomGate.Proofs.StoreLookup
/-!
# SbomGate.Proofs.Rotation

**Rotation of keys** takes effect within one span of the cache: what the verifier
uses is never older than that, whatever happened in between.

* `Traffic.InTime` — every event has its place in time. A set that answers a lookup
  was fetched less than the span before the lookup began, or after
  (`Traffic.fetched_of_answeredAfter`).
* `Traffic.run_entries`, `Traffic.missed_of_run` — only a successful fetch leaves an
  entry, and fetches are made only for lookups that found nothing. So nothing else
  makes an entry last longer.
* `Traffic.accounted_of_run` — no lookup is lost.
* `Traffic.ServesAfter` — the good service that makes every lookup succeed
  (`Traffic.ok_of_answeredAfter`).
* `Auth.run_follows_rotation` — withdrawn keys are refused, and published ones are
  accepted.
-/

namespace SbomGate.Keys

open Token

theorem Cache.entries_of_empty? {config : Config.Cache} {c : Cache}
    (h : Cache.empty? config = some c) : c.entries = [] := by
  unfold Cache.empty? at h
  split at h
  · cases h
  · cases h
    rfl

namespace Event

/-- An event has its place in time: a lookup is answered from the cache as it
begins, and everything else happens to it then or later. -/
def Timed : Event → Prop
  | hit l time _ => time = l.began
  | fetched l time _ | missed l time _ | abandoned l time => l.began ≤ time

end Event

namespace Traffic

variable {s s' : Traffic} {a : Act}

/-! ## Time -/

/-- Nothing that waits or happened began in the future of itself. -/
structure InTime (s : Traffic) : Prop where
  waits : ∀ l ∈ s.waiting, l.began ≤ s.cache.now
  happened : ∀ ev ∈ s.log, ev.Timed

theorem InTime.initial (c : Cache) : (initial c).InTime :=
  ⟨by simp [Traffic.initial], by simp [Traffic.initial]⟩

theorem InTime.move (hs : s.InTime) (h : s.Moves a s') : s'.InTime := by
  have ⟨hwaits, hhappened⟩ := hs
  have hleave : ∀ l : Lookup, ∀ w ∈ s.waiting.filter (·.id ≠ l.id), w.began ≤ s.cache.now :=
    fun l w hw => hwaits w (List.mem_filter.mp hw).1
  cases h with
  | hit hfind => exact ⟨hwaits, List.forall_mem_cons.mpr ⟨rfl, hhappened⟩⟩
  | cut hfind hcut => exact ⟨hwaits, List.forall_mem_cons.mpr ⟨Nat.le_refl _, hhappened⟩⟩
  | wait hfind hcut => exact ⟨List.forall_mem_cons.mpr ⟨Nat.le_refl _, hwaits⟩, hhappened⟩
  | store hl keys =>
      exact ⟨hleave _, List.forall_mem_cons.mpr ⟨hwaits _ hl,
        List.forall_mem_cons.mpr ⟨hwaits _ hl, hhappened⟩⟩⟩
  | fail hl f =>
      exact ⟨hleave _, List.forall_mem_cons.mpr ⟨hwaits _ hl,
        List.forall_mem_cons.mpr ⟨hwaits _ hl, hhappened⟩⟩⟩
  | late hl => exact ⟨hleave _, List.forall_mem_cons.mpr ⟨hwaits _ hl, hhappened⟩⟩
  | abandon hl => exact ⟨hleave _, List.forall_mem_cons.mpr ⟨hwaits _ hl, hhappened⟩⟩
  | pass span => exact ⟨fun l hl => Nat.le_add_right_of_le (hwaits l hl), hhappened⟩
  | evict kept => exact ⟨hwaits, hhappened⟩
  | arm armed => exact ⟨hwaits, hhappened⟩
  | idle hid hwait => exact ⟨hwaits, hhappened⟩

theorem InTime.run (hs : s.InTime) (acts : List Act) : (s.run acts).InTime := by
  induction acts generalizing s with
  | nil => exact hs
  | cons a acts ih => exact ih (hs.move (s.step_moves a))

/-! ## Entries -/

/-- Where an entry comes from: it was there, or a fetch of its place returned it
since. -/
theorem Moves.entries (h : s.Moves a s') :
    ∃ new, s'.log = new ++ s.log ∧ ∀ e ∈ s'.cache.entries, e ∈ s.cache.entries ∨
      ∃ l keys, .fetched l e.stored (.ok keys) ∈ new ∧ l.url = e.url := by
  cases h with
  | hit hfind => exact ⟨[_], rfl, fun e he => .inl he⟩
  | cut hfind hcut => exact ⟨[_], rfl, fun e he => .inl he⟩
  | wait hfind hcut => exact ⟨[], rfl, fun e he => .inl he⟩
  | store hl keys =>
      refine ⟨[_, _], rfl, ?_⟩
      intro e he
      rcases List.mem_cons.mp he with rfl | he
      · exact .inr ⟨_, keys, by simp, rfl⟩
      · exact .inl (List.mem_filter.mp he).1
  | fail hl f => exact ⟨[_, _], rfl, fun e he => .inl he⟩
  | late hl => exact ⟨[_], rfl, fun e he => .inl he⟩
  | abandon hl => exact ⟨[_], rfl, fun e he => .inl he⟩
  | pass span => exact ⟨[], rfl, fun e he => .inl he⟩
  | evict kept => exact ⟨[], rfl, fun e he => .inl (List.mem_filter.mp he).1⟩
  | arm armed => exact ⟨[], rfl, fun e he => .inl he⟩
  | idle hid hwait => exact ⟨[], rfl, fun e he => .inl he⟩

theorem run_entries (s : Traffic) (acts : List Act) :
    ∃ new, (s.run acts).log = new ++ s.log ∧ ∀ e ∈ (s.run acts).cache.entries,
      e ∈ s.cache.entries ∨
        ∃ l keys, .fetched l e.stored (.ok keys) ∈ new ∧ l.url = e.url := by
  induction acts generalizing s with
  | nil => exact ⟨[], rfl, fun e he => .inl he⟩
  | cons a acts ih =>
      obtain ⟨new, hlog, hentries⟩ := (s.step_moves a).entries
      obtain ⟨newer, hlog', hentries'⟩ := ih (s.step a)
      refine ⟨newer ++ new, by rw [run_cons, hlog', hlog, List.append_assoc], ?_⟩
      intro e he
      rcases hentries' e he with he | ⟨l, keys, hf, hurl⟩
      · rcases hentries e he with he | ⟨l, keys, hf, hurl⟩
        · exact .inl he
        · exact .inr ⟨l, keys, List.mem_append_right _ hf, hurl⟩
      · exact .inr ⟨l, keys, List.mem_append_left _ hf, hurl⟩

/-! ## Fetches -/

/-- Who waits: who waited, or a lookup that has just found nothing. -/
theorem Moves.waits (h : s.Moves a s') {l : Lookup} (hl : l ∈ s'.waiting) :
    l ∈ s.waiting ∨ a = .look l.url ∧ s.cache.lookup? l.url = none ∧ s.cutOff = false ∧
      l = ⟨s.begun, l.url, s.cache.now⟩ := by
  cases h with
  | wait hfind hcut =>
      rcases List.mem_cons.mp hl with rfl | hl
      · exact .inr ⟨rfl, hfind, hcut, rfl⟩
      · exact .inl hl
  | store hw keys => exact .inl (List.mem_filter.mp hl).1
  | fail hw f => exact .inl (List.mem_filter.mp hl).1
  | late hw => exact .inl (List.mem_filter.mp hl).1
  | abandon hw => exact .inl (List.mem_filter.mp hl).1
  | _ => exact .inl hl

/-- Nothing is fetched for a lookup that does not wait. -/
theorem Moves.fetches (h : s.Moves a s') {l : Lookup} {t : Nat} {x : Except Fault (List Jwk)}
    (hf : .fetched l t x ∈ s'.log) : .fetched l t x ∈ s.log ∨ l ∈ s.waiting := by
  cases h with
  | store hl keys =>
      simp only [List.mem_cons, reduceCtorEq, false_or] at hf
      exact hf.symm.imp_right fun heq => by cases heq; exact hl
  | fail hl f =>
      simp only [List.mem_cons, reduceCtorEq, false_or] at hf
      exact hf.symm.imp_right fun heq => by cases heq; exact hl
  | _ => simp_all

/-- A lookup of a run that found nothing as it began, and was not cut off. -/
def Missed (s : Traffic) (acts : List Act) (l : Lookup) : Prop :=
  ∃ before behind, acts = before ++ .look l.url :: behind ∧
    (s.run before).cache.lookup? l.url = none ∧ (s.run before).cutOff = false ∧
    l = ⟨(s.run before).begun, l.url, (s.run before).cache.now⟩

theorem Missed.snoc {acts : List Act} {l : Lookup} (h : s.Missed acts l) (a : Act) :
    s.Missed (acts ++ [a]) l := by
  obtain ⟨before, behind, rfl, hmiss⟩ := h
  exact ⟨before, behind ++ [a], by simp, hmiss⟩

theorem run_snoc (s : Traffic) (acts : List Act) (a : Act) :
    s.run (acts ++ [a]) = (s.run acts).step a := by
  rw [run_append]
  rfl

/-- Nothing is fetched but for lookups that found nothing. -/
theorem missed_of_run (c : Cache) (acts : List Act) :
    (∀ l ∈ ((initial c).run acts).waiting, (initial c).Missed acts l) ∧
      ∀ l t x, .fetched l t x ∈ ((initial c).run acts).log → (initial c).Missed acts l := by
  induction acts using List.reverseRecOn with
  | nil => simp [Traffic.initial]
  | append_singleton acts a ih =>
      obtain ⟨hwaits, hfetched⟩ := ih
      have hstep := ((initial c).run acts).step_moves a
      rw [run_snoc]
      refine ⟨?_, ?_⟩
      · intro l hl
        rcases hstep.waits hl with hl | ⟨rfl, hmiss⟩
        · exact (hwaits l hl).snoc a
        · exact ⟨acts, [], rfl, hmiss⟩
      · intro l t x hf
        rcases hstep.fetches hf with hf | hl
        · exact (hfetched l t x hf).snoc a
        · exact (hwaits l hl).snoc a

/-! ## No lookup is lost -/

/-- Lookups that wait can be told by their numbers. -/
theorem nodup_waiting (c : Cache) (hc : c.entries = []) (acts : List Act) :
    (((initial c).run acts).waiting.map (·.id)).Nodup := by
  induction acts using List.reverseRecOn with
  | nil => exact .nil
  | append_singleton acts a ih =>
      have hstep := ((initial c).run acts).step_moves a
      have hnumbered := ((Sound.initial hc).run acts).numbered
      have hleave : ∀ l : Lookup, ((((initial c).run acts).waiting.filter
          (·.id ≠ l.id)).map (·.id)).Nodup :=
        fun l => ih.sublist (List.filter_sublist.map _)
      rw [run_snoc]
      generalize ((initial c).run acts).step a = s' at hstep
      cases hstep with
      | wait hfind hcut =>
          refine List.nodup_cons.mpr ⟨?_, ih⟩
          intro hmem
          obtain ⟨w, hw, hid⟩ := List.mem_map.mp hmem
          exact Nat.ne_of_lt (hnumbered.waits w hw).1 hid
      | store hl keys => exact hleave _
      | fail hl f => exact hleave _
      | late hl => exact hleave _
      | abandon hl => exact hleave _
      | _ => exact ih

/-- A lookup waits, or came to an end. -/
def Accounted (s : Traffic) (l : Lookup) : Prop :=
  l ∈ s.waiting ∨ ∃ ev ∈ s.log, ev.lookup = l ∧ ev.endId? = some l.id

theorem Accounted.mono {l : Lookup} (h : s.Accounted l) (hwaits : s.waiting ⊆ s'.waiting)
    (hlog : s.log ⊆ s'.log) : s'.Accounted l :=
  h.imp (fun hl => hwaits hl) fun ⟨ev, hev, hend⟩ => ⟨ev, hlog hev, hend⟩

/-- The lookup that leaves is the one whose end is recorded. -/
theorem Accounted.leave {l w : Lookup} (h : s.Accounted l)
    (hnodup : (s.waiting.map (·.id)).Nodup) (hw : w ∈ s.waiting)
    (hwaits : s'.waiting = s.waiting.filter (·.id ≠ w.id)) (hlog : s.log ⊆ s'.log) {ev : Event}
    (hev : ev ∈ s'.log) (hlookup : ev.lookup = w) (hend : ev.endId? = some w.id) :
    s'.Accounted l := by
  rcases h with hl | ⟨ev', hev', hend'⟩
  · by_cases heq : l.id = w.id
    · obtain rfl := List.inj_on_of_nodup_map hnodup hl hw heq
      exact .inr ⟨ev, hev, hlookup, hend⟩
    · left
      rw [hwaits]
      exact List.mem_filter.mpr ⟨hl, by simpa using heq⟩
  · exact .inr ⟨ev', hlog hev', hend'⟩

theorem Accounted.move {l : Lookup} (h : s.Accounted l)
    (hnodup : (s.waiting.map (·.id)).Nodup) (hmove : s.Moves a s') : s'.Accounted l := by
  have hself : s.waiting ⊆ s.waiting := List.Subset.refl _
  have hone : ∀ ev, s.log ⊆ ev :: s.log := fun ev => List.subset_cons_self _ _
  have htwo : ∀ ev ev', s.log ⊆ ev :: ev' :: s.log :=
    fun ev ev' => List.Subset.trans (hone ev') (List.subset_cons_self _ _)
  cases hmove with
  | hit hfind => exact h.mono hself (hone _)
  | cut hfind hcut => exact h.mono hself (hone _)
  | wait hfind hcut => exact h.mono (List.subset_cons_self _ _) (List.Subset.refl _)
  | store hl keys => exact h.leave hnodup hl rfl (htwo _ _) List.mem_cons_self rfl rfl
  | fail hl f => exact h.leave hnodup hl rfl (htwo _ _) List.mem_cons_self rfl rfl
  | late hl => exact h.leave hnodup hl rfl (hone _) List.mem_cons_self rfl rfl
  | abandon hl => exact h.leave hnodup hl rfl (hone _) List.mem_cons_self rfl rfl
  | _ => exact h

/-- A lookup that begins waits or ends at once. -/
theorem accounted_look (s : Traffic) (url : String) :
    (s.step (.look url)).Accounted ⟨s.begun, url, s.cache.now⟩ := by
  have hstep := s.step_moves (.look url)
  generalize s.step (.look url) = s' at hstep
  cases hstep with
  | hit hfind => exact .inr ⟨_, List.mem_cons_self, rfl, rfl⟩
  | cut hfind hcut => exact .inr ⟨_, List.mem_cons_self, rfl, rfl⟩
  | wait hfind hcut => exact .inl List.mem_cons_self
  | idle hid hwait => cases hid

/-- No lookup of a run is lost. -/
theorem accounted_of_run {c : Cache} (hc : c.entries = []) (before behind : List Act)
    (url : String) :
    ((initial c).run (before ++ .look url :: behind)).Accounted
      ⟨((initial c).run before).begun, url, ((initial c).run before).cache.now⟩ := by
  induction behind using List.reverseRecOn with
  | nil =>
      rw [run_snoc]
      exact accounted_look _ url
  | append_singleton behind a ih =>
      rw [← List.cons_append, ← List.append_assoc, run_snoc]
      exact ih.move (nodup_waiting c hc _) (Traffic.step_moves _ a)

/-! ## Good service -/

/-- What an act does to the lookups of a place, if anything, is to get keys for
them: nothing is cut off, and fetches that end return keys that `P` holds of. -/
def Serves (s : Traffic) (url : String) (P : List Jwk → Prop) : Act → Prop
  | .look place => place = url → s.cutOff = false
  | .reply id r => ∀ l ∈ s.waiting, l.id = id → l.url = url → ∃ keys, r = .ok keys ∧ P keys
  | .timeOut id => ∀ l ∈ s.waiting, l.id = id → l.url ≠ url
  | _ => True

/-- After a time, every act of a run gets keys for the lookups of a place. -/
def ServesAfter (r : Nat) (url : String) (P : List Jwk → Prop) (s : Traffic) : List Act → Prop
  | [] => True
  | a :: acts =>
      (r < s.cache.now → s.Serves url P a) ∧ ServesAfter r url P (s.step a) acts

/-- After a time, the lookups of a place that miss have got keys that `P` holds
of. -/
def GotAfter (r : Nat) (url : String) (P : List Jwk → Prop) : Event → Prop
  | .fetched l t x => l.url = url → r < t → ∃ keys, x = .ok keys ∧ P keys
  | .missed l t x => l.url = url → r < t → ∃ set, x = .ok set
  | _ => True

section

variable {r : Nat} {url : String} {P : List Jwk → Prop}

theorem gotAfter_of_moves (hs : ∀ ev ∈ s.log, GotAfter r url P ev) (h : s.Moves a s')
    (hserves : r < s.cache.now → s.Serves url P a) : ∀ ev ∈ s'.log, GotAfter r url P ev := by
  cases h with
  | hit hfind => exact List.forall_mem_cons.mpr ⟨trivial, hs⟩
  | cut hfind hcut =>
      refine List.forall_mem_cons.mpr ⟨?_, hs⟩
      intro hurl ht
      rw [hserves ht hurl] at hcut
      cases hcut
  | store hl keys =>
      refine List.forall_mem_cons.mpr ⟨?_, List.forall_mem_cons.mpr ⟨?_, hs⟩⟩
      · exact fun _ _ => ⟨_, rfl⟩
      · exact fun hurl ht => hserves ht _ hl rfl hurl
  | @fail l hl f =>
      have hnot : l.url = url → ¬ r < s.cache.now := by
        intro hurl ht
        obtain ⟨keys, hkeys, -⟩ := hserves ht _ hl rfl hurl
        cases hkeys
      refine List.forall_mem_cons.mpr ⟨?_, List.forall_mem_cons.mpr ⟨?_, hs⟩⟩
      · exact fun hurl ht => absurd ht (hnot hurl)
      · exact fun hurl ht => absurd ht (hnot hurl)
  | late hl =>
      refine List.forall_mem_cons.mpr ⟨?_, hs⟩
      exact fun hurl ht => absurd hurl (hserves ht _ hl rfl)
  | abandon hl => exact List.forall_mem_cons.mpr ⟨trivial, hs⟩
  | _ => exact hs

theorem gotAfter_of_run {acts : List Act} (hs : ∀ ev ∈ s.log, GotAfter r url P ev)
    (h : ServesAfter r url P s acts) : ∀ ev ∈ (s.run acts).log, GotAfter r url P ev := by
  induction acts generalizing s with
  | nil => exact hs
  | cons a acts ih => exact ih (gotAfter_of_moves hs (s.step_moves a) h.1) h.2

end

/-! ## Answers -/

/-- An answer to a lookup of a place that began after a time. -/
def AnsweredAfter (s : Traffic) (url : String) (time : Nat) (answer : Except Fault KeySet) :
    Prop :=
  ∃ ev ∈ s.log, ev.answer? = some answer ∧ ev.lookup.url = url ∧ time < ev.lookup.began

/-- Keys that answer a lookup which began more than the configured span after a
time were fetched after that time. -/
theorem fetched_of_answeredAfter (hs : s.Sound) (ht : s.InTime) {url : String} {r : Nat}
    {set : KeySet}
    (h : s.AnsweredAfter url (r + s.cache.config.ttl.toNanos) (.ok set)) :
    ∃ l t keys, .fetched l t (.ok keys) ∈ s.log ∧ l.url = url ∧ r < t ∧ set = ⟨url, keys⟩ := by
  obtain ⟨ev, hev, hanswer, rfl, hbegan⟩ := h
  have htimed := ht.happened ev hev
  obtain ⟨newer, older, hlog⟩ := List.append_of_mem hev
  have hjustified := (hlog ▸ hs.justified).of_append.1
  have holder : older ⊆ s.log := by
    rw [hlog]
    exact List.Subset.trans (List.subset_cons_self _ _) (List.subset_append_right _ _)
  cases ev with
  | fetched l t x => cases hanswer
  | abandoned l t => cases hanswer
  | hit l t found =>
      -- the entry was young as the lookup began, so it was not there at the time
      cases hanswer
      obtain ⟨t₀, keys, hlatest, hwhole, hpast, hfresh⟩ := hjustified
      obtain ⟨f, hf, hplace⟩ := fetched_of_latest? hlatest
      refine ⟨f, t₀, keys, holder hf, hplace, ?_, hwhole⟩
      simp only [Event.Timed, Event.lookup] at htimed hbegan
      omega
  | missed l t x =>
      cases hanswer
      obtain ⟨keys, hf, hwhole⟩ := hjustified
      refine ⟨l, t, keys, holder hf, rfl, ?_, hwhole⟩
      simp only [Event.Timed, Event.lookup] at htimed hbegan
      omega

/-- Good service after a time is an answer to every lookup that began later. -/
theorem ok_of_answeredAfter (ht : s.InTime) {url : String} {r time : Nat}
    {P : List Jwk → Prop} (hgot : ∀ ev ∈ s.log, GotAfter r url P ev) (hle : r ≤ time)
    {answer : Except Fault KeySet} (h : s.AnsweredAfter url time answer) :
    ∃ set, answer = .ok set := by
  obtain ⟨ev, hev, hanswer, hurl, hbegan⟩ := h
  have htimed := ht.happened ev hev
  have hgot := hgot ev hev
  cases ev with
  | fetched l t x => cases hanswer
  | abandoned l t => cases hanswer
  | hit l t found => exact ⟨found, (Option.some.inj hanswer).symm⟩
  | missed l t x =>
      obtain rfl := Option.some.inj hanswer
      refine hgot hurl ?_
      simp only [Event.Timed, Event.lookup] at htimed hbegan
      omega

/-- Without another successful fetch of a place, what is found for it was there
before and is as old as it is. -/
theorem entry_of_not_fetched (s : Traffic) (acts : List Act) (url : String) :
    ∃ new, (s.run acts).log = new ++ s.log ∧
      ((∀ l t keys, .fetched l t (.ok keys) ∈ new → l.url ≠ url) →
        ∀ set, (s.run acts).cache.lookup? url = some set →
          ∃ e ∈ s.cache.entries, e.url = url ∧ e.set = set ∧
            (s.run acts).cache.now - e.stored < (s.run acts).cache.config.ttl.toNanos) := by
  obtain ⟨new, hlog, hentries⟩ := run_entries s acts
  refine ⟨new, hlog, ?_⟩
  intro hnone set hfind
  obtain ⟨e, he, hurl, hset, hfresh⟩ := Cache.entry_of_lookup? hfind
  rcases hentries e he with he | ⟨l, keys, hf, hplace⟩
  · exact ⟨e, he, hurl, hset, hfresh⟩
  · exact absurd (hplace.trans hurl) (hnone l _ keys hf)

end Traffic

end SbomGate.Keys

namespace SbomGate.Auth

open Token Keys

/-- The first key of a name in a published set is usable. -/
def Usable (url kid : String) (keys : List Jwk) : Prop :=
  ∃ key, (KeySet.mk url keys).verificationKey kid = .ok key

section

variable {url kid : String} {keys : List Jwk} {e : Expectation} {now : Int} {token : Bytes}
  {p : Parts} {header : Header}

/-- A token that names no usable key is refused for want of one. -/
theorem fails_of_not_usable (hno : ¬ Usable url kid keys) (hd : Headed token p header)
    (hkid : header.kid = some kid) :
    Fails (verifyWithKeys ⟨url, keys⟩ e now token) .keyResolution := by
  refine verifyWithKeys_of_keyless ⟨p, header, hd, ?_⟩
  rintro ⟨key, hkey⟩
  obtain ⟨kid', hkid', -, hkey⟩ := selects_iff.mp hkey
  obtain rfl := Option.some.inj (hkid.symm.trans hkid')
  exact hno ⟨_, hkey⟩

/-- A token that is signed with the usable key it names, and passes the checks of
its claims, is accepted. -/
theorem accepted_of_usable {key : Rsa.PublicKey} {d : Claims} {claims : VerifiedClaims}
    (ha : KidAcceptable kid)
    (hkey : (KeySet.mk url keys).verificationKey kid = .ok (.rsa key))
    (hd : Headed token p header) (hkid : header.kid = some kid) (hs : Signed p header key)
    (hc : Claimed p d) (hclaims : d.verify e now = .ok claims) :
    verifyWithKeys ⟨url, keys⟩ e now token = .ok claims := by
  have hselects : Selects ⟨url, keys⟩ header key := selects_iff.mpr ⟨kid, hkid, ha, hkey⟩
  rw [verifyWithKeys_of_signed hd hselects hs hc, hclaims]
  rfl

end

/-- **Rotation takes effect within one span.** In any run of lookups, fetches,
evictions and time, for any name `kid` of a key and any time `r`:

* if no fetch that succeeds after `r` returns a usable first key of the name, every
  verification that begins more than the configured span later refuses the tokens
  that name it for want of a key;
* if after `r` nothing is cut off or too slow and every fetch returns a usable first
  key of the name, one of `K`, every verification that begins more than the span
  later uses such a key, and accepts the tokens that are signed with it and pass the
  checks of their claims;
* without another successful fetch, what is found is an entry that was there before
  and is younger than the span since it was stored; and fetches are made only for
  lookups that found nothing;
* no lookup is lost: it waits, or it came to an end;
* a verification is one more lookup whose answer decides, and the traffic that it
  makes is the same for all tokens, whatever comes of them. -/
theorem run_follows_rotation {config : Config.Cache} {c : Cache}
    (h : Cache.empty? config = some c) (verifier : Config.Verifier) (acts : List Act)
    (kid : String) (r : Nat) (K : Rsa.PublicKey → Prop) :
    let url := verifier.keySetUrl
    let ttl := config.ttl.toNanos
    let start := Traffic.initial c
    let s := start.run acts
    ((∀ l t keys, .fetched l t (.ok keys) ∈ s.log → l.url = url → r < t →
        ¬ Usable url kid keys) →
      ∀ answer, s.AnsweredAfter url (r + ttl) answer →
        ∀ token p header now, Headed token p header → header.kid = some kid →
          Fails (conclude verifier.expectation now token answer) .keyResolution) ∧
    (KidAcceptable kid →
      start.ServesAfter r url (fun keys => ∃ key, K key ∧
        (KeySet.mk url keys).verificationKey kid = .ok (.rsa key)) acts →
      ∀ answer, s.AnsweredAfter url (r + ttl) answer →
        ∃ keys key, answer = .ok ⟨url, keys⟩ ∧ K key ∧
          (KeySet.mk url keys).verificationKey kid = .ok (.rsa key) ∧
          ∀ token p header now d claims, Headed token p header → header.kid = some kid →
            Signed p header key → Claimed p d → d.verify verifier.expectation now = .ok claims →
            conclude verifier.expectation now token answer = .ok claims) ∧
    (∀ before behind, acts = before ++ behind →
      ∃ new, s.log = new ++ (start.run before).log ∧
        ((∀ l t keys, .fetched l t (.ok keys) ∈ new → l.url ≠ url) →
          ∀ set, s.cache.lookup? url = some set →
            ∃ e ∈ (start.run before).cache.entries, e.url = url ∧ e.set = set ∧
              s.cache.now - e.stored < ttl)) ∧
    (∀ l t x, .fetched l t x ∈ s.log → start.Missed acts l) ∧
    (∀ before behind, acts = before ++ .look url :: behind →
      s.Accounted ⟨(start.run before).begun, url, (start.run before).cache.now⟩) ∧
    (∀ st : Store, s.cache = st.cache → s.cutOff = st.cutOff →
      ∃ more answer, (s.run more).cache = (st.get url).1.cache ∧
        (s.run more).cutOff = (st.get url).1.cutOff ∧
        (∃ ev ∈ (s.run more).log, ev.lookup = ⟨s.begun, url, s.cache.now⟩ ∧
          ev.answer? = some answer) ∧
        ∀ now token, verifyToken verifier now st token =
          ((st.get url).1, conclude verifier.expectation now (bytesOf token) answer)) := by
  intro url ttl start s
  obtain ⟨hinitial, hconfig⟩ := Traffic.sound_of_empty? h
  have hs : s.Sound := hinitial.run acts
  have ht : s.InTime := (Traffic.InTime.initial c).run acts
  have hconfig : s.cache.config = config := (Traffic.run_config _ acts).trans hconfig
  have hfetched : ∀ set, s.AnsweredAfter url (r + ttl) (.ok set) → ∃ l t keys,
      .fetched l t (.ok keys) ∈ s.log ∧ l.url = url ∧ r < t ∧ set = ⟨url, keys⟩ := by
    intro set hset
    exact Traffic.fetched_of_answeredAfter hs ht (hconfig.symm ▸ hset)
  refine ⟨?_, ?_, ?_, (Traffic.missed_of_run c acts).2, ?_, ?_⟩
  · -- revocation
    intro hrevoked answer hanswer token p header now hd hkid
    cases answer with
    | error f => exact ⟨_, rfl, rfl⟩
    | ok set =>
        obtain ⟨l, t, keys, hf, hurl, hlt, rfl⟩ := hfetched set hanswer
        exact fails_of_not_usable (hrevoked l t keys hf hurl hlt) hd hkid
  · -- publication
    intro hkid hserves answer hanswer
    have hgot : ∀ ev ∈ s.log, Traffic.GotAfter r url _ ev :=
      Traffic.gotAfter_of_run (by simp [start, Traffic.initial]) hserves
    obtain ⟨set, rfl⟩ := Traffic.ok_of_answeredAfter ht hgot (Nat.le_add_right r ttl) hanswer
    obtain ⟨l, t, keys, hf, hurl, hlt, rfl⟩ := hfetched set hanswer
    obtain ⟨keys', hkeys, key, hK, hkey⟩ := hgot _ hf hurl hlt
    obtain rfl := Except.ok.inj hkeys
    refine ⟨keys, key, rfl, hK, hkey, ?_⟩
    intro token p header now d claims hd hname hsigned hclaimed hclaims
    exact accepted_of_usable hkid hkey hd hname hsigned hclaimed hclaims
  · -- no other fetch
    rintro before behind rfl
    have hentry := Traffic.entry_of_not_fetched (start.run before) behind url
    have hspan : (start.run (before ++ behind)).cache.config = config := hconfig
    rw [← Traffic.run_append, hspan] at hentry
    exact hentry
  · rintro before behind rfl
    exact Traffic.accounted_of_run (Cache.entries_of_empty? h) before behind url
  · intro st hcache hcut
    obtain ⟨more, hcache', hcut', ev, hev, hlookup, hanswer⟩ :=
      Traffic.exists_run_of_get hs hcache hcut url
    exact ⟨more, _, hcache', hcut', ⟨ev, hev, hlookup, hanswer⟩,
      fun now token => verifyToken_eq verifier now st token⟩

/-! ### A rotation -/

/-- What is published changes while the span passes. -/
def rotate (config : Config.Cache) (old new : List Jwk) : List Act :=
  [.look "u", .reply 0 (.ok old), .pass (config.ttl.toNanos + 1), .look "u", .reply 1 (.ok new)]

/-- The entry that the first lookup leaves is just too old for the second. -/
theorem log_rotate (config : Config.Cache) (old new : List Jwk) :
    let t := 0 + (config.ttl.toNanos + 1)
    ((Traffic.initial ⟨config, [], ⟨0, 0, 0⟩, 0⟩).run (rotate config old new)).log =
      [.missed ⟨1, "u", t⟩ t (.ok ⟨"u", new⟩), .fetched ⟨1, "u", t⟩ t (.ok new),
        .missed ⟨0, "u", 0⟩ 0 (.ok ⟨"u", old⟩), .fetched ⟨0, "u", 0⟩ 0 (.ok old)] := by
  intro t
  have hnone : Cache.lookup? ⟨config, [⟨"u", ⟨"u", old⟩, 0⟩], ⟨0, 1, 0⟩, t⟩ "u" = none := by
    rw [Cache.lookup?, List.find?_cons_of_neg]
    · rfl
    · simp [Cache.isFresh, t]
  -- the second fetch takes no time
  have hrun := @Traffic.run_look_reply
    ⟨⟨config, [⟨"u", ⟨"u", old⟩, 0⟩], ⟨0, 1, 0⟩, t⟩, false, 1, 1, [],
      [.missed ⟨0, "u", 0⟩ 0 (.ok ⟨"u", old⟩), .fetched ⟨0, "u", 0⟩ 0 (.ok old)]⟩ "u" hnone
    Bool.false_ne_true 0 (.ok new)
  rw [Traffic.run_cons, Traffic.run_cons, Traffic.step_pass_zero, ← Traffic.run_cons,
    Cache.advance_zero] at hrun
  exact congrArg Traffic.log hrun

theorem answeredAfter_rotate (config : Config.Cache) (old new : List Jwk) :
    ((Traffic.initial ⟨config, [], ⟨0, 0, 0⟩, 0⟩).run (rotate config old new)).AnsweredAfter
      "u" (0 + config.ttl.toNanos) (.ok ⟨"u", new⟩) := by
  rw [Traffic.AnsweredAfter, log_rotate]
  refine ⟨_, List.mem_cons_self, rfl, rfl, ?_⟩
  simp only [Event.lookup]
  omega

theorem servesAfter_rotate (config : Config.Cache) (old new : List Jwk) {P : List Jwk → Prop}
    (hnew : P new) :
    (Traffic.initial ⟨config, [], ⟨0, 0, 0⟩, 0⟩).ServesAfter 0 "u" P (rotate config old new) := by
  refine ⟨?_, ?_, ?_, ?_, ?_, trivial⟩
  · exact fun hlt => absurd hlt (Nat.lt_irrefl 0)
  · exact fun hlt => absurd hlt (Nat.lt_irrefl 0)
  · exact fun _ => trivial
  · exact fun _ _ => rfl
  · exact fun _ _ _ _ _ => ⟨new, rfl, hnew⟩

/-- A key is withdrawn, and a key is published. Tokens are accepted at first and
refused once the span has passed since the one; once it has passed since the other,
they are accepted. -/
theorem run_follows_rotation_sample :
    let c : Cache := ⟨.standard, [], ⟨0, 0, 0⟩, 0⟩
    let ttl := Config.Cache.standard.ttl.toNanos
    let withdrawn := (Traffic.initial c).run (rotate .standard [sampleJwk] [])
    let published := (Traffic.initial c).run (rotate .standard [] [sampleJwk])
    let outcome := conclude sampleVerifier.expectation 0 (bytesOf (sampleToken sampleMembers))
    Cache.empty? .standard = some c ∧
    ∃ claims, outcome (.ok ⟨"u", [sampleJwk]⟩) = .ok claims ∧
      .missed ⟨0, "u", 0⟩ 0 (.ok ⟨"u", [sampleJwk]⟩) ∈ withdrawn.log ∧
      withdrawn.AnsweredAfter "u" (0 + ttl) (.ok ⟨"u", []⟩) ∧
      (∀ answer, withdrawn.AnsweredAfter "u" (0 + ttl) answer →
        Fails (outcome answer) .keyResolution) ∧
      published.AnsweredAfter "u" (0 + ttl) (.ok ⟨"u", [sampleJwk]⟩) ∧
      ∀ answer, published.AnsweredAfter "u" (0 + ttl) answer → outcome answer = .ok claims := by
  intro c ttl withdrawn published outcome
  have hempty : Cache.empty? .standard = some c := if_neg (by decide)
  have hd := headed_sampleToken sampleMembers
  have hselects := selects_sampleJwk "u" []
  obtain ⟨claims, hclaims⟩ : ∃ claims,
      (Claims.ofMembers sampleMembers).verify sampleVerifier.expectation 0 = .ok claims :=
    ⟨_, rfl⟩
  obtain ⟨kid, hkid, hacceptable, hkey⟩ := selects_iff.mp hselects
  obtain rfl := Option.some.inj hkid
  have hwithdrawn := (run_follows_rotation hempty sampleVerifier
    (rotate .standard [sampleJwk] []) "k" 0 (· = samplePublicKey)).1
  have hpublished := (run_follows_rotation hempty sampleVerifier
    (rotate .standard [] [sampleJwk]) "k" 0 (· = samplePublicKey)).2.1
  refine ⟨hempty, claims, ?_, ?_, answeredAfter_rotate _ _ _, ?_, answeredAfter_rotate _ _ _, ?_⟩
  · exact accepted_of_usable hacceptable hkey hd rfl signed_sampleMembers claimed_sampleMembers
      hclaims
  · simp [withdrawn, c, log_rotate]
  · intro answer hanswer
    refine hwithdrawn ?_ answer hanswer _ _ _ 0 hd rfl
    -- of the two fetches only the one without keys comes after
    intro l t keys hf hurl hlt
    rw [log_rotate] at hf
    simp only [List.mem_cons, reduceCtorEq, false_or, Event.fetched.injEq, Except.ok.injEq,
      List.not_mem_nil, or_false] at hf
    rcases hf with ⟨-, -, rfl⟩ | ⟨-, rfl, -⟩
    · rintro ⟨key, hnone⟩
      cases hnone
    · exact absurd hlt (Nat.lt_irrefl 0)
  · intro answer hanswer
    obtain ⟨keys, key, rfl, rfl, -, haccept⟩ := hpublished hacceptable
      (servesAfter_rotate _ _ _ ⟨samplePublicKey, rfl, hkey⟩) answer hanswer
    exact haccept _ _ _ 0 _ _ hd rfl signed_sampleMembers claimed_sampleMembers hclaims

end SbomGate.Auth
