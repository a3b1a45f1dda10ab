import SbomGate.Proofs.Expiry
import SbomGate.Proofs.RecordText
/-!
# SbomGate.Proofs.FixedPoint

**Verified claims are a fixed point**: written as text they are found again, pass
the same checks, and are the same verified claims when they are read as such.

Claims have three forms: as found, as verified, and as the members of a text. What
a text gives is coerced on the way in (`TakenFrom`, `TimesFrom`, `TextsFrom`); what
is written is already in the form that the coercions lead to, so that both schemas
take it as it is (`written`, `writtenVerified`). For that a time has to fit into
its 64 bits, which is what its coercion is for (`Timely`).
-/

namespace SbomGate.Token

open Json

/-! ### Times -/

/-- A time of a signed 64-bit word. -/
def IsTime (t : Int) : Prop := -0x8000000000000000 ≤ t ∧ t < 0x8000000000000000

theorem IsTime.inRange {t : Int} (h : IsTime t) : (Number.whole t).InRange := by
  unfold IsTime at h
  unfold Number.InRange
  omega

theorem isTime_clampTime (i : Int) : IsTime (clampTime i) := by
  unfold IsTime clampTime
  omega

theorem clampTime_of_isTime {t : Int} (h : IsTime t) : clampTime t = t := by
  unfold IsTime at h
  unfold clampTime
  omega

theorem isTime_of_lenientTime {v : Value} {t : Int} (h : lenientTime v = some t) : IsTime t := by
  cases v with
  | number n =>
      cases n with
      | whole i => exact Option.some.inj h ▸ isTime_clampTime i
      | real x => exact Option.some.inj h ▸ isTime_clampTime x.floor
  | _ => cases h

theorem Claims.isTime_of_timeOf {ms : Members} {name : String} {t : Int}
    (h : timeOf ms name = some t) : IsTime t := by
  obtain ⟨v, -, hv⟩ := Option.bind_eq_some_iff.mp h
  exact isTime_of_lenientTime hv

/-! ### Claims that are found -/

namespace Claims

/-- Claims with the texts that a value gives under their names. -/
structure TextsFrom (v : Value) (d : Claims) : Prop where
  sub : d.sub = (v.field? claimNames "sub").bind lenientText
  repositoryOwner :
    d.repositoryOwner = (v.field? claimNames "repository_owner").bind lenientText
  repositoryId : d.repositoryId = (v.field? claimNames "repository_id").bind lenientText
  ref : d.ref = (v.field? claimNames "ref").bind lenientText
  sha : d.sha = (v.field? claimNames "sha").bind lenientText
  workflow : d.workflow = (v.field? claimNames "workflow").bind lenientText
  eventName : d.eventName = (v.field? claimNames "event_name").bind lenientText
  runId : d.runId = (v.field? claimNames "run_id").bind lenientText
  jti : d.jti = (v.field? claimNames "jti").bind lenientText

theorem textOf_of_recordRead {v : Value} {out : Members} (h : RecordRead fields v out)
    {name : String} (hfield : fields.find? (·.1 = name) = some (name, .defaulted, .anything)) :
    textOf out name = (v.field? claimNames name).bind lenientText := by
  rw [textOf, get?_of_recordRead h name hfield]

theorem textsFrom_of_recordRead {v : Value} {out : Members} (h : RecordRead fields v out) :
    TextsFrom v (ofMembers out) where
  sub := textOf_of_recordRead h rfl
  repositoryOwner := textOf_of_recordRead h rfl
  repositoryId := textOf_of_recordRead h rfl
  ref := textOf_of_recordRead h rfl
  sha := textOf_of_recordRead h rfl
  workflow := textOf_of_recordRead h rfl
  eventName := textOf_of_recordRead h rfl
  runId := textOf_of_recordRead h rfl
  jti := textOf_of_recordRead h rfl

/-- Claims whose times fit into their 64 bits. -/
structure Timely (d : Claims) : Prop where
  exp : ∀ t, d.exp = some t → IsTime t
  iat : ∀ t, d.iat = some t → IsTime t
  nbf : ∀ t, d.nbf = some t → IsTime t

/-- Claims that are read are timely. -/
theorem timely_of_ofBytes {text : Bytes} {d : Claims} (h : ofBytes text = .ok d) : d.Timely := by
  obtain ⟨v, -, rfl⟩ := map_eq_ok_iff.mp h
  exact ⟨fun _ => isTime_of_timeOf, fun _ => isTime_of_timeOf, fun _ => isTime_of_timeOf⟩

end Claims

namespace VerifiedClaims

/-! ### What is written -/

/-- A value that gives verified claims under their names, and nothing else. -/
structure GivenBy (v : Value) (c : VerifiedClaims) : Prop where
  iss : v.member? "iss" = some (.string c.iss)
  aud : v.member? "aud" = some (.string c.aud)
  exp : v.member? "exp" = some (.number (.whole c.exp))
  repository : v.member? "repository" = some (.string c.repository)
  actor : v.member? "actor" = some (.string c.actor)
  sub : v.member? "sub" = c.sub.map .string
  repositoryOwner : v.member? "repository_owner" = c.repositoryOwner.map .string
  repositoryId : v.member? "repository_id" = c.repositoryId.map .string
  ref : v.member? "ref" = c.ref.map .string
  sha : v.member? "sha" = c.sha.map .string
  workflow : v.member? "workflow" = c.workflow.map .string
  eventName : v.member? "event_name" = c.eventName.map .string
  runId : v.member? "run_id" = c.runId.map .string
  jti : v.member? "jti" = c.jti.map .string
  iat : v.member? "iat" = c.iat.map fun t => .number (.whole t)
  nbf : v.member? "nbf" = c.nbf.map fun t => .number (.whole t)
  /-- There are no other members. -/
  names : ∀ name, name ∉ claimNames → v.member? name = none

/-- Verified claims are written under their names. -/
theorem givenBy_toValue (c : VerifiedClaims) : c.GivenBy c.toValue := by
  constructor
  case names =>
    intro name h
    have hne : ∀ claim ∈ claimNames, claim ≠ name := fun claim hclaim heq => h (heq ▸ hclaim)
    simp only [claimNames, List.forall_mem_cons] at hne
    simp [toValue, Value.member?, Members.get?_append, Members.get?_textMember, hne]
  all_goals simp [toValue, Value.member?, Members.get?_append, Members.get?_textMember]

namespace GivenBy

variable {ms : Members} {c : VerifiedClaims}

/-- Texts and times are in canonical form. -/
theorem canonical (h : c.GivenBy (.object ms)) (hnodup : (ms.map (·.1)).Nodup) :
    c.GivenBy (Value.object ms).canonical := by
  have hget (name : String) : (Value.object ms).canonical.member? name =
      ((Value.object ms).member? name).map Value.canonical := by
    rw [Value.canonical]
    exact Members.get?_canonical hnodup name
  have htext (t : String) : (Value.string t).canonical = .string t :=
    Value.canonical_of_scalar rfl
  have htime (t : Int) : (Value.number (.whole t)).canonical = .number (.whole t) :=
    Value.canonical_of_scalar rfl
  constructor
  case names => exact fun name hname => by rw [hget, h.names name hname, Option.map_none]
  all_goals simp [hget, h.iss, h.aud, h.exp, h.repository, h.actor, h.sub, h.repositoryOwner,
    h.repositoryId, h.ref, h.sha, h.workflow, h.eventName, h.runId, h.jti, h.iat, h.nbf, htext,
    htime, Function.comp_def]

/-- The coercions leave what is written as it is. -/
theorem found (h : c.GivenBy (.object ms)) (htimely : c.found.Timely) :
    Claims.ofMembers ms = c.found := by
  have htext {name : String} {t : Option String} (h : ms.get? name = t.map .string) :
      Claims.textOf ms name = t := by
    rw [Claims.textOf, h]
    cases t <;> rfl
  have htime {name : String} {i : Option Int} (hi : ∀ t, i = some t → IsTime t)
      (h : ms.get? name = i.map fun t => .number (.whole t)) : Claims.timeOf ms name = i := by
    rw [Claims.timeOf, h]
    cases i with
    | none => rfl
    | some t => exact congrArg some (clampTime_of_isTime (hi t rfl))
  have haud : Claims.audienceOf ms = some (.string c.aud) := by
    rw [Claims.audienceOf, show ms.get? "aud" = _ from h.aud]
    rfl
  rw [Claims.ofMembers, VerifiedClaims.found, Claims.mk.injEq]
  exact ⟨Members.text?_of_get? h.iss, haud, htime htimely.exp h.exp,
    Members.text?_of_get? h.repository, Members.text?_of_get? h.actor, htext h.sub,
    htext h.repositoryOwner, htext h.repositoryId, htext h.ref, htext h.sha, htext h.workflow,
    htext h.eventName, htext h.runId, htext h.jti, htime htimely.iat h.iat,
    htime htimely.nbf h.nbf⟩

theorem verified (h : c.GivenBy (.object ms)) : VerifiedClaims.ofMembers ms = c := by
  have hexp : ms.whole? "exp" = some c.exp := Members.whole?_of_get? h.exp
  rw [ofMembers, hexp, Option.getD_some]
  rw [Members.text_of_get? h.iss, Members.text_of_get? h.aud, Members.text_of_get? h.repository,
    Members.text_of_get? h.actor, Members.text?_of_get? h.sub,
    Members.text?_of_get? h.repositoryOwner, Members.text?_of_get? h.repositoryId,
    Members.text?_of_get? h.ref, Members.text?_of_get? h.sha, Members.text?_of_get? h.workflow,
    Members.text?_of_get? h.eventName, Members.text?_of_get? h.runId, Members.text?_of_get? h.jti,
    Members.whole?_of_get? h.iat, Members.whole?_of_get? h.nbf]

end GivenBy

/-! ### Both schemas -/

/-- The claims that are times. -/
def timeNames : List String := ["exp", "iat", "nbf"]

/-- What is written is read back by a schema that takes texts and times, if it
requires no claim that can be left out. -/
theorem written {p : String → Presence} {s : String → Schema} {c : VerifiedClaims}
    (hc : c.found.Timely) (hp : ∀ name, name ∉ "exp" :: requiredTexts → p name ≠ .required)
    (htext : ∀ name ∉ timeNames, ∀ t, Rereads (s name) 0 (.string t))
    (htime : ∀ name ∈ timeNames, ∀ t, IsTime t → Rereads (s name) 0 (.number (.whole t))) :
    Written 0 (claimNames.map fun name => (name, p name, s name)) c.toValue.members := by
  have text (name : String) (t : String) (hname : name ∉ timeNames) :
      Written 0 [(name, p name, s name)] (textMember name t) :=
    .member _ (htext name hname t)
  have text? (name : String) (t : Option String)
      (hname : name ∉ timeNames ∧ name ∉ "exp" :: requiredTexts) :
      Written 0 [(name, p name, s name)] (textMember? name t) :=
    .textMember? (hp name hname.2) t (htext name hname.1)
  have time? (name : String) (i : Option Int) (hi : ∀ t, i = some t → IsTime t)
      (hname : name ∈ timeNames ∧ name ∉ "exp" :: requiredTexts) :
      Written 0 [(name, p name, s name)] (wholeMember? name i) :=
    .wholeMember? (hp name hname.2) fun t ht => htime name hname.1 t (hi t ht)
  have exp : Written 0 [("exp", p "exp", s "exp")] (wholeMember? "exp" (some c.exp)) :=
    .member _ (htime "exp" (by decide) c.exp (hc.exp _ rfl))
  have all := (((((((((((((((text "iss" c.iss (by decide)).append
    (text "aud" c.aud (by decide))).append exp).append
    (text "repository" c.repository (by decide))).append
    (text "actor" c.actor (by decide))).append
    (text? "sub" c.sub (by decide))).append
    (text? "repository_owner" c.repositoryOwner (by decide))).append
    (text? "repository_id" c.repositoryId (by decide))).append
    (text? "ref" c.ref (by decide))).append
    (text? "sha" c.sha (by decide))).append
    (text? "workflow" c.workflow (by decide))).append
    (text? "event_name" c.eventName (by decide))).append
    (text? "run_id" c.runId (by decide))).append
    (text? "jti" c.jti (by decide))).append
    (time? "iat" c.iat hc.iat (by decide))).append
    (time? "nbf" c.nbf hc.nbf (by decide))
  simpa only [toValue, Value.members, claimNames, List.map_cons, List.map_nil, List.cons_append,
    List.nil_append] using all

theorem written_claims {c : VerifiedClaims} (hc : c.found.Timely) :
    Written 0 Claims.fields c.toValue.members := by
  refine written hc (fun _ _ => by decide) (fun name _ t => ?_) fun name hname t ht => ?_
  · split
    · exact .optional (.text t)
    · exact .ofText (by decide) rfl
  · have hstrict : name ∉ Claims.strictNames := by
      revert name
      decide
    rw [if_neg hstrict]
    exact .ofWhole (by decide) ht.inRange rfl

theorem written_verified {c : VerifiedClaims} (hc : c.found.Timely) :
    Written 0 (claimNames.map fieldOf) c.toValue.members := by
  have hword {t : Int} (ht : IsTime t) : Rereads .int64 0 (.number (.whole t)) :=
    .ofWhole (by decide) ht.inRange (if_pos ht.2)
  refine written (p := fun name => (fieldOf name).2.1) (s := fun name => (fieldOf name).2.2) hc
    (fun name h => ?_) (fun name hname t => ?_) fun name hname t ht => ?_
  · obtain ⟨hexp, htexts⟩ := not_or.mp (mt List.mem_cons.mpr h)
    simp only [fieldOf, htexts, hexp, if_false]
    split <;> exact Presence.noConfusion
  · obtain ⟨hexp, htimes⟩ := not_or.mp (mt List.mem_cons.mpr hname)
    simp only [fieldOf, hexp, htimes, if_false]
    split
    · exact .text t
    · exact .optional (.text t)
  · rcases List.mem_cons.mp hname with rfl | htimes
    · exact hword ht
    · have htexts : name ∉ requiredTexts ∧ name ≠ "exp" := by
        revert name
        decide
      simp only [fieldOf, htexts, htimes, if_true, if_false]
      exact .optional (hword ht)

/-- What is written is found again. -/
theorem ofBytes_found (c : VerifiedClaims) (hc : c.found.Timely) :
    Claims.ofBytes (bytesOf c.toValue.text) = .ok c.found := by
  have hread : Claims.schema.readBytes (bytesOf c.toValue.text) = .ok c.toValue :=
    (written_claims hc).readBytes (by decide) (fun field h => (Claims.fields_plain field h).1)
      (by decide) "JwtClaims" false
  rw [Claims.ofBytes, hread]
  exact congrArg Except.ok (c.givenBy_toValue.found hc)

/-- What is written is read as the verified claims that it was written for. -/
theorem ofBytes_verified (c : VerifiedClaims) (hc : c.found.Timely) :
    VerifiedClaims.ofBytes (bytesOf c.toValue.text) = .ok c := by
  have hread : schema.readBytes (bytesOf c.toValue.text) = .ok c.toValue :=
    (written_verified hc).readBytes (by decide) (by decide) (by decide) "VerifiedClaims" false
  rw [VerifiedClaims.ofBytes, hread]
  exact congrArg Except.ok c.givenBy_toValue.verified

/-- What is written spells the verified claims under their names. -/
theorem givenBy_of_ofBytes (c : VerifiedClaims) (hc : c.found.Timely) :
    ∃ v, Value.ofBytes (bytesOf c.toValue.text) = .ok v ∧ c.GivenBy v := by
  have hwritten := written_claims hc
  have hnodup : (c.toValue.members.map (·.1)).Nodup :=
    List.Nodup.sublist hwritten.names (by decide)
  exact ⟨_, hwritten.valueOfBytes (by decide), c.givenBy_toValue.canonical hnodup⟩

end VerifiedClaims

/-- Claims that are read are those that the text spells under their names. -/
theorem Claims.from_of_ofBytes {text : Bytes} {d : Claims} (h : ofBytes text = .ok d) :
    ∃ v, SpellsUnder claimNames text v ∧ d.TakenFrom v ∧ d.TimesFrom v ∧ d.TextsFrom v := by
  obtain ⟨v, out, hspells, hrecord, rfl⟩ := recordRead_of_ofBytes h
  exact ⟨v, hspells, takenFrom_of_recordRead hrecord, timesFrom_of_recordRead hrecord,
    textsFrom_of_recordRead hrecord⟩

/-- **Verified claims are a fixed point.** Claims that are read are coerced once:
they are what the text gives under their names, texts and numbers as texts, times
as times. If they pass the checks, the verified claims are these claims. The text
written for them gives each of them under its name and nothing else; it is read as
the claims that were found before, which pass the same checks as the same verified
claims, and it is read as these verified claims themselves. -/
theorem verified_fixed_point {text : Bytes} {d : Claims} {e : Expectation} {now : Int}
    {c : VerifiedClaims} (hread : Claims.ofBytes text = .ok d) (hverify : d.verify e now = .ok c) :
    (∃ v, SpellsUnder claimNames text v ∧ d.TakenFrom v ∧ d.TimesFrom v ∧ d.TextsFrom v) ∧
      d = c.found ∧
      (∃ v, Value.ofBytes (bytesOf c.toValue.text) = .ok v ∧ c.GivenBy v) ∧
      (∃ again, Claims.ofBytes (bytesOf c.toValue.text) = .ok again ∧ again = d ∧
        again.verify e now = .ok c) ∧
      VerifiedClaims.ofBytes (bytesOf c.toValue.text) = .ok c := by
  obtain ⟨⟨hfound, -⟩, -⟩ := verify_sound hverify
  have hc : c.found.Timely := hfound ▸ Claims.timely_of_ofBytes hread
  refine ⟨Claims.from_of_ofBytes hread, hfound, c.givenBy_of_ofBytes hc,
    ⟨c.found, c.ofBytes_found hc, hfound.symm, ?_⟩, c.ofBytes_verified hc⟩
  rwa [← hfound]

/-- A payload that leaves much to the coercions. -/
def coercedText : Bytes :=
  ["\x7b\"actor\":\"x\",\"aud\":\"a\",\"event_name\":true,\"exp\":9.75,\"iat\":-0.25,",
    "\"iss\":\"i\",\"jti\":1.50,\"nbf\":18446744073709551615,\"note\":[],",
    "\"repository\":\"r\",\"repository_id\":42,\"sub\":null,\"workflow\":[]\x7d"].flatMap bytesOf

/-- What is verified of it: numbers are texts, times are rounded down or moved
into their range, and other values are dropped. -/
def coercedClaims : VerifiedClaims :=
  { iss := "i", aud := "a", exp := 9, repository := "r", actor := "x", sub := none,
    repositoryOwner := none, repositoryId := some "42", ref := none, sha := none,
    workflow := none, eventName := none, runId := none, jti := some "1.5", iat := some (-1),
    nbf := some 0x7FFFFFFFFFFFFFFF }

theorem verified_fixed_point_coerced :
    (∃ v, Value.ofBytes (bytesOf coercedClaims.toValue.text) = .ok v ∧ coercedClaims.GivenBy v) ∧
      Claims.ofBytes (bytesOf coercedClaims.toValue.text) = Claims.ofBytes coercedText ∧
      VerifiedClaims.ofBytes (bytesOf coercedClaims.toValue.text) = .ok coercedClaims := by
  have hread : Claims.ofBytes coercedText = .ok coercedClaims.found := by decide +kernel
  have hverify : coercedClaims.found.verify ⟨"i", "a"⟩ 8 = .ok coercedClaims := by decide +kernel
  obtain ⟨-, -, hgiven, ⟨again, hagain, rfl, -⟩, hverified⟩ := verified_fixed_point hread hverify
  exact ⟨hgiven, hagain.trans hread.symm, hverified⟩

end SbomGate.Token
