import SbomGate.Gate.Router
import SbomGate.Proofs.OptionalClaims
import SbomGate.Proofs.Submission
import SbomGate.Proofs.Utf8
/-!
# SbomGate.Proofs.Intake

**What reaches the sink**, and what everyone else is answered.

A request takes one of six courses (`Course`): it is for another route, or it
stops at one of the four steps of a submission, or it goes through all of them.
The course is fixed by what the request is, so the status says where it
stopped, and the sink is offered exactly what passed every step.
-/

namespace SbomGate.Gate

open Json Http

/-! ### Credentials -/

/-- The first credential of a request, if every byte of it is that of a visible
character, a space or a tab. -/
def Presents (r : Request) (s : String) : Prop :=
  ∃ before value after, r.headers = before ++ ("authorization", value) :: after ∧
    (∀ h ∈ before, h.1 ≠ "authorization") ∧ (∀ b ∈ value, isTextByte b = true) ∧
    bytesOf s = value

theorem headerText?_eq_some_iff {value : Bytes} {s : String} :
    headerText? value = some s ↔ (∀ b ∈ value, isTextByte b = true) ∧ bytesOf s = value := by
  rw [headerText?, ← List.all_eq_true]
  by_cases hall : value.all isTextByte = true
  · have hascii : ∀ b ∈ value, b < 0x80 := by
      intro b hb
      have htext := List.all_eq_true.mp hall b hb
      grind [isTextByte]
    have hbytes : bytesOf (String.ofList (value.map fun b => Char.ofNat b.toNat)) = value := by
      rw [bytesOf, String.toList_ofList, Text.Utf8.encode_map_ofNat hascii]
    rw [if_pos hall, Option.some.injEq]
    constructor
    · rintro rfl
      exact ⟨hall, hbytes⟩
    · rintro ⟨-, hs⟩
      exact bytesOf_injective (hbytes.trans hs.symm)
  · simp [hall]

theorem credential_eq_some_iff {r : Request} {s : String} :
    credential r = some s ↔ Presents r s := by
  rw [credential, Option.bind_eq_some_iff]
  constructor
  · rintro ⟨value, hvalue, hs⟩
    obtain ⟨⟨name, value'⟩, hfind, rfl⟩ := Option.map_eq_some_iff.mp hvalue
    obtain ⟨hname, before, after, hsplit, hbefore⟩ := List.find?_eq_some_iff_append.mp hfind
    obtain rfl : name = "authorization" := by simpa using hname
    obtain ⟨htext, hbytes⟩ := headerText?_eq_some_iff.mp hs
    exact ⟨before, value', after, hsplit, by simpa using hbefore, htext, hbytes⟩
  · rintro ⟨before, value, after, hsplit, hbefore, htext, hbytes⟩
    refine ⟨value, ?_, headerText?_eq_some_iff.mpr ⟨htext, hbytes⟩⟩
    refine Option.map_eq_some_iff.mpr ⟨("authorization", value), ?_, rfl⟩
    exact List.find?_eq_some_iff_append.mpr
      ⟨by simp, before, after, hsplit, by simpa using hbefore⟩

/-! ### Courses -/

/-- A request for the route of submissions. -/
structure Submits (r : Request) : Prop where
  /-- The path is that of submissions. -/
  path : r.path = "/ingest/sbom"
  /-- The method is that of submissions. -/
  method : r.method = "POST"

/-- A query behind the path of submissions makes no difference. -/
theorem submits_iff_of_target {r : Request} {query : String}
    (h : r.target = "/ingest/sbom" ∨ r.target = "/ingest/sbom?" ++ query) :
    Submits r ↔ r.method = "POST" := by
  have hpath : r.path = "/ingest/sbom" := by
    rcases h with h | h
    · rw [Request.path, h]
      decide
    · rw [Request.path, h, String.toList_append]
      rfl
  exact ⟨fun hr => hr.method, fun hmethod => ⟨hpath, hmethod⟩⟩

/-- Who is admitted with a request, or why nobody is. -/
def admission (g : Gate) (now : Int) (r : Request) : Except Auth.Error Token.VerifiedClaims :=
  (Auth.verify g.verifier now g.store (credential r)).2

/-- A request that passes every step before the sink, and what it offers to the
sink. -/
structure Passes (g : Gate) (now : Int) (r : Request) (o : Intake.Offer) : Prop where
  /-- It is for the route of submissions. -/
  submits : Submits r
  /-- The caller is admitted with the claims of the offer. -/
  admitted : g.admission now r = .ok o.claims
  /-- The body is not too long. -/
  fits : r.body.length ≤ g.bodyLimit
  /-- The body is the submission of the offer. -/
  accepted : Spdx.Submission.ofBytes r.body = .ok o.submission

/-- The course that a request takes through a gate, with what the sink was
offered in the end and the response. -/
inductive Course (g : Gate) (now : Int) (r : Request) : List Intake.Offer → Response → Prop
  /-- It is for another route. -/
  | elsewhere {response : Response} (hroute : ¬ Submits r)
      (hstatus : response.status ∈ [200, 404, 405]) : Course g now r g.sink.offers response
  /-- The caller is not admitted. -/
  | unadmitted {e : Auth.Error} (hroute : Submits r) (hadmission : g.admission now r = .error e) :
      Course g now r g.sink.offers (Refusal.auth e).response
  /-- The body is too long. -/
  | tooLong {c : Token.VerifiedClaims} (hroute : Submits r) (hadmission : g.admission now r = .ok c)
      (hlong : g.bodyLimit < r.body.length) :
      Course g now r g.sink.offers Refusal.bodyTooLong.response
  /-- The body is no submission. -/
  | invalid {c : Token.VerifiedClaims} {rejection : Spdx.Rejection} (hroute : Submits r)
      (hadmission : g.admission now r = .ok c) (hfits : r.body.length ≤ g.bodyLimit)
      (hbody : Spdx.Submission.ofBytes r.body = .error rejection) :
      Course g now r g.sink.offers (Refusal.invalid rejection).response
  /-- The sink fails. -/
  | failed {o : Intake.Offer} {f : Intake.Fault} (hpasses : Passes g now r o)
      (hsink : g.sink.answer o = .error f) :
      Course g now r (g.sink.offers ++ [o]) (Refusal.sink f).response
  /-- The sink takes the submission in. -/
  | taken {o : Intake.Offer} {receipt : Intake.Receipt} (hpasses : Passes g now r o)
      (hsink : g.sink.answer o = .ok receipt) :
      Course g now r (g.sink.offers ++ [o]) (jsonResponse 202 receipt.toValue)

theorem healthResponse_status (method : String) :
    (healthResponse method).status ∈ [200, 404, 405] := by
  unfold healthResponse
  dsimp only
  split
  · decide
  · split <;> decide

/-- A request for another route changes nothing, and its response does not
depend on the gate. -/
theorem handle_of_not_submits {r : Request} (h : ¬ Submits r) :
    ∃ response : Response, response.status ∈ [200, 404, 405] ∧
      ∀ (g : Gate) (now : Int), g.handle now r = (g, response) := by
  unfold handle
  split
  · next hpath =>
      split
      · next hmethod => exact absurd ⟨hpath, hmethod⟩ h
      · exact ⟨_, by decide, fun _ _ => rfl⟩
  · split
    · exact ⟨_, healthResponse_status r.method, fun _ _ => rfl⟩
    · exact ⟨_, by decide, fun _ _ => rfl⟩

theorem handle_of_submits {g : Gate} {now : Int} {r : Request} (h : Submits r) :
    g.handle now r = ((g.submit now r).1, submissionResponse (g.submit now r).2) := by
  have hpath : r.path = submissionPath := h.path
  rw [handle, if_pos hpath, if_pos h.method]

theorem takeIn_course {g : Gate} {now : Int} {r : Request} {c : Token.VerifiedClaims}
    (hroute : Submits r) (hadmission : g.admission now r = .ok c) (store : Keys.Store) :
    Course g now r (({ g with store }.takeIn c r.body).1.sink.offers)
      (submissionResponse ({ g with store }.takeIn c r.body).2) := by
  unfold takeIn readBody
  by_cases hlong : g.bodyLimit < r.body.length
  · rw [if_pos hlong]
    exact .tooLong hroute hadmission hlong
  · rw [if_neg hlong]
    have hfits := Nat.le_of_not_lt hlong
    cases hbody : Spdx.Submission.ofBytes r.body with
    | error rejection => exact .invalid hroute hadmission hfits hbody
    | ok submission =>
        have hpasses : Passes g now r ⟨c, submission⟩ := ⟨hroute, hadmission, hfits, hbody⟩
        cases hsink : g.sink.answer ⟨c, submission⟩ with
        | error f =>
            simp only [Except.mapError, Intake.Sink.accept, hsink]
            exact .failed hpasses hsink
        | ok receipt =>
            simp only [Except.mapError, Intake.Sink.accept, hsink]
            exact .taken hpasses hsink

/-- Every request takes a course. -/
theorem handle_course (g : Gate) (now : Int) (r : Request) :
    Course g now r (g.handle now r).1.sink.offers (g.handle now r).2 := by
  by_cases hroute : Submits r
  · rw [handle_of_submits hroute, submit]
    rcases hv : Auth.verify g.verifier now g.store (credential r) with ⟨store, e | c⟩
    · exact .unadmitted hroute (by rw [admission, hv])
    · exact takeIn_course hroute (by rw [admission, hv]) store
  · obtain ⟨response, hstatus, hhandle⟩ := handle_of_not_submits hroute
    rw [hhandle]
    exact .elsewhere hroute hstatus

/-! ### Outcomes -/

/-- What a sink that takes everything in tells the sender of an offer. -/
def queuedReport (repository : String) (packages : Nat) : Value :=
  .object [("message", .string "queued"), ("repository", .string repository),
    ("package_count", .number (.whole packages))]

/-- What the sender of a text that is no submission is told. -/
def problemReport (problems : List Spdx.Problem) : Value :=
  .object [("error", .string "Invalid SPDX document."),
    ("messages", .array (problems.map fun p => .string p.message))]

/-- A caller is admitted by a token that is signed and has not expired. -/
def Vouched (g : Gate) (now : Int) (r : Request) (c : Token.VerifiedClaims) : Prop :=
  ∃ token set, credential r = some (Auth.scheme ++ token) ∧
    (g.store.get g.verifier.keySetUrl).2 = .ok set ∧
    Auth.Attested set g.verifier.expectation (bytesOf token) c ∧ now < c.exp

theorem statusOf_eq_401_iff {k : Auth.Category} :
    Refusal.statusOf k = 401 ↔ k = .unauthenticated := by
  cases k <;> decide

theorem statusOf_eq_403_iff {k : Auth.Category} :
    Refusal.statusOf k = 403 ↔ k ≠ .unauthenticated := by
  cases k <;> decide

theorem statusOf_lt (k : Auth.Category) : 202 < Refusal.statusOf k ∧ Refusal.statusOf k < 413 := by
  cases k <;> decide

section

variable {g : Gate} {now : Int} {r : Request} {offers : List Intake.Offer} {response : Response}

theorem Passes.unique {o o' : Intake.Offer} (h : Passes g now r o) (h' : Passes g now r o') :
    o = o' := by
  obtain ⟨c, s⟩ := o
  obtain ⟨c', s'⟩ := o'
  obtain rfl : c = c' := Except.ok.inj (h.admitted.symm.trans h'.admitted)
  obtain rfl : s = s' := Except.ok.inj (h.accepted.symm.trans h'.accepted)
  rfl

/-- A request that passes is the only one of its kind: it offers one thing. -/
theorem Passes.iff_eq {o o' : Intake.Offer} (h : Passes g now r o) :
    Passes g now r o' ↔ o = o' :=
  ⟨h.unique, fun h' => h' ▸ h⟩

theorem not_passes_of_error {e : Auth.Error} (h : g.admission now r = .error e)
    (o : Intake.Offer) : ¬ Passes g now r o := by
  intro hp
  rw [hp.admitted] at h
  cases h

theorem not_passes_of_long (h : g.bodyLimit < r.body.length) (o : Intake.Offer) :
    ¬ Passes g now r o :=
  fun hp => absurd hp.fits (Nat.not_le.mpr h)

theorem not_passes_of_invalid {rejection : Spdx.Rejection}
    (h : Spdx.Submission.ofBytes r.body = .error rejection) (o : Intake.Offer) :
    ¬ Passes g now r o := by
  intro hp
  rw [hp.accepted] at h
  cases h

/-- A course tells from its end how far the request came. -/
theorem Course.outcome (h : Course g now r offers response) :
    (∀ o, offers = g.sink.offers ++ [o] ↔ Passes g now r o) ∧
      (offers = g.sink.offers ↔ ¬ ∃ o, Passes g now r o) ∧
      (response.status = 401 ↔ Submits r ∧ Auth.Fails (g.admission now r) .unauthenticated) ∧
      (response.status = 403 ↔
        Submits r ∧ ∃ k, k ≠ .unauthenticated ∧ Auth.Fails (g.admission now r) k) ∧
      (response.status = 413 ↔
        Submits r ∧ ∃ c, g.admission now r = .ok c ∧ g.bodyLimit < r.body.length) ∧
      (∀ body, response.status = 422 ∧ response.body = body ↔
        Submits r ∧ ∃ c rejection, g.admission now r = .ok c ∧ r.body.length ≤ g.bodyLimit ∧
          Spdx.Submission.ofBytes r.body = .error rejection ∧
          body = (problemReport rejection.problems).text) ∧
      (response.status = 500 ↔ ∃ o f, Passes g now r o ∧ g.sink.answer o = .error f) ∧
      (∀ body, response.status = 202 ∧ response.body = body ↔
        ∃ o receipt, Passes g now r o ∧ g.sink.answer o = .ok receipt ∧
          body = receipt.toValue.text) := by
  cases h with
  | elsewhere hroute hstatus =>
      have hno : ∀ o, ¬ Passes g now r o := fun o hp => hroute hp.submits
      rcases (by simpa using hstatus : response.status = 200 ∨ response.status = 404 ∨
        response.status = 405) with h | h | h <;> simp [hroute, hno, h]
  | @unadmitted e hroute hadmission =>
      -- such a status lies between those of what passes and of what is in the body
      have hstatus := statusOf_lt e.category
      have hne : ∀ n, n = 202 ∨ 413 ≤ n → Refusal.statusOf e.category ≠ n := by omega
      simp [hroute, hadmission, not_passes_of_error hadmission, Refusal.response, Refusal.status,
        statusOf_eq_401_iff, statusOf_eq_403_iff, hne]
  | tooLong hroute hadmission hlong =>
      simp [hroute, hadmission, hlong, Nat.not_le.mpr hlong, not_passes_of_long hlong,
        Refusal.response, Refusal.status]
  | @invalid c rejection hroute hadmission hfits hbody =>
      have htext : (Refusal.invalid rejection).body = problemReport rejection.problems := by
        simp [Refusal.body, problemReport, textMember, textsMember?, Spdx.Rejection.messages,
          Spdx.Rejection.detail]
      simp [hroute, hadmission, hfits, Nat.not_lt.mpr hfits, hbody, not_passes_of_invalid hbody,
        Refusal.response, Refusal.status, htext, eq_comm]
  | failed hpasses hsink =>
      simp [hpasses.submits, hpasses.admitted, Nat.not_lt.mpr hpasses.fits, hpasses.accepted,
        hpasses.iff_eq, hsink, Refusal.response, Refusal.status]
  | taken hpasses hsink =>
      simp [hpasses.submits, hpasses.admitted, Nat.not_lt.mpr hpasses.fits, hpasses.accepted,
        hpasses.iff_eq, hsink, jsonResponse, eq_comm]

/-- What passes is vouched for by a token. -/
theorem Passes.vouched {o : Intake.Offer} (h : Passes g now r o) : Vouched g now r o.claims :=
  Auth.attested_of_verify h.admitted

/-- What passes was sent as a document, with or without an envelope. -/
theorem Passes.sent {o : Intake.Offer} (h : Passes g now r o) :
    ∃ v, Value.ofBytes r.body = .ok v ∧
      o.submission.packageCount = Spdx.listedPackages (Spdx.unwrap v) := by
  obtain ⟨v, hread, hvalue⟩ := Spdx.ofBytes_eq_ok_iff.mp h.accepted
  exact ⟨v, hread, Spdx.packageCount_of_ofValue hvalue⟩

end

/-- **What passes the gate.** A request submits something if it is a `POST` to
`/ingest/sbom`, with a query or without. The sink is offered exactly one submission of a
request that passes every step and nothing of any other; the first step that
fails decides the status. A sink that takes everything in reports the
repository that the signed token names and the number of packages that were
sent. Requests for other routes leave the gate as it is and are answered
without it. -/
theorem handle_outcome (g : Gate) (now : Int) (r : Request) :
    let next := (g.handle now r).1
    let response := (g.handle now r).2
    (∀ query, r.target = "/ingest/sbom" ∨ r.target = "/ingest/sbom?" ++ query →
      (Submits r ↔ r.method = "POST")) ∧
    (∀ s, credential r = some s ↔ Presents r s) ∧
    (∀ o, next.sink.offers = g.sink.offers ++ [o] ↔ Passes g now r o) ∧
    (next.sink.offers = g.sink.offers ↔ ¬ ∃ o, Passes g now r o) ∧
    (response.status = 401 ↔ Submits r ∧ Auth.Fails (g.admission now r) .unauthenticated) ∧
    (response.status = 403 ↔
      Submits r ∧ ∃ k, k ≠ .unauthenticated ∧ Auth.Fails (g.admission now r) k) ∧
    (response.status = 413 ↔
      Submits r ∧ ∃ c, g.admission now r = .ok c ∧ g.bodyLimit < r.body.length) ∧
    (∀ body, response.status = 422 ∧ response.body = body ↔
      Submits r ∧ ∃ c problems, g.admission now r = .ok c ∧ r.body.length ≤ g.bodyLimit ∧
        Spdx.Problems r.body problems ∧ body = (problemReport problems).text) ∧
    (response.status = 500 ↔ ∃ o f, Passes g now r o ∧ g.sink.answer o = .error f) ∧
    (∀ body, response.status = 202 ∧ response.body = body ↔
      ∃ o receipt, Passes g now r o ∧ g.sink.answer o = .ok receipt ∧
        body = receipt.toValue.text) ∧
    (g.sink.answer = Intake.Sink.accepting.answer → ∀ body,
      (response.status = 202 ∧ response.body = body ↔
        ∃ o v, Passes g now r o ∧ Vouched g now r o.claims ∧ Value.ofBytes r.body = .ok v ∧
          body = (queuedReport o.claims.repository
            (Spdx.listedPackages (Spdx.unwrap v))).text)) ∧
    (¬ Submits r → next = g ∧ ∀ (g' : Gate) (now' : Int), g'.handle now' r = (g', response)) := by
  intro next response
  have hcourse : Course g now r next.sink.offers response := g.handle_course now r
  obtain ⟨hoffer, hnone, h401, h403, h413, h422, h500, h202⟩ := hcourse.outcome
  refine ⟨fun query => submits_iff_of_target, fun s => credential_eq_some_iff, hoffer, hnone,
    h401, h403, h413, ?_, h500, h202, ?_, ?_⟩
  · intro body
    rw [h422]
    constructor
    · rintro ⟨hroute, c, rejection, hc, hfits, hbody, htext⟩
      exact ⟨hroute, c, rejection.problems, hc, hfits, Spdx.ofBytes_eq_error_iff.mp hbody, htext⟩
    · rintro ⟨hroute, c, problems, hc, hfits, hproblems, htext⟩
      have hbody : Spdx.Submission.ofBytes r.body = .error ⟨problems⟩ :=
        Spdx.ofBytes_eq_error_iff.mpr hproblems
      exact ⟨hroute, c, ⟨problems⟩, hc, hfits, hbody, htext⟩
  · -- an accepting sink answers with the repository and the count of what it is offered
    intro hsink body
    rw [h202]
    constructor
    · rintro ⟨o, receipt, hpasses, hanswer, htext⟩
      obtain ⟨v, hread, hcount⟩ := hpasses.sent
      rw [hsink] at hanswer
      obtain rfl := Except.ok.inj hanswer
      refine ⟨o, v, hpasses, hpasses.vouched, hread, ?_⟩
      rw [htext, ← hcount]
      rfl
    · rintro ⟨o, v, hpasses, -, hread, htext⟩
      obtain ⟨v', hread', hcount⟩ := hpasses.sent
      obtain rfl := Except.ok.inj (hread.symm.trans hread')
      refine ⟨o, .queued o.claims.repository o.submission.packageCount, hpasses, ?_, ?_⟩
      · rw [hsink]
        rfl
      · rw [htext, ← hcount]
        rfl
  · intro hroute
    obtain ⟨response', -, hhandle⟩ := handle_of_not_submits hroute
    have hr : response = response' := by simp only [response, hhandle]
    exact ⟨by simp only [next, hhandle], fun g' now' => by rw [hr, hhandle]⟩

/-! ### A submission that is taken in -/

theorem isTextByte_of_symbol {b : UInt8} (h : (Base64Url.value? b).isSome) :
    isTextByte b = true :=
  Base64Url.forall_symbol (P := (isTextByte · = true)) (by decide +kernel) h

/-- A signed token can stand in a header. -/
theorem isTextByte_of_mem_sign {key : Rsa.PrivateKey} {kid : Option String} {claims : Value}
    {b : UInt8} (h : b ∈ bytesOf (Token.sign key kid claims)) : isTextByte b = true := by
  have hencoded : ∀ bytes, ∀ b ∈ Base64Url.encode bytes, isTextByte b = true :=
    fun bytes b hb => isTextByte_of_symbol (Base64Url.encode_symbols bytes b hb)
  rw [(Token.signedParts_spells key kid claims).spelled] at h
  simp only [Token.signedParts, List.mem_append, List.mem_cons] at h
  rcases h with h | rfl | h | rfl | h
  · exact hencoded _ b h
  · decide
  · exact hencoded _ b h
  · decide
  · exact hencoded _ b h

/-- A document that lists one package. -/
def sampleBody : Bytes :=
  ["\x7b\"spdxVersion\":\"SPDX-2.3\",", "\"SPDXID\":\"SPDXRef-D\",\"name\":\"n\",",
    "\"documentNamespace\":\"a:b\",",
    "\"packages\":[\x7b\"name\":\"p\"\x7d]\x7d"].flatMap bytesOf

/-- The document arrives with a signed token, at a path with a query. It is offered to
the sink, and the sender is told of the repository of the token and the package of the
document. -/
theorem handle_outcome_taken :
    let g : Gate := ⟨Token.sampleVerifier, Auth.sampleKeyStore, .accepting, 1000⟩
    let token := Token.sampleToken Token.sampleMembers
    let r : Request := ⟨"POST", "/ingest/sbom?from=ci",
      [("host", bytesOf "gate"), ("authorization", bytesOf (Auth.scheme ++ token))], sampleBody⟩
    Submits r ∧ credential r = some (Auth.scheme ++ token) ∧
      ∃ o, Passes g 0 r o ∧ (g.handle 0 r).1.sink.offers = [o] ∧
        (g.handle 0 r).2.status = 202 ∧ (g.handle 0 r).2.body = (queuedReport "r" 1).text := by
  intro g token r
  obtain ⟨htarget, hcredential, hoffer, -, -, -, -, -, -, -, hqueued, -⟩ := handle_outcome g 0 r
  have hsubmits : Submits r := (htarget "from=ci" (.inr rfl)).mpr rfl
  have hscheme : ∀ b ∈ Text.Utf8.encode Auth.scheme.toList, isTextByte b = true := by
    decide +kernel
  have hpresents : Presents r (Auth.scheme ++ token) := by
    refine ⟨[("host", bytesOf "gate")], _, [], rfl, by decide, ?_, rfl⟩
    intro b hb
    rw [bytesOf, String.toList_append, Text.Utf8.encode_append, List.mem_append] at hb
    rcases hb with hb | hb
    · exact hscheme b hb
    · exact isTextByte_of_mem_sign hb
  have hcred : credential r = some (Auth.scheme ++ token) := (hcredential _).mpr hpresents
  obtain ⟨claims, hclaims, hrepository⟩ : ∃ claims,
      (Token.Claims.ofMembers Token.sampleMembers).verify Token.sampleVerifier.expectation 0 =
        .ok claims ∧ claims.repository = "r" := ⟨_, rfl, rfl⟩
  obtain ⟨submission, hsubmission, hcount⟩ :=
    map_eq_ok_iff.mp (show (Spdx.Submission.ofBytes sampleBody).map (·.packageCount) = .ok 1 by
      decide +kernel)
  have hpasses : Passes g 0 r ⟨claims, submission⟩ := by
    refine ⟨hsubmits, ?_, by decide +kernel, hsubmission⟩
    rw [admission, hcred, Auth.verify_of_token, Auth.lookup_sampleKeyStore]
    exact (Auth.verifyWithKeys_of_signed (Token.headed_sampleToken _)
      (Token.selects_sampleJwk "u" []) Token.signed_sampleMembers
      Token.claimed_sampleMembers).trans (congrArg _ hclaims)
  obtain ⟨v, hread, hlisted⟩ := hpasses.sent
  refine ⟨hsubmits, hcred, _, hpasses, (hoffer _).mpr hpasses, ?_⟩
  refine (hqueued rfl _).mpr ⟨_, v, hpasses, hpasses.vouched, hread, ?_⟩
  rw [← hlisted, hcount, hrepository]

end SbomGate.Gate
