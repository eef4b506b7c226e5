import Sepp.LineText
import Sepp.NbiServer
import Sepp.Reference

/-!
# Transport under TLS

The consumer's SEPP sends the NF request itself; the peer's NBI server
wraps it into JSON and sends a GET to the local NF, and what the NF
answers comes back under the status 200. `tls_request_iff` says which
requests arrive as they were sent, and `tls_answer_iff` which answers
return as they were given.

`deliver` is the HTTP stack between the two: it takes the peer's URL off,
cuts the query off at the first question mark, and lower-cases header
names. That nothing else changes on the way is an assumption; the peer's
server decodes `%` escapes of a path, so it is met by paths without any.
-/

namespace Sepp

/-! ## The HTTP stack -/

def toLower (s : Str) : Str :=
  s.map fun c => if 65 ≤ c.toNat ∧ c.toNat ≤ 90 then c + 32 else c

/-- A request as the peer's server reads it, if it arrives unchanged and its
path holds no `%` escape, which the server would decode. -/
def deliver (url : Str) (r : HttpRequest) : NbiRequest :=
  let target := r.uri.drop url.length
  { method := r.method.name
    path := ((LineText.splitFirst questionMark target).getD (target, [])).1
    rawQuery := ((LineText.splitFirst questionMark target).getD (target, [])).2
    headers := HeaderMap.insertAll ∅ (r.headers.entries.map fun e => ⟨toLower e.1, e.2⟩)
    body := r.body }

/-! ## The handler -/

section Forward

variable {E : Platform} {cfg : SeppConfig} {σ : N32fForward}
  {nf : HttpRequest → HttpResponse} {reqData respData : Json} {respHeaders : HeaderMap}

/-- A wrapped request is sent on at most once, as a GET without a body, and
accepted when the NF answers. -/
theorem handleN32fForward_cases :
    (handleN32fForward E cfg σ nf reqData respData respHeaders).sent = []
    ∨ ∃ r, (handleN32fForward E cfg σ nf reqData respData respHeaders).sent = [r]
      ∧ r.method = .GET ∧ r.body = []
      ∧ ((nf r).statusCode ≠ 0 →
          (handleN32fForward E cfg σ nf reqData respData respHeaders).ret = .ok true
          ∧ (handleN32fForward E cfg σ nf reqData respData respHeaders).respData
              = forwardedJson (responseJson E (nf r)) (nf r).statusCode) := by
  unfold handleN32fForward
  split
  · exact Or.inl rfl
  · split
    · exact Or.inl rfl
    · split
      · exact Or.inl rfl
      · rename_i authority path _
        refine Or.inr ⟨targetRequest E cfg authority path (ascii "GET") []
          (wrappedHeaders reqData), ?_, rfl, rfl, fun hst => ?_⟩
        · simp only [sendHttpRequestToTarget]
          split <;> rfl
        · simp only [sendHttpRequestToTarget, if_neg hst]
          exact ⟨trivial, trivial⟩

end Forward

section Server

variable {E : Platform} {cfg : SeppConfig} {s : SeppApp}
  {nf : HttpRequest → HttpResponse} {req : NbiRequest}

/-- Whatever the method, what the `/` resource sends it sends through the
handler, and an accepted request is answered by `sendOk`. -/
theorem nbi_handleN32fForward_cases :
    (NbiServer.handleN32fForward E cfg (some s) nf req).sent = []
    ∨ ∃ r, (NbiServer.handleN32fForward E cfg (some s) nf req).sent = [r]
      ∧ r.method = .GET ∧ r.body = []
      ∧ ((nf r).statusCode ≠ 0 → ∃ headers cause,
          (NbiServer.handleN32fForward E cfg (some s) nf req).reply
            = NbiServer.sendOk E (forwardedJson (responseJson E (nf r)) (nf r).statusCode)
                headers cause) := by
  have hhandler : ∀ (j : Json) (cause failure detail : Str),
      (NbiServer.forwardHandler E cfg nf s j).sent = []
      ∨ ∃ r, (NbiServer.forwardHandler E cfg nf s j).sent = [r]
        ∧ r.method = .GET ∧ r.body = []
        ∧ ((nf r).statusCode ≠ 0 → ∃ headers,
            NbiServer.replyTo E (NbiServer.forwardHandler E cfg nf s j) cause failure detail
                false
              = NbiServer.sendOk E (forwardedJson (responseJson E (nf r)) (nf r).statusCode)
                  headers cause) := by
    intro j cause failure detail
    rcases handleN32fForward_cases (E := E) (σ := s.forward) with hnone | ⟨r, hr, hm, hb, hok⟩
    · exact Or.inl hnone
    · refine Or.inr ⟨r, hr, hm, hb, fun hst =>
        ⟨(NbiServer.forwardHandler E cfg nf s j).respHeaders, ?_⟩⟩
      obtain ⟨hret, hresp⟩ := hok hst
      simp only [NbiServer.replyTo, NbiServer.forwardHandler, hret, hresp, Bool.false_and,
        Bool.false_eq_true, if_false]
  simp only [NbiServer.handleN32fForward, NbiServer.processPostRequest]
  split
  · rcases hhandler (NbiServer.wrapRequest req) (ascii "MALFORMED_REQUEST")
      (ascii "FORWARDING_FAILED") (ascii "N32-F GET forwarding failed")
      with hnone | ⟨r, hr, hm, hb, hok⟩
    · exact Or.inl hnone
    · exact Or.inr ⟨r, hr, hm, hb, fun hst => ⟨_, _, (hok hst).choose_spec⟩⟩
  · split
    · exact Or.inl rfl
    · split
      · exact Or.inl rfl
      · rename_i j hj
        rcases hhandler j (ascii "MALFORMED_JSON") (ascii "FORWARDING_FAILED")
          (ascii "N32-F message forwarding failed") with hnone | ⟨r, hr, hm, hb, hok⟩
        · exact Or.inl hnone
        · exact Or.inr ⟨r, hr, hm, hb, fun hst => ⟨_, _, (hok hst).choose_spec⟩⟩

end Server

/-! ## Requests -/

theorem forcePlainHttp_tlsApiRoot (cfg : SeppConfig) (a : Str) :
    forcePlainHttp (SeppApp.tlsApiRoot cfg a) = forcePlainHttp a := by
  unfold SeppApp.tlsApiRoot
  split
  · rename_i hno
    have hplain : forcePlainHttp a = ascii "http://" ++ a := by
      rw [forcePlainHttp, if_neg hno.2, if_neg hno.1]
    cases cfg.tlsEnabled
    · exact (forcePlainHttp_http a).trans hplain.symm
    · exact (forcePlainHttp_https a).trans hplain.symm
  · rfl

/-- The headers of a wrapped request are the request's. -/
theorem lookup_wrappedHeaders (req : NbiRequest) (k : Str) :
    (wrappedHeaders (NbiServer.wrapRequest req)).lookup k = req.headers.lookup k := by
  have hfold : ∀ (l : List (Σ _ : Str, Str)) (m : HeaderMap),
      (l.map fun e => (e.1, Json.str e.2)).foldl addStringMember m = m.insertAll l := by
    intro l
    induction l with
    | nil => intro m; rfl
    | cons e l ih => intro m; exact ih (m.insert e.1 e.2)
  have hwrapped : wrappedHeaders (NbiServer.wrapRequest req)
      = HeaderMap.insertAll ∅ req.headers.entries := hfold req.headers.entries ∅
  have hcopy := HeaderMap.lookup_insertAll_filter (k := k) (m := ∅) rfl req.headers
    fun _ => true
  rw [List.filter_eq_self.mpr fun _ _ => rfl] at hcopy
  rw [hwrapped, hcopy]
  cases req.headers.lookup k <;> rfl

theorem sent_wrapRequest {E : Platform} {cfg : SeppConfig} {s : SeppApp}
    {nf : HttpRequest → HttpResponse} {req : NbiRequest} {a root : Str}
    (hs : s.forward.securityCapability = ascii "TLS") (hget : req.method = ascii "GET")
    (ha : req.headers.lookup authorityName = some a)
    (hroot : req.headers.lookup targetApiRoot = some root) (hne : root ≠ []) :
    ∃ r, (NbiServer.handleN32fForward E cfg (some s) nf req).sent = [r]
      ∧ r.method = .GET ∧ r.body = []
      ∧ r.uri = forcePlainHttp root ++ (req.path ++ questionMark :: req.rawQuery) := by
  have hauth : NbiServer.requestAuthority req.headers = a := by
    rw [NbiServer.requestAuthority, ha]
  have htarget : wrappedTarget (NbiServer.wrapRequest req)
      = .ok (a, req.path ++ questionMark :: req.rawQuery) := by
    rw [← hauth]
    rfl
  have hvalid : validateN32fMessage (NbiServer.wrapRequest req) = true := rfl
  have hhost : targetEndpoint cfg a (wrappedHeaders (NbiServer.wrapRequest req))
      = forcePlainHttp root := by
    rw [targetEndpoint, lookup_wrappedHeaders, hroot]
    simp only [if_pos hne]
  refine ⟨targetRequest E cfg a (req.path ++ questionMark :: req.rawQuery) (ascii "GET") []
    (wrappedHeaders (NbiServer.wrapRequest req)), ?_, rfl, rfl, ?_⟩
  · simp only [NbiServer.handleN32fForward, if_pos hget, NbiServer.forwardHandler,
      handleN32fForward, hvalid, Bool.not_true, Bool.false_eq_true, if_false,
      if_neg (not_not_intro hs), htarget, sendHttpRequestToTarget]
    split <;> rfl
  · rw [← hhost]
    rfl

/-- One request leaves the consumer's SEPP, and the peer sends one to the
local NF, with the same method, target and body. -/
def TlsRequestPreserved (E : Platform) (cfg cfg' : SeppConfig) (s : SeppApp)
    (nf : HttpRequest → HttpResponse) (url : Str) (answer : HttpResponse)
    (authority path : Str) (method : Method) (body : Str) : Prop :=
  ∃ q, (SeppApp.handleNfServiceRequestTls E cfg url answer authority path method.name body
      {}).sent = [q]
    ∧ ∃ r, (NbiServer.handleN32fForward E cfg' (some s) nf (deliver url q)).sent = [r]
      ∧ r.method = method ∧ r.uri = forcePlainHttp authority ++ path ∧ r.body = body

/-- The delivered form of a GET without a body. -/
theorem deliver_get (E : Platform) (cfg : SeppConfig) (url path : Str) {a : Str}
    (ha : a ≠ []) :
    let req := deliver url (SeppApp.tlsRequest E cfg url a path Method.GET.name [])
    req.method = ascii "GET"
      ∧ req.headers.lookup authorityName = some a
      ∧ req.headers.lookup targetApiRoot = some (SeppApp.tlsApiRoot cfg a)
      ∧ (req.path ++ questionMark :: req.rawQuery = path ↔ questionMark ∈ path) := by
  have hheaders : (deliver url (SeppApp.tlsRequest E cfg url a path Method.GET.name
      [])).headers = HeaderMap.insertAll ∅ ((SeppApp.tlsHeaders cfg a ∅).entries.map
        fun e => ⟨toLower e.1, e.2⟩) := rfl
  refine ⟨rfl, ?_, ?_, ?_⟩
  · rw [hheaders, SeppApp.tlsHeaders, if_neg ha]
    rfl
  · rw [hheaders, SeppApp.tlsHeaders, if_neg ha]
    rfl
  · have htarget : (SeppApp.tlsRequest E cfg url a path Method.GET.name []).uri.drop url.length
        = path := List.drop_left
    simp only [deliver, htarget]
    cases hsplit : LineText.splitFirst questionMark path with
    | none =>
        have hno := LineText.splitFirst_eq_none.mp hsplit
        simp [hno]
    | some p =>
        have hpath := LineText.eq_append_of_splitFirst hsplit
        simp only [Option.getD_some, ← hpath, true_iff]
        rw [hpath]
        simp

/-- A request arrives as it was sent just when it is a GET without a body
and with a question mark in its target. -/
theorem tls_request_iff {E : Platform} {cfg cfg' : SeppConfig} {s : SeppApp}
    {nf : HttpRequest → HttpResponse} {url authority path body : Str}
    {answer : HttpResponse} {method : Method}
    (hs : s.forward.securityCapability = ascii "TLS") (hauth : authority ≠ []) :
    TlsRequestPreserved E cfg cfg' s nf url answer authority path method body
      ↔ method = .GET ∧ body = [] ∧ questionMark ∈ path := by
  have hq : (SeppApp.handleNfServiceRequestTls E cfg url answer authority path method.name
      body {}).sent = [SeppApp.tlsRequest E cfg url authority path method.name body] := by
    unfold SeppApp.handleNfServiceRequestTls
    simp only
    split <;> rfl
  have hroot : SeppApp.tlsApiRoot cfg authority ≠ [] := by
    unfold SeppApp.tlsApiRoot
    split
    · simp [hauth]
    · exact hauth
  unfold TlsRequestPreserved
  rw [hq]
  constructor
  · rintro ⟨q, hsent, r, hr, hm, huri, hb⟩
    obtain rfl := (List.cons.inj hsent).1
    rcases nbi_handleN32fForward_cases (E := E) (s := s) with hnone | ⟨r', hr', hget, hbody, -⟩
    · rw [hnone] at hr
      cases hr
    · rw [hr] at hr'
      obtain rfl := (List.cons.inj hr').1
      obtain rfl : method = .GET := hm.symm.trans hget
      obtain rfl : body = [] := hb.symm.trans hbody
      obtain ⟨hmeth, ha, hapi, hpath⟩ := deliver_get E cfg url path hauth
      obtain ⟨r', hr', -, -, huri'⟩ := sent_wrapRequest hs hmeth ha hapi hroot
      rw [hr] at hr'
      obtain rfl := (List.cons.inj hr').1
      rw [huri, forcePlainHttp_tlsApiRoot] at huri'
      exact ⟨rfl, rfl, hpath.mp (List.append_cancel_left huri').symm⟩
  · rintro ⟨rfl, rfl, hquery⟩
    refine ⟨_, rfl, ?_⟩
    obtain ⟨hmeth, ha, hapi, hpath⟩ := deliver_get E cfg url path hauth
    obtain ⟨r, hr, hget, hbody, huri⟩ := sent_wrapRequest hs hmeth ha hapi hroot
    exact ⟨r, hr, hget, by rw [huri, forcePlainHttp_tlsApiRoot, hpath.mpr hquery], hbody⟩

/-- The configuration of a SEPP under TLS. -/
def tlsSepp : SeppApp := .fresh (ascii "TLS") [] none

def noAnswer : HttpResponse := { statusCode := 0, headers := ∅, body := [] }

theorem tls_request_iff_query :
    TlsRequestPreserved Reference.platform Reference.config Reference.config tlsSepp
      (Reference.nf 200 []) (ascii "http://peer") noAnswer (ascii "nrf:80")
      (ascii "/nnrf-disc/v1?a=b") .GET [] :=
  (tls_request_iff rfl (by decide)).mpr ⟨rfl, rfl, by decide⟩

/-- Without a query the local NF is sent another target. -/
theorem not_tlsRequestPreserved_plain :
    ¬ TlsRequestPreserved Reference.platform Reference.config Reference.config tlsSepp
      (Reference.nf 200 []) (ascii "http://peer") noAnswer (ascii "nrf:80")
      (ascii "/nnrf-disc/v1") .GET [] := by
  rintro ⟨q, hq, r, hr, -, huri, -⟩
  obtain rfl := (List.cons.inj hq).1
  obtain rfl := (List.cons.inj hr).1
  exact absurd huri (by decide)

/-! ## Answers -/

section Answers

variable {E : Platform}

/-- A reply by `sendOk` has status 200, and its body is a JSON text: that of
the value, or of the problem report when the value has none. -/
theorem sendOk_cases {j : Json} {headers : HeaderMap} {cause : Str} {reply : NbiResponse}
    (h : NbiServer.sendOk E j headers cause = .ok reply) :
    reply.statusCode = 200
      ∧ (E.dump j = .ok reply.body
        ∨ (∃ what, E.dump j = .error what)
          ∧ ∃ p : Json, p.empty = false ∧ E.dump p = .ok reply.body) := by
  unfold NbiServer.sendOk at h
  cases hdump : E.dump j with
  | ok text =>
      simp only [hdump, Except.ok.injEq] at h
      subst h
      exact ⟨rfl, Or.inl rfl⟩
  | error what =>
      simp only [hdump, NbiServer.sendProblemDetails] at h
      cases hproblem : E.dump (NbiServer.problemDetails 400 (ascii "400: Bad Request") cause
          what) with
      | error e =>
          rw [hproblem] at h
          cases h
      | ok text =>
          rw [hproblem] at h
          obtain rfl := Except.ok.inj h
          exact ⟨rfl, Or.inr ⟨⟨what, rfl⟩, _, rfl, hproblem⟩⟩

/-- The peer gets the NF's status and body as they were, and so does the
consumer's NF behind it. -/
def TlsAnswerPreserved (E : Platform) (reply : Except Exn NbiResponse)
    (answer : HttpResponse) : Prop :=
  ∃ r, reply = .ok r ∧ r.statusCode = answer.statusCode ∧ r.body = answer.body
    ∧ ∀ cfg url headers authority path method body respData,
        let c := SeppApp.handleNfServiceRequestTls E cfg url
          { statusCode := r.statusCode, headers, body := r.body } authority path method body
          respData
        c.ret = .ok true ∧ c.respData.statusCode = answer.statusCode
          ∧ c.respData.body = answer.body

theorem tlsAnswerPreserved_iff {reply : Except Exn NbiResponse} {answer : HttpResponse}
    (hst : answer.statusCode ≠ 0) :
    TlsAnswerPreserved E reply answer
      ↔ ∃ r, reply = .ok r ∧ r.statusCode = answer.statusCode ∧ r.body = answer.body := by
  constructor
  · rintro ⟨r, hr, hs, hb, -⟩
    exact ⟨r, hr, hs, hb⟩
  · rintro ⟨r, hr, hs, hb⟩
    refine ⟨r, hr, hs, hb, fun cfg url headers authority path method body respData => ?_⟩
    simp only [SeppApp.handleNfServiceRequestTls, hs, if_neg hst, hb]
    exact ⟨trivial, trivial, trivial⟩

/-- A body that is a JSON text is taken as the value it stands for. -/
theorem responseJson_of_getJson {r : HttpResponse} {j : Json}
    (h : E.getJson r.body = some j) : responseJson E r = j := by
  have hne : r.body ≠ [] := by
    intro hnil
    rw [hnil, E.getJson_nil] at h
    cases h
  rw [responseJson, if_pos hne, h, Option.getD_some]

/-- A body that comes back as it was is the text of a value that is not
empty. -/
theorem json_of_returned {r : HttpResponse} (h200 : r.statusCode = 200)
    (hdump : E.dump (forwardedJson (responseJson E r) r.statusCode) = .ok r.body
      ∨ (∃ what, E.dump (forwardedJson (responseJson E r) r.statusCode) = .error what)
        ∧ ∃ p : Json, p.empty = false ∧ E.dump p = .ok r.body) :
    ∃ j, E.getJson r.body = some j ∧ j.empty = false ∧ E.dump j = .ok r.body := by
  -- Every text that was written is read back, so the body is a JSON text.
  have hread : ∃ j, E.getJson r.body = some j := by
    rcases hdump with hj | ⟨-, p, -, hp⟩
    · exact (E.getJson_of_dump _ _ hj).imp fun _ h => h.1
    · exact (E.getJson_of_dump _ _ hp).imp fun _ h => h.1
  obtain ⟨j, hj⟩ := hread
  have hjson := responseJson_of_getJson hj
  obtain ⟨t, ht⟩ := E.dump_of_getJson _ _ hj
  cases hempty : j.empty with
  | false =>
      rw [hjson, forwardedJson, if_neg (by simp [hempty])] at hdump
      rcases hdump with hd | ⟨⟨what, hw⟩, -⟩
      · exact ⟨j, hj, hempty, hd⟩
      · rw [ht] at hw
        cases hw
  | true =>
      -- The body sent instead is that of a value that is not empty.
      rw [hjson, forwardedJson, if_pos ⟨hempty, h200⟩] at hdump
      have hother : ∃ p : Json, p.empty = false ∧ E.dump p = .ok r.body := by
        rcases hdump with hd | ⟨-, hp⟩
        · exact ⟨_, rfl, hd⟩
        · exact hp
      obtain ⟨p, hpe, hp⟩ := hother
      obtain ⟨j', hj', he⟩ := E.getJson_of_dump _ _ hp
      rw [hj, Option.some.injEq] at hj'
      rw [← hj', hempty, hpe] at he
      cases he

/-- An answer of a local NF returns as it was given just when it has the
status 200 and its body is the text of a JSON value that is not empty, in
the form the JSON library writes it. -/
theorem tls_answer_iff {cfg : SeppConfig} {s : SeppApp} {nf : HttpRequest → HttpResponse}
    {req : NbiRequest} {r : HttpRequest}
    (hsent : (NbiServer.handleN32fForward E cfg (some s) nf req).sent = [r])
    (hst : (nf r).statusCode ≠ 0) :
    TlsAnswerPreserved E (NbiServer.handleN32fForward E cfg (some s) nf req).reply (nf r)
      ↔ (nf r).statusCode = 200
        ∧ ∃ j, E.getJson (nf r).body = some j ∧ j.empty = false
            ∧ E.dump j = .ok (nf r).body := by
  rw [tlsAnswerPreserved_iff hst]
  rcases nbi_handleN32fForward_cases (E := E) (s := s) with hnone | ⟨r', hr', -, -, hok⟩
  · rw [hnone] at hsent
    cases hsent
  rw [hsent] at hr'
  obtain rfl := (List.cons.inj hr').1
  obtain ⟨headers, cause, hreply⟩ := hok hst
  rw [hreply]
  constructor
  · rintro ⟨reply, hrep, hstatus, hbody⟩
    obtain ⟨h200, hdump⟩ := sendOk_cases hrep
    rw [hbody] at hdump
    have hs200 : (nf r).statusCode = 200 := hstatus.symm.trans h200
    exact ⟨hs200, json_of_returned hs200 hdump⟩
  · rintro ⟨hs200, j, hj, hempty, hd⟩
    have hjson : forwardedJson (responseJson E (nf r)) (nf r).statusCode = j := by
      rw [responseJson_of_getJson hj, forwardedJson, if_neg (by simp [hempty])]
    rw [hjson, NbiServer.sendOk, hd]
    exact ⟨_, rfl, hs200.symm, rfl⟩

end Answers

/-- A GET to a SEPP under TLS, for a local NF. -/
def sampleGet : NbiRequest :=
  { method := ascii "GET"
    path := ascii "/nudm-sdm/v1"
    rawQuery := []
    headers := (∅ : HeaderMap).insert authorityName (ascii "udm:80")
    body := [] }

theorem tls_answer_iff_true :
    TlsAnswerPreserved Reference.platform
      (NbiServer.handleN32fForward Reference.platform Reference.config (some tlsSepp)
        (Reference.nf 200 (ascii "true")) sampleGet).reply
      { statusCode := 200, headers := ∅, body := ascii "true" } :=
  (tls_answer_iff rfl (by decide)).mpr ⟨rfl, .bool true, rfl, rfl, rfl⟩

/-- A refusal by the local NF does not come back as one. -/
theorem not_tlsAnswerPreserved_refused :
    ∃ r, (NbiServer.handleN32fForward Reference.platform Reference.config (some tlsSepp)
        (Reference.nf 404 []) sampleGet).sent = [r]
      ∧ ¬ TlsAnswerPreserved Reference.platform
        (NbiServer.handleN32fForward Reference.platform Reference.config (some tlsSepp)
          (Reference.nf 404 []) sampleGet).reply (Reference.nf 404 [] r) := by
  refine ⟨_, rfl, ?_⟩
  rintro ⟨reply, hreply, hstatus, -⟩
  obtain rfl := Except.ok.inj hreply
  exact absurd hstatus (by decide)

end Sepp
