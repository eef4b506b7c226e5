import Sepp.ContextRuns
import Sepp.NbiRuns
import Sepp.TlsTransport

/-!
# The NF service resource

The `/` resource of `sepp-http2-sbi-server.cpp`, where local NFs hand their
requests to a SEPP, and a request's way from there through the peer SEPP to
an NF on the other side and back.

`Passage` is such a way between two SEPPs: the consumer's, which was given
the request, and the producer's, which serves what the consumer's sends.
Under PRINS it is transparent or it fails openly (`prins_passage`,
`prins_passage_delivers`), and it leaves the producer's SEPP as it was. Under
TLS the asking NF is told the peer's status and not that of the NF there
(`tls_passage_status`), and its request reaches any resource of the peer
(`tls_peer_state`).

It is assumed of the HTTP stack between the two that requests and answers
arrive unchanged (`deliver`, `received`). The messages of PRINS go to one
path without escapes; under TLS the path is the NF's, and one with `%`
escapes would be decoded by the peer's server.
-/

namespace Sepp

namespace SbiServer

/-! ## The resource -/

def withoutScheme (apiRoot : Str) : Str :=
  if ascii "http://" <+: apiRoot then apiRoot.drop 7
  else if ascii "https://" <+: apiRoot then apiRoot.drop 8
  else apiRoot

/-- Whom an NF request is for: its target api root, else its authority. -/
def nfAuthority (headers : HeaderMap) : Str :=
  let authority := withoutScheme ((headers.lookup targetApiRoot).getD [])
  if authority = [] then NbiServer.requestAuthority headers else authority

def fullPath (req : NbiRequest) : Str :=
  if req.rawQuery = [] then req.path else req.path ++ questionMark :: req.rawQuery

def missingAuthority : NbiResponse :=
  { statusCode := 400, headers := [], body := ascii "Missing authority header" }

def badGateway : NbiResponse :=
  { statusCode := 502, headers := [], body := ascii "NF service forwarding failed" }

/-- The headers that are handed on. -/
def handsOnHeader (key : Str) : Bool :=
  key = ascii "content-type" || key = ascii "location" || key = ascii "retry-after"

/-- The reply that hands on what an NF answered. -/
def handOn (respData : NfHttpResponse) : NbiResponse :=
  { statusCode := respData.statusCode
    headers := (respData.headers.entries.filter fun e => handsOnHeader e.1).map
      fun e => (e.1, e.2)
    body := if respData.statusCode = 204 then [] else respData.body }

/-- The resource, with the peer's answer to what is sent. An exception is not
caught here and leaves the request without a reply. -/
def nfService (E : Platform) (cfg : SeppConfig) (s : SeppApp) (rand : Option (Bytes 12))
    (answer : HttpResponse) (req : NbiRequest) : NbiHandled :=
  let authority := nfAuthority req.headers
  if authority = [] then { reply := .ok missingAuthority, sent := [] }
  else
    let h := s.handleNfServiceRequest E cfg rand answer authority (fullPath req) req.method
      req.body {}
    { reply := h.ret.map fun ok => if ok then handOn h.respData else badGateway
      sent := h.sent }

end SbiServer

/-! ## Between two SEPPs -/

/-- A reply as the HTTP client hands it over, if it arrives unchanged; without a
reply the client gives up. -/
def received (reply : Except Exn NbiResponse) : HttpResponse :=
  match reply with
  | .error _ => noAnswer
  | .ok r =>
      { statusCode := r.statusCode
        headers := HeaderMap.insertAll ∅ (r.headers.map fun e => ⟨e.1, e.2⟩)
        body := r.body }

/-- What an NF request brings about: the reply to it, and what is left of it
at the peer, where that was asked. -/
structure Passage where
  reply : Except Exn NbiResponse
  served : Option NbiServed

/-- An NF request handed to the SEPP `s`, whose peer is `t`. -/
def passage (E : Platform) (C : Checks) (cfg cfg' : SeppConfig) (s t : SeppApp)
    (rand : Option (Bytes 12)) (a : Ambient) (req : NbiRequest) : Passage :=
  let first := SbiServer.nfService E cfg s rand noAnswer req
  match first.sent with
  | [] => { reply := first.reply, served := none }
  | q :: _ =>
      let v := NbiServer.serve E C cfg' (some t) a (deliver (s.remoteSeppUrl.getD []) q)
      { reply := (SbiServer.nfService E cfg s rand (received v.reply) req).reply
        served := some v }

/-- A value that was written is read back. -/
def ReadsBack (E : Platform) : Prop := ∀ j text, E.dump j = .ok text → E.parse text = .ok j

/-- A problem report is not taken for a reformatted answer. -/
def RejectsProblems (E : Platform) : Prop :=
  ∀ statusCode title cause detail,
    E.rspMsg.fromJson (NbiServer.problemDetails statusCode title cause detail) = none

/-! ## Under PRINS -/

section Prins

variable {E : Platform} (C : Checks) (cfg cfg' : SeppConfig) {s t : SeppApp}
  {rand : Option (Bytes 12)} (a : Ambient) {req : NbiRequest}

theorem deliver_prepareJsonRequest (E : Platform) (url text : Str) {p : Str}
    (hp : questionMark ∉ p) :
    let d := deliver url (prepareJsonRequest E .POST (url ++ p) text)
    d.method = ascii "POST" ∧ d.path = p ∧ d.body = text := by
  have htarget : (prepareJsonRequest E .POST (url ++ p) text).uri.drop url.length = p :=
    List.drop_left
  refine ⟨rfl, ?_, rfl⟩
  simp only [deliver, htarget, LineText.splitFirst_eq_none.mpr hp, Option.getD_none]

/-- The handler of messages leaves the application alone. -/
theorem n32fProcessHandler_fst (t : SeppApp) (j : Json) :
    (NbiServer.n32fProcessHandler E C cfg a t j).1 = t := by
  unfold NbiServer.n32fProcessHandler
  split
  · rfl
  · split <;> rfl

/-- The peer of a SEPP under PRINS serves the message it was sent. -/
theorem serve_n32fProcess {j : Json} (hpath : req.path = Resource.n32fProcess.pattern)
    (hpost : req.method = ascii "POST") (hparse : E.parse req.body = .ok j) :
    let v := NbiServer.serve E C cfg (some t) a req
    let h := (NbiServer.n32fProcessHandler E C cfg a t j).2
    v.inst = some t ∧ v.sent = h.sent
      ∧ v.reply = NbiServer.replyTo E h (ascii "MALFORMED_JSON") (ascii "N32F_PROCESSING_FAILED")
          (ascii "N32-F message processing failed") false := by
  have hserve : NbiServer.serve E C cfg (some t) a req
      = NbiServer.handleN32fProcess E C cfg (some t) a req := by
    simp only [NbiServer.serve, hpath, Resource.ofPath_pattern]
  rw [hserve]
  simp only [NbiServer.handleN32fProcess, NbiServer.postRequest, NbiServer.processPostRequest,
    if_neg (not_not_intro hpost), if_pos hpost, hparse, n32fProcessHandler_fst, and_self]

/-- The request an NF on the other side is sent for `req`. A method without a
name of its own is a GET there. -/
def localRequest (E : Platform) (req : NbiRequest) : HttpRequest :=
  { method := Method.ofName req.method
    uri := forcePlainHttp (SbiServer.nfAuthority req.headers) ++ SbiServer.fullPath req
    headers := if req.body = [] then ∅ else E.jsonHeaders
    body := req.body }

/-- What can be written into the start line and the authority lines of an
AAD. -/
structure Plain (req : NbiRequest) : Prop where
  method_ne_nil : req.method ≠ []
  method_blank : ∀ c ∈ req.method, isSpace c = false
  path_ne_nil : SbiServer.fullPath req ≠ []
  path_blank : ∀ c ∈ SbiServer.fullPath req, isSpace c = false
  authority_ne_nil : SbiServer.nfAuthority req.headers ≠ []
  authority_line : noCrLf (SbiServer.nfAuthority req.headers) = true

/-- base64url carries the AAD and the body of the request whole. -/
structure Fits (E : Platform) (req : NbiRequest) : Prop where
  aad : E.Carries (aadRaw req.method (SbiServer.fullPath req) (SbiServer.nfAuthority req.headers) ∅)
  body : E.Carries req.body

/-- base64url carries the AAD and the body of the answer to it whole. -/
structure AnswerFits (E : Platform) (req : NbiRequest) (answer : HttpResponse) : Prop where
  aad : E.Carries (aadRaw (Decimal.toText answer.statusCode) (SbiServer.fullPath req)
    (SbiServer.nfAuthority req.headers) (keptOf answer.headers))
  body : E.Carries answer.body

/-- The message for a plain request that fits is read as that request. -/
theorem readable_of_created {σ τ : N32fForward} {msg : Json} (hreq : Plain req)
    (hfits : Fits E req)
    (hσ : σ.securityCapability = ascii "PRINS") (hτ : τ.securityCapability = ascii "PRINS")
    (hkey : τ.encKey = σ.encKey)
    (hmsg : createN32fProcessRequest E σ rand (SbiServer.nfAuthority req.headers)
      (SbiServer.fullPath req) req.method req.body = some msg) :
    ∃ data env, msg = E.reqMsg.toJson { reformattedData := data }
      ∧ Readable E τ msg env req.body ∧ processRequest E cfg env req.body = localRequest E req
      ∧ env.target.path = SbiServer.fullPath req
      ∧ env.target.authority = SbiServer.nfAuthority req.headers := by
  obtain ⟨ctx, data, hctx, -, hdata, rfl⟩ := createN32fProcessRequest_prins hσ hmsg
  obtain ⟨haad, hun, -⟩ := build_frame hdata
  have hlf := (noCrLf_iff.mp hreq.authority_line).2
  have hparse := parseAad_aadRaw hreq.method_ne_nil hreq.method_blank hreq.path_ne_nil
    hreq.path_blank hreq.authority_ne_nil hlf
  have henv := readEnvelope_toJson hctx hun
    (by rw [haad, base64urlDecode_encode_of_carries hfits.aad]; exact hparse)
  have hvalid := validateN32fMessage_iff.mpr
    (E.reqMsg.isObject_toJson { reformattedData := data })
  refine ⟨data, _, rfl, ⟨hvalid, hτ, henv, ?_⟩, ?_, rfl, rfl⟩
  · rw [hkey]
    exact (receivedBody_build_iff hdata).mpr (Or.inr hfits.body)
  · have hhonest := targetRequest_honest E cfg (Method.ofName req.method)
      (SbiServer.nfAuthority req.headers) (SbiServer.fullPath req) req.body
    simp only [targetRequest, Method.ofName_name] at hhonest
    simp only [processRequest, targetRequest, hhonest]
    rfl

/-- A problem report is no answer with success, also where it cannot be
written. -/
theorem received_problem {statusCode : Int} (h200 : statusCode ≠ 200) (h201 : statusCode ≠ 201)
    (title cause detail : Str) :
    let answer := received (NbiServer.sendProblemDetails E statusCode title cause detail)
    answer.statusCode ≠ 200 ∧ answer.statusCode ≠ 201 := by
  simp only [NbiServer.sendProblemDetails]
  cases E.dump (NbiServer.problemDetails statusCode title cause detail) with
  | ok body => exact ⟨h200, h201⟩
  | error e => exact ⟨by show (0 : Int) ≠ 200; omega, by show (0 : Int) ≠ 201; omega⟩

theorem received_refused {h : Handled} (hret : h.ret = .ok false)
    (onThrow cause detail : Str) :
    let answer := received (NbiServer.replyTo E h onThrow cause detail false)
    answer.statusCode ≠ 200 ∧ answer.statusCode ≠ 201 := by
  simp only [NbiServer.replyTo, hret]
  exact received_problem (by omega) (by omega) _ cause detail

/-- An accepted request's value arrives, or a report in its place, or
nothing. -/
theorem received_sendOk (hback : ReadsBack E) (j : Json) (headers : HeaderMap) (cause : Str) :
    let answer := received (NbiServer.sendOk E j headers cause)
    (answer.statusCode = 200 ∧ E.parse answer.body = .ok j)
    ∨ (∃ what, E.parse answer.body
        = .ok (NbiServer.problemDetails 400 (ascii "400: Bad Request") cause what))
    ∨ answer = noAnswer := by
  unfold NbiServer.sendOk
  cases hdump : E.dump j with
  | ok text => exact Or.inl ⟨rfl, hback _ _ hdump⟩
  | error what =>
      simp only [NbiServer.sendProblemDetails]
      cases hproblem : E.dump (NbiServer.problemDetails 400 (ascii "400: Bad Request") cause
          what) with
      | ok text => exact Or.inr (Or.inl ⟨what, hback _ _ hproblem⟩)
      | error e => exact Or.inr (Or.inr rfl)

theorem relayToTarget_ret (E : Platform) (τ : N32fForward) (rand : Option (Bytes 12))
    (nf : HttpRequest → HttpResponse) (env : Envelope) (body : Str) (respData : Json)
    (respHeaders : HeaderMap) :
    (relayToTarget E cfg τ rand nf env body respData respHeaders).ret = .ok true
    ∨ (relayToTarget E cfg τ rand nf env body respData respHeaders).ret = .ok false := by
  simp only [relayToTarget, sendHttpRequestToTarget]
  split
  · exact Or.inr rfl
  · split
    · exact Or.inr rfl
    · exact Or.inl rfl

/-- A message that is read is turned down unseen, or relayed. -/
theorem n32fProcessHandler_of_readable {msg : Json} {env : Envelope} {body : Str}
    (hread : Readable E t.forward msg env body) :
    (NbiServer.n32fProcessHandler E C cfg a t msg).2 = (NbiServer.turnedDown t).2
    ∨ (NbiServer.n32fProcessHandler E C cfg a t msg).2
        = relayToTarget E cfg t.forward a.rand a.nf env body .null ∅ := by
  unfold NbiServer.n32fProcessHandler
  split
  · exact Or.inl rfl
  · split
    · exact Or.inr (handleN32fProcessPost_of_readable hread)
    · exact Or.inl rfl

/-- What the peer makes of a message it can read: it sends nothing and
refuses, or it sends the one request, and its answer is of no use or carries
the NF's. -/
theorem answered_of_readable {σ : N32fForward} {msg : Json} {env : Envelope} {body : Str}
    (hback : ReadsBack E) (hproblem : RejectsProblems E)
    (hread : Readable E t.forward msg env body) (onThrow cause detail : Str) :
    let h := (NbiServer.n32fProcessHandler E C cfg a t msg).2
    let answer := received (NbiServer.replyTo E h onThrow cause detail false)
    (h.sent = [] ∨ h.sent = [processRequest E cfg env body])
    ∧ ((answer.statusCode ≠ 200 ∧ answer.statusCode ≠ 201)
      ∨ SeppApp.readProcessResponse E σ.encKey answer.body {} = (false, {})
      ∨ h.sent = [processRequest E cfg env body] ∧ answer.statusCode = 200 ∧ ∃ data,
          processAnswer E t.forward a.rand env (a.nf (processRequest E cfg env body))
            = some data
          ∧ E.parse answer.body = .ok (E.rspMsg.toJson { reformattedData := data })) := by
  intro h answer
  rcases n32fProcessHandler_of_readable C cfg a hread with hh | hh
  · have hret : h.ret = .ok false := congrArg Handled.ret hh
    exact ⟨Or.inl (congrArg Handled.sent hh),
      Or.inl (received_refused hret onThrow cause detail)⟩
  · have hsent : h.sent = [processRequest E cfg env body] :=
      (congrArg Handled.sent hh).trans (relayToTarget_sent env body)
    refine ⟨Or.inr hsent, ?_⟩
    rcases relayToTarget_ret cfg E t.forward a.rand a.nf env body .null ∅ with hret | hret
    · obtain ⟨data, hdata, hresp⟩ := relayToTarget_accepted hret
      have hreply : NbiServer.replyTo E h onThrow cause detail false
          = NbiServer.sendOk E (E.rspMsg.toJson { reformattedData := data }) h.respHeaders
              onThrow := by
        have hret' : h.ret = .ok true := (congrArg Handled.ret hh).trans hret
        have hresp' : h.respData = E.rspMsg.toJson { reformattedData := data } :=
          (congrArg Handled.respData hh).trans hresp
        simp only [NbiServer.replyTo, hret', hresp', Bool.false_and, Bool.false_eq_true, if_false]
      have hanswer : answer = received (NbiServer.sendOk E
          (E.rspMsg.toJson { reformattedData := data }) h.respHeaders onThrow) :=
        congrArg received hreply
      rw [hanswer]
      rcases received_sendOk hback (E.rspMsg.toJson { reformattedData := data }) h.respHeaders
        onThrow with ⟨hstatus, hparse⟩ | ⟨what, hparse⟩ | hnone
      · exact Or.inr (Or.inr ⟨hsent, hstatus, data, hdata, hparse⟩)
      · have hnone := hproblem 400 (ascii "400: Bad Request") onThrow what
        refine Or.inr (Or.inl ?_)
        simp only [SeppApp.readProcessResponse, hparse, hnone]
      · rw [hnone]
        exact Or.inl ⟨by show (0 : Int) ≠ 200; omega, by show (0 : Int) ≠ 201; omega⟩
    · have hret' : h.ret = .ok false := (congrArg Handled.ret hh).trans hret
      exact Or.inl (received_refused hret' onThrow cause detail)

/-! ### The consumer's side -/

/-- A SEPP under PRINS sends the message it has made, and replies with what it
reads in the answer. -/
theorem nfService_of_created {url text : Str} {msg : Json} (hs : UnderPrins s)
    (hurl : s.remoteSeppUrl = some url) (hauth : SbiServer.nfAuthority req.headers ≠ [])
    (hmsg : createN32fProcessRequest E s.forward rand (SbiServer.nfAuthority req.headers)
      (SbiServer.fullPath req) req.method req.body = some msg)
    (hdump : E.dump msg = .ok text) (answer : HttpResponse) :
    let r := SeppApp.readProcessResponse E s.forward.encKey answer.body {}
    SbiServer.nfService E cfg s rand answer req =
      { reply := .ok (if (answer.statusCode = 200 ∨ answer.statusCode = 201) ∧ r.1 = true
          then SbiServer.handOn r.2 else SbiServer.badGateway)
        sent := [prepareJsonRequest E .POST (url ++ Resource.n32fProcess.pattern) text] } := by
  simp only [SbiServer.nfService, if_neg hauth, SeppApp.handleNfServiceRequest, hurl,
    if_pos hs.1, SeppApp.handleNfServiceRequestPrins, hmsg, hdump]
  by_cases hstatus : answer.statusCode = 200 ∨ answer.statusCode = 201
  · rw [if_neg (by omega)]
    simp only [hstatus, true_and]
    rfl
  · rw [if_pos (by omega)]
    simp only [hstatus, false_and, if_false]
    rfl

/-- Without a message, or with one that cannot be written, nothing is sent. -/
theorem nfService_of_not_created {url : Str} (hs : UnderPrins s)
    (hurl : s.remoteSeppUrl = some url) (hauth : SbiServer.nfAuthority req.headers ≠ [])
    (hno : ∀ msg text, createN32fProcessRequest E s.forward rand
      (SbiServer.nfAuthority req.headers) (SbiServer.fullPath req) req.method req.body
        = some msg → E.dump msg ≠ .ok text) (answer : HttpResponse) :
    (SbiServer.nfService E cfg s rand answer req).sent = []
      ∧ ∀ r, (SbiServer.nfService E cfg s rand answer req).reply = .ok r →
          r = SbiServer.badGateway := by
  simp only [SbiServer.nfService, if_neg hauth, SeppApp.handleNfServiceRequest, hurl,
    if_pos hs.1, SeppApp.handleNfServiceRequestPrins]
  cases hmsg : createN32fProcessRequest E s.forward rand (SbiServer.nfAuthority req.headers)
      (SbiServer.fullPath req) req.method req.body with
  | none => exact ⟨rfl, fun r hr => (Except.ok.inj hr).symm⟩
  | some msg =>
      cases hdump : E.dump msg with
      | error e =>
          simp only [hdump]
          exact ⟨trivial, fun r hr => by cases hr⟩
      | ok text => exact absurd hdump (hno msg text hmsg)

/-- The reply hands on what the NF answered: status and body, and of the
headers those that are kept and fit on a line. There is no body where the
status says so. -/
def HandsOn (answer : HttpResponse) (r : NbiResponse) : Prop :=
  r.statusCode = answer.statusCode ∧ 100 ≤ answer.statusCode ∧ answer.statusCode ≤ 599
    ∧ r.body = (if answer.statusCode = 204 then [] else answer.body)
    ∧ ∀ k v, (k, v) ∈ r.headers ↔
        k ∈ keptHeaders ∧ answer.headers.lookup k = some v ∧ noCrLf v = true

theorem handsOnHeader_iff (k : Str) : SbiServer.handsOnHeader k = true ↔ k ∈ keptHeaders := by
  simp only [SbiServer.handsOnHeader, keptHeaders, Bool.or_eq_true, decide_eq_true_eq,
    List.mem_cons, List.not_mem_nil, or_false]
  constructor
  · rintro ((h | h) | h)
    · exact Or.inr (Or.inl h)
    · exact Or.inl h
    · exact Or.inr (Or.inr h)
  · rintro (h | h | h)
    · exact Or.inl (Or.inr h)
    · exact Or.inl (Or.inl h)
    · exact Or.inr h

theorem handsOn_handOn {answer : HttpResponse} {respData : NfHttpResponse}
    (hrange : Delivered answer.statusCode) (hstatus : respData.statusCode = answer.statusCode)
    (hbody : respData.body = answer.body)
    (hlookup : ∀ k ∈ keptHeaders,
      respData.headers.lookup k = (answer.headers.lookup k).filter noCrLf) :
    HandsOn answer (SbiServer.handOn respData) := by
  refine ⟨hstatus, hrange.1, hrange.2, ?_, fun k v => ?_⟩
  · rw [← hstatus, ← hbody]
    rfl
  have hmem : (k, v) ∈ (SbiServer.handOn respData).headers
      ↔ k ∈ keptHeaders ∧ respData.headers.lookup k = some v := by
    simp only [SbiServer.handOn, List.mem_map, List.mem_filter, handsOnHeader_iff]
    constructor
    · rintro ⟨⟨k', v'⟩, ⟨he, hk⟩, hsame⟩
      obtain ⟨rfl, rfl⟩ := Prod.mk.inj hsame
      exact ⟨hk, AList.mem_lookup_iff.mpr he⟩
    · rintro ⟨hk, hv⟩
      exact ⟨⟨k, v⟩, ⟨AList.mem_lookup_iff.mp hv, hk⟩, rfl⟩
  rw [hmem]
  refine and_congr_right fun hk => ?_
  rw [hlookup k hk, Option.filter_eq_some_iff]

/-- An answer that fits is read as it was. -/
theorem faithful_of_fits {σ : N32fForward} {env : Envelope} {answer : HttpResponse}
    {data : FlatJweJson} {text : Str} (hreq : Plain req)
    (hpath : env.target.path = SbiServer.fullPath req)
    (hauth : env.target.authority = SbiServer.nfAuthority req.headers)
    (hfits : AnswerFits E req answer) (hdata : processAnswer E σ rand env answer = some data)
    (htext : E.parse text = .ok (E.rspMsg.toJson { reformattedData := data })) :
    let r := SeppApp.readProcessResponse E σ.encKey text {}
    Faithful answer (r.1 = true) r.2 := by
  refine (readProcessResponse_faithful_iff ?_ ?_ hdata htext).mpr
    (AnswerArrives.of_carries ?_ (Or.inr hfits.body))
  · rw [hpath]
    exact hreq.path_blank
  · rw [hauth]
    exact (noCrLf_iff.mp hreq.authority_line).2
  · rw [answerAad, hpath, hauth]
    exact hfits.aad

/-! ### The whole way -/

/-- The SEPPs and the outside world of a passage under PRINS: one key, one
capability, and a JSON library and models that read what was written. -/
structure PrinsPair (E : Platform) (s t : SeppApp) (url : Str) : Prop where
  consumer : UnderPrins s
  producer : t.forward.securityCapability = ascii "PRINS"
  key : t.forward.encKey = s.forward.encKey
  url : s.remoteSeppUrl = some url
  back : ReadsBack E
  problems : RejectsProblems E

theorem Resource.questionMark_not_mem (r : Resource) : questionMark ∉ r.pattern := by
  cases r <;> decide +kernel

/-- The message arrives at the peer, and its handler's reply comes back. -/
theorem passage_of_created {url text : Str} {msg : Json} (hpair : PrinsPair E s t url)
    (hreq : Plain req)
    (hmsg : createN32fProcessRequest E s.forward rand (SbiServer.nfAuthority req.headers)
      (SbiServer.fullPath req) req.method req.body = some msg)
    (hdump : E.dump msg = .ok text) :
    let p := passage E C cfg cfg' s t rand a req
    let h := (NbiServer.n32fProcessHandler E C cfg' a t msg).2
    ∃ v, p.served = some v ∧ v.inst = some t ∧ v.sent = h.sent
      ∧ v.reply = NbiServer.replyTo E h (ascii "MALFORMED_JSON") (ascii "N32F_PROCESSING_FAILED")
          (ascii "N32-F message processing failed") false
      ∧ let r := SeppApp.readProcessResponse E s.forward.encKey (received v.reply).body {}
        p.reply = .ok (if ((received v.reply).statusCode = 200
            ∨ (received v.reply).statusCode = 201) ∧ r.1 = true
          then SbiServer.handOn r.2 else SbiServer.badGateway) := by
  intro p h
  have hsend := nfService_of_created cfg hpair.consumer hpair.url
    hreq.authority_ne_nil hmsg hdump
  obtain ⟨hpost, hroute, hbody⟩ := deliver_prepareJsonRequest E url text
    Resource.n32fProcess.questionMark_not_mem
  obtain ⟨hinst, hsent, hreply⟩ := serve_n32fProcess C cfg' (t := t) a
    (j := msg) hroute hpost (by rw [hbody]; exact hpair.back _ _ hdump)
  refine ⟨_, ?_, hinst, hsent, hreply, ?_⟩
  · simp only [p, passage, hsend, hpair.url, Option.getD_some]
  · simp only [p, passage, hsend, hpair.url, Option.getD_some]

/-- Under PRINS the peer is left as it was, and sends the NF's request once
or not at all, if it fits. What the asking NF is then told is what the NF
there answered, if that fits, or that the request was not forwarded. -/
theorem prins_passage {url : Str} (hpair : PrinsPair E s t url) (hreq : Plain req) :
    let p := passage E C cfg cfg' s t rand a req
    (∀ v, p.served = some v →
        v.inst = some t ∧ (Fits E req → v.sent = [] ∨ v.sent = [localRequest E req]))
      ∧ (Fits E req → ∀ r, p.reply = .ok r →
          r = SbiServer.badGateway
          ∨ (AnswerFits E req (a.nf (localRequest E req)) →
              HandsOn (a.nf (localRequest E req)) r)
            ∧ ∃ v, p.served = some v ∧ v.sent = [localRequest E req]) := by
  intro p
  by_cases hcreated : ∃ msg text, createN32fProcessRequest E s.forward rand
      (SbiServer.nfAuthority req.headers) (SbiServer.fullPath req) req.method req.body = some msg
      ∧ E.dump msg = .ok text
  swap
  · have hno := fun answer => nfService_of_not_created cfg hpair.consumer hpair.url
      hreq.authority_ne_nil (fun msg text hmsg hdump => hcreated ⟨msg, text, hmsg, hdump⟩) answer
    have hp : p = { reply := (SbiServer.nfService E cfg s rand noAnswer req).reply
                    served := none } := by
      simp only [p, passage, (hno noAnswer).1]
    have hserved : p.served = none := congrArg Passage.served hp
    have hreply : p.reply = (SbiServer.nfService E cfg s rand noAnswer req).reply :=
      congrArg Passage.reply hp
    refine ⟨fun v hv => ?_, fun _ r hr => Or.inl ((hno noAnswer).2 r (hreply.symm.trans hr))⟩
    rw [hserved] at hv
    cases hv
  obtain ⟨msg, text, hmsg, hdump⟩ := hcreated
  obtain ⟨v, hserved, hinst, hsent, hreply, hp⟩ := passage_of_created C cfg cfg' a
    hpair hreq hmsg hdump
  by_cases hfits : Fits E req
  swap
  · refine ⟨fun v' hv' => ?_, fun h => absurd h hfits⟩
    obtain rfl := Option.some.inj (hserved.symm.trans hv')
    exact ⟨hinst, fun h => absurd h hfits⟩
  obtain ⟨data, env, -, hread, hlocal, hpath, hauth⟩ :=
    readable_of_created cfg' hreq hfits hpair.consumer.2 hpair.producer hpair.key hmsg
  obtain ⟨honce, hanswer⟩ := answered_of_readable C cfg' a
    (σ := s.forward) hpair.back hpair.problems hread (ascii "MALFORMED_JSON")
    (ascii "N32F_PROCESSING_FAILED") (ascii "N32-F message processing failed")
  rw [hlocal, ← hsent] at honce hanswer
  rw [← hreply] at hanswer
  refine ⟨fun v' hv' => ?_, fun _ r hr => ?_⟩
  · obtain rfl := Option.some.inj (hserved.symm.trans hv')
    exact ⟨hinst, fun _ => honce⟩
  · obtain rfl := Except.ok.inj (hp.symm.trans hr)
    rcases hanswer with hstatus | hunread | ⟨hone, hstatus, data, hdata, hparse⟩
    · exact Or.inl (if_neg fun h => by omega)
    · refine Or.inl (if_neg fun h => ?_)
      rw [hunread] at h
      cases h.2
    · by_cases hok : (SeppApp.readProcessResponse E s.forward.encKey (received v.reply).body
        {}).1 = true
      · rw [if_pos ⟨Or.inl hstatus, hok⟩]
        refine Or.inr ⟨fun hanswerFits => ?_, v, hserved, hone⟩
        have hfaithful := faithful_of_fits hreq hpath hauth hanswerFits hdata hparse
        rw [hpair.key] at hfaithful
        obtain ⟨hdelivered, hsame⟩ := hfaithful
        obtain ⟨hsameStatus, hsameBody, hheaders⟩ := hsame hok
        exact handsOn_handOn (hdelivered.mp hok) hsameStatus hsameBody hheaders
      · exact Or.inl (if_neg fun h => hok h.2)

/-- When request and answer fit, and both messages can be built, checked and
written, the NF's answer arrives. -/
theorem prins_passage_delivers {url text : Str} {msg : Json} (hpair : PrinsPair E s t url)
    (hreq : Plain req) (hfits : Fits E req)
    (hanswerFits : AnswerFits E req (a.nf (localRequest E req)))
    (hmsg : createN32fProcessRequest E s.forward rand (SbiServer.nfAuthority req.headers)
      (SbiServer.fullPath req) req.method req.body = some msg)
    (hdump : E.dump msg = .ok text)
    (hcheck : ∀ m, E.reqMsg.fromJson msg = some m → C.reqMsg m = true)
    (hrange : 100 ≤ (a.nf (localRequest E req)).statusCode
      ∧ (a.nf (localRequest E req)).statusCode ≤ 599)
    (hanswer : ∀ env, Readable E t.forward msg env req.body → ∃ data text',
      processAnswer E t.forward a.rand env (a.nf (localRequest E req)) = some data
      ∧ E.dump (E.rspMsg.toJson { reformattedData := data }) = .ok text') :
    let p := passage E C cfg cfg' s t rand a req
    ∃ r v, p.reply = .ok r ∧ HandsOn (a.nf (localRequest E req)) r
      ∧ p.served = some v ∧ v.sent = [localRequest E req] := by
  intro p
  obtain ⟨data, env, hjson, hread, hlocal, hpath, hauth⟩ :=
    readable_of_created cfg' hreq hfits hpair.consumer.2 hpair.producer hpair.key hmsg
  obtain ⟨data', text', hdata, hdump'⟩ := hanswer env hread
  obtain ⟨v, hserved, -, hsent, hreply, hp⟩ := passage_of_created C cfg cfg' a
    hpair hreq hmsg hdump
  have hhandled : (NbiServer.n32fProcessHandler E C cfg' a t msg).2
      = relayToTarget E cfg' t.forward a.rand a.nf env req.body .null ∅ := by
    have hfrom : E.reqMsg.fromJson msg = some { reformattedData := data } := by
      rw [hjson, E.reqMsg.fromJson_toJson]
    simp only [NbiServer.n32fProcessHandler, hfrom, hcheck _ hfrom, if_true]
    exact handleN32fProcessPost_of_readable hread
  have hstatus : (a.nf (processRequest E cfg' env req.body)).statusCode ≠ 0 := by
    rw [hlocal]
    omega
  rw [← hlocal] at hdata
  obtain ⟨hret, hresp⟩ := @relayToTarget_of_answer E cfg' t.forward a.rand a.nf .null ∅ env
    req.body data' hstatus hdata
  rw [hlocal] at hdata
  rw [hhandled] at hsent hreply
  have hanswered : (received v.reply).statusCode = 200
      ∧ E.parse (received v.reply).body = .ok (E.rspMsg.toJson { reformattedData := data' }) := by
    rw [hreply]
    simp only [NbiServer.replyTo, hret, hresp, NbiServer.sendOk, hdump', Bool.false_and,
      Bool.false_eq_true, if_false]
    exact ⟨rfl, hpair.back _ _ hdump'⟩
  have hfaithful := faithful_of_fits hreq hpath hauth hanswerFits hdata hanswered.2
  rw [hpair.key] at hfaithful
  obtain ⟨hdelivered, hsame⟩ := hfaithful
  have hok := hdelivered.mpr hrange
  obtain ⟨hsameStatus, hsameBody, hheaders⟩ := hsame hok
  simp only [hok, hanswered.1, true_or, true_and, if_true] at hp
  refine ⟨_, v, hp, handsOn_handOn hrange hsameStatus hsameBody hheaders, hserved, ?_⟩
  rw [hsent, relayToTarget_sent, hlocal]

end Prins

/-! ## Under TLS -/

/-- The request the peer is asked under TLS. -/
def tlsDelivered (E : Platform) (cfg : SeppConfig) (url : Str) (req : NbiRequest) : NbiRequest :=
  deliver url (SeppApp.tlsRequest E cfg url (SbiServer.nfAuthority req.headers)
    (SbiServer.fullPath req) req.method req.body)

section Tls

variable {E : Platform} (C : Checks) (cfg cfg' : SeppConfig) {s : SeppApp} (t : SeppApp)
  (rand : Option (Bytes 12)) (a : Ambient) {req : NbiRequest} {url : Str}

theorem nfService_of_tls (hs : s.handshake.selectedSecCapability ≠ ascii "PRINS")
    (hurl : s.remoteSeppUrl = some url) (hauth : SbiServer.nfAuthority req.headers ≠ [])
    (answer : HttpResponse) :
    SbiServer.nfService E cfg s rand answer req =
      { reply := .ok (if answer.statusCode = 0 then SbiServer.badGateway
          else SbiServer.handOn { statusCode := answer.statusCode
                                  headers := HeaderMap.insertAll ∅ answer.headers.entries
                                  body := answer.body })
        sent := [SeppApp.tlsRequest E cfg url (SbiServer.nfAuthority req.headers)
          (SbiServer.fullPath req) req.method req.body] } := by
  simp only [SbiServer.nfService, if_neg hauth, SeppApp.handleNfServiceRequest, hurl, if_neg hs,
    SeppApp.handleNfServiceRequestTls]
  by_cases hnone : answer.statusCode = 0
  · rw [if_pos hnone, if_pos hnone]
    rfl
  · rw [if_neg hnone, if_neg hnone]
    rfl

/-- The peer serves the request at the resource of its own path. -/
theorem passage_of_tls (hs : s.handshake.selectedSecCapability ≠ ascii "PRINS")
    (hurl : s.remoteSeppUrl = some url) (hauth : SbiServer.nfAuthority req.headers ≠ []) :
    let p := passage E C cfg cfg' s t rand a req
    let v := NbiServer.serve E C cfg' (some t) a (tlsDelivered E cfg url req)
    p.served = some v
      ∧ p.reply = .ok (if (received v.reply).statusCode = 0 then SbiServer.badGateway
          else SbiServer.handOn
            { statusCode := (received v.reply).statusCode
              headers := HeaderMap.insertAll ∅ (received v.reply).headers.entries
              body := (received v.reply).body }) := by
  simp only [passage, nfService_of_tls cfg rand hs hurl hauth, hurl, Option.getD_some, tlsDelivered]
  exact ⟨trivial, rfl⟩

/-- Under TLS the asking NF is told a status of the peer, never one of the NF
there: the request was taken, refused, or of no method that is served, or it
was not forwarded. -/
theorem tls_passage_status (hs : s.handshake.selectedSecCapability ≠ ascii "PRINS")
    (hurl : s.remoteSeppUrl = some url) (hauth : SbiServer.nfAuthority req.headers ≠ []) :
    let q := tlsDelivered E cfg url req
    let accepts := (Resource.ofPath q.path).accepts q.method
    let taken := NbiServer.Accepted E C cfg' (some t) a q
    ∀ r, (passage E C cfg cfg' s t rand a req).reply = .ok r →
      (r.statusCode = 200 ∧ taken)
      ∨ (r.statusCode = 400 ∧ accepts ∧ ¬ taken)
      ∨ (r.statusCode = 405 ∧ ¬ accepts)
      ∨ (r = SbiServer.badGateway ∧ ∃ e,
          (NbiServer.serve E C cfg' (some t) a q).reply = .error e
            ∧ NbiServer.UnwritableProblem E e) := by
  intro q accepts taken r hr
  obtain ⟨-, hreply⟩ := passage_of_tls C cfg cfg' t rand a hs hurl hauth
  obtain rfl := Except.ok.inj (hreply.symm.trans hr)
  obtain ⟨hok, herror⟩ := NbiServer.serve_reply E C cfg' (some t) a q
  cases hv : (NbiServer.serve E C cfg' (some t) a q).reply with
  | error e =>
      refine Or.inr (Or.inr (Or.inr ⟨?_, e, rfl, herror e hv⟩))
      exact if_pos rfl
  | ok reply =>
      have hstatus : ∀ n : Int, n ≠ 0 → reply.statusCode = n →
          (if (received (.ok reply)).statusCode = 0 then SbiServer.badGateway
            else SbiServer.handOn
              { statusCode := (received (.ok reply)).statusCode
                headers := HeaderMap.insertAll ∅ (received (.ok reply)).headers.entries
                body := (received (.ok reply)).body }).statusCode = n := by
        intro n hn hsame
        have hgiven : (received (.ok reply)).statusCode = n := hsame
        rw [if_neg (by omega)]
        exact hgiven
      rcases hok reply hv with ⟨hno, hproblem⟩ | ⟨-, hnone, -⟩ | ⟨hacc, -, hno, hproblem⟩
        | ⟨htaken, hsuccess⟩
      · exact Or.inr (Or.inr (Or.inl ⟨hstatus 405 (by decide) hproblem.1, hno⟩))
      · cases hnone
      · exact Or.inr (Or.inl ⟨hstatus 400 (by decide) hproblem.1, hacc, hno⟩)
      · exact Or.inl ⟨hstatus 200 (by decide) hsuccess.1, htaken⟩

/-- Only a POST is sent on as one. -/
theorem Method.name_ofName_post (m : Str) :
    (Method.ofName m).name = ascii "POST" ↔ m = ascii "POST" := by
  constructor
  · intro h
    by_contra hne
    unfold Method.ofName at h
    rw [if_neg hne] at h
    split at h
    · exact absurd h (by decide)
    · split at h
      · exact absurd h (by decide)
      · split at h <;> exact absurd h (by decide)
  · rintro rfl
    rfl

/-- The parts of a request that decide what it does to the peer's
application. -/
theorem tlsDelivered_posted (url : Str) (hplain : questionMark ∉ req.path) :
    (tlsDelivered E cfg url req).path = req.path
      ∧ posted E (tlsDelivered E cfg url req) = posted E req := by
  have hsplit : ((LineText.splitFirst questionMark (SbiServer.fullPath req)).getD
      (SbiServer.fullPath req, [])).1 = req.path := by
    unfold SbiServer.fullPath
    split
    · rw [LineText.splitFirst_eq_none.mpr hplain]
      rfl
    · rw [LineText.splitFirst_append hplain]
      rfl
  have htarget : (SeppApp.tlsRequest E cfg url (SbiServer.nfAuthority req.headers)
      (SbiServer.fullPath req) req.method req.body).uri.drop url.length
        = SbiServer.fullPath req := by
    unfold SeppApp.tlsRequest
    split <;> exact List.drop_left
  have hmethod : (tlsDelivered E cfg url req).method = (Method.ofName req.method).name := by
    unfold tlsDelivered SeppApp.tlsRequest
    split <;> rfl
  have hbody : (tlsDelivered E cfg url req).body = req.body := by
    unfold tlsDelivered SeppApp.tlsRequest
    split
    · rfl
    · rename_i hempty
      exact (not_not.mp hempty).symm
  refine ⟨?_, ?_⟩
  · rw [← hsplit, ← htarget]
    rfl
  · unfold posted
    simp only [hmethod, hbody, Method.name_ofName_post]

/-- Under TLS the peer's application is left as if the NF had sent its request
to the peer itself. -/
theorem tls_peer_state (hs : s.handshake.selectedSecCapability ≠ ascii "PRINS")
    (hurl : s.remoteSeppUrl = some url) (hauth : SbiServer.nfAuthority req.headers ≠ [])
    (hplain : questionMark ∉ req.path) :
    ∃ v, (passage E C cfg cfg' s t rand a req).served = some v
      ∧ v.inst = (NbiServer.serve E C cfg' (some t) a req).inst := by
  obtain ⟨hserved, -⟩ := passage_of_tls C cfg cfg' t rand a hs hurl hauth
  obtain ⟨hpath, hposted⟩ := tlsDelivered_posted (E := E) cfg url hplain
  refine ⟨_, hserved, ?_⟩
  have hdelivered := nbi_next_posted E C cfg' t (a, tlsDelivered E cfg url req)
  have hsent := nbi_next_posted E C cfg' t (a, req)
  rw [hposted, hpath] at hdelivered
  exact hdelivered.trans hsent.symm

end Tls

/-! ### A passage on the reference platform -/

/-- A POST to the SEPP in front of an NF. -/
def samplePost : NbiRequest :=
  { method := ascii "POST"
    path := ascii "/nudm-sdm/v1"
    rawQuery := []
    headers := (∅ : HeaderMap).insert authorityName (ascii "udm:80")
    body := ascii "hello" }

def prinsConsumer : SeppApp := .fresh (ascii "PRINS") [] (some samplePeer)

def prinsProducer : SeppApp := .fresh (ascii "PRINS") [] none

/-- The NF on the other side has nothing left. -/
def sampleGone : Ambient :=
  { uuid := sampleContext, rand := none, nf := Reference.nf 404 (ascii "gone") }

theorem readsBack_reference : ReadsBack Reference.platform := fun _ _ h =>
  JsonText.parse_of_dump h

theorem rejectsProblems_reference : RejectsProblems Reference.platform := fun _ _ _ _ => rfl

theorem prinsPair_sample :
    PrinsPair Reference.platform prinsConsumer prinsProducer samplePeer where
  consumer := ⟨rfl, rfl⟩
  producer := rfl
  key := rfl
  url := rfl
  back := readsBack_reference
  problems := rejectsProblems_reference

theorem plain_samplePost : Plain samplePost where
  method_ne_nil := List.cons_ne_nil _ _
  method_blank := not_space_of_all rfl
  path_ne_nil := List.cons_ne_nil _ _
  path_blank := not_space_of_all rfl
  authority_ne_nil := List.cons_ne_nil _ _
  authority_line := rfl

theorem fits_samplePost : Fits Reference.platform samplePost where
  aad := carries_of_le (by decide)
  body := carries_of_le (by decide)

theorem answerFits_sampleGone : AnswerFits Reference.platform samplePost
    (sampleGone.nf (localRequest Reference.platform samplePost)) where
  aad := carries_of_le (by decide)
  body := carries_of_le (by decide)

def samplePassage : Passage :=
  passage Reference.platform NbiServer.lenient Reference.config Reference.config prinsConsumer
    prinsProducer none sampleGone samplePost

set_option maxRecDepth 4000 in
theorem prins_passage_delivers_sample : ∃ r, samplePassage.reply = .ok r
    ∧ r.statusCode = 404 ∧ r.body = ascii "gone" := by
  have hread : ∃ env, readEnvelope Reference.platform sampleRequest = .ok (some env)
      ∧ ∃ data, processAnswer Reference.platform prinsProducer.forward none env
          (Reference.nf 404 (ascii "gone") (localRequest Reference.platform samplePost)) = some data
        ∧ JsonText.writable (Reference.platform.rspMsg.toJson { reformattedData := data })
          = true := by
    refine ⟨_, rfl, _, rfl, ?_⟩
    decide +kernel
  obtain ⟨env, henv, data, hdata, hwritable⟩ := hread
  obtain ⟨r, v, hreply, ⟨hstatus, -, -, hbody, -⟩, -⟩ := prins_passage_delivers
    NbiServer.lenient Reference.config Reference.config sampleGone prinsPair_sample plain_samplePost
    fits_samplePost answerFits_sampleGone createN32fProcessRequest_sample
    (Reference.dump_of_writable writable_sampleRequest) (fun _ _ => rfl)
    ⟨by decide, by decide⟩ (fun env' h => by
      have hsame : env' = env := by
        have hboth := henv.symm.trans h.2.2.1
        injection hboth with hboth
        exact (Option.some.inj hboth).symm
      rw [hsame]
      exact ⟨data, _, hdata, Reference.dump_of_writable hwritable⟩)
  exact ⟨r, hreply, hstatus, hbody⟩

def tlsConsumer : SeppApp := .fresh (ascii "TLS") [] (some samplePeer)

/-- The asking NF is not told that the NF on the other side has nothing
left. -/
theorem tls_passage_status_gone : ∃ r,
    (passage Reference.platform NbiServer.lenient Reference.config Reference.config tlsConsumer
        tlsSepp none sampleGone sampleGet).reply = .ok r ∧ r.statusCode ≠ 404 := by
  have hs : tlsConsumer.handshake.selectedSecCapability ≠ ascii "PRINS" := by decide
  have hauth : SbiServer.nfAuthority sampleGet.headers ≠ [] := List.cons_ne_nil _ _
  obtain ⟨-, hreply⟩ := passage_of_tls NbiServer.lenient Reference.config Reference.config tlsSepp
    (E := Reference.platform) none sampleGone hs rfl hauth
  refine ⟨_, hreply, ?_⟩
  have hcases := tls_passage_status (E := Reference.platform) NbiServer.lenient Reference.config
    Reference.config tlsSepp none sampleGone hs rfl hauth _ hreply
  rcases hcases with ⟨h, -⟩ | ⟨h, -⟩ | ⟨h, -⟩ | ⟨h, -⟩
  · rw [h]
    decide
  · rw [h]
    decide
  · rw [h]
    decide
  · rw [h]
    decide

def takeoverParams : Json :=
  Reference.secParamExchReq.toJson
    { n32fContextId := ascii "c9", sender := [], jweCipherSuiteList := none
      jwsCipherSuiteList := none, protectionPolicyInfo := none }

/-- An NF's POST to a resource of the handshake. -/
def sampleTakeover : NbiRequest :=
  { samplePost with path := Resource.exchangeParams.pattern, body := JsonText.write takeoverParams }

theorem tls_peer_state_takeover : ∃ v t',
    (passage Reference.platform NbiServer.lenient Reference.config Reference.config tlsConsumer
        tlsSepp none sampleGone sampleTakeover).served = some v
      ∧ v.inst = some t' ∧ t'.handshake.n32cContextId = ascii "c9" := by
  have hs : tlsConsumer.handshake.selectedSecCapability ≠ ascii "PRINS" := by decide
  have hauth : SbiServer.nfAuthority sampleTakeover.headers ≠ [] := List.cons_ne_nil _ _
  obtain ⟨v, hserved, hinst⟩ := tls_peer_state (E := Reference.platform) NbiServer.lenient
    Reference.config Reference.config tlsSepp none sampleGone hs rfl hauth (by decide +kernel)
  obtain ⟨t', hnext, hcontext⟩ := context_next Reference.platform NbiServer.lenient
    Reference.config tlsSepp (sampleGone, sampleTakeover)
  rw [nbi_next] at hnext
  refine ⟨v, t', hserved, hinst.trans hnext, hcontext.trans ?_⟩
  have hwritable : JsonText.writable takeoverParams = true := by decide +kernel
  have hposted : posted Reference.platform sampleTakeover = some takeoverParams := by
    have hparse : Reference.platform.parse sampleTakeover.body = .ok takeoverParams :=
      Reference.parse_write hwritable
    exact (if_pos rfl).trans (congrArg Except.toOption hparse)
  have hops : contextOps Reference.platform NbiServer.lenient (sampleGone, sampleTakeover)
      = [.adopt (ascii "c9") (ascii "c1")] := by
    have hpath : Resource.ofPath sampleTakeover.path = .exchangeParams :=
      Resource.ofPath_pattern .exchangeParams
    simp only [contextOps, hposted, hpath]
    rfl
  rw [hops]
  rfl

end Sepp
