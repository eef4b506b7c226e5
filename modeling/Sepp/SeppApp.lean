import Sepp.N32cHandshake

/-!
# The SEPP application

`sepp_app.cpp`: one handshake object and one forwarding object, each with
its own copy of the N32-f context id, and the operations that use both.

An operation that calls the peer SEPP takes the HTTP client's answer as
an argument (status 0 when there was none) and lists the requests it
sent; what it does before and after that answer are definitions of their
own. It is the object a SEPP with NRF registration constructs, so both
parts exist; `remoteSeppUrl` is only set on a C-SEPP with a partner.
-/

namespace Sepp

structure SeppApp where
  handshake : N32cHandshake
  forward : N32fForward
  remoteSeppUrl : Option Str

/-- What an operation on the application leaves behind. -/
structure AppHandled where
  ret : Except Exn Unit
  state : SeppApp
  sent : List HttpRequest

/-- What forwarding an NF request leaves behind. -/
structure NfHandled where
  ret : Except Exn Bool
  respData : NfHttpResponse
  sent : List HttpRequest

namespace SeppApp

/-- The constructor: both objects are given the configured capability. -/
def fresh (securityCapability encKey : Str) (remoteSeppUrl : Option Str) : SeppApp :=
  { handshake := { selectedSecCapability := securityCapability }
    forward := { securityCapability, encKey }
    remoteSeppUrl }

/-! ## N32-c operations -/

/-- `handle_exchange_capability_request`: what is checked before the
handshake object is asked is only logged. -/
def handleExchangeCapabilityRequest (E : Platform) (cfg : SeppConfig) (s : SeppApp)
    (reqData respData : Json) (respHeaders : HeaderMap) : SeppApp × N32cHandled :=
  let r := s.handshake.handleExchangeCapabilityRequest E cfg reqData respData respHeaders
  ({ s with handshake := r.state }, r)

/-- A request to a resource of the peer, or what `dump` throws. -/
def jsonRequest (E : Platform) (url path : Str) (j : Json) : Except Exn HttpRequest :=
  match E.dump j with
  | .error e => .error e
  | .ok body => .ok (prepareJsonRequest E .POST (url ++ path) body)

/-- An operation that asks the peer, with the request it has made and the state
its answer leads to. -/
def asked (s : SeppApp) (made : Option (Except Exn HttpRequest)) (answered : SeppApp) :
    AppHandled :=
  match made with
  | none => { ret := .ok (), state := s, sent := [] }
  | some (.error e) => { ret := .error e, state := s, sent := [] }
  | some (.ok q) => { ret := .ok (), state := answered, sent := [q] }

/-- The part of `create_exchange_params` before the peer's answer. -/
def paramsRequest (E : Platform) (uuid : Uuid) (s : SeppApp) :
    SeppApp × Option (Except Exn HttpRequest) :=
  match s.remoteSeppUrl with
  | none => (s, none)
  | some url =>
      let (handshake, reqBody) := s.handshake.createExchangeParamsReq E uuid
      ({ s with handshake },
        some (jsonRequest E url (ascii "/n32c-handshake/v1/exchange-params") reqBody))

/-- What it makes of the answer, and whether the exchange is established. -/
def adoptParamsAnswer (E : Platform) (answer : HttpResponse) (σ : N32cHandshake) :
    Bool × N32cHandshake :=
  if answer.statusCode = 200 ∨ answer.statusCode = 201 then
    match E.parse answer.body with
    | .error _ => (false, σ)
    | .ok respBody =>
        match E.secParamExchRsp.fromJson respBody with
        | none => (false, σ)
        | some _ => σ.handleExchangeParamsResponse E respBody
  else (false, σ)

/-- The part after the answer: an established exchange is copied. -/
def adoptExchangeParams (E : Platform) (s : SeppApp) (answer : HttpResponse) : SeppApp :=
  let (established, handshake) := adoptParamsAnswer E answer s.handshake
  if established then
    { s with
      handshake
      forward := { s.forward with n32fContextId := handshake.n32cContextId } }
  else { s with handshake }

def createExchangeParams (E : Platform) (uuid : Uuid) (answer : HttpResponse)
    (s : SeppApp) : AppHandled :=
  let (s, made) := s.paramsRequest E uuid
  s.asked made (s.adoptExchangeParams E answer)

/-- The part of `create_exchange_capability` before the peer's answer. -/
def capabilityRequest (E : Platform) (s : SeppApp) : Option (Except Exn HttpRequest) :=
  match s.remoteSeppUrl with
  | none => none
  | some url => some (jsonRequest E url (ascii "/n32c-handshake/v1/exchange-capability")
      (s.handshake.createExchangeCapabilityReq E))

/-- The part after it: the state, and whether the parameters are exchanged next. -/
def adoptExchangeCapability (E : Platform) (C : Checks) (s : SeppApp)
    (answer : HttpResponse) : SeppApp × Bool :=
  if answer.statusCode = 200 ∨ answer.statusCode = 201 then
    match E.parse answer.body with
    | .error _ => (s, false)
    | .ok respBody =>
        if C.secNegotiateRsp respBody then
          let (ret, handshake) := s.handshake.handleExchangeCapabilityResponse respBody
          match ret with
          | .ok true =>
              ({ s with handshake }, handshake.selectedSecCapability = ascii "PRINS")
          | _ => ({ s with handshake }, false)
        else (s, false)
  else (s, false)

/-- `create_exchange_capability`, with the peer's answers to both requests.
The parameters are exchanged inside the `try`, so nothing is let out there. -/
def createExchangeCapability (E : Platform) (C : Checks) (uuid : Uuid)
    (capabilityAnswer paramsAnswer : HttpResponse) (s : SeppApp) : AppHandled :=
  match s.capabilityRequest E with
  | none => { ret := .ok (), state := s, sent := [] }
  | some (.error e) => { ret := .error e, state := s, sent := [] }
  | some (.ok q) =>
      let (s, goesOn) := s.adoptExchangeCapability E C capabilityAnswer
      if goesOn then
        let r := s.createExchangeParams E uuid paramsAnswer
        { ret := .ok (), state := r.state, sent := q :: r.sent }
      else { ret := .ok (), state := s, sent := [q] }

/-- `handle_exchange_params`: the application's state afterwards, and what
the handshake object returned. -/
def handleExchangeParams (E : Platform) (cfg : SeppConfig) (uuid : Uuid) (s : SeppApp)
    (reqData respData : Json) (respHeaders : HeaderMap) : SeppApp × N32cHandled :=
  let r := s.handshake.handleExchangeParams E cfg uuid reqData respData respHeaders
  ({ s with handshake := r.state }, r)

def handleN32fTerminateReq (E : Platform) (s : SeppApp) (reqData respData : Json)
    (respHeaders : HeaderMap) : SeppApp × N32cHandled :=
  let r := s.handshake.handleN32fTerminateReq E reqData respData respHeaders
  ({ s with handshake := r.state }, r)

/-- `handle_n32f_error`: the error detail is only logged. -/
def handleN32fError (E : Platform) (s : SeppApp) (reqData respData : Json)
    (respHeaders : HeaderMap) : SeppApp × N32cHandled :=
  let r := s.handshake.handleN32fError E reqData respData respHeaders
  ({ s with handshake := r.state }, r)

/-- The part of `send_n32f_terminate` before the peer's answer. -/
def terminateRequest (E : Platform) (s : SeppApp) : Option (Except Exn HttpRequest) :=
  match s.remoteSeppUrl, s.handshake.createN32fTerminateReq E with
  | some url, some reqBody =>
      some (jsonRequest E url (ascii "/n32c-handshake/v1/n32f-terminate") reqBody)
  | _, _ => none

/-- The JSON it makes of the body of an answer. -/
def terminateBody (E : Platform) (answer : HttpResponse) : Json :=
  if answer.body = [] then .null
  else match E.parse answer.body with
    | .ok j => j
    | .error _ => .obj []

/-- What it makes of the answer. -/
def adoptTerminateAnswer (E : Platform) (answer : HttpResponse) (σ : N32cHandshake) :
    Bool × N32cHandshake :=
  if answer.statusCode = 200 ∨ answer.statusCode = 204 then
    σ.handleN32fTerminateResponse (terminateBody E answer)
  else (false, σ)

/-- The part after the answer. -/
def adoptTerminate (E : Platform) (s : SeppApp) (answer : HttpResponse) : SeppApp :=
  { s with handshake := (adoptTerminateAnswer E answer s.handshake).2 }

def sendN32fTerminate (E : Platform) (answer : HttpResponse) (s : SeppApp) : AppHandled :=
  s.asked (s.terminateRequest E) (s.adoptTerminate E answer)

/-- Without a request nothing is asked, and with one an answer comes. -/
theorem asked_cases (s answered : SeppApp) (made : Option (Except Exn HttpRequest)) :
    ((∀ q, made ≠ some (.ok q)) ∧ (s.asked made answered).state = s
      ∧ (s.asked made answered).sent = [])
    ∨ ∃ q, made = some (.ok q)
      ∧ s.asked made answered = { ret := .ok (), state := answered, sent := [q] } := by
  match made with
  | none => exact Or.inl ⟨fun _ h => (by cases h), rfl, rfl⟩
  | some (.error e) => exact Or.inl ⟨fun _ h => (by cases h), rfl, rfl⟩
  | some (.ok q) => exact Or.inr ⟨q, rfl, rfl⟩

theorem jsonRequest_of_dump {E : Platform} {j : Json} {body : Str} (hdump : E.dump j = .ok body)
    (url path : Str) :
    jsonRequest E url path j = .ok (prepareJsonRequest E .POST (url ++ path) body) := by
  simp only [jsonRequest, hdump]

theorem jsonRequest_eq_ok {E : Platform} {j : Json} {url path : Str} {q : HttpRequest}
    (h : jsonRequest E url path j = .ok q) :
    ∃ body, E.dump j = .ok body ∧ q = prepareJsonRequest E .POST (url ++ path) body := by
  unfold jsonRequest at h
  split at h
  · cases h
  · rename_i body hdump
    exact ⟨body, hdump, (Except.ok.inj h).symm⟩

section Requests

variable {E : Platform} {s : SeppApp} {q : HttpRequest}

theorem capabilityRequest_eq_ok (h : s.capabilityRequest E = some (.ok q)) :
    ∃ url body, s.remoteSeppUrl = some url
      ∧ E.dump (s.handshake.createExchangeCapabilityReq E) = .ok body
      ∧ q = prepareJsonRequest E .POST (url ++ ascii "/n32c-handshake/v1/exchange-capability")
          body := by
  unfold capabilityRequest at h
  split at h
  · cases h
  · rename_i url hurl
    obtain ⟨body, hdump, rfl⟩ := jsonRequest_eq_ok (Option.some.inj h)
    exact ⟨url, body, hurl, hdump, rfl⟩

theorem paramsRequest_eq_ok {uuid : Uuid} (h : (s.paramsRequest E uuid).2 = some (.ok q)) :
    ∃ url body, s.remoteSeppUrl = some url
      ∧ E.dump (s.handshake.createExchangeParamsReq E uuid).2 = .ok body
      ∧ q = prepareJsonRequest E .POST (url ++ ascii "/n32c-handshake/v1/exchange-params")
          body := by
  unfold paramsRequest at h
  split at h
  · cases h
  · rename_i url hurl
    obtain ⟨body, hdump, rfl⟩ := jsonRequest_eq_ok (Option.some.inj h)
    exact ⟨url, body, hurl, hdump, rfl⟩

/-- A termination is asked for where there is a context, and for that. -/
theorem terminateRequest_eq_ok (h : s.terminateRequest E = some (.ok q)) :
    s.handshake.n32cContextId ≠ [] ∧ ∃ url body, s.remoteSeppUrl = some url
      ∧ E.dump (E.contextInfo.toJson { n32fContextId := s.handshake.n32cContextId }) = .ok body
      ∧ q = prepareJsonRequest E .POST (url ++ ascii "/n32c-handshake/v1/n32f-terminate")
          body := by
  unfold terminateRequest N32cHandshake.createN32fTerminateReq at h
  split at h
  · rename_i url reqBody hurl hreq
    split at hreq
    · cases hreq
    · rename_i hne
      obtain rfl := Option.some.inj hreq
      obtain ⟨body, hdump, rfl⟩ := jsonRequest_eq_ok (Option.some.inj h)
      exact ⟨hne, url, body, hurl, hdump, rfl⟩
  · cases h

end Requests

/-! ## Stopping -/

/-- The request of `deregister_to_nrf`; its answer is only logged. -/
def deregisterRequest (nrfUrl : Str) : HttpRequest :=
  { method := .DELETE, uri := nrfUrl, headers := ∅, body := [] }

/-- `stop`, with the answer of the peer to a termination. The NRF is told
unless an exception is let out before. -/
def stop (E : Platform) (cSepp : Bool) (nrfUrl : Str) (answer : HttpResponse) (s : SeppApp) :
    AppHandled :=
  let terminated :=
    if cSepp ∧ s.handshake.n32cContextId ≠ [] then s.sendN32fTerminate E answer
    else { ret := .ok (), state := s, sent := [] }
  match terminated.ret with
  | .error _ => terminated
  | .ok () => { terminated with sent := terminated.sent ++ [deregisterRequest nrfUrl] }

/-- `stop` tells the NRF alone, or asks for a termination first. -/
theorem stop_cases (E : Platform) (cSepp : Bool) (nrfUrl : Str) (answer : HttpResponse)
    (s : SeppApp) :
    (¬ (cSepp ∧ s.handshake.n32cContextId ≠ [])
      ∧ s.stop E cSepp nrfUrl answer
          = { ret := .ok (), state := s, sent := [deregisterRequest nrfUrl] })
    ∨ (cSepp ∧ s.handshake.n32cContextId ≠ [])
      ∧ ((∃ e, (s.sendN32fTerminate E answer).ret = .error e)
          ∧ s.stop E cSepp nrfUrl answer = s.sendN32fTerminate E answer
        ∨ (s.sendN32fTerminate E answer).ret = .ok ()
          ∧ s.stop E cSepp nrfUrl answer = { s.sendN32fTerminate E answer with
              sent := (s.sendN32fTerminate E answer).sent ++ [deregisterRequest nrfUrl] }) := by
  unfold stop
  by_cases hcalls : cSepp ∧ s.handshake.n32cContextId ≠ []
  · rw [if_pos hcalls]
    refine Or.inr ⟨hcalls, ?_⟩
    cases hret : (s.sendN32fTerminate E answer).ret with
    | error e => exact Or.inl ⟨⟨e, rfl⟩, by simp only [hret]⟩
    | ok _ => exact Or.inr ⟨rfl, by simp only [hret]⟩
  · rw [if_neg hcalls]
    exact Or.inl ⟨hcalls, rfl⟩

/-! ## Forwarding NF requests -/

/-- The part of `handle_nf_service_request_prins` inside its `try`: the
returned value, false also where an exception is caught, and the response
as far as it was written. -/
def readProcessResponse (E : Platform) (encKey text : Str)
    (respData : NfHttpResponse) : Bool × NfHttpResponse :=
  match E.parse text with
  | .error _ => (false, respData)
  | .ok j =>
      match E.rspMsg.fromJson j with
      | none => (false, respData)
      | some rspMsg =>
          let data := rspMsg.reformattedData
          match receivedBody E encKey data with
          | none => (false, respData)
          | some body =>
              match parseAad (base64urlDecode E.toOpenSsl data.aad) respData.headers with
              | none => (false, respData)
              | some aad =>
                  let respData := { respData with headers := aad.headers }
                  match Decimal.stoi isSpace aad.method with
                  | none => (false, respData)
                  | some status =>
                      let respData := { respData with statusCode := status }
                      if status < 100 ∨ status > 599 then (false, respData)
                      else (true, { respData with body })

def handleNfServiceRequestPrins (E : Platform) (σ : N32fForward) (url : Str)
    (rand : Option (Bytes 12)) (answer : HttpResponse) (authority path method body : Str)
    (respData : NfHttpResponse) : NfHandled :=
  match createN32fProcessRequest E σ rand authority path method body with
  | none => { ret := .ok false, respData, sent := [] }
  | some reqBody =>
      match E.dump reqBody with
      | .error e => { ret := .error e, respData, sent := [] }
      | .ok text =>
          let sent := [prepareJsonRequest E .POST
            (url ++ ascii "/n32f-forward/v1/n32f-process") text]
          if answer.statusCode ≠ 200 ∧ answer.statusCode ≠ 201 then
            { ret := .ok false, respData, sent }
          else
            let (ok, respData) := readProcessResponse E σ.encKey answer.body respData
            { ret := .ok ok, respData, sent }

/-- The `3gpp-Sbi-Target-apiRoot` of a request under TLS. -/
def tlsApiRoot (cfg : SeppConfig) (authority : Str) : Str :=
  if ¬ ascii "http://" <+: authority ∧ ¬ ascii "https://" <+: authority then
    (if cfg.tlsEnabled then ascii "https://" else ascii "http://") ++ authority
  else authority

def tlsHeaders (cfg : SeppConfig) (authority : Str) (headers : HeaderMap) : HeaderMap :=
  let headers := (headers.insert (ascii "Content-Type") (ascii "application/json")).insert
    (ascii "Accept") (ascii "application/json")
  if authority = [] then headers
  else (headers.insert (ascii "Authority") authority).insert
    (ascii "3gpp-Sbi-Target-apiRoot") (tlsApiRoot cfg authority)

def tlsRequest (E : Platform) (cfg : SeppConfig) (url authority path method body : Str) :
    HttpRequest :=
  let req := if body ≠ [] then prepareJsonRequest E (Method.ofName method) (url ++ path) body
    else { method := Method.ofName method, uri := url ++ path, headers := ∅, body := [] }
  { req with headers := tlsHeaders cfg authority req.headers }

def handleNfServiceRequestTls (E : Platform) (cfg : SeppConfig) (url : Str)
    (answer : HttpResponse) (authority path method body : Str)
    (respData : NfHttpResponse) : NfHandled :=
  let sent := [tlsRequest E cfg url authority path method body]
  if answer.statusCode = 0 then { ret := .ok false, respData, sent }
  else
    { ret := .ok true
      respData :=
        { statusCode := answer.statusCode
          body := answer.body
          headers := respData.headers.insertAll answer.headers.entries }
      sent }

def handleNfServiceRequest (E : Platform) (cfg : SeppConfig) (s : SeppApp)
    (rand : Option (Bytes 12)) (answer : HttpResponse) (authority path method body : Str)
    (respData : NfHttpResponse) : NfHandled :=
  match s.remoteSeppUrl with
  | none => { ret := .ok false, respData, sent := [] }
  | some url =>
      if s.handshake.selectedSecCapability = ascii "PRINS" then
        handleNfServiceRequestPrins E s.forward url rand answer authority path method body
          respData
      else handleNfServiceRequestTls E cfg url answer authority path method body respData

def handleN32fProcess (E : Platform) (cfg : SeppConfig) (s : SeppApp)
    (rand : Option (Bytes 12)) (nf : HttpRequest → HttpResponse)
    (reqData respData : Json) (respHeaders : HeaderMap) : Handled :=
  handleN32fProcessPost E cfg s.forward rand nf reqData respData respHeaders

end SeppApp

end Sepp
