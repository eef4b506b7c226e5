import Sepp.NbiServer
import Sepp.Reference

/-!
# The resources of the NBI server

All resources `sepp-http2-nbi-server.cpp` registers, with the checks each
makes before it hands a message to the application, and the server as a
function from a request to its reply and to the application afterwards.

`serve_cases` is the one lemma the results are read off from: a request is
turned away before any handler runs, or the handler of its resource runs
once. `serve_reply` says what a peer can see of that.

A path the HTTP library redirects before it looks for a resource is not
modelled.
-/

namespace Sepp

/-- What a request meets: the UUID and the nonce that would be generated,
and the local NFs. -/
structure Ambient where
  uuid : Uuid
  rand : Option (Bytes 12)
  nf : HttpRequest → HttpResponse

inductive Resource where
  | exchangeCapability | exchangeParams | n32fTerminate | n32fError | n32fProcess
  | root
deriving DecidableEq, Repr

namespace Resource

/-- The path a resource is registered under. -/
def pattern : Resource → Str
  | exchangeCapability => ascii "/n32c-handshake/v1/exchange-capability"
  | exchangeParams => ascii "/n32c-handshake/v1/exchange-params"
  | n32fTerminate => ascii "/n32c-handshake/v1/n32f-terminate"
  | n32fError => ascii "/n32c-handshake/v1/n32f-error"
  | n32fProcess => ascii "/n32f-forward/v1/n32f-process"
  | root => ascii "/"

/-- The resource of a path: the one registered under it, else `/`. -/
def ofPath (path : Str) : Resource :=
  ([exchangeCapability, exchangeParams, n32fTerminate, n32fError, n32fProcess].find? fun r =>
    decide (path = r.pattern)).getD root

@[simp] theorem ofPath_pattern (r : Resource) : ofPath r.pattern = r := by
  cases r <;> decide +kernel

/-- The methods that are not refused. -/
def accepts (r : Resource) (method : Str) : Prop :=
  method = ascii "POST" ∨ r = root ∧ method = ascii "GET"

instance (r : Resource) (method : Str) : Decidable (r.accepts method) :=
  inferInstanceAs (Decidable (_ ∨ _))

end Resource

/-- What serving a request leaves behind. -/
structure NbiServed extends NbiHandled where
  inst : Option SeppApp

/-- The result of a handshake handler, which sends nothing. -/
def N32cHandled.toHandled (r : N32cHandled) : Handled :=
  { ret := r.ret, respData := r.respData, respHeaders := r.respHeaders, sent := [] }

namespace NbiServer

/-! ## The handlers -/

/-- A handler of the application run on the JSON of a request. -/
abbrev AppHandler := SeppApp → Json → SeppApp × Handled

/-- A lambda that returns false before the application is asked. -/
def turnedDown (s : SeppApp) : SeppApp × Handled :=
  (s, { ret := .ok false, respData := .null, respHeaders := ∅, sent := [] })

def ofN32c (r : SeppApp × N32cHandled) : SeppApp × Handled := (r.1, r.2.toHandled)

section Handlers

variable (E : Platform) (C : Checks) (cfg : SeppConfig) (a : Ambient)

def exchangeCapabilityHandler : AppHandler := fun s reqData =>
  ofN32c (s.handleExchangeCapabilityRequest E cfg reqData .null ∅)

/-- The request is read once more beforehand; what `validate` says of it is
only logged. -/
def exchangeParamsHandler : AppHandler := fun s reqData =>
  match E.secParamExchReq.fromJson reqData with
  | none => turnedDown s
  | some _ => ofN32c (s.handleExchangeParams E cfg a.uuid reqData .null ∅)

def n32fTerminateHandler : AppHandler := fun s reqData =>
  match E.contextInfo.fromJson reqData with
  | none => turnedDown s
  | some context =>
      if C.contextInfo context then ofN32c (s.handleN32fTerminateReq E reqData .null ∅)
      else turnedDown s

def n32fErrorHandler : AppHandler := fun s reqData =>
  ofN32c (s.handleN32fError E reqData .null ∅)

def n32fProcessHandler : AppHandler := fun s reqData =>
  match E.reqMsg.fromJson reqData with
  | none => turnedDown s
  | some reqMsg =>
      if C.reqMsg reqMsg then
        (s, s.handleN32fProcess E cfg a.rand a.nf reqData .null ∅)
      else turnedDown s

/-- A POST to the `/` resource. -/
def rootHandler : AppHandler := fun s reqData => (s, forwardHandler E cfg a.nf s reqData)

end Handlers

/-! ## The resources -/

/-- `process_post_request`, with the application afterwards. -/
def postRequest (E : Platform) (inst : Option SeppApp) (req : NbiRequest)
    (appHandler : AppHandler) (failureCause failureDetail : Str) (allowNoContent : Bool) :
    NbiServed :=
  { toNbiHandled := processPostRequest E inst req (fun s j => (appHandler s j).2)
      failureCause failureDetail allowNoContent
    inst :=
      if req.method = ascii "POST" then
        match inst, E.parse req.body with
        | some s, .ok reqJson => some (appHandler s reqJson).1
        | _, _ => inst
      else inst }

section Resources

variable (E : Platform) (C : Checks) (cfg : SeppConfig) (inst : Option SeppApp) (a : Ambient)
  (req : NbiRequest)

def handleExchangeCapability : NbiServed :=
  postRequest E inst req (exchangeCapabilityHandler E cfg) (ascii "HANDSHAKE_FAILED")
    (ascii "Capability exchange failed") false

def handleExchangeParams : NbiServed :=
  postRequest E inst req (exchangeParamsHandler E cfg a) (ascii "PARAMETER_EXCHANGE_FAILED")
    (ascii "Parameter exchange failed") false

def handleN32fTerminate : NbiServed :=
  postRequest E inst req (n32fTerminateHandler E C) (ascii "TERMINATION_FAILED")
    (ascii "N32-F termination processing failed") false

def handleN32fError : NbiServed :=
  postRequest E inst req (n32fErrorHandler E) (ascii "ERROR_PROCESSING_FAILED")
    (ascii "N32-F error processing failed") true

def handleN32fProcess : NbiServed :=
  postRequest E inst req (n32fProcessHandler E C cfg a) (ascii "N32F_PROCESSING_FAILED")
    (ascii "N32-F message processing failed") false

/-- The server: each request goes to the resource of its path. -/
def serve : NbiServed :=
  match Resource.ofPath req.path with
  | .exchangeCapability => handleExchangeCapability E cfg inst req
  | .exchangeParams => handleExchangeParams E cfg inst a req
  | .n32fTerminate => handleN32fTerminate E C inst req
  | .n32fError => handleN32fError E inst req
  | .n32fProcess => handleN32fProcess E C cfg inst a req
  | .root => { handleN32fForward E cfg inst a.nf req with inst }

end Resources

end NbiServer

/-! ## One shape for all resources -/

namespace Resource

open NbiServer

/-- The handler of a resource. -/
def handler (E : Platform) (C : Checks) (cfg : SeppConfig) (a : Ambient) : Resource → AppHandler
  | exchangeCapability => exchangeCapabilityHandler E cfg
  | exchangeParams => exchangeParamsHandler E cfg a
  | n32fTerminate => n32fTerminateHandler E C
  | n32fError => n32fErrorHandler E
  | n32fProcess => n32fProcessHandler E C cfg a
  | root => rootHandler E cfg a

/-- The JSON a resource is given: a GET is wrapped, any other body parsed. -/
def message (E : Platform) (r : Resource) (req : NbiRequest) : Except Exn Json :=
  if r = root ∧ req.method = ascii "GET" then .ok (wrapRequest req) else E.parse req.body

end Resource

namespace NbiServer

section Cases

variable (E : Platform) (C : Checks) (cfg : SeppConfig) (inst : Option SeppApp) (a : Ambient)
  (req : NbiRequest)

/-- What is left of a request that reaches no handler. -/
def TurnedAway (v : NbiServed) (statusCode : Int) : Prop :=
  v.inst = inst ∧ v.sent = [] ∧
    ∃ title cause detail, v.reply = sendProblemDetails E statusCode title cause detail

/-- What is left of a request whose handler has run. -/
def HandledBy (v : NbiServed) (h : SeppApp × Handled) (r : Resource) : Prop :=
  v.inst = some h.1 ∧ v.sent = h.2.sent ∧
    ∃ onThrow cause detail, v.reply = replyTo E h.2 onThrow cause detail
      (decide (r = .n32fError))

/-- The fate of a request at the resource `r`. -/
def Fate (v : NbiServed) (r : Resource) : Prop :=
  (¬ r.accepts req.method ∧ TurnedAway E inst v 405)
  ∨ (r.accepts req.method ∧ inst = none ∧ TurnedAway E inst v 503)
  ∨ (r.accepts req.method ∧ ∃ s what, inst = some s ∧ r.message E req = .error what
      ∧ TurnedAway E inst v 400)
  ∨ (r.accepts req.method ∧ ∃ s j, inst = some s ∧ r.message E req = .ok j
      ∧ HandledBy E v (r.handler E C cfg a s j) r)

theorem postRequest_fate {r : Resource} {cause detail : Str}
    (hget : ¬ (r = .root ∧ req.method = ascii "GET")) :
    Fate E C cfg inst a req
      (postRequest E inst req (r.handler E C cfg a) cause detail (decide (r = .n32fError)))
      r := by
  have haccepts : r.accepts req.method ↔ req.method = ascii "POST" :=
    ⟨fun h => h.resolve_right hget, Or.inl⟩
  have hmessage : r.message E req = E.parse req.body := if_neg hget
  unfold Fate postRequest processPostRequest
  rw [haccepts, hmessage]
  by_cases hpost : req.method = ascii "POST"
  · simp only [if_neg (not_not_intro hpost), if_pos hpost]
    cases inst with
    | none => exact Or.inr (Or.inl ⟨hpost, rfl, rfl, rfl, _, _, _, rfl⟩)
    | some s =>
        cases hparse : E.parse req.body with
        | error what =>
            exact Or.inr (Or.inr (Or.inl ⟨hpost, s, what, rfl, rfl, rfl, rfl, _, _, _, rfl⟩))
        | ok j =>
            exact Or.inr (Or.inr (Or.inr ⟨hpost, s, j, rfl, rfl, rfl, rfl, _, _, _, rfl⟩))
  · simp only [if_pos hpost, if_neg hpost]
    exact Or.inl ⟨hpost, rfl, rfl, _, _, _, rfl⟩

/-- A request the `/` resource does not wrap is handled as by any other. -/
theorem handleN32fForward_eq_postRequest (hget : req.method ≠ ascii "GET") :
    ({ handleN32fForward E cfg inst a.nf req with inst } : NbiServed)
      = postRequest E inst req (rootHandler E cfg a) (ascii "FORWARDING_FAILED")
          (ascii "N32-F message forwarding failed") false := by
  unfold handleN32fForward postRequest
  rw [if_neg hget]
  split
  · split
    · rfl
    · rfl
  · rfl

theorem handleN32fForward_fate :
    Fate E C cfg inst a req { handleN32fForward E cfg inst a.nf req with inst } .root := by
  by_cases hget : req.method = ascii "GET"
  · have haccepts : Resource.root.accepts req.method := Or.inr ⟨rfl, hget⟩
    have hmessage : Resource.root.message E req = .ok (wrapRequest req) := if_pos ⟨rfl, hget⟩
    unfold Fate handleN32fForward
    rw [hmessage, if_pos hget]
    cases inst with
    | none => exact Or.inr (Or.inl ⟨haccepts, rfl, rfl, rfl, _, _, _, rfl⟩)
    | some s =>
        exact Or.inr (Or.inr (Or.inr ⟨haccepts, s, _, rfl, rfl, rfl, rfl, _, _, _, rfl⟩))
  · rw [handleN32fForward_eq_postRequest E cfg inst a req hget]
    exact postRequest_fate E C cfg inst a req fun h => hget h.2

/-- What can become of a request. -/
theorem serve_cases :
    Fate E C cfg inst a req (serve E C cfg inst a req) (Resource.ofPath req.path) := by
  unfold serve
  cases Resource.ofPath req.path with
  | root => exact handleN32fForward_fate E C cfg inst a req
  | exchangeCapability =>
      exact postRequest_fate E C cfg inst a req (r := .exchangeCapability) (by simp)
  | exchangeParams => exact postRequest_fate E C cfg inst a req (r := .exchangeParams) (by simp)
  | n32fTerminate => exact postRequest_fate E C cfg inst a req (r := .n32fTerminate) (by simp)
  | n32fError => exact postRequest_fate E C cfg inst a req (r := .n32fError) (by simp)
  | n32fProcess => exact postRequest_fate E C cfg inst a req (r := .n32fProcess) (by simp)

end Cases

/-! ## Replies -/

section Replies

variable {E : Platform} {C : Checks} {cfg : SeppConfig} {inst : Option SeppApp} {a : Ambient}
  {req : NbiRequest}

/-- A problem report with its status in the head. -/
def IsProblem (E : Platform) (statusCode : Int) (reply : NbiResponse) : Prop :=
  reply.statusCode = statusCode ∧ reply.headers = problemHeaders ∧
    ∃ title cause detail, E.dump (problemDetails statusCode title cause detail) = .ok reply.body

/-- What serialising some problem report throws. -/
def UnwritableProblem (E : Platform) (e : Exn) : Prop :=
  ∃ statusCode title cause detail,
    E.dump (problemDetails statusCode title cause detail) = .error e

/-- A JSON text under the status 200. -/
def IsSuccess (E : Platform) (reply : NbiResponse) : Prop :=
  reply.statusCode = 200 ∧ (∃ more, reply.headers = jsonHeaders ++ more) ∧
    ∃ j, E.dump j = .ok reply.body

theorem isProblem_of_sent {statusCode : Int} {title cause detail : Str} {reply : NbiResponse}
    (h : sendProblemDetails E statusCode title cause detail = .ok reply) :
    IsProblem E statusCode reply := by
  unfold sendProblemDetails at h
  cases hdump : E.dump (problemDetails statusCode title cause detail) with
  | error e =>
      rw [hdump] at h
      cases h
  | ok body =>
      rw [hdump] at h
      obtain rfl := Except.ok.inj h
      exact ⟨rfl, rfl, title, cause, detail, hdump⟩

theorem unwritable_of_sent {statusCode : Int} {title cause detail : Str} {e : Exn}
    (h : sendProblemDetails E statusCode title cause detail = .error e) :
    UnwritableProblem E e := by
  unfold sendProblemDetails at h
  cases hdump : E.dump (problemDetails statusCode title cause detail) with
  | error e' =>
      rw [hdump] at h
      obtain rfl := Except.error.inj h
      exact ⟨statusCode, title, cause, detail, hdump⟩
  | ok body =>
      rw [hdump] at h
      cases h

/-- A reply by `sendOk` is a success, also where the body is the report of
a value that could not be written. -/
theorem isSuccess_of_sendOk {j : Json} {headers : HeaderMap} {cause : Str}
    {reply : NbiResponse} (h : sendOk E j headers cause = .ok reply) : IsSuccess E reply := by
  unfold sendOk at h
  cases hdump : E.dump j with
  | ok body =>
      rw [hdump] at h
      obtain rfl := Except.ok.inj h
      exact ⟨rfl, ⟨_, rfl⟩, j, hdump⟩
  | error what =>
      simp only [hdump] at h
      cases hsent : sendProblemDetails E 400 (ascii "400: Bad Request") cause what with
      | error e =>
          rw [hsent] at h
          cases h
      | ok problem =>
          rw [hsent] at h
          obtain rfl := Except.ok.inj h
          obtain ⟨-, -, title, cause', detail, hbody⟩ := isProblem_of_sent hsent
          exact ⟨rfl, ⟨_, rfl⟩, _, hbody⟩

theorem unwritable_of_sendOk {j : Json} {headers : HeaderMap} {cause : Str} {e : Exn}
    (h : sendOk E j headers cause = .error e) : UnwritableProblem E e := by
  unfold sendOk at h
  cases hdump : E.dump j with
  | ok body =>
      rw [hdump] at h
      cases h
  | error what =>
      simp only [hdump] at h
      cases hsent : sendProblemDetails E 400 (ascii "400: Bad Request") cause what with
      | error e' =>
          rw [hsent] at h
          obtain rfl := Except.error.inj h
          exact unwritable_of_sent hsent
      | ok problem =>
          rw [hsent] at h
          cases h

/-- A handler's result is answered by a success when it is true, else by a
report, unless an accepted one says nothing. -/
theorem replyTo_cases {h : Handled} (onThrow cause detail : Str) {allowNoContent : Bool}
    (hfull : allowNoContent = true → h.ret = .ok true → h.respData.empty = false) :
    (∀ reply, replyTo E h onThrow cause detail allowNoContent = .ok reply →
        (h.ret = .ok true ∧ IsSuccess E reply) ∨ (h.ret ≠ .ok true ∧ IsProblem E 400 reply))
      ∧ ∀ e, replyTo E h onThrow cause detail allowNoContent = .error e →
          UnwritableProblem E e := by
  unfold replyTo
  split
  · rename_i what hret
    rw [hret]
    exact ⟨fun reply hr => Or.inr ⟨by simp, isProblem_of_sent hr⟩,
      fun e he => unwritable_of_sent he⟩
  · rename_i hret
    rw [hret]
    exact ⟨fun reply hr => Or.inr ⟨by simp, isProblem_of_sent hr⟩,
      fun e he => unwritable_of_sent he⟩
  · rename_i hret
    have hcontent : (allowNoContent && h.respData.empty) = false := by
      cases allowNoContent with
      | false => rfl
      | true => exact hfull rfl hret
    rw [hcontent, hret]
    exact ⟨fun reply hr => Or.inl ⟨rfl, isSuccess_of_sendOk hr⟩,
      fun e he => unwritable_of_sendOk he⟩

/-- The acknowledgement of an error report is never empty, so the status for
no content is not used. -/
theorem n32fErrorHandler_not_empty {s : SeppApp} {j : Json}
    (h : (n32fErrorHandler E s j).2.ret = .ok true) :
    (n32fErrorHandler E s j).2.respData.empty = false := by
  simp only [n32fErrorHandler, ofN32c, SeppApp.handleN32fError, N32cHandled.toHandled,
    N32cHandshake.handleN32fError] at h ⊢
  split at h
  · cases h
  · rename_i hv
    rw [if_neg hv]
    split at h
    · cases h
    · rfl

/-- The handler of the request's resource takes it. -/
def Accepted (E : Platform) (C : Checks) (cfg : SeppConfig) (inst : Option SeppApp)
    (a : Ambient) (req : NbiRequest) : Prop :=
  let r := Resource.ofPath req.path
  r.accepts req.method ∧ ∃ s j, inst = some s ∧ r.message E req = .ok j
    ∧ (r.handler E C cfg a s j).2.ret = .ok true

/-- Every reply is a JSON text: a refusal of the method or for want of an
application, a success for a request that was accepted, and the report of a
bad request for any other. A request is left without a reply only where the
report itself cannot be written. -/
theorem serve_reply (E : Platform) (C : Checks) (cfg : SeppConfig) (inst : Option SeppApp)
    (a : Ambient) (req : NbiRequest) :
    let r := Resource.ofPath req.path
    (∀ reply, (serve E C cfg inst a req).reply = .ok reply →
        (¬ r.accepts req.method ∧ IsProblem E 405 reply)
        ∨ (r.accepts req.method ∧ inst = none ∧ IsProblem E 503 reply)
        ∨ (r.accepts req.method ∧ inst ≠ none ∧ ¬ Accepted E C cfg inst a req
            ∧ IsProblem E 400 reply)
        ∨ (Accepted E C cfg inst a req ∧ IsSuccess E reply))
      ∧ ∀ e, (serve E C cfg inst a req).reply = .error e → UnwritableProblem E e := by
  intro r
  rcases serve_cases E C cfg inst a req with ⟨hacc, -, -, title, cause, detail, hreply⟩
    | ⟨hacc, hinst, -, -, title, cause, detail, hreply⟩
    | ⟨hacc, s, what, hinst, hmessage, -, -, title, cause, detail, hreply⟩
    | ⟨hacc, s, j, hinst, hmessage, -, -, onThrow, cause, detail, hreply⟩
  · rw [hreply]
    exact ⟨fun reply hr => Or.inl ⟨hacc, isProblem_of_sent hr⟩, fun e he => unwritable_of_sent he⟩
  · rw [hreply]
    exact ⟨fun reply hr => Or.inr (Or.inl ⟨hacc, hinst, isProblem_of_sent hr⟩),
      fun e he => unwritable_of_sent he⟩
  · rw [hreply]
    refine ⟨fun reply hr => Or.inr (Or.inr (Or.inl ⟨hacc, ?_, ?_, isProblem_of_sent hr⟩)),
      fun e he => unwritable_of_sent he⟩
    · rw [hinst]
      exact Option.some_ne_none s
    · rintro ⟨-, s', j, -, hj, -⟩
      rw [hmessage] at hj
      cases hj
  · have hfull : decide (r = .n32fError) = true →
        (r.handler E C cfg a s j).2.ret = .ok true →
        (r.handler E C cfg a s j).2.respData.empty = false := by
      intro hr hret
      rw [of_decide_eq_true hr] at hret ⊢
      exact n32fErrorHandler_not_empty hret
    have haccepted : Accepted E C cfg inst a req
        ↔ (r.handler E C cfg a s j).2.ret = .ok true := by
      constructor
      · rintro ⟨-, s', j', hs', hj', hret⟩
        rw [hinst] at hs'
        rw [hmessage] at hj'
        obtain rfl := Option.some.inj hs'
        obtain rfl := Except.ok.inj hj'
        exact hret
      · intro hret
        exact ⟨hacc, s, j, hinst, hmessage, hret⟩
    obtain ⟨hok, herror⟩ := replyTo_cases (E := E) onThrow cause detail hfull
    rw [hreply]
    refine ⟨fun reply hr => Or.inr (Or.inr ?_), herror⟩
    rcases hok reply hr with ⟨hret, hsuccess⟩ | ⟨hret, hproblem⟩
    · exact Or.inr ⟨haccepted.mpr hret, hsuccess⟩
    · refine Or.inl ⟨hacc, ?_, fun h => hret (haccepted.mp h), hproblem⟩
      rw [hinst]
      exact Option.some_ne_none s

end Replies

/-- A request for the options of the forwarding resource. -/
def sampleOptions : NbiRequest :=
  { method := ascii "OPTIONS"
    path := Resource.n32fProcess.pattern
    rawQuery := []
    headers := ∅
    body := [] }

def sampleAmbient : Ambient :=
  { uuid := { text := ascii "u1", nonempty := List.cons_ne_nil _ _ }
    rand := none
    nf := Reference.nf 200 [] }

/-- Every model passes. -/
def lenient : Checks where
  contextInfo _ := true
  reqMsg _ := true
  secNegotiateRsp _ := true

end NbiServer

end Sepp
