import Sepp.NfServiceResource

/-!
# The life of a SEPP

One SEPP with everything that can happen to it: requests of peers at its
NBI server, requests of NFs at its SBI server, the handshake it starts and
its stop, in any number and order, with any answers.

- `served_as_configured`: what a SEPP answers to a peer's request, and what
  it asks an NF for it, is what it would have answered and asked when it
  was started. The one exception is a parameter exchange that leaves the
  context id to the SEPP.
- `prins_passage_of_runs`: at any time in the lives of two SEPPs a request
  passes between them as `prins_passage` says.
- `outgoing_run`: which requests a SEPP sends, in the whole of its life.
-/

namespace Sepp

/-! ## What never changes -/

/-- The application as it was configured. -/
def SeppApp.configured (s : SeppApp) : SeppApp :=
  { handshake :=
      { selectedSecCapability := s.handshake.selectedSecCapability
        senderFqdn := s.handshake.senderFqdn }
    forward :=
      { securityCapability := s.forward.securityCapability, encKey := s.forward.encKey }
    remoteSeppUrl := s.remoteSeppUrl }

/-- The parts of it, for an application with the same configuration. -/
structure SameConfiguration (s t : SeppApp) : Prop where
  selected : s.handshake.selectedSecCapability = t.handshake.selectedSecCapability
  sender : s.handshake.senderFqdn = t.handshake.senderFqdn
  capability : s.forward.securityCapability = t.forward.securityCapability
  key : s.forward.encKey = t.forward.encKey
  url : s.remoteSeppUrl = t.remoteSeppUrl

theorem sameConfiguration_iff {s t : SeppApp} :
    s.configured = t.configured ↔ SameConfiguration s t := by
  simp only [SeppApp.configured, SeppApp.mk.injEq, N32cHandshake.mk.injEq, N32fForward.mk.injEq,
    true_and, and_true]
  constructor
  · rintro ⟨⟨hsender, hselected⟩, ⟨hcap, hkey⟩, hurl⟩
    exact ⟨hselected, hsender, hcap, hkey, hurl⟩
  · rintro ⟨hselected, hsender, hcap, hkey, hurl⟩
    exact ⟨⟨hsender, hselected⟩, ⟨hcap, hkey⟩, hurl⟩

theorem PrinsPair.of_configured {E : Platform} {s s' t t' : SeppApp} {url : Str}
    (h : PrinsPair E s t url) (hs : s'.configured = s.configured)
    (ht : t'.configured = t.configured) : PrinsPair E s' t' url := by
  have hs := sameConfiguration_iff.mp hs
  have ht := sameConfiguration_iff.mp ht
  exact
    { consumer := ⟨hs.selected.trans h.consumer.1, hs.capability.trans h.consumer.2⟩
      producer := ht.capability.trans h.producer
      key := ht.key.trans (h.key.trans hs.key.symm)
      url := hs.url.trans h.url
      back := h.back
      problems := h.problems }

/-! ## A request to two SEPPs of one configuration -/

section Congr

variable {E : Platform} {C : Checks} {cfg : SeppConfig} {a : Ambient} {s t : SeppApp}

/-- The message exchanges parameters and leaves the context id to the SEPP. -/
def LeavesIdOpen (E : Platform) (r : Resource) (j : Json) : Prop :=
  r = .exchangeParams ∧ ∃ m, E.secParamExchReq.fromJson j = some m ∧ m.n32fContextId = []

theorem exchangeCapabilityHandler_congr (h : SameConfiguration s t) (j : Json) :
    (NbiServer.exchangeCapabilityHandler E cfg s j).2
      = (NbiServer.exchangeCapabilityHandler E cfg t j).2 := by
  simp only [NbiServer.exchangeCapabilityHandler, NbiServer.ofN32c,
    SeppApp.handleExchangeCapabilityRequest, N32cHandshake.handleExchangeCapabilityRequest,
    N32cHandled.toHandled, N32cHandshake.rejected, h.selected]
  split
  · rfl
  · split
    · rfl
    · split
      · rfl
      · split <;> rfl

theorem exchangeParamsHandler_congr {j : Json} (hid : ¬ LeavesIdOpen E .exchangeParams j) :
    (NbiServer.exchangeParamsHandler E cfg a s j).2
      = (NbiServer.exchangeParamsHandler E cfg a t j).2 := by
  simp only [NbiServer.exchangeParamsHandler]
  cases hm : E.secParamExchReq.fromJson j with
  | none => rfl
  | some m =>
      have hne : m.n32fContextId ≠ [] := fun hnil => hid ⟨rfl, m, hm, hnil⟩
      simp only [NbiServer.ofN32c, SeppApp.handleExchangeParams, N32cHandshake.handleExchangeParams,
        N32cHandled.toHandled, N32cHandshake.rejected, hm, N32cHandshake.adoptParams, if_pos hne]
      split <;> rfl

theorem n32fTerminateHandler_congr (j : Json) :
    (NbiServer.n32fTerminateHandler E C s j).2 = (NbiServer.n32fTerminateHandler E C t j).2 := by
  simp only [NbiServer.n32fTerminateHandler]
  cases hm : E.contextInfo.fromJson j with
  | none => rfl
  | some context =>
      simp only [NbiServer.ofN32c, SeppApp.handleN32fTerminateReq,
        N32cHandshake.handleN32fTerminateReq, N32cHandled.toHandled, N32cHandshake.rejected, hm]
      split
      · split <;> rfl
      · rfl

theorem n32fErrorHandler_congr (j : Json) :
    (NbiServer.n32fErrorHandler E s j).2 = (NbiServer.n32fErrorHandler E t j).2 := by
  simp only [NbiServer.n32fErrorHandler, NbiServer.ofN32c, SeppApp.handleN32fError,
    N32cHandshake.handleN32fError, N32cHandled.toHandled, N32cHandshake.rejected]
  split
  · rfl
  · split <;> rfl

theorem n32fProcessHandler_congr (h : SameConfiguration s t) (j : Json) :
    (NbiServer.n32fProcessHandler E C cfg a s j).2
      = (NbiServer.n32fProcessHandler E C cfg a t j).2 := by
  simp only [NbiServer.n32fProcessHandler, SeppApp.handleN32fProcess,
    handleN32fProcessPost_congr h.capability h.key]
  split
  · rfl
  · split <;> rfl

theorem rootHandler_congr (h : SameConfiguration s t) (j : Json) :
    (NbiServer.rootHandler E cfg a s j).2 = (NbiServer.rootHandler E cfg a t j).2 := by
  simp only [NbiServer.rootHandler, NbiServer.forwardHandler, handleN32fForward, h.capability]

/-- A handler tells two SEPPs of one configuration apart only by the id it
has to give. -/
theorem handler_congr (h : SameConfiguration s t) (r : Resource) {j : Json}
    (hid : ¬ LeavesIdOpen E r j) :
    (r.handler E C cfg a s j).2 = (r.handler E C cfg a t j).2 := by
  cases r with
  | exchangeCapability => exact exchangeCapabilityHandler_congr h j
  | exchangeParams => exact exchangeParamsHandler_congr hid
  | n32fTerminate => exact n32fTerminateHandler_congr j
  | n32fError => exact n32fErrorHandler_congr j
  | n32fProcess => exact n32fProcessHandler_congr h j
  | root => exact rootHandler_congr h j

theorem serve_congr (h : SameConfiguration s t) {req : NbiRequest}
    (hid : ∀ j, posted E req = some j → ¬ LeavesIdOpen E (Resource.ofPath req.path) j) :
    (NbiServer.serve E C cfg (some s) a req).toNbiHandled
      = (NbiServer.serve E C cfg (some t) a req).toNbiHandled := by
  have hpost : ∀ (r : Resource), r = Resource.ofPath req.path → ∀ cause detail allowNoContent,
      NbiServer.processPostRequest E (some s) req (fun s j => (r.handler E C cfg a s j).2) cause
          detail allowNoContent
        = NbiServer.processPostRequest E (some t) req (fun s j => (r.handler E C cfg a s j).2)
          cause detail allowNoContent := by
    intro r hr cause detail allowNoContent
    simp only [NbiServer.processPostRequest]
    by_cases hmethod : req.method = ascii "POST"
    · cases hparse : E.parse req.body with
      | error what => rfl
      | ok j =>
          have hposted : posted E req = some j := by
            rw [posted, if_pos hmethod, hparse]
            rfl
          simp only [handler_congr h r (by rw [hr]; exact hid j hposted)]
    · simp only [if_pos hmethod]
  unfold NbiServer.serve
  cases hr : Resource.ofPath req.path with
  | exchangeCapability => exact hpost .exchangeCapability hr.symm _ _ _
  | exchangeParams => exact hpost .exchangeParams hr.symm _ _ _
  | n32fTerminate => exact hpost .n32fTerminate hr.symm _ _ _
  | n32fError => exact hpost .n32fError hr.symm _ _ _
  | n32fProcess => exact hpost .n32fProcess hr.symm _ _ _
  | root =>
      show NbiServer.handleN32fForward E cfg (some s) a.nf req
        = NbiServer.handleN32fForward E cfg (some t) a.nf req
      have hroot : NbiServer.forwardHandler E cfg a.nf s (NbiServer.wrapRequest req)
          = NbiServer.forwardHandler E cfg a.nf t (NbiServer.wrapRequest req) :=
        rootHandler_congr (a := a) h (NbiServer.wrapRequest req)
      unfold NbiServer.handleN32fForward
      split
      · simp only [hroot]
      · exact hpost .root hr.symm _ _ _

end Congr

/-! ## The machine -/

/-- What happens to a SEPP: requests of peers and of NFs, and operations of
its own, with the answers of the peer. -/
inductive SeppEvent where
  | nbi (a : Ambient) (req : NbiRequest)
  | nfService (rand : Option (Bytes 12)) (answer : HttpResponse) (req : NbiRequest)
  | createExchangeCapability (uuid : Uuid) (capabilityAnswer paramsAnswer : HttpResponse)
  | stop (cSepp : Bool) (nrfUrl : Str) (answer : HttpResponse)

/-- What a SEPP puts out: the reply to who asked, if somebody did, and what it
sends. -/
structure SeppOutput where
  reply : Option (Except Exn NbiResponse)
  sent : List HttpRequest

def NbiHandled.toOutput (h : NbiHandled) : SeppOutput := { reply := some h.reply, sent := h.sent }

def seppMachine (E : Platform) (C : Checks) (cfg : SeppConfig) :
    Machine SeppApp SeppEvent SeppOutput where
  next s
    | .nbi a req => (NbiServer.serve E C cfg (some s) a req).inst.getD s
    | .nfService .. => s
    | .createExchangeCapability uuid capabilityAnswer paramsAnswer =>
        (s.createExchangeCapability E C uuid capabilityAnswer paramsAnswer).state
    | .stop cSepp nrfUrl answer => (s.stop E cSepp nrfUrl answer).state
  out s
    | .nbi a req => (NbiServer.serve E C cfg (some s) a req).toNbiHandled.toOutput
    | .nfService rand answer req => (SbiServer.nfService E cfg s rand answer req).toOutput
    | .createExchangeCapability uuid capabilityAnswer paramsAnswer =>
        { reply := none
          sent := (s.createExchangeCapability E C uuid capabilityAnswer paramsAnswer).sent }
    | .stop cSepp nrfUrl answer => { reply := none, sent := (s.stop E cSepp nrfUrl answer).sent }

section Runs

variable (E : Platform) (C : Checks) (cfg : SeppConfig)

theorem configured_of_forgetNegotiated {s t : SeppApp}
    (h : s.forgetNegotiated = t.forgetNegotiated) : s.configured = t.configured := by
  show s.forgetNegotiated.configured = t.forgetNegotiated.configured
  rw [h]

theorem configured_serve (s : SeppApp) (a : Ambient) (req : NbiRequest) :
    ((NbiServer.serve E C cfg (some s) a req).inst.getD s).configured = s.configured := by
  have hnext := nbi_next_posted E C cfg s (a, req)
  rw [nbi_next] at hnext
  rw [hnext, Option.getD_some]
  cases posted E req with
  | none => rfl
  | some j =>
      exact configured_of_forgetNegotiated
        (handler_forgetNegotiated E C cfg a s j (Resource.ofPath req.path))

/-- No request changes how a P-SEPP is configured. -/
theorem configured_nbi {t : SeppApp} (inst : Option SeppApp) (e : Ambient × NbiRequest)
    (h : ∃ s, inst = some s ∧ s.configured = t.configured) :
    ∃ s, (nbiMachine E C cfg).next inst e = some s ∧ s.configured = t.configured := by
  obtain ⟨s, rfl, hs⟩ := h
  have hnext := nbi_next_posted E C cfg s e
  refine ⟨_, hnext, ?_⟩
  have hserved := configured_serve E C cfg s e.1 e.2
  rw [nbi_next] at hnext
  rw [hnext, Option.getD_some] at hserved
  exact hserved.trans hs

theorem configured_adoptExchangeParams (s : SeppApp) (answer : HttpResponse) :
    (s.adoptExchangeParams E answer).configured = s.configured := by
  rcases adoptExchangeParams_cases (E := E) s answer with ⟨rsp, -, hadopted⟩ | ⟨-, hsame⟩
  · rw [hadopted]
    rfl
  · rw [hsame]

theorem configured_paramsRequest (s : SeppApp) (uuid : Uuid) :
    (s.paramsRequest E uuid).1.configured = s.configured := by
  unfold SeppApp.paramsRequest N32cHandshake.createExchangeParamsReq
  split
  · rfl
  · dsimp only
    split <;> rfl

theorem configured_createExchangeParams (s : SeppApp) (uuid : Uuid) (answer : HttpResponse) :
    (s.createExchangeParams E uuid answer).state.configured = s.configured := by
  have hmade := configured_paramsRequest E s uuid
  unfold SeppApp.createExchangeParams
  dsimp only
  rcases SeppApp.asked_cases (s.paramsRequest E uuid).1
    ((s.paramsRequest E uuid).1.adoptExchangeParams E answer) (s.paramsRequest E uuid).2
    with ⟨-, hstate, -⟩ | ⟨q, -, hasked⟩
  · rw [hstate]
    exact hmade
  · rw [hasked]
    exact (configured_adoptExchangeParams E _ answer).trans hmade

/-- The answer to a capability request leaves what is known of the peer, and
nothing else. -/
theorem adoptExchangeCapability_frame (s : SeppApp) (answer : HttpResponse) :
    ∃ fqdn flag purposes, (s.adoptExchangeCapability E C answer).1 = { s with
      handshake :=
        { s.handshake with
          peerSeppFqdn := fqdn
          peerTargetApiRootSupported := flag
          allowedN32Purposes := purposes } } := by
  have hsame : ∃ fqdn flag purposes, s = { s with
      handshake :=
        { s.handshake with
          peerSeppFqdn := fqdn
          peerTargetApiRootSupported := flag
          allowedN32Purposes := purposes } } :=
    ⟨s.handshake.peerSeppFqdn, s.handshake.peerTargetApiRootSupported,
      s.handshake.allowedN32Purposes, rfl⟩
  unfold SeppApp.adoptExchangeCapability
  split
  · split
    · exact hsame
    · rename_i respBody _
      obtain ⟨fqdn, flag, purposes, hframe⟩ :=
        N32cHandshake.handleExchangeCapabilityResponse_frame s.handshake respBody
      split
      · refine ⟨fqdn, flag, purposes, ?_⟩
        dsimp only
        split <;> rw [hframe]
      · exact hsame
  · exact hsame

theorem configured_adoptExchangeCapability (s : SeppApp) (answer : HttpResponse) :
    (s.adoptExchangeCapability E C answer).1.configured = s.configured := by
  obtain ⟨fqdn, flag, purposes, hframe⟩ := adoptExchangeCapability_frame E C s answer
  rw [hframe]
  rfl

theorem configured_createExchangeCapability (s : SeppApp) (uuid : Uuid)
    (capabilityAnswer paramsAnswer : HttpResponse) :
    (s.createExchangeCapability E C uuid capabilityAnswer paramsAnswer).state.configured
      = s.configured := by
  have hadopt := configured_adoptExchangeCapability E C s capabilityAnswer
  unfold SeppApp.createExchangeCapability
  split
  · rfl
  · rfl
  · dsimp only
    split
    · exact (configured_createExchangeParams E _ uuid paramsAnswer).trans hadopt
    · exact hadopt

theorem configured_stop (s : SeppApp) (cSepp : Bool) (nrfUrl : Str) (answer : HttpResponse) :
    (s.stop E cSepp nrfUrl answer).state.configured = s.configured := by
  have hsend : (s.sendN32fTerminate E answer).state.configured = s.configured := by
    rcases sendN32fTerminate_cases (E := E) s answer with ⟨-, hstate⟩ | hstate
    · rw [hstate]
      rfl
    · rw [hstate]
  rcases SeppApp.stop_cases E cSepp nrfUrl answer s with
    ⟨-, hstop⟩ | ⟨-, ⟨-, hstop⟩ | ⟨-, hstop⟩⟩
  · rw [hstop]
  · rw [hstop]
    exact hsend
  · rw [hstop]
    exact hsend

/-- Nothing that happens to a SEPP changes what it was configured with. -/
theorem configured_next (s : SeppApp) (e : SeppEvent) :
    ((seppMachine E C cfg).next s e).configured = s.configured := by
  cases e with
  | nbi a req => exact configured_serve E C cfg s a req
  | nfService => rfl
  | createExchangeCapability uuid capabilityAnswer paramsAnswer =>
      exact configured_createExchangeCapability E C s uuid capabilityAnswer paramsAnswer
  | stop cSepp nrfUrl answer => exact configured_stop E s cSepp nrfUrl answer

theorem configured_run (s : SeppApp) (es : List SeppEvent) :
    ((seppMachine E C cfg).run s es).configured = s.configured :=
  Machine.inv_run (I := fun s' : SeppApp => s'.configured = s.configured)
    (fun s' e h => (configured_next E C cfg s' e).trans h) rfl es

/-- However long a SEPP has been running, it answers a peer's request, and asks
an NF for it, as it would have done at its start, as long as the request does
not leave it the choice of a context id. -/
theorem served_as_configured (s : SeppApp) (es : List SeppEvent) (a : Ambient)
    {req : NbiRequest}
    (hid : ∀ j, posted E req = some j → ¬ LeavesIdOpen E (Resource.ofPath req.path) j) :
    (seppMachine E C cfg).out ((seppMachine E C cfg).run s es) (.nbi a req)
      = (seppMachine E C cfg).out s (.nbi a req) := by
  refine Machine.out_run (configured_next E C cfg) (fun s' t' hsame => ?_) s es
  exact congrArg NbiHandled.toOutput (serve_congr (sameConfiguration_iff.mp hsame) hid)

/-- Two SEPPs that can talk under PRINS can do so whatever happens to them. -/
theorem PrinsPair.of_runs {s t : SeppApp} {url : Str} (cfg' : SeppConfig)
    (h : PrinsPair E s t url) (es fs : List SeppEvent) :
    PrinsPair E ((seppMachine E C cfg).run s es) ((seppMachine E C cfg').run t fs) url :=
  h.of_configured (configured_run E C cfg s es) (configured_run E C cfg' t fs)

/-- At any time in the lives of two SEPPs, and whatever they have negotiated
since, a request of an NF that fits passes from the one to the other under
PRINS or is openly refused, and any request leaves the other as it was. -/
theorem prins_passage_of_runs {s t : SeppApp} {url : Str} (cfg' : SeppConfig)
    (rand : Option (Bytes 12)) (a : Ambient) {req : NbiRequest} (hpair : PrinsPair E s t url)
    (hreq : Plain req) (es fs : List SeppEvent) :
    let t' := (seppMachine E C cfg').run t fs
    let p := passage E C cfg cfg' ((seppMachine E C cfg).run s es) t' rand a req
    (∀ v, p.served = some v →
        v.inst = some t' ∧ (Fits E req → v.sent = [] ∨ v.sent = [localRequest E req]))
      ∧ (Fits E req → ∀ r, p.reply = .ok r →
          r = SbiServer.badGateway
          ∨ (AnswerFits E req (a.nf (localRequest E req)) →
              HandsOn (a.nf (localRequest E req)) r)
            ∧ ∃ v, p.served = some v ∧ v.sent = [localRequest E req]) :=
  prins_passage C cfg cfg' a (hpair.of_runs E C cfg cfg' es fs) hreq

end Runs

/-- A message for an NF, as the peer is sent it. -/
def sampleProcess : NbiRequest :=
  { samplePost with path := Resource.n32fProcess.pattern, body := JsonText.write sampleRequest }

theorem served_as_configured_takeover :
    let M := seppMachine Reference.platform NbiServer.lenient Reference.config
    M.out (M.run prinsProducer [.nbi sampleGone sampleTakeover]) (.nbi sampleGone sampleProcess)
      = M.out prinsProducer (.nbi sampleGone sampleProcess) := by
  have hpath : Resource.ofPath sampleProcess.path = .n32fProcess :=
    Resource.ofPath_pattern .n32fProcess
  refine served_as_configured Reference.platform NbiServer.lenient Reference.config prinsProducer
    [.nbi sampleGone sampleTakeover] sampleGone fun j _ hopen => ?_
  rw [hpath] at hopen
  cases hopen.1

/-- The peer has taken over a context of somebody else since. -/
theorem prins_passage_of_runs_takeover :
    let t' := (seppMachine Reference.platform NbiServer.lenient Reference.config).run prinsProducer
      [.nbi sampleGone sampleTakeover]
    ∃ v, (passage Reference.platform NbiServer.lenient Reference.config Reference.config
        prinsConsumer t' none sampleGone samplePost).served = some v
      ∧ v.inst = some t'
      ∧ (v.sent = [] ∨ v.sent = [localRequest Reference.platform samplePost]) := by
  intro t'
  have hpair := prinsPair_sample.of_runs Reference.platform NbiServer.lenient Reference.config
    Reference.config [] [.nbi sampleGone sampleTakeover]
  obtain ⟨v, hserved, -⟩ := passage_of_created NbiServer.lenient Reference.config
    Reference.config sampleGone hpair plain_samplePost createN32fProcessRequest_sample
    (Reference.dump_of_writable writable_sampleRequest)
  obtain ⟨hinst, hsent⟩ := (prins_passage_of_runs Reference.platform NbiServer.lenient
    Reference.config Reference.config none sampleGone prinsPair_sample plain_samplePost []
    [.nbi sampleGone sampleTakeover]).1 v hserved
  exact ⟨v, hserved, hinst, hsent fits_samplePost⟩

/-! ## What a SEPP sends -/

/-- The JSON is posted to a resource of the peer. -/
def Posts (E : Platform) (s : SeppApp) (r : Resource) (j : Json) (q : HttpRequest) : Prop :=
  ∃ url text, s.remoteSeppUrl = some url ∧ E.dump j = .ok text
    ∧ q = prepareJsonRequest E .POST (url ++ r.pattern) text

/-- An NF is sent what the request of a peer carries: under PRINS the request of
the message, under TLS the GET that is wrapped. -/
def AsksNf (E : Platform) (cfg : SeppConfig) (s : SeppApp) (req : NbiRequest)
    (q : HttpRequest) : Prop :=
  (Resource.ofPath req.path).accepts req.method
    ∧ ∃ j, (Resource.ofPath req.path).message E req = .ok j
      ∧ ((Resource.ofPath req.path = .n32fProcess ∧ ∃ env body, Readable E s.forward j env body
          ∧ q = processRequest E cfg env body)
        ∨ (Resource.ofPath req.path = .root ∧ s.forward.securityCapability = ascii "TLS"
          ∧ ∃ authority path, wrappedTarget j = .ok (authority, path)
            ∧ q = targetRequest E cfg authority path (ascii "GET") [] (wrappedHeaders j)))

/-- The peer is sent the request of an NF: in a message under the N32-f context,
or as it is. -/
def AsksPeer (E : Platform) (cfg : SeppConfig) (s : SeppApp) (n32f : Str)
    (rand : Option (Bytes 12)) (req : NbiRequest) (q : HttpRequest) : Prop :=
  if s.handshake.selectedSecCapability = ascii "PRINS" then
    ∃ msg, createN32fProcessRequest E { s.forward with n32fContextId := n32f } rand
        (SbiServer.nfAuthority req.headers) (SbiServer.fullPath req) req.method req.body = some msg
      ∧ Posts E s .n32fProcess msg q
  else
    ∃ url, s.remoteSeppUrl = some url ∧ q = SeppApp.tlsRequest E cfg url
      (SbiServer.nfAuthority req.headers) (SbiServer.fullPath req) req.method req.body

/-- The requests an event may make a SEPP send that is configured like `s` and
holds the contexts `n32c` and `n32f`, in their order. -/
def provided (E : Platform) (cfg : SeppConfig) (s : SeppApp) (n32c n32f : Str) :
    SeppEvent → List (HttpRequest → Prop)
  | .nbi _ req => [AsksNf E cfg s req]
  | .nfService rand _ req => [AsksPeer E cfg s n32f rand req]
  | .createExchangeCapability uuid _ _ =>
      [Posts E s .exchangeCapability (s.handshake.createExchangeCapabilityReq E),
        fun q => s.handshake.selectedSecCapability = ascii "PRINS" ∧ Posts E s .exchangeParams
          ({ s.handshake with n32cContextId := n32c }.createExchangeParamsReq E uuid).2 q]
  | .stop cSepp nrfUrl _ =>
      [fun q => (cSepp = true ∧ n32c ≠ [])
          ∧ Posts E s .n32fTerminate (E.contextInfo.toJson { n32fContextId := n32c }) q,
        fun q => q = SeppApp.deregisterRequest nrfUrl]

/-- Some of the requests that are provided for, each once and in order. -/
def InOrder (ps : List (HttpRequest → Prop)) (sent : List HttpRequest) : Prop :=
  ∃ qs, qs.Sublist ps ∧ List.Forall₂ (fun q P => P q) sent qs

theorem InOrder.nil (ps : List (HttpRequest → Prop)) : InOrder ps [] :=
  ⟨[], List.nil_sublist ps, .nil⟩

theorem InOrder.one {P : HttpRequest → Prop} {q : HttpRequest} (h : P q) : InOrder [P] [q] :=
  ⟨[P], List.Sublist.refl _, .cons h .nil⟩

theorem InOrder.head {ps : List (HttpRequest → Prop)} {sent : List HttpRequest}
    (h : InOrder ps sent) (P : HttpRequest → Prop) : InOrder (ps ++ [P]) sent := by
  obtain ⟨qs, hsub, hall⟩ := h
  exact ⟨qs, hsub.trans (List.sublist_append_left ps [P]), hall⟩

theorem InOrder.imp {P P' : HttpRequest → Prop} {sent : List HttpRequest} (h : InOrder [P] sent)
    (himp : ∀ q, P q → P' q) : InOrder [P'] sent := by
  obtain ⟨qs, hsub, hall⟩ := h
  rcases List.sublist_singleton.mp hsub with rfl | rfl
  · exact ⟨[], List.nil_sublist _, hall⟩
  · cases hall with
    | cons hq hnone => exact ⟨[P'], List.Sublist.refl _, .cons (himp _ hq) hnone⟩

theorem InOrder.append {ps ps' : List (HttpRequest → Prop)} {sent sent' : List HttpRequest}
    (h : InOrder ps sent) (h' : InOrder ps' sent') : InOrder (ps ++ ps') (sent ++ sent') := by
  obtain ⟨qs, hsub, hall⟩ := h
  obtain ⟨qs', hsub', hall'⟩ := h'
  exact ⟨qs ++ qs', hsub.append hsub', List.rel_append hall hall'⟩

section Outgoing

variable {E : Platform} {C : Checks} {cfg : SeppConfig} {s : SeppApp}

/-- The parameters that are offered depend on the context and on the SEPP's name. -/
theorem createExchangeParamsReq_congr {σ τ : N32cHandshake}
    (hid : σ.n32cContextId = τ.n32cContextId) (hsender : σ.senderFqdn = τ.senderFqdn)
    (uuid : Uuid) :
    (σ.createExchangeParamsReq E uuid).2 = (τ.createExchangeParamsReq E uuid).2 := by
  simp only [N32cHandshake.createExchangeParamsReq, hid]
  split <;> simp only [hid, hsender]

theorem provided_congr {t : SeppApp} (h : SameConfiguration s t) (n32c n32f : Str)
    (e : SeppEvent) : provided E cfg s n32c n32f e = provided E cfg t n32c n32f e := by
  have hforward : { s.forward with n32fContextId := n32f }
      = { t.forward with n32fContextId := n32f } := by
    rw [N32fForward.mk.injEq]
    exact ⟨rfl, h.capability, h.key⟩
  have hread : ∀ j env body, Readable E s.forward j env body ↔ Readable E t.forward j env body := by
    simp only [Readable, h.capability, h.key, implies_true]
  have hposts : Posts E s = Posts E t := by
    funext r j q
    simp only [Posts, h.url]
  have hcapability : s.handshake.createExchangeCapabilityReq E
      = t.handshake.createExchangeCapabilityReq E := by
    simp only [N32cHandshake.createExchangeCapabilityReq, h.selected, h.sender]
  have hparams : ∀ uuid,
      ({ s.handshake with n32cContextId := n32c }.createExchangeParamsReq E uuid).2
        = ({ t.handshake with n32cContextId := n32c }.createExchangeParamsReq E uuid).2 :=
    createExchangeParamsReq_congr rfl h.sender
  cases e with
  | nbi a req =>
      simp only [provided, List.cons.injEq, and_true]
      funext q
      simp only [AsksNf, hread, h.capability]
  | nfService rand answer req =>
      simp only [provided, List.cons.injEq, and_true]
      funext q
      simp only [AsksPeer, h.selected, hforward, hposts, h.url]
  | createExchangeCapability uuid capabilityAnswer paramsAnswer =>
      simp only [provided]
      rw [hposts, hcapability, hparams, h.selected]
  | stop cSepp nrfUrl answer => simp only [provided, hposts]

theorem handleN32fProcessPost_sent {σ : N32fForward} {rand : Option (Bytes 12)}
    {nf : HttpRequest → HttpResponse} {reqData : Json} :
    (handleN32fProcessPost E cfg σ rand nf reqData .null ∅).sent = []
    ∨ ∃ env body, Readable E σ reqData env body
      ∧ (handleN32fProcessPost E cfg σ rand nf reqData .null ∅).sent
          = [processRequest E cfg env body] := by
  by_cases hread : ∃ env body, Readable E σ reqData env body
  · obtain ⟨env, body, hread⟩ := hread
    refine Or.inr ⟨env, body, hread, ?_⟩
    rw [handleN32fProcessPost_of_readable hread, relayToTarget_sent]
  · exact Or.inl (handleN32fProcessPost_of_not_readable fun env body h =>
      hread ⟨env, body, h⟩).1

theorem handleN32fForward_sent {σ : N32fForward} {nf : HttpRequest → HttpResponse}
    {reqData : Json} :
    (handleN32fForward E cfg σ nf reqData .null ∅).sent = []
    ∨ σ.securityCapability = ascii "TLS" ∧ ∃ authority path,
        wrappedTarget reqData = .ok (authority, path)
        ∧ (handleN32fForward E cfg σ nf reqData .null ∅).sent
          = [targetRequest E cfg authority path (ascii "GET") [] (wrappedHeaders reqData)] := by
  unfold handleN32fForward
  split
  · exact Or.inl rfl
  · split
    · exact Or.inl rfl
    · rename_i htls
      split
      · exact Or.inl rfl
      · rename_i authority path htarget
        refine Or.inr ⟨not_not.mp htls, authority, path, htarget, ?_⟩
        simp only [sendHttpRequestToTarget]
        split <;> rfl

/-- A handler sends nothing, or the one request its resource is for. -/
theorem handler_sent (a : Ambient) {req : NbiRequest} {j : Json}
    (haccepts : (Resource.ofPath req.path).accepts req.method)
    (hmessage : (Resource.ofPath req.path).message E req = .ok j) :
    InOrder [AsksNf E cfg s req]
      ((Resource.ofPath req.path).handler E C cfg a s j).2.sent := by
  unfold AsksNf
  cases hr : Resource.ofPath req.path with
  | exchangeCapability => exact InOrder.nil _
  | exchangeParams =>
      simp only [Resource.handler, NbiServer.exchangeParamsHandler]
      split <;> exact InOrder.nil _
  | n32fTerminate =>
      simp only [Resource.handler, NbiServer.n32fTerminateHandler]
      split
      · exact InOrder.nil _
      · split <;> exact InOrder.nil _
  | n32fError => exact InOrder.nil _
  | n32fProcess =>
      rw [hr] at haccepts hmessage
      simp only [Resource.handler, NbiServer.n32fProcessHandler]
      split
      · exact InOrder.nil _
      · split
        · rcases handleN32fProcessPost_sent (E := E) (σ := s.forward)
            with hnone | ⟨env, body, hread, hq⟩
          · rw [SeppApp.handleN32fProcess, hnone]
            exact InOrder.nil _
          · rw [SeppApp.handleN32fProcess, hq]
            exact InOrder.one ⟨haccepts, j, hmessage, Or.inl ⟨trivial, env, body, hread, rfl⟩⟩
        · exact InOrder.nil _
  | root =>
      rw [hr] at haccepts hmessage
      simp only [Resource.handler, NbiServer.rootHandler, NbiServer.forwardHandler]
      rcases handleN32fForward_sent (E := E) (σ := s.forward)
        with hnone | ⟨hcap, authority, path, htarget, hq⟩
      · rw [hnone]
        exact InOrder.nil _
      · rw [hq]
        exact InOrder.one
          ⟨haccepts, j, hmessage, Or.inr ⟨trivial, hcap, authority, path, htarget, rfl⟩⟩

theorem serve_sent (a : Ambient) (req : NbiRequest) :
    InOrder [AsksNf E cfg s req] (NbiServer.serve E C cfg (some s) a req).sent := by
  rcases NbiServer.serve_cases E C cfg (some s) a req with ⟨-, -, hsent, -⟩ | ⟨-, -, -, hsent, -⟩
    | ⟨-, s', what, -, -, -, hsent, -⟩ | ⟨haccepts, s', j, hs, hmessage, -, hsent, -⟩
  · rw [hsent]
    exact InOrder.nil _
  · rw [hsent]
    exact InOrder.nil _
  · rw [hsent]
    exact InOrder.nil _
  · obtain rfl := Option.some.inj hs
    rw [hsent]
    exact handler_sent a haccepts hmessage

theorem nfService_sent (rand : Option (Bytes 12)) (answer : HttpResponse) (req : NbiRequest) :
    InOrder [AsksPeer E cfg s s.forward.n32fContextId rand req]
      (SbiServer.nfService E cfg s rand answer req).sent := by
  unfold SbiServer.nfService
  dsimp only
  split
  · exact InOrder.nil _
  · unfold SeppApp.handleNfServiceRequest AsksPeer
    cases hurl : s.remoteSeppUrl with
    | none => exact InOrder.nil _
    | some url =>
        by_cases hprins : s.handshake.selectedSecCapability = ascii "PRINS"
        · simp only [if_pos hprins, SeppApp.handleNfServiceRequestPrins]
          split
          · exact InOrder.nil _
          · rename_i msg hmsg
            split
            · exact InOrder.nil _
            · rename_i text hdump
              have hposts : Posts E s .n32fProcess msg
                  (prepareJsonRequest E .POST (url ++ Resource.n32fProcess.pattern) text) :=
                ⟨url, text, hurl, hdump, rfl⟩
              split <;> exact InOrder.one ⟨msg, hmsg, hposts⟩
        · simp only [if_neg hprins, SeppApp.handleNfServiceRequestTls]
          split <;> exact InOrder.one ⟨url, rfl, rfl⟩

/-- What the request was built for is sent, or nothing. -/
theorem asked_sent {r : Resource} {j : Json} {answered : SeppApp}
    {made : Option (Except Exn HttpRequest)}
    (hmade : ∀ q, made = some (.ok q) → Posts E s r j q) (s' : SeppApp) :
    InOrder [Posts E s r j] (s'.asked made answered).sent := by
  rcases SeppApp.asked_cases s' answered made with ⟨-, -, hnone⟩ | ⟨q, hq, hasked⟩
  · rw [hnone]
    exact InOrder.nil _
  · rw [hasked]
    exact InOrder.one (hmade q hq)

theorem createExchangeParams_sent (uuid : Uuid) (answer : HttpResponse) :
    InOrder [Posts E s .exchangeParams (s.handshake.createExchangeParamsReq E uuid).2]
      (s.createExchangeParams E uuid answer).sent :=
  asked_sent (fun q hq => by
    obtain ⟨url, body, hurl, hdump, rfl⟩ := SeppApp.paramsRequest_eq_ok hq
    exact ⟨url, body, hurl, hdump, rfl⟩) _

/-- The parameters are exchanged where the SEPP itself was configured for
PRINS, whatever the peer has selected. -/
theorem adoptExchangeCapability_goesOn (answer : HttpResponse)
    (h : (s.adoptExchangeCapability E C answer).2 = true) :
    s.handshake.selectedSecCapability = ascii "PRINS" := by
  unfold SeppApp.adoptExchangeCapability at h
  split at h
  · split at h
    · cases h
    · rename_i respBody _
      obtain ⟨fqdn, flag, purposes, hframe⟩ :=
        N32cHandshake.handleExchangeCapabilityResponse_frame s.handshake respBody
      split at h
      · dsimp only at h
        split at h
        · simp only [hframe, decide_eq_true_eq] at h
          exact h
        · cases h
      · cases h
  · cases h

theorem createExchangeCapability_sent (uuid : Uuid) (capabilityAnswer paramsAnswer : HttpResponse) :
    InOrder (provided E cfg s s.handshake.n32cContextId s.forward.n32fContextId
        (.createExchangeCapability uuid capabilityAnswer paramsAnswer))
      (s.createExchangeCapability E C uuid capabilityAnswer paramsAnswer).sent := by
  have hgoes := adoptExchangeCapability_goesOn (E := E) (C := C) (s := s) capabilityAnswer
  obtain ⟨fqdn, flag, purposes, hframe⟩ := adoptExchangeCapability_frame E C s capabilityAnswer
  unfold SeppApp.createExchangeCapability
  cases hmade : s.capabilityRequest E with
  | none => exact InOrder.nil _
  | some made =>
      cases made with
      | error e => exact InOrder.nil _
      | ok q =>
          obtain ⟨url, body, hurl, hdump, rfl⟩ := SeppApp.capabilityRequest_eq_ok hmade
          have hfirst : InOrder
              [Posts E s .exchangeCapability (s.handshake.createExchangeCapabilityReq E)]
              [prepareJsonRequest E .POST
                (url ++ ascii "/n32c-handshake/v1/exchange-capability") body] :=
            InOrder.one ⟨url, body, hurl, hdump, rfl⟩
          dsimp only
          split
          · rename_i hon
            have hparams := createExchangeParams_sent (E := E)
              (s := (s.adoptExchangeCapability E C capabilityAnswer).1) uuid paramsAnswer
            refine hfirst.append (hparams.imp fun q hq => ⟨hgoes hon, ?_⟩)
            have hbody := createExchangeParamsReq_congr (E := E)
              (σ := (s.adoptExchangeCapability E C capabilityAnswer).1.handshake)
              (τ := { s.handshake with n32cContextId := s.handshake.n32cContextId })
              (by rw [hframe]) (by rw [hframe]) uuid
            rw [hbody, hframe] at hq
            exact hq
          · exact hfirst.head _

/-- A termination is sent where the handshake has a context, and under it. -/
theorem sendN32fTerminate_sent (answer : HttpResponse) :
    InOrder [Posts E s .n32fTerminate
        (E.contextInfo.toJson { n32fContextId := s.handshake.n32cContextId })]
      (s.sendN32fTerminate E answer).sent :=
  asked_sent (fun q hq => by
    obtain ⟨-, url, body, hurl, hdump, rfl⟩ := SeppApp.terminateRequest_eq_ok hq
    exact ⟨url, body, hurl, hdump, rfl⟩) s

theorem stop_sent (cSepp : Bool) (nrfUrl : Str) (answer : HttpResponse) :
    InOrder (provided E cfg s s.handshake.n32cContextId s.forward.n32fContextId
        (.stop cSepp nrfUrl answer))
      (s.stop E cSepp nrfUrl answer).sent := by
  have hterminate := sendN32fTerminate_sent (E := E) (s := s) answer
  rcases SeppApp.stop_cases E cSepp nrfUrl answer s with ⟨-, hstop⟩ | ⟨hguard, hstop⟩
  · rw [hstop]
    exact (InOrder.nil [_]).append (InOrder.one rfl)
  · have hfirst : InOrder [fun q => (cSepp = true ∧ s.handshake.n32cContextId ≠ []) ∧ _] _ :=
      hterminate.imp fun q hq => ⟨hguard, hq⟩
    rcases hstop with ⟨-, hstop⟩ | ⟨-, hstop⟩
    · rw [hstop]
      exact hfirst.head _
    · rw [hstop]
      exact hfirst.append (InOrder.one rfl)

/-- What an event makes a SEPP send is provided for. -/
theorem out_sent (e : SeppEvent) :
    InOrder (provided E cfg s s.handshake.n32cContextId s.forward.n32fContextId e)
      ((seppMachine E C cfg).out s e).sent := by
  cases e with
  | nbi a req => exact serve_sent a req
  | nfService rand answer req => exact nfService_sent rand answer req
  | createExchangeCapability uuid capabilityAnswer paramsAnswer =>
      exact createExchangeCapability_sent uuid capabilityAnswer paramsAnswer
  | stop cSepp nrfUrl answer => exact stop_sent cSepp nrfUrl answer

/-- However long a SEPP has been running, an event makes it send the requests
that its configuration and its two contexts provide for, each at most once and
in their order, and nothing else. -/
theorem outgoing_run (es : List SeppEvent) (e : SeppEvent) :
    let s' := (seppMachine E C cfg).run s es
    InOrder (provided E cfg s s'.handshake.n32cContextId s'.forward.n32fContextId e)
      ((seppMachine E C cfg).out s' e).sent := by
  intro s'
  have hsame := sameConfiguration_iff.mp (configured_run E C cfg s es)
  rw [← provided_congr hsame]
  exact out_sent e

end Outgoing

end Sepp
