import Sepp.CapabilityAgreement
import Sepp.N32Network
import Sepp.SeppProfile

/-!
# C-SEPPs recover

In the network of `N32Network` nothing that happens keeps a C-SEPP from its
P-SEPP for good: `recovers`. From wherever a run has led, with whatever is
still under way, a C-SEPP that is not told to stop gives up what it waits
for, runs `create_exchange_capability` undisturbed, and the two agree.

What that rests on is `Understood`: the libraries write and read what these
two SEPPs say to each other, and the C-SEPP is configured for PRINS. It is
asked of the configurations alone, so that it lasts (`Understood.of_configured`).
-/

namespace Sepp

/-! ## What is said -/

/-- The parameters the SEPP `s` offers for the context `id`. -/
def paramsMessage (s : SeppApp) (id : Str) : SecParamExchReqData where
  n32fContextId := id
  sender := s.handshake.senderFqdn
  jweCipherSuiteList := some [ascii "A128GCM", ascii "A256GCM"]
  jwsCipherSuiteList := some [ascii "ES256", ascii "RS256"]
  protectionPolicyInfo := some emptyPolicy

/-- What it is answered. -/
def paramsAnswer (cfg : SeppConfig) (id : Str) : SecParamExchRspData where
  n32fContextId := id
  sender := cfg.nbiUrl
  selectedJweCipherSuite := some (ascii "A128GCM")
  selectedJwsCipherSuite := some (ascii "ES256")
  selProtectionPolicyInfo := some emptyPolicy

/-- What the SEPP `t` answers to an exchange of capabilities. -/
def capabilityAnswer (cfg : SeppConfig) (t : SeppApp) : Json :=
  .obj [(ascii "sender", .str cfg.nbiUrl),
    (ascii "selectedSecCapability", .str t.handshake.selectedSecCapability),
    (ascii "3GppSbiTargetApiRootSupported", .bool true),
    (ascii "allowedUsagePurpose", .arr [usagePurposeRoaming])]

/-- The C-SEPP `s` and the P-SEPP `t` can be brought together, under an id of
`ids`. -/
structure Understood (E : Platform) (C : Checks) (cfg : SeppConfig) (s t : SeppApp)
    (ids : Str → Prop) : Prop where
  prins : s.handshake.selectedSecCapability = ascii "PRINS"
  url : ∃ url, s.remoteSeppUrl = some url
  offered : E.Serialises (s.handshake.createExchangeCapabilityReq E)
  valid : ∃ m, E.secNegotiateReq.fromJson (s.handshake.createExchangeCapabilityReq E) = some m
    ∧ E.validateSecNegotiateReq m = true
  announced : E.Serialises (capabilityAnswer cfg t)
  checked : C.secNegotiateRsp (capabilityAnswer cfg t) = true
  proposed : ∀ id, ids id → E.Serialises (E.secParamExchReq.toJson (paramsMessage s id))
  adopted : ∀ id, ids id → E.Serialises (E.secParamExchRsp.toJson (paramsAnswer cfg id))

section Understood

variable {E : Platform} {C : Checks} {cfg : SeppConfig} {s t : SeppApp} {ids : Str → Prop}

theorem Understood.of_configured {s' t' : SeppApp} (h : Understood E C cfg s t ids)
    (hs : s'.configured = s.configured) (ht : t'.configured = t.configured) :
    Understood E C cfg s' t' ids := by
  obtain ⟨hselected, hsender, -, -, hurl⟩ := sameConfiguration_iff.mp hs
  obtain ⟨hselected', -⟩ := sameConfiguration_iff.mp ht
  have hreq : s'.handshake.createExchangeCapabilityReq E
      = s.handshake.createExchangeCapabilityReq E := by
    simp only [N32cHandshake.createExchangeCapabilityReq, hselected, hsender]
  have hanswer : capabilityAnswer cfg t' = capabilityAnswer cfg t := by
    simp only [capabilityAnswer, hselected']
  have hmessage : ∀ id, paramsMessage s' id = paramsMessage s id := fun id => by
    simp only [paramsMessage, hsender]
  constructor
  · rw [hselected]
    exact h.prins
  · rw [hurl]
    exact h.url
  · rw [hreq]
    exact h.offered
  · rw [hreq]
    exact h.valid
  · rw [hanswer]
    exact h.announced
  · rw [hanswer]
    exact h.checked
  · intro id hid
    rw [hmessage]
    exact h.proposed id hid
  · exact h.adopted

/-! ## The exchange of capabilities -/

/-- A capability request that is read and valid is answered with the
configured capability. -/
theorem serve_capability (C : Checks) (cfg : SeppConfig) (t : SeppApp) (a : Ambient)
    {req : NbiRequest} {σ : N32cHandshake} {m : SecNegotiateReqData}
    (hpath : req.path = Resource.exchangeCapability.pattern) (hpost : req.method = ascii "POST")
    (hparse : E.parse req.body = .ok (σ.createExchangeCapabilityReq E))
    (hread : E.secNegotiateReq.fromJson (σ.createExchangeCapabilityReq E) = some m)
    (hvalid : E.validateSecNegotiateReq m = true) :
    ∃ headers cause, (NbiServer.serve E C cfg (some t) a req).reply
      = NbiServer.sendOk E (capabilityAnswer cfg t) headers cause := by
  have hr : Resource.ofPath req.path = .exchangeCapability := by
    rw [hpath, Resource.ofPath_pattern]
  have hobj : (σ.createExchangeCapabilityReq E).isObject = true :=
    Json.isObject_set (E.secNegotiateReq.isObject_toJson _) _ _
  have hv := N32cHandshake.validateHandshakeRequest_iff.mpr hobj
  have hcaps := N32cHandshake.offers_configured (E := E) σ
  have hhandled : ∃ headers, (NbiServer.exchangeCapabilityHandler E cfg t
      (σ.createExchangeCapabilityReq E)).2
        = { ret := .ok true, respData := capabilityAnswer cfg t, respHeaders := headers,
            sent := [] } := by
    simp only [NbiServer.exchangeCapabilityHandler, NbiServer.ofN32c,
      SeppApp.handleExchangeCapabilityRequest, N32cHandshake.handleExchangeCapabilityRequest, hv,
      hread, hvalid, hcaps, Bool.not_true, Bool.false_eq_true, if_false, N32cHandled.toHandled]
    exact ⟨_, rfl⟩
  obtain ⟨headers, hhandled⟩ := hhandled
  have hserve : NbiServer.serve E C cfg (some t) a req
      = NbiServer.handleExchangeCapability E cfg (some t) req := by
    simp only [NbiServer.serve, hr]
  rw [hserve]
  simp only [NbiServer.handleExchangeCapability, NbiServer.postRequest,
    NbiServer.processPostRequest, hpost, hparse, hhandled, ne_eq, not_true_eq_false, if_false,
    NbiServer.replyTo, Bool.false_and, Bool.false_eq_true]
  exact ⟨_, _, rfl⟩

/-- What was answered is accepted. -/
theorem adoptExchangeCapability_answer (C : Checks) (cfg : SeppConfig) (t : SeppApp)
    {answer : HttpResponse} (hstatus : answer.statusCode = 200)
    (hparse : E.parse answer.body = .ok (capabilityAnswer cfg t))
    (hchecked : C.secNegotiateRsp (capabilityAnswer cfg t) = true)
    (hprins : s.handshake.selectedSecCapability = ascii "PRINS") :
    (s.adoptExchangeCapability E C answer).2 = true := by
  obtain ⟨fqdn, flag, purposes, hframe⟩ :=
    N32cHandshake.handleExchangeCapabilityResponse_frame s.handshake (capabilityAnswer cfg t)
  have hret : (s.handshake.handleExchangeCapabilityResponse (capabilityAnswer cfg t)).1
      = .ok true := rfl
  simp only [SeppApp.adoptExchangeCapability, hstatus, true_or, if_true, hparse, hchecked, hret,
    hframe, hprins, decide_true]

/-- The initiator goes on after it. -/
theorem capability_goesOn (h : Understood E C cfg s t ids) (hback : ReadsBack E)
    (a : Ambient) : ∃ q, Initiator.ask E { app := s, stage := .capability } = some q
      ∧ q.path = Resource.exchangeCapability.pattern
      ∧ (s.adoptExchangeCapability E C
          (received (NbiServer.serve E C cfg (some t) a q).reply)).2 = true := by
  obtain ⟨url, hurl⟩ := h.url
  obtain ⟨body, hbody⟩ := h.offered
  obtain ⟨text, htext⟩ := h.announced
  obtain ⟨m, hread, hvalid⟩ := h.valid
  obtain ⟨hpost, hpath, hsent⟩ := deliver_prepareJsonRequest E url body
    Resource.exchangeCapability.questionMark_not_mem
  refine ⟨deliver url (prepareJsonRequest E .POST (url ++ Resource.exchangeCapability.pattern)
    body), ?_, hpath, ?_⟩
  · simp only [Initiator.ask, SeppApp.capabilityRequest, hurl, SeppApp.jsonRequest_of_dump hbody]
    rfl
  · obtain ⟨headers, cause, hreply⟩ := serve_capability C cfg t a hpath hpost
      ((congrArg E.parse hsent).trans (hback _ _ hbody)) hread hvalid
    rw [hreply]
    refine adoptExchangeCapability_answer C cfg t ?_ ?_ h.checked h.prins
    · simp only [NbiServer.sendOk, htext]
      rfl
    · simp only [NbiServer.sendOk, htext]
      exact hback _ _ htext

/-! ## The exchange of parameters -/

/-- The id a SEPP exchanges parameters for. -/
def exchangedId (s : SeppApp) (uuid : Uuid) : Str :=
  if s.handshake.n32cContextId = [] then uuid.text else s.handshake.n32cContextId

theorem exchangedId_ne_nil (s : SeppApp) (uuid : Uuid) : exchangedId s uuid ≠ [] := by
  unfold exchangedId
  split
  · exact uuid.nonempty
  · assumption

/-- The request for the parameters is made and can be read. -/
theorem paramsRequest_understood (h : Understood E C cfg s t ids) (hback : ReadsBack E)
    (uuid : Uuid) (hid : ids (exchangedId s uuid)) :
    ∃ q, (s.paramsRequest E uuid).2 = some (.ok q)
      ∧ let d := deliver ((s.paramsRequest E uuid).1.remoteSeppUrl.getD []) q
        d.path = Resource.exchangeParams.pattern ∧ d.method = ascii "POST"
          ∧ E.parse d.body
            = .ok (E.secParamExchReq.toJson (paramsMessage s (exchangedId s uuid))) := by
  obtain ⟨url, hurl⟩ := h.url
  obtain ⟨body, hbody⟩ := h.proposed _ hid
  have hcreated : s.handshake.createExchangeParamsReq E uuid
      = ({ s.handshake with n32cContextId := exchangedId s uuid },
        E.secParamExchReq.toJson (paramsMessage s (exchangedId s uuid))) := by
    unfold N32cHandshake.createExchangeParamsReq exchangedId
    split
    · rfl
    · rfl
  obtain ⟨hpost, hpath, hsent⟩ := deliver_prepareJsonRequest E url body
    Resource.exchangeParams.questionMark_not_mem
  refine ⟨prepareJsonRequest E .POST (url ++ Resource.exchangeParams.pattern) body, ?_, ?_⟩
  · simp only [SeppApp.paramsRequest, hurl, hcreated, SeppApp.jsonRequest_of_dump hbody]
    rfl
  · have happ : (s.paramsRequest E uuid).1.remoteSeppUrl.getD [] = url := by
      simp only [SeppApp.paramsRequest, hurl, hcreated, Option.getD_some]
    rw [happ]
    exact ⟨hpath, hpost, (congrArg E.parse hsent).trans (hback _ _ hbody)⟩

/-- Parameters for an id that is understood are exchanged. -/
theorem params_exchanged (h : Understood E C cfg s t ids) (hback : ReadsBack E) (a : Ambient)
    {req : NbiRequest} {id : Str} (hne : id ≠ []) (hid : ids id)
    (hpath : req.path = Resource.exchangeParams.pattern) (hpost : req.method = ascii "POST")
    (hparse : E.parse req.body = .ok (E.secParamExchReq.toJson (paramsMessage s id)))
    (s' : SeppApp) :
    let v := NbiServer.serve E C cfg (some t) a req
    let s'' := s'.adoptExchangeParams E (received v.reply)
    ∃ t', v.inst = some t' ∧ AgreesWith t' s'' ∧ t'.handshake.session = s''.handshake.session := by
  intro v s''
  obtain ⟨text, htext⟩ := h.adopted id hid
  have hadopted : (t.handshake.adoptParams a.uuid (paramsMessage s id)).n32cContextId = id :=
    if_pos hne
  have hreplied : paramsReply cfg (t.handshake.adoptParams a.uuid (paramsMessage s id))
      (paramsMessage s id) = paramsAnswer cfg id := by
    simp only [paramsReply, hadopted]
    rfl
  obtain ⟨hinst, headers, cause, hreply⟩ := serve_params_toJson C cfg t a hpath hpost hparse
  rw [hreplied] at hreply
  let adopted := s'.handshake.adoptParamsResponse (paramsAnswer cfg id)
  have hs'' : s'' = { s' with
      handshake := adopted
      forward := { s'.forward with n32fContextId := adopted.n32cContextId } } := by
    refine adoptExchangeParams_of_toJson s' ?_ ?_
    · simp only [v, hreply, NbiServer.sendOk, htext]
      rfl
    · simp only [v, hreply, NbiServer.sendOk, htext]
      exact hback _ _ htext
  have hread : adopted.n32cContextId = id := if_pos hne
  refine ⟨_, hinst, ⟨?_, ?_⟩, ?_⟩
  · rw [hs'']
    exact hread.symm ▸ hne
  · rw [hs'']
    exact hadopted.trans hread.symm
  · rw [hs'']
    simp only [N32cHandshake.session, hadopted, hread]
    rfl

end Understood

/-! ## What lasts -/

section Lasting

variable {ι : Type*} {E : Platform} {C : Checks} {cfg : SeppConfig}

/-- No answer changes how a C-SEPP is configured. -/
theorem configured_answered (a : Initiator) (uuid : Uuid) (h : NbiHandled) :
    (Initiator.answered E C a uuid h).app.configured = a.app.configured := by
  obtain ⟨app, stage⟩ := a
  cases stage with
  | capability =>
      have hadopt := configured_adoptExchangeCapability E C app (received h.reply)
      rcases answered_capability_cases (E := E) C app uuid h with ⟨-, ha⟩ | ⟨-, ha⟩
      · rw [ha]
        exact (configured_paramsRequest E _ uuid).trans hadopt
      · rw [ha]
        exact hadopt
  | params q => exact configured_adoptExchangeParams E app (received h.reply)
  | terminate q =>
      rcases adoptTerminate_cases (E := E) app (received h.reply) with hsame | ⟨-, hcleared⟩
      · exact congrArg SeppApp.configured hsame
      · exact (congrArg SeppApp.configured hcleared).trans rfl
  | stopped => rfl

theorem keeps_configured (C : Checks) (cfg : SeppConfig) (start : ι → Initiator)
    (Y : ι → Uuid → Prop) :
    Calls.Keeps (nbiMachine E C cfg) (Initiator.caller E C) Y
      (fun i a => a.app.configured = (start i).app.configured) where
  answered _ a uuid _ _ _ hJ _ _ := (configured_answered a uuid _).trans hJ
  failed _ _ hJ := hJ
  turned _ a hJ := (congrArg SeppApp.configured (Initiator.stop_app a)).trans hJ

end Lasting

/-! ## Recovery -/

section Recovery

variable {ι : Type*} [DecidableEq ι] {E : Platform} {C : Checks} {cfg : SeppConfig}

/-- A C-SEPP that starts anew agrees with its P-SEPP after two calls. -/
theorem initiator_establishes {s t : SeppApp} {ids : Str → Prop}
    (h : Understood E C cfg s t ids) (hback : ReadsBack E) (a a' : Ambient) (uuid uuid' : Uuid)
    (hid : ids (exchangedId s uuid)) :
    let M := nbiMachine E C cfg
    let i₀ : Initiator := { app := s, stage := .capability }
    ∃ q q', i₀.ask E = some q ∧ q.path = Resource.exchangeCapability.pattern
      ∧ (i₀.answered E C uuid (M.out (some t) (a, q))).ask E = some q'
      ∧ q'.path = Resource.exchangeParams.pattern
      ∧ ∃ t', M.next (M.next (some t) (a, q)) (a', q') = some t'
        ∧ let s' := ((i₀.answered E C uuid (M.out (some t) (a, q))).answered E C uuid'
            (M.out (M.next (some t) (a, q)) (a', q'))).app
          AgreesWith t' s' ∧ t'.handshake.session = s'.handshake.session := by
  intro M i₀
  obtain ⟨q, hq, hqpath, hgoesOn⟩ := capability_goesOn h hback a
  obtain ⟨t₁, ht₁, hconfigured⟩ := configured_nbi E C cfg (some t) (a, q) ⟨t, rfl, rfl⟩
  let answer := received (M.out (some t) (a, q)).reply
  let s₁ := (s.adoptExchangeCapability E C answer).1
  have hsame : exchangedId s₁ uuid = exchangedId s uuid := by
    obtain ⟨fqdn, flag, purposes, hframe⟩ := adoptExchangeCapability_frame E C s answer
    show exchangedId (s.adoptExchangeCapability E C answer).1 uuid = _
    rw [hframe]
    rfl
  have h₁ : Understood E C cfg s₁ t₁ ids :=
    h.of_configured (configured_adoptExchangeCapability E C s answer) hconfigured
  obtain ⟨made, hmade, hpath, hpost, hparse⟩ :=
    paramsRequest_understood h₁ hback uuid (hsame.symm ▸ hid)
  have hi₁ : i₀.answered E C uuid (M.out (some t) (a, q))
      = { app := (s₁.paramsRequest E uuid).1, stage := .params made } := by
    refine (if_pos hgoesOn).trans ?_
    show ({ app := (s₁.paramsRequest E uuid).1, stage := .after (s₁.paramsRequest E uuid).2 } :
      Initiator) = _
    rw [hmade]
    rfl
  obtain ⟨t₂, ht₂, hagrees, hsession⟩ := params_exchanged h₁ hback a' (exchangedId_ne_nil s₁ uuid)
    (hsame.symm ▸ hid) hpath hpost hparse (s₁.paramsRequest E uuid).1
  refine ⟨q, deliver ((s₁.paramsRequest E uuid).1.remoteSeppUrl.getD []) made, hq, hqpath, ?_,
    hpath, t₂, ?_, ?_⟩
  · rw [hi₁]
    rfl
  · rw [ht₁]
    exact ht₂
  · rw [hi₁, ht₁]
    exact ⟨hagrees, hsession⟩

/-- A C-SEPP asks its P-SEPP something at any time until it is told to stop. -/
theorem Understood.asks {i : Initiator} {t : SeppApp} {ids : Str → Prop}
    (h : Understood E C cfg i.app t ids) (hback : ReadsBack E) (a : Ambient)
    (hgoes : i.stage.ends = false) : ∃ q, i.ask E = some q := by
  obtain ⟨app, stage⟩ := i
  cases stage with
  | capability =>
      obtain ⟨q, hq, -, -⟩ := capability_goesOn h hback a
      exact ⟨q, hq⟩
  | params made => exact ⟨_, rfl⟩
  | terminate made | stopped => cases hgoes

/-- From `net` the C-SEPP `i` gives up what it waits for and runs
`create_exchange_capability`, with nothing coming between: the P-SEPP serves
its exchange of capabilities, and then its exchange of parameters. -/
structure StartsAnew (E : Platform) (C : Checks) (cfg : SeppConfig) (net : N32Network ι) (i : ι)
    (a a' : Ambient) (uuid uuid' : Uuid) (given asked done : N32Network ι) : Prop where
  given_eq : given = (n32Network E C cfg).run net (Calls.reset i)
  anew : given.callers i = { app := (net.callers i).app, stage := .capability }
  capability : ∃ q : NbiRequest, q.path = Resource.exchangeCapability.pattern
    ∧ Calls.Exchanged (nbiMachine E C cfg) (Initiator.caller E C) given i q a uuid
  asked_eq : asked = (n32Network E C cfg).run given (Calls.exchange given i a uuid)
  params : ∃ q : NbiRequest, q.path = Resource.exchangeParams.pattern
    ∧ Calls.Exchanged (nbiMachine E C cfg) (Initiator.caller E C) asked i q a' uuid'
  done_eq : done = (n32Network E C cfg).run asked (Calls.exchange asked i a' uuid')

/-- All of its steps. -/
def anewSteps (given asked : N32Network ι) (i : ι) (a a' : Ambient) (uuid uuid' : Uuid) :
    List (N32NetworkEvent ι) :=
  Calls.reset i ++ (Calls.exchange given i a uuid ++ Calls.exchange asked i a' uuid')

theorem StartsAnew.run_eq {net given asked done : N32Network ι} {i : ι} {a a' : Ambient}
    {uuid uuid' : Uuid} (h : StartsAnew E C cfg net i a a' uuid uuid' given asked done) :
    (n32Network E C cfg).run net (anewSteps given asked i a a' uuid uuid') = done := by
  rw [anewSteps, Machine.run_append, Machine.run_append, ← h.given_eq, ← h.asked_eq, h.done_eq]

/-- A C-SEPP that starts anew and its P-SEPP agree, whatever either waited
for. -/
theorem brings_together {net : N32Network ι} {i : ι} {t : SeppApp} {ids : Str → Prop}
    {Y : ι → Uuid → Prop} (h : Understood E C cfg (net.callers i).app t ids)
    (hback : ReadsBack E) (hgoes : (net.callers i).stage.ends = false)
    (ht : net.server = some t) (a a' : Ambient) {uuid uuid' : Uuid}
    (hY : Y i uuid) (hY' : Y i uuid') (hid : ids (exchangedId (net.callers i).app uuid)) :
    ∃ given asked done, StartsAnew E C cfg net i a a' uuid uuid' given asked done
      ∧ (n32Network E C cfg).Guarded (Calls.Gives Y) net
          (anewSteps given asked i a a' uuid uuid')
      ∧ (∃ t', done.server = some t' ∧ AgreesWith t' (done.callers i).app
          ∧ t'.handshake.session = (done.callers i).app.handshake.session)
      ∧ ∀ j, j ≠ i → done.callers j = net.callers j := by
  let M := nbiMachine E C cfg
  let start : Initiator := { app := (net.callers i).app, stage := .capability }
  obtain ⟨q, q', hq, hqpath, hq', hqpath', t', ht', hagrees, hsession⟩ :=
    initiator_establishes h hback a a' uuid uuid' hid
  let first := start.answered E C uuid (M.out (some t) (a, q))
  let second := first.answered E C uuid' (M.out (M.next (some t) (a, q)) (a', q'))
  -- It first stops waiting for what it waits for.
  let given := (n32Network E C cfg).run net (Calls.reset i)
  have hreset : Calls.Standing given (Function.update net.callers i start) i (some t) := by
    have hfailed : (Initiator.caller E C).failed (net.callers i) = start := by
      simp only [Initiator.caller, hgoes, Bool.false_eq_true, if_false]
      rfl
    have hrun := Calls.run_reset (M := M) (P := Initiator.caller E C) (h.asks hback a hgoes)
    rwa [hfailed, ht] at hrun
  have hanew : given.callers i = start := by
    rw [hreset.callers, Function.update_self]
  let asked := (n32Network E C cfg).run given (Calls.exchange given i a uuid)
  obtain ⟨hcapability, (hfirst : Calls.Standing asked (Function.update net.callers i first) i _)⟩ :=
    hreset.exchanged (M := M) (P := Initiator.caller E C) hq a uuid
  let done := (n32Network E C cfg).run asked (Calls.exchange asked i a' uuid')
  obtain ⟨hparams, (hsecond : Calls.Standing done (Function.update net.callers i second) i _)⟩ :=
    hfirst.exchanged (M := M) (P := Initiator.caller E C) hq' a' uuid'
  rw [ht'] at hsecond
  refine ⟨given, asked, done, ⟨rfl, hanew, ⟨q, hqpath, hcapability⟩, rfl, ⟨q', hqpath', hparams⟩,
    rfl⟩, ?_, ⟨t', hsecond.server, ?_⟩, fun j hj => ?_⟩
  · exact Machine.guarded_append.mpr ⟨Calls.gives_reset Y net i,
      Machine.guarded_append.mpr ⟨hcapability.gives hY, hparams.gives hY'⟩⟩
  · rw [hsecond.callers, Function.update_self]
    exact ⟨hagrees, hsession⟩
  · rw [hsecond.callers, Function.update_of_ne hj]

variable {origin : Str → ι} {initiators : ι → Initiator} {peer : SeppApp}
  {es : List (N32NetworkEvent ι)}

/-- From wherever a run has led, the C-SEPP `i` can start anew: it gives up what
it waits for, its two requests of `create_exchange_capability` are served, and
it and its P-SEPP agree. The P-SEPP then agrees with nobody else, and the other
C-SEPPs are left as they were. -/
theorem recovers (hback : ReadsBack E) (hproblems : RejectsProblemsAsParams E)
    (hstart : ∀ i, JustStarted (initiators i))
    (huuid : (n32Network E C cfg).Guarded (Calls.Gives fun i (uuid : Uuid) =>
      origin uuid.text = i) (Calls.start initiators (some peer)) es)
    {i : ι}
    (hgoes : (((n32Network E C cfg).run (Calls.start initiators (some peer)) es).callers
      i).stage.ends = false)
    (hunderstood : Understood E C cfg (initiators i).app peer fun id => origin id = i)
    (a a' : Ambient) (uuid uuid' : Uuid) (hnew : origin uuid.text = i)
    (hnew' : origin uuid'.text = i) :
    let net := (n32Network E C cfg).run (Calls.start initiators (some peer)) es
    ∃ given asked done, StartsAnew E C cfg net i a a' uuid uuid' given asked done
      ∧ (n32Network E C cfg).Guarded (Calls.Gives fun i (uuid : Uuid) => origin uuid.text = i)
          net (anewSteps given asked i a a' uuid uuid')
      ∧ (∃ t, done.server = some t
          ∧ t.handshake.session = (done.callers i).app.handshake.session
          ∧ {j | AgreesWith t (done.callers j).app} = {i})
      ∧ ∀ j, j ≠ i → done.callers j = net.callers j := by
  intro net
  have hown := ownContext_run hback hproblems hstart huuid i
  have hconfigured : (net.callers i).app.configured = (initiators i).app.configured :=
    Calls.inv_callers (keeps_configured C cfg initiators fun i uuid => origin uuid.text = i)
      (fun _ => rfl) huuid i
  obtain ⟨t, ht, htc⟩ : ∃ t, net.server = some t ∧ t.configured = peer.configured :=
    Calls.inv_server (configured_nbi E C cfg) ⟨peer, rfl, rfl⟩ es
  have hid : origin (exchangedId (net.callers i).app uuid) = i := by
    unfold exchangedId
    split
    · exact hnew
    · rename_i hne
      exact hown.own hne
  obtain ⟨given, asked, done, hanew, hgives, ⟨t', ht', hagrees, hsession⟩, hothers⟩ :=
    brings_together (Y := fun i uuid => origin uuid.text = i)
      (hunderstood.of_configured hconfigured htc) hback hgoes ht a a' hnew hnew' hid
  have hown' := ownContext_run hback hproblems hstart
    (Machine.guarded_append.mpr ⟨huuid, hgives⟩)
  rw [Machine.run_append, hanew.run_eq] at hown'
  refine ⟨given, asked, done, hanew, hgives,
    ⟨t', ht', hsession, Set.ext fun j => ⟨fun hj => ?_, fun hj => ?_⟩⟩, hothers⟩
  · exact (hown' j).unique (hown' i) hj hagrees
  · obtain rfl : j = i := hj
    exact hagrees

end Recovery

/-! ### The C-SEPP that was given up -/

theorem understood_sample :
    Understood Reference.platform NbiServer.lenient Reference.config (sampleInitiators true).app
      prinsProducer (fun id => sampleOrigin id = true) where
  prins := rfl
  url := ⟨samplePeer, rfl⟩
  offered := ⟨_, Reference.dump_of_writable (by decide +kernel)⟩
  valid := ⟨_, rfl, rfl⟩
  announced := ⟨_, Reference.dump_of_writable (by decide +kernel)⟩
  checked := rfl
  proposed id hid := by
    rw [of_decide_eq_true hid]
    exact ⟨_, Reference.dump_of_writable (by decide +kernel)⟩
  adopted id hid := by
    rw [of_decide_eq_true hid]
    exact ⟨_, Reference.dump_of_writable (by decide +kernel)⟩

/-- The first C-SEPP, whose context the P-SEPP gave up for the second, takes
the P-SEPP back. -/
theorem recovers_first : ∃ given asked done,
    StartsAnew Reference.platform NbiServer.lenient Reference.config sampleNetwork true sampleGone
        sampleGone sampleContext sampleContext given asked done
      ∧ ∃ t, done.server = some t ∧ AgreesWith t (done.callers true).app
        ∧ ¬ AgreesWith t (done.callers false).app := by
  have hgoes := established_sample.1
  unfold sampleNetwork at hgoes ⊢
  obtain ⟨given, asked, done, hanew, -, ⟨t, ht, -, hagrees⟩, -⟩ := recovers readsBack_reference
    rejectsProblemsAsParams_reference justStarted_sample gives_sample hgoes understood_sample
    sampleGone sampleGone sampleContext sampleContext (by decide) (by decide)
  refine ⟨given, asked, done, hanew, t, ht, hagrees.ge rfl, fun hother => ?_⟩
  exact Bool.noConfusion (hagrees.le hother : false = true)

end Sepp
