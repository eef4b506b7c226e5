import Mathlib.Data.Set.Subsingleton
import Sepp.Initiator

/-!
# C-SEPPs and their P-SEPP

Any number of C-SEPPs that run `create_exchange_capability` and in the end
`stop` against the NBI server of one P-SEPP, over a network that delays,
reorders and loses what is sent, while anybody else sends that server
anything.

A C-SEPP is a `Caller` as in `Initiator`. The NBI servers the C-SEPPs have
themselves are asked nothing. What is not lost arrives unchanged: `deliver`
and `received` assume so much of the HTTP stack, and the paths it is given
hold no `%` escapes.

- `established_by_peer`: the context a live C-SEPP forwards under is its own, and
  the P-SEPP held it, with the suites the C-SEPP holds, when it served a
  request of that C-SEPP.
- `one_partner`: no two C-SEPPs forward under one context, and the P-SEPP
  agrees with at most one of them at any time.
-/

namespace Sepp

/-! ## The peer's answer to an exchange of parameters -/

/-- A problem report is not taken for parameters. -/
def RejectsProblemsAsParams (E : Platform) : Prop := ∀ statusCode title cause detail,
  E.secParamExchRsp.fromJson (NbiServer.problemDetails statusCode title cause detail) = none

section Answer

variable {E : Platform} {C : Checks} {cfg : SeppConfig}

theorem adoptExchangeParams_of_status {answer : HttpResponse} (s : SeppApp)
    (h : answer.statusCode ≠ 200 ∧ answer.statusCode ≠ 201) :
    s.adoptExchangeParams E answer = s := by
  unfold SeppApp.adoptExchangeParams SeppApp.adoptParamsAnswer
  rw [if_neg fun hst => hst.elim h.1 h.2]
  rfl

theorem adoptExchangeParams_of_unread {answer : HttpResponse} {j : Json} (s : SeppApp)
    (hparse : E.parse answer.body = .ok j) (hno : E.secParamExchRsp.fromJson j = none) :
    s.adoptExchangeParams E answer = s := by
  have hrefused : SeppApp.adoptParamsAnswer E answer s.handshake = (false, s.handshake) := by
    unfold SeppApp.adoptParamsAnswer
    split
    · simp only [hparse, hno]
    · rfl
  rw [SeppApp.adoptExchangeParams, hrefused]
  rfl

theorem adoptExchangeParams_of_toJson {answer : HttpResponse} {rsp : SecParamExchRspData}
    (s : SeppApp) (hstatus : answer.statusCode = 200)
    (hparse : E.parse answer.body = .ok (E.secParamExchRsp.toJson rsp)) :
    s.adoptExchangeParams E answer =
      { s with
        handshake := s.handshake.adoptParamsResponse rsp
        forward := { s.forward with
          n32fContextId := (s.handshake.adoptParamsResponse rsp).n32cContextId } } := by
  unfold SeppApp.adoptExchangeParams SeppApp.adoptParamsAnswer
  rw [if_pos (Or.inl hstatus)]
  simp only [hparse, E.secParamExchRsp.fromJson_toJson,
    N32cHandshake.handleExchangeParamsResponse_toJson, if_true]

/-- What is answered to an exchange of parameters that was adopted. -/
def paramsReply (cfg : SeppConfig) (σ : N32cHandshake) (m : SecParamExchReqData) :
    SecParamExchRspData where
  n32fContextId := σ.n32cContextId
  sender := cfg.nbiUrl
  selectedJweCipherSuite := some σ.selectedJweCipher
  selectedJwsCipherSuite := some σ.selectedJwsCipher
  selProtectionPolicyInfo := some (m.protectionPolicyInfo.getD emptyPolicy)

/-- An exchange of parameters that can be read is adopted, and answered with
what was adopted. -/
theorem serve_params_toJson (C : Checks) (cfg : SeppConfig) (t : SeppApp) (a : Ambient)
    {req : NbiRequest} {m : SecParamExchReqData}
    (hpath : req.path = Resource.exchangeParams.pattern) (hpost : req.method = ascii "POST")
    (hparse : E.parse req.body = .ok (E.secParamExchReq.toJson m)) :
    let σ := t.handshake.adoptParams a.uuid m
    let v := NbiServer.serve E C cfg (some t) a req
    v.inst = some { t with handshake := σ } ∧ ∃ headers cause,
      v.reply = NbiServer.sendOk E (E.secParamExchRsp.toJson (paramsReply cfg σ m)) headers
        cause := by
  intro σ v
  have hv := N32cHandshake.validateHandshakeRequest_iff.mpr (E.secParamExchReq.isObject_toJson m)
  have hr : Resource.ofPath req.path = .exchangeParams := by rw [hpath, Resource.ofPath_pattern]
  have hserve : v = NbiServer.handleExchangeParams E cfg (some t) a req := by
    simp only [v, NbiServer.serve, hr]
  have hhandled : NbiServer.exchangeParamsHandler E cfg a t (E.secParamExchReq.toJson m)
      = ({ t with handshake := σ },
        { ret := .ok true
          respData := E.secParamExchRsp.toJson (paramsReply cfg σ m)
          respHeaders := (∅ : HeaderMap).insert sbiTargetApiRootHeader headerValueYes
          sent := [] }) := by
    simp only [NbiServer.exchangeParamsHandler, E.secParamExchReq.fromJson_toJson,
      NbiServer.ofN32c, SeppApp.handleExchangeParams, N32cHandshake.handleExchangeParams, hv,
      Bool.not_true, Bool.false_eq_true, if_false, N32cHandled.toHandled]
    rfl
  rw [hserve]
  simp only [NbiServer.handleExchangeParams, NbiServer.postRequest, NbiServer.processPostRequest,
    hpost, hparse, hhandled, if_true, ne_eq, not_true_eq_false, if_false, NbiServer.replyTo,
    Bool.false_and, Bool.false_eq_true, true_and]
  exact ⟨_, _, rfl⟩

/-- What is made of the answer to an exchange of parameters: nothing, or the
session of the peer, which has adopted the context. -/
theorem serve_params (C : Checks) (cfg : SeppConfig) (inst : Option SeppApp) (a : Ambient)
    {req : NbiRequest} {id : Str} (hback : ReadsBack E) (hproblems : RejectsProblemsAsParams E)
    (hreq : AsksFor E req id) (hid : id ≠ []) :
    let v := NbiServer.serve E C cfg inst a req
    (∀ s : SeppApp, s.adoptExchangeParams E (received v.reply) = s)
    ∨ ∃ t, v.inst = some t ∧ t.handshake.n32cContextId = id ∧ ∀ s : SeppApp,
        ∃ handshake, handshake.session = t.handshake.session
          ∧ s.adoptExchangeParams E (received v.reply) =
              { s with handshake, forward := { s.forward with n32fContextId := id } } := by
  intro v
  obtain ⟨hpath, hpost, m, hparse, hm⟩ := hreq
  cases inst with
  | none =>
      have hr : Resource.ofPath req.path = .exchangeParams := by
        rw [hpath, Resource.ofPath_pattern]
      have hreply : v.reply = (NbiServer.systemUnavailable E).reply := by
        simp only [v, NbiServer.serve, hr, NbiServer.handleExchangeParams, NbiServer.postRequest,
          NbiServer.processPostRequest, hpost, ne_eq, not_true_eq_false, if_false]
      refine Or.inl fun s => adoptExchangeParams_of_status s ?_
      rw [hreply]
      exact received_problem (by omega) (by omega) _ _ _
  | some t =>
      obtain ⟨hinst, headers, cause, hreply⟩ := serve_params_toJson C cfg t a hpath hpost hparse
      have hadopted : (t.handshake.adoptParams a.uuid m).n32cContextId = id :=
        (if_pos (by rw [hm]; exact hid)).trans hm
      have hreply' : v.reply = _ := hreply
      rw [hreply']
      rcases received_sendOk hback
        (E.secParamExchRsp.toJson (paramsReply cfg (t.handshake.adoptParams a.uuid m) m)) headers
        cause with ⟨hstatus, hread⟩ | ⟨what, hread⟩ | hnone
      · have hread' : ∀ s : SeppApp, (s.handshake.adoptParamsResponse
            (paramsReply cfg (t.handshake.adoptParams a.uuid m) m)).n32cContextId = id := by
          intro s
          refine (if_pos ?_).trans hadopted
          show (t.handshake.adoptParams a.uuid m).n32cContextId ≠ []
          rw [hadopted]
          exact hid
        refine Or.inr ⟨_, hinst, hadopted, fun s => ⟨s.handshake.adoptParamsResponse
          (paramsReply cfg (t.handshake.adoptParams a.uuid m) m), ?_, ?_⟩⟩
        · simp only [N32cHandshake.session, hread', hadopted]
          rfl
        · rw [adoptExchangeParams_of_toJson s hstatus hread, hread']
      · exact Or.inl fun s => adoptExchangeParams_of_unread s hread (hproblems _ _ _ _)
      · rw [hnone]
        exact Or.inl fun s => adoptExchangeParams_of_status s
          ⟨by show (0 : Int) ≠ 200; omega, by show (0 : Int) ≠ 201; omega⟩

end Answer

/-! ## What a C-SEPP keeps -/

/-- The C-SEPP `i` has no context but of its own making, forwards under none
but the one it negotiated, and exchanges parameters for that one or has it
dropped. -/
structure OwnContext {ι : Type*} (E : Platform) (origin : Str → ι) (i : ι) (a : Initiator) :
    Prop where
  own : a.app.handshake.n32cContextId ≠ [] → origin a.app.handshake.n32cContextId = i
  forwards : a.app.forward.n32fContextId ≠ [] → origin a.app.forward.n32fContextId = i
  copied : a.stage ≠ .stopped → a.app.forward.n32fContextId ≠ [] →
    a.app.forward.n32fContextId = a.app.handshake.n32cContextId
  asks : ∀ q, a.stage = .params q → a.app.handshake.n32cContextId ≠ []
    ∧ AsksFor E (deliver (a.app.remoteSeppUrl.getD []) q) a.app.handshake.n32cContextId
  drops : ∀ q, a.stage = .terminate q → a.app.handshake.n32cContextId ≠ []
    ∧ AsksToDrop E (deliver (a.app.remoteSeppUrl.getD []) q) a.app.handshake.n32cContextId

section Keeps

variable {ι : Type*} {E : Platform} {C : Checks} {cfg : SeppConfig}

theorem ownContext_of_idle {origin : Str → ι} {i : ι} {app : SeppApp} {stage : Stage}
    (hidle : stage.idle = true)
    (hown : app.handshake.n32cContextId ≠ [] → origin app.handshake.n32cContextId = i)
    (hforwards : app.forward.n32fContextId ≠ [] → origin app.forward.n32fContextId = i)
    (hcopied : stage ≠ .stopped → app.forward.n32fContextId ≠ [] →
      app.forward.n32fContextId = app.handshake.n32cContextId) :
    OwnContext E origin i { app, stage } := by
  refine ⟨hown, hforwards, hcopied, fun q hq => ?_, fun q hq => ?_⟩
  · obtain rfl : stage = .params q := hq
    cases hidle
  · obtain rfl : stage = .terminate q := hq
    cases hidle

theorem ownContext_capability (hback : ReadsBack E) {origin : Str → ι} {i : ι} {app : SeppApp}
    {uuid : Uuid} (h : NbiHandled) (huuid : origin uuid.text = i)
    (hJ : OwnContext E origin i { app, stage := .capability }) :
    OwnContext E origin i (Initiator.answered E C { app, stage := .capability } uuid h) := by
  obtain ⟨hforward, hnew, hasks⟩ := answered_capability C hback app uuid h
  have hends := answered_capability_ends (E := E) C app uuid h
  refine ⟨fun hne => ?_, fun hne => ?_, fun _ hne => ?_, hasks, fun q hq => ?_⟩
  · rcases hnew with hold | ⟨-, hfresh⟩
    · have hid := congrArg Session.contextId hold
      simp only [N32cHandshake.session] at hid
      rw [hid] at hne ⊢
      exact hJ.own hne
    · rw [hfresh]
      exact huuid
  · rw [hforward] at hne ⊢
    exact hJ.forwards hne
  · rw [hforward] at hne ⊢
    have hcopied := hJ.copied (Stage.ne_stopped rfl) hne
    rcases hnew with hold | ⟨hnone, -⟩
    · exact hcopied.trans (congrArg Session.contextId hold).symm
    · exact absurd (hcopied.trans hnone) hne
  · rw [hq] at hends
    cases hends

/-- The C-SEPP has the session of the peer, under its own context. -/
theorem ownContext_params {origin : Str → ι} {i : ι} {app : SeppApp} {q : HttpRequest}
    {inst : Option SeppApp} (a : Ambient) (uuid : Uuid) (hback : ReadsBack E)
    (hproblems : RejectsProblemsAsParams E)
    (hJ : OwnContext E origin i { app, stage := .params q }) :
    OwnContext E origin i (Initiator.answered E C { app, stage := .params q } uuid
      (NbiServer.serve E C cfg inst a
        (deliver (app.remoteSeppUrl.getD []) q)).toNbiHandled) := by
  obtain ⟨hne, hasks⟩ := hJ.asks q rfl
  rcases serve_params C cfg inst a hback hproblems hasks hne
    with hsame | ⟨t, hinst, hid, hadopts⟩
  · simp only [Initiator.answered, hsame]
    exact ownContext_of_idle rfl hJ.own hJ.forwards fun _ => hJ.copied (Stage.ne_stopped rfl)
  · obtain ⟨handshake, hsession, hadopted⟩ := hadopts app
    have hcontext : handshake.n32cContextId = app.handshake.n32cContextId :=
      (congrArg Session.contextId hsession).trans hid
    simp only [Initiator.answered, hadopted]
    refine ownContext_of_idle rfl (fun _ => ?_) (fun _ => hJ.own hne) fun _ _ => hcontext.symm
    simp only [hcontext]
    exact hJ.own hne

theorem ownContext_terminate {origin : Str → ι} {i : ι} {app : SeppApp} {q : HttpRequest}
    (hJ : OwnContext E origin i { app, stage := .terminate q }) (answer : HttpResponse) :
    OwnContext E origin i { app := app.adoptTerminate E answer, stage := .stopped } := by
  rcases adoptTerminate_cases (E := E) app answer with hsame | ⟨-, hcleared⟩
  · rw [hsame]
    exact ownContext_of_idle rfl hJ.own hJ.forwards fun h => absurd rfl h
  · rw [hcleared]
    exact ownContext_of_idle rfl (fun h => absurd rfl h) hJ.forwards fun h => absurd rfl h

theorem ownContext_stop (hback : ReadsBack E) {origin : Str → ι} {i : ι} {a : Initiator}
    (hJ : OwnContext E origin i a) : OwnContext E origin i (a.stop E) := by
  obtain ⟨app, stage⟩ := a
  cases stage with
  | capability =>
      have hcopied := hJ.copied (Stage.ne_stopped rfl)
      show OwnContext E origin i { app, stage := .ending (app.terminateRequest E) }
      by_cases hmade : ∃ q, app.terminateRequest E = some (.ok q)
      · obtain ⟨q, hq⟩ := hmade
        rw [hq]
        refine ⟨hJ.own, hJ.forwards, fun _ => hcopied, fun q' hq' => ?_, fun q' hq' => ?_⟩
        · cases hq'
        · obtain rfl := Stage.terminate.inj hq'
          exact terminateRequest_drops hback hq
      · rw [Stage.ending_eq_stopped fun q hq => hmade ⟨q, hq⟩]
        exact ownContext_of_idle rfl hJ.own hJ.forwards fun _ => hcopied
  | params q => exact hJ
  | terminate q => exact hJ
  | stopped => exact hJ

theorem keeps_ownContext (C : Checks) (cfg : SeppConfig) (hback : ReadsBack E)
    (hproblems : RejectsProblemsAsParams E) (origin : Str → ι) :
    Calls.Keeps (nbiMachine E C cfg) (Initiator.caller E C)
      (fun i (uuid : Uuid) => origin uuid.text = i) (OwnContext E origin) where
  answered i a uuid q s x hJ huuid hask := by
    obtain ⟨app, stage⟩ := a
    cases stage with
    | capability => exact ownContext_capability hback _ huuid hJ
    | params q' =>
        obtain rfl := Option.some.inj hask
        exact ownContext_params x uuid hback hproblems hJ
    | terminate q' => exact ownContext_terminate hJ _
    | stopped => exact hJ
  failed i a hJ := by
    obtain ⟨app, stage⟩ := a
    cases stage with
    | capability | params q =>
        exact ownContext_of_idle rfl hJ.own hJ.forwards fun _ => hJ.copied (Stage.ne_stopped rfl)
    | terminate q | stopped =>
        exact ownContext_of_idle rfl hJ.own hJ.forwards fun h => absurd rfl h
  turned i a hJ := ownContext_stop hback hJ

end Keeps

/-! ## The network -/

section Network

variable {ι : Type*} [DecidableEq ι] {E : Platform} {C : Checks} {cfg : SeppConfig}

/-- C-SEPPs around the NBI server of a P-SEPP. -/
abbrev N32Network (ι : Type*) := Calls ι Initiator (Option SeppApp) NbiRequest NbiHandled

abbrev N32NetworkEvent (ι : Type*) := CallEvent ι NbiRequest Uuid Ambient

def n32Network (E : Platform) (C : Checks) (cfg : SeppConfig) :
    Machine (N32Network ι) (N32NetworkEvent ι) Unit :=
  Calls.machine (nbiMachine E C cfg) (Initiator.caller E C)

/-- A C-SEPP that was just started. -/
structure JustStarted (a : Initiator) : Prop where
  handshake : a.app.handshake.n32cContextId = []
  forward : a.app.forward.n32fContextId = []
  stage : a.stage = .capability

/-- The P-SEPP serves a request of the C-SEPP `i`, and holds the session
afterwards. -/
def AdoptedFor (E : Platform) (C : Checks) (cfg : SeppConfig) (i : ι) (session : Session)
    (net : N32Network ι) (e : N32NetworkEvent ι) : Prop :=
  ∃ k a c t, e = .serve k a ∧ net.requests[k]? = some c ∧ c.caller = i
    ∧ ((n32Network E C cfg).next net e).server = some t ∧ t.handshake.session = session

variable {origin : Str → ι} {initiators : ι → Initiator} {peer : Option SeppApp}
  {es : List (N32NetworkEvent ι)}

omit [DecidableEq ι] in
theorem JustStarted.ownContext {a : Initiator} (h : JustStarted a) (i : ι) :
    OwnContext E origin i a := by
  obtain ⟨app, stage⟩ := a
  obtain rfl : stage = .capability := h.stage
  exact ownContext_of_idle rfl (fun hne => absurd h.handshake hne)
    (fun hne => absurd h.forward hne) fun _ hne => absurd h.forward hne

/-- What a C-SEPP has at the start, it has after every run. -/
theorem ownContext_run (hback : ReadsBack E) (hproblems : RejectsProblemsAsParams E)
    (hstart : ∀ i, JustStarted (initiators i))
    (huuid : (n32Network E C cfg).Guarded (Calls.Gives fun i (uuid : Uuid) =>
      origin uuid.text = i) (Calls.start initiators peer) es) (i : ι) :
    OwnContext E origin i
      (((n32Network E C cfg).run (Calls.start initiators peer) es).callers i) :=
  Calls.inv_callers (keeps_ownContext C cfg hback hproblems origin)
    (fun i => (hstart i).ownContext i) huuid i

/-- Whatever is lost, late or out of order, and whatever else the P-SEPP is
asked: the context a C-SEPP forwards under is its own, and the P-SEPP held
it, and the suites that go with it, when it served a request of this
C-SEPP. -/
theorem established_by_peer (hback : ReadsBack E) (hproblems : RejectsProblemsAsParams E)
    (hstart : ∀ i, JustStarted (initiators i))
    (huuid : (n32Network E C cfg).Guarded (Calls.Gives fun i (uuid : Uuid) =>
      origin uuid.text = i) (Calls.start initiators peer) es) (i : ι) :
    let c := ((n32Network E C cfg).run (Calls.start initiators peer) es).callers i
    let s := c.app
    c.stage ≠ .stopped → s.forward.n32fContextId ≠ [] →
      s.handshake.n32cContextId = s.forward.n32fContextId
      ∧ origin s.forward.n32fContextId = i
      ∧ (n32Network E C cfg).Occurs (AdoptedFor E C cfg i s.handshake.session)
          (Calls.start initiators peer) es := by
  intro c s hlive hne
  have hown := ownContext_run hback hproblems hstart huuid i
  refine ⟨(hown.copied hlive hne).symm, hown.forwards hne, ?_⟩
  let K : Initiator → Prop := fun a => a.stage ≠ .stopped
    ∧ a.app.forward.n32fContextId = s.forward.n32fContextId
    ∧ a.app.handshake.session = s.handshake.session
  let L : Initiator → NbiHandled → Prop := fun a h => ¬ K a ∧ ∃ q, a.stage = .params q
    ∧ K { app := a.app.adoptExchangeParams E (received h.reply), stage := .capability }
  have hanswered : ∀ a uuid h, OwnContext E origin i a →
      K (Initiator.answered E C a uuid h) → K a ∨ L a h := by
    rintro ⟨app, stage⟩ uuid h hJ hK
    by_cases hbefore : K ⟨app, stage⟩
    · exact Or.inl hbefore
    · cases stage with
      | capability =>
          obtain ⟨hforward, hnew, -⟩ := answered_capability C hback app uuid h
          have hsame := (congrArg N32fForward.n32fContextId hforward).symm.trans hK.2.1
          rcases hnew with hold | ⟨hnone, -⟩
          · exact Or.inl ⟨Stage.ne_stopped rfl, hsame, hold.symm.trans hK.2.2⟩
          · have happ : app.forward.n32fContextId ≠ [] := fun hnil => hne (hsame.symm.trans hnil)
            exact absurd ((hJ.copied (Stage.ne_stopped rfl) happ).trans hnone) happ
      | params q => exact Or.inr ⟨hbefore, q, rfl, hK⟩
      | terminate q => exact absurd rfl hK.1
      | stopped => exact Or.inl hK
  have hfailed : ∀ a, OwnContext E origin i a → K ((Initiator.caller E C).failed a) → K a := by
    rintro ⟨app, stage⟩ - hK
    cases stage with
    | capability | params q => exact ⟨Stage.ne_stopped rfl, hK.2⟩
    | terminate q | stopped => exact absurd rfl hK.1
  have hturned : ∀ a, OwnContext E origin i a → K ((Initiator.caller E C).turn a) → K a := by
    rintro ⟨app, stage⟩ - hK
    cases stage with
    | capability => exact ⟨Stage.ne_stopped rfl, hK.2⟩
    | params q | terminate q | stopped => exact hK
  have hno : ¬ K (initiators i) := fun hK => hne (hK.2.1.symm.trans (hstart i).forward)
  obtain ⟨a, h, hJ, ⟨hbefore, q, hstage, hK⟩, pre, e, post, hes, hstate, k, x, c, he, hc, hcaller,
    hask, rfl, hserver⟩ := Calls.served_of_caller (K := K) (L := L)
      (keeps_ownContext C cfg hback hproblems origin) (fun i => (hstart i).ownContext i) huuid
      hfailed hturned hanswered hno ⟨hlive, rfl, rfl⟩
  obtain ⟨app, stage⟩ := a
  obtain rfl : stage = .params q := hstage
  have hcontent : deliver (app.remoteSeppUrl.getD []) q = c.content := Option.some.inj hask
  obtain ⟨hid, hasks⟩ := hJ.asks q rfl
  let net := (n32Network E C cfg).run (Calls.start initiators peer) pre
  let v := NbiServer.serve E C cfg net.server x (deliver (app.remoteSeppUrl.getD []) q)
  have hreply : ((nbiMachine E C cfg).out net.server (x, c.content)).reply = v.reply := by
    rw [← hcontent]
    rfl
  have hnext : (nbiMachine E C cfg).next net.server (x, c.content) = v.inst := by
    rw [← hcontent]
    rfl
  have hkept : K ⟨app.adoptExchangeParams E (received v.reply), .capability⟩ := hreply ▸ hK
  rcases serve_params C cfg net.server x hback hproblems hasks hid with hsame
    | ⟨t, hinst, -, hadopts⟩
  · -- The exchange that set the context did set it.
    rw [hsame app] at hkept
    exact absurd ⟨Stage.ne_stopped rfl, hkept.2⟩ hbefore
  · obtain ⟨handshake, hsession, hadopted⟩ := hadopts app
    rw [hadopted] at hkept
    exact ⟨pre, e, post, hes, k, x, c, t, he, hc, hcaller,
      hserver.trans (hnext.trans hinst), hsession.symm.trans hkept.2.2⟩

/-- The P-SEPP and the C-SEPP have agreed on a context. -/
def AgreesWith (t s : SeppApp) : Prop :=
  s.forward.n32fContextId ≠ [] ∧ t.handshake.n32cContextId = s.forward.n32fContextId

instance decidableAgreesWith (t s : SeppApp) : Decidable (AgreesWith t s) :=
  inferInstanceAs (Decidable (_ ∧ _))

omit [DecidableEq ι] in
/-- Nobody agrees on a context with two C-SEPPs. -/
theorem OwnContext.unique {t : SeppApp} {i j : ι} {a b : Initiator}
    (ha : OwnContext E origin i a) (hb : OwnContext E origin j b) (hta : AgreesWith t a.app)
    (htb : AgreesWith t b.app) : i = j := by
  rw [← ha.forwards hta.1, ← hb.forwards htb.1, ← hta.2, ← htb.2]

/-- At no time do two C-SEPPs forward under one context, or does the P-SEPP
agree with two of them, however many are established. -/
theorem one_partner (hback : ReadsBack E) (hproblems : RejectsProblemsAsParams E)
    (hstart : ∀ i, JustStarted (initiators i))
    (huuid : (n32Network E C cfg).Guarded (Calls.Gives fun i (uuid : Uuid) =>
      origin uuid.text = i) (Calls.start initiators peer) es) :
    let net := (n32Network E C cfg).run (Calls.start initiators peer) es
    let context := fun i => (net.callers i).app.forward.n32fContextId
    (∀ i j, context i ≠ [] → context i = context j → i = j)
      ∧ {i | ∃ t, net.server = some t ∧ AgreesWith t (net.callers i).app}.Subsingleton := by
  intro net context
  have hown := ownContext_run hback hproblems hstart huuid
  refine ⟨fun i j hne hsame => ?_, fun i hi j hj => ?_⟩
  · have hne' : context j ≠ [] := fun hnil => hne (hsame.trans hnil)
    rw [← (hown i).forwards hne, ← (hown j).forwards hne']
    exact congrArg origin hsame
  · obtain ⟨t, ht, hti⟩ := hi
    obtain ⟨t', ht', htj⟩ := hj
    obtain rfl := Option.some.inj (ht.symm.trans ht')
    exact (hown i).unique (hown j) hti htj

end Network

/-! ### Two C-SEPPs on the reference platform -/

theorem rejectsProblemsAsParams_reference : RejectsProblemsAsParams Reference.platform :=
  fun _ _ _ _ => rfl

def sampleInitiators : Bool → Initiator := fun _ => { app := prinsConsumer, stage := .capability }

def otherContext : Uuid := { text := ascii "c2", nonempty := by decide }

/-- Whose UUID it is. -/
def sampleOrigin (id : Str) : Bool := decide (id = sampleContext.text)

/-- Both ask before either is served. -/
def sampleRound : List (N32NetworkEvent Bool) :=
  [.send true, .send false, .serve 0 sampleGone, .serve 0 sampleGone,
    .deliver 0 sampleContext, .deliver 0 otherContext]

abbrev sampleNetwork : N32Network Bool :=
  (n32Network Reference.platform NbiServer.lenient Reference.config).run
    (Calls.start sampleInitiators (some prinsProducer)) (sampleRound ++ sampleRound)

theorem justStarted_sample (i : Bool) : JustStarted (sampleInitiators i) := ⟨rfl, rfl, rfl⟩

theorem gives_sample :
    (n32Network Reference.platform NbiServer.lenient Reference.config).Guarded
      (Calls.Gives fun i (uuid : Uuid) => sampleOrigin uuid.text = i)
      (Calls.start sampleInitiators (some prinsProducer)) (sampleRound ++ sampleRound) := by
  decide +kernel

/-- Both are established, the first under a context the P-SEPP gave up for
the second. -/
theorem established_sample :
    (sampleNetwork.callers true).stage.ends = false
      ∧ (sampleNetwork.callers true).app.forward.n32fContextId ≠ []
      ∧ sampleNetwork.server.any (fun t => decide
          (AgreesWith t (sampleNetwork.callers false).app)) = true := by
  decide +kernel

theorem established_by_peer_first :
    (n32Network Reference.platform NbiServer.lenient Reference.config).Occurs
      (AdoptedFor Reference.platform NbiServer.lenient Reference.config true
        (sampleNetwork.callers true).app.handshake.session)
      (Calls.start sampleInitiators (some prinsProducer)) (sampleRound ++ sampleRound) := by
  obtain ⟨hends, hne, -⟩ := established_sample
  have hlive := Stage.ne_stopped hends
  unfold sampleNetwork at hne hlive ⊢
  exact (established_by_peer readsBack_reference rejectsProblemsAsParams_reference
    justStarted_sample gives_sample true hlive hne).2.2

theorem one_partner_second : ∃ t, sampleNetwork.server = some t
    ∧ AgreesWith t (sampleNetwork.callers false).app
    ∧ ¬ AgreesWith t (sampleNetwork.callers true).app := by
  obtain ⟨t, ht, hagrees⟩ := (Option.any_eq_true _ _).mp established_sample.2.2
  have hone : {i | ∃ t, sampleNetwork.server = some t
      ∧ AgreesWith t (sampleNetwork.callers i).app}.Subsingleton := by
    unfold sampleNetwork
    exact (one_partner readsBack_reference rejectsProblemsAsParams_reference justStarted_sample
      gives_sample).2
  refine ⟨t, ht, of_decide_eq_true hagrees, fun hfirst => ?_⟩
  exact Bool.noConfusion (hone ⟨t, ht, hfirst⟩ ⟨t, ht, of_decide_eq_true hagrees⟩)

end Sepp
