import Sepp.Machine
import Sepp.PrinsTransport

/-!
# The N32-f context over whole runs

The context id is kept twice: in the handshake object, which negotiates and
terminates it, and in the forwarding object, which puts it into messages.
Only `create_exchange_params` copies the first to the second.

- Sending: `sent_in_context` says of which runs every message carries the
  handshake's context, `not_carriesContext_terminated` what happens after
  a partner's termination.
- Receiving: the id of a message is compared with neither copy.
  `processed_as_fresh` says what is required of it.
-/

namespace Sepp

/-- What can happen to a SEPP: operations of its own, with the answer of the
peer, and requests of peers and NFs. -/
inductive AppEvent where
  | createExchangeParams (uuid : Uuid) (answer : HttpResponse)
  | exchangeParams (uuid : Uuid) (reqData : Json)
  | n32fTerminate (reqData : Json)
  | sendN32fTerminate (answer : HttpResponse)
  | nfServiceRequest (rand : Option (Bytes 12)) (answer : HttpResponse)
      (authority path method body : Str)
  | n32fProcess (rand : Option (Bytes 12)) (nf : HttpRequest → HttpResponse) (reqData : Json)

/-- One SEPP; the output is what it forwards, to the peer or to a local NF. -/
def appMachine (E : Platform) (cfg : SeppConfig) : Machine SeppApp AppEvent (List HttpRequest)
    where
  next s
    | .createExchangeParams uuid answer => (s.createExchangeParams E uuid answer).state
    | .exchangeParams uuid reqData => (s.handleExchangeParams E cfg uuid reqData .null ∅).1
    | .n32fTerminate reqData => (s.handleN32fTerminateReq E reqData .null ∅).1
    | .sendN32fTerminate answer => (s.sendN32fTerminate E answer).state
    | .nfServiceRequest .. => s
    | .n32fProcess .. => s
  out s
    | .nfServiceRequest rand answer authority path method body =>
        (s.handleNfServiceRequest E cfg rand answer authority path method body {}).sent
    | .n32fProcess rand nf reqData =>
        (s.handleN32fProcess E cfg rand nf reqData .null ∅).sent
    | _ => []

section Runs

variable {E : Platform} {cfg : SeppConfig}

/-! ## What each operation does to the two copies -/

/-- An answer to `create_exchange_params` is adopted, or it changes nothing. -/
theorem adoptParamsAnswer_cases (answer : HttpResponse) (σ : N32cHandshake) :
    (∃ rsp, SeppApp.adoptParamsAnswer E answer σ = (true, σ.adoptParamsResponse rsp))
    ∨ SeppApp.adoptParamsAnswer E answer σ = (false, σ) := by
  unfold SeppApp.adoptParamsAnswer
  split
  · split
    · exact Or.inr rfl
    · rename_i respBody _
      split
      · exact Or.inr rfl
      · rcases @N32cHandshake.handleExchangeParamsResponse_cases E σ respBody
          with ⟨rsp, -, -, haccepted⟩ | ⟨hrejected, -⟩
        · exact Or.inl ⟨rsp, haccepted⟩
        · exact Or.inr hrejected
  · exact Or.inr rfl

/-- An answer that is adopted sets both copies to the same id. -/
theorem adoptExchangeParams_cases (s : SeppApp) (answer : HttpResponse) :
    (∃ rsp, (SeppApp.adoptParamsAnswer E answer s.handshake).1 = true
      ∧ s.adoptExchangeParams E answer =
          { s with
            handshake := s.handshake.adoptParamsResponse rsp
            forward := { s.forward with
              n32fContextId := (s.handshake.adoptParamsResponse rsp).n32cContextId } })
    ∨ (SeppApp.adoptParamsAnswer E answer s.handshake).1 = false
      ∧ s.adoptExchangeParams E answer = s := by
  unfold SeppApp.adoptExchangeParams
  rcases adoptParamsAnswer_cases (E := E) answer s.handshake with ⟨rsp, hadopted⟩ | hrefused
  · rw [hadopted]
    exact Or.inl ⟨rsp, rfl, rfl⟩
  · rw [hrefused]
    exact Or.inr ⟨rfl, rfl⟩

/-- A new id is only generated where there is none. -/
theorem createExchangeParams_cases (s : SeppApp) (uuid : Uuid) (answer : HttpResponse) :
    ∃ handshake : N32cHandshake,
      handshake.selectedSecCapability = s.handshake.selectedSecCapability
      ∧ (s.handshake.n32cContextId ≠ [] →
          handshake.n32cContextId = s.handshake.n32cContextId)
      ∧ ((s.createExchangeParams E uuid answer).state = { s with handshake }
        ∨ (s.createExchangeParams E uuid answer).state
            = ({ s with handshake } : SeppApp).adoptExchangeParams E answer) := by
  have hmade : ∃ handshake : N32cHandshake, (s.paramsRequest E uuid).1 = { s with handshake }
      ∧ handshake.selectedSecCapability = s.handshake.selectedSecCapability
      ∧ (s.handshake.n32cContextId ≠ [] →
          handshake.n32cContextId = s.handshake.n32cContextId) := by
    unfold SeppApp.paramsRequest
    split
    · exact ⟨s.handshake, rfl, rfl, fun _ => rfl⟩
    · refine ⟨(s.handshake.createExchangeParamsReq E uuid).1, rfl, ?_, fun hne => ?_⟩
      · simp only [N32cHandshake.createExchangeParamsReq]
        split <;> rfl
      · simp only [N32cHandshake.createExchangeParamsReq, if_neg hne]
  obtain ⟨handshake, hs, hcap, hid⟩ := hmade
  refine ⟨handshake, hcap, hid, ?_⟩
  unfold SeppApp.createExchangeParams
  dsimp only
  rw [hs]
  rcases SeppApp.asked_cases { s with handshake }
    (({ s with handshake } : SeppApp).adoptExchangeParams E answer) (s.paramsRequest E uuid).2
    with ⟨-, hstate, -⟩ | ⟨q, -, hasked⟩
  · exact Or.inl hstate
  · exact Or.inr (congrArg AppHandled.state hasked)

theorem createExchangeParams_of_dump {s : SeppApp} {uuid : Uuid} {url body : Str}
    (answer : HttpResponse) (hurl : s.remoteSeppUrl = some url)
    (hdump : E.dump (s.handshake.createExchangeParamsReq E uuid).2 = .ok body) :
    (s.createExchangeParams E uuid answer).state =
      ({ s with handshake := (s.handshake.createExchangeParamsReq E uuid).1 } :
        SeppApp).adoptExchangeParams E answer := by
  simp only [SeppApp.createExchangeParams, SeppApp.paramsRequest, hurl,
    SeppApp.jsonRequest_of_dump hdump, SeppApp.asked]

/-- An answer to a termination clears the context or changes nothing. -/
theorem adoptTerminate_cases (s : SeppApp) (answer : HttpResponse) :
    s.adoptTerminate E answer = s
    ∨ (answer.statusCode = 200 ∨ answer.statusCode = 204)
      ∧ s.adoptTerminate E answer
        = { s with handshake := { s.handshake with n32cContextId := [] } } := by
  unfold SeppApp.adoptTerminate SeppApp.adoptTerminateAnswer
  split
  · rename_i hstatus
    exact Or.inr ⟨hstatus, rfl⟩
  · exact Or.inl rfl

/-- A termination of the SEPP's own drops the handshake's copy when the peer
confirms it, and otherwise changes nothing. -/
theorem sendN32fTerminate_cases (s : SeppApp) (answer : HttpResponse) :
    ((answer.statusCode = 200 ∨ answer.statusCode = 204)
      ∧ (s.sendN32fTerminate E answer).state =
          { s with handshake := { s.handshake with n32cContextId := [] } })
    ∨ (s.sendN32fTerminate E answer).state = s := by
  rcases SeppApp.asked_cases s (s.adoptTerminate E answer) (s.terminateRequest E)
    with ⟨-, hstate, -⟩ | ⟨q, -, hasked⟩
  · exact Or.inr hstate
  · have hstate : (s.sendN32fTerminate E answer).state = s.adoptTerminate E answer :=
      congrArg AppHandled.state hasked
    rw [hstate]
    exact (adoptTerminate_cases s answer).symm

/-- No operation changes the capability either object was configured with,
or the key. -/
theorem next_configured (E : Platform) (cfg : SeppConfig) (s : SeppApp) (e : AppEvent) :
    let s' := (appMachine E cfg).next s e
    s'.handshake.selectedSecCapability = s.handshake.selectedSecCapability
      ∧ s'.forward.securityCapability = s.forward.securityCapability
      ∧ s'.forward.encKey = s.forward.encKey := by
  cases e with
  | createExchangeParams uuid answer =>
      obtain ⟨handshake, hcap, -, hstate | hstate⟩ :=
        createExchangeParams_cases (E := E) s uuid answer
      · simp only [appMachine, hstate]
        exact ⟨hcap, trivial, trivial⟩
      · rcases adoptExchangeParams_cases (E := E) { s with handshake } answer
          with ⟨rsp, -, hadopt⟩ | ⟨-, hadopt⟩
        · simp only [appMachine, hstate, hadopt]
          exact ⟨hcap, trivial, trivial⟩
        · simp only [appMachine, hstate, hadopt]
          exact ⟨hcap, trivial, trivial⟩
  | exchangeParams uuid reqData =>
      refine ⟨?_, rfl, rfl⟩
      rcases N32cHandshake.handleExchangeParams_cases (E := E) (σ := s.handshake)
        with ⟨req, -, -, -, hstate⟩ | ⟨-, hstate, -⟩
      · exact (congrArg N32cHandshake.selectedSecCapability hstate).trans rfl
      · exact congrArg N32cHandshake.selectedSecCapability hstate
  | n32fTerminate reqData =>
      refine ⟨?_, rfl, rfl⟩
      rcases N32cHandshake.handleN32fTerminateReq_cases (E := E) (σ := s.handshake)
        with ⟨info, -, -, -, hstate⟩ | ⟨-, hstate⟩
      · exact (congrArg N32cHandshake.selectedSecCapability hstate).trans
          (N32cHandshake.dropContext_capability _)
      · exact congrArg N32cHandshake.selectedSecCapability hstate
  | sendN32fTerminate answer =>
      rcases sendN32fTerminate_cases (E := E) s answer with ⟨-, hstate⟩ | hstate
      · simp only [appMachine, hstate, and_self]
      · simp only [appMachine, hstate, and_self]
  | nfServiceRequest => exact ⟨rfl, rfl, rfl⟩
  | n32fProcess => exact ⟨rfl, rfl, rfl⟩

/-- After any run both objects have the capability and the key they started
with. -/
theorem run_configured (E : Platform) (cfg : SeppConfig) (start : SeppApp) (es : List AppEvent) :
    let s := (appMachine E cfg).run start es
    s.handshake.selectedSecCapability = start.handshake.selectedSecCapability
      ∧ s.forward.securityCapability = start.forward.securityCapability
      ∧ s.forward.encKey = start.forward.encKey := by
  refine Machine.inv_run (M := appMachine E cfg) (I := fun s =>
    s.handshake.selectedSecCapability = start.handshake.selectedSecCapability
      ∧ s.forward.securityCapability = start.forward.securityCapability
      ∧ s.forward.encKey = start.forward.encKey) (fun s e hs => ?_) ⟨rfl, rfl, rfl⟩ es
  obtain ⟨hsec, hcap, hkey⟩ := next_configured E cfg s e
  exact ⟨hsec.trans hs.1, hcap.trans hs.2.1, hkey.trans hs.2.2⟩

/-! ## Sending -/

/-- The two copies agree where the forwarding object has one. -/
def Synced (s : SeppApp) : Prop :=
  s.forward.n32fContextId = [] ∨ s.forward.n32fContextId = s.handshake.n32cContextId

/-- The operation leaves the handshake's context alone as long as messages
are sent under it, and nothing is forwarded without one. -/
def KeepsContext (E : Platform) (s : SeppApp) : AppEvent → Prop
  | .createExchangeParams .. => True
  | .exchangeParams _ reqData =>
      s.forward.n32fContextId = [] ∨ ∀ req, reqData.isObject = true →
        E.secParamExchReq.fromJson reqData = some req →
        req.n32fContextId = [] ∨ req.n32fContextId = s.handshake.n32cContextId
  | .n32fTerminate reqData =>
      s.forward.n32fContextId = [] ∨ ∀ info, reqData.isObject = true →
        E.contextInfo.fromJson reqData = some info →
        info.n32fContextId ≠ s.handshake.n32cContextId
  | .sendN32fTerminate answer =>
      s.forward.n32fContextId = [] ∨ answer.statusCode ≠ 200 ∧ answer.statusCode ≠ 204
  | .nfServiceRequest .. => s.forward.n32fContextId ≠ []
  | .n32fProcess .. => True

theorem Synced.handshake_ne_nil {s : SeppApp} (h : Synced s)
    (hne : s.forward.n32fContextId ≠ []) : s.handshake.n32cContextId ≠ [] :=
  h.resolve_left hne ▸ hne

/-- The handshake's copy only matters while the forwarding object has one. -/
theorem Synced.of_kept {s s' : SeppApp} (h : Synced s) (hforward : s'.forward = s.forward)
    (hkept : s.forward.n32fContextId ≠ [] →
      s'.handshake.n32cContextId = s.handshake.n32cContextId) : Synced s' := by
  unfold Synced
  rw [hforward]
  by_cases hnil : s.forward.n32fContextId = []
  · exact Or.inl hnil
  · exact Or.inr ((h.resolve_left hnil).trans (hkept hnil).symm)

theorem synced_next (s : SeppApp) (e : AppEvent) (h : Synced s) (hg : KeepsContext E s e) :
    Synced ((appMachine E cfg).next s e) := by
  cases e with
  | createExchangeParams uuid answer =>
      obtain ⟨handshake, -, hid, hstate⟩ := createExchangeParams_cases (E := E) s uuid answer
      have hnew : Synced { s with handshake } :=
        h.of_kept rfl fun hne => hid (h.handshake_ne_nil hne)
      rcases hstate with hstate | hstate
      · simpa only [appMachine, hstate] using hnew
      · rcases adoptExchangeParams_cases (E := E) { s with handshake } answer
          with ⟨rsp, -, hadopt⟩ | ⟨-, hadopt⟩
        · simp only [appMachine, hstate, hadopt]
          exact Or.inr rfl
        · simpa only [appMachine, hstate, hadopt] using hnew
  | exchangeParams uuid reqData =>
      refine h.of_kept rfl fun hne => ?_
      rcases N32cHandshake.handleExchangeParams_cases (E := E) (σ := s.handshake)
        with ⟨req, hreq, hobj, -, hstate⟩ | ⟨-, hstate, -⟩
      · have hkept := N32cHandshake.adoptParams_keeps uuid (h.handshake_ne_nil hne)
          (hg.resolve_left hne req hobj hreq)
        exact (congrArg N32cHandshake.n32cContextId hstate).trans hkept
      · exact congrArg N32cHandshake.n32cContextId hstate
  | n32fTerminate reqData =>
      refine h.of_kept rfl fun hne => ?_
      rcases N32cHandshake.handleN32fTerminateReq_cases (E := E) (σ := s.handshake)
        with ⟨info, hinfo, hobj, -, hstate⟩ | ⟨-, hstate⟩
      · have hother := hg.resolve_left hne info hobj hinfo
        exact congrArg N32cHandshake.n32cContextId
          (hstate.trans (N32cHandshake.dropContext_of_ne hother.symm))
      · exact congrArg N32cHandshake.n32cContextId hstate
  | sendN32fTerminate answer =>
      rcases sendN32fTerminate_cases (E := E) s answer with ⟨hst, hstate⟩ | hstate
      · rcases hg with hnil | hrefused
        · simp only [appMachine, hstate]
          exact Or.inl hnil
        · omega
      · simpa only [appMachine, hstate] using h
  | nfServiceRequest => exact h
  | n32fProcess => exact h

/-- The request is an N32-f message with the handshake's context. -/
def CarriesContext (E : Platform) (s : SeppApp) (r : HttpRequest) : Prop :=
  s.handshake.n32cContextId ≠ [] ∧
    ∃ data, E.dump (E.reqMsg.toJson { reformattedData := data }) = .ok r.body
      ∧ data.unprotected = E.contextInfo.toJson { n32fContextId := s.handshake.n32cContextId }

/-- Both objects were configured with PRINS. -/
def UnderPrins (s : SeppApp) : Prop :=
  s.handshake.selectedSecCapability = ascii "PRINS"
    ∧ s.forward.securityCapability = ascii "PRINS"

theorem underPrins_next (s : SeppApp) (e : AppEvent) (h : UnderPrins s) :
    UnderPrins ((appMachine E cfg).next s e) := by
  obtain ⟨hhandshake, hforward, -⟩ := next_configured E cfg s e
  exact ⟨hhandshake.trans h.1, hforward.trans h.2⟩

/-- A message names the forwarding object's context if it has one. -/
theorem sent_names_forward {s : SeppApp} {rand : Option (Bytes 12)} {answer : HttpResponse}
    {authority path method body : Str} {respData : NfHttpResponse} {r : HttpRequest}
    (hprins : UnderPrins s) (hne : s.forward.n32fContextId ≠ [])
    (hr : r ∈ (s.handleNfServiceRequest E cfg rand answer authority path method body
      respData).sent) :
    ∃ data, E.dump (E.reqMsg.toJson { reformattedData := data }) = .ok r.body
      ∧ data.unprotected
          = E.contextInfo.toJson { n32fContextId := s.forward.n32fContextId } := by
  unfold SeppApp.handleNfServiceRequest at hr
  split at hr
  · cases hr
  · rw [if_pos hprins.1] at hr
    unfold SeppApp.handleNfServiceRequestPrins at hr
    split at hr
    · cases hr
    · rename_i reqBody hreq
      split at hr
      · cases hr
      · rename_i text hdump
        obtain ⟨ctx, data, -, hctx, hdata, rfl⟩ :=
          createN32fProcessRequest_prins hprins.2 hreq
        have hbody : r.body = text := by
          split at hr
          · obtain rfl := List.mem_singleton.mp hr
            rfl
          · obtain rfl := List.mem_singleton.mp hr
            rfl
        exact ⟨data, hbody ▸ hdump, hctx hne ▸ (build_frame hdata).2.1⟩

/-- In a run of a SEPP under PRINS whose operations all keep the context
messages are sent under, every message carries the handshake's context. -/
theorem sent_in_context {encKey : Str} {url : Option Str} {pre post : List AppEvent}
    {rand : Option (Bytes 12)} {answer : HttpResponse} {authority path method body : Str}
    (hkeeps : (appMachine E cfg).Guarded (KeepsContext E)
      (SeppApp.fresh (ascii "PRINS") encKey url)
      (pre ++ .nfServiceRequest rand answer authority path method body :: post)) :
    let s := (appMachine E cfg).run (SeppApp.fresh (ascii "PRINS") encKey url) pre
    ∀ r ∈ (appMachine E cfg).out s (.nfServiceRequest rand answer authority path method body),
      CarriesContext E s r := by
  have hstart : UnderPrins (SeppApp.fresh (ascii "PRINS") encKey url)
      ∧ Synced (SeppApp.fresh (ascii "PRINS") encKey url) := ⟨⟨rfl, rfl⟩, Or.inl rfl⟩
  obtain ⟨hpre, hne, -⟩ := Machine.guarded_append.mp hkeeps
  obtain ⟨hprins, hsync⟩ := Machine.inv_of_guarded
    (I := fun s => UnderPrins s ∧ Synced s)
    (fun s e h hg => ⟨underPrins_next s e h.1, synced_next s e h.2 hg⟩) hstart hpre
  intro s r hr
  have hsame : s.forward.n32fContextId = s.handshake.n32cContextId := hsync.resolve_left hne
  obtain ⟨data, hdump, hun⟩ := sent_names_forward hprins hne hr
  exact ⟨hsame ▸ hne, data, hdump, hsame ▸ hun⟩

end Runs

/-! ### A context and its termination -/

def samplePeer : Str := ascii "http://peer"

/-- The answer of a peer that takes the context id `c1`. -/
def sampleParams : Json :=
  Reference.platform.secParamExchRsp.toJson
    { n32fContextId := ascii "c1"
      sender := ascii "sepp"
      selectedJweCipherSuite := none
      selectedJwsCipherSuite := none
      selProtectionPolicyInfo := none }

def sampleContext : Uuid := { text := ascii "c1", nonempty := by decide }

def sampleParamsAnswer : HttpResponse :=
  { statusCode := 200, headers := ∅, body := JsonText.write sampleParams }

def sampleNegotiation : AppEvent := .createExchangeParams sampleContext sampleParamsAnswer

def sampleNfRequest : AppEvent :=
  .nfServiceRequest none { statusCode := 0, headers := ∅, body := [] } (ascii "udm:80")
    (ascii "/nudm-sdm/v1") Method.POST.name (ascii "hello")

theorem writable_sampleParams : JsonText.writable sampleParams = true := by
  decide +kernel

abbrev sampleMachine : Machine SeppApp AppEvent (List HttpRequest) :=
  appMachine Reference.platform Reference.config

def sampleStart : SeppApp := SeppApp.fresh (ascii "PRINS") [] (some samplePeer)

theorem writable_sampleParamsReq : JsonText.writable
    (sampleStart.handshake.createExchangeParamsReq Reference.platform sampleContext).2
      = true := by
  decide +kernel

/-- The SEPP once its peer has answered. -/
def sampleEstablished : SeppApp :=
  { handshake := { n32cContextId := ascii "c1" }
    forward := { n32fContextId := ascii "c1" }
    remoteSeppUrl := some samplePeer }

/-- The message `sampleNfRequest` is sent as. -/
def sampleMessage : Json :=
  (createN32fProcessRequest Reference.platform sampleEstablished.forward none
    (ascii "udm:80") (ascii "/nudm-sdm/v1") Method.POST.name (ascii "hello")).getD .null

theorem writable_sampleMessage : JsonText.writable sampleMessage = true := by
  decide +kernel

theorem next_sampleNegotiation :
    sampleMachine.next sampleStart sampleNegotiation = sampleEstablished := by
  have hdump := Reference.dump_of_writable writable_sampleParamsReq
  have hparse := Reference.parse_write writable_sampleParams
  have hurl : sampleStart.remoteSeppUrl = some samplePeer := rfl
  simp only [appMachine, sampleNegotiation,
    createExchangeParams_of_dump sampleParamsAnswer hurl hdump]
  simp only [SeppApp.adoptExchangeParams, SeppApp.adoptParamsAnswer, sampleParamsAnswer, hparse]
  rfl

/-- Whatever the handshake object holds, the established SEPP sends one
message. -/
theorem out_sampleNfRequest {s : SeppApp} (hprins : UnderPrins s)
    (hforward : s.forward = sampleEstablished.forward)
    (hurl : s.remoteSeppUrl = some samplePeer) :
    sampleMachine.out s sampleNfRequest =
      [prepareJsonRequest Reference.platform .POST
        (samplePeer ++ ascii "/n32f-forward/v1/n32f-process")
        (JsonText.write sampleMessage)] := by
  have hdump := Reference.dump_of_writable writable_sampleMessage
  have hreq : createN32fProcessRequest Reference.platform sampleEstablished.forward none
      (ascii "udm:80") (ascii "/nudm-sdm/v1") Method.POST.name (ascii "hello")
      = some sampleMessage := rfl
  simp only [appMachine, sampleNfRequest, SeppApp.handleNfServiceRequest, hurl,
    if_pos hprins.1, hforward, SeppApp.handleNfServiceRequestPrins, hreq, hdump]
  rfl

theorem sent_in_context_sample :
    ∃ r, sampleMachine.out (sampleMachine.run sampleStart [sampleNegotiation])
        sampleNfRequest = [r]
      ∧ CarriesContext Reference.platform
          (sampleMachine.run sampleStart [sampleNegotiation]) r := by
  have hrun : sampleMachine.run sampleStart [sampleNegotiation] = sampleEstablished :=
    next_sampleNegotiation
  have hkeeps : sampleMachine.Guarded (KeepsContext Reference.platform) sampleStart
      ([sampleNegotiation] ++ sampleNfRequest :: []) := by
    refine Machine.guarded_append.mpr ⟨⟨trivial, trivial⟩, ?_, trivial⟩
    rw [hrun]
    exact List.cons_ne_nil _ _
  have hout := out_sampleNfRequest (s := sampleMachine.run sampleStart [sampleNegotiation])
    (by rw [hrun]; exact ⟨rfl, rfl⟩) (by rw [hrun]) (by rw [hrun]; rfl)
  refine ⟨_, hout, sent_in_context hkeeps _ ?_⟩
  exact hout ▸ List.mem_singleton_self _

/-- The peer terminates the context: the handshake object forgets it, and
messages are still sent under it. -/
theorem not_carriesContext_terminated :
    let s := sampleMachine.run sampleStart [sampleNegotiation,
      .n32fTerminate (Reference.platform.contextInfo.toJson { n32fContextId := ascii "c1" })]
    s.handshake.n32cContextId = [] ∧
      ∃ r, sampleMachine.out s sampleNfRequest = [r]
        ∧ ¬ CarriesContext Reference.platform s r := by
  intro s
  have hs : s = { sampleEstablished with handshake := {} } := by
    show sampleMachine.next (sampleMachine.next sampleStart sampleNegotiation) _ = _
    rw [next_sampleNegotiation]
    rfl
  have hout := out_sampleNfRequest (s := s) (by rw [hs]; exact ⟨rfl, rfl⟩) (by rw [hs])
    (by rw [hs]; rfl)
  have hterminated : s.handshake.n32cContextId = [] := by
    rw [hs]
  exact ⟨hterminated, _, hout, fun h => h.1 hterminated⟩

/-! ## Receiving -/

section Receiving

variable {E : Platform} {cfg : SeppConfig}

/-- The message names a context, whichever. -/
def NamesContext (E : Platform) (reqData : Json) : Prop :=
  ∃ reqMsg id, E.reqMsg.fromJson reqData = some reqMsg
    ∧ extractContextId E reqData reqMsg.reformattedData = .ok id ∧ id ≠ []

theorem namesContext_of_readEnvelope {reqData : Json} {env : Envelope}
    (h : readEnvelope E reqData = .ok (some env)) : NamesContext E reqData := by
  unfold readEnvelope at h
  split at h
  · cases h
  · rename_i reqMsg hmsg
    simp only at h
    split at h
    · cases h
    · rename_i id hid
      split at h
      · cases h
      · rename_i hne
        exact ⟨reqMsg, id, hmsg, hid, hne⟩

/-- A message is handled alike whatever context id the object has. -/
theorem handleN32fProcessPost_congr {σ τ : N32fForward}
    (hcap : σ.securityCapability = τ.securityCapability) (hkey : σ.encKey = τ.encKey)
    (rand : Option (Bytes 12)) (nf : HttpRequest → HttpResponse) (reqData respData : Json)
    (respHeaders : HeaderMap) :
    handleN32fProcessPost E cfg σ rand nf reqData respData respHeaders
      = handleN32fProcessPost E cfg τ rand nf reqData respData respHeaders := by
  obtain ⟨id, capability, key⟩ := σ
  obtain ⟨id', capability', key'⟩ := τ
  obtain rfl : capability = capability' := hcap
  obtain rfl : key = key' := hkey
  rfl

/-- After any run a message is handled as by a SEPP that was just started,
so no context, established or terminated, decides anything. One that names
no context reaches no NF. -/
theorem processed_as_fresh (E : Platform) (cfg : SeppConfig) (encKey : Str) (url : Option Str)
    (es : List AppEvent) (rand : Option (Bytes 12)) (nf : HttpRequest → HttpResponse)
    (reqData respData : Json) (respHeaders : HeaderMap) :
    let start := SeppApp.fresh (ascii "PRINS") encKey url
    let s := (appMachine E cfg).run start es
    let h := s.handleN32fProcess E cfg rand nf reqData respData respHeaders
    h = start.handleN32fProcess E cfg rand nf reqData respData respHeaders
      ∧ (¬ NamesContext E reqData → h.sent = [] ∧ h.ret ≠ .ok true) := by
  intro start s h
  obtain ⟨-, hcap, hkey⟩ := run_configured E cfg start es
  refine ⟨handleN32fProcessPost_congr hcap hkey rand nf reqData respData respHeaders,
    fun hnames => handleN32fProcessPost_of_not_readable fun env body hread => ?_⟩
  exact hnames (namesContext_of_readEnvelope hread.2.2.1)

end Receiving

/-- The context id of `sampleRequest`. -/
def sampleRequestId : Str := ascii "dummy_context_id"

/-- A partner establishes the context and terminates it. -/
def sampleTerminated : List AppEvent :=
  [.exchangeParams sampleContext (Reference.platform.secParamExchReq.toJson
      { n32fContextId := sampleRequestId
        sender := ascii "sepp"
        jweCipherSuiteList := none
        jwsCipherSuiteList := none
        protectionPolicyInfo := none }),
    .n32fTerminate (Reference.platform.contextInfo.toJson { n32fContextId := sampleRequestId })]

set_option maxRecDepth 4000 in
/-- A message that names the terminated context is forwarded to the NF. -/
theorem forwarded_after_termination :
    let s := sampleMachine.run sampleStart sampleTerminated
    s.handshake.n32cContextId = []
      ∧ (∃ reqMsg, Reference.platform.reqMsg.fromJson sampleRequest = some reqMsg
          ∧ extractContextId Reference.platform sampleRequest reqMsg.reformattedData
              = .ok sampleRequestId)
      ∧ sampleMachine.out s (.n32fProcess none (Reference.nf 200 []) sampleRequest) ≠ [] := by
  intro s
  have hforward : s.forward = {} := rfl
  refine ⟨rfl, ⟨_, rfl, rfl⟩, ?_⟩
  simp only [appMachine, SeppApp.handleN32fProcess, hforward]
  exact List.cons_ne_nil _ _

end Sepp
