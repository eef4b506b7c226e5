import Sepp.N32fForward

/-!
# The N32-c handshake

`sepp_n32c_handshake.cpp`: the object that negotiates the security
capability and the N32-f context with a peer SEPP. It has a single
context id, shared by all peers, and the suites selected last.

A handler that writes members before it fails leaves them written, so
every result carries the state beside the returned value or the exception
let out. Generated UUIDs are arguments. Which of the peer's capabilities
the code would select is compared with the configured one in a log line
only, and is not computed here.
-/

namespace Sepp

structure Uuid where
  text : Str
  nonempty : text ≠ []

structure N32cHandshake where
  n32cContextId : Str := []
  peerSeppFqdn : Str := []
  senderFqdn : Str := ascii "sepp.5gc.mnc22.mcc208.3gppnetwork.org"
  peerTargetApiRootSupported : Bool := false
  selectedSecCapability : Str := ascii "PRINS"
  allowedN32Purposes : List Str := []
  selectedJweCipher : Str := ascii "A128GCM"
  selectedJwsCipher : Str := ascii "ES256"

/-- What a request handler leaves behind. -/
structure N32cHandled where
  ret : Except Exn Bool
  state : N32cHandshake
  respData : Json
  respHeaders : HeaderMap

/-! ## Texts -/

def sbiTargetApiRootHeader : Str := ascii "3gpp-Sbi-Target-ApiRoot-Supported"

def headerValueYes : Str := ascii "true"

def usagePurposeRoaming : Json :=
  .obj [(ascii "usagePurpose", .str (ascii "ROAMING"))]

/-- A `ProtectionPolicy` with an empty mapping list. -/
def emptyPolicy : Json := .obj [(ascii "apiIeMappingList", .arr [])]

namespace N32cHandshake

def validateHandshakeRequest (reqData : Json) : Bool :=
  !(reqData.isNull || !reqData.isObject)

def rejected (σ : N32cHandshake) (respData : Json) (respHeaders : HeaderMap) :
    N32cHandled :=
  { ret := .ok false, state := σ, respData, respHeaders }

/-! ## Exchange-capability -/

/-- The peer's capability list; a member that is not an array is ignored,
an item that is not a string throws. -/
def supportedCaps (reqData : Json) : Except Exn (List Str) :=
  match reqData.find? (ascii "supportedSecCapabilityList") with
  | some (.arr items) => items.mapM Json.getString
  | _ => .ok []

/-- The state once a capability request has been heard. -/
def heard (σ : N32cHandshake) (req : SecNegotiateReqData) : N32cHandshake :=
  { σ with
    peerTargetApiRootSupported :=
      req.r3GppSbiTargetApiRootSupported.getD σ.peerTargetApiRootSupported
    peerSeppFqdn := req.sender }

/-- `selected_cap`, which the lists of both SEPPs select, is only logged. -/
def handleExchangeCapabilityRequest (E : Platform) (cfg : SeppConfig)
    (σ : N32cHandshake) (reqData respData : Json) (respHeaders : HeaderMap) :
    N32cHandled :=
  if !validateHandshakeRequest reqData then rejected σ respData respHeaders
  else
    match E.secNegotiateReq.fromJson reqData with
    | none => rejected σ respData respHeaders
    | some req =>
        if !E.validateSecNegotiateReq req then rejected σ respData respHeaders
        else
          let state := σ.heard req
          let respHeaders := respHeaders.insert sbiTargetApiRootHeader headerValueYes
          match supportedCaps reqData with
          | .error e => { ret := .error e, state, respData, respHeaders }
          | .ok _ =>
              { ret := .ok true
                state
                respData :=
                  (((respData.set (ascii "sender") (.str cfg.nbiUrl)).set
                    (ascii "selectedSecCapability") (.str σ.selectedSecCapability)).set
                    (ascii "3GppSbiTargetApiRootSupported") (.bool true)).set
                    (ascii "allowedUsagePurpose") (.arr [usagePurposeRoaming])
                respHeaders }

def createExchangeCapabilityReq (E : Platform) (σ : N32cHandshake) : Json :=
  (E.secNegotiateReq.toJson
    { sender := σ.senderFqdn
      r3GppSbiTargetApiRootSupported := some true
      intendedUsagePurpose := [usagePurposeRoaming] }).set
    (ascii "supportedSecCapabilityList") (.arr [.str σ.selectedSecCapability])

/-- The purposes of a response; items of another shape are skipped. -/
def allowedPurposes (respData : Json) : List Str :=
  match respData.find? (ascii "allowedUsagePurpose") with
  | some (.arr items) =>
      items.filterMap fun item =>
        match item.find? (ascii "usagePurpose") with
        | some (.str s) => some s
        | _ => none
  | _ => []

def heardSender (σ : N32cHandshake) (respData : Json) : N32cHandshake :=
  match respData.find? (ascii "sender") with
  | some (.str s) => { σ with peerSeppFqdn := s }
  | _ => σ

/-- What a capability response says of the target api root, else what is
known of it. -/
def supportedAfter (σ : N32cHandshake) (respData : Json) : Except Exn Bool :=
  match respData.find? (ascii "3GppSbiTargetApiRootSupported") with
  | some v => v.getBool
  | none => .ok σ.peerTargetApiRootSupported

def handleExchangeCapabilityResponse (σ : N32cHandshake) (respData : Json) :
    Except Exn Bool × N32cHandshake :=
  if !validateHandshakeRequest respData then (.ok false, σ)
  else
    let σ := σ.heardSender respData
    match σ.supportedAfter respData with
    | .error e => (.error e, σ)
    | .ok b =>
        let σ := { σ with peerTargetApiRootSupported := b }
        match respData.find? (ascii "selectedSecCapability") with
        | some (.str _) =>
            (.ok true, { σ with allowedN32Purposes := allowedPurposes respData })
        | _ => (.ok false, σ)

/-! ## Exchange-params -/

def createExchangeParamsReq (E : Platform) (uuid : Uuid) (σ : N32cHandshake) :
    N32cHandshake × Json :=
  let σ := if σ.n32cContextId = [] then { σ with n32cContextId := uuid.text } else σ
  (σ, E.secParamExchReq.toJson
    { n32fContextId := σ.n32cContextId
      sender := σ.senderFqdn
      jweCipherSuiteList := some [ascii "A128GCM", ascii "A256GCM"]
      jwsCipherSuiteList := some [ascii "ES256", ascii "RS256"]
      protectionPolicyInfo := some emptyPolicy })

/-- The first suite offered, or the default. -/
def selectSuite (offered : Option (List Str)) (dflt : Str) : Str :=
  (offered.bind List.head?).getD dflt

/-- The state an accepted `exchange-params` request leads to. -/
def adoptParams (uuid : Uuid) (σ : N32cHandshake) (req : SecParamExchReqData) :
    N32cHandshake :=
  { σ with
    n32cContextId :=
      if req.n32fContextId ≠ [] then req.n32fContextId
      else if σ.n32cContextId = [] then uuid.text
      else σ.n32cContextId
    selectedJweCipher := selectSuite req.jweCipherSuiteList (ascii "A128GCM")
    selectedJwsCipher := selectSuite req.jwsCipherSuiteList (ascii "ES256") }

def handleExchangeParams (E : Platform) (cfg : SeppConfig) (uuid : Uuid)
    (σ : N32cHandshake) (reqData respData : Json) (respHeaders : HeaderMap) :
    N32cHandled :=
  if !validateHandshakeRequest reqData then rejected σ respData respHeaders
  else
    match E.secParamExchReq.fromJson reqData with
    | none => rejected σ respData respHeaders
    | some req =>
        let state := adoptParams uuid σ req
        { ret := .ok true
          state
          respData := E.secParamExchRsp.toJson
            { n32fContextId := state.n32cContextId
              sender := cfg.nbiUrl
              selectedJweCipherSuite := some state.selectedJweCipher
              selectedJwsCipherSuite := some state.selectedJwsCipher
              selProtectionPolicyInfo := some (req.protectionPolicyInfo.getD emptyPolicy) }
          respHeaders := respHeaders.insert sbiTargetApiRootHeader headerValueYes }

/-- The state an accepted `exchange-params` response leads to. -/
def adoptParamsResponse (σ : N32cHandshake) (rsp : SecParamExchRspData) : N32cHandshake :=
  { σ with
    n32cContextId := if rsp.n32fContextId ≠ [] then rsp.n32fContextId else σ.n32cContextId
    selectedJweCipher := rsp.selectedJweCipherSuite.getD σ.selectedJweCipher
    selectedJwsCipher := rsp.selectedJwsCipherSuite.getD σ.selectedJwsCipher }

def handleExchangeParamsResponse (E : Platform) (σ : N32cHandshake)
    (respData : Json) : Bool × N32cHandshake :=
  if !validateHandshakeRequest respData then (false, σ)
  else
    match E.secParamExchRsp.fromJson respData with
    | none => (false, σ)
    | some rsp => (true, σ.adoptParamsResponse rsp)

/-! ## N32f-terminate -/

/-- `none` where there is no context to terminate. -/
def createN32fTerminateReq (E : Platform) (σ : N32cHandshake) : Option Json :=
  if σ.n32cContextId = [] then none
  else some (E.contextInfo.toJson { n32fContextId := σ.n32cContextId })

/-- Forget the context when it is the one named. -/
def dropContext (σ : N32cHandshake) (incoming : Str) : N32cHandshake :=
  if σ.n32cContextId = incoming ∨ σ.n32cContextId = [] then
    { σ with n32cContextId := [] }
  else σ

def handleN32fTerminateReq (E : Platform) (σ : N32cHandshake)
    (reqData respData : Json) (respHeaders : HeaderMap) : N32cHandled :=
  if !validateHandshakeRequest reqData then rejected σ respData respHeaders
  else
    match E.contextInfo.fromJson reqData with
    | none => rejected σ respData respHeaders
    | some info =>
        { ret := .ok true
          state := dropContext σ info.n32fContextId
          respData := E.contextInfo.toJson { n32fContextId := info.n32fContextId }
          respHeaders := respHeaders.insert sbiTargetApiRootHeader headerValueYes }

/-- Every branch of the source clears the context and returns true; what
the response names is only logged. -/
def handleN32fTerminateResponse (σ : N32cHandshake) (_respData : Json) :
    Bool × N32cHandshake :=
  (true, { σ with n32cContextId := [] })

/-! ## N32f-error -/

def handleN32fError (E : Platform) (σ : N32cHandshake) (reqData respData : Json)
    (respHeaders : HeaderMap) : N32cHandled :=
  if !validateHandshakeRequest reqData then rejected σ respData respHeaders
  else
    let respHeaders := respHeaders.insert sbiTargetApiRootHeader headerValueYes
    -- The whole request is logged, and what cannot be serialised throws.
    match E.dump reqData with
    | .error e => { ret := .error e, state := σ, respData, respHeaders }
    | .ok _ =>
        { ret := .ok true
          state := σ
          respData := respData.set (ascii "acknowledged") (.bool true)
          respHeaders }

/-! ## What each operation does to the context -/

section Specs

variable {E : Platform} {cfg : SeppConfig} {uuid : Uuid} {σ : N32cHandshake}
  {reqData respData : Json} {respHeaders : HeaderMap}

theorem validateHandshakeRequest_iff {j : Json} :
    validateHandshakeRequest j = true ↔ j.isObject = true := by
  cases j <;> rfl

/-- An exchange-params request is answered and adopted, or it is rejected
and changes nothing. -/
theorem handleExchangeParams_cases :
    (∃ req, E.secParamExchReq.fromJson reqData = some req ∧ reqData.isObject = true
      ∧ (handleExchangeParams E cfg uuid σ reqData respData respHeaders).ret = .ok true
      ∧ (handleExchangeParams E cfg uuid σ reqData respData respHeaders).state
          = adoptParams uuid σ req)
    ∨ (handleExchangeParams E cfg uuid σ reqData respData respHeaders).ret = .ok false
      ∧ (handleExchangeParams E cfg uuid σ reqData respData respHeaders).state = σ
      ∧ ∀ req, reqData.isObject = true → E.secParamExchReq.fromJson reqData ≠ some req := by
  unfold handleExchangeParams
  by_cases hv : validateHandshakeRequest reqData = true
  · have hobj := validateHandshakeRequest_iff.mp hv
    cases hreq : E.secParamExchReq.fromJson reqData with
    | none => exact Or.inr (by simp [hv, rejected])
    | some req => exact Or.inl ⟨req, rfl, hobj, by simp [hv]⟩
  · refine Or.inr ⟨by simp [hv, rejected], by simp [hv, rejected], fun req hobj => ?_⟩
    exact absurd (validateHandshakeRequest_iff.mpr hobj) hv

theorem handleExchangeParams_toJson (req : SecParamExchReqData) :
    handleExchangeParams E cfg uuid σ (E.secParamExchReq.toJson req) respData respHeaders =
      { ret := .ok true
        state := adoptParams uuid σ req
        respData := E.secParamExchRsp.toJson
          { n32fContextId := (adoptParams uuid σ req).n32cContextId
            sender := cfg.nbiUrl
            selectedJweCipherSuite := some (adoptParams uuid σ req).selectedJweCipher
            selectedJwsCipherSuite := some (adoptParams uuid σ req).selectedJwsCipher
            selProtectionPolicyInfo := some (req.protectionPolicyInfo.getD emptyPolicy) }
        respHeaders := respHeaders.insert sbiTargetApiRootHeader headerValueYes } := by
  have hv := validateHandshakeRequest_iff.mpr (E.secParamExchReq.isObject_toJson req)
  simp only [handleExchangeParams, hv, E.secParamExchReq.fromJson_toJson,
    Bool.not_true, Bool.false_eq_true, if_false]

/-- A request that names the current context, or none, leaves it. -/
theorem adoptParams_keeps {req : SecParamExchReqData} (uuid : Uuid)
    (hσ : σ.n32cContextId ≠ [])
    (hreq : req.n32fContextId = [] ∨ req.n32fContextId = σ.n32cContextId) :
    (adoptParams uuid σ req).n32cContextId = σ.n32cContextId := by
  rcases hreq with hnil | hsame
  · simp [adoptParams, hnil, hσ]
  · simp [adoptParams, hsame, hσ]

/-- A terminate request is answered and drops the context it names, or it
is rejected and changes nothing. -/
theorem handleN32fTerminateReq_cases :
    (∃ info, E.contextInfo.fromJson reqData = some info ∧ reqData.isObject = true
      ∧ (handleN32fTerminateReq E σ reqData respData respHeaders).ret = .ok true
      ∧ (handleN32fTerminateReq E σ reqData respData respHeaders).state
          = dropContext σ info.n32fContextId)
    ∨ (handleN32fTerminateReq E σ reqData respData respHeaders).ret = .ok false
      ∧ (handleN32fTerminateReq E σ reqData respData respHeaders).state = σ := by
  unfold handleN32fTerminateReq
  by_cases hv : validateHandshakeRequest reqData = true
  · have hobj := validateHandshakeRequest_iff.mp hv
    cases hreq : E.contextInfo.fromJson reqData with
    | none => exact Or.inr (by simp [hv, rejected])
    | some info => exact Or.inl ⟨info, rfl, hobj, by simp [hv]⟩
  · exact Or.inr (by simp [hv, rejected])

theorem dropContext_of_ne {incoming : Str} (h : σ.n32cContextId ≠ incoming) :
    dropContext σ incoming = σ := by
  unfold dropContext
  split
  · rename_i hor
    rcases hor with heq | hnil
    · exact absurd heq h
    · cases σ; simp_all
  · rfl

theorem dropContext_self : (dropContext σ σ.n32cContextId).n32cContextId = [] := by
  simp [dropContext]

theorem dropContext_suites (incoming : Str) :
    (dropContext σ incoming).selectedJweCipher = σ.selectedJweCipher
      ∧ (dropContext σ incoming).selectedJwsCipher = σ.selectedJwsCipher := by
  unfold dropContext
  split <;> exact ⟨rfl, rfl⟩

theorem dropContext_capability (incoming : Str) :
    (dropContext σ incoming).selectedSecCapability = σ.selectedSecCapability := by
  unfold dropContext
  split <;> rfl

/-- A capability request is rejected and changes nothing, or it is heard and
then answered, or it is heard and its list throws. -/
theorem handleExchangeCapabilityRequest_cases :
    let h := handleExchangeCapabilityRequest E cfg σ reqData respData respHeaders
    (h.ret = .ok false ∧ h.state = σ
      ∧ ∀ req, reqData.isObject = true → E.secNegotiateReq.fromJson reqData = some req →
          E.validateSecNegotiateReq req = false)
    ∨ ∃ req, reqData.isObject = true ∧ E.secNegotiateReq.fromJson reqData = some req
      ∧ E.validateSecNegotiateReq req = true ∧ h.state = heard σ req
      ∧ ((∃ caps, supportedCaps reqData = .ok caps ∧ h.ret = .ok true)
        ∨ ∃ e, supportedCaps reqData = .error e ∧ h.ret = .error e) := by
  unfold handleExchangeCapabilityRequest
  by_cases hv : validateHandshakeRequest reqData = true
  · have hobj := validateHandshakeRequest_iff.mp hv
    cases hreq : E.secNegotiateReq.fromJson reqData with
    | none => exact Or.inl (by simp [hv, rejected])
    | some req =>
        by_cases hvalid : E.validateSecNegotiateReq req = true
        · refine Or.inr ⟨req, hobj, rfl, hvalid, ?_⟩
          cases hcaps : supportedCaps reqData with
          | ok caps => exact ⟨by simp [hv, hvalid], Or.inl ⟨caps, rfl, by simp [hv, hvalid]⟩⟩
          | error e => exact ⟨by simp [hv, hvalid], Or.inr ⟨e, rfl, by simp [hv, hvalid]⟩⟩
        · exact Or.inl (by simp [hv, hvalid, rejected])
  · refine Or.inl ⟨by simp [hv, rejected], by simp [hv, rejected], fun req hobj => ?_⟩
    exact absurd (validateHandshakeRequest_iff.mpr hobj) hv

theorem heardSender_flag (σ : N32cHandshake) (respData : Json) :
    (heardSender σ respData).peerTargetApiRootSupported = σ.peerTargetApiRootSupported := by
  unfold heardSender
  split <;> rfl

/-- A capability response: rejected, or cut short by a type error or by a
missing selection, or taken. -/
theorem handleExchangeCapabilityResponse_cases (σ : N32cHandshake) (respData : Json) :
    (handleExchangeCapabilityResponse σ respData = (.ok false, σ)
      ∧ respData.isObject = false)
    ∨ (∃ e, handleExchangeCapabilityResponse σ respData = (.error e, heardSender σ respData)
      ∧ respData.isObject = true ∧ supportedAfter σ respData = .error e)
    ∨ ∃ b, respData.isObject = true ∧ supportedAfter σ respData = .ok b
      ∧ ((∀ s, respData.find? (ascii "selectedSecCapability") ≠ some (.str s))
          ∧ handleExchangeCapabilityResponse σ respData
            = (.ok false, { heardSender σ respData with peerTargetApiRootSupported := b })
        ∨ (∃ s, respData.find? (ascii "selectedSecCapability") = some (.str s))
          ∧ handleExchangeCapabilityResponse σ respData
            = (.ok true, { heardSender σ respData with
                peerTargetApiRootSupported := b
                allowedN32Purposes := allowedPurposes respData })) := by
  by_cases hv : validateHandshakeRequest respData = true
  · have hobj := validateHandshakeRequest_iff.mp hv
    have hsame : supportedAfter (heardSender σ respData) respData
        = supportedAfter σ respData := by
      unfold supportedAfter
      rw [heardSender_flag]
    have hread : handleExchangeCapabilityResponse σ respData =
        match supportedAfter (heardSender σ respData) respData with
        | .error e => (.error e, heardSender σ respData)
        | .ok b =>
            match respData.find? (ascii "selectedSecCapability") with
            | some (.str _) =>
                (.ok true, { heardSender σ respData with
                  peerTargetApiRootSupported := b
                  allowedN32Purposes := allowedPurposes respData })
            | _ => (.ok false, { heardSender σ respData with
                peerTargetApiRootSupported := b }) := by
      unfold handleExchangeCapabilityResponse
      rw [hv]
      rfl
    rw [hread, hsame]
    cases hsupported : supportedAfter σ respData with
    | error e => exact Or.inr (Or.inl ⟨e, rfl, hobj, rfl⟩)
    | ok b =>
        refine Or.inr (Or.inr ⟨b, hobj, rfl, ?_⟩)
        dsimp only
        split
        · rename_i s hs
          exact Or.inr ⟨⟨s, hs⟩, rfl⟩
        · rename_i hno
          exact Or.inl ⟨hno, rfl⟩
  · refine Or.inl ⟨by simp [handleExchangeCapabilityResponse, hv], ?_⟩
    exact Bool.eq_false_iff.mpr fun hobj => hv (validateHandshakeRequest_iff.mpr hobj)

theorem handleExchangeParamsResponse_cases :
    (∃ rsp, E.secParamExchRsp.fromJson respData = some rsp ∧ respData.isObject = true
      ∧ handleExchangeParamsResponse E σ respData = (true, adoptParamsResponse σ rsp))
    ∨ handleExchangeParamsResponse E σ respData = (false, σ)
      ∧ ∀ rsp, respData.isObject = true → E.secParamExchRsp.fromJson respData ≠ some rsp := by
  unfold handleExchangeParamsResponse
  by_cases hv : validateHandshakeRequest respData = true
  · have hobj := validateHandshakeRequest_iff.mp hv
    cases hrsp : E.secParamExchRsp.fromJson respData with
    | none => exact Or.inr (by simp [hv])
    | some rsp => exact Or.inl ⟨rsp, rfl, hobj, by simp [hv]⟩
  · refine Or.inr ⟨by simp [hv], fun rsp hobj => ?_⟩
    exact absurd (validateHandshakeRequest_iff.mpr hobj) hv

/-- A capability exchange writes what is known of the peer, and nothing
else. -/
theorem handleExchangeCapabilityRequest_frame (E : Platform) (cfg : SeppConfig)
    (σ : N32cHandshake) (reqData respData : Json) (respHeaders : HeaderMap) :
    ∃ fqdn flag,
      (handleExchangeCapabilityRequest E cfg σ reqData respData respHeaders).state =
        { σ with peerSeppFqdn := fqdn, peerTargetApiRootSupported := flag } := by
  rcases handleExchangeCapabilityRequest_cases (E := E) (σ := σ)
    with ⟨-, hstate, -⟩ | ⟨req, -, -, -, hstate, -⟩
  · exact ⟨σ.peerSeppFqdn, σ.peerTargetApiRootSupported, hstate⟩
  · exact ⟨_, _, hstate⟩

theorem heardSender_frame (σ : N32cHandshake) (respData : Json) :
    ∃ fqdn, heardSender σ respData = { σ with peerSeppFqdn := fqdn } := by
  unfold heardSender
  split
  · exact ⟨_, rfl⟩
  · exact ⟨σ.peerSeppFqdn, rfl⟩

theorem handleExchangeCapabilityResponse_frame (σ : N32cHandshake) (respData : Json) :
    ∃ fqdn flag purposes, (handleExchangeCapabilityResponse σ respData).2 =
      { σ with
        peerSeppFqdn := fqdn
        peerTargetApiRootSupported := flag
        allowedN32Purposes := purposes } := by
  obtain ⟨fqdn, hheard⟩ := heardSender_frame σ respData
  rcases handleExchangeCapabilityResponse_cases σ respData
    with ⟨h, -⟩ | ⟨e, h, -, -⟩ | ⟨b, -, -, ⟨-, h⟩ | ⟨-, h⟩⟩
  · exact ⟨σ.peerSeppFqdn, σ.peerTargetApiRootSupported, σ.allowedN32Purposes, by rw [h]⟩
  · exact ⟨fqdn, σ.peerTargetApiRootSupported, σ.allowedN32Purposes, by rw [h, hheard]⟩
  · exact ⟨fqdn, b, σ.allowedN32Purposes, by rw [h, hheard]⟩
  · exact ⟨fqdn, b, allowedPurposes respData, by rw [h, hheard]⟩

/-- An error notification changes nothing. -/
theorem handleN32fError_state (E : Platform) (σ : N32cHandshake) (reqData respData : Json)
    (respHeaders : HeaderMap) :
    (handleN32fError E σ reqData respData respHeaders).state = σ := by
  unfold handleN32fError
  split
  · rfl
  · dsimp only
    split <;> rfl

end Specs

end N32cHandshake

end Sepp
