import Sepp.Machine
import Sepp.Reference
import Sepp.SeppApp

/-!
# Runs of N32-c messages

Everything that can happen to the handshake object of one SEPP, against
peers that send what they like: requests and responses come in any order,
and the answer to an own `n32f-terminate` arrives while other messages are
handled. `PeerState.pending` are the contexts of the own terminations that
are still unanswered.

Three facts about single messages are lifted to whole runs:

- `negotiates_soundly_iff`: which messages keep the selected suites among
  the supported ones;
- `terminated_by_name_iff`: which answers drop only the context they are
  about;
- `fails_atomically_iff`: which messages leave nothing behind when they
  are refused.
-/

namespace Sepp

structure PeerState where
  handshake : N32cHandshake
  pending : List Str

inductive N32cEvent where
  | capabilityRequest (reqData : Json)
  | capabilityResponse (respData : Json)
  | createParams (uuid : Uuid)
  | paramsRequest (uuid : Uuid) (reqData : Json)
  | paramsResponse (respData : Json)
  | sendTerminate
  | terminateRequest (reqData : Json)
  /-- The peer's answer to the `k`-th own termination that is unanswered. -/
  | terminateAnswer (k : Nat) (answer : HttpResponse)
  | error (reqData : Json)

/-- The output is what the handler of the message returns or throws. -/
def n32cMachine (E : Platform) (cfg : SeppConfig) :
    Machine PeerState N32cEvent (Except Exn Bool) where
  next s
    | .capabilityRequest reqData =>
        { s with handshake :=
          (s.handshake.handleExchangeCapabilityRequest E cfg reqData .null ∅).state }
    | .capabilityResponse respData =>
        { s with handshake := (s.handshake.handleExchangeCapabilityResponse respData).2 }
    | .createParams uuid =>
        { s with handshake := (s.handshake.createExchangeParamsReq E uuid).1 }
    | .paramsRequest uuid reqData =>
        { s with handshake :=
          (s.handshake.handleExchangeParams E cfg uuid reqData .null ∅).state }
    | .paramsResponse respData =>
        { s with handshake := (s.handshake.handleExchangeParamsResponse E respData).2 }
    | .sendTerminate =>
        match s.handshake.createN32fTerminateReq E with
        | none => s
        | some _ => { s with pending := s.pending ++ [s.handshake.n32cContextId] }
    | .terminateRequest reqData =>
        { s with handshake := (s.handshake.handleN32fTerminateReq E reqData .null ∅).state }
    | .terminateAnswer k answer =>
        match s.pending[k]? with
        | none => s
        | some _ =>
            { handshake := (SeppApp.adoptTerminateAnswer E answer s.handshake).2
              pending := s.pending.eraseIdx k }
    | .error reqData =>
        { s with handshake := (s.handshake.handleN32fError E reqData .null ∅).state }
  out s
    | .capabilityRequest reqData =>
        (s.handshake.handleExchangeCapabilityRequest E cfg reqData .null ∅).ret
    | .capabilityResponse respData =>
        (s.handshake.handleExchangeCapabilityResponse respData).1
    | .createParams _ => .ok true
    | .paramsRequest uuid reqData =>
        (s.handshake.handleExchangeParams E cfg uuid reqData .null ∅).ret
    | .paramsResponse respData =>
        .ok (s.handshake.handleExchangeParamsResponse E respData).1
    | .sendTerminate => .ok (s.handshake.createN32fTerminateReq E).isSome
    | .terminateRequest reqData =>
        (s.handshake.handleN32fTerminateReq E reqData .null ∅).ret
    | .terminateAnswer k answer =>
        .ok (s.pending[k]?.isSome && (SeppApp.adoptTerminateAnswer E answer s.handshake).1)
    | .error reqData => (s.handshake.handleN32fError E reqData .null ∅).ret

/-- A handshake object as constructed, with nothing under way. -/
def PeerState.fresh (securityCapability : Str) : PeerState :=
  { handshake := { selectedSecCapability := securityCapability }, pending := [] }

section Runs

variable {E : Platform} {cfg : SeppConfig}

/-! ## What each message does -/

section Messages

variable (E : Platform) (cfg : SeppConfig)

theorem next_capabilityRequest (s : PeerState) (reqData : Json) :
    ∃ fqdn flag,
      (((n32cMachine E cfg).next s (.capabilityRequest reqData)).handshake) =
        { s.handshake with peerSeppFqdn := fqdn, peerTargetApiRootSupported := flag } :=
  N32cHandshake.handleExchangeCapabilityRequest_frame E cfg s.handshake reqData .null ∅

theorem next_capabilityRequest_cases (s : PeerState) (reqData : Json) :
    ((n32cMachine E cfg).out s (.capabilityRequest reqData) = .ok false
      ∧ ((n32cMachine E cfg).next s (.capabilityRequest reqData)).handshake = s.handshake
      ∧ ∀ req, reqData.isObject = true → E.secNegotiateReq.fromJson reqData = some req →
          E.validateSecNegotiateReq req = false)
    ∨ ∃ req, reqData.isObject = true ∧ E.secNegotiateReq.fromJson reqData = some req
      ∧ E.validateSecNegotiateReq req = true
      ∧ ((n32cMachine E cfg).next s (.capabilityRequest reqData)).handshake
          = s.handshake.heard req
      ∧ ((∃ caps, N32cHandshake.supportedCaps reqData = .ok caps
          ∧ (n32cMachine E cfg).out s (.capabilityRequest reqData) = .ok true)
        ∨ ∃ e, N32cHandshake.supportedCaps reqData = .error e
          ∧ (n32cMachine E cfg).out s (.capabilityRequest reqData) = .error e) :=
  N32cHandshake.handleExchangeCapabilityRequest_cases

theorem next_capabilityResponse (s : PeerState) (respData : Json) :
    ∃ fqdn flag purposes,
      ((n32cMachine E cfg).next s (.capabilityResponse respData)).handshake =
        { s.handshake with
          peerSeppFqdn := fqdn
          peerTargetApiRootSupported := flag
          allowedN32Purposes := purposes } :=
  N32cHandshake.handleExchangeCapabilityResponse_frame s.handshake respData

/-- The id of the object, or a generated one where there is none. -/
theorem next_createParams (s : PeerState) (uuid : Uuid) :
    ∃ id, (s.handshake.n32cContextId ≠ [] → id ≠ [])
      ∧ ((n32cMachine E cfg).next s (.createParams uuid)).handshake =
        { s.handshake with n32cContextId := id } := by
  simp only [n32cMachine, N32cHandshake.createExchangeParamsReq]
  split
  · exact ⟨uuid.text, fun _ => uuid.nonempty, rfl⟩
  · exact ⟨s.handshake.n32cContextId, id, rfl⟩

theorem next_paramsRequest (s : PeerState) (uuid : Uuid) (reqData : Json) :
    (∃ req, E.secParamExchReq.fromJson reqData = some req ∧ reqData.isObject = true
      ∧ (n32cMachine E cfg).out s (.paramsRequest uuid reqData) = .ok true
      ∧ ((n32cMachine E cfg).next s (.paramsRequest uuid reqData)).handshake
          = N32cHandshake.adoptParams uuid s.handshake req)
    ∨ (n32cMachine E cfg).out s (.paramsRequest uuid reqData) = .ok false
      ∧ ((n32cMachine E cfg).next s (.paramsRequest uuid reqData)).handshake = s.handshake
      ∧ ∀ req, reqData.isObject = true → E.secParamExchReq.fromJson reqData ≠ some req :=
  N32cHandshake.handleExchangeParams_cases

theorem next_paramsResponse (s : PeerState) (respData : Json) :
    (∃ rsp, E.secParamExchRsp.fromJson respData = some rsp ∧ respData.isObject = true
      ∧ (n32cMachine E cfg).out s (.paramsResponse respData) = .ok true
      ∧ ((n32cMachine E cfg).next s (.paramsResponse respData)).handshake
          = s.handshake.adoptParamsResponse rsp)
    ∨ (n32cMachine E cfg).out s (.paramsResponse respData) = .ok false
      ∧ ((n32cMachine E cfg).next s (.paramsResponse respData)).handshake = s.handshake
      ∧ ∀ rsp, respData.isObject = true → E.secParamExchRsp.fromJson respData ≠ some rsp := by
  rcases N32cHandshake.handleExchangeParamsResponse_cases (E := E) (σ := s.handshake)
    with ⟨rsp, hrsp, hobj, h⟩ | ⟨h, hnone⟩
  · exact Or.inl ⟨rsp, hrsp, hobj, by simp only [n32cMachine, h], congrArg Prod.snd h⟩
  · exact Or.inr ⟨by simp only [n32cMachine, h], congrArg Prod.snd h, hnone⟩

theorem next_sendTerminate (s : PeerState) :
    ((n32cMachine E cfg).next s .sendTerminate).handshake = s.handshake := by
  simp only [n32cMachine]
  split <;> rfl

theorem next_terminateRequest (s : PeerState) (reqData : Json) :
    (∃ info, E.contextInfo.fromJson reqData = some info ∧ reqData.isObject = true
      ∧ (n32cMachine E cfg).out s (.terminateRequest reqData) = .ok true
      ∧ ((n32cMachine E cfg).next s (.terminateRequest reqData)).handshake
          = s.handshake.dropContext info.n32fContextId)
    ∨ (n32cMachine E cfg).out s (.terminateRequest reqData) = .ok false
      ∧ ((n32cMachine E cfg).next s (.terminateRequest reqData)).handshake = s.handshake :=
  N32cHandshake.handleN32fTerminateReq_cases

/-- An answer with a status of success to an own termination clears the
context, whichever it is. -/
theorem next_terminateAnswer (s : PeerState) (k : Nat) (answer : HttpResponse) :
    ((∃ id, s.pending[k]? = some id)
      ∧ (answer.statusCode = 200 ∨ answer.statusCode = 204)
      ∧ ((n32cMachine E cfg).next s (.terminateAnswer k answer)).handshake
          = { s.handshake with n32cContextId := [] })
    ∨ ((s.pending[k]? = none ∨ answer.statusCode ≠ 200 ∧ answer.statusCode ≠ 204)
      ∧ ((n32cMachine E cfg).next s (.terminateAnswer k answer)).handshake = s.handshake) := by
  simp only [n32cMachine, SeppApp.adoptTerminateAnswer]
  cases hk : s.pending[k]? with
  | none => exact Or.inr ⟨Or.inl rfl, rfl⟩
  | some id =>
      by_cases hst : answer.statusCode = 200 ∨ answer.statusCode = 204
      · exact Or.inl ⟨⟨id, rfl⟩, hst, by simp only [if_pos hst]; rfl⟩
      · exact Or.inr ⟨Or.inr (not_or.mp hst), by simp only [if_neg hst]⟩

theorem next_error (s : PeerState) (reqData : Json) :
    ((n32cMachine E cfg).next s (.error reqData)).handshake = s.handshake :=
  N32cHandshake.handleN32fError_state E s.handshake reqData .null ∅

end Messages

/-! ## Negotiated suites -/

/-- The suites the SEPP offers in its own requests. -/
def supportedJwe : List Str := [ascii "A128GCM", ascii "A256GCM"]

def supportedJws : List Str := [ascii "ES256", ascii "RS256"]

theorem createExchangeParamsReq_offers (E : Platform) (uuid : Uuid) (σ : N32cHandshake) :
    ∃ req, (σ.createExchangeParamsReq E uuid).2 = E.secParamExchReq.toJson req
      ∧ req.jweCipherSuiteList = some supportedJwe
      ∧ req.jwsCipherSuiteList = some supportedJws :=
  ⟨_, rfl, rfl, rfl⟩

/-- Both selected suites are supported ones. -/
def Supported (σ : N32cHandshake) : Prop :=
  σ.selectedJweCipher ∈ supportedJwe ∧ σ.selectedJwsCipher ∈ supportedJws

/-- Where a supported suite is offered, the suite is such a common one. -/
def SelectsCommon (offered : Option (List Str)) (supported : List Str) (suite : Str) : Prop :=
  ∀ l ∈ offered, (∃ c ∈ l, c ∈ supported) → suite ∈ l ∧ suite ∈ supported

/-- What is selected answers the message: a request's from common suites, a
response's from those offered to the peer. -/
def AnswersOffer (E : Platform) (σ : N32cHandshake) : N32cEvent → Prop
  | .paramsRequest _ reqData => ∀ req, reqData.isObject = true →
      E.secParamExchReq.fromJson reqData = some req →
      SelectsCommon req.jweCipherSuiteList supportedJwe σ.selectedJweCipher
        ∧ SelectsCommon req.jwsCipherSuiteList supportedJws σ.selectedJwsCipher
  | .paramsResponse _ => ∀ uuid req, (σ.createExchangeParamsReq E uuid).2
        = E.secParamExchReq.toJson req →
      (∀ l ∈ req.jweCipherSuiteList, σ.selectedJweCipher ∈ l)
        ∧ ∀ l ∈ req.jwsCipherSuiteList, σ.selectedJwsCipher ∈ l
  | _ => True

/-- The state the message leads to is sound. -/
def NegotiatesSoundly (E : Platform) (cfg : SeppConfig) (s : PeerState) (e : N32cEvent) :
    Prop :=
  let σ := ((n32cMachine E cfg).next s e).handshake
  Supported σ ∧ AnswersOffer E σ e

/-- A request that can be read puts supported suites first, a response that
can be read selects supported ones. -/
def NamesSupported (E : Platform) : N32cEvent → Prop
  | .paramsRequest _ reqData => ∀ req, reqData.isObject = true →
      E.secParamExchReq.fromJson reqData = some req →
      (∀ c ∈ req.jweCipherSuiteList.bind List.head?, c ∈ supportedJwe)
        ∧ ∀ c ∈ req.jwsCipherSuiteList.bind List.head?, c ∈ supportedJws
  | .paramsResponse respData => ∀ rsp, respData.isObject = true →
      E.secParamExchRsp.fromJson respData = some rsp →
      (∀ c ∈ rsp.selectedJweCipherSuite, c ∈ supportedJwe)
        ∧ ∀ c ∈ rsp.selectedJwsCipherSuite, c ∈ supportedJws
  | _ => True

theorem selectsCommon_selectSuite {supported : List Str} (offered : Option (List Str))
    (dflt : Str) (h : N32cHandshake.selectSuite offered dflt ∈ supported) :
    SelectsCommon offered supported (N32cHandshake.selectSuite offered dflt) := by
  rintro l rfl ⟨c, hc, -⟩
  obtain ⟨c', cs, rfl⟩ := List.exists_cons_of_ne_nil (List.ne_nil_of_mem hc)
  exact ⟨List.mem_cons_self .., h⟩

/-- A choice with a supported default is supported just when it takes the
default or something supported. -/
theorem getD_mem_iff {choice : Option Str} {dflt : Str} {supported : List Str}
    (hdflt : dflt ∈ supported) :
    choice.getD dflt ∈ supported ↔ ∀ c ∈ choice, c ∈ supported := by
  cases choice with
  | none => simp [hdflt]
  | some c => simp

theorem supported_adoptParams_iff (uuid : Uuid) (σ : N32cHandshake)
    (req : SecParamExchReqData) :
    Supported (N32cHandshake.adoptParams uuid σ req) ↔
      (∀ c ∈ req.jweCipherSuiteList.bind List.head?, c ∈ supportedJwe)
        ∧ ∀ c ∈ req.jwsCipherSuiteList.bind List.head?, c ∈ supportedJws :=
  and_congr (getD_mem_iff (List.mem_cons_self ..)) (getD_mem_iff (List.mem_cons_self ..))

theorem supported_adoptParamsResponse_iff {σ : N32cHandshake} (hσ : Supported σ)
    (rsp : SecParamExchRspData) :
    Supported (σ.adoptParamsResponse rsp) ↔
      (∀ c ∈ rsp.selectedJweCipherSuite, c ∈ supportedJwe)
        ∧ ∀ c ∈ rsp.selectedJwsCipherSuite, c ∈ supportedJws :=
  and_congr (getD_mem_iff hσ.1) (getD_mem_iff hσ.2)

/-- Supported suites are offered ones. -/
theorem answersOffer_of_supported {σ : N32cHandshake} (hσ : Supported σ) (respData : Json) :
    AnswersOffer E σ (.paramsResponse respData) := by
  intro uuid req hreq
  obtain ⟨req', hreq', hjwe, hjws⟩ := createExchangeParamsReq_offers E uuid σ
  have hsame := E.secParamExchReq.fromJson_toJson req
  rw [← hreq, hreq', E.secParamExchReq.fromJson_toJson] at hsame
  obtain rfl := Option.some.inj hsame
  rw [hjwe, hjws]
  exact ⟨fun l hl => Option.some.inj hl ▸ hσ.1, fun l hl => Option.some.inj hl ▸ hσ.2⟩

/-- Only the two exchange-params handlers select suites. -/
def SelectsSuites : N32cEvent → Prop
  | .paramsRequest .. => True
  | .paramsResponse _ => True
  | _ => False

theorem supported_next {s : PeerState} {e : N32cEvent} (he : ¬ SelectsSuites e)
    (hs : Supported s.handshake) : Supported ((n32cMachine E cfg).next s e).handshake := by
  cases e with
  | capabilityRequest reqData =>
      obtain ⟨fqdn, flag, hnext⟩ := next_capabilityRequest E cfg s reqData
      rw [hnext]
      exact hs
  | capabilityResponse respData =>
      obtain ⟨fqdn, flag, purposes, hnext⟩ :=
        next_capabilityResponse E cfg s respData
      rw [hnext]
      exact hs
  | createParams uuid =>
      obtain ⟨id, -, hnext⟩ := next_createParams E cfg s uuid
      rw [hnext]
      exact hs
  | paramsRequest uuid reqData => exact absurd trivial he
  | paramsResponse respData => exact absurd trivial he
  | sendTerminate =>
      rw [next_sendTerminate]
      exact hs
  | terminateRequest reqData =>
      rcases next_terminateRequest E cfg s reqData
        with ⟨info, -, -, -, hnext⟩ | ⟨-, hnext⟩
      · obtain ⟨hjwe, hjws⟩ := N32cHandshake.dropContext_suites (σ := s.handshake)
          info.n32fContextId
        rw [hnext]
        exact ⟨hjwe ▸ hs.1, hjws ▸ hs.2⟩
      · rw [hnext]
        exact hs
  | terminateAnswer k answer =>
      rcases next_terminateAnswer E cfg s k answer
        with ⟨-, -, hnext⟩ | ⟨-, hnext⟩
      · rw [hnext]
        exact hs
      · rw [hnext]
        exact hs
  | error reqData =>
      rw [next_error]
      exact hs

theorem negotiatesSoundly_next_iff (s : PeerState) (e : N32cEvent)
    (hs : Supported s.handshake) : NegotiatesSoundly E cfg s e ↔ NamesSupported E e := by
  by_cases he : SelectsSuites e
  · cases e with
    | paramsRequest uuid reqData =>
        rcases next_paramsRequest E cfg s uuid reqData
          with ⟨req, hreq, hobj, -, hnext⟩ | ⟨-, hnext, hnone⟩
        · have hsel := supported_adoptParams_iff uuid s.handshake req
          simp only [NegotiatesSoundly, AnswersOffer, NamesSupported, hnext, hreq, hobj,
            Option.some.injEq, forall_true_left, forall_eq']
          rw [← hsel]
          exact and_iff_left_of_imp fun h => ⟨selectsCommon_selectSuite _ _ h.1,
            selectsCommon_selectSuite _ _ h.2⟩
        · simp only [NegotiatesSoundly, hnext]
          exact ⟨fun _ req hobj hreq => absurd hreq (hnone req hobj),
            fun _ => ⟨hs, fun req hobj hreq => absurd hreq (hnone req hobj)⟩⟩
    | paramsResponse respData =>
        rcases next_paramsResponse E cfg s respData
          with ⟨rsp, hrsp, hobj, -, hnext⟩ | ⟨-, hnext, hnone⟩
        · have hsel := supported_adoptParamsResponse_iff hs rsp
          simp only [NegotiatesSoundly, NamesSupported, hnext, hrsp, hobj,
            Option.some.injEq, forall_true_left, forall_eq']
          rw [← hsel]
          exact and_iff_left_of_imp fun h => answersOffer_of_supported h respData
        · simp only [NegotiatesSoundly, hnext]
          exact ⟨fun _ rsp hobj hrsp => absurd hrsp (hnone rsp hobj),
            fun _ => ⟨hs, answersOffer_of_supported hs respData⟩⟩
    | _ => cases he
  · have hnext : Supported ((n32cMachine E cfg).next s e).handshake := supported_next he hs
    cases e with
    | paramsRequest uuid reqData => exact absurd trivial he
    | paramsResponse respData => exact absurd trivial he
    | _ => exact ⟨fun _ => trivial, fun _ => ⟨hnext, trivial⟩⟩

/-- In a run from the start every state is sound just when every message
names supported suites. -/
theorem negotiates_soundly_iff (securityCapability : Str) (es : List N32cEvent) :
    (n32cMachine E cfg).Guarded (NegotiatesSoundly E cfg) (.fresh securityCapability) es
      ↔ ∀ e ∈ es, NamesSupported E e := by
  have hstart : Supported (PeerState.fresh securityCapability).handshake :=
    ⟨List.mem_cons_self .., List.mem_cons_self ..⟩
  rw [← Machine.guarded_const (M := n32cMachine E cfg)]
  exact Machine.guarded_congr (I := fun s => Supported s.handshake)
    (fun _ _ _ hsound => hsound.1) negotiatesSoundly_next_iff hstart

/-! ## Terminated contexts -/

theorem adoptParams_ne_nil (uuid : Uuid) (σ : N32cHandshake) (req : SecParamExchReqData) :
    (N32cHandshake.adoptParams uuid σ req).n32cContextId ≠ [] := by
  simp only [N32cHandshake.adoptParams]
  split
  · assumption
  · split
    · exact uuid.nonempty
    · assumption

theorem adoptParamsResponse_ne_nil {σ : N32cHandshake} (rsp : SecParamExchRspData)
    (hσ : σ.n32cContextId ≠ []) : (σ.adoptParamsResponse rsp).n32cContextId ≠ [] := by
  simp only [N32cHandshake.adoptParamsResponse]
  split
  · assumption
  · exact hσ

/-- The answer is empty, or it names the context. -/
def Confirms (E : Platform) (answer : HttpResponse) (id : Str) : Prop :=
  answer.body = [] ∨ ∃ j, E.parse answer.body = .ok j
    ∧ (j.empty = true ∨ ∃ info, E.contextInfo.fromJson j = some info ∧ info.n32fContextId = id)

/-- The message terminates the context of that id. -/
def Terminates (E : Platform) (pending : List Str) (id : Str) : N32cEvent → Prop
  | .terminateRequest reqData =>
      ∃ info, E.contextInfo.fromJson reqData = some info ∧ info.n32fContextId = id
  | .terminateAnswer k answer => pending[k]? = some id ∧ Confirms E answer id
  | _ => False

/-- When the message drops the context, it terminates it. -/
def TerminatedByName (E : Platform) (cfg : SeppConfig) (s : PeerState) (e : N32cEvent) :
    Prop :=
  s.handshake.n32cContextId ≠ [] →
    ((n32cMachine E cfg).next s e).handshake.n32cContextId = [] →
    Terminates E s.pending s.handshake.n32cContextId e

/-- While a context is held, a successful answer to an own termination is
about that context and confirms it. -/
def AnswersInTime (E : Platform) (s : PeerState) : N32cEvent → Prop
  | .terminateAnswer k answer => ∀ id, s.pending[k]? = some id →
      answer.statusCode = 200 ∨ answer.statusCode = 204 →
      s.handshake.n32cContextId ≠ [] →
      id = s.handshake.n32cContextId ∧ Confirms E answer id
  | _ => True

theorem terminatedByName_of_kept {s : PeerState} {e : N32cEvent}
    (hkept : s.handshake.n32cContextId ≠ [] →
      ((n32cMachine E cfg).next s e).handshake.n32cContextId ≠ []) :
    TerminatedByName E cfg s e :=
  fun hne hnil => absurd hnil (hkept hne)

/-- Only a termination and the answer to one can drop a context. -/
theorem context_kept_next {s : PeerState} {e : N32cEvent} (hne : s.handshake.n32cContextId ≠ [])
    (hrequest : ∀ reqData, e ≠ .terminateRequest reqData)
    (hanswer : ∀ k answer, e ≠ .terminateAnswer k answer) :
    ((n32cMachine E cfg).next s e).handshake.n32cContextId ≠ [] := by
  cases e with
  | capabilityRequest reqData =>
      obtain ⟨fqdn, flag, hnext⟩ := next_capabilityRequest E cfg s reqData
      rw [hnext]
      exact hne
  | capabilityResponse respData =>
      obtain ⟨fqdn, flag, purposes, hnext⟩ := next_capabilityResponse E cfg s respData
      rw [hnext]
      exact hne
  | createParams uuid =>
      obtain ⟨id, hid, hnext⟩ := next_createParams E cfg s uuid
      rw [hnext]
      exact hid hne
  | paramsRequest uuid reqData =>
      rcases next_paramsRequest E cfg s uuid reqData
        with ⟨req, -, -, -, hnext⟩ | ⟨-, hnext, -⟩
      · rw [hnext]
        exact adoptParams_ne_nil uuid s.handshake req
      · rw [hnext]
        exact hne
  | paramsResponse respData =>
      rcases next_paramsResponse E cfg s respData
        with ⟨rsp, -, -, -, hnext⟩ | ⟨-, hnext, -⟩
      · rw [hnext]
        exact adoptParamsResponse_ne_nil rsp hne
      · rw [hnext]
        exact hne
  | sendTerminate =>
      rw [next_sendTerminate]
      exact hne
  | terminateRequest reqData => exact absurd rfl (hrequest reqData)
  | terminateAnswer k answer => exact absurd rfl (hanswer k answer)
  | error reqData =>
      rw [next_error]
      exact hne

theorem terminatedByName_next_iff (s : PeerState) (e : N32cEvent) :
    TerminatedByName E cfg s e ↔ AnswersInTime E s e := by
  cases e with
  | terminateRequest reqData =>
      refine iff_of_true (fun hne hnil => ?_) trivial
      rcases next_terminateRequest E cfg s reqData
        with ⟨info, hinfo, -, -, hnext⟩ | ⟨-, hnext⟩
      · refine ⟨info, hinfo, ?_⟩
        by_contra hother
        rw [hnext, N32cHandshake.dropContext_of_ne (Ne.symm hother)] at hnil
        exact hne hnil
      · exact absurd (hnext ▸ hnil) hne
  | terminateAnswer k answer =>
      rcases next_terminateAnswer E cfg s k answer
        with ⟨⟨id, hid⟩, hst, hnext⟩ | ⟨hno, hnext⟩
      · simp only [TerminatedByName, Terminates, AnswersInTime, hnext, hid, hst,
          Option.some.injEq, forall_true_left, forall_eq']
        exact forall_congr' fun _ => and_congr_right fun heq => by rw [heq]
      · refine iff_of_true
          (terminatedByName_of_kept fun hne => by rw [hnext]; exact hne) fun id hid hst => ?_
        rcases hno with hnone | ⟨h200, h204⟩
        · exact absurd (hnone.symm.trans hid) nofun
        · exact absurd hst (not_or.mpr ⟨h200, h204⟩)
  | _ =>
      refine iff_of_true (terminatedByName_of_kept fun hne => ?_) trivial
      exact context_kept_next hne nofun nofun

/-- In a run, no live context is dropped but by a message that terminates it,
just when every successful answer is for the context held. -/
theorem terminated_by_name_iff (start : PeerState) (es : List N32cEvent) :
    (n32cMachine E cfg).Guarded (TerminatedByName E cfg) start es
      ↔ (n32cMachine E cfg).Guarded (AnswersInTime E) start es :=
  Machine.guarded_congr (I := fun _ => True) (fun _ _ _ _ => trivial)
    (fun s e _ => terminatedByName_next_iff s e) trivial

/-! ## Refused messages -/

/-- Every item of the peer's capability list is a string. -/
def CapsReadable (reqData : Json) : Prop :=
  ∀ items, reqData.find? (ascii "supportedSecCapabilityList") = some (.arr items) →
    ∀ item ∈ items, ∃ s, item = .str s

/-- The target api root flag is a boolean, if it is there, and a capability
is selected. -/
def AnswerReadable (respData : Json) : Prop :=
  (∀ v, respData.find? (ascii "3GppSbiTargetApiRootSupported") = some v → ∃ b, v = .bool b)
    ∧ ∃ s, respData.find? (ascii "selectedSecCapability") = some (.str s)

/-- Of a capability message that is refused for what stands late in it, the
early members say what is known already. -/
def RepeatsKnown (E : Platform) (σ : N32cHandshake) : N32cEvent → Prop
  | .capabilityRequest reqData => ∀ req, reqData.isObject = true →
      E.secNegotiateReq.fromJson reqData = some req → E.validateSecNegotiateReq req = true →
      ¬ CapsReadable reqData →
      req.sender = σ.peerSeppFqdn
        ∧ ∀ b ∈ req.r3GppSbiTargetApiRootSupported, b = σ.peerTargetApiRootSupported
  | .capabilityResponse respData => respData.isObject = true → ¬ AnswerReadable respData →
      (∀ s, respData.find? (ascii "sender") = some (.str s) → s = σ.peerSeppFqdn)
        ∧ ∀ b, respData.find? (ascii "3GppSbiTargetApiRootSupported") = some (.bool b) →
            b = σ.peerTargetApiRootSupported
  | _ => True

/-- A message that is not accepted leaves the handshake object as it was. -/
def Atomic (E : Platform) (cfg : SeppConfig) (s : PeerState) (e : N32cEvent) : Prop :=
  (n32cMachine E cfg).out s e ≠ .ok true →
    ((n32cMachine E cfg).next s e).handshake = s.handshake

theorem mapM_getString_ok_iff (items : List Json) :
    (∃ l, items.mapM Json.getString = .ok l) ↔ ∀ item ∈ items, ∃ s, item = .str s := by
  induction items with
  | nil => exact iff_of_true ⟨[], rfl⟩ nofun
  | cons item items ih =>
      rw [List.forall_mem_cons, ← ih, List.mapM_cons]
      cases item with
      | str s =>
          cases items.mapM Json.getString with
          | ok l => exact iff_of_true ⟨s :: l, rfl⟩ ⟨⟨s, rfl⟩, l, rfl⟩
          | error e => exact iff_of_false nofun fun h => nomatch h.2
      | _ => exact iff_of_false nofun fun h => nomatch h.1

theorem supportedCaps_ok_iff (reqData : Json) :
    (∃ caps, N32cHandshake.supportedCaps reqData = .ok caps) ↔ CapsReadable reqData := by
  unfold N32cHandshake.supportedCaps CapsReadable
  split
  · rename_i items hfind
    rw [mapM_getString_ok_iff]
    exact ⟨fun h items' hitems' => by simp_all, fun h => h items hfind⟩
  · rename_i hno
    exact iff_of_true ⟨[], rfl⟩ fun items hitems => absurd hitems (hno items)

theorem heard_eq_self_iff {σ : N32cHandshake} {req : SecNegotiateReqData} :
    σ.heard req = σ ↔ req.sender = σ.peerSeppFqdn
      ∧ ∀ b ∈ req.r3GppSbiTargetApiRootSupported, b = σ.peerTargetApiRootSupported := by
  obtain ⟨sender, flag, purposes⟩ := req
  constructor
  · intro h
    refine ⟨congrArg N32cHandshake.peerSeppFqdn h, ?_⟩
    rintro b rfl
    exact congrArg N32cHandshake.peerTargetApiRootSupported h
  · rintro ⟨rfl, hflag⟩
    cases flag with
    | none => rfl
    | some b =>
        obtain rfl := hflag b rfl
        rfl

theorem heardSender_eq_self_iff {σ : N32cHandshake} {respData : Json} {b : Bool} :
    { σ.heardSender respData with peerTargetApiRootSupported := b } = σ ↔
      (∀ s, respData.find? (ascii "sender") = some (.str s) → s = σ.peerSeppFqdn)
        ∧ b = σ.peerTargetApiRootSupported := by
  have hflag : b = σ.peerTargetApiRootSupported →
      { σ with peerTargetApiRootSupported := b } = σ := by
    rintro rfl
    rfl
  unfold N32cHandshake.heardSender
  split
  · rename_i s hs
    rw [hs]
    constructor
    · intro h
      refine ⟨?_, congrArg N32cHandshake.peerTargetApiRootSupported h⟩
      rintro _ ⟨rfl⟩
      exact congrArg N32cHandshake.peerSeppFqdn h
    · rintro ⟨hsender, hb⟩
      obtain rfl := hsender s rfl
      exact hflag hb
  · rename_i hno
    constructor
    · intro h
      exact ⟨fun s hs => absurd hs (hno s),
        congrArg N32cHandshake.peerTargetApiRootSupported h⟩
    · exact fun h => hflag h.2

/-- A flag of another type ends the reading of a response; a boolean is
taken, and a missing one stays what it was. -/
theorem supportedAfter_ok {σ : N32cHandshake} {respData : Json} {b : Bool}
    (h : σ.supportedAfter respData = .ok b) :
    respData.find? (ascii "3GppSbiTargetApiRootSupported") = some (.bool b)
      ∨ respData.find? (ascii "3GppSbiTargetApiRootSupported") = none
        ∧ b = σ.peerTargetApiRootSupported := by
  unfold N32cHandshake.supportedAfter at h
  cases hfind : respData.find? (ascii "3GppSbiTargetApiRootSupported") with
  | none =>
      rw [hfind] at h
      exact Or.inr ⟨rfl, (Except.ok.inj h).symm⟩
  | some v =>
      rw [hfind] at h
      cases v with
      | bool b' => exact Or.inl (congrArg (fun b => some (Json.bool b)) (Except.ok.inj h))
      | _ => cases h

theorem supportedAfter_error {σ : N32cHandshake} {respData : Json} {e : Exn}
    (h : σ.supportedAfter respData = .error e) :
    ∃ v, respData.find? (ascii "3GppSbiTargetApiRootSupported") = some v
      ∧ ∀ b, v ≠ .bool b := by
  unfold N32cHandshake.supportedAfter at h
  cases hfind : respData.find? (ascii "3GppSbiTargetApiRootSupported") with
  | none =>
      rw [hfind] at h
      cases h
  | some v =>
      rw [hfind] at h
      refine ⟨v, rfl, ?_⟩
      rintro b rfl
      cases h

theorem atomic_capabilityRequest_iff (s : PeerState) (reqData : Json) :
    Atomic E cfg s (.capabilityRequest reqData)
      ↔ RepeatsKnown E s.handshake (.capabilityRequest reqData) := by
  rcases next_capabilityRequest_cases E cfg s reqData
    with ⟨-, hnext, hno⟩ | ⟨req, hobj, hreq, hvalid, hnext, ⟨caps, hcaps, hout⟩ | ⟨e, hcaps, hout⟩⟩
  · refine iff_of_true (fun _ => hnext) fun req hobj hreq hvalid => ?_
    exact absurd hvalid (Bool.eq_false_iff.mp (hno req hobj hreq))
  · have hread := (supportedCaps_ok_iff reqData).mp ⟨caps, hcaps⟩
    exact iff_of_true (fun hne => absurd hout hne) fun _ _ _ _ hbad => absurd hread hbad
  · have hbad : ¬ CapsReadable reqData := by
      rw [← supportedCaps_ok_iff, hcaps]
      exact nofun
    have hrefused : (n32cMachine E cfg).out s (.capabilityRequest reqData) ≠ .ok true := by
      rw [hout]
      exact nofun
    simp only [RepeatsKnown, hobj, hreq, Option.some.injEq, forall_true_left, forall_eq',
      hvalid, hbad, not_false_eq_true]
    rw [← heard_eq_self_iff, ← hnext]
    exact imp_iff_right hrefused

/-- A response that is refused once it has been heard: `b` is the flag
afterwards. -/
theorem atomic_iff_of_heard {s : PeerState} {respData : Json} {b : Bool}
    (hobj : respData.isObject = true) (hbad : ¬ AnswerReadable respData)
    (hrefused : (n32cMachine E cfg).out s (.capabilityResponse respData) ≠ .ok true)
    (hnext : ((n32cMachine E cfg).next s (.capabilityResponse respData)).handshake =
      { s.handshake.heardSender respData with peerTargetApiRootSupported := b })
    (hflag : b = s.handshake.peerTargetApiRootSupported ↔
      ∀ b', respData.find? (ascii "3GppSbiTargetApiRootSupported") = some (.bool b') →
        b' = s.handshake.peerTargetApiRootSupported) :
    Atomic E cfg s (.capabilityResponse respData)
      ↔ RepeatsKnown E s.handshake (.capabilityResponse respData) := by
  simp only [Atomic, RepeatsKnown, hrefused, hobj, hbad, hnext, ne_eq, not_false_eq_true,
    forall_true_left]
  rw [heardSender_eq_self_iff, hflag]

theorem atomic_capabilityResponse_iff (s : PeerState) (respData : Json) :
    Atomic E cfg s (.capabilityResponse respData)
      ↔ RepeatsKnown E s.handshake (.capabilityResponse respData) := by
  have hout : (n32cMachine E cfg).out s (.capabilityResponse respData)
      = (s.handshake.handleExchangeCapabilityResponse respData).1 := rfl
  have hnext : ((n32cMachine E cfg).next s (.capabilityResponse respData)).handshake
      = (s.handshake.handleExchangeCapabilityResponse respData).2 := rfl
  rcases N32cHandshake.handleExchangeCapabilityResponse_cases s.handshake respData
    with ⟨h, hobj⟩ | ⟨e, h, hobj, hflag⟩ | ⟨b, hobj, hflag, ⟨hno, h⟩ | ⟨hcap, h⟩⟩
  · refine iff_of_true (fun _ => by rw [hnext, h]) fun hobj' => ?_
    exact absurd (hobj.symm.trans hobj') Bool.false_ne_true
  · -- the flag is of another type, and only the sender has been written
    obtain ⟨v, hv, hother⟩ := supportedAfter_error hflag
    refine atomic_iff_of_heard (b := s.handshake.peerTargetApiRootSupported) hobj
      (fun hread => ?_) ?_ ?_ (iff_of_true rfl fun b hb => ?_)
    · obtain ⟨b, rfl⟩ := hread.1 v hv
      exact hother b rfl
    · rw [hout, h]
      exact nofun
    · rw [hnext, h, ← N32cHandshake.heardSender_flag s.handshake respData]
    · exact absurd (Option.some.inj (hv.symm.trans hb)) (hother b)
  · -- nothing is selected, and sender and flag have been written
    refine atomic_iff_of_heard hobj (fun hread => ?_) ?_ (hnext.trans (congrArg Prod.snd h)) ?_
    · obtain ⟨cap, hcap⟩ := hread.2
      exact hno cap hcap
    · rw [hout, h]
      exact nofun
    · rcases supportedAfter_ok hflag with hfind | ⟨hfind, rfl⟩
      · simp [hfind]
      · simp [hfind]
  · have hread : AnswerReadable respData := by
      refine ⟨fun v hv => ?_, hcap⟩
      rcases supportedAfter_ok hflag with hfind | ⟨hfind, -⟩
      · exact ⟨b, Option.some.inj (hv.symm.trans hfind)⟩
      · exact absurd (hfind.symm.trans hv) nofun
    refine iff_of_true (fun hne => absurd ?_ hne) fun _ hbad => absurd hread hbad
    rw [hout, h]

/-- Which messages are handled atomically, in any state. -/
theorem fails_atomically_iff (s : PeerState) (e : N32cEvent) :
    Atomic E cfg s e ↔ RepeatsKnown E s.handshake e := by
  cases e with
  | capabilityRequest reqData => exact atomic_capabilityRequest_iff s reqData
  | capabilityResponse respData => exact atomic_capabilityResponse_iff s respData
  | createParams uuid => exact iff_of_true (fun hne => absurd rfl hne) trivial
  | paramsRequest uuid reqData =>
      refine iff_of_true (fun hne => ?_) trivial
      rcases next_paramsRequest E cfg s uuid reqData
        with ⟨-, -, -, hout, -⟩ | ⟨-, hnext, -⟩
      · exact absurd hout hne
      · exact hnext
  | paramsResponse respData =>
      refine iff_of_true (fun hne => ?_) trivial
      rcases next_paramsResponse E cfg s respData
        with ⟨-, -, -, hout, -⟩ | ⟨-, hnext, -⟩
      · exact absurd hout hne
      · exact hnext
  | sendTerminate => exact iff_of_true (fun _ => next_sendTerminate E cfg s) trivial
  | terminateRequest reqData =>
      refine iff_of_true (fun hne => ?_) trivial
      rcases next_terminateRequest E cfg s reqData
        with ⟨-, -, -, hout, -⟩ | ⟨-, hnext⟩
      · exact absurd hout hne
      · exact hnext
  | terminateAnswer k answer =>
      refine iff_of_true (fun hne => ?_) trivial
      rcases next_terminateAnswer E cfg s k answer
        with ⟨⟨id, hid⟩, hst, -⟩ | ⟨-, hnext⟩
      · refine absurd ?_ hne
        simp only [n32cMachine, hid, SeppApp.adoptTerminateAnswer, if_pos hst]
        rfl
      · exact hnext
  | error reqData => exact iff_of_true (fun _ => next_error E cfg s reqData) trivial

end Runs

/-! ### Messages of a peer -/

abbrev peerMachine : Machine PeerState N32cEvent (Except Exn Bool) :=
  n32cMachine Reference.platform Reference.config

def peerContext : Uuid := { text := ascii "c0", nonempty := List.cons_ne_nil _ _ }

/-- A request to use the context, with the JWE suites offered. -/
def peerParams (id : Str) (offered : List Str) : N32cEvent :=
  .paramsRequest peerContext (Reference.platform.secParamExchReq.toJson
    { n32fContextId := id
      sender := ascii "sepp"
      jweCipherSuiteList := some offered
      jwsCipherSuiteList := none
      protectionPolicyInfo := none })

/-- The suite `NULL` stands first in the list, and is selected. -/
theorem not_negotiatesSoundly_null :
    ¬ peerMachine.Guarded (NegotiatesSoundly Reference.platform Reference.config)
        (.fresh (ascii "PRINS"))
        [peerParams (ascii "c1") [ascii "NULL", ascii "A128GCM"]] := by
  rintro ⟨⟨hsupported, -⟩, -⟩
  have hnull : ascii "NULL" ∈ supportedJwe := hsupported.1
  revert hnull
  decide

/-- The context `c2` is negotiated while the answer about `c1` is awaited,
and is dropped by it. -/
theorem not_terminatedByName_renegotiated :
    ¬ peerMachine.Guarded (TerminatedByName Reference.platform Reference.config)
        (.fresh (ascii "PRINS"))
        [peerParams (ascii "c1") [], .sendTerminate, peerParams (ascii "c2") [],
          .terminateAnswer 0 { statusCode := 204, headers := ∅, body := [] }] := by
  rintro ⟨-, -, -, hlast, -⟩
  have hterminates := hlast (List.cons_ne_nil _ _) rfl
  have hpending : ascii "c1" = ascii "c2" := Option.some.inj hterminates.1
  revert hpending
  decide

/-- A response without a selection is refused, and its sender is kept. -/
theorem not_atomic_noSelection :
    ¬ Atomic Reference.platform Reference.config (.fresh (ascii "PRINS"))
        (.capabilityResponse (.obj [(ascii "sender", .str (ascii "peer"))])) := by
  intro h
  have hsame := h nofun
  have hfqdn : ascii "peer" = [] := congrArg N32cHandshake.peerSeppFqdn hsame
  exact absurd hfqdn (List.cons_ne_nil _ _)

end Sepp
