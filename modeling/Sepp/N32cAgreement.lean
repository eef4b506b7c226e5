import Sepp.Machine
import Sepp.SeppApp

/-!
# Agreement on the N32-f context

Two handshake objects that exchange complete round trips, started by
either of them in any order, always hold the same context id and the same
selected suites.

The argument is a simulation. `Session` is what the two are meant to have
in common, with a transition for each kind of round trip that does not
mention who started it; `perform_session` shows that a round trip takes
two objects with the same session to two objects with its successor, and
`Machine.simulates` carries this over whole runs.
-/

namespace Sepp

/-! ## The shared session -/

/-- What both ends of a handshake are meant to hold. -/
structure Session where
  contextId : Str
  jweCipher : Str
  jwsCipher : Str

inductive RoundTrip where
  | capability
  /-- The UUIDs each end would generate, the starting one's first. -/
  | params (uuid uuid' : Uuid)
  | terminate

namespace Session

def initial : Session :=
  { contextId := [], jweCipher := ascii "A128GCM", jwsCipher := ascii "ES256" }

def next (s : Session) : RoundTrip → Session
  | .capability => s
  | .params uuid _ =>
      { contextId := if s.contextId = [] then uuid.text else s.contextId
        jweCipher := ascii "A128GCM"
        jwsCipher := ascii "ES256" }
  | .terminate => { s with contextId := [] }

theorem next_params_ne_nil (s : Session) (uuid uuid' : Uuid) :
    (s.next (.params uuid uuid')).contextId ≠ [] := by
  simp only [next]
  split
  · exact uuid.nonempty
  · assumption

end Session

namespace N32cHandshake

def session (σ : N32cHandshake) : Session :=
  { contextId := σ.n32cContextId
    jweCipher := σ.selectedJweCipher
    jwsCipher := σ.selectedJwsCipher }

/-! ## Round trips of the code -/

/-- What a round trip leaves of its initiator and its responder, and
whether it was started and accepted on both ends. -/
structure Trip where
  initiator : N32cHandshake
  responder : N32cHandshake
  completed : Bool

def perform (E : Platform) (cfg : SeppConfig) (i r : N32cHandshake) : RoundTrip → Trip
  | .capability =>
      let h := r.handleExchangeCapabilityRequest E cfg (i.createExchangeCapabilityReq E)
        .null ∅
      match h.ret with
      | .ok true =>
          let (ret, i') := i.handleExchangeCapabilityResponse h.respData
          { initiator := i', responder := h.state, completed := ret.toOption.getD false }
      | _ => { initiator := i, responder := h.state, completed := false }
  | .params uuid uuid' =>
      let (i', req) := i.createExchangeParamsReq E uuid
      let h := r.handleExchangeParams E cfg uuid' req .null ∅
      match h.ret with
      | .ok true =>
          let (ret, i'') := i'.handleExchangeParamsResponse E h.respData
          { initiator := i'', responder := h.state, completed := ret }
      | _ => { initiator := i', responder := h.state, completed := false }
  | .terminate =>
      match i.createN32fTerminateReq E with
      | none => { initiator := i, responder := r, completed := false }
      | some req =>
          let h := r.handleN32fTerminateReq E req .null ∅
          match h.ret with
          | .ok true =>
              let (ret, i') := i.handleN32fTerminateResponse h.respData
              { initiator := i', responder := h.state, completed := ret }
          | _ => { initiator := i, responder := h.state, completed := false }

section Trips

variable {E : Platform} {cfg : SeppConfig} {i r : N32cHandshake} {s : Session}

/-- A capability exchange writes what each end knows of the other, and
nothing else. -/
theorem perform_capability_frame (E : Platform) (cfg : SeppConfig) (i r : N32cHandshake) :
    ∃ iFqdn iFlag purposes rFqdn rFlag,
      (perform E cfg i r .capability).initiator =
        { i with
          peerSeppFqdn := iFqdn
          peerTargetApiRootSupported := iFlag
          allowedN32Purposes := purposes }
      ∧ (perform E cfg i r .capability).responder =
        { r with peerSeppFqdn := rFqdn, peerTargetApiRootSupported := rFlag } := by
  obtain ⟨fqdn, flag, hr⟩ := handleExchangeCapabilityRequest_frame E cfg r
    (i.createExchangeCapabilityReq E) .null ∅
  simp only [perform]
  split
  · obtain ⟨fqdn', flag', purposes, hi⟩ := handleExchangeCapabilityResponse_frame i
      (r.handleExchangeCapabilityRequest E cfg (i.createExchangeCapabilityReq E)
        .null ∅).respData
    exact ⟨fqdn', flag', purposes, fqdn, flag, hi, hr⟩
  · exact ⟨i.peerSeppFqdn, i.peerTargetApiRootSupported, i.allowedN32Purposes, fqdn, flag,
      rfl, hr⟩

theorem perform_capability (hi : i.session = s) (hr : r.session = s) :
    (perform E cfg i r .capability).initiator.session = s
      ∧ (perform E cfg i r .capability).responder.session = s := by
  obtain ⟨_, _, _, _, _, hi', hr'⟩ := perform_capability_frame E cfg i r
  rw [hi', hr']
  exact ⟨hi, hr⟩

theorem handleExchangeParamsResponse_toJson (σ : N32cHandshake) (rsp : SecParamExchRspData) :
    handleExchangeParamsResponse E σ (E.secParamExchRsp.toJson rsp) =
      (true, adoptParamsResponse σ rsp) := by
  have hv := validateHandshakeRequest_iff.mpr (E.secParamExchRsp.isObject_toJson rsp)
  simp only [handleExchangeParamsResponse, hv, E.secParamExchRsp.fromJson_toJson,
    Bool.not_true, Bool.false_eq_true, if_false, adoptParamsResponse]

theorem handleN32fTerminateReq_toJson (σ : N32cHandshake) (info : N32fContextInfo) :
    handleN32fTerminateReq E σ (E.contextInfo.toJson info) .null ∅ =
      { ret := .ok true
        state := dropContext σ info.n32fContextId
        respData := E.contextInfo.toJson { n32fContextId := info.n32fContextId }
        respHeaders := HeaderMap.insertAll ∅ [⟨sbiTargetApiRootHeader, headerValueYes⟩] } := by
  have hv := validateHandshakeRequest_iff.mpr (E.contextInfo.isObject_toJson info)
  simp only [handleN32fTerminateReq, hv, E.contextInfo.fromJson_toJson,
    Bool.not_true, Bool.false_eq_true, if_false]
  rfl

/-- The request names a context, the responder adopts it and answers with
it, and the initiator adopts the answer. -/
theorem perform_params (hi : i.session = s) (uuid uuid' : Uuid) :
    (perform E cfg i r (.params uuid uuid')).initiator.session = s.next (.params uuid uuid')
      ∧ (perform E cfg i r (.params uuid uuid')).responder.session
          = s.next (.params uuid uuid')
      ∧ (perform E cfg i r (.params uuid uuid')).completed = true := by
  have hid : i.n32cContextId = s.contextId := congrArg Session.contextId hi
  have hne := s.next_params_ne_nil uuid uuid'
  have hcreated : (i.createExchangeParamsReq E uuid).1.n32cContextId
      = (s.next (.params uuid uuid')).contextId := by
    simp only [createExchangeParamsReq, Session.next, ← hid]
    split <;> rfl
  have hnext : s.next (.params uuid uuid') =
      { contextId := (s.next (.params uuid uuid')).contextId
        jweCipher := ascii "A128GCM"
        jwsCipher := ascii "ES256" } := rfl
  generalize (s.next (.params uuid uuid')).contextId = c at hne hcreated hnext
  have hreq : (i.createExchangeParamsReq E uuid).2 = E.secParamExchReq.toJson
      { n32fContextId := c
        sender := (i.createExchangeParamsReq E uuid).1.senderFqdn
        jweCipherSuiteList := some [ascii "A128GCM", ascii "A256GCM"]
        jwsCipherSuiteList := some [ascii "ES256", ascii "RS256"]
        protectionPolicyInfo := some emptyPolicy } := by
    rw [← hcreated]
    rfl
  simp only [perform, hreq, handleExchangeParams_toJson, handleExchangeParamsResponse_toJson,
    hnext]
  refine ⟨?_, ?_, trivial⟩
  · simp [session, adoptParams, adoptParamsResponse, selectSuite, hne]
  · simp [session, adoptParams, selectSuite, hne]

theorem perform_terminate (hi : i.session = s) (hr : r.session = s) :
    (perform E cfg i r .terminate).initiator.session = s.next .terminate
      ∧ (perform E cfg i r .terminate).responder.session = s.next .terminate
      ∧ ((perform E cfg i r .terminate).completed = true ↔ s.contextId ≠ []) := by
  have hid : i.n32cContextId = s.contextId := congrArg Session.contextId hi
  have hrid : r.n32cContextId = s.contextId := congrArg Session.contextId hr
  by_cases hnil : s.contextId = []
  · have hnone : i.createN32fTerminateReq E = none := if_pos (hid.trans hnil)
    have hsame : s.next .terminate = s := by
      obtain ⟨c, jwe, jws⟩ := s
      cases hnil
      rfl
    simp only [perform, hnone, hsame]
    exact ⟨hi, hr, by simp [hnil]⟩
  · have hsome : i.createN32fTerminateReq E
        = some (E.contextInfo.toJson { n32fContextId := r.n32cContextId }) := by
      rw [hrid, ← hid]
      exact if_neg (by rw [hid]; exact hnil)
    simp only [perform, hsome, handleN32fTerminateReq_toJson, handleN32fTerminateResponse]
    refine ⟨?_, ?_, by simp [hnil]⟩
    · rw [← hi]
      rfl
    · obtain ⟨hjwe, hjws⟩ := dropContext_suites (σ := r) r.n32cContextId
      rw [← hr]
      simp only [session, dropContext_self, hjwe, hjws, Session.next]

/-- A round trip keeps the two ends in step with the session. -/
theorem perform_session (hi : i.session = s) (hr : r.session = s) (t : RoundTrip) :
    (perform E cfg i r t).initiator.session = s.next t
      ∧ (perform E cfg i r t).responder.session = s.next t := by
  cases t with
  | capability => exact perform_capability hi hr
  | params uuid uuid' =>
      obtain ⟨hi', hr', -⟩ := perform_params (E := E) (r := r) hi uuid uuid'
      exact ⟨hi', hr'⟩
  | terminate =>
      obtain ⟨hi', hr', -⟩ := perform_terminate (E := E) hi hr
      exact ⟨hi', hr'⟩

end Trips

end N32cHandshake

/-! ## Runs -/

/-- The two ends of a handshake. -/
structure Ends where
  a : N32cHandshake
  b : N32cHandshake

inductive Side where
  | a | b

/-- Two SEPPs that exchange complete round trips; the output is whether the
round trip was completed. -/
def handshakeMachine (E : Platform) (cfg : Side → SeppConfig) :
    Machine Ends (Side × RoundTrip) Bool where
  next p e :=
    match e.1 with
    | .a =>
        let t := N32cHandshake.perform E (cfg .b) p.a p.b e.2
        { a := t.initiator, b := t.responder }
    | .b =>
        let t := N32cHandshake.perform E (cfg .a) p.b p.a e.2
        { a := t.responder, b := t.initiator }
  out p e :=
    match e.1 with
    | .a => (N32cHandshake.perform E (cfg .b) p.a p.b e.2).completed
    | .b => (N32cHandshake.perform E (cfg .a) p.b p.a e.2).completed

def sessionMachine : Machine Session (Side × RoundTrip) Unit where
  next s e := s.next e.2
  out _ _ := ()

/-- Both ends hold the session. -/
def InSession (p : Ends) (s : Session) : Prop := p.a.session = s ∧ p.b.session = s

theorem inSession_next (E : Platform) (cfg : Side → SeppConfig) (p : Ends) (s : Session)
    (e : Side × RoundTrip) (h : InSession p s) :
    InSession ((handshakeMachine E cfg).next p e) (sessionMachine.next s e) := by
  obtain ⟨ha, hb⟩ := h
  obtain ⟨side, t⟩ := e
  cases side with
  | a => exact N32cHandshake.perform_session ha hb t
  | b => exact (N32cHandshake.perform_session hb ha t).symm

/-- Two freshly constructed ends, whatever capability they are configured
with. -/
def freshEnds (capA capB : Str) : Ends :=
  { a := { selectedSecCapability := capA }, b := { selectedSecCapability := capB } }

theorem inSession_run {E : Platform} {cfg : Side → SeppConfig} (capA capB : Str)
    (es : List (Side × RoundTrip)) :
    InSession ((handshakeMachine E cfg).run (freshEnds capA capB) es)
      (sessionMachine.run Session.initial es) :=
  Machine.simulates (inSession_next E cfg) ⟨rfl, rfl⟩ es

/-- After any run of round trips the two ends agree. An exchange of
parameters is always completed and leaves a context; a termination is
completed whenever there is a context, and leaves none. -/
theorem handshake_agreement (E : Platform) (cfg : Side → SeppConfig) (capA capB : Str)
    (es : List (Side × RoundTrip)) :
    let M := handshakeMachine E cfg
    let p := M.run (freshEnds capA capB) es
    p.a.n32cContextId = p.b.n32cContextId
      ∧ p.a.selectedJweCipher = p.b.selectedJweCipher
      ∧ p.a.selectedJwsCipher = p.b.selectedJwsCipher
      ∧ (∀ side uuid uuid', M.out p (side, .params uuid uuid') = true
          ∧ (M.next p (side, .params uuid uuid')).a.n32cContextId ≠ [])
      ∧ (∀ side, (M.out p (side, .terminate) = true ↔ p.a.n32cContextId ≠ [])
          ∧ (M.next p (side, .terminate)).a.n32cContextId = []) := by
  intro M p
  have hp : InSession p (sessionMachine.run Session.initial es) := inSession_run capA capB es
  generalize sessionMachine.run Session.initial es = s at hp
  have hid : p.a.n32cContextId = s.contextId := congrArg Session.contextId hp.1
  refine ⟨hid.trans (congrArg Session.contextId hp.2).symm,
    (congrArg Session.jweCipher hp.1).trans (congrArg Session.jweCipher hp.2).symm,
    (congrArg Session.jwsCipher hp.1).trans (congrArg Session.jwsCipher hp.2).symm,
    fun side uuid uuid' => ⟨?_, ?_⟩, fun side => ⟨?_, ?_⟩⟩
  · cases side with
    | a => exact (N32cHandshake.perform_params hp.1 uuid uuid').2.2
    | b => exact (N32cHandshake.perform_params hp.2 uuid uuid').2.2
  · have hnext := (inSession_next E cfg p s (side, .params uuid uuid') hp).1
    rw [show (M.next p (side, .params uuid uuid')).a.n32cContextId = _ from
      congrArg Session.contextId hnext]
    exact s.next_params_ne_nil uuid uuid'
  · rw [hid]
    cases side with
    | a => exact (N32cHandshake.perform_terminate hp.1 hp.2).2.2
    | b => exact (N32cHandshake.perform_terminate hp.2 hp.1).2.2
  · have hnext := (inSession_next E cfg p s (side, .terminate) hp).1
    exact congrArg Session.contextId hnext

end Sepp
