import Sepp.ContextRuns
import Sepp.N32cRuns
import Sepp.NbiResources

/-!
# Runs of the NBI server

What peers can bring about with any sequence of HTTP requests, whatever
they send, in whatever order, and whichever of them sends it.

- `nbi_simulates_n32c`: on the handshake object a run of requests is a run
  of N32-c messages, so what holds of those holds of the traffic that is
  really received.
- `refused_run`: requests that are not accepted leave nothing behind but
  what is known of the peer.
- `replies_of_run`: the reply after any run, by what was accepted.
- `context_of_run`: the context is that of the last request that set or
  dropped it.
-/

namespace Sepp

namespace SeppApp

/-- The application without what a capability request leaves of its sender. -/
def forgetPeer (s : SeppApp) : SeppApp :=
  { s with handshake :=
    { s.handshake with peerSeppFqdn := [], peerTargetApiRootSupported := false } }

/-- The application without what a handshake leaves. -/
def forgetNegotiated (s : SeppApp) : SeppApp :=
  { s with handshake :=
    { s.handshake with
      n32cContextId := []
      peerSeppFqdn := []
      peerTargetApiRootSupported := false
      selectedJweCipher := []
      selectedJwsCipher := [] } }

end SeppApp

/-! ## What a handler does -/

/-- What a message does to the context: it brings an id, with the one that
is generated where it names none, or it asks to drop one. -/
inductive ContextOp where
  | adopt (named generated : Str)
  | drop (named : Str)

def Resource.contextOps (E : Platform) (C : Checks) (uuid : Uuid) (j : Json) :
    Resource → List ContextOp
  | exchangeParams =>
      if j.isObject then
        (E.secParamExchReq.fromJson j).toList.map fun req => .adopt req.n32fContextId uuid.text
      else []
  | n32fTerminate =>
      if j.isObject then
        ((E.contextInfo.fromJson j).filter C.contextInfo).toList.map fun context =>
          .drop context.n32fContextId
      else []
  | _ => []

section Handlers

variable (E : Platform) (C : Checks) (cfg : SeppConfig) (a : Ambient) (s : SeppApp) (j : Json)

/-- An exchange-params request changes nothing, or its parameters are
adopted. -/
theorem exchangeParamsHandler_cases :
    let h := NbiServer.exchangeParamsHandler E cfg a s j
    (h.1 = s ∧ Resource.exchangeParams.contextOps E C a.uuid j = [])
    ∨ h.2.ret = .ok true ∧ ∃ req,
        h.1 = { s with handshake := N32cHandshake.adoptParams a.uuid s.handshake req }
        ∧ Resource.exchangeParams.contextOps E C a.uuid j
            = [.adopt req.n32fContextId a.uuid.text] := by
  simp only [NbiServer.exchangeParamsHandler, Resource.contextOps]
  cases hreq : E.secParamExchReq.fromJson j with
  | none => exact Or.inl ⟨rfl, ite_self _⟩
  | some req =>
      rcases @N32cHandshake.handleExchangeParams_cases E cfg a.uuid s.handshake j .null ∅
        with ⟨req', hreq', hobj, hret, hstate⟩ | ⟨-, hstate, hnone⟩
      · rw [hreq] at hreq'
        obtain rfl := Option.some.inj hreq'
        refine Or.inr ⟨hret, req, ?_, if_pos hobj⟩
        simp only [NbiServer.ofN32c, SeppApp.handleExchangeParams, hstate]
      · refine Or.inl ⟨?_, if_neg fun hobj => hnone req hobj hreq⟩
        simp only [NbiServer.ofN32c, SeppApp.handleExchangeParams, hstate]

/-- A terminate request changes nothing, or it passes its checks and drops the
context it names. -/
theorem n32fTerminateHandler_cases :
    let h := NbiServer.n32fTerminateHandler E C s j
    (h.1 = s ∧ Resource.n32fTerminate.contextOps E C a.uuid j = [])
    ∨ h.2.ret = .ok true ∧ ∃ context : N32fContextInfo,
        h.1 = { s with handshake := s.handshake.dropContext context.n32fContextId }
        ∧ Resource.n32fTerminate.contextOps E C a.uuid j = [.drop context.n32fContextId] := by
  simp only [NbiServer.n32fTerminateHandler, Resource.contextOps]
  cases hcontext : E.contextInfo.fromJson j with
  | none => exact Or.inl ⟨rfl, ite_self _⟩
  | some context =>
      by_cases hvalid : C.contextInfo context = true
      · have hkept : (some context).filter C.contextInfo = some context := by
          rw [Option.filter_some, if_pos hvalid]
        simp only [if_pos hvalid, hkept]
        rcases @N32cHandshake.handleN32fTerminateReq_cases E s.handshake j .null ∅
          with ⟨context', hcontext', hobj, hret, hstate⟩ | ⟨hret, hstate⟩
        · rw [hcontext] at hcontext'
          obtain rfl := Option.some.inj hcontext'
          refine Or.inr ⟨hret, context, ?_, if_pos hobj⟩
          simp only [NbiServer.ofN32c, SeppApp.handleN32fTerminateReq, hstate]
        · refine Or.inl ⟨?_, if_neg fun hobj => ?_⟩
          · simp only [NbiServer.ofN32c, SeppApp.handleN32fTerminateReq, hstate]
          · have hv := N32cHandshake.validateHandshakeRequest_iff.mpr hobj
            simp [N32cHandshake.handleN32fTerminateReq, hv, hcontext] at hret
      · have hdropped : (some context).filter C.contextInfo = none := by
          rw [Option.filter_some, if_neg hvalid]
        simp only [if_neg hvalid, hdropped]
        exact Or.inl ⟨rfl, ite_self _⟩

/-- What a handler can do to the application. -/
theorem handler_cases (r : Resource) :
    let h := r.handler E C cfg a s j
    (h.1 = s ∧ r.contextOps E C a.uuid j = [])
    ∨ (r.contextOps E C a.uuid j = [] ∧ ∃ fqdn flag, h.1 = { s with handshake :=
        { s.handshake with peerSeppFqdn := fqdn, peerTargetApiRootSupported := flag } })
    ∨ (h.2.ret = .ok true ∧ ∃ req,
        h.1 = { s with handshake := N32cHandshake.adoptParams a.uuid s.handshake req }
        ∧ r.contextOps E C a.uuid j = [.adopt req.n32fContextId a.uuid.text])
    ∨ (h.2.ret = .ok true ∧ ∃ context : N32fContextInfo,
        h.1 = { s with handshake := s.handshake.dropContext context.n32fContextId }
        ∧ r.contextOps E C a.uuid j = [.drop context.n32fContextId]) := by
  cases r with
  | exchangeCapability =>
      obtain ⟨fqdn, flag, hframe⟩ :=
        N32cHandshake.handleExchangeCapabilityRequest_frame E cfg s.handshake j .null ∅
      refine Or.inr (Or.inl ⟨rfl, fqdn, flag, ?_⟩)
      simp only [Resource.handler, NbiServer.exchangeCapabilityHandler, NbiServer.ofN32c,
        SeppApp.handleExchangeCapabilityRequest, hframe]
  | exchangeParams =>
      rcases exchangeParamsHandler_cases E C cfg a s j with hsame | hadopt
      · exact Or.inl hsame
      · exact Or.inr (Or.inr (Or.inl hadopt))
  | n32fTerminate =>
      rcases n32fTerminateHandler_cases E C a s j with hsame | hdrop
      · exact Or.inl hsame
      · exact Or.inr (Or.inr (Or.inr hdrop))
  | n32fError =>
      refine Or.inl ⟨?_, rfl⟩
      simp only [Resource.handler, NbiServer.n32fErrorHandler, NbiServer.ofN32c,
        SeppApp.handleN32fError, N32cHandshake.handleN32fError_state]
  | n32fProcess =>
      refine Or.inl ⟨?_, rfl⟩
      simp only [Resource.handler, NbiServer.n32fProcessHandler]
      split
      · rfl
      · split <;> rfl
  | root => exact Or.inl ⟨rfl, rfl⟩

/-- No handler writes more than a handshake leaves. -/
theorem handler_forgetNegotiated (r : Resource) :
    (r.handler E C cfg a s j).1.forgetNegotiated = s.forgetNegotiated := by
  rcases handler_cases E C cfg a s j r with ⟨h, -⟩ | ⟨-, fqdn, flag, h⟩ | ⟨-, req, h, -⟩
    | ⟨-, context, h, -⟩
  · rw [h]
  · rw [h]
    rfl
  · rw [h]
    rfl
  · rw [h]
    unfold N32cHandshake.dropContext
    split <;> rfl

/-- A handler that does not return true leaves at most what is known of the
sender. -/
theorem handler_refused (r : Resource) (href : (r.handler E C cfg a s j).2.ret ≠ .ok true) :
    (r.handler E C cfg a s j).1.forgetPeer = s.forgetPeer := by
  rcases handler_cases E C cfg a s j r with ⟨h, -⟩ | ⟨-, fqdn, flag, h⟩ | ⟨hret, -⟩ | ⟨hret, -⟩
  · rw [h]
  · rw [h]
    rfl
  · exact absurd hret href
  · exact absurd hret href

end Handlers

/-! ## The server as a machine -/

def nbiMachine (E : Platform) (C : Checks) (cfg : SeppConfig) :
    Machine (Option SeppApp) (Ambient × NbiRequest) NbiHandled where
  next inst e := (NbiServer.serve E C cfg inst e.1 e.2).inst
  out inst e := (NbiServer.serve E C cfg inst e.1 e.2).toNbiHandled

section Runs

variable (E : Platform) (C : Checks) (cfg : SeppConfig)

theorem nbi_next (inst : Option SeppApp) (e : Ambient × NbiRequest) :
    (nbiMachine E C cfg).next inst e = (NbiServer.serve E C cfg inst e.1 e.2).inst := rfl

/-- A request changes nothing, or what its handler changes. -/
theorem nbi_next_cases (inst : Option SeppApp) (e : Ambient × NbiRequest) :
    (nbiMachine E C cfg).next inst e = inst
    ∨ ∃ s j, inst = some s
      ∧ (Resource.ofPath e.2.path).accepts e.2.method
      ∧ (Resource.ofPath e.2.path).message E e.2 = .ok j
      ∧ (nbiMachine E C cfg).next inst e
          = some ((Resource.ofPath e.2.path).handler E C cfg e.1 s j).1 := by
  rcases NbiServer.serve_cases E C cfg inst e.1 e.2 with ⟨-, hinst, -⟩ | ⟨-, -, hinst, -⟩
    | ⟨-, s, what, -, -, hinst, -⟩ | ⟨hacc, s, j, hs, hj, hinst, -⟩
  · exact Or.inl hinst
  · exact Or.inl hinst
  · exact Or.inl hinst
  · exact Or.inr ⟨s, j, hs, hacc, hj, hinst⟩

/-- The request is not accepted. -/
def Refused (E : Platform) (C : Checks) (cfg : SeppConfig) (inst : Option SeppApp)
    (e : Ambient × NbiRequest) : Prop := ¬ NbiServer.Accepted E C cfg inst e.1 e.2

theorem forgetPeer_next {inst : Option SeppApp} {e : Ambient × NbiRequest}
    (h : Refused E C cfg inst e) :
    ((nbiMachine E C cfg).next inst e).map SeppApp.forgetPeer
      = inst.map SeppApp.forgetPeer := by
  rcases nbi_next_cases E C cfg inst e with hsame | ⟨s, j, rfl, hacc, hj, hnext⟩
  · rw [hsame]
  · have hret : ((Resource.ofPath e.2.path).handler E C cfg e.1 s j).2.ret ≠ .ok true := by
      intro hret
      exact h ⟨hacc, s, j, rfl, hj, hret⟩
    rw [hnext, Option.map_some, Option.map_some, handler_refused E C cfg _ _ _ _ hret]

/-- Requests of which none is accepted leave nothing behind but what is
known of the peer. -/
theorem refused_run {inst : Option SeppApp} {es : List (Ambient × NbiRequest)}
    (h : (nbiMachine E C cfg).Guarded (Refused E C cfg) inst es) :
    ((nbiMachine E C cfg).run inst es).map SeppApp.forgetPeer
      = inst.map SeppApp.forgetPeer :=
  Machine.inv_of_guarded
    (I := fun inst' : Option SeppApp =>
      inst'.map SeppApp.forgetPeer = inst.map SeppApp.forgetPeer)
    (fun _ _ hI hrefused => (forgetPeer_next E C cfg hrefused).trans hI) rfl h

/-- A capability request whose list holds no string. -/
def unreadableCapability : Json :=
  .obj [(ascii "sender", .str (ascii "peer")),
    (ascii "supportedSecCapabilityList", .arr [.null])]

def sampleCapability : NbiRequest :=
  { method := ascii "POST"
    path := Resource.exchangeCapability.pattern
    rawQuery := []
    headers := ∅
    body := JsonText.write unreadableCapability }

theorem message_sampleCapability : (Resource.ofPath sampleCapability.path).message
    Reference.platform sampleCapability = .ok unreadableCapability := by
  rw [show sampleCapability.path = Resource.exchangeCapability.pattern from rfl,
    Resource.ofPath_pattern]
  exact Reference.parse_write (by decide +kernel)

/-- The handler throws at the list after it has read the sender, and a method
is refused after that. -/
theorem refused_run_capability :
    let inst := (nbiMachine Reference.platform NbiServer.lenient Reference.config).run
      (some sampleStart) [(NbiServer.sampleAmbient, sampleCapability),
        (NbiServer.sampleAmbient, NbiServer.sampleOptions)]
    inst.map SeppApp.forgetPeer = some sampleStart.forgetPeer := by
  intro inst
  refine refused_run _ _ _ ⟨?_, ?_, trivial⟩
  · rintro ⟨-, s, j, -, hj, hret⟩
    obtain rfl := Except.ok.inj (message_sampleCapability.symm.trans hj)
    rw [show sampleCapability.path = Resource.exchangeCapability.pattern from rfl,
      Resource.ofPath_pattern] at hret
    cases hret
  · rintro ⟨haccepts, -⟩
    exact absurd haccepts (by decide +kernel)

/-! ## The replies of a run -/

/-- No request starts or ends the application. -/
theorem nbi_run_none (inst : Option SeppApp) (es : List (Ambient × NbiRequest)) :
    (nbiMachine E C cfg).run inst es = none ↔ inst = none := by
  refine Machine.inv_run (I := fun inst' : Option SeppApp => inst' = none ↔ inst = none) ?_
    Iff.rfl es
  intro inst' e h
  rcases nbi_next_cases E C cfg inst' e with hsame | ⟨s, j, rfl, -, -, hnext⟩
  · rw [hsame]
    exact h
  · rw [hnext]
    exact ⟨fun hnone => (Option.some_ne_none _ hnone).elim,
      fun hnone => (Option.some_ne_none _ (h.mpr hnone)).elim⟩

/-- The reply to a request after any run is a JSON text: a refusal of the
method, the report that there was no application from the start, a success
for a request that is accepted, and the report of a bad request for any
other. A request is left without a reply only where the report itself cannot
be written. -/
theorem replies_of_run (inst : Option SeppApp) (es : List (Ambient × NbiRequest))
    (e : Ambient × NbiRequest) :
    let before := (nbiMachine E C cfg).run inst es
    let handled := (nbiMachine E C cfg).out before e
    let accepts := (Resource.ofPath e.2.path).accepts e.2.method
    (∀ reply, handled.reply = .ok reply →
        (¬ accepts ∧ NbiServer.IsProblem E 405 reply)
        ∨ (accepts ∧ inst = none ∧ NbiServer.IsProblem E 503 reply)
        ∨ (accepts ∧ inst ≠ none ∧ Refused E C cfg before e ∧ NbiServer.IsProblem E 400 reply)
        ∨ (¬ Refused E C cfg before e ∧ NbiServer.IsSuccess E reply))
      ∧ ∀ err, handled.reply = .error err → NbiServer.UnwritableProblem E err := by
  intro before handled accepts
  have hnone : before = none ↔ inst = none := nbi_run_none E C cfg inst es
  obtain ⟨hok, herror⟩ := NbiServer.serve_reply E C cfg before e.1 e.2
  refine ⟨fun reply hreply => ?_, herror⟩
  rcases hok reply hreply with ⟨hno, hproblem⟩ | ⟨hacc, hinst, hproblem⟩
    | ⟨hacc, hinst, hno, hproblem⟩ | ⟨htaken, hsuccess⟩
  · exact Or.inl ⟨hno, hproblem⟩
  · exact Or.inr (Or.inl ⟨hacc, hnone.mp hinst, hproblem⟩)
  · exact Or.inr (Or.inr (Or.inl ⟨hacc, fun h => hinst (hnone.mpr h), hno, hproblem⟩))
  · exact Or.inr (Or.inr (Or.inr ⟨not_not_intro htaken, hsuccess⟩))

/-- The options are among the methods the list of APIs names, and refused. -/
theorem replies_of_run_options : ∃ reply,
    ((nbiMachine Reference.platform NbiServer.lenient Reference.config).out
        ((nbiMachine Reference.platform NbiServer.lenient Reference.config).run (some sampleStart)
          [(NbiServer.sampleAmbient, NbiServer.sampleOptions)])
        (NbiServer.sampleAmbient, NbiServer.sampleOptions)).reply = .ok reply
      ∧ NbiServer.IsProblem Reference.platform 405 reply := by
  have hrefused : ¬ (Resource.ofPath NbiServer.sampleOptions.path).accepts
      NbiServer.sampleOptions.method := by
    decide +kernel
  obtain ⟨hok, -⟩ := replies_of_run Reference.platform NbiServer.lenient Reference.config
    (some sampleStart) [(NbiServer.sampleAmbient, NbiServer.sampleOptions)]
    (NbiServer.sampleAmbient, NbiServer.sampleOptions)
  refine ⟨_, rfl, ?_⟩
  rcases hok _ rfl with ⟨-, h⟩ | ⟨hacc, -⟩ | ⟨hacc, -⟩ | ⟨htaken, -⟩
  · exact h
  · exact absurd hacc hrefused
  · exact absurd hacc hrefused
  · exact absurd (not_not.mp htaken).1 hrefused

/-! ## The N32-c messages of a run -/

/-- The JSON a POST brings. -/
def posted (E : Platform) (req : NbiRequest) : Option Json :=
  if req.method = ascii "POST" then (E.parse req.body).toOption else none

theorem nbi_next_posted (s : SeppApp) (e : Ambient × NbiRequest) :
    (nbiMachine E C cfg).next (some s) e = some
      (match posted E e.2 with
      | none => s
      | some j => ((Resource.ofPath e.2.path).handler E C cfg e.1 s j).1) := by
  unfold posted
  simp only [nbiMachine, NbiServer.serve]
  cases Resource.ofPath e.2.path with
  | root =>
      simp only
      split <;> rfl
  | exchangeCapability | exchangeParams | n32fTerminate | n32fError | n32fProcess =>
      simp only [NbiServer.handleExchangeCapability, NbiServer.handleExchangeParams,
        NbiServer.handleN32fTerminate, NbiServer.handleN32fError, NbiServer.handleN32fProcess,
        NbiServer.postRequest]
      by_cases hpost : e.2.method = ascii "POST"
      · rw [if_pos hpost, if_pos hpost]
        cases E.parse e.2.body <;> rfl
      · rw [if_neg hpost, if_neg hpost]

/-- The messages the handshake object is given for the JSON of a POST. -/
def Resource.n32cEvents (E : Platform) (C : Checks) (uuid : Uuid) (j : Json) :
    Resource → List N32cEvent
  | exchangeCapability => [.capabilityRequest j]
  | exchangeParams => [.paramsRequest uuid j]
  | n32fTerminate =>
      if (E.contextInfo.fromJson j).any C.contextInfo then [.terminateRequest j] else []
  | n32fError => [.error j]
  | n32fProcess => []
  | root => []

def n32cEvents (E : Platform) (C : Checks) (e : Ambient × NbiRequest) : List N32cEvent :=
  match posted E e.2 with
  | none => []
  | some j => (Resource.ofPath e.2.path).n32cEvents E C e.1.uuid j

/-- The two ends of the simulation have the same handshake object. -/
def SameHandshake (inst : Option SeppApp) (p : PeerState) : Prop :=
  ∃ s, inst = some s ∧ s.handshake = p.handshake

theorem handler_n32c (a : Ambient) (r : Resource) {s : SeppApp} {p : PeerState} (j : Json)
    (h : s.handshake = p.handshake) :
    (r.handler E C cfg a s j).1.handshake
      = ((n32cMachine E cfg).run p (r.n32cEvents E C a.uuid j)).handshake := by
  cases r with
  | exchangeCapability =>
      simp only [Resource.handler, NbiServer.exchangeCapabilityHandler, NbiServer.ofN32c,
        SeppApp.handleExchangeCapabilityRequest, h]
      rfl
  | exchangeParams =>
      simp only [Resource.handler, NbiServer.exchangeParamsHandler]
      split
      · -- What the server turns down the handshake object would have rejected.
        rename_i hnone
        rcases next_paramsRequest E cfg p a.uuid j with ⟨req, hreq, -⟩ | ⟨-, hstate, -⟩
        · rw [hnone] at hreq
          cases hreq
        · exact h.trans hstate.symm
      · simp only [NbiServer.ofN32c, SeppApp.handleExchangeParams, h]
        rfl
  | n32fTerminate =>
      simp only [Resource.handler, NbiServer.n32fTerminateHandler, Resource.n32cEvents]
      cases E.contextInfo.fromJson j with
      | none => exact h
      | some context =>
          by_cases hvalid : C.contextInfo context = true
          · simp only [hvalid, if_true, Option.any_some, NbiServer.ofN32c,
              SeppApp.handleN32fTerminateReq, h]
            rfl
          · rw [Bool.not_eq_true] at hvalid
            simp only [hvalid, Bool.false_eq_true, if_false, Option.any_some]
            exact h
  | n32fError =>
      simp only [Resource.handler, NbiServer.n32fErrorHandler, NbiServer.ofN32c,
        SeppApp.handleN32fError, h]
      rfl
  | n32fProcess =>
      refine Eq.trans ?_ h
      simp only [Resource.handler, NbiServer.n32fProcessHandler]
      split
      · rfl
      · split <;> rfl
  | root => exact h

theorem sameHandshake_next (inst : Option SeppApp) (p : PeerState) (e : Ambient × NbiRequest)
    (h : SameHandshake inst p) :
    SameHandshake ((nbiMachine E C cfg).next inst e)
      ((n32cMachine E cfg).run p (n32cEvents E C e)) := by
  obtain ⟨s, rfl, hs⟩ := h
  refine ⟨_, nbi_next_posted E C cfg s e, ?_⟩
  unfold n32cEvents
  cases posted E e.2 with
  | none => exact hs
  | some j => exact handler_n32c E C cfg e.1 (Resource.ofPath e.2.path) j hs

/-- On the handshake object a run of requests is the run of the messages they
bring: what holds after every run of messages holds after it. -/
theorem nbi_simulates_n32c (s : SeppApp) (pending : List Str)
    (es : List (Ambient × NbiRequest)) :
    ∃ s', (nbiMachine E C cfg).run (some s) es = some s'
      ∧ s'.handshake = ((n32cMachine E cfg).run { handshake := s.handshake, pending }
          (es.flatMap (n32cEvents E C))).handshake :=
  Machine.simulates_flatMap (R := SameHandshake) (sameHandshake_next E C cfg) ⟨s, rfl, rfl⟩ es

/-! ## The context as a register -/

/-- A register with one id, empty where there is none. -/
def contextRegister : Machine Str ContextOp Unit where
  next id
    | .adopt named generated =>
        if named ≠ [] then named else if id = [] then generated else id
    | .drop named => if id = named then [] else id
  out _ _ := ()

/-- What a request does to the context. -/
def contextOps (E : Platform) (C : Checks) (e : Ambient × NbiRequest) : List ContextOp :=
  match posted E e.2 with
  | none => []
  | some j => (Resource.ofPath e.2.path).contextOps E C e.1.uuid j

theorem dropContext_register (σ : N32cHandshake) (incoming : Str) :
    (σ.dropContext incoming).n32cContextId
      = contextRegister.next σ.n32cContextId (.drop incoming) := by
  by_cases hsame : σ.n32cContextId = incoming
  · rw [← hsame, N32cHandshake.dropContext_self]
    exact (if_pos rfl).symm
  · rw [N32cHandshake.dropContext_of_ne hsame]
    exact (if_neg hsame).symm

theorem handler_register (a : Ambient) (r : Resource) (s : SeppApp) (j : Json) :
    (r.handler E C cfg a s j).1.handshake.n32cContextId
      = contextRegister.run s.handshake.n32cContextId (r.contextOps E C a.uuid j) := by
  rcases handler_cases E C cfg a s j r with ⟨h, hops⟩ | ⟨hops, fqdn, flag, h⟩
    | ⟨-, req, h, hops⟩ | ⟨-, context, h, hops⟩
  · rw [h, hops]
    rfl
  · rw [h, hops]
    rfl
  · rw [h, hops]
    rfl
  · rw [h, hops]
    exact dropContext_register s.handshake context.n32fContextId

theorem context_next (s : SeppApp) (e : Ambient × NbiRequest) :
    ∃ s', (nbiMachine E C cfg).next (some s) e = some s'
      ∧ s'.handshake.n32cContextId
          = contextRegister.run s.handshake.n32cContextId (contextOps E C e) := by
  refine ⟨_, nbi_next_posted E C cfg s e, ?_⟩
  unfold contextOps
  cases posted E e.2 with
  | none => rfl
  | some j => exact handler_register E C cfg e.1 (Resource.ofPath e.2.path) s j

/-- The context is where a register is on which every exchange-params request
that can be read stores its id, and every n32f-terminate request that passes
its checks clears the id it names. No other request touches it. -/
theorem context_of_run (s : SeppApp) (es : List (Ambient × NbiRequest)) :
    ∃ s', (nbiMachine E C cfg).run (some s) es = some s'
      ∧ s'.handshake.n32cContextId
          = contextRegister.run s.handshake.n32cContextId (es.flatMap (contextOps E C)) := by
  refine Machine.simulates_flatMap
    (R := fun (inst : Option SeppApp) id => ∃ s, inst = some s ∧ s.handshake.n32cContextId = id)
    ?_ ⟨s, rfl, rfl⟩ es
  rintro inst id e ⟨s, rfl, rfl⟩
  exact context_next E C cfg s e

end Runs

end Sepp
