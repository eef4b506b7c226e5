import Sepp.ContextRuns

/-!
# A parameter exchange that fails

`create_exchange_params` generates the context id while it builds its
request, before the peer has said anything, and a failure does not take it
back. `createExchangeParams_of_failed` is all that a failed exchange does;
from it, which of them leave no trace, and what `stop` sends after a run:
its guard takes every id for one of an established context.

A run here is one of `appMachine` with the capability exchange added.
`create_exchange_capability` is a capability response, when the peer gives
one, followed by `create_exchange_params` under PRINS.
-/

namespace Sepp

/-- The context the initiator has: the id in both objects and the selected
suites. -/
structure ContextView where
  handshakeId : Str
  jweCipher : Str
  jwsCipher : Str
  forwardId : Str
deriving DecidableEq

namespace SeppApp

def contextView (s : SeppApp) : ContextView where
  handshakeId := s.handshake.n32cContextId
  jweCipher := s.handshake.selectedJweCipher
  jwsCipher := s.handshake.selectedJwsCipher
  forwardId := s.forward.n32fContextId

/-- `create_exchange_params` sends its request and reports the exchange as
established. -/
def establishes (E : Platform) (uuid : Uuid) (answer : HttpResponse) (s : SeppApp) : Bool :=
  match s.paramsRequest E uuid with
  | (s, some (.ok _)) => (adoptParamsAnswer E answer s.handshake).1
  | _ => false

/-- There is no peer to ask, or there is a context id already. -/
def GeneratesNoId (s : SeppApp) : Prop :=
  s.remoteSeppUrl = none ∨ s.handshake.n32cContextId ≠ []

end SeppApp

section Failed

variable {E : Platform} {s : SeppApp} {uuid : Uuid} {answer : HttpResponse}

theorem paramsRequest_fst : (s.paramsRequest E uuid).1 =
    if s.remoteSeppUrl = none then s
    else { s with handshake := (s.handshake.createExchangeParamsReq E uuid).1 } := by
  unfold SeppApp.paramsRequest
  split
  · rename_i hnone
    rw [if_pos hnone]
  · rename_i url hurl
    rw [if_neg (by rw [hurl]; exact Option.some_ne_none url)]

/-- A failed exchange leaves the id that its request was built with, and
nothing else. -/
theorem createExchangeParams_of_failed (hfailed : s.establishes E uuid answer = false) :
    (s.createExchangeParams E uuid answer).state =
      if s.remoteSeppUrl = none then s
      else { s with handshake := (s.handshake.createExchangeParamsReq E uuid).1 } := by
  rw [← paramsRequest_fst]
  unfold SeppApp.createExchangeParams
  unfold SeppApp.establishes at hfailed
  generalize s.paramsRequest E uuid = r at hfailed ⊢
  obtain ⟨s', made⟩ := r
  rcases SeppApp.asked_cases s' (s'.adoptExchangeParams E answer) made
    with ⟨-, hstate, -⟩ | ⟨q, rfl, hasked⟩
  · exact hstate
  · have hstate : (s'.asked (some (.ok q)) (s'.adoptExchangeParams E answer)).state
        = s'.adoptExchangeParams E answer := congrArg AppHandled.state hasked
    rcases adoptExchangeParams_cases (E := E) s' answer with ⟨rsp, haccepted, -⟩ | ⟨-, hsame⟩
    · exact absurd (hfailed.symm.trans haccepted) Bool.false_ne_true
    · exact hstate.trans hsame

/-- Building the request changes the id where there is none. -/
theorem createExchangeParamsReq_of_context (h : s.handshake.n32cContextId ≠ []) :
    (s.handshake.createExchangeParamsReq E uuid).1 = s.handshake := by
  simp only [N32cHandshake.createExchangeParamsReq, if_neg h]

theorem createExchangeParamsReq_of_no_context (h : s.handshake.n32cContextId = []) :
    (s.handshake.createExchangeParamsReq E uuid).1
      = { s.handshake with n32cContextId := uuid.text } := by
  simp only [N32cHandshake.createExchangeParamsReq, if_pos h]

theorem state_of_failed_of_generatesNoId (hfailed : s.establishes E uuid answer = false)
    (hnone : s.GeneratesNoId) : (s.createExchangeParams E uuid answer).state = s := by
  rw [createExchangeParams_of_failed hfailed]
  split
  · rfl
  · rename_i hurl
    rw [createExchangeParamsReq_of_context (hnone.resolve_left hurl)]

/-- No trace is left exactly when no id was generated. -/
theorem contextView_of_failed_iff (hfailed : s.establishes E uuid answer = false) :
    (s.createExchangeParams E uuid answer).state.contextView = s.contextView
      ↔ s.GeneratesNoId := by
  constructor
  · intro hsame
    by_contra hno
    obtain ⟨hurl, hid⟩ := not_or.mp hno
    rw [createExchangeParams_of_failed hfailed, if_neg hurl,
      createExchangeParamsReq_of_no_context (not_not.mp hid)] at hsame
    have htext : uuid.text = s.handshake.n32cContextId := congrArg ContextView.handshakeId hsame
    exact uuid.nonempty (htext.trans (not_not.mp hid))
  · intro hnone
    rw [state_of_failed_of_generatesNoId hfailed hnone]

end Failed

/-! ## Runs -/

inductive LifeEvent where
  | app (e : AppEvent)
  | capabilityRequest (reqData : Json)
  | capabilityResponse (respData : Json)

/-- One SEPP between its start and its end. -/
def lifeMachine (E : Platform) (cfg : SeppConfig) :
    Machine SeppApp LifeEvent (List HttpRequest) where
  next s
    | .app e => (appMachine E cfg).next s e
    | .capabilityRequest reqData =>
        { s with
          handshake :=
            (s.handshake.handleExchangeCapabilityRequest E cfg reqData .null ∅).state }
    | .capabilityResponse respData =>
        { s with handshake := (s.handshake.handleExchangeCapabilityResponse respData).2 }
  out s
    | .app e => (appMachine E cfg).out s e
    | _ => []

/-- A peer has confirmed the context `id`: it answered an exchange of the
SEPP's own, or its own request was accepted. -/
def ConfirmsContext (E : Platform) (cfg : SeppConfig) (id : Str) (s : SeppApp) : LifeEvent → Prop
  | .app (.createExchangeParams uuid answer) =>
      s.establishes E uuid answer = true
        ∧ (s.createExchangeParams E uuid answer).state.handshake.n32cContextId = id
  | .app (.exchangeParams uuid reqData) =>
      (s.handleExchangeParams E cfg uuid reqData .null ∅).2.ret = .ok true
        ∧ (s.handleExchangeParams E cfg uuid reqData .null ∅).1.handshake.n32cContextId = id
  | _ => False

/-- A parameter exchange that fails generates no id. -/
def FailsWithoutId (E : Platform) (s : SeppApp) : LifeEvent → Prop
  | .app (.createExchangeParams uuid answer) =>
      s.establishes E uuid answer = false → s.GeneratesNoId
  | _ => True

/-- The request is an `n32f-terminate` for the context `id`. -/
def TerminatesContext (E : Platform) (id : Str) (r : HttpRequest) : Prop :=
  ∃ url body, E.dump (E.contextInfo.toJson { n32fContextId := id }) = .ok body
    ∧ r = prepareJsonRequest E .POST (url ++ ascii "/n32c-handshake/v1/n32f-terminate") body

section Runs

variable {E : Platform} {cfg : SeppConfig}

/-- An operation keeps the context id, drops it, or has it confirmed. -/
theorem app_n32cContextId_next {s : SeppApp} {e : AppEvent}
    (hg : FailsWithoutId E s (.app e)) :
    let s' := (appMachine E cfg).next s e
    s'.handshake.n32cContextId = s.handshake.n32cContextId
      ∨ s'.handshake.n32cContextId = []
      ∨ ConfirmsContext E cfg s'.handshake.n32cContextId s (.app e) := by
  cases e with
  | createExchangeParams uuid answer =>
      by_cases hest : s.establishes E uuid answer = true
      · exact Or.inr (Or.inr ⟨hest, rfl⟩)
      · have hfailed := Bool.eq_false_iff.mpr hest
        have hsame := state_of_failed_of_generatesNoId hfailed (hg hfailed)
        exact Or.inl (congrArg (fun s => s.handshake.n32cContextId) hsame)
  | exchangeParams uuid reqData =>
      rcases @N32cHandshake.handleExchangeParams_cases E cfg uuid s.handshake reqData .null ∅
        with ⟨req, -, -, hret, -⟩ | ⟨-, hstate, -⟩
      · exact Or.inr (Or.inr ⟨hret, rfl⟩)
      · exact Or.inl (congrArg N32cHandshake.n32cContextId hstate)
  | n32fTerminate reqData =>
      rcases @N32cHandshake.handleN32fTerminateReq_cases E s.handshake reqData .null ∅
        with ⟨info, -, -, -, hstate⟩ | ⟨-, hstate⟩
      · have hdropped := congrArg N32cHandshake.n32cContextId hstate
        by_cases hnamed : s.handshake.n32cContextId = info.n32fContextId
        · rw [← hnamed, N32cHandshake.dropContext_self] at hdropped
          exact Or.inr (Or.inl hdropped)
        · rw [N32cHandshake.dropContext_of_ne hnamed] at hdropped
          exact Or.inl hdropped
      · exact Or.inl (congrArg N32cHandshake.n32cContextId hstate)
  | sendN32fTerminate answer =>
      rcases sendN32fTerminate_cases (E := E) s answer with ⟨-, hstate⟩ | hstate
      · exact Or.inr (Or.inl (congrArg (fun s => s.handshake.n32cContextId) hstate))
      · exact Or.inl (congrArg (fun s => s.handshake.n32cContextId) hstate)
  | nfServiceRequest => exact Or.inl rfl
  | n32fProcess => exact Or.inl rfl

/-- A capability exchange is not about the context. -/
theorem n32cContextId_next {s : SeppApp} {e : LifeEvent} (hg : FailsWithoutId E s e) :
    let s' := (lifeMachine E cfg).next s e
    s'.handshake.n32cContextId = s.handshake.n32cContextId
      ∨ s'.handshake.n32cContextId = []
      ∨ ConfirmsContext E cfg s'.handshake.n32cContextId s e := by
  cases e with
  | app e => exact app_n32cContextId_next hg
  | capabilityRequest reqData =>
      obtain ⟨fqdn, flag, hstate⟩ :=
        N32cHandshake.handleExchangeCapabilityRequest_frame E cfg s.handshake reqData .null ∅
      have hsame := congrArg N32cHandshake.n32cContextId hstate
      exact Or.inl hsame
  | capabilityResponse respData =>
      obtain ⟨fqdn, flag, purposes, hstate⟩ :=
        N32cHandshake.handleExchangeCapabilityResponse_frame s.handshake respData
      have hsame := congrArg N32cHandshake.n32cContextId hstate
      exact Or.inl hsame

/-- An id that was not there before an operation was confirmed by it. -/
theorem confirms_of_next {id : Str} (hid : id ≠ []) {s : SeppApp} {e : LifeEvent}
    (hg : FailsWithoutId E s e)
    (hnext : ((lifeMachine E cfg).next s e).handshake.n32cContextId = id) :
    s.handshake.n32cContextId = id ∨ ConfirmsContext E cfg id s e := by
  subst hnext
  rcases @n32cContextId_next E cfg s e hg with hkept | hdropped | hconfirmed
  · exact Or.inl hkept.symm
  · exact absurd hdropped hid
  · exact Or.inr hconfirmed

theorem mem_sendN32fTerminate_sent {s : SeppApp} {answer : HttpResponse} {r : HttpRequest}
    (hr : r ∈ (s.sendN32fTerminate E answer).sent) :
    TerminatesContext E s.handshake.n32cContextId r := by
  rcases SeppApp.asked_cases s (s.adoptTerminate E answer) (s.terminateRequest E)
    with ⟨-, -, hsent⟩ | ⟨q, hmade, hasked⟩
  · rw [SeppApp.sendN32fTerminate, hsent] at hr
    cases hr
  · rw [SeppApp.sendN32fTerminate, hasked] at hr
    obtain ⟨-, url, body, -, hdump, rfl⟩ := SeppApp.terminateRequest_eq_ok hmade
    exact ⟨url, body, hdump, List.mem_singleton.mp hr⟩

/-- What `stop` sends. -/
theorem mem_stop_sent {cSepp : Bool} {nrfUrl : Str} {answer : HttpResponse} {s : SeppApp}
    {r : HttpRequest} (hr : r ∈ (s.stop E cSepp nrfUrl answer).sent) :
    r = SeppApp.deregisterRequest nrfUrl
      ∨ s.handshake.n32cContextId ≠ [] ∧ TerminatesContext E s.handshake.n32cContextId r := by
  rcases SeppApp.stop_cases E cSepp nrfUrl answer s with
    ⟨-, hstop⟩ | ⟨hguard, ⟨-, hstop⟩ | ⟨-, hstop⟩⟩
  · rw [hstop] at hr
    exact Or.inl (List.mem_singleton.mp hr)
  · rw [hstop] at hr
    exact Or.inr ⟨hguard.2, mem_sendN32fTerminate_sent hr⟩
  · rw [hstop] at hr
    rcases List.mem_append.mp hr with hterminate | hlast
    · exact Or.inr ⟨hguard.2, mem_sendN32fTerminate_sent hterminate⟩
    · exact Or.inl (List.mem_singleton.mp hlast)

/-- The two halves of the property: which failed exchanges leave no trace,
and which contexts `stop` terminates after runs of such exchanges. -/
theorem failed_exchange_iff (E : Platform) (cfg : SeppConfig) :
    (∀ (s : SeppApp) (uuid : Uuid) (answer : HttpResponse),
      s.establishes E uuid answer = false →
        ((s.createExchangeParams E uuid answer).state.contextView = s.contextView
          ↔ s.GeneratesNoId))
    ∧ ∀ (capability encKey : Str) (url : Option Str) (es : List LifeEvent),
      let start := SeppApp.fresh capability encKey url
      (lifeMachine E cfg).Guarded (FailsWithoutId E) start es →
        ∀ (cSepp : Bool) (nrfUrl : Str) (answer : HttpResponse),
          ∀ r ∈ (((lifeMachine E cfg).run start es).stop E cSepp nrfUrl answer).sent,
            r = SeppApp.deregisterRequest nrfUrl
              ∨ ∃ id, TerminatesContext E id r
                ∧ (lifeMachine E cfg).Occurs (ConfirmsContext E cfg id) start es := by
  refine ⟨fun s uuid answer => contextView_of_failed_iff, ?_⟩
  intro capability encKey url es start hguarded cSepp nrfUrl answer r hr
  rcases mem_stop_sent hr with hderegister | ⟨hid, hterminates⟩
  · exact Or.inl hderegister
  · refine Or.inr ⟨_, hterminates, ?_⟩
    have horigin := Machine.occurs_of_guarded
      (Q := fun s => s.handshake.n32cContextId
        = ((lifeMachine E cfg).run start es).handshake.n32cContextId)
      (fun s e hg hnext => confirms_of_next hid hg hnext) hguarded rfl
    exact horigin.resolve_left hid.symm

end Runs

/-! ### A peer that does not answer -/

def peerSilent : HttpResponse := { statusCode := 0, headers := ∅, body := [] }

def sampleNrf : Str := ascii "http://nrf:80"

abbrev sampleLife : Machine SeppApp LifeEvent (List HttpRequest) :=
  lifeMachine Reference.platform Reference.config

def sampleFailure : List LifeEvent := [.app (.createExchangeParams sampleContext peerSilent)]

theorem not_establishes_peerSilent (s : SeppApp) (uuid : Uuid) :
    s.establishes Reference.platform uuid peerSilent = false := by
  unfold SeppApp.establishes
  split <;> rfl

theorem writable_sampleTerminate : JsonText.writable
    (Reference.platform.contextInfo.toJson { n32fContextId := ascii "c1" }) = true := by
  decide +kernel

/-- A SEPP that was given its context `c1` terminates it first. -/
theorem stop_sent_c1 {s : SeppApp} (hid : s.handshake.n32cContextId = ascii "c1")
    (hurl : s.remoteSeppUrl = some samplePeer) (answer : HttpResponse) :
    (s.stop Reference.platform true sampleNrf answer).sent =
      [prepareJsonRequest Reference.platform .POST
          (samplePeer ++ ascii "/n32c-handshake/v1/n32f-terminate")
          (JsonText.write (Reference.platform.contextInfo.toJson
            { n32fContextId := ascii "c1" })),
        SeppApp.deregisterRequest sampleNrf] := by
  have hne : s.handshake.n32cContextId ≠ [] := by
    rw [hid]
    exact List.cons_ne_nil _ _
  have hdump := Reference.dump_of_writable writable_sampleTerminate
  have hreq : s.handshake.createN32fTerminateReq Reference.platform
      = some (Reference.platform.contextInfo.toJson { n32fContextId := ascii "c1" }) := by
    rw [N32cHandshake.createN32fTerminateReq, if_neg hne, hid]
  simp only [SeppApp.stop, hne, ne_eq, not_false_eq_true, and_self, if_true,
    SeppApp.sendN32fTerminate, SeppApp.terminateRequest, hurl, hreq,
    SeppApp.jsonRequest_of_dump hdump]
  rfl

theorem establishes_sampleParamsAnswer :
    sampleStart.establishes Reference.platform sampleContext sampleParamsAnswer = true := by
  have hdump := Reference.dump_of_writable writable_sampleParamsReq
  have hparse := Reference.parse_write writable_sampleParams
  have hurl : sampleStart.remoteSeppUrl = some samplePeer := rfl
  simp only [SeppApp.establishes, SeppApp.paramsRequest, hurl, SeppApp.jsonRequest_of_dump hdump,
    SeppApp.adoptParamsAnswer, sampleParamsAnswer, hparse]
  rfl

/-- An established exchange and its termination, and one that fails after
it. -/
theorem failed_exchange_iff_established :
    (sampleEstablished.createExchangeParams Reference.platform sampleContext
        peerSilent).state.contextView = sampleEstablished.contextView
    ∧ ∀ r ∈ ((sampleLife.run sampleStart [.app sampleNegotiation]).stop Reference.platform true
        sampleNrf peerSilent).sent,
        r = SeppApp.deregisterRequest sampleNrf
          ∨ ∃ id, TerminatesContext Reference.platform id r
            ∧ sampleLife.Occurs (ConfirmsContext Reference.platform Reference.config id)
                sampleStart [.app sampleNegotiation] := by
  obtain ⟨hview, hstop⟩ := failed_exchange_iff Reference.platform Reference.config
  constructor
  · exact (hview _ _ _ (not_establishes_peerSilent _ _)).mpr (Or.inr (List.cons_ne_nil _ _))
  · have hguarded : sampleLife.Guarded (FailsWithoutId Reference.platform) sampleStart
        [.app sampleNegotiation] := by
      refine ⟨fun hfailed => ?_, trivial⟩
      rw [establishes_sampleParamsAnswer] at hfailed
      cases hfailed
    exact hstop (ascii "PRINS") [] (some samplePeer) _ hguarded true sampleNrf peerSilent

/-- The peer never heard of `c1`, and is asked to terminate it. -/
theorem terminates_unconfirmed :
    let s := sampleLife.run sampleStart sampleFailure
    sampleStart.establishes Reference.platform sampleContext peerSilent = false
      ∧ s.contextView ≠ sampleStart.contextView
      ∧ (∃ r ∈ (s.stop Reference.platform true sampleNrf peerSilent).sent,
          TerminatesContext Reference.platform (ascii "c1") r)
      ∧ ∀ id, ¬ sampleLife.Occurs (ConfirmsContext Reference.platform Reference.config id)
          sampleStart sampleFailure := by
  intro s
  have hs : s = { sampleStart with
      handshake := { sampleStart.handshake with n32cContextId := ascii "c1" } } :=
    createExchangeParams_of_failed (not_establishes_peerSilent sampleStart sampleContext)
  have hsent := stop_sent_c1 (s := s) (by rw [hs]) (by rw [hs]; rfl) peerSilent
  refine ⟨not_establishes_peerSilent _ _, ?_, ⟨_, by rw [hsent]; exact List.mem_cons_self, ?_⟩, ?_⟩
  · rw [hs]
    intro hsame
    cases congrArg ContextView.handshakeId hsame
  · exact ⟨samplePeer, _, Reference.dump_of_writable writable_sampleTerminate, rfl⟩
  · rintro id ⟨pre, e, post, hes, hconfirms⟩
    cases pre with
    | nil =>
        obtain rfl := (List.cons.inj hes).1
        rw [Machine.run_nil] at hconfirms
        exact Bool.false_ne_true ((not_establishes_peerSilent _ _).symm.trans hconfirms.1)
    | cons e' pre =>
        have hlength := congrArg List.length hes
        simp only [sampleFailure, List.length_cons, List.length_append, List.length_nil] at hlength
        omega

end Sepp
