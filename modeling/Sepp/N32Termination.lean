import Sepp.N32Network

/-!
# The end of a context

A C-SEPP that is told to stop asks its P-SEPP to drop the context. In the
network of `N32Network` the request may come late, or after the P-SEPP has
gone over to somebody else, and nobody may be there any more to hear the
answer.

- `termination_releases`: whenever such a request is served, the P-SEPP
  agrees with the same other C-SEPPs as before, and with the one that stops
  no longer if it says so.
- `terminated_by_peer`: a C-SEPP that has its context dropped has been told
  so by the P-SEPP, which then did not hold it.
-/

namespace Sepp

section Answer

variable {E : Platform}

/-- What is not accepted is not answered as a success. -/
theorem received_of_refused (C : Checks) (cfg : SeppConfig) (inst : Option SeppApp) (a : Ambient)
    {req : NbiRequest} (h : ¬ NbiServer.Accepted E C cfg inst a req) :
    let answer := received (NbiServer.serve E C cfg inst a req).reply
    ¬ (answer.statusCode = 200 ∨ answer.statusCode = 204) := by
  intro answer
  obtain ⟨hok, -⟩ := NbiServer.serve_reply E C cfg inst a req
  cases hreply : (NbiServer.serve E C cfg inst a req).reply with
  | error e =>
      have hanswer : answer.statusCode = 0 := by
        simp only [answer, hreply]
        rfl
      omega
  | ok reply =>
      have hanswer : answer.statusCode = reply.statusCode := by
        simp only [answer, hreply, received]
      rcases hok reply hreply with ⟨-, hproblem⟩ | ⟨-, -, hproblem⟩ | ⟨-, -, -, hproblem⟩
        | ⟨haccepted, -⟩
      · have := hproblem.1
        omega
      · have := hproblem.1
        omega
      · have := hproblem.1
        omega
      · exact absurd haccepted h

/-- A request to drop a context that can be read fails its check, or drops
it. -/
theorem n32fTerminateHandler_toJson (C : Checks) (t : SeppApp) (id : Str) :
    let h := NbiServer.n32fTerminateHandler E C t (E.contextInfo.toJson { n32fContextId := id })
    (h.1 = t ∧ h.2.ret = .ok false)
    ∨ h.1 = { t with handshake := t.handshake.dropContext id } := by
  have hv := N32cHandshake.validateHandshakeRequest_iff.mpr
    (E.contextInfo.isObject_toJson { n32fContextId := id })
  simp only [NbiServer.n32fTerminateHandler, E.contextInfo.fromJson_toJson]
  by_cases hcheck : C.contextInfo { n32fContextId := id } = true
  · right
    simp only [hcheck, if_true, NbiServer.ofN32c, SeppApp.handleN32fTerminateReq,
      N32cHandshake.handleN32fTerminateReq, hv, Bool.not_true, Bool.false_eq_true, if_false,
      E.contextInfo.fromJson_toJson]
  · left
    rw [if_neg hcheck]
    exact ⟨rfl, rfl⟩

/-- Served, it is refused or drops the context. -/
theorem serve_drop (C : Checks) (cfg : SeppConfig) (inst : Option SeppApp) (a : Ambient)
    {req : NbiRequest} {id : Str} (hreq : AsksToDrop E req id) :
    let v := NbiServer.serve E C cfg inst a req
    let answer := received v.reply
    (v.inst = inst ∧ ¬ (answer.statusCode = 200 ∨ answer.statusCode = 204))
    ∨ ∃ t, inst = some t
      ∧ v.inst = some { t with handshake := t.handshake.dropContext id } := by
  intro v answer
  obtain ⟨hpath, hpost, hparse⟩ := hreq
  have hr : Resource.ofPath req.path = .n32fTerminate := by rw [hpath, Resource.ofPath_pattern]
  have hposted : posted E req = some (E.contextInfo.toJson { n32fContextId := id }) :=
    (if_pos hpost).trans (congrArg Except.toOption hparse)
  cases inst with
  | none =>
      refine Or.inl ⟨(nbi_run_none E C cfg none [(a, req)]).mpr rfl,
        received_of_refused C cfg none a ?_⟩
      rintro ⟨-, s, j, hs, -⟩
      cases hs
  | some t =>
      have hinst := nbi_next_posted E C cfg t (a, req)
      simp only [hposted, hr] at hinst
      rcases n32fTerminateHandler_toJson (E := E) C t id with ⟨hsame, hret⟩ | hdropped
      · refine Or.inl ⟨hinst.trans (congrArg some hsame), received_of_refused C cfg (some t) a ?_⟩
        rintro ⟨-, s, j, hs, hj, htaken⟩
        obtain rfl := Option.some.inj hs
        have hj' : j = E.contextInfo.toJson { n32fContextId := id } := by
          rw [hr] at hj
          exact (Except.ok.inj (hparse.symm.trans hj)).symm
        rw [hr, hj'] at htaken
        cases hret.symm.trans htaken
      · exact Or.inr ⟨t, rfl, hinst.trans (congrArg some hdropped)⟩

theorem dropContext_id (σ : N32cHandshake) (id : Str) :
    (σ.dropContext id).n32cContextId = if σ.n32cContextId = id then [] else σ.n32cContextId :=
  dropContext_register σ id

end Answer

/-! ## What is under way -/

section Requests

variable {ι : Type*} {E : Platform} {C : Checks} {origin : Str → ι}

/-- A request to drop a context is that of a C-SEPP that ends, and names the
context it has forwarded under. -/
def DropsOwn (E : Platform) (origin : Str → ι) (i : ι) (a : Initiator) (q : NbiRequest) : Prop :=
  q.path = Resource.n32fTerminate.pattern → a.stage.ends = true
    ∧ ∃ id, AsksToDrop E q id ∧ origin id = i
      ∧ (a.app.forward.n32fContextId ≠ [] → a.app.forward.n32fContextId = id)

theorem DropsOwn.of_goesOn {i : ι} {a : Initiator} {q : NbiRequest}
    (h : DropsOwn E origin i a q) (hgoes : a.stage.ends = false) (b : Initiator) :
    DropsOwn E origin i b q := by
  intro hpath
  have hends := (h hpath).1
  rw [hgoes] at hends
  cases hends

theorem DropsOwn.of_forward {i : ι} {a b : Initiator} {q : NbiRequest}
    (h : DropsOwn E origin i a q) (hforward : b.app.forward = a.app.forward)
    (hends : b.stage.ends = true) : DropsOwn E origin i b q := by
  intro hpath
  obtain ⟨-, id, hasks, hid, hcopied⟩ := h hpath
  exact ⟨hends, id, hasks, hid, by rw [hforward]; exact hcopied⟩

theorem dropsOwn_asked {i : ι} {a : Initiator} {q : NbiRequest}
    (hJ : OwnContext E origin i a) (hask : a.ask E = some q) : DropsOwn E origin i a q := by
  obtain ⟨app, stage⟩ := a
  cases stage with
  | capability =>
      obtain ⟨made, hmade, rfl⟩ := ask_capability hask
      obtain ⟨url, body, hurl, -, rfl⟩ := SeppApp.capabilityRequest_eq_ok hmade
      obtain ⟨-, hpath, -⟩ := deliver_prepareJsonRequest E url body
        Resource.exchangeCapability.questionMark_not_mem
      intro hterminate
      rw [hurl, Option.getD_some] at hterminate
      exact absurd (hpath.symm.trans hterminate) (by decide +kernel)
  | params made =>
      obtain rfl := Option.some.inj hask
      intro hterminate
      exact absurd ((hJ.asks made rfl).2.1.symm.trans hterminate) (by decide +kernel)
  | terminate made =>
      obtain rfl := Option.some.inj hask
      obtain ⟨hne, hdrops⟩ := hJ.drops made rfl
      intro _
      exact ⟨rfl, _, hdrops, hJ.own hne, hJ.copied fun h => by cases h⟩
  | stopped => cases hask

theorem follows_dropsOwn (E : Platform) (C : Checks) (origin : Str → ι) :
    Calls.Follows (Initiator.caller E C) (OwnContext E origin) (DropsOwn E origin) where
  asked i a q hJ hask := dropsOwn_asked hJ hask
  answered i a uuid h q hR := by
    obtain ⟨app, stage⟩ := a
    cases stage with
    | capability | params made => exact hR.of_goesOn rfl _
    | terminate made => exact hR.of_forward (forward_adoptTerminate app (received h.reply)) rfl
    | stopped => exact hR
  failed i a q hR := by
    obtain ⟨app, stage⟩ := a
    cases stage with
    | capability | params made => exact hR.of_goesOn rfl _
    | terminate made | stopped => exact hR.of_forward rfl rfl
  turned i a q hR := by
    obtain ⟨app, stage⟩ := a
    cases stage with
    | capability => exact hR.of_goesOn rfl _
    | params made | terminate made | stopped => exact hR

end Requests

/-! ## The end in the network -/

section Network

variable {ι : Type*} [DecidableEq ι] {E : Platform} {C : Checks} {cfg : SeppConfig}
  {origin : Str → ι} {initiators : ι → Initiator} {peer : Option SeppApp}
  {es : List (N32NetworkEvent ι)}

omit [DecidableEq ι] in
/-- Whoever drops a context of `i` disturbs nobody else. -/
theorem agreesWith_dropContext {t : SeppApp} {i j : ι} {b : Initiator} {id : Str}
    (hid : origin id = i) (hb : OwnContext E origin j b) (hj : j ≠ i) :
    AgreesWith { t with handshake := t.handshake.dropContext id } b.app ↔ AgreesWith t b.app := by
  simp only [AgreesWith, dropContext_id]
  refine and_congr_right fun hne => ?_
  by_cases hheld : t.handshake.n32cContextId = id
  · rw [if_pos hheld, hheld]
    refine ⟨fun hnil => absurd hnil.symm hne, fun hsame => absurd ?_ hj⟩
    rw [← hb.forwards hne, ← hsame]
    exact hid
  · rw [if_neg hheld]

/-- Whenever a request to drop a context is served, even long after it was
sent, the P-SEPP agrees with the same other C-SEPPs as before. With the one
that asked it agrees no longer where it answers that it dropped the context. -/
theorem termination_releases (hback : ReadsBack E) (hproblems : RejectsProblemsAsParams E)
    (hstart : ∀ i, JustStarted (initiators i))
    (huuid : (n32Network E C cfg).Guarded (Calls.Gives fun i (uuid : Uuid) =>
      origin uuid.text = i) (Calls.start initiators peer) es) {k : ℕ} {c : Call ι NbiRequest}
    {t : SeppApp} (a : Ambient) :
    let net := (n32Network E C cfg).run (Calls.start initiators peer) es
    let agrees := fun (t : SeppApp) i => AgreesWith t (net.callers i).app
    net.requests[k]? = some c → c.content.path = Resource.n32fTerminate.pattern →
    net.server = some t →
    ∃ t', ((n32Network E C cfg).next net (.serve k a)).server = some t'
      ∧ (∀ j, j ≠ c.caller → (agrees t' j ↔ agrees t j))
      ∧ let answer := received (NbiServer.serve E C cfg (some t) a c.content).reply
        answer.statusCode = 200 ∨ answer.statusCode = 204 → ¬ agrees t' c.caller := by
  intro net agrees hc hpath ht
  have hown := ownContext_run hback hproblems hstart huuid
  have hfollowed : Calls.Followed (DropsOwn E origin) net :=
    Calls.inv_requests (keeps_ownContext C cfg hback hproblems origin)
      (follows_dropsOwn E C origin) (fun i => (hstart i).ownContext i) huuid
  obtain ⟨-, id, hasks, hid, hcopied⟩ := hfollowed c (List.mem_of_getElem? hc) hpath
  have hnext : ((n32Network E C cfg).next net (.serve k a)).server
      = (NbiServer.serve E C cfg (some t) a c.content).inst := by
    simp only [n32Network, Calls.machine, hc, Calls.served, ht, nbi_next]
  rcases serve_drop C cfg (some t) a hasks with ⟨hsame, hrefused⟩ | ⟨t₀, ht₀, hdropped⟩
  · exact ⟨t, hnext.trans hsame, fun j _ => Iff.rfl, fun hstatus => absurd hstatus hrefused⟩
  · obtain rfl := Option.some.inj ht₀
    refine ⟨_, hnext.trans hdropped, fun j hj => agreesWith_dropContext hid (hown j) hj, ?_⟩
    rintro answer - ⟨hne, hheld⟩
    rw [hcopied hne, dropContext_id] at hheld
    split at hheld
    · exact hne ((hcopied hne).trans hheld.symm)
    · contradiction

/-- The P-SEPP serves a request of the C-SEPP `i`, and does not hold the
context afterwards. -/
def ReleasedFor (E : Platform) (C : Checks) (cfg : SeppConfig) (i : ι) (id : Str)
    (net : N32Network ι) (e : N32NetworkEvent ι) : Prop :=
  ∃ k a c t, e = .serve k a ∧ net.requests[k]? = some c ∧ c.caller = i
    ∧ AsksToDrop E c.content id
    ∧ ((n32Network E C cfg).next net e).server = some t ∧ t.handshake.n32cContextId ≠ id

/-- A C-SEPP that has stopped and dropped its context was told so by the
P-SEPP, which was asked for that and did not hold the context afterwards. -/
theorem terminated_by_peer (hback : ReadsBack E) (hproblems : RejectsProblemsAsParams E)
    (hstart : ∀ i, JustStarted (initiators i))
    (huuid : (n32Network E C cfg).Guarded (Calls.Gives fun i (uuid : Uuid) =>
      origin uuid.text = i) (Calls.start initiators peer) es) (i : ι) :
    let c := ((n32Network E C cfg).run (Calls.start initiators peer) es).callers i
    let id := c.app.forward.n32fContextId
    c.stage = .stopped → id ≠ [] → c.app.handshake.n32cContextId = [] →
      (n32Network E C cfg).Occurs (ReleasedFor E C cfg i id) (Calls.start initiators peer) es := by
  intro c id hstopped hne hcleared
  let K : Initiator → Prop := fun a => a.stage = .stopped
    ∧ a.app.forward.n32fContextId = id ∧ a.app.handshake.n32cContextId = []
  let L : Initiator → NbiHandled → Prop := fun a h => ∃ q, a.stage = .terminate q
    ∧ a.app.forward.n32fContextId = id
    ∧ (a.app.adoptTerminate E (received h.reply)).handshake.n32cContextId = []
  have hanswered : ∀ a uuid h, OwnContext E origin i a →
      K (Initiator.answered E C a uuid h) → K a ∨ L a h := by
    rintro ⟨app, stage⟩ uuid h - ⟨hstage, hforward, hnone⟩
    cases stage with
    | capability =>
        have hends := answered_capability_ends (E := E) C app uuid h
        rw [hstage] at hends
        cases hends
    | params q => cases hstage
    | terminate q =>
        have hsame := forward_adoptTerminate (E := E) app (received h.reply)
        exact Or.inr ⟨q, rfl, (congrArg N32fForward.n32fContextId hsame).symm.trans hforward, hnone⟩
    | stopped => exact Or.inl ⟨rfl, hforward, hnone⟩
  -- Without an answer a context is not dropped.
  have hfailed : ∀ a, OwnContext E origin i a → K ((Initiator.caller E C).failed a) → K a := by
    rintro ⟨app, stage⟩ hJ ⟨hstage, hforward, hnone⟩
    cases stage with
    | capability | params q => cases hstage
    | terminate q => exact absurd hnone (hJ.drops q rfl).1
    | stopped => exact ⟨rfl, hforward, hnone⟩
  have hturned : ∀ a, OwnContext E origin i a → K ((Initiator.caller E C).turn a) → K a := by
    rintro ⟨app, stage⟩ hJ hK
    cases stage with
    | capability =>
        have happ : app.forward.n32fContextId ≠ [] := fun hnil => hne (hK.2.1.symm.trans hnil)
        exact absurd ((hJ.copied (Stage.ne_stopped rfl) happ).trans hK.2.2) happ
    | params q | terminate q | stopped => exact hK
  have hno : ¬ K (initiators i) := by
    rintro ⟨hstage, -⟩
    rw [(hstart i).stage] at hstage
    cases hstage
  obtain ⟨a, h, hJ, ⟨q, hstage, hforward, hdropped⟩, pre, e, post, hes, -, k, x, d, he, hd, hcaller,
    hask, rfl, hserver⟩ := Calls.served_of_caller (K := K) (L := L)
      (keeps_ownContext C cfg hback hproblems origin) (fun i => (hstart i).ownContext i) huuid
      hfailed hturned hanswered hno ⟨hstopped, rfl, hcleared⟩
  obtain ⟨app, stage⟩ := a
  obtain rfl : stage = .terminate q := hstage
  obtain ⟨hid, hasks⟩ := hJ.drops q rfl
  have happ : app.forward.n32fContextId = id := hforward
  have hown : app.handshake.n32cContextId = id :=
    (hJ.copied (fun h => by cases h) (happ ▸ hne)).symm.trans happ
  have hcontent : deliver (app.remoteSeppUrl.getD []) q = d.content := Option.some.inj hask
  rw [hcontent, hown] at hasks
  let net := (n32Network E C cfg).run (Calls.start initiators peer) pre
  rcases serve_drop C cfg net.server x hasks with ⟨-, hrefused⟩ | ⟨t, -, hinst⟩
  · have hsame : app.adoptTerminate E
        (received ((nbiMachine E C cfg).out net.server (x, d.content)).reply) = app :=
      (adoptTerminate_cases app _).resolve_right fun h => hrefused h.1
    have hkept : (app.adoptTerminate E (received
        ((nbiMachine E C cfg).out net.server (x, d.content)).reply)).handshake.n32cContextId = [] :=
      hdropped
    rw [hsame] at hkept
    exact absurd hkept hid
  · refine ⟨pre, e, post, hes, k, x, d, _, he, hd, hcaller, hasks, hserver.trans hinst, ?_⟩
    rw [dropContext_id]
    split
    · exact fun hnil => hne hnil.symm
    · assumption

end Network

/-! ### The C-SEPP that was given up stops -/

def sampleStopping : List (N32NetworkEvent Bool) :=
  sampleRound ++ sampleRound ++ [.turn true, .send true]

abbrev sampleStopped : List (N32NetworkEvent Bool) :=
  sampleStopping ++ [.serve 0 sampleGone, .deliver 0 sampleContext]

abbrev sampleRun (es : List (N32NetworkEvent Bool)) : N32Network Bool :=
  (n32Network Reference.platform NbiServer.lenient Reference.config).run
    (Calls.start sampleInitiators (some prinsProducer)) es

theorem gives_sampleStopped :
    (n32Network Reference.platform NbiServer.lenient Reference.config).Guarded
      (Calls.Gives fun i (uuid : Uuid) => sampleOrigin uuid.text = i)
      (Calls.start sampleInitiators (some prinsProducer)) sampleStopped := by
  decide +kernel

/-- The request is under way, and the P-SEPP agrees with the other C-SEPP. -/
theorem stopping_sample :
    (sampleRun sampleStopping).requests[0]?.any (fun c => c.caller
        && decide (c.content.path = Resource.n32fTerminate.pattern)) = true
      ∧ (sampleRun sampleStopping).server.any (fun t => decide
          (AgreesWith t ((sampleRun sampleStopping).callers false).app)) = true := by
  decide +kernel

/-- The P-SEPP still agrees with the other one when it has answered. -/
theorem termination_releases_first : ∃ t,
    ((n32Network Reference.platform NbiServer.lenient Reference.config).next
        (sampleRun sampleStopping) (.serve 0 sampleGone)).server = some t
      ∧ AgreesWith t ((sampleRun sampleStopping).callers false).app := by
  obtain ⟨c, hc, hfirst⟩ := (Option.any_eq_true _ _).mp stopping_sample.1
  obtain ⟨t, ht, hagrees⟩ := (Option.any_eq_true _ _).mp stopping_sample.2
  obtain ⟨hcaller, hpath⟩ := Bool.and_eq_true_iff.mp hfirst
  have hgives := (Machine.guarded_append.mp gives_sampleStopped).1
  unfold sampleRun at hc ht hagrees ⊢
  obtain ⟨t', ht', hothers, -⟩ := termination_releases readsBack_reference
    rejectsProblemsAsParams_reference justStarted_sample hgives sampleGone hc
    (of_decide_eq_true hpath) ht
  refine ⟨t', ht', (hothers false ?_).mpr (of_decide_eq_true hagrees)⟩
  rw [hcaller]
  exact Bool.false_ne_true

theorem stopped_sample :
    ((sampleRun sampleStopped).callers true).stage.isStopped = true
      ∧ ((sampleRun sampleStopped).callers true).app.forward.n32fContextId ≠ []
      ∧ ((sampleRun sampleStopped).callers true).app.handshake.n32cContextId = [] := by
  decide +kernel

theorem terminated_by_peer_first :
    (n32Network Reference.platform NbiServer.lenient Reference.config).Occurs
      (ReleasedFor Reference.platform NbiServer.lenient Reference.config true
        ((sampleRun sampleStopped).callers true).app.forward.n32fContextId)
      (Calls.start sampleInitiators (some prinsProducer)) sampleStopped := by
  obtain ⟨hstopped, hne, hcleared⟩ := stopped_sample
  have hstage := Stage.isStopped_iff.mp hstopped
  unfold sampleRun at hstage hne hcleared ⊢
  exact terminated_by_peer readsBack_reference rejectsProblemsAsParams_reference
    justStarted_sample gives_sampleStopped true hstage hne hcleared

end Sepp
