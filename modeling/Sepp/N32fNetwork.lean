import Sepp.Calls
import Sepp.SeppRuns

/-!
# NF requests under way

Any number of NF requests that pass at the same time, each through the SEPP
it was handed to, to the NBI server of one peer, over a network that delays,
reorders and loses what is sent, while anybody else asks that server
anything.

A request at its SEPP is a `Caller` (`Pending`): it sends at most one message
and reads at most one answer. The results say that such passages do not mix:

- `passages_atomic`: the peer takes a request at most once, and the reply to
  the NF is that of a `passage` made at the moment the peer took it, or the
  one for a peer that does not answer.
- `reply_is_own`: under PRINS the NF is told what the NF on the other side
  answered to this very request, whatever else was under way, or that the
  request was not forwarded.
-/

namespace Sepp

/-! ## A request at its SEPP -/

/-- A request of an NF, the SEPP as it was when it was handed the request, and
the reply once there is one. What is read of the SEPP after that is what it was
configured with. -/
structure Pending where
  cfg : SeppConfig
  app : SeppApp
  rand : Option (Bytes 12)
  req : NbiRequest
  reply : Option (Except Exn NbiResponse)

namespace Pending

/-- The resource with the peer's answer. -/
def handled (E : Platform) (p : Pending) (answer : HttpResponse) : NbiHandled :=
  SbiServer.nfService E p.cfg p.app p.rand answer p.req

/-- The message for the peer, until there is a reply. -/
def ask (E : Platform) (p : Pending) : Option NbiRequest :=
  match p.reply with
  | some _ => none
  | none => (p.handled E noAnswer).sent.head?.map (deliver (p.app.remoteSeppUrl.getD []))

def replied (E : Platform) (p : Pending) (answer : HttpResponse) : Pending :=
  { p with reply := some (p.handled E answer).reply }

/-- A request that sends nothing is replied to at its SEPP. -/
def turned (E : Platform) (p : Pending) : Pending :=
  match p.reply, p.ask E with
  | none, none => p.replied E noAnswer
  | _, _ => p

def caller (E : Platform) : Caller Pending NbiRequest NbiHandled Unit where
  ask := ask E
  answered p _ h := p.replied E (received h.reply)
  failed p := p.replied E noAnswer
  turn := turned E

theorem ask_of_reply {E : Platform} {p : Pending} {r : Except Exn NbiResponse}
    (h : p.reply = some r) : p.ask E = none := by
  simp only [ask, h]

theorem turned_cases (E : Platform) (p : Pending) :
    p.turned E = p ∨ p.reply = none ∧ p.turned E = p.replied E noAnswer := by
  unfold turned
  split
  · rename_i hreply _
    exact Or.inr ⟨hreply, rfl⟩
  · exact Or.inl rfl

theorem ask_replied (E : Platform) (p : Pending) (answer : HttpResponse) :
    (p.replied E answer).ask E = none := rfl

theorem asksOnce (E : Platform) : Calls.AsksOnce (caller E) where
  answered p _ h := ask_replied E p (received h.reply)
  failed p := ask_replied E p noAnswer
  turned p h := by
    show (p.turned E).ask E = none
    rcases turned_cases E p with hsame | ⟨-, hreplied⟩
    · rw [hsame]
      exact h
    · rw [hreplied]
      exact ask_replied E p noAnswer

/-- `p` is the request that came as `first`, with a reply or without. -/
def Same (first p : Pending) : Prop := { p with reply := first.reply } = first

theorem Same.replied {E : Platform} {first p : Pending} (h : Same first p)
    (answer : HttpResponse) : Same first (p.replied E answer) := h

/-- What asks has no reply yet. -/
theorem Same.of_ask {E : Platform} {first p : Pending} (h : Same first p)
    (hfirst : first.reply = none) {q : NbiRequest} (hq : p.ask E = some q) : p = first := by
  have hnone : p.reply = none := by
    cases hreply : p.reply with
    | none => rfl
    | some r =>
        rw [ask_of_reply hreply] at hq
        cases hq
  have hsame : { p with reply := first.reply } = p := by rw [hfirst, ← hnone]
  exact hsame.symm.trans h

theorem Same.handled {E : Platform} {first p : Pending} (h : Same first p)
    (answer : HttpResponse) : p.handled E answer = first.handled E answer := by
  rw [← h]
  rfl

/-- What is asked, the peer serves as a passage of the request. -/
theorem passage_of_ask {E : Platform} (C : Checks) (cfg : SeppConfig) {p : Pending}
    {q : NbiRequest} (h : p.ask E = some q) (t : SeppApp) (a : Ambient) :
    let v := NbiServer.serve E C cfg (some t) a q
    passage E C p.cfg cfg p.app t p.rand a p.req
      = { reply := (p.handled E (received v.reply)).reply, served := some v } := by
  intro v
  have hasks : (p.handled E noAnswer).sent.head?.map (deliver (p.app.remoteSeppUrl.getD []))
      = some q := by
    unfold ask at h
    split at h
    · cases h
    · exact h
  obtain ⟨q', hq', rfl⟩ := Option.map_eq_some_iff.mp hasks
  obtain ⟨rest, hsent⟩ := List.head?_eq_some_iff.mp hq'
  unfold handled at hsent
  simp only [passage, hsent]
  rfl

end Pending

/-- Without an answer an NF request under PRINS is not forwarded. -/
theorem badGateway_of_noAnswer {E : Platform} (cfg : SeppConfig) {s t : SeppApp} {url : Str}
    {rand : Option (Bytes 12)} {req : NbiRequest} {r : NbiResponse} (hpair : PrinsPair E s t url)
    (hreq : Plain req) (h : (SbiServer.nfService E cfg s rand noAnswer req).reply = .ok r) :
    r = SbiServer.badGateway := by
  by_cases hcreated : ∃ msg text, createN32fProcessRequest E s.forward rand
      (SbiServer.nfAuthority req.headers) (SbiServer.fullPath req) req.method req.body = some msg
      ∧ E.dump msg = .ok text
  · obtain ⟨msg, text, hmsg, hdump⟩ := hcreated
    rw [nfService_of_created cfg hpair.consumer hpair.url hreq.authority_ne_nil hmsg hdump] at h
    have hstatus : ¬ (noAnswer.statusCode = 200 ∨ noAnswer.statusCode = 201) := by decide
    rw [← Except.ok.inj h]
    exact if_neg fun hread => hstatus hread.1
  · exact (nfService_of_not_created cfg hpair.consumer hpair.url hreq.authority_ne_nil
      (fun msg text hmsg hdump => hcreated ⟨msg, text, hmsg, hdump⟩) noAnswer).2 r h

/-! ## The network -/

section Network

variable {ι : Type*} [DecidableEq ι] {E : Platform} {C : Checks} {cfg : SeppConfig}

/-- NF requests around the NBI server of a peer. -/
abbrev N32fNetwork (ι : Type*) := Calls ι Pending (Option SeppApp) NbiRequest NbiHandled

abbrev N32fNetworkEvent (ι : Type*) := CallEvent ι NbiRequest Unit Ambient

def n32fNetwork (E : Platform) (C : Checks) (cfg : SeppConfig) :
    Machine (N32fNetwork ι) (N32fNetworkEvent ι) Unit :=
  Calls.machine (nbiMachine E C cfg) (Pending.caller E)

/-- The event is the whole passage of the request `first`, with the reply `ρ`,
between its SEPP and the peer as the peer is now. -/
def Passes (E : Platform) (C : Checks) (cfg : SeppConfig) (i : ι) (first : Pending)
    (ρ : Except Exn NbiResponse) (net : N32fNetwork ι) (e : N32fNetworkEvent ι) : Prop :=
  ∃ k a c t, e = .serve k a ∧ net.requests[k]? = some c ∧ c.caller = i ∧ net.server = some t
    ∧ let v := NbiServer.serve E C cfg (some t) a c.content
      passage E C first.cfg cfg first.app t first.rand a first.req
          = { reply := ρ, served := some v }
        ∧ ((n32fNetwork E C cfg).next net e).server = v.inst

/-- A message of a request is served as its passage. -/
theorem passes_serve {net : N32fNetwork ι} {i : ι} {first : Pending} {k : ℕ}
    {c : Call ι NbiRequest} {t : SeppApp} (hc : net.requests[k]? = some c) (hi : c.caller = i)
    (hask : first.ask E = some c.content) (ht : net.server = some t) (a : Ambient) :
    Passes E C cfg i first
      (first.handled E (received ((nbiMachine E C cfg).out net.server (a, c.content)).reply)).reply
      net (.serve k a) := by
  refine ⟨k, a, c, t, rfl, hc, hi, ht, ?_, ?_⟩
  · rw [ht]
    exact Pending.passage_of_ask C cfg hask t a
  · simp only [n32fNetwork, Calls.machine, hc, Calls.served, ht]
    rfl

omit [DecidableEq ι] in
theorem keeps_same (C : Checks) (cfg : SeppConfig) (first : ι → Pending) :
    Calls.Keeps (nbiMachine E C cfg) (Pending.caller E) (fun _ _ => True)
      (fun i p => Pending.Same (first i) p) where
  answered _ _ _ _ _ _ hJ _ _ := hJ.replied _
  failed _ _ hJ := hJ.replied _
  turned i p hJ := by
    show Pending.Same (first i) (p.turned E)
    rcases Pending.turned_cases E p with hsame | ⟨-, hreplied⟩
    · rw [hsame]
      exact hJ
    · rw [hreplied]
      exact hJ.replied _

omit [DecidableEq ι] in
/-- A message under way is that of the request, also when the request has a
reply by now. -/
theorem follows_ask {first : ι → Pending} (hfirst : ∀ i, (first i).reply = none) :
    Calls.Follows (Pending.caller E) (fun i p => Pending.Same (first i) p)
      (fun i _ q => (first i).ask E = some q) where
  asked i p q hJ hq := by
    rw [← hJ.of_ask (hfirst i) hq]
    exact hq
  answered _ _ _ _ _ hR := hR
  failed _ _ _ hR := hR
  turned _ _ _ hR := hR

variable {first : ι → Pending}

/-- The peer stays in service, configured as it was. -/
theorem peer_run (E : Platform) (C : Checks) (cfg : SeppConfig) (first : ι → Pending)
    (t : SeppApp) (es : List (N32fNetworkEvent ι)) :
    ∃ t', ((n32fNetwork E C cfg).run (Calls.start first (some t)) es).server = some t'
      ∧ t'.configured = t.configured :=
  Calls.inv_server (configured_nbi E C cfg) ⟨t, rfl, rfl⟩ es

/-- The reply to an NF is that of one passage of its request, or the one
without an answer. -/
theorem passes_of_reply (hfirst : ∀ i, (first i).reply = none) (t : SeppApp)
    (es : List (N32fNetworkEvent ι)) {i : ι} {ρ : Except Exn NbiResponse}
    (hreply : (((n32fNetwork E C cfg).run (Calls.start first (some t)) es).callers i).reply
      = some ρ) :
    ρ = ((first i).handled E noAnswer).reply
    ∨ (n32fNetwork E C cfg).Occurs (Passes E C cfg i (first i) ρ) (Calls.start first (some t))
        es := by
  by_cases hnone : ρ = ((first i).handled E noAnswer).reply
  · exact Or.inl hnone
  have hfailed : ∀ p, Pending.Same (first i) p → (p.replied E noAnswer).reply = some ρ →
      p.reply = some ρ := by
    intro p hJ h
    have hρ : (p.handled E noAnswer).reply = ρ := Option.some.inj h
    rw [hJ.handled noAnswer] at hρ
    exact absurd hρ.symm hnone
  have hturned : ∀ p, Pending.Same (first i) p → (p.turned E).reply = some ρ →
      p.reply = some ρ := by
    intro p hJ h
    rcases Pending.turned_cases E p with hsame | ⟨-, hreplied⟩
    · rw [hsame] at h
      exact h
    · rw [hreplied] at h
      exact hfailed p hJ h
  have hno : (first i).reply ≠ some ρ := by
    rw [hfirst i]
    exact fun h => by cases h
  obtain ⟨p, h, hJ, hρ, pre, e, post, hes, -, k, a, c, rfl, hc, hi, hask, rfl, -⟩ :=
    Calls.served_of_caller (K := fun p => p.reply = some ρ)
      (L := fun p h => (p.handled E (received h.reply)).reply = ρ) (keeps_same C cfg first)
      (fun _ => rfl) (Calls.gives_any fun _ _ => trivial) hfailed hturned
      (fun _ _ _ _ hK => Or.inr (Option.some.inj hK)) hno hreply
  obtain rfl := hJ.of_ask (hfirst i) hask
  obtain ⟨t', ht', -⟩ := peer_run E C cfg first t pre
  exact Or.inr ⟨pre, _, post, hes, hρ ▸ passes_serve hc hi hask ht' a⟩

/-- However NF requests, their messages and the answers to them overtake each
other or are lost, the peer takes each request at most once, by a passage of
that request at one moment. The NF is told what came of this passage, or what
it is told without an answer. -/
theorem passages_atomic (hfirst : ∀ i, (first i).reply = none) (t : SeppApp)
    (es : List (N32fNetworkEvent ι)) (i : ι) :
    let M := n32fNetwork E C cfg
    let start : N32fNetwork ι := Calls.start first (some t)
    (∀ pre e post, es = pre ++ e :: post → Calls.Takes i (M.run start pre) e →
        (∃ ρ, Passes E C cfg i (first i) ρ (M.run start pre) e)
          ∧ ¬ M.Occurs (Calls.Takes i) (M.next (M.run start pre) e) post)
      ∧ ∀ ρ, ((M.run start es).callers i).reply = some ρ →
          ρ = ((first i).handled E noAnswer).reply
          ∨ M.Occurs (Passes E C cfg i (first i) ρ) start es := by
  intro M start
  refine ⟨?_, fun ρ hreply => passes_of_reply hfirst t es hreply⟩
  rintro pre e post - htakes
  refine ⟨?_, Calls.takes_once (Pending.asksOnce E) htakes⟩
  obtain ⟨k, a, c, rfl, hc, hi⟩ := htakes
  obtain ⟨t', ht', -⟩ := peer_run E C cfg first t pre
  have hask := Calls.inv_requests (keeps_same C cfg first) (follows_ask hfirst) (fun _ => rfl)
    (Calls.gives_any fun _ _ => trivial) c (List.mem_of_getElem? hc)
  rw [hi] at hask
  exact ⟨_, passes_serve hc hi hask ht' a⟩

/-! ### Under PRINS -/

/-- The event is the peer serving a message of `i` by sending the NF there the
request `req`, and `r` hands on the NF's answer where that fits. The peer is left
as it was. -/
def Relays (E : Platform) (C : Checks) (cfg : SeppConfig) (i : ι) (req : NbiRequest)
    (r : NbiResponse) (net : N32fNetwork ι) (e : N32fNetworkEvent ι) : Prop :=
  ∃ k a c t, e = .serve k a ∧ net.requests[k]? = some c ∧ c.caller = i ∧ net.server = some t
    ∧ (NbiServer.serve E C cfg (some t) a c.content).sent = [localRequest E req]
    ∧ (AnswerFits E req (a.nf (localRequest E req)) → HandsOn (a.nf (localRequest E req)) r)
    ∧ ((n32fNetwork E C cfg).next net e).server = some t

/-- Under PRINS an NF is told what the NF on the other side answered to the
request it made, whatever other requests were under way, or that the request
was not forwarded. The request must fit into a message, and so must the answer. -/
theorem reply_is_own (hfirst : ∀ i, (first i).reply = none) {t : SeppApp} {url : Str} {i : ι}
    (hpair : PrinsPair E (first i).app t url) (hreq : Plain (first i).req)
    (hfits : Fits E (first i).req) (es : List (N32fNetworkEvent ι)) {r : NbiResponse}
    (hreply : (((n32fNetwork E C cfg).run (Calls.start first (some t)) es).callers i).reply
      = some (.ok r)) :
    r = SbiServer.badGateway
    ∨ (n32fNetwork E C cfg).Occurs (Relays E C cfg i (first i).req r)
        (Calls.start first (some t)) es := by
  rcases passes_of_reply hfirst t es hreply with hnone | ⟨pre, e, post, hes, k, a, c, t', he, hc,
    hi, ht', hpassage, hnext⟩
  · exact Or.inl (badGateway_of_noAnswer (first i).cfg hpair hreq hnone.symm)
  · obtain ⟨t'', ht'', hconfigured⟩ := peer_run E C cfg first t pre
    obtain rfl : t'' = t' := Option.some.inj (ht''.symm.trans ht')
    have hpair' := hpair.of_configured rfl hconfigured
    obtain ⟨hserved, hreplied⟩ := @prins_passage E C (first i).cfg cfg (first i).app t''
      (first i).rand a (first i).req url hpair' hreq
    rw [hpassage] at hserved hreplied
    rcases hreplied hfits r rfl with hbad | ⟨hands, v, hv, hsent⟩
    · exact Or.inl hbad
    · obtain rfl := Option.some.inj hv
      exact Or.inr ⟨pre, e, post, hes, k, a, c, t'', he, hc, hi, ht', hsent, hands,
        hnext.trans (hserved _ rfl).1⟩

end Network

/-! ### Two requests that overtake each other -/

/-- Two NFs ask at one SEPP. -/
def samplePending (i : Bool) : Pending :=
  { cfg := Reference.config
    app := prinsConsumer
    rand := none
    req := if i then samplePost else { samplePost with path := ascii "/nausf-auth/v1" }
    reply := none }

/-- The peer takes the second message first, and its answer is lost. -/
def samplePassages : List (N32fNetworkEvent Bool) :=
  [.send true, .send false, .serve 1 sampleGone, .serve 0 sampleGone, .giveUp false,
    .deliver 1 ()]

def sampleN32f : N32fNetwork Bool :=
  (n32fNetwork Reference.platform NbiServer.lenient Reference.config).run
    (Calls.start samplePending (some prinsProducer)) samplePassages

def statusOf (reply : Option (Except Exn NbiResponse)) : Option Int :=
  (reply.bind Except.toOption).map NbiResponse.statusCode

theorem statusOf_eq_some {reply : Option (Except Exn NbiResponse)} {n : Int}
    (h : statusOf reply = some n) : ∃ r, reply = some (.ok r) ∧ r.statusCode = n := by
  obtain ⟨r, hr, hstatus⟩ := Option.map_eq_some_iff.mp h
  obtain ⟨ρ, rfl, hρ⟩ := Option.bind_eq_some_iff.mp hr
  cases ρ with
  | error e => cases hρ
  | ok r' =>
      obtain rfl : r' = r := Option.some.inj hρ
      exact ⟨r', rfl, hstatus⟩

theorem statusOf_samplePassages : statusOf (sampleN32f.callers true).reply = some 404 := by
  decide +kernel

theorem passages_atomic_overtaken : ∃ ρ, (sampleN32f.callers true).reply = some ρ
    ∧ (n32fNetwork Reference.platform NbiServer.lenient Reference.config).Occurs
        (Passes Reference.platform NbiServer.lenient Reference.config true (samplePending true) ρ)
        (Calls.start samplePending (some prinsProducer)) samplePassages := by
  obtain ⟨r, hr, hstatus⟩ := statusOf_eq_some statusOf_samplePassages
  unfold sampleN32f at hr ⊢
  refine ⟨.ok r, hr, ?_⟩
  rcases (passages_atomic (fun _ => rfl) prinsProducer samplePassages true).2 (.ok r) hr
    with hnone | hpasses
  · have hno : statusOf (some ((samplePending true).handled Reference.platform noAnswer).reply)
        = some 502 := by decide +kernel
    rw [← hnone] at hno
    have hsame : r.statusCode = 502 := Option.some.inj hno
    omega
  · exact hpasses

/-- The NF is told of its own request, although the other was taken in
between. -/
theorem reply_is_own_overtaken : ∃ r, (sampleN32f.callers true).reply = some (.ok r)
    ∧ r.statusCode = 404
    ∧ (n32fNetwork Reference.platform NbiServer.lenient Reference.config).Occurs
        (Relays Reference.platform NbiServer.lenient Reference.config true samplePost r)
        (Calls.start samplePending (some prinsProducer)) samplePassages := by
  obtain ⟨r, hr, hstatus⟩ := statusOf_eq_some statusOf_samplePassages
  unfold sampleN32f at hr ⊢
  refine ⟨r, hr, hstatus, ?_⟩
  rcases reply_is_own (i := true) (fun _ => rfl) prinsPair_sample plain_samplePost fits_samplePost
    samplePassages hr with hbad | hrelays
  · rw [hbad] at hstatus
    exact absurd hstatus (by decide)
  · exact hrelays

end Sepp
