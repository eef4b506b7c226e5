import Sepp.Machine
import Sepp.Reference
import Sepp.SeppApp

/-!
# One context for all partners

The handshake object of a SEPP serves every roaming partner and has a
single context id. A partner's context is therefore held until any partner
negotiates again: `held_until_renegotiated` says what leaves it alone, and
`not_held_after_other` what does not.
-/

namespace Sepp

/-- A request of a partner `q`. -/
inductive PartnerEvent (π : Type) where
  | exchangeParams (q : π) (uuid : Uuid) (reqData : Json)
  | n32fTerminate (q : π) (reqData : Json)

/-- One SEPP and the requests of its partners; the output is whether a
request was answered with success. -/
def partnerMachine (π : Type) (E : Platform) (cfg : SeppConfig) :
    Machine N32cHandshake (PartnerEvent π) (Except Exn Bool) where
  next σ
    | .exchangeParams _ uuid reqData =>
        (σ.handleExchangeParams E cfg uuid reqData .null ∅).state
    | .n32fTerminate _ reqData => (σ.handleN32fTerminateReq E reqData .null ∅).state
  out σ
    | .exchangeParams _ uuid reqData =>
        (σ.handleExchangeParams E cfg uuid reqData .null ∅).ret
    | .n32fTerminate _ reqData => (σ.handleN32fTerminateReq E reqData .null ∅).ret

section Partners

variable {π : Type} {E : Platform} {cfg : SeppConfig}

/-- Each partner names its own context, if the request can be read at all. -/
def UsesOwnId (E : Platform) (own : π → Str) : PartnerEvent π → Prop
  | .exchangeParams q _ reqData =>
      ∀ req, E.secParamExchReq.fromJson reqData = some req → req.n32fContextId = own q
  | .n32fTerminate q reqData =>
      ∀ info, E.contextInfo.fromJson reqData = some info → info.n32fContextId = own q

/-- The context and the suites negotiated with it. -/
def Holds (σ : N32cHandshake) (c jwe jws : Str) : Prop :=
  σ.n32cContextId = c ∧ σ.selectedJweCipher = jwe ∧ σ.selectedJwsCipher = jws

/-- No exchange of parameters is answered with success, and no termination
by `p`. -/
def Undisturbing (E : Platform) (cfg : SeppConfig) (p : π) (σ : N32cHandshake)
    (e : PartnerEvent π) : Prop :=
  match e with
  | .exchangeParams .. => (partnerMachine π E cfg).out σ e ≠ .ok true
  | .n32fTerminate q _ => q = p → (partnerMachine π E cfg).out σ e ≠ .ok true

theorem holds_next {own : π → Str} (hown : Function.Injective own) {p : π}
    {jwe jws : Str} (σ : N32cHandshake) (e : PartnerEvent π) (h : Holds σ (own p) jwe jws)
    (hg : UsesOwnId E own e ∧ Undisturbing E cfg p σ e) :
    Holds ((partnerMachine π E cfg).next σ e) (own p) jwe jws := by
  obtain ⟨hid, hquiet⟩ := hg
  have hsame : (partnerMachine π E cfg).next σ e = σ := by
    cases e with
    | exchangeParams q uuid reqData =>
        rcases N32cHandshake.handleExchangeParams_cases (E := E) (σ := σ)
          with ⟨req, -, -, hret, -⟩ | ⟨-, hstate, -⟩
        · exact absurd hret hquiet
        · exact hstate
    | n32fTerminate q reqData =>
        rcases N32cHandshake.handleN32fTerminateReq_cases (E := E) (σ := σ)
          with ⟨info, hinfo, -, hret, hstate⟩ | ⟨-, hstate⟩
        · have hqp : q ≠ p := fun hqp => hquiet hqp hret
          have hne : σ.n32cContextId ≠ info.n32fContextId := by
            rw [h.1, hid info hinfo]
            exact fun heq => hqp (hown heq).symm
          exact hstate.trans (N32cHandshake.dropContext_of_ne hne)
        · exact hstate
  rw [hsame]
  exact h

/-- After a partner's exchange of parameters was answered with success, the
SEPP holds its context and the suites selected in it until a partner
renegotiates with success or that partner terminates with success. The
terminations of the other partners and all refused requests in between
change nothing. -/
theorem held_until_renegotiated {own : π → Str} (hown : Function.Injective own) {p : π}
    {σ : N32cHandshake} {uuid : Uuid} {reqData : Json} {es : List (PartnerEvent π)}
    (hne : own p ≠ []) (hid : UsesOwnId E own (.exchangeParams p uuid reqData))
    (haccepted : (partnerMachine π E cfg).out σ (.exchangeParams p uuid reqData) = .ok true)
    (hquiet : (partnerMachine π E cfg).Guarded
      (fun σ e => UsesOwnId E own e ∧ Undisturbing E cfg p σ e)
      ((partnerMachine π E cfg).next σ (.exchangeParams p uuid reqData)) es) :
    ∃ req, E.secParamExchReq.fromJson reqData = some req
      ∧ Holds ((partnerMachine π E cfg).run σ (.exchangeParams p uuid reqData :: es)) (own p)
          (N32cHandshake.selectSuite req.jweCipherSuiteList (ascii "A128GCM"))
          (N32cHandshake.selectSuite req.jwsCipherSuiteList (ascii "ES256")) := by
  rcases N32cHandshake.handleExchangeParams_cases (E := E) (σ := σ)
    with ⟨req, hreq, -, -, hstate⟩ | ⟨hret, -⟩
  · refine ⟨req, hreq, ?_⟩
    have hadopted : Holds ((partnerMachine π E cfg).next σ (.exchangeParams p uuid reqData))
        (own p) (N32cHandshake.selectSuite req.jweCipherSuiteList (ascii "A128GCM"))
        (N32cHandshake.selectSuite req.jwsCipherSuiteList (ascii "ES256")) := by
      have hnamed : req.n32fContextId = own p := hid req hreq
      rw [show (partnerMachine π E cfg).next σ (.exchangeParams p uuid reqData) = _ from hstate]
      refine ⟨?_, rfl, rfl⟩
      simp only [N32cHandshake.adoptParams, hnamed, if_pos hne]
    rw [Machine.run_cons]
    exact Machine.inv_of_guarded (holds_next hown) hadopted hquiet
  · have hfalse : (Except.ok false : Except Exn Bool) = .ok true := hret.symm.trans haccepted
    cases hfalse

end Partners

/-! ## Two partners -/

def ownId : Bool → Str
  | true => ascii "c1"
  | false => ascii "c2"

theorem ownId_injective : Function.Injective ownId := by
  intro q q' h
  cases q <;> cases q'
  · rfl
  · exact absurd h (by decide)
  · exact absurd h (by decide)
  · rfl

def sampleUuid : Uuid := { text := ascii "00000000", nonempty := by decide }

/-- An exchange of parameters that offers no suites. -/
def sampleExchange (q : Bool) : PartnerEvent Bool :=
  .exchangeParams q sampleUuid (Reference.platform.secParamExchReq.toJson
    { n32fContextId := ownId q
      sender := ascii "sepp"
      jweCipherSuiteList := none
      jwsCipherSuiteList := none
      protectionPolicyInfo := none })

def sampleTermination (q : Bool) : PartnerEvent Bool :=
  .n32fTerminate q (Reference.platform.contextInfo.toJson { n32fContextId := ownId q })

theorem usesOwnId_sampleExchange (q : Bool) :
    UsesOwnId Reference.platform ownId (sampleExchange q) := by
  intro req hreq
  rw [Reference.platform.secParamExchReq.fromJson_toJson] at hreq
  obtain rfl := Option.some.inj hreq
  rfl

theorem held_until_renegotiated_sample :
    ((partnerMachine Bool Reference.platform Reference.config).run {}
      [sampleExchange true, sampleTermination false]).n32cContextId = ascii "c1" := by
  have hquiet : (partnerMachine Bool Reference.platform Reference.config).Guarded
      (fun σ e => UsesOwnId Reference.platform ownId e
        ∧ Undisturbing Reference.platform Reference.config true σ e)
      ((partnerMachine Bool Reference.platform Reference.config).next {} (sampleExchange true))
      [sampleTermination false] := by
    refine ⟨⟨fun info hinfo => ?_, fun h => by cases h⟩, trivial⟩
    rw [Reference.platform.contextInfo.fromJson_toJson] at hinfo
    obtain rfl := Option.some.inj hinfo
    rfl
  obtain ⟨req, -, hheld⟩ := held_until_renegotiated ownId_injective (by decide)
    (usesOwnId_sampleExchange true) rfl hquiet
  exact hheld.1

/-- The exchange of another partner takes the context away, and is answered
with success. -/
theorem not_held_after_other :
    let M := partnerMachine Bool Reference.platform Reference.config
    Function.Injective ownId
      ∧ UsesOwnId Reference.platform ownId (sampleExchange true)
      ∧ UsesOwnId Reference.platform ownId (sampleExchange false)
      ∧ M.out {} (sampleExchange true) = .ok true
      ∧ M.out (M.next {} (sampleExchange true)) (sampleExchange false) = .ok true
      ∧ (M.run {} [sampleExchange true, sampleExchange false]).n32cContextId
          ≠ ownId true :=
  ⟨ownId_injective, usesOwnId_sampleExchange true, usesOwnId_sampleExchange false, rfl, rfl,
    by decide⟩

end Sepp
