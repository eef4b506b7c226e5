import Sepp.N32cAgreement
import Sepp.Reference

/-!
# The security capability of the two ends

The capability exchange selects nothing: the responder announces the
capability it was configured with, whatever was offered, and each end goes
on with its own. `announced_configured` says so of every run, and that the
two ends therefore agree exactly when they were configured alike.
-/

namespace Sepp

namespace Ends

def initiator (p : Ends) : Side → N32cHandshake
  | .a => p.a
  | .b => p.b

def responder (p : Ends) : Side → N32cHandshake
  | .a => p.b
  | .b => p.a

end Ends

section Exchange

variable (E : Platform) (cfg : Side → SeppConfig)

/-- The configuration of the end that answers. -/
def answering (side : Side) : SeppConfig :=
  match side with
  | .a => cfg .b
  | .b => cfg .a

/-- What the initiator of a capability exchange offers. -/
def offer (p : Ends) (side : Side) : Json := (p.initiator side).createExchangeCapabilityReq E

/-- What its responder makes of the offer. -/
def answered (p : Ends) (side : Side) : N32cHandled :=
  (p.responder side).handleExchangeCapabilityRequest E (answering cfg side) (offer E p side)
    .null ∅

/-- The exchange agreed on a capability: the one announced was offered, and
both ends use it from then on. -/
def Agreed (p : Ends) (side : Side) : Prop :=
  ∃ announced offered,
    (answered E cfg p side).respData.find? (ascii "selectedSecCapability")
        = some (.str announced)
      ∧ N32cHandshake.supportedCaps (offer E p side) = .ok offered
      ∧ announced ∈ offered
      ∧ ((handshakeMachine E cfg).next p (side, .capability)).a.selectedSecCapability
          = announced
      ∧ ((handshakeMachine E cfg).next p (side, .capability)).b.selectedSecCapability
          = announced

end Exchange

namespace N32cHandshake

section Configured

variable {E : Platform} {cfg : SeppConfig}

/-- No round trip changes what either end was configured with. -/
theorem perform_configured (i r : N32cHandshake) (t : RoundTrip) :
    (perform E cfg i r t).initiator.selectedSecCapability = i.selectedSecCapability
      ∧ (perform E cfg i r t).responder.selectedSecCapability = r.selectedSecCapability := by
  cases t with
  | capability =>
      obtain ⟨_, _, _, _, _, hi, hr⟩ := perform_capability_frame E cfg i r
      rw [hi, hr]
      exact ⟨rfl, rfl⟩
  | params uuid uuid' =>
      have hcreated : (i.createExchangeParamsReq E uuid).1.selectedSecCapability
          = i.selectedSecCapability := by
        simp only [createExchangeParamsReq]
        split <;> rfl
      have hreq : ∃ req, (i.createExchangeParamsReq E uuid).2 = E.secParamExchReq.toJson req :=
        ⟨_, rfl⟩
      obtain ⟨req, hreq⟩ := hreq
      simp only [perform, hreq, handleExchangeParams_toJson, handleExchangeParamsResponse_toJson]
      exact ⟨hcreated, rfl⟩
  | terminate =>
      simp only [perform]
      cases hreq : i.createN32fTerminateReq E with
      | none => exact ⟨rfl, rfl⟩
      | some req =>
          obtain ⟨-, rfl⟩ : i.n32cContextId ≠ [] ∧
              E.contextInfo.toJson { n32fContextId := i.n32cContextId } = req := by
            simpa [createN32fTerminateReq] using hreq
          simp only [handleN32fTerminateReq_toJson, handleN32fTerminateResponse,
            dropContext_capability, and_self]

/-- A responder that accepts announces what it was configured with. -/
theorem announces_configured {σ : N32cHandshake} {reqData : Json}
    (h : (handleExchangeCapabilityRequest E cfg σ reqData .null ∅).ret = .ok true) :
    (handleExchangeCapabilityRequest E cfg σ reqData .null ∅).respData.find?
      (ascii "selectedSecCapability") = some (.str σ.selectedSecCapability) := by
  revert h
  unfold handleExchangeCapabilityRequest
  split
  · exact nofun
  · split
    · exact nofun
    · split
      · exact nofun
      · dsimp only
        split
        · exact nofun
        · exact fun _ => rfl

/-- An initiator offers what it was configured with. -/
theorem offers_configured (σ : N32cHandshake) :
    supportedCaps (σ.createExchangeCapabilityReq E) = .ok [σ.selectedSecCapability] := by
  unfold supportedCaps createExchangeCapabilityReq
  rw [Json.find?_set (E.secNegotiateReq.isObject_toJson _)]
  rfl

end Configured

end N32cHandshake

section Runs

variable {E : Platform} {cfg : Side → SeppConfig}

theorem next_ends_configured (p : Ends) (e : Side × RoundTrip) :
    ((handshakeMachine E cfg).next p e).a.selectedSecCapability = p.a.selectedSecCapability
      ∧ ((handshakeMachine E cfg).next p e).b.selectedSecCapability
          = p.b.selectedSecCapability := by
  obtain ⟨side, t⟩ := e
  cases side with
  | a => exact N32cHandshake.perform_configured p.a p.b t
  | b => exact (N32cHandshake.perform_configured p.b p.a t).symm

theorem run_ends_configured (p : Ends) (es : List (Side × RoundTrip)) :
    ((handshakeMachine E cfg).run p es).a.selectedSecCapability = p.a.selectedSecCapability
      ∧ ((handshakeMachine E cfg).run p es).b.selectedSecCapability
          = p.b.selectedSecCapability := by
  refine Machine.inv_run (M := handshakeMachine E cfg)
    (I := fun q => q.a.selectedSecCapability = p.a.selectedSecCapability
      ∧ q.b.selectedSecCapability = p.b.selectedSecCapability) (fun q e hq => ?_) ⟨rfl, rfl⟩ es
  obtain ⟨ha, hb⟩ := next_ends_configured (E := E) q e
  exact ⟨ha.trans hq.1, hb.trans hq.2⟩

theorem answered_of_completed {p : Ends} {side : Side}
    (h : (handshakeMachine E cfg).out p (side, .capability) = true) :
    (answered E cfg p side).ret = .ok true := by
  have hperform : ∀ c (i r : N32cHandshake),
      (N32cHandshake.perform E c i r .capability).completed = true →
      (r.handleExchangeCapabilityRequest E c (i.createExchangeCapabilityReq E) .null ∅).ret
        = .ok true := by
    intro c i r hcompleted
    simp only [N32cHandshake.perform] at hcompleted
    split at hcompleted
    · assumption
    · cases hcompleted
  cases side with
  | a => exact hperform (cfg .b) p.a p.b h
  | b => exact hperform (cfg .a) p.b p.a h

theorem responder_configured {p q : Ends} {side : Side}
    (ha : p.a.selectedSecCapability = q.a.selectedSecCapability)
    (hb : p.b.selectedSecCapability = q.b.selectedSecCapability) :
    (p.responder side).selectedSecCapability = (q.responder side).selectedSecCapability := by
  cases side with
  | a => exact hb
  | b => exact ha

theorem initiator_configured {p q : Ends} {side : Side}
    (ha : p.a.selectedSecCapability = q.a.selectedSecCapability)
    (hb : p.b.selectedSecCapability = q.b.selectedSecCapability) :
    (p.initiator side).selectedSecCapability = (q.initiator side).selectedSecCapability := by
  cases side with
  | a => exact ha
  | b => exact hb

/-- After any run, in an exchange accepted on both ends the responder
announces the capability it was configured with and both ends go on with
their own; they agree just when these are the same. -/
theorem announced_configured (start : Ends) (es : List (Side × RoundTrip)) (side : Side) :
    let M := handshakeMachine E cfg
    let p := M.run start es
    M.out p (side, .capability) = true →
      (answered E cfg p side).respData.find? (ascii "selectedSecCapability")
          = some (.str (start.responder side).selectedSecCapability)
        ∧ N32cHandshake.supportedCaps (offer E p side)
            = .ok [(start.initiator side).selectedSecCapability]
        ∧ (M.next p (side, .capability)).a.selectedSecCapability
            = start.a.selectedSecCapability
        ∧ (M.next p (side, .capability)).b.selectedSecCapability
            = start.b.selectedSecCapability
        ∧ (Agreed E cfg p side ↔
            start.a.selectedSecCapability = start.b.selectedSecCapability) := by
  intro M p hout
  obtain ⟨ha, hb⟩ : p.a.selectedSecCapability = start.a.selectedSecCapability
      ∧ p.b.selectedSecCapability = start.b.selectedSecCapability :=
    run_ends_configured start es
  obtain ⟨hnexta, hnextb⟩ : (M.next p (side, .capability)).a.selectedSecCapability
        = p.a.selectedSecCapability
      ∧ (M.next p (side, .capability)).b.selectedSecCapability = p.b.selectedSecCapability :=
    next_ends_configured p (side, .capability)
  have hannounced : (answered E cfg p side).respData.find? (ascii "selectedSecCapability")
      = some (.str (start.responder side).selectedSecCapability) := by
    rw [← responder_configured ha hb]
    exact N32cHandshake.announces_configured (answered_of_completed hout)
  have hoffered : N32cHandshake.supportedCaps (offer E p side)
      = .ok [(start.initiator side).selectedSecCapability] := by
    rw [← initiator_configured ha hb]
    exact N32cHandshake.offers_configured (p.initiator side)
  refine ⟨hannounced, hoffered, hnexta.trans ha, hnextb.trans hb, ?_, fun hsame => ?_⟩
  · rintro ⟨announced, offered, -, -, -, husea, huseb⟩
    calc start.a.selectedSecCapability
        = announced := (hnexta.trans ha).symm.trans husea
      _ = start.b.selectedSecCapability := huseb.symm.trans (hnextb.trans hb)
  · have hboth : (start.responder side).selectedSecCapability
          = start.a.selectedSecCapability
        ∧ (start.initiator side).selectedSecCapability = start.a.selectedSecCapability := by
      cases side with
      | a => exact ⟨hsame.symm, rfl⟩
      | b => exact ⟨rfl, hsame.symm⟩
    rw [hboth.1] at hannounced
    rw [hboth.2] at hoffered
    exact ⟨_, _, hannounced, hoffered, List.mem_singleton_self _, hnexta.trans ha,
      (hnextb.trans hb).trans hsame.symm⟩

end Runs

/-- Both ends prefer PRINS, and agree on it. -/
theorem announced_configured_prins :
    let start := freshEnds (ascii "PRINS") (ascii "PRINS")
    (handshakeMachine Reference.platform fun _ => Reference.config).out start
        (.a, .capability) = true
      ∧ Agreed Reference.platform (fun _ => Reference.config) start .a := by
  intro start
  have hout : (handshakeMachine Reference.platform fun _ => Reference.config).out start
      (.a, .capability) = true := rfl
  exact ⟨hout, (announced_configured start [] .a hout).2.2.2.2.mpr rfl⟩

/-- An initiator configured for TLS offers only that, and the responder
announces PRINS. -/
theorem not_agreed_tls :
    let start := freshEnds (ascii "TLS") (ascii "PRINS")
    (handshakeMachine Reference.platform fun _ => Reference.config).out start
        (.a, .capability) = true
      ∧ ¬ Agreed Reference.platform (fun _ => Reference.config) start .a := by
  refine ⟨rfl, ?_⟩
  rintro ⟨announced, offered, -, -, -, husea, huseb⟩
  have hsame : ascii "TLS" = ascii "PRINS" := husea.trans huseb.symm
  revert hsame
  decide

end Sepp
