import Sepp.Calls
import Sepp.N32cAgreement
import Sepp.SeppRuns

/-!
# A C-SEPP as a caller

What a C-SEPP asks its P-SEPP in its life, one request at a time: those of
`create_exchange_capability` and, in the end, that of `stop`. It is stated
apart from the functions as they stand in the source, so that anything can
happen between a request and its answer; `createExchangeCapability_staged`
and `stop_staged` connect the two.

The source runs `create_exchange_capability` once, when the SEPP is
constructed; here it may be run again at any time before the stop.
-/

namespace Sepp

/-! ## A C-SEPP -/

/-- The request a C-SEPP is at, or that it has stopped. -/
inductive Stage where
  | capability
  | params (q : HttpRequest)
  | terminate (q : HttpRequest)
  | stopped

namespace Stage

/-- Without a request there is nothing to wait for. -/
def after : Option (Except Exn HttpRequest) → Stage
  | some (.ok q) => params q
  | _ => capability

def ending : Option (Except Exn HttpRequest) → Stage
  | some (.ok q) => terminate q
  | _ => stopped

/-- The SEPP was told to stop. -/
def ends : Stage → Bool
  | terminate _ | stopped => true
  | capability | params _ => false

/-- The SEPP is at no request that was made before. -/
def idle : Stage → Bool
  | capability | stopped => true
  | params _ | terminate _ => false

def isStopped : Stage → Bool
  | stopped => true
  | capability | params _ | terminate _ => false

theorem isStopped_iff {stage : Stage} : stage.isStopped = true ↔ stage = stopped := by
  cases stage <;> simp [isStopped]

theorem ne_stopped {stage : Stage} (h : stage.ends = false) : stage ≠ stopped := by
  rintro rfl
  cases h

theorem ends_after (made : Option (Except Exn HttpRequest)) : (Stage.after made).ends = false := by
  unfold after
  split <;> rfl

theorem after_eq_capability {made : Option (Except Exn HttpRequest)}
    (h : ∀ q, made ≠ some (.ok q)) : Stage.after made = .capability := by
  unfold after
  split
  · exact absurd rfl (h _)
  · rfl

theorem ending_eq_stopped {made : Option (Except Exn HttpRequest)}
    (h : ∀ q, made ≠ some (.ok q)) : Stage.ending made = .stopped := by
  unfold ending
  split
  · exact absurd rfl (h _)
  · rfl

theorem after_eq_params {made : Option (Except Exn HttpRequest)} {q : HttpRequest}
    (h : Stage.after made = .params q) : made = some (.ok q) := by
  unfold after at h
  split at h
  · injection h with h
    rw [h]
  · cases h

end Stage

structure Initiator where
  app : SeppApp
  stage : Stage

namespace Initiator

def ask (E : Platform) (i : Initiator) : Option NbiRequest :=
  match i.stage with
  | .capability => ((i.app.capabilityRequest E).bind Except.toOption).map
      (deliver (i.app.remoteSeppUrl.getD []))
  | .params q | .terminate q => some (deliver (i.app.remoteSeppUrl.getD []) q)
  | .stopped => none

/-- The state after the peer's answer, and with the UUID that would be
generated. -/
def answered (E : Platform) (C : Checks) (i : Initiator) (uuid : Uuid) (h : NbiHandled) :
    Initiator :=
  match i.stage with
  | .capability =>
      let (app, goesOn) := i.app.adoptExchangeCapability E C (received h.reply)
      if goesOn then
        { app := (app.paramsRequest E uuid).1, stage := .after (app.paramsRequest E uuid).2 }
      else { app, stage := .capability }
  | .params _ =>
      { app := i.app.adoptExchangeParams E (received h.reply), stage := .capability }
  | .terminate _ => { app := i.app.adoptTerminate E (received h.reply), stage := .stopped }
  | .stopped => i

/-- `stop`, which only comes after the constructor has returned. -/
def stop (E : Platform) (i : Initiator) : Initiator :=
  match i.stage with
  | .capability => { i with stage := .ending (i.app.terminateRequest E) }
  | _ => i

theorem stop_app {E : Platform} (i : Initiator) : (i.stop E).app = i.app := by
  obtain ⟨app, stage⟩ := i
  cases stage <;> rfl

def caller (E : Platform) (C : Checks) : Caller Initiator NbiRequest NbiHandled Uuid where
  ask := ask E
  answered := answered E C
  failed i := { i with stage := if i.stage.ends then .stopped else .capability }
  turn := stop E

end Initiator

section Staged

variable {E : Platform} {s : SeppApp}

theorem ask_capability {q : NbiRequest}
    (h : Initiator.ask E { app := s, stage := .capability } = some q) :
    ∃ made, s.capabilityRequest E = some (.ok made)
      ∧ q = deliver (s.remoteSeppUrl.getD []) made := by
  obtain ⟨made, hmade, rfl⟩ := Option.map_eq_some_iff.mp h
  obtain ⟨made', hmade', hok⟩ := Option.bind_eq_some_iff.mp hmade
  cases made' with
  | error e => cases hok
  | ok q' =>
      obtain rfl : q' = made := Option.some.inj hok
      exact ⟨q', hmade', rfl⟩

/-- The stages are those of `create_exchange_capability`. -/
theorem createExchangeCapability_staged (C : Checks) (uuid : Uuid) {q : HttpRequest}
    (hq : s.capabilityRequest E = some (.ok q)) (h h' : NbiHandled) :
    let r := s.createExchangeCapability E C uuid (received h.reply) (received h'.reply)
    let i := Initiator.answered E C { app := s, stage := .capability } uuid h
    (i.stage = .capability ∧ r.state = i.app ∧ r.sent = [q])
    ∨ ∃ q', i.stage = .params q' ∧ r.state = (i.answered E C uuid h').app ∧ r.sent = [q, q'] := by
  intro r i
  let adopted := s.adoptExchangeCapability E C (received h.reply)
  have hr : r = if adopted.2 = true then
        { ret := .ok ()
          state := (adopted.1.createExchangeParams E uuid (received h'.reply)).state
          sent := q :: (adopted.1.createExchangeParams E uuid (received h'.reply)).sent }
      else { ret := .ok (), state := adopted.1, sent := [q] } := by
    simp only [r, SeppApp.createExchangeCapability, hq, adopted]
  by_cases hon : adopted.2 = true
  · have hi : i = { app := (adopted.1.paramsRequest E uuid).1
                    stage := .after (adopted.1.paramsRequest E uuid).2 } := if_pos hon
    rw [if_pos hon, SeppApp.createExchangeParams] at hr
    rcases SeppApp.asked_cases (adopted.1.paramsRequest E uuid).1
      ((adopted.1.paramsRequest E uuid).1.adoptExchangeParams E (received h'.reply))
      (adopted.1.paramsRequest E uuid).2 with ⟨hnone, hstate, hsent⟩ | ⟨q', hsome, hasked⟩
    · refine Or.inl ⟨?_, ?_, ?_⟩
      · rw [hi]
        exact Stage.after_eq_capability hnone
      · rw [hr, hi]
        exact hstate
      · rw [hr]
        exact congrArg (q :: ·) hsent
    · rw [hsome] at hi
      refine Or.inr ⟨q', by rw [hi]; rfl, ?_, ?_⟩
      · rw [hr, hi]
        exact congrArg AppHandled.state hasked
      · rw [hr]
        exact congrArg (q :: ·) (congrArg AppHandled.sent hasked)
  · have hi : i = { app := adopted.1, stage := .capability } := if_neg hon
    rw [if_neg hon] at hr
    exact Or.inl ⟨by rw [hi], by rw [hr, hi], by rw [hr]⟩

/-- The stages after it are those of `stop`. -/
theorem stop_staged (C : Checks) (nrfUrl : Str) (uuid : Uuid) (h : NbiHandled) :
    let r := s.stop E true nrfUrl (received h.reply)
    let i := Initiator.stop E { app := s, stage := .capability }
    (i.stage = .stopped ∧ r.state = i.app
      ∧ (r.sent = [] ∨ r.sent = [SeppApp.deregisterRequest nrfUrl]))
    ∨ ∃ q, i.stage = .terminate q ∧ r.state = (i.answered E C uuid h).app
      ∧ r.sent = [q, SeppApp.deregisterRequest nrfUrl] := by
  intro r i
  have hi : i = { app := s, stage := .ending (s.terminateRequest E) } := rfl
  rcases SeppApp.stop_cases E true nrfUrl (received h.reply) s with
    ⟨hguard, hr⟩ | ⟨-, hstop⟩
  · have hid : s.handshake.n32cContextId = [] := by
      by_contra hne
      exact hguard ⟨rfl, hne⟩
    have hnone : s.terminateRequest E = none := by
      unfold SeppApp.terminateRequest N32cHandshake.createN32fTerminateReq
      rw [if_pos hid]
      cases s.remoteSeppUrl <;> rfl
    rw [hnone] at hi
    exact Or.inl ⟨by rw [hi]; rfl, congrArg AppHandled.state hr,
      Or.inr (congrArg AppHandled.sent hr)⟩
  · rcases SeppApp.asked_cases s (s.adoptTerminate E (received h.reply)) (s.terminateRequest E)
      with ⟨hno, hstate, hsent⟩ | ⟨q, hq, hasked⟩
    · refine Or.inl ⟨Stage.ending_eq_stopped hno, ?_⟩
      rcases hstop with ⟨-, hr⟩ | ⟨-, hr⟩
      · exact ⟨(congrArg AppHandled.state hr).trans hstate,
          Or.inl ((congrArg AppHandled.sent hr).trans hsent)⟩
      · exact ⟨(congrArg AppHandled.state hr).trans hstate,
          Or.inr ((congrArg AppHandled.sent hr).trans (congrArg (· ++ [_]) hsent))⟩
    · have hsend : s.sendN32fTerminate E (received h.reply)
          = { ret := .ok (), state := s.adoptTerminate E (received h.reply), sent := [q] } := hasked
      have hr : r =
          { ret := .ok (), state := s.adoptTerminate E (received h.reply),
            sent := [q, SeppApp.deregisterRequest nrfUrl] } := by
        rcases hstop with ⟨⟨e, herr⟩, -⟩ | ⟨-, hr⟩
        · rw [hsend] at herr
          cases herr
        · rw [hsend] at hr
          exact hr
      rw [hq] at hi
      exact Or.inr ⟨q, by rw [hi]; rfl, by rw [hr, hi]; rfl, by rw [hr]⟩

end Staged

/-! ## What it asks -/

/-- The request exchanges parameters and names the context `id`. -/
def AsksFor (E : Platform) (req : NbiRequest) (id : Str) : Prop :=
  req.path = Resource.exchangeParams.pattern ∧ req.method = ascii "POST"
    ∧ ∃ m, E.parse req.body = .ok (E.secParamExchReq.toJson m) ∧ m.n32fContextId = id

/-- The request asks to drop the context `id`. -/
def AsksToDrop (E : Platform) (req : NbiRequest) (id : Str) : Prop :=
  req.path = Resource.n32fTerminate.pattern ∧ req.method = ascii "POST"
    ∧ E.parse req.body = .ok (E.contextInfo.toJson { n32fContextId := id })

section Requests

variable {E : Platform}

/-- A JSON that is written and sent to a resource arrives there. -/
theorem deliver_of_dump (hback : ReadsBack E) (r : Resource) {url body : Str} {j : Json}
    (hdump : E.dump j = .ok body) :
    let d := deliver url (prepareJsonRequest E .POST (url ++ r.pattern) body)
    d.path = r.pattern ∧ d.method = ascii "POST" ∧ E.parse d.body = .ok j := by
  obtain ⟨hpost, hpath, htext⟩ := deliver_prepareJsonRequest E url body r.questionMark_not_mem
  exact ⟨hpath, hpost, (congrArg E.parse htext).trans (hback _ _ hdump)⟩

/-- The request for the parameters names the id the SEPP has, or generates. -/
theorem paramsRequest_cases (hback : ReadsBack E) (uuid : Uuid) (s : SeppApp) :
    let r := s.paramsRequest E uuid
    r.1.forward = s.forward
      ∧ (r.1.handshake.session = s.handshake.session
        ∨ s.handshake.n32cContextId = [] ∧ r.1.handshake.n32cContextId = uuid.text)
      ∧ ∀ q, r.2 = some (.ok q) → r.1.handshake.n32cContextId ≠ []
        ∧ AsksFor E (deliver (r.1.remoteSeppUrl.getD []) q) r.1.handshake.n32cContextId := by
  unfold SeppApp.paramsRequest
  cases hurl : s.remoteSeppUrl with
  | none => exact ⟨rfl, Or.inl rfl, fun q hq => by cases hq⟩
  | some url =>
      have hcreated : (s.handshake.createExchangeParamsReq E uuid).1
          = if s.handshake.n32cContextId = [] then
              { s.handshake with n32cContextId := uuid.text }
            else s.handshake := rfl
      refine ⟨rfl, ?_, fun q hq => ?_⟩
      · show (s.handshake.createExchangeParamsReq E uuid).1.session = _ ∨ _ ∧
          (s.handshake.createExchangeParamsReq E uuid).1.n32cContextId = _
        rw [hcreated]
        split
        · rename_i hnone
          exact Or.inr ⟨hnone, rfl⟩
        · exact Or.inl rfl
      · have hne : (s.handshake.createExchangeParamsReq E uuid).1.n32cContextId ≠ [] := by
          rw [hcreated]
          split
          · exact uuid.nonempty
          · assumption
        obtain ⟨body, hdump, rfl⟩ := SeppApp.jsonRequest_eq_ok (Option.some.inj hq)
        obtain ⟨hpath, hpost, hparse⟩ := deliver_of_dump hback .exchangeParams hdump
        exact ⟨hne, hpath, hpost, _, hparse, rfl⟩

/-- The request to terminate names the context the SEPP has. -/
theorem terminateRequest_drops (hback : ReadsBack E) {s : SeppApp} {q : HttpRequest}
    (h : s.terminateRequest E = some (.ok q)) :
    s.handshake.n32cContextId ≠ []
      ∧ AsksToDrop E (deliver (s.remoteSeppUrl.getD []) q) s.handshake.n32cContextId := by
  obtain ⟨hne, url, body, hurl, hdump, rfl⟩ := SeppApp.terminateRequest_eq_ok h
  rw [hurl]
  exact ⟨hne, deliver_of_dump hback .n32fTerminate hdump⟩

theorem forward_adoptTerminate (s : SeppApp) (answer : HttpResponse) :
    (s.adoptTerminate E answer).forward = s.forward := by
  rcases adoptTerminate_cases (E := E) s answer with hsame | ⟨-, hcleared⟩
  · rw [hsame]
  · rw [hcleared]

/-- The capability exchange ends there, or the parameters come next. -/
theorem answered_capability_cases (C : Checks) (app : SeppApp) (uuid : Uuid) (h : NbiHandled) :
    let a := Initiator.answered E C { app, stage := .capability } uuid h
    let adopted := app.adoptExchangeCapability E C (received h.reply)
    (adopted.2 = true ∧ a = { app := (adopted.1.paramsRequest E uuid).1
                              stage := .after (adopted.1.paramsRequest E uuid).2 })
    ∨ (adopted.2 = false ∧ a = { app := adopted.1, stage := .capability }) := by
  intro a adopted
  cases hon : adopted.2 with
  | true => exact Or.inl ⟨rfl, if_pos hon⟩
  | false => exact Or.inr ⟨rfl, if_neg (Bool.eq_false_iff.mp hon)⟩

/-- After the capability exchange a C-SEPP holds what it held, but for an id
where it had none, and asks for that. -/
theorem answered_capability (C : Checks) (hback : ReadsBack E) (app : SeppApp) (uuid : Uuid)
    (h : NbiHandled) :
    let a := Initiator.answered E C { app, stage := .capability } uuid h
    a.app.forward = app.forward
      ∧ (a.app.handshake.session = app.handshake.session
        ∨ app.handshake.n32cContextId = [] ∧ a.app.handshake.n32cContextId = uuid.text)
      ∧ ∀ q, a.stage = .params q → a.app.handshake.n32cContextId ≠ []
        ∧ AsksFor E (deliver (a.app.remoteSeppUrl.getD []) q) a.app.handshake.n32cContextId := by
  intro a
  let adopted := (app.adoptExchangeCapability E C (received h.reply)).1
  obtain ⟨fqdn, flag, purposes, hframe⟩ := adoptExchangeCapability_frame E C app (received h.reply)
  have hsession : adopted.handshake.session = app.handshake.session := by
    simp only [adopted, hframe]
    rfl
  have hforward : adopted.forward = app.forward := by simp only [adopted, hframe]
  have hid : adopted.handshake.n32cContextId = app.handshake.n32cContextId :=
    congrArg Session.contextId hsession
  rcases answered_capability_cases (E := E) C app uuid h with ⟨-, ha⟩ | ⟨-, ha⟩
  · obtain ⟨hsame, hnew, hasks⟩ := paramsRequest_cases hback uuid adopted
    rw [hid, hsession] at hnew
    simp only [a, ha]
    exact ⟨hsame.trans hforward, hnew, fun q hq => hasks q (Stage.after_eq_params hq)⟩
  · simp only [a, ha]
    exact ⟨hforward, Or.inl hsession, fun q hq => by cases hq⟩

theorem answered_capability_ends (C : Checks) (app : SeppApp) (uuid : Uuid) (h : NbiHandled) :
    (Initiator.answered E C { app, stage := .capability } uuid h).stage.ends = false := by
  rcases answered_capability_cases (E := E) C app uuid h with ⟨-, ha⟩ | ⟨-, ha⟩
  · rw [ha]
    exact Stage.ends_after _
  · rw [ha]
    rfl

end Requests

end Sepp
