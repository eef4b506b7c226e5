import Mathlib.Data.Int.CardIntervalMod
import Sepp.Heartbeat
import Sepp.SeppApp
import Sepp.SeppProfile
import Sepp.TextSearch

/-!
# A SEPP and its NRF

`sepp_nrf.cpp`: the profile a SEPP generates, its registration, and with
`Heartbeat` all that the NRF is sent until the SEPP takes its registration
back.

- `nrf_life`: the requests of a whole life, whatever the NRF answers.
- `heartbeats_announced`: how many heartbeats fall into the period that the
  registered profile announces, wherever it begins.
-/

namespace Sepp

/-! ## Registration -/

/-- What the profile says of the SEPP's own interface. -/
structure LocalSbi where
  host : Str
  addr4 : UInt32
  apiVersion : Str
  port : Int

def telescopicApiName : Str := ascii "nsepp-telescopic"

def generateSeppProfile (L : ProfileLib) (instanceId : Str) (sbi : LocalSbi) : SeppProfile L where
  nfInstanceId := instanceId
  nfInstanceName := ascii "OAI-SEPP"
  nfType := ascii "SEPP"
  nfStatus := ascii "REGISTERED"
  heartBeatTimer := 50
  fqdn := sbi.host
  ipv4Addresses := [sbi.addr4]
  priority := 1
  capacity := 100
  nfServices :=
    [{ serviceInstanceId := telescopicApiName
       serviceName := telescopicApiName
       versions := [{ apiVersionInUri := sbi.apiVersion, apiFullVersion := ascii "1.0.0" }]
       scheme := ascii "http"
       nfServiceStatus := ascii "REGISTERED"
       ipEndPoints := [{ ipv4Address := sbi.addr4, transport := ascii "TCP", port := sbi.port }] }]
  seppInfo :=
    { seppPrefix := ascii "oai-sepp-prefix"
      seppPorts := [(ascii "n32c", 443), (ascii "n32f", 443)]
      remotePlmnList := [(ascii "262", ascii "10")]
      n32Purposes := [ascii "ROAMING"] }

/-- The answer to a registration that starts the heartbeats. A body that
begins with the status does not. -/
def startsHeartbeats (answer : HttpResponse) : Bool :=
  decide (answer.statusCode = 201 ∨ answer.statusCode = 200)
    && decide (TextSearch.find (ascii "REGISTERED") answer.body ≠ some 0)

def registrationRequest (E : Platform) (nrfUrl body : Str) : HttpRequest :=
  prepareJsonRequest E .PUT nrfUrl body

/-- `register_to_nrf`, `ms` after the epoch: the subscription to the ticks if
there is one, and the request; or the exception that ends the SEPP. -/
def registerToNrf (E : Platform) {L : ProfileLib} (nrfUrl : Str) (profile : SeppProfile L)
    (ms : UInt64) (answer : HttpResponse) : Except Exn (Option Subscription × HttpRequest) := do
  let body ← profile.toJson
  let text ← L.dump body
  return (if startsHeartbeats answer then some (startEventNfHeartbeat ms) else none,
    registrationRequest E nrfUrl text)

/-- What the NRF is sent from the registration on, over ticks from `t₀` and
with its answers to them, until the registration is taken back. -/
def nrfRequests (E : Platform) {L : ProfileLib} (nrfUrl patch : Str) (profile : SeppProfile L)
    (ms : UInt64) (registered : HttpResponse) (t₀ : UInt64) (answers : List HttpResponse) :
    Except Exn (List HttpRequest) := do
  let (subscription, registration) ← registerToNrf E nrfUrl profile ms registered
  let heartbeats := match subscription with
    | none => []
    | some σ =>
        ((taskMachine σ (heartbeatRequest E nrfUrl patch)).outs { t := t₀, connected := true }
          answers).flatMap (·.getD [])
  return [registration] ++ heartbeats ++ [SeppApp.deregisterRequest nrfUrl]

/-! ## Counting heartbeats -/

section Count

variable {σ : Subscription} {request : HttpRequest}

theorem noneRefused_iff {t₀ : Nat} {answers : List HttpResponse} :
    NoneRefused σ t₀ answers
      ↔ ∀ i (h : i < answers.length), σ.OnTick (t₀ + i) → heartbeatAccepted answers[i] = true :=
  ⟨fun h i hi => h i answers[i] (List.getElem?_eq_getElem hi), fun h i answer ha => by
    obtain ⟨hi, rfl⟩ := List.getElem?_eq_some_iff.mp ha
    exact h i hi⟩

instance decidableNoneRefused (σ : Subscription) (t₀ : Nat) (answers : List HttpResponse) :
    Decidable (NoneRefused σ t₀ answers) :=
  decidable_of_iff _ noneRefused_iff.symm

/-- The `i`-th tick after `t₀` sends a heartbeat: it is on the schedule, and no
earlier one was refused. -/
def Beats (σ : Subscription) (t₀ : Nat) (answers : List HttpResponse) (i : Nat) : Prop :=
  σ.OnTick (t₀ + i) ∧ NoneRefused σ t₀ (answers.take i)

instance decidableBeats (σ : Subscription) (t₀ : Nat) (answers : List HttpResponse) (i : Nat) :
    Decidable (Beats σ t₀ answers i) := inferInstanceAs (Decidable (_ ∧ _))

/-- How often the NRF is sent a heartbeat. -/
def heartbeatCount (σ : Subscription) (t₀ : Nat) (answers : List HttpResponse) : Nat :=
  answers.length.count (Beats σ t₀ answers)

theorem beats_zero {t₀ : Nat} {answers : List HttpResponse} :
    Beats σ t₀ answers 0 ↔ σ.OnTick t₀ := by
  refine and_iff_left ?_
  intro i a ha
  simp at ha

theorem beats_succ {t₀ : Nat} {answer : HttpResponse} {answers : List HttpResponse} {i : Nat} :
    Beats σ t₀ (answer :: answers) (i + 1)
      ↔ (σ.OnTick t₀ → heartbeatAccepted answer = true) ∧ Beats σ (t₀ + 1) answers i := by
  unfold Beats
  rw [List.take_succ_cons, noneRefused_cons, show t₀ + (i + 1) = t₀ + 1 + i by omega]
  exact and_left_comm

theorem heartbeatCount_cons {t₀ : Nat} {answer : HttpResponse} {answers : List HttpResponse} :
    heartbeatCount σ t₀ (answer :: answers)
      = (if σ.OnTick t₀ then 1 else 0)
        + if σ.OnTick t₀ → heartbeatAccepted answer = true then
            heartbeatCount σ (t₀ + 1) answers
          else 0 := by
  unfold heartbeatCount
  rw [List.length_cons, Nat.count_succ', Nat.add_comm]
  simp only [beats_zero, beats_succ]
  by_cases haccepted : σ.OnTick t₀ → heartbeatAccepted answer = true
  · have hcount : answers.length.count (fun k => (σ.OnTick t₀ → heartbeatAccepted answer = true)
        ∧ Beats σ (t₀ + 1) answers k) = answers.length.count (Beats σ (t₀ + 1) answers) := by
      congr 1
      funext k
      exact propext (and_iff_right haccepted)
    rw [if_pos haccepted, hcount]
  · rw [if_neg haccepted, Nat.count_of_forall_not fun k _ h => haccepted h.1]

/-- A slot that is not connected sends nothing. -/
theorem outs_disconnected (hperiod : 0 < σ.period) (t : UInt64) (answers : List HttpResponse) :
    ((taskMachine σ request).outs { t, connected := false } answers).flatMap (·.getD []) = [] := by
  induction answers generalizing t with
  | nil => rfl
  | cons answer answers ih =>
      have htick := @taskTick_eq σ request hperiod { t, connected := false } answer
      rw [if_neg (by simp)] at htick
      simp only [Machine.outs, taskMachine, htick, Option.map_some, Option.getD_some,
        List.flatMap_cons, List.nil_append] at ih ⊢
      exact ih (t + 1)

/-- A run of ticks sends a heartbeat for each tick that is counted. -/
theorem outs_heartbeats (hperiod : 0 < σ.period) (t : UInt64) (answers : List HttpResponse)
    (hend : t.toNat + answers.length < 18446744073709551616) :
    ((taskMachine σ request).outs { t, connected := true } answers).flatMap (·.getD [])
      = List.replicate (heartbeatCount σ t.toNat answers) request := by
  induction answers generalizing t with
  | nil => rfl
  | cons answer answers ih =>
      rw [List.length_cons] at hend
      have ht : (t + 1).toNat = t.toNat + 1 := toNat_add_one (by omega)
      have hrest := ih (t + 1) (by omega)
      have htick := @taskTick_eq σ request hperiod { t, connected := true } answer
      have hnext : (taskMachine σ request).next { t, connected := true } answer
          = { t := t + 1
              connected := decide (σ.OnTick t.toNat → heartbeatAccepted answer = true) } := by
        simp only [taskMachine, htick]
        split
        · rename_i h
          simp [h.2]
        · rename_i h
          simp only [true_and] at h
          simp [h]
      have hout : (taskMachine σ request).out { t, connected := true } answer
          = some (if σ.OnTick t.toNat then [request] else []) := by
        simp only [taskMachine, htick, true_and]
        split <;> rfl
      rw [Machine.outs, hout, hnext, List.flatMap_cons, heartbeatCount_cons, List.replicate_add]
      congr 1
      · rw [Option.getD_some]
        split <;> rfl
      · by_cases haccepted : σ.OnTick t.toNat → heartbeatAccepted answer = true
        · rw [if_pos haccepted, decide_eq_true haccepted, hrest, ht]
        · rw [if_neg haccepted, decide_eq_false haccepted, outs_disconnected hperiod]
          rfl

/-- A period long enough for `m` ticks of the schedule has `m` of them,
wherever it begins. -/
theorem onSchedule_count {start period t : Nat} (hperiod : 0 < period) (hstart : start ≤ t)
    (m : Nat) : (m * period).count (fun i => OnSchedule start period (t + i)) = m := by
  have hcancel : (period - 1) * (t - start) + (t - start) = period * (t - start) := by
    rw [← Nat.succ_mul, Nat.succ_eq_add_one, Nat.sub_add_cancel hperiod]
  have hmod : ∀ i, OnSchedule start period (t + i)
      ↔ i ≡ (period - 1) * (t - start) [MOD period] := by
    intro i
    rw [onSchedule_iff, and_iff_right (by omega), show t + i - start = i + (t - start) by omega]
    constructor
    · intro h
      refine Nat.ModEq.add_right_cancel' (t - start) ?_
      rw [hcancel]
      exact h.trans (Nat.mul_mod_right _ _).symm
    · intro h
      have hadded := h.add_right (t - start)
      rw [hcancel] at hadded
      exact Eq.trans hadded (Nat.mul_mod_right _ _)
  simp only [hmod]
  rw [Nat.count_modEq_card _ hperiod, Nat.mul_div_cancel _ hperiod, Nat.mul_mod_left,
    if_neg (Nat.not_lt_zero _), Nat.add_zero]

theorem noneRefused_append {t₀ : Nat} {pre post : List HttpResponse} :
    NoneRefused σ t₀ (pre ++ post)
      ↔ NoneRefused σ t₀ pre ∧ NoneRefused σ (t₀ + pre.length) post := by
  induction pre generalizing t₀ with
  | nil =>
      refine ⟨fun h => ⟨?_, h⟩, And.right⟩
      intro i a ha
      cases ha
  | cons answer pre ih =>
      rw [List.cons_append, noneRefused_cons, noneRefused_cons, ih, List.length_cons, and_assoc,
        show t₀ + (pre.length + 1) = t₀ + 1 + pre.length by omega]

theorem heartbeatCount_of_noneRefused {t₀ : Nat} {answers : List HttpResponse}
    (h : NoneRefused σ t₀ answers) :
    heartbeatCount σ t₀ answers = answers.length.count (fun i => σ.OnTick (t₀ + i)) := by
  unfold heartbeatCount
  congr 1
  funext i
  refine propext (and_iff_left ?_)
  rw [← List.take_append_drop i answers] at h
  exact (noneRefused_append.mp h).1

end Count

/-! ## A whole life -/

/-- Whatever the NRF answers: it is sent one registration first, one
deregistration last, and in between nothing but a heartbeat for every tick of
the schedule up to the first that is refused, where its answer to the
registration starts them. Only a profile that cannot be written keeps a SEPP
from its start. -/
theorem nrf_life (E : Platform) {L : ProfileLib} (nrfUrl patch : Str) (profile : SeppProfile L)
    (ms : UInt64) (registered : HttpResponse) (t₀ : UInt64) (answers : List HttpResponse)
    (hend : t₀.toNat + answers.length < 18446744073709551616) :
    (∀ e, L.dump profile.json = .error e →
        nrfRequests E nrfUrl patch profile ms registered t₀ answers = .error e)
      ∧ ∀ text, L.dump profile.json = .ok text →
        nrfRequests E nrfUrl patch profile ms registered t₀ answers = .ok
          (registrationRequest E nrfUrl text ::
            List.replicate
              (if startsHeartbeats registered then
                heartbeatCount (startEventNfHeartbeat ms) t₀.toNat answers
              else 0)
              (heartbeatRequest E nrfUrl patch)
            ++ [SeppApp.deregisterRequest nrfUrl]) := by
  refine ⟨fun e hdump => ?_, fun text hdump => ?_⟩
  · simp only [nrfRequests, registerToNrf, SeppProfile.toJson, hdump, bind, Except.bind]
  · simp only [nrfRequests, registerToNrf, SeppProfile.toJson, hdump, bind, Except.bind, pure,
      Except.pure]
    by_cases hstarts : startsHeartbeats registered = true
    · simp only [if_pos hstarts,
        outs_heartbeats (startEventNfHeartbeat_period ms) t₀ answers hend, List.singleton_append]
    · simp only [if_neg hstarts, List.append_nil, List.replicate_zero, List.cons_append,
        List.nil_append]

/-- Once heartbeats are due and as long as none is refused, five of them fall
into every period of the length that the registered profile announces. -/
theorem heartbeats_announced (E : Platform) (L : ProfileLib) (nrfUrl patch instanceId : Str)
    (sbi : LocalSbi) (ms t₀ : UInt64) {pre period : List HttpResponse} :
    let σ := startEventNfHeartbeat ms
    let M := taskMachine σ (heartbeatRequest E nrfUrl patch)
    t₀.toNat + (pre ++ period).length < 18446744073709551616 →
    σ.start.toNat ≤ t₀.toNat + pre.length → NoneRefused σ t₀.toNat (pre ++ period) →
    (period.length : Int) = (generateSeppProfile L instanceId sbi).heartBeatTimer.toInt * 1000 →
    (M.outs (M.run { t := t₀, connected := true } pre) period).flatMap (·.getD [])
      = List.replicate 5 (heartbeatRequest E nrfUrl patch) := by
  intro σ M hend hstart hnone hlength
  rw [List.length_append] at hend
  obtain ⟨hpre, hperiod⟩ := noneRefused_append.mp hnone
  have hpos : 0 < σ.period := startEventNfHeartbeat_period ms
  have hbefore : t₀.toNat + pre.length < 18446744073709551616 := by omega
  obtain ⟨t, hstate, ht⟩ : ∃ t : UInt64,
      M.run { t := t₀, connected := true } pre = { t, connected := true }
        ∧ t.toNat = t₀.toNat + pre.length := by
    have hconnected : (M.run { t := t₀, connected := true } pre).connected = true :=
      (connected_run hpos _ _ hbefore).mpr ⟨rfl, hpre⟩
    exact ⟨_, congrArg (TaskManager.mk _) hconnected, toNat_run_t _ _ hbefore⟩
  have hfive : period.length = 5 * σ.period.toNat := by
    have hms : σ.period.toNat = 10000 := rfl
    have hannounced : (period.length : Int) = 50 * 1000 := hlength
    omega
  rw [hstate, outs_heartbeats hpos t period (by omega), ht,
    heartbeatCount_of_noneRefused hperiod, hfive]
  exact congrArg (List.replicate · (heartbeatRequest E nrfUrl patch))
    (onSchedule_count (UInt64.lt_iff_toNat_lt.mp hpos) hstart 5)

/-! ### A SEPP on the reference platform -/

def sampleSbi : LocalSbi :=
  { host := ascii "sepp", addr4 := 16777343, apiVersion := ascii "v1", port := 80 }

/-- The second heartbeat is not sent, since the first was refused. -/
theorem nrf_life_refused : ∃ text, nrfRequests Reference.platform (ascii "http://nrf:80") []
    (generateSeppProfile Reference.profileLib (ascii "c1") sampleSbi) 5 (nrfAnswer 201) 10005
      (nrfAnswer 500 :: List.replicate 10000 (nrfAnswer 204))
    = .ok [registrationRequest Reference.platform (ascii "http://nrf:80") text,
        heartbeatRequest Reference.platform (ascii "http://nrf:80") [],
        SeppApp.deregisterRequest (ascii "http://nrf:80")] := by
  have hwritable : JsonText.writable
      (generateSeppProfile Reference.profileLib (ascii "c1") sampleSbi).json = true := by
    decide +kernel
  have hcount : heartbeatCount (startEventNfHeartbeat 5) (10005 : UInt64).toNat
      (nrfAnswer 500 :: List.replicate 10000 (nrfAnswer 204)) = 1 := by
    rw [heartbeatCount_cons, if_pos (by decide), if_neg (by decide)]
  have hlife := (nrf_life Reference.platform (ascii "http://nrf:80") []
    (generateSeppProfile Reference.profileLib (ascii "c1") sampleSbi) 5 (nrfAnswer 201) 10005
    (nrfAnswer 500 :: List.replicate 10000 (nrfAnswer 204))
    (by rw [List.length_cons, List.length_replicate]; decide)).2 _
    (JsonText.dump_of_writable hwritable)
  rw [hcount] at hlife
  exact ⟨_, hlife⟩

theorem noneRefused_of_accepted {σ : Subscription} {t₀ : Nat} {answers : List HttpResponse}
    (h : ∀ a ∈ answers, heartbeatAccepted a = true) : NoneRefused σ t₀ answers :=
  fun _ a ha _ => h a (List.mem_of_getElem? ha)

theorem heartbeats_announced_accepted :
    let M := taskMachine (startEventNfHeartbeat 5)
      (heartbeatRequest Reference.platform (ascii "http://nrf:80") [])
    (M.outs (M.run { t := 10007, connected := true } [])
        (List.replicate 50000 (nrfAnswer 204))).flatMap (·.getD [])
      = List.replicate 5 (heartbeatRequest Reference.platform (ascii "http://nrf:80") []) := by
  intro M
  refine heartbeats_announced Reference.platform Reference.profileLib (ascii "http://nrf:80") []
    (ascii "c1") sampleSbi 5 10007 ?_ ?_ (noneRefused_of_accepted fun a ha => ?_) ?_
  · rw [List.nil_append, List.length_replicate]
    decide
  · decide
  · rw [List.nil_append] at ha
    rw [List.eq_of_mem_replicate ha]
    decide
  · rw [List.length_replicate]
    rfl

end Sepp
