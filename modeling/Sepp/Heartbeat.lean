import Sepp.Machine
import Sepp.Reference

/-!
# NF heartbeats

`sepp_event.cpp`, the loop of `task_manager.cpp` and the heartbeat procedure
of `sepp_nrf.cpp`. The task manager counts milliseconds in 64 bits and
signals each of them; the slot that was connected to the signal lets
through the ticks of its schedule, and the callback disconnects it when the
NRF refuses a heartbeat.

`due_eq` ties the slot's unsigned arithmetic to the schedule, and
`connected_run` says which answers end it. `heartbeats_on_schedule` is what
follows for a run of ticks.
-/

namespace Sepp

/-- What `subscribe_task_nf_heartbeat` captures. -/
structure Subscription where
  period : UInt64
  start : UInt64

/-- The test of the slot, `none` where it takes a remainder by zero. -/
def Subscription.due (σ : Subscription) (t : UInt64) : Option Bool :=
  if t ≥ σ.start then
    if σ.period = 0 then none else some ((t - σ.start) % σ.period == 0)
  else some false

/-- `HEART_BEAT_TIMER`, in seconds. -/
def heartBeatTimer : UInt32 := 10

/-- `start_event_nf_heartbeat`, `ms` after the epoch. -/
def startEventNfHeartbeat (ms : UInt64) : Subscription :=
  let interval := (heartBeatTimer * 1000).toUInt64
  { period := interval, start := ms + interval }

theorem startEventNfHeartbeat_period (ms : UInt64) : 0 < (startEventNfHeartbeat ms).period := by
  show 0 < (heartBeatTimer * 1000).toUInt64
  decide

/-- The request of `trigger_nf_heartbeat_procedure`, with the text of its
patch document. -/
def heartbeatRequest (E : Platform) (nrfUrl patch : Str) : HttpRequest :=
  prepareJsonRequest E .PATCH nrfUrl patch

/-- Whether the slot stays connected after the NRF's answer. -/
def heartbeatAccepted (answer : HttpResponse) : Bool :=
  answer.statusCode = 200 ∨ answer.statusCode = 204

structure TaskManager where
  t : UInt64
  connected : Bool

/-- The signal of one tick: whether the slot is connected afterwards, and
what was sent. `answer` is what the NRF says if it is asked. -/
def taskTick (σ : Subscription) (request : HttpRequest) (s : TaskManager)
    (answer : HttpResponse) : Option (Bool × List HttpRequest) :=
  if s.connected then
    match σ.due s.t with
    | none => none
    | some true => some (heartbeatAccepted answer, [request])
    | some false => some (true, [])
  else some (false, [])

/-- The loop of `manage_tasks`, one tick an event. -/
def taskMachine (σ : Subscription) (request : HttpRequest) :
    Machine TaskManager HttpResponse (Option (List HttpRequest)) where
  next s answer :=
    { t := s.t + 1
      connected := ((taskTick σ request s answer).map (·.1)).getD false }
  out s answer := (taskTick σ request s answer).map (·.2)

/-! ## The schedule -/

/-- The ticks of a schedule, as natural numbers. -/
def OnSchedule (start period t : Nat) : Prop := ∃ k, t = start + k * period

theorem onSchedule_iff {start period t : Nat} :
    OnSchedule start period t ↔ start ≤ t ∧ (t - start) % period = 0 := by
  constructor
  · rintro ⟨k, rfl⟩
    refine ⟨Nat.le_add_right _ _, ?_⟩
    rw [Nat.add_sub_cancel_left, Nat.mul_mod_left]
  · rintro ⟨hle, hmod⟩
    obtain ⟨k, hk⟩ := Nat.dvd_of_mod_eq_zero hmod
    refine ⟨k, ?_⟩
    rw [Nat.mul_comm, ← hk]
    omega

instance (start period t : Nat) : Decidable (OnSchedule start period t) :=
  decidable_of_iff _ onSchedule_iff.symm

namespace Subscription

variable {σ : Subscription}

def OnTick (σ : Subscription) (t : Nat) : Prop := OnSchedule σ.start.toNat σ.period.toNat t

instance (σ : Subscription) (t : Nat) : Decidable (σ.OnTick t) :=
  inferInstanceAs (Decidable (OnSchedule _ _ t))

/-- Where the slot subtracts, nothing wraps. -/
theorem toNat_sub_start {t : UInt64} (h : t ≥ σ.start) :
    (t - σ.start).toNat = t.toNat - σ.start.toNat :=
  UInt64.toNat_sub_of_le _ _ h

/-- The slot lets the ticks of its schedule through. -/
theorem due_eq (hperiod : 0 < σ.period) (t : UInt64) :
    σ.due t = some (decide (σ.OnTick t.toNat)) := by
  have hne : σ.period ≠ 0 := fun h => UInt64.lt_irrefl 0 (h ▸ hperiod)
  unfold due
  split
  · rename_i hle
    have hsame : ((t - σ.start) % σ.period == 0) = decide (σ.OnTick t.toNat) := by
      rw [beq_eq_decide, decide_eq_decide]
      rw [OnTick, onSchedule_iff, ← UInt64.toNat_inj, UInt64.toNat_mod, toNat_sub_start hle]
      exact ⟨fun h => ⟨UInt64.le_iff_toNat_le.mp hle, h⟩, fun h => h.2⟩
    rw [hsame]
  · rename_i hlt
    have hno : ¬ σ.OnTick t.toNat := fun h =>
      hlt (UInt64.le_iff_toNat_le.mpr (onSchedule_iff.mp h).1)
    rw [decide_eq_false hno]

end Subscription

/-! ## Runs of ticks -/

section Runs

variable {σ : Subscription} {request : HttpRequest}

theorem toNat_add_one {t : UInt64} (h : t.toNat + 1 < 18446744073709551616) :
    (t + 1).toNat = t.toNat + 1 := by
  rw [UInt64.toNat_add]
  exact Nat.mod_eq_of_lt h

/-- The count does not wrap before its end. -/
theorem toNat_run_t (s : TaskManager) (answers : List HttpResponse)
    (hend : s.t.toNat + answers.length < 18446744073709551616) :
    ((taskMachine σ request).run s answers).t.toNat = s.t.toNat + answers.length := by
  induction answers generalizing s with
  | nil => rfl
  | cons answer answers ih =>
      rw [List.length_cons] at hend ⊢
      have ht : ((taskMachine σ request).next s answer).t.toNat = s.t.toNat + 1 :=
        toNat_add_one (by omega)
      rw [Machine.run_cons, ih _ (by omega), ht]
      omega

/-- What one tick sends, and when it leaves the slot connected. -/
theorem taskTick_eq (hperiod : 0 < σ.period) (s : TaskManager) (answer : HttpResponse) :
    taskTick σ request s answer =
      if s.connected = true ∧ σ.OnTick s.t.toNat then some (heartbeatAccepted answer, [request])
      else some (s.connected, []) := by
  unfold taskTick
  rw [Subscription.due_eq hperiod]
  by_cases hconnected : s.connected = true
  · by_cases htick : σ.OnTick s.t.toNat
    · simp only [hconnected, htick, and_self, if_true, decide_true]
    · simp only [hconnected, htick, and_false, if_true, if_false, decide_false]
  · rw [Bool.not_eq_true] at hconnected
    simp only [hconnected, Bool.false_eq_true, false_and, if_false]

theorem next_connected (hperiod : 0 < σ.period) (s : TaskManager) (answer : HttpResponse) :
    ((taskMachine σ request).next s answer).connected = true
      ↔ s.connected = true ∧ (σ.OnTick s.t.toNat → heartbeatAccepted answer = true) := by
  simp only [taskMachine, taskTick_eq hperiod]
  by_cases hsent : s.connected = true ∧ σ.OnTick s.t.toNat
  · rw [if_pos hsent]
    exact ⟨fun h => ⟨hsent.1, fun _ => h⟩, fun h => h.2 hsent.2⟩
  · rw [if_neg hsent]
    exact ⟨fun h => ⟨h, fun htick => absurd ⟨h, htick⟩ hsent⟩, fun h => h.1⟩

/-- No heartbeat of the ticks `t₀`, `t₀ + 1`, .. was refused. -/
def NoneRefused (σ : Subscription) (t₀ : Nat) (answers : List HttpResponse) : Prop :=
  ∀ i answer, answers[i]? = some answer → σ.OnTick (t₀ + i) → heartbeatAccepted answer = true

theorem noneRefused_cons {t₀ : Nat} {answer : HttpResponse} {answers : List HttpResponse} :
    NoneRefused σ t₀ (answer :: answers)
      ↔ (σ.OnTick t₀ → heartbeatAccepted answer = true) ∧ NoneRefused σ (t₀ + 1) answers := by
  constructor
  · intro h
    refine ⟨h 0 answer rfl, fun i a ha htick => h (i + 1) a ha ?_⟩
    rwa [show t₀ + (i + 1) = t₀ + 1 + i by omega]
  · rintro ⟨hfirst, hrest⟩ i a ha htick
    cases i with
    | zero =>
        obtain rfl := Option.some.inj ha
        exact hfirst htick
    | succ i =>
        refine hrest i a ha ?_
        rwa [show t₀ + 1 + i = t₀ + (i + 1) by omega]

/-- The slot stays connected as long as no heartbeat is refused. -/
theorem connected_run (hperiod : 0 < σ.period) (s : TaskManager) (answers : List HttpResponse)
    (hend : s.t.toNat + answers.length < 18446744073709551616) :
    ((taskMachine σ request).run s answers).connected = true
      ↔ s.connected = true ∧ NoneRefused σ s.t.toNat answers := by
  induction answers generalizing s with
  | nil => exact ⟨fun h => ⟨h, fun i a ha => by cases ha⟩, fun h => h.1⟩
  | cons answer answers ih =>
      rw [List.length_cons] at hend
      have ht : ((taskMachine σ request).next s answer).t.toNat = s.t.toNat + 1 :=
        toNat_add_one (by omega)
      rw [Machine.run_cons, ih _ (by omega), next_connected hperiod, noneRefused_cons, ht,
        and_assoc]

/-- In a run from any tick, before the count wraps: a tick of the schedule
sends one heartbeat unless an earlier one was refused, and no other tick
sends any. -/
theorem heartbeats_on_schedule (E : Platform) (nrfUrl patch : Str) (hperiod : 0 < σ.period)
    (t₀ : UInt64) {answer : HttpResponse} {pre post : List HttpResponse}
    (hend : t₀.toNat + (pre ++ answer :: post).length ≤ 18446744073709551616) :
    let M := taskMachine σ (heartbeatRequest E nrfUrl patch)
    let s := M.run { t := t₀, connected := true } pre
    let sends := σ.OnTick (t₀.toNat + pre.length) ∧ NoneRefused σ t₀.toNat pre
    s.t.toNat = t₀.toNat + pre.length
      ∧ (sends → M.out s answer = some [heartbeatRequest E nrfUrl patch])
      ∧ (¬ sends → M.out s answer = some [])
      ∧ (s.t ≥ σ.start → (s.t - σ.start).toNat = s.t.toNat - σ.start.toNat)
      ∧ σ.period ≠ 0 := by
  intro M s sends
  rw [List.length_append, List.length_cons] at hend
  have hpre : t₀.toNat + pre.length < 18446744073709551616 := by omega
  have ht : s.t.toNat = t₀.toNat + pre.length := toNat_run_t _ _ hpre
  have hconnected : s.connected = true ↔ NoneRefused σ t₀.toNat pre :=
    (connected_run hperiod _ _ hpre).trans ⟨fun h => h.2, fun h => ⟨rfl, h⟩⟩
  have hsends : s.connected = true ∧ σ.OnTick s.t.toNat ↔ sends := by
    rw [hconnected, ht, and_comm]
  have hout : M.out s answer
      = (taskTick σ (heartbeatRequest E nrfUrl patch) s answer).map (·.2) := rfl
  rw [taskTick_eq hperiod] at hout
  refine ⟨ht, fun h => ?_, fun h => ?_, Subscription.toNat_sub_start,
    fun h => UInt64.lt_irrefl 0 (h ▸ hperiod)⟩
  · rw [hout, if_pos (hsends.mpr h), Option.map_some]
  · rw [hout, if_neg fun h' => h (hsends.mp h'), Option.map_some]

end Runs

/-- What the NRF says to a heartbeat. -/
def nrfAnswer (statusCode : Int) : HttpResponse := { statusCode, headers := ∅, body := [] }

/-- The first heartbeat of a SEPP that registered 5 ms after the epoch; and
of a schedule that begins at tick 3 with period 2, the heartbeat of tick 5
after the one of tick 3 was refused. -/
theorem heartbeats_on_schedule_refused :
    let request := heartbeatRequest Reference.platform (ascii "http://nrf:80") []
    (taskMachine (startEventNfHeartbeat 5) request).out { t := 10005, connected := true }
        (nrfAnswer 204) = some [request]
      ∧ let M := taskMachine { period := 2, start := 3 } request
        M.out (M.run { t := 3, connected := true } [nrfAnswer 500, nrfAnswer 204])
          (nrfAnswer 204) = some [] := by
  intro request
  have hfirst := @heartbeats_on_schedule (startEventNfHeartbeat 5) Reference.platform
    (ascii "http://nrf:80") [] (startEventNfHeartbeat_period 5) 10005 (nrfAnswer 204) [] []
    (by decide)
  have hrefused := @heartbeats_on_schedule { period := 2, start := 3 } Reference.platform
    (ascii "http://nrf:80") [] (by decide) 3 (nrfAnswer 204) [nrfAnswer 500, nrfAnswer 204] []
    (by decide)
  refine ⟨hfirst.2.1 ⟨by decide, fun i a ha => by cases ha⟩, hrefused.2.2.1 fun hsends => ?_⟩
  exact absurd (hsends.2 0 (nrfAnswer 500) rfl (by decide)) (by decide)

end Sepp
