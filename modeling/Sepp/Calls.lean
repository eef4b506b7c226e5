import Mathlib.Logic.Function.Basic
import Sepp.Machine

/-!
# Calls over a network

Any number of callers and one server. A caller sends a request and waits
for the answer; requests and answers are under way for any time and in any
order, and a caller that is tired of waiting goes on without, so that its
request or its answer may come too late or never. Anybody else may ask the
server anything in between.

- `Calls.served_of_awaited`: the answer a caller waits for was given by the
  server, at one moment of the run, to what the caller asks.
- `Calls.inv_callers`: what a caller keeps at every such answer, and without
  one, holds of every caller after every run.
- `Calls.served_of_caller`: what a caller has got in a run it made of such an
  answer.
- `Calls.inv_requests`: what follows from a request when it is made holds as
  long as it is under way.
- `Calls.takes_once`: a request of a caller that asks once is served at most once.
- `Calls.run_exchange`: what becomes of a call that nothing comes between.

The server is a machine over requests, each with something of its own that
it meets (`θ`); a caller is given something of its own (`η`) with each
answer.
-/

/-- How a caller goes on: what it asks, what it makes of an answer, and of
none, and what it does by itself. -/
structure Caller (α ρ π η : Type*) where
  ask : α → Option ρ
  answered : α → η → π → α
  failed : α → α
  turn : α → α

/-- A message on its way to or from the server. -/
structure Call (ι β : Type*) where
  caller : ι
  number : ℕ
  content : β

structure Calls (ι α σ ρ π : Type*) where
  callers : ι → α
  /-- The number of the call a caller waits for. -/
  waiting : ι → Option ℕ
  server : σ
  requests : List (Call ι ρ)
  replies : List (Call ι π)
  count : ℕ

inductive CallEvent (ι ρ η θ : Type*) where
  | send (i : ι)
  | serve (k : ℕ) (x : θ)
  | deliver (k : ℕ) (y : η)
  | giveUp (i : ι)
  | turn (i : ι)
  | outside (x : θ) (q : ρ)

namespace Calls

variable {ι α σ ρ π η θ : Type*} [DecidableEq ι]

/-- Nothing is under way. -/
def start (callers : ι → α) (server : σ) : Calls ι α σ ρ π where
  callers
  waiting _ := none
  server
  requests := []
  replies := []
  count := 0

/-! ## The steps -/

/-- A caller sends a request and waits. -/
def sent (net : Calls ι α σ ρ π) (i : ι) (q : ρ) : Calls ι α σ ρ π :=
  { net with
    waiting := Function.update net.waiting i (some net.count)
    requests := net.requests ++ [{ caller := i, number := net.count, content := q }]
    count := net.count + 1 }

/-- The server answers the request `c`, the `k`-th of those under way. -/
def served (M : Machine σ (θ × ρ) π) (net : Calls ι α σ ρ π) (k : ℕ) (x : θ)
    (c : Call ι ρ) : Calls ι α σ ρ π :=
  { net with
    server := M.next net.server (x, c.content)
    requests := net.requests.eraseIdx k
    replies := net.replies ++
      [{ caller := c.caller, number := c.number, content := M.out net.server (x, c.content) }] }

/-- A caller goes on in the state `a` and no longer waits. -/
def settled (net : Calls ι α σ ρ π) (i : ι) (a : α) : Calls ι α σ ρ π :=
  { net with
    callers := Function.update net.callers i a
    waiting := Function.update net.waiting i none }

/-- The `k`-th answer is no longer under way. -/
def taken (net : Calls ι α σ ρ π) (k : ℕ) : Calls ι α σ ρ π :=
  { net with replies := net.replies.eraseIdx k }

/-- The network. An event that names nothing that is there changes nothing,
and an answer nobody waits for is dropped. -/
def machine (M : Machine σ (θ × ρ) π) (P : Caller α ρ π η) :
    Machine (Calls ι α σ ρ π) (CallEvent ι ρ η θ) Unit where
  next net
    | .send i =>
        match net.waiting i, P.ask (net.callers i) with
        | none, some q => net.sent i q
        | _, _ => net
    | .serve k x =>
        match net.requests[k]? with
        | none => net
        | some c => net.served M k x c
    | .deliver k y =>
        match net.replies[k]? with
        | none => net
        | some c =>
            if net.waiting c.caller = some c.number then
              (net.taken k).settled c.caller (P.answered (net.callers c.caller) y c.content)
            else net.taken k
    | .giveUp i =>
        match net.waiting i with
        | none => net
        | some _ => net.settled i (P.failed (net.callers i))
    | .turn i =>
        match net.waiting i with
        | none => net.settled i (P.turn (net.callers i))
        | some _ => net
    | .outside x q => { net with server := M.next net.server (x, q) }
  out _ _ := ()

/-- What an event can do. -/
theorem next_cases (M : Machine σ (θ × ρ) π) (P : Caller α ρ π η) (net : Calls ι α σ ρ π)
    (e : CallEvent ι ρ η θ) :
    let net' := (machine M P).next net e
    net' = net
    ∨ (∃ i q, net.waiting i = none ∧ P.ask (net.callers i) = some q ∧ net' = net.sent i q)
    ∨ (∃ k x c, e = .serve k x ∧ net.requests[k]? = some c ∧ net' = net.served M k x c)
    ∨ (∃ k y c, e = .deliver k y ∧ net.replies[k]? = some c
        ∧ net.waiting c.caller = some c.number
        ∧ net' = (net.taken k).settled c.caller
            (P.answered (net.callers c.caller) y c.content))
    ∨ (∃ k, net' = net.taken k)
    ∨ (∃ i n, net.waiting i = some n ∧ net' = net.settled i (P.failed (net.callers i)))
    ∨ (∃ i, net.waiting i = none ∧ net' = net.settled i (P.turn (net.callers i)))
    ∨ ∃ x q, e = .outside x q ∧ net' = { net with server := M.next net.server (x, q) } := by
  cases e with
  | send i =>
      cases hwaiting : net.waiting i with
      | some n => exact Or.inl (by simp only [machine, hwaiting])
      | none =>
          cases hask : P.ask (net.callers i) with
          | none => exact Or.inl (by simp only [machine, hwaiting, hask])
          | some q =>
              refine Or.inr (Or.inl ⟨i, q, hwaiting, hask, ?_⟩)
              simp only [machine, hwaiting, hask]
  | serve k x =>
      cases hc : net.requests[k]? with
      | none => exact Or.inl (by simp only [machine, hc])
      | some c =>
          refine Or.inr (Or.inr (Or.inl ⟨k, x, c, rfl, hc, ?_⟩))
          simp only [machine, hc]
  | deliver k y =>
      cases hc : net.replies[k]? with
      | none => exact Or.inl (by simp only [machine, hc])
      | some c =>
          by_cases hwaiting : net.waiting c.caller = some c.number
          · refine Or.inr (Or.inr (Or.inr (Or.inl ⟨k, y, c, rfl, hc, hwaiting, ?_⟩)))
            simp only [machine, hc, if_pos hwaiting]
          · refine Or.inr (Or.inr (Or.inr (Or.inr (Or.inl ⟨k, ?_⟩))))
            simp only [machine, hc, if_neg hwaiting]
  | giveUp i =>
      cases hwaiting : net.waiting i with
      | none => exact Or.inl (by simp only [machine, hwaiting])
      | some n =>
          refine Or.inr (Or.inr (Or.inr (Or.inr (Or.inr (Or.inl ⟨i, n, hwaiting, ?_⟩)))))
          simp only [machine, hwaiting]
  | turn i =>
      cases hwaiting : net.waiting i with
      | some n => exact Or.inl (by simp only [machine, hwaiting])
      | none =>
          refine Or.inr (Or.inr (Or.inr (Or.inr (Or.inr (Or.inr (Or.inl ⟨i, hwaiting, ?_⟩))))))
          simp only [machine, hwaiting]
  | outside x q =>
      exact Or.inr (Or.inr (Or.inr (Or.inr (Or.inr (Or.inr (Or.inr ⟨x, q, rfl, rfl⟩))))))

/-! ## What an awaited answer is -/

/-- Numbers are given once, and a caller that waits waits for the answer to
what it asks. -/
structure Sound (M : Machine σ (θ × ρ) π) (P : Caller α ρ π η) (net : Calls ι α σ ρ π) :
    Prop where
  requests_lt : ∀ c ∈ net.requests, c.number < net.count
  replies_lt : ∀ c ∈ net.replies, c.number < net.count
  waiting_lt : ∀ i n, net.waiting i = some n → n < net.count
  asked : ∀ c ∈ net.requests, net.waiting c.caller = some c.number →
    P.ask (net.callers c.caller) = some c.content
  answers : ∀ c ∈ net.replies, net.waiting c.caller = some c.number →
    ∃ q s x, P.ask (net.callers c.caller) = some q ∧ c.content = M.out s (x, q)

section Sound

variable {M : Machine σ (θ × ρ) π} {P : Caller α ρ π η} {net : Calls ι α σ ρ π}

omit [DecidableEq ι] in
theorem sound_start (callers : ι → α) (server : σ) :
    Sound M P (start callers server : Calls ι α σ ρ π) where
  requests_lt _ hc := by cases hc
  replies_lt _ hc := by cases hc
  waiting_lt _ _ hn := by cases hn
  asked _ hc := by cases hc
  answers _ hc := by cases hc

omit [DecidableEq ι] in
theorem Sound.taken (h : Sound M P net) (k : ℕ) : Sound M P (net.taken k) where
  requests_lt := h.requests_lt
  replies_lt c hc := h.replies_lt c (List.mem_of_mem_eraseIdx hc)
  waiting_lt := h.waiting_lt
  asked := h.asked
  answers c hc := h.answers c (List.mem_of_mem_eraseIdx hc)

/-- A caller that no longer waits may go on as it likes. -/
theorem Sound.settled (h : Sound M P net) (i : ι) (a : α) : Sound M P (net.settled i a) := by
  have hother : ∀ j n, Function.update net.waiting i none j = some n →
      j ≠ i ∧ net.waiting j = some n := by
    intro j n hn
    by_cases hj : j = i
    · rw [hj, Function.update_self] at hn
      cases hn
    · rw [Function.update_of_ne hj] at hn
      exact ⟨hj, hn⟩
  refine ⟨h.requests_lt, h.replies_lt, fun j n hn => h.waiting_lt j n (hother j n hn).2,
    fun c hc hn => ?_, fun c hc hn => ?_⟩
  · obtain ⟨hne, hn⟩ := hother c.caller c.number hn
    simp only [Calls.settled, Function.update_of_ne hne]
    exact h.asked c hc hn
  · obtain ⟨hne, hn⟩ := hother c.caller c.number hn
    simp only [Calls.settled, Function.update_of_ne hne]
    exact h.answers c hc hn

theorem Sound.sent (h : Sound M P net) {i : ι} {q : ρ}
    (hask : P.ask (net.callers i) = some q) : Sound M P (net.sent i q) := by
  -- A message that is under way has a number below the new one.
  have hother : ∀ j n, n < net.count →
      Function.update net.waiting i (some net.count) j = some n → net.waiting j = some n := by
    intro j n hlt hn
    by_cases hj : j = i
    · rw [hj, Function.update_self] at hn
      exact absurd (Option.some.inj hn) (by omega)
    · rwa [Function.update_of_ne hj] at hn
  refine ⟨fun c hc => ?_, fun c hc => ?_, fun j n hn => ?_, fun c hc hn => ?_, fun c hc hn => ?_⟩
  · rcases List.mem_append.mp hc with hc | hc
    · exact Nat.lt_succ_of_lt (h.requests_lt c hc)
    · rw [List.mem_singleton.mp hc]
      exact Nat.lt_succ_self _
  · exact Nat.lt_succ_of_lt (h.replies_lt c hc)
  · by_cases hj : j = i
    · rw [hj] at hn
      simp only [Calls.sent, Function.update_self, Option.some.injEq] at hn
      show n < net.count + 1
      omega
    · simp only [Calls.sent, Function.update_of_ne hj] at hn
      exact Nat.lt_succ_of_lt (h.waiting_lt j n hn)
  · rcases List.mem_append.mp hc with hc | hc
    · exact h.asked c hc (hother c.caller c.number (h.requests_lt c hc) hn)
    · rw [List.mem_singleton.mp hc]
      exact hask
  · exact h.answers c hc (hother c.caller c.number (h.replies_lt c hc) hn)

omit [DecidableEq ι] in
theorem Sound.served (h : Sound M P net) {k : ℕ} (x : θ) {c : Call ι ρ}
    (hc : net.requests[k]? = some c) : Sound M P (net.served M k x c) := by
  have hmem : c ∈ net.requests := List.mem_of_getElem? hc
  refine ⟨fun d hd => h.requests_lt d (List.mem_of_mem_eraseIdx hd), fun d hd => ?_, h.waiting_lt,
    fun d hd => h.asked d (List.mem_of_mem_eraseIdx hd), fun d hd hn => ?_⟩
  · rcases List.mem_append.mp hd with hd | hd
    · exact h.replies_lt d hd
    · rw [List.mem_singleton.mp hd]
      exact h.requests_lt c hmem
  · rcases List.mem_append.mp hd with hd | hd
    · exact h.answers d hd hn
    · rw [List.mem_singleton.mp hd] at hn ⊢
      exact ⟨c.content, net.server, x, h.asked c hmem hn, rfl⟩

theorem sound_next (net : Calls ι α σ ρ π) (e : CallEvent ι ρ η θ) (h : Sound M P net) :
    Sound M P ((machine M P).next net e) := by
  rcases next_cases M P net e with hsame | ⟨i, q, -, hask, hnext⟩ | ⟨k, x, c, -, hc, hnext⟩
    | ⟨k, y, c, -, -, -, hnext⟩ | ⟨k, hnext⟩ | ⟨i, n, -, hnext⟩ | ⟨i, -, hnext⟩ | ⟨x, q, -, hnext⟩
  · rw [hsame]
    exact h
  · rw [hnext]
    exact h.sent hask
  · rw [hnext]
    exact h.served x hc
  · rw [hnext]
    exact (h.taken k).settled c.caller _
  · rw [hnext]
    exact h.taken k
  · rw [hnext]
    exact h.settled i _
  · rw [hnext]
    exact h.settled i _
  · rw [hnext]
    exact ⟨h.requests_lt, h.replies_lt, h.waiting_lt, h.asked, h.answers⟩

end Sound

/-! ## Where an awaited answer comes from -/

/-- The caller `i`, in the state `a`, waits for the call `n`, whose answer `p`
is under way. -/
structure Awaits (net : Calls ι α σ ρ π) (i : ι) (n : ℕ) (a : α) (p : π) : Prop where
  waiting : net.waiting i = some n
  state : net.callers i = a
  answer : { caller := i, number := n, content := p } ∈ net.replies

/-- The event is the server taking what the caller `i` asks in the state `a`,
and answering `p`. -/
def Serves (M : Machine σ (θ × ρ) π) (P : Caller α ρ π η) (i : ι) (a : α) (p : π)
    (net : Calls ι α σ ρ π) (e : CallEvent ι ρ η θ) : Prop :=
  net.callers i = a ∧ ∃ k x c, e = .serve k x ∧ net.requests[k]? = some c ∧ c.caller = i
    ∧ P.ask a = some c.content ∧ p = M.out net.server (x, c.content)
    ∧ ((machine M P).next net e).server = M.next net.server (x, c.content)

section Served

variable {M : Machine σ (θ × ρ) π} {P : Caller α ρ π η} {net : Calls ι α σ ρ π}

/-- Who goes on without an answer is not the one who waits. -/
theorem awaits_of_settled {i j : ι} {n : ℕ} {a b : α} {p : π}
    (hwaiting : (net.settled j b).waiting i = some n) (hstate : (net.settled j b).callers i = a)
    (hanswer : { caller := i, number := n, content := p } ∈ (net.settled j b).replies) :
    Awaits net i n a p := by
  by_cases hi : i = j
  · simp only [settled, hi, Function.update_self] at hwaiting
    cases hwaiting
  · simp only [settled, Function.update_of_ne hi] at hwaiting hstate hanswer
    exact ⟨hwaiting, hstate, hanswer⟩

/-- An answer that is under way after an event was under way before, or the
event is the server giving it. -/
theorem awaits_next {i : ι} {n : ℕ} {a : α} {p : π} {net : Calls ι α σ ρ π}
    {e : CallEvent ι ρ η θ} (hs : Sound M P net)
    (h : Awaits ((machine M P).next net e) i n a p) :
    Awaits net i n a p ∨ Serves M P i a p net e := by
  obtain ⟨hwaiting, hstate, hanswer⟩ := h
  rcases next_cases M P net e with hsame | ⟨j, q, hidle, hask, hnext⟩
    | ⟨k, x, c, he, hc, hnext⟩ | ⟨k, y, c, -, -, -, hnext⟩ | ⟨k, hnext⟩ | ⟨j, m, -, hnext⟩
    | ⟨j, -, hnext⟩ | ⟨x, q, -, hnext⟩
  · rw [hsame] at hwaiting hstate hanswer
    exact Or.inl ⟨hwaiting, hstate, hanswer⟩
  · rw [hnext] at hwaiting hstate hanswer
    by_cases hi : i = j
    · -- The number of a call that is just sent is not that of an answer.
      have hlt := hs.replies_lt _ hanswer
      simp only [sent, hi, Function.update_self, Option.some.injEq] at hwaiting
      exact absurd hwaiting (by simp only at hlt; omega)
    · simp only [sent, Function.update_of_ne hi] at hwaiting
      exact Or.inl ⟨hwaiting, hstate, hanswer⟩
  · rw [hnext] at hwaiting hstate hanswer
    rcases List.mem_append.mp hanswer with hanswer | hanswer
    · exact Or.inl ⟨hwaiting, hstate, hanswer⟩
    · obtain ⟨rfl, rfl, rfl⟩ := Call.mk.inj (List.mem_singleton.mp hanswer)
      refine Or.inr ⟨hstate, k, x, c, he, hc, rfl, ?_, rfl, by rw [hnext]; rfl⟩
      rw [← hstate]
      exact hs.asked c (List.mem_of_getElem? hc) hwaiting
  · rw [hnext] at hwaiting hstate hanswer
    obtain ⟨hwaiting, hstate, hanswer⟩ := awaits_of_settled hwaiting hstate hanswer
    exact Or.inl ⟨hwaiting, hstate, List.mem_of_mem_eraseIdx hanswer⟩
  · rw [hnext] at hwaiting hstate hanswer
    exact Or.inl ⟨hwaiting, hstate, List.mem_of_mem_eraseIdx hanswer⟩
  · rw [hnext] at hwaiting hstate hanswer
    exact Or.inl (awaits_of_settled hwaiting hstate hanswer)
  · rw [hnext] at hwaiting hstate hanswer
    exact Or.inl (awaits_of_settled hwaiting hstate hanswer)
  · rw [hnext] at hwaiting hstate hanswer
    exact Or.inl ⟨hwaiting, hstate, hanswer⟩

/-- An answer a caller waits for was given by the server, while the caller was
in the state it waits in. -/
theorem served_of_awaited {callers : ι → α} {server : σ} {es : List (CallEvent ι ρ η θ)} {i : ι}
    {n : ℕ} {a : α} {p : π} (h : Awaits ((machine M P).run (start callers server) es) i n a p) :
    (machine M P).Occurs (Serves M P i a p) (start callers server) es := by
  have hguarded := Machine.guarded_of_inv (M := machine M P) (G := fun _ _ => True)
    (fun net e hs _ => sound_next net e hs) (sound_start callers server)
    (Machine.guarded_const.mpr fun e (_ : e ∈ es) => trivial)
  rcases Machine.occurs_of_guarded (Q := fun net => Awaits net i n a p)
    (fun net e hs hnext => awaits_next hs.1 hnext) hguarded h with hfirst | hoccurs
  · exact absurd hfirst.answer List.not_mem_nil
  · exact hoccurs

end Served

/-! ## What callers keep -/

section Invariant

variable {M : Machine σ (θ × ρ) π} {P : Caller α ρ π η}

/-- A caller is given what it generates. -/
def Gives (Y : ι → η → Prop) (net : Calls ι α σ ρ π) (e : CallEvent ι ρ η θ) : Prop :=
  ∀ k y c, e = .deliver k y → net.replies[k]? = some c → Y c.caller y

omit [DecidableEq ι] in
theorem gives_deliver {Y : ι → η → Prop} {net : Calls ι α σ ρ π} {k : ℕ} {y : η} :
    Gives Y net (.deliver k y : CallEvent ι ρ η θ)
      ↔ ∀ c ∈ net.replies[k]?, Y c.caller y := by
  refine ⟨fun h c hc => h k y c rfl hc, fun h k' y' c he hc => ?_⟩
  cases he
  exact h c hc

instance decidableGives (Y : ι → η → Prop) [∀ i y, Decidable (Y i y)] (net : Calls ι α σ ρ π) :
    ∀ e : CallEvent ι ρ η θ, Decidable (Gives Y net e)
  | .deliver _ _ => decidable_of_iff _ gives_deliver.symm
  | .send _ | .serve _ _ | .giveUp _ | .turn _ | .outside _ _ => isTrue fun _ _ _ he => nomatch he

theorem gives_any {Y : ι → η → Prop} (hY : ∀ i y, Y i y) {net : Calls ι α σ ρ π}
    {es : List (CallEvent ι ρ η θ)} : (machine M P).Guarded (Gives Y) net es := by
  induction es generalizing net with
  | nil => trivial
  | cons e es ih => exact ⟨fun _ y c _ _ => hY c.caller y, ih⟩

/-- `J` is kept by the callers: at every answer of the server to what they ask,
with what they generate, without one, and by themselves. -/
structure Keeps (M : Machine σ (θ × ρ) π) (P : Caller α ρ π η) (Y : ι → η → Prop)
    (J : ι → α → Prop) : Prop where
  answered : ∀ i a y q s x, J i a → Y i y → P.ask a = some q →
    J i (P.answered a y (M.out s (x, q)))
  failed : ∀ i a, J i a → J i (P.failed a)
  turned : ∀ i a, J i a → J i (P.turn a)

variable {Y : ι → η → Prop} {J : ι → α → Prop}

theorem settled_keeps {net : Calls ι α σ ρ π} {i : ι} {a : α} (hJ : ∀ j, J j (net.callers j))
    (ha : J i a) (j : ι) : J j ((net.settled i a).callers j) := by
  by_cases hj : j = i
  · simp only [settled, hj, Function.update_self]
    exact ha
  · simp only [settled, Function.update_of_ne hj]
    exact hJ j

theorem keeps_next (hkeeps : Keeps M P Y J) {net : Calls ι α σ ρ π} {e : CallEvent ι ρ η θ}
    (hs : Sound M P net) (hJ : ∀ i, J i (net.callers i)) (hgives : Gives Y net e) :
    ∀ i, J i (((machine M P).next net e).callers i) := by
  rcases next_cases M P net e with hsame | ⟨j, q, -, -, hnext⟩
    | ⟨k, x, c, -, -, hnext⟩ | ⟨k, y, c, he, hc, hwaiting, hnext⟩ | ⟨k, hnext⟩
    | ⟨j, m, -, hnext⟩ | ⟨j, -, hnext⟩ | ⟨x, q, -, hnext⟩
  · rw [hsame]
    exact hJ
  · rw [hnext]
    exact hJ
  · rw [hnext]
    exact hJ
  · rw [hnext]
    obtain ⟨q, s, x, hask, hcontent⟩ := hs.answers c (List.mem_of_getElem? hc) hwaiting
    have hJ' := hkeeps.answered c.caller _ y q s x (hJ c.caller) (hgives k y c he hc) hask
    rw [hcontent]
    have htaken : ∀ j, J j ((net.taken k).callers j) := hJ
    exact settled_keeps htaken hJ'
  · rw [hnext]
    exact hJ
  · rw [hnext]
    exact settled_keeps hJ (hkeeps.failed j _ (hJ j))
  · rw [hnext]
    exact settled_keeps hJ (hkeeps.turned j _ (hJ j))
  · rw [hnext]
    exact hJ

section Runs

variable {callers : ι → α} {server : σ} {es : List (CallEvent ι ρ η θ)}

/-- All callers have what they keep, and wait for answers to what they ask. -/
def Kept (M : Machine σ (θ × ρ) π) (P : Caller α ρ π η) (J : ι → α → Prop)
    (net : Calls ι α σ ρ π) : Prop := Sound M P net ∧ ∀ i, J i (net.callers i)

theorem kept_next (hkeeps : Keeps M P Y J) (net : Calls ι α σ ρ π) (e : CallEvent ι ρ η θ)
    (h : Kept M P J net) (hgives : Gives Y net e) : Kept M P J ((machine M P).next net e) :=
  ⟨sound_next net e h.1, keeps_next hkeeps h.1 h.2 hgives⟩

/-- What callers keep, every caller has after every run. -/
theorem inv_callers (hkeeps : Keeps M P Y J) (hstart : ∀ i, J i (callers i))
    (hgives : (machine M P).Guarded (Gives Y) (start callers server) es) (i : ι) :
    J i (((machine M P).run (start callers server) es).callers i) :=
  (Machine.inv_of_guarded (kept_next hkeeps) ⟨sound_start callers server, hstart⟩ hgives).2 i

/-- What a caller has after a run and did not have before, it made of an
answer, and the server gave that answer to what the caller asked. -/
theorem served_of_caller {K : α → Prop} {L : α → π → Prop} (hkeeps : Keeps M P Y J)
    (hstart : ∀ i, J i (callers i))
    (hgives : (machine M P).Guarded (Gives Y) (start callers server) es) {i : ι}
    (hfailed : ∀ a, J i a → K (P.failed a) → K a) (hturned : ∀ a, J i a → K (P.turn a) → K a)
    (hanswered : ∀ a y p, J i a → K (P.answered a y p) → K a ∨ L a p)
    (hno : ¬ K (callers i)) (h : K (((machine M P).run (start callers server) es).callers i)) :
    ∃ a p, J i a ∧ L a p ∧ (machine M P).Occurs (Serves M P i a p) (start callers server) es := by
  have hguarded := Machine.guarded_of_inv (kept_next hkeeps)
    ⟨sound_start callers server, hstart⟩ hgives
  have hstep : ∀ (net : Calls ι α σ ρ π) e, Kept M P J net ∧ Gives Y net e →
      K (((machine M P).next net e).callers i) → K (net.callers i)
        ∨ ∃ n a p, J i a ∧ L a p ∧ Awaits net i n a p := by
    rintro net e ⟨hkept, -⟩ hnext
    rcases next_cases M P net e with hsame | ⟨j, q, -, -, hcase⟩
      | ⟨k, x, c, -, -, hcase⟩ | ⟨k, y, c, -, hc, hwaiting, hcase⟩ | ⟨k, hcase⟩
      | ⟨j, m, -, hcase⟩ | ⟨j, -, hcase⟩ | ⟨x, q, -, hcase⟩
    · rw [hsame] at hnext
      exact Or.inl hnext
    · rw [hcase] at hnext
      exact Or.inl hnext
    · rw [hcase] at hnext
      exact Or.inl hnext
    · rw [hcase] at hnext
      by_cases hi : i = c.caller
      · subst hi
        simp only [settled, Function.update_self] at hnext
        rcases hanswered _ y c.content (hkept.2 c.caller) hnext with hK | hL
        · exact Or.inl hK
        · exact Or.inr ⟨c.number, _, c.content, hkept.2 c.caller, hL, hwaiting, rfl,
            List.mem_of_getElem? hc⟩
      · simp only [settled, taken, Function.update_of_ne hi] at hnext
        exact Or.inl hnext
    · rw [hcase] at hnext
      exact Or.inl hnext
    · rw [hcase] at hnext
      by_cases hi : i = j
      · subst hi
        simp only [settled, Function.update_self] at hnext
        exact Or.inl (hfailed _ (hkept.2 i) hnext)
      · simp only [settled, Function.update_of_ne hi] at hnext
        exact Or.inl hnext
    · rw [hcase] at hnext
      by_cases hi : i = j
      · subst hi
        simp only [settled, Function.update_self] at hnext
        exact Or.inl (hturned _ (hkept.2 i) hnext)
      · simp only [settled, Function.update_of_ne hi] at hnext
        exact Or.inl hnext
    · rw [hcase] at hnext
      exact Or.inl hnext
  rcases Machine.occurs_of_guarded (Q := fun net => K (net.callers i))
    (C := fun net _ => ∃ n a p, J i a ∧ L a p ∧ Awaits net i n a p) hstep hguarded h
    with hfirst | ⟨pre, e, post, rfl, n, a, p, hJ, hL, hawaits⟩
  · exact absurd hfirst hno
  · exact ⟨a, p, hJ, hL, (served_of_awaited hawaits).append (e :: post)⟩

/-! ### Requests that are under way -/

/-- `R` holds of a caller and what it asks, and stays, whatever the caller does
while the request is under way. -/
structure Follows (P : Caller α ρ π η) (J : ι → α → Prop) (R : ι → α → ρ → Prop) : Prop where
  asked : ∀ i a q, J i a → P.ask a = some q → R i a q
  answered : ∀ i a y p q, R i a q → R i (P.answered a y p) q
  failed : ∀ i a q, R i a q → R i (P.failed a) q
  turned : ∀ i a q, R i a q → R i (P.turn a) q

def Followed (R : ι → α → ρ → Prop) (net : Calls ι α σ ρ π) : Prop :=
  ∀ c ∈ net.requests, R c.caller (net.callers c.caller) c.content

variable {R : ι → α → ρ → Prop}

theorem Followed.settled {net : Calls ι α σ ρ π} {i : ι} {a : α} (h : Followed R net)
    (ha : ∀ q, R i (net.callers i) q → R i a q) : Followed R (net.settled i a) := by
  intro c hc
  by_cases hi : c.caller = i
  · simp only [Calls.settled, hi, Function.update_self]
    exact ha c.content (hi ▸ h c hc)
  · simp only [Calls.settled, Function.update_of_ne hi]
    exact h c hc

theorem followed_next (hfollows : Follows P J R) {net : Calls ι α σ ρ π}
    {e : CallEvent ι ρ η θ} (hJ : ∀ i, J i (net.callers i)) (h : Followed R net) :
    Followed R ((machine M P).next net e) := by
  rcases next_cases M P net e with hsame | ⟨i, q, -, hask, hnext⟩ | ⟨k, x, c, -, -, hnext⟩
    | ⟨k, y, c, -, -, -, hnext⟩ | ⟨k, hnext⟩ | ⟨i, n, -, hnext⟩ | ⟨i, -, hnext⟩
    | ⟨x, q, -, hnext⟩
  · rw [hsame]
    exact h
  · rw [hnext]
    intro c hc
    rcases List.mem_append.mp hc with hc | hc
    · exact h c hc
    · rw [List.mem_singleton.mp hc]
      exact hfollows.asked i _ q (hJ i) hask
  · rw [hnext]
    exact fun d hd => h d (List.mem_of_mem_eraseIdx hd)
  · rw [hnext]
    have htaken : Followed R (net.taken k) := h
    exact htaken.settled fun q hq => hfollows.answered c.caller _ y _ q hq
  · rw [hnext]
    exact h
  · rw [hnext]
    exact h.settled fun q hq => hfollows.failed i _ q hq
  · rw [hnext]
    exact h.settled fun q hq => hfollows.turned i _ q hq
  · rw [hnext]
    exact h

/-- What follows from a request when it is made holds while it is under way,
also when nobody waits for the answer any more. -/
theorem inv_requests (hkeeps : Keeps M P Y J) (hfollows : Follows P J R)
    (hstart : ∀ i, J i (callers i))
    (hgives : (machine M P).Guarded (Gives Y) (start callers server) es) :
    Followed R ((machine M P).run (start callers server) es) := by
  have hstep : ∀ (net : Calls ι α σ ρ π) e, Kept M P J net ∧ Followed R net → Gives Y net e →
      Kept M P J ((machine M P).next net e) ∧ Followed R ((machine M P).next net e) := by
    rintro net e ⟨hkept, hfollowed⟩ hgives
    exact ⟨kept_next hkeeps net e hkept hgives, followed_next hfollows hkept.2 hfollowed⟩
  exact (Machine.inv_of_guarded (I := fun net : Calls ι α σ ρ π => Kept M P J net ∧ Followed R net)
    hstep ⟨⟨sound_start callers server, hstart⟩, fun c hc => nomatch hc⟩ hgives).2

end Runs

end Invariant

/-! ## The server -/

section Server

variable {M : Machine σ (θ × ρ) π} {P : Caller α ρ π η}

/-- What every request leaves, every run leaves of the server. -/
theorem inv_server {I : σ → Prop} (hstep : ∀ s e, I s → I (M.next s e)) {callers : ι → α}
    {server : σ} (hserver : I server) (es : List (CallEvent ι ρ η θ)) :
    I ((machine M P).run (start callers server) es).server := by
  refine Machine.inv_run (I := fun net : Calls ι α σ ρ π => I net.server) (fun net e h => ?_)
    hserver es
  rcases next_cases M P net e with hsame | ⟨i, q, -, -, hnext⟩ | ⟨k, x, c, -, -, hnext⟩
    | ⟨k, y, c, -, -, -, hnext⟩ | ⟨k, hnext⟩ | ⟨i, n, -, hnext⟩ | ⟨i, -, hnext⟩ | ⟨x, q, -, hnext⟩
  · rw [hsame]
    exact h
  · rw [hnext]
    exact h
  · rw [hnext]
    exact hstep _ _ h
  · rw [hnext]
    exact h
  · rw [hnext]
    exact h
  · rw [hnext]
    exact h
  · rw [hnext]
    exact h
  · rw [hnext]
    exact hstep _ _ h

end Server

/-! ## Callers that ask once -/

/-- A caller that has gone on from its request asks nothing more. -/
structure AsksOnce (P : Caller α ρ π η) : Prop where
  answered : ∀ a y p, P.ask (P.answered a y p) = none
  failed : ∀ a, P.ask (P.failed a) = none
  turned : ∀ a, P.ask a = none → P.ask (P.turn a) = none

section Once

variable {M : Machine σ (θ × ρ) π} {P : Caller α ρ π η} {net : Calls ι α σ ρ π} {i : ι}

/-- How many requests of the caller are under way. -/
def underWay (net : Calls ι α σ ρ π) (i : ι) : ℕ :=
  net.requests.countP fun c => decide (c.caller = i)

theorem underWay_erase {k : ℕ} {c : Call ι ρ} (hc : net.requests[k]? = some c) :
    net.underWay i
      = (net.requests.eraseIdx k).countP (fun c => decide (c.caller = i))
        + if c.caller = i then 1 else 0 := by
  obtain ⟨hlt, rfl⟩ := List.getElem?_eq_some_iff.mp hc
  have hsplit : net.requests = net.requests.take k ++ net.requests[k] :: net.requests.drop (k + 1) := by
    rw [← List.drop_eq_getElem_cons hlt, List.take_append_drop]
  unfold underWay
  rw [List.eraseIdx_eq_take_drop_succ, List.countP_append]
  conv_lhs => rw [hsplit, List.countP_append, List.countP_cons]
  simp only [decide_eq_true_eq]
  omega

/-- The caller has sent its request. -/
def Spent (P : Caller α ρ π η) (i : ι) (net : Calls ι α σ ρ π) : Prop :=
  net.waiting i ≠ none ∨ P.ask (net.callers i) = none

theorem spent_settled {j : ι} {a : α} (h : Spent P i net) (ha : i = j → P.ask a = none) :
    Spent P i (net.settled j a) := by
  by_cases hi : i = j
  · right
    simp only [settled, hi, Function.update_self]
    exact ha hi
  · simp only [Spent, settled, Function.update_of_ne hi]
    exact h

theorem spent_next (hP : AsksOnce P) (e : CallEvent ι ρ η θ) (h : Spent P i net) :
    Spent P i ((machine M P).next net e) := by
  rcases next_cases M P net e with hsame | ⟨j, q, -, -, hnext⟩ | ⟨k, x, c, -, -, hnext⟩
    | ⟨k, y, c, -, -, -, hnext⟩ | ⟨k, hnext⟩ | ⟨j, n, -, hnext⟩ | ⟨j, hidle, hnext⟩
    | ⟨x, q, -, hnext⟩
  · rw [hsame]
    exact h
  · rw [hnext]
    by_cases hi : i = j
    · left
      simp only [sent, hi, Function.update_self]
      exact Option.some_ne_none _
    · simp only [Spent, sent, Function.update_of_ne hi]
      exact h
  · rw [hnext]
    exact h
  · rw [hnext]
    have htaken : Spent P i (net.taken k) := h
    exact spent_settled htaken fun _ => hP.answered _ _ _
  · rw [hnext]
    exact h
  · rw [hnext]
    exact spent_settled h fun _ => hP.failed _
  · rw [hnext]
    refine spent_settled h fun hi => hP.turned _ ?_
    rw [← hi] at hidle ⊢
    exact h.resolve_left (not_not_intro hidle)
  · rw [hnext]
    exact h

/-- At most one request of the caller is under way, and if so the last. -/
def Once (P : Caller α ρ π η) (i : ι) (net : Calls ι α σ ρ π) : Prop :=
  net.underWay i = 0 ∨ net.underWay i = 1 ∧ Spent P i net

/-- The caller's request was served. -/
def Done (P : Caller α ρ π η) (i : ι) (net : Calls ι α σ ρ π) : Prop :=
  net.underWay i = 0 ∧ Spent P i net

/-- What an event does to the requests of a caller. -/
theorem underWay_next (P : Caller α ρ π η) (net : Calls ι α σ ρ π) (i : ι)
    (e : CallEvent ι ρ η θ) :
    ((machine M P).next net e).underWay i ≤ net.underWay i
    ∨ ¬ Spent P i net ∧ Spent P i ((machine M P).next net e)
      ∧ ((machine M P).next net e).underWay i = net.underWay i + 1 := by
  rcases next_cases M P net e with hsame | ⟨j, q, hidle, hask, hnext⟩ | ⟨k, x, c, -, hc, hnext⟩
    | ⟨k, y, c, -, -, -, hnext⟩ | ⟨k, hnext⟩ | ⟨j, n, -, hnext⟩ | ⟨j, hidle, hnext⟩
    | ⟨x, q, -, hnext⟩
  · rw [hsame]
    exact Or.inl (Nat.le_refl _)
  · rw [hnext]
    by_cases hi : j = i
    · right
      refine ⟨?_, Or.inl ?_, ?_⟩
      · rintro (hwaiting | hnone)
        · exact hwaiting (hi ▸ hidle)
        · rw [← hi, hask] at hnone
          cases hnone
      · simp only [sent, hi, Function.update_self]
        exact Option.some_ne_none _
      · simp only [underWay, sent, List.countP_append, List.countP_singleton, hi, decide_true,
          if_true]
    · left
      simp only [underWay, sent, List.countP_append, List.countP_singleton, hi, decide_false,
        Bool.false_eq_true, if_false]
      exact Nat.le_refl _
  · rw [hnext]
    left
    rw [underWay_erase (i := i) hc]
    exact Nat.le_add_right _ _
  · rw [hnext]
    exact Or.inl (Nat.le_refl _)
  · rw [hnext]
    exact Or.inl (Nat.le_refl _)
  · rw [hnext]
    exact Or.inl (Nat.le_refl _)
  · rw [hnext]
    exact Or.inl (Nat.le_refl _)
  · rw [hnext]
    exact Or.inl (Nat.le_refl _)

theorem once_next (hP : AsksOnce P) (net : Calls ι α σ ρ π) (e : CallEvent ι ρ η θ)
    (h : Once P i net) : Once P i ((machine M P).next net e) := by
  rcases underWay_next (M := M) P net i e with hle | ⟨hfresh, hspent, hone⟩
  · rcases h with hzero | ⟨hone, hspent⟩
    · exact Or.inl (by omega)
    · rcases Nat.le_one_iff_eq_zero_or_eq_one.mp (hone ▸ hle) with hzero | hstill
      · exact Or.inl hzero
      · exact Or.inr ⟨hstill, spent_next hP e hspent⟩
  · rcases h with hzero | ⟨-, hspent'⟩
    · exact Or.inr ⟨by omega, hspent⟩
    · exact absurd hspent' hfresh

theorem done_next (hP : AsksOnce P) (net : Calls ι α σ ρ π) (e : CallEvent ι ρ η θ)
    (h : Done P i net) : Done P i ((machine M P).next net e) := by
  refine ⟨?_, spent_next hP e h.2⟩
  rcases underWay_next (M := M) P net i e with hle | ⟨hfresh, -, -⟩
  · exact Nat.le_zero.mp (h.1 ▸ hle)
  · exact absurd h.2 hfresh

/-- The event is the server taking a request of the caller. -/
def Takes (i : ι) (net : Calls ι α σ ρ π) (e : CallEvent ι ρ η θ) : Prop :=
  ∃ k x c, e = .serve k x ∧ net.requests[k]? = some c ∧ c.caller = i

/-- The server takes at most one request of a caller that asks once. -/
theorem takes_once (hP : AsksOnce P) {callers : ι → α} {server : σ}
    {pre post : List (CallEvent ι ρ η θ)} {e : CallEvent ι ρ η θ}
    (he : Takes i ((machine M P).run (start callers server) pre) e) :
    ¬ (machine M P).Occurs (Takes i)
      ((machine M P).next ((machine M P).run (start callers server) pre) e) post := by
  have honce : Once P i ((machine M P).run (start callers server) pre) :=
    Machine.inv_run (once_next hP) (Or.inl rfl) pre
  generalize (machine M P).run (start callers server) pre = net at he honce
  obtain ⟨k, x, c, rfl, hc, hi⟩ := he
  have herase := underWay_erase (i := i) hc
  rw [if_pos hi] at herase
  have hnext : (machine M P).next net (.serve k x) = net.served M k x c := by
    simp only [machine, hc]
  have hdone : Done P i ((machine M P).next net (.serve k x)) := by
    rcases honce with hzero | ⟨hone, hspent⟩
    · omega
    · refine ⟨?_, spent_next hP _ hspent⟩
      rw [hnext]
      show (net.requests.eraseIdx k).countP _ = 0
      omega
  rintro ⟨pre', e', post', -, k', x', c', -, hc', hi'⟩
  have hlast := Machine.inv_run (done_next (M := M) hP) hdone pre'
  have herase' := underWay_erase (i := i) hc'
  rw [if_pos hi', hlast.1] at herase'
  omega

end Once

/-! ## Calls that nothing comes between -/

section Exchange

variable {M : Machine σ (θ × ρ) π} {P : Caller α ρ π η} {net : Calls ι α σ ρ π} {i : ι}

/-- A caller that does not wait, whatever it waited for before. -/
def reset (i : ι) : List (CallEvent ι ρ η θ) := [.send i, .giveUp i]

/-- The caller `i` sends, is served and takes the answer. -/
def exchange (net : Calls ι α σ ρ π) (i : ι) (x : θ) (y : η) : List (CallEvent ι ρ η θ) :=
  [.send i, .serve net.requests.length x, .deliver net.replies.length y]

/-- The part of a network that calls are about. -/
structure Standing (net : Calls ι α σ ρ π) (callers : ι → α) (i : ι) (server : σ) : Prop where
  callers : net.callers = callers
  idle : net.waiting i = none
  server : net.server = server

theorem run_reset (hasks : ∃ q, P.ask (net.callers i) = some q) :
    Standing ((machine M P).run net (reset i))
      (Function.update net.callers i (P.failed (net.callers i))) i net.server := by
  obtain ⟨q, hq⟩ := hasks
  have hsent : ∃ n, ((machine M P).next net (.send i)).waiting i = some n
      ∧ ((machine M P).next net (.send i)).callers = net.callers
      ∧ ((machine M P).next net (.send i)).server = net.server := by
    cases hwaiting : net.waiting i with
    | none =>
        simp only [machine, hwaiting, hq]
        exact ⟨net.count, Function.update_self .., rfl, rfl⟩
    | some n =>
        have hsame : (machine M P).next net (.send i) = net := by simp only [machine, hwaiting]
        rw [hsame]
        exact ⟨n, hwaiting, rfl, rfl⟩
  obtain ⟨n, hwaiting, hcallers, hserver⟩ := hsent
  have hgiven : (machine M P).run net (reset i) = ((machine M P).next net (.send i)).settled i
      (P.failed (((machine M P).next net (.send i)).callers i)) := by
    show (machine M P).next ((machine M P).next net (.send i)) (.giveUp i) = _
    generalize (machine M P).next net (.send i) = net' at hwaiting
    simp only [machine, hwaiting]
  rw [hgiven, hcallers]
  exact ⟨congrArg (Function.update · i _) hcallers, Function.update_self .., hserver⟩

theorem gives_reset (Y : ι → η → Prop) (net : Calls ι α σ ρ π) (i : ι) :
    (machine M P).Guarded (Gives Y) net (reset i : List (CallEvent ι ρ η θ)) := by
  refine ⟨fun k y c he => ?_, fun k y c he => ?_, trivial⟩
  · cases he
  · cases he

/-- What the caller `i` asks is served. -/
theorem run_asked {q : ρ} (hidle : net.waiting i = none) (hask : P.ask (net.callers i) = some q)
    (x : θ) :
    (machine M P).run net [.send i, .serve net.requests.length x]
      = (net.sent i q).served M net.requests.length x
          { caller := i, number := net.count, content := q } := by
  have hsend : (machine M P).next net (.send i) = net.sent i q := by
    simp only [machine, hidle, hask]
  have hserve : (machine M P).next (net.sent i q) (.serve net.requests.length x)
      = (net.sent i q).served M net.requests.length x
        { caller := i, number := net.count, content := q } := by
    simp only [machine, sent, List.getElem?_concat_length]
  show (machine M P).next ((machine M P).next net (.send i)) (.serve net.requests.length x) = _
  rw [hsend, hserve]

theorem run_exchange {q : ρ} (hidle : net.waiting i = none)
    (hask : P.ask (net.callers i) = some q) (x : θ) (y : η) :
    Standing ((machine M P).run net (exchange net i x y))
      (Function.update net.callers i (P.answered (net.callers i) y (M.out net.server (x, q)))) i
      (M.next net.server (x, q)) := by
  have hdeliver : (machine M P).next ((net.sent i q).served M net.requests.length x
        { caller := i, number := net.count, content := q }) (.deliver net.replies.length y)
      = (((net.sent i q).served M net.requests.length x
          { caller := i, number := net.count, content := q }).taken net.replies.length).settled i
        (P.answered (net.callers i) y (M.out net.server (x, q))) := by
    simp only [machine, served, sent, List.getElem?_concat_length, Function.update_self, if_true]
  have hrun : (machine M P).run net (exchange net i x y)
      = (machine M P).next ((machine M P).run net [.send i, .serve net.requests.length x])
          (.deliver net.replies.length y) := rfl
  rw [hrun, run_asked hidle hask, hdeliver]
  exact ⟨rfl, Function.update_self .., rfl⟩

/-- In the three steps of `exchange` the caller `i`, which does not wait, asks
`q`, is served and goes on with the answer. -/
structure Exchanged (M : Machine σ (θ × ρ) π) (P : Caller α ρ π η) (net : Calls ι α σ ρ π)
    (i : ι) (q : ρ) (x : θ) (y : η) : Prop where
  idle : net.waiting i = none
  asked : P.ask (net.callers i) = some q
  taken : Takes i ((machine M P).next net (.send i))
    (.serve net.requests.length x : CallEvent ι ρ η θ)
  after : Standing ((machine M P).run net (exchange net i x y))
    (Function.update net.callers i
      (P.answered (net.callers i) y (M.out net.server (x, q)))) i (M.next net.server (x, q))

/-- A caller that asks something is served if nothing comes between. -/
theorem exchanged {q : ρ} (hidle : net.waiting i = none) (hask : P.ask (net.callers i) = some q)
    (x : θ) (y : η) : Exchanged M P net i q x y where
  idle := hidle
  asked := hask
  taken := by
    have hsend : (machine M P).next net (.send i) = net.sent i q := by
      simp only [machine, hidle, hask]
    rw [hsend]
    exact ⟨_, x, _, rfl, List.getElem?_concat_length, rfl⟩
  after := run_exchange hidle hask x y

/-- Nobody else is touched, so one call can follow the other. -/
theorem Standing.exchanged {callers : ι → α} {a : α} {server : σ} {q : ρ}
    (h : Standing net (Function.update callers i a) i server) (hask : P.ask a = some q)
    (x : θ) (y : η) :
    Exchanged M P net i q x y
      ∧ Standing ((machine M P).run net (exchange net i x y))
        (Function.update callers i (P.answered a y (M.out server (x, q)))) i
        (M.next server (x, q)) := by
  obtain ⟨hcallers, hidle, rfl⟩ := h
  have ha : net.callers i = a := by
    rw [hcallers, Function.update_self]
  have hexchanged := Calls.exchanged (M := M) hidle (ha.symm ▸ hask) x y
  have hafter := hexchanged.after
  rw [ha, hcallers, Function.update_idem] at hafter
  exact ⟨hexchanged, hafter⟩

theorem Exchanged.gives {Y : ι → η → Prop} {q : ρ} {x : θ} {y : η}
    (h : Exchanged M P net i q x y) (hy : Y i y) :
    (machine M P).Guarded (Gives Y) net (exchange net i x y) := by
  have hdelivers : Gives Y ((machine M P).run net [.send i, .serve net.requests.length x])
      (.deliver net.replies.length y : CallEvent ι ρ η θ) := by
    rw [run_asked h.idle h.asked, gives_deliver]
    intro c hc
    simp only [served, sent, List.getElem?_concat_length, Option.mem_some_iff] at hc
    rw [← hc]
    exact hy
  refine ⟨fun k y' c he => ?_, fun k y' c he => ?_, hdelivers, trivial⟩
  · cases he
  · cases he

end Exchange

end Calls
