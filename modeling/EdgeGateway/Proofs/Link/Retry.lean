import EdgeGateway.Proofs.Link.Stopping
import Mathlib.Data.List.Range
import Mathlib.Order.Bounds.Basic

/-!
# EdgeGateway.Proofs.Link.Retry

What a connect sequence does, from its beginning to its end (`Trials.connects`).

* `Trials`        : what each try brings, what is read in the wait after it, and the name servers.
* `Trials.EndsAt` : the tries after which there is no other.
* `Trials.deeds`  : all that a sequence whose last try is the `k`th asks for.
* `Trials.Move`   : a move in a connect sequence, the surroundings answering by the script.
* `Trials.Stage`  : how far a sequence has come, and what it has asked for until then.
-/

namespace EdgeGateway

/-- The task asks for something to be done or told, other than to be heard out. -/
def Link.Request.isDeed : Link.Request → Bool
  | .proceed | .announce _ => false
  | _ => true

/-- All that the task has asked for, the newest last. -/
def Life.deeds (w : Life) : List Link.Request :=
  ((w.log.map Prod.fst).filter Link.Request.isDeed).reverse

namespace Life

theorem deeds_replied (w : Life) (r : Link.Reply) :
    (w.replied r).deeds =
      w.deeds ++ if w.link.request.isDeed then [w.link.request] else [] := by
  cases h : w.link.request.isDeed <;> simp [deeds, replied, h]

theorem tries_eq_count (w : Life) : w.tries = w.deeds.count .connect := by
  have hc : Link.Request.isDeed .connect = true := rfl
  rw [deeds, List.count_reverse, List.count_filter hc, tries, List.count, List.countP_map]
  congr 1

end Life

structure Trials where
  outcome : Nat → Except ConnectError IpAddress
  servers : List IpAddress
  /-- what the wait after a try reads, if there is one -/
  wake : Nat → Commands

namespace Trials

variable {t : Trials} {policy : RetryPolicy} {i k m n : Nat}

def answer (t : Trials) (i : Nat) : Link.Reply :=
  match t.outcome i with
  | .ok ip => .address ip
  | .error e => .failed e

/-- The try is the last one, if at most `n` are allowed. -/
def EndsAt (t : Trials) (n i : Nat) : Prop :=
  (∃ ip, t.outcome i = .ok ip ∧ ip.isUsable = true) ∨ t.outcome i = .error .modemInUse ∨
  (t.wake i).contains .stop = true ∨ (t.wake i).contains .shutdown = true ∨ i = n

/-- A try, and a disconnect if it brings an address of no use. -/
def round (t : Trials) (i : Nat) : List Link.Request :=
  .connect :: match t.outcome i with
    | .ok ip => if ip.isUsable then [] else [.disconnect]
    | .error _ => []

/-- The first `m` tries, with a wait after each. -/
def rounds (t : Trials) (policy : RetryPolicy) (m : Nat) : List Link.Request :=
  (List.range' 1 m).flatMap fun i => t.round i ++ [.wait (some policy.interval)]

/-- What comes after the last try: a wait only if it may have been followed by another one. -/
def finale (t : Trials) (policy : RetryPolicy) (k : Nat) : List Link.Request :=
  let wait := if k = policy.attempts then [] else [.wait (some policy.interval)]
  match t.outcome k with
  | .ok ip => if ip.isUsable then [.askServers] else wait
  | .error e => if e.isRetryable then wait else []

def deeds (t : Trials) (policy : RetryPolicy) (k : Nat) : List Link.Request :=
  t.rounds policy (k - 1) ++ t.round k ++ t.finale policy k

/-- The status and the addresses published in the end. -/
def result (t : Trials) (k : Nat) : Status × Addressing :=
  match t.outcome k with
  | .ok ip => if ip.isUsable then (.started, ⟨some ip, t.servers⟩) else (.failedToStart, {})
  | .error _ => (.failedToStart, {})

/-- A move in a connect sequence. A wait is over when there are commands, or when there are none
after its time. -/
inductive Move (t : Trials) : Life → Life → Prop where
  | heard {w : Life} {st : Status} : w.link.announcing = some st → Move t w (w.replied .done)
  | begin {w : Life} : w.link.announcing = none → w.link.point = .opening →
      Move t w (w.replied .done)
  | next {w : Life} {i : Nat} : w.link.announcing = none → w.link.point = .trying i →
      Move t w (w.replied .done)
  | connect {w : Life} {i : Nat} : w.link.announcing = none → w.link.point = .connecting i →
      Move t w (w.replied (t.answer i))
  | discard {w : Life} {i : Nat} {r : Link.Reply} : w.link.announcing = none →
      w.link.point = .discarding i → Link.Fits .disconnect r → Move t w (w.replied r)
  | resolve {w : Life} {ip : IpAddress} : w.link.announcing = none →
      w.link.point = .resolving ip → Move t w (w.replied (.servers t.servers))
  | wake {w : Life} {i : Nat} : w.link.announcing = none → w.link.point = .pausing i →
      Move t w (w.taken.replied (.commands (t.wake (i - 1))))

/-- A move, whatever is posted before it. -/
inductive Onward (t : Trials) : Life → Life → Prop where
  | move {w w' : Life} : t.Move w w' → Onward t w w'
  | post {w w' : Life} (c : Command) : Onward t (w.post c) w' → Onward t w w'

/-! ## The tries before the last -/

/-- None of the first `m` tries is the last one. -/
def Passed (t : Trials) (n m : Nat) : Prop := ∀ i, 1 ≤ i → i ≤ m → ¬ t.EndsAt n i

/-- The try brings nothing, and another one may do better. -/
def Fails (t : Trials) (i : Nat) : Prop :=
  match t.outcome i with
  | .ok ip => ip.isUsable = false
  | .error e => e.isRetryable = true

theorem Passed.zero : t.Passed n 0 := fun i h1 h0 => by omega

theorem Passed.succ (h : t.Passed n m) (hm : ¬ t.EndsAt n (m + 1)) : t.Passed n (m + 1) := by
  intro i h1 hi
  rcases Nat.le_succ_iff.mp hi with hi | rfl
  · exact h i h1 hi
  · exact hm

theorem Passed.isLeast (h : t.Passed n m) (hm : t.EndsAt n (m + 1)) :
    IsLeast {i | 1 ≤ i ∧ t.EndsAt n i} (m + 1) := by
  refine ⟨⟨by omega, hm⟩, ?_⟩
  rintro i ⟨h1, hi⟩
  by_contra hlt
  exact h i h1 (by omega) hi

theorem isRetryable_iff {e : ConnectError} : e.isRetryable = true ↔ e ≠ .modemInUse := by
  cases e <;> simp [ConnectError.isRetryable]

theorem rounds_succ : t.rounds policy (m + 1) =
    t.rounds policy m ++ t.round (m + 1) ++ [.wait (some policy.interval)] := by
  rw [rounds, List.range'_1_concat, List.flatMap_append]
  simp [rounds, Nat.add_comm]

theorem count_round : (t.round i).count .connect = 1 := by
  unfold round
  split
  · split <;> rfl
  · rfl

theorem count_rounds : (t.rounds policy m).count .connect = m := by
  induction m with
  | zero => rfl
  | succ m ih => rw [rounds_succ, List.count_append, List.count_append, ih, count_round]; rfl

theorem count_finale : (t.finale policy k).count .connect = 0 := by
  unfold finale
  dsimp only
  split <;> split <;> try split
  all_goals rfl

theorem count_deeds (hk : 1 ≤ k) : (t.deeds policy k).count .connect = k := by
  rw [deeds, List.count_append, List.count_append, count_rounds, count_round, count_finale]
  omega

theorem Passed.of_fails (h : t.Passed n m) (hf : t.Fails (m + 1)) (hn : m + 1 ≠ n)
    (hw : ((t.wake (m + 1)).contains .stop || (t.wake (m + 1)).contains .shutdown) = false) :
    t.Passed n (m + 1) := by
  obtain ⟨hstop, hshut⟩ := Bool.or_eq_false_iff.mp hw
  refine h.succ ?_
  rintro (⟨ip, ho, hip⟩ | ho | hc | hc | hlast)
  · simp [Fails, ho, hip] at hf
  · simp [Fails, ho, ConnectError.isRetryable] at hf
  · exact Bool.false_ne_true (hstop.symm.trans hc)
  · exact Bool.false_ne_true (hshut.symm.trans hc)
  · exact hn hlast

theorem finale_of_fails (hf : t.Fails k) : t.finale policy k =
    if k = policy.attempts then [] else [.wait (some policy.interval)] := by
  cases ho : t.outcome k <;> simp_all [Fails, finale]

theorem result_of_fails (hf : t.Fails k) : t.result k = (.failedToStart, {}) := by
  cases ho : t.outcome k <;> simp_all [Fails, result]

/-! ## One move after another -/

/-- What a sequence of at most `policy.attempts` tries has asked for when it is at its point. -/
def Stage (t : Trials) (policy : RetryPolicy) (l : Link) (done : List Link.Request) : Prop :=
  let n := policy.attempts
  match l.point with
  | .opening => done = []
  | .trying i => i = 1 ∧ done = [] ∨ ∃ m, i = m + 2 ∧ m < n ∧ t.Passed n m ∧ t.Fails (m + 1) ∧
      done = t.rounds policy m ++ t.round (m + 1)
  | .pausing i => ∃ m, i = m + 2 ∧ m + 1 < n ∧ t.Passed n m ∧ t.Fails (m + 1) ∧
      done = t.rounds policy m ++ t.round (m + 1)
  | .connecting i => ∃ m, i = m + 1 ∧ m < n ∧ t.Passed n m ∧ done = t.rounds policy m
  | .resolving ip => ∃ m, m < n ∧ t.Passed n m ∧ t.outcome (m + 1) = .ok ip ∧
      ip.isUsable = true ∧ done = t.rounds policy m ++ [.connect]
  | .discarding i => ∃ m ip, i = m + 1 ∧ m < n ∧ t.Passed n m ∧ t.outcome (m + 1) = .ok ip ∧
      ip.isUsable = false ∧ done = t.rounds policy m ++ [.connect]
  | .idle _ => ∃ m, t.Passed n m ∧ t.EndsAt n (m + 1) ∧ done = t.deeds policy (m + 1) ∧
      (l.status, l.addressing) = t.result (m + 1)
  | _ => False

/-- The task is in a connect sequence, or has just ended it. -/
structure Runs (t : Trials) (policy : RetryPolicy) (l : Link) (done : List Link.Request) :
    Prop where
  policy_eq : l.policy = policy
  ready : l.ready = true
  stage : t.Stage policy l done

namespace Runs

variable {l : Link} {ip : IpAddress} {done : List Link.Request}

theorem begin (h : t.Runs policy l done) (ha : l.announcing = none) (hp : l.point = .opening) :
    t.Runs policy (l.resume .done) done := by
  have hd := h.stage
  simp only [Stage, hp] at hd
  have hl : l.resume .done = (l.setStatus .starting).goto (.trying 1) := by
    simp [Link.resume, Link.move, ha, hp, h.ready]
  rw [hl, hd]
  exact ⟨by simpa using h.policy_eq, by simpa using h.ready, .inl ⟨rfl, rfl⟩⟩

theorem next (h : t.Runs policy l done) (hsound : l.Sound) (ha : l.announcing = none)
    (hp : l.point = .trying i) (hn : 1 ≤ policy.attempts) :
    t.Runs policy (l.resume .done) done := by
  have hs := h.stage
  simp only [Stage, hp] at hs
  simp only [Link.Sound, hp] at hsound
  obtain ⟨⟨-, haddr⟩, -⟩ := hsound
  obtain ⟨hpol, hready, -⟩ := h
  rcases hs with ⟨rfl, rfl⟩ | ⟨m, rfl, hm, hpass, hf, rfl⟩
  · have hl : l.resume .done = l.goto (.connecting 1) := by
      simp [Link.resume, Link.move, ha, hp, hpol, Nat.not_lt.mpr hn]
    rw [hl]
    exact ⟨hpol, hready, 0, rfl, hn, .zero, rfl⟩
  · by_cases hlast : policy.attempts < m + 2
    · have hl : l.resume .done = l.giveUp .empty := by
        simp [Link.resume, Link.move, ha, hp, hpol, hlast]
      have hend : m + 1 = policy.attempts := by omega
      rw [hl]
      refine ⟨by simpa [Link.giveUp] using hpol, by simpa [Link.giveUp] using hready, m, hpass,
        .inr (.inr (.inr (.inr hend))), ?_, ?_⟩
      · rw [deeds, finale_of_fails hf, if_pos hend]
        simp
      · simp [Link.giveUp, result_of_fails hf, haddr]
    · have hl : l.resume .done = l.goto (.pausing (m + 2)) := by
        simp [Link.resume, Link.move, ha, hp, hpol, hlast]
      rw [hl]
      exact ⟨hpol, hready, m, rfl, by omega, hpass, hf, rfl⟩

theorem connect (h : t.Runs policy l done) (hsound : l.Sound) (ha : l.announcing = none)
    (hp : l.point = .connecting i) :
    t.Runs policy (l.resume (t.answer i)) (done ++ [.connect]) := by
  have hs := h.stage
  simp only [Stage, hp] at hs
  simp only [Link.Sound, hp] at hsound
  obtain ⟨⟨-, haddr⟩, -⟩ := hsound
  obtain ⟨hpol, hready, -⟩ := h
  obtain ⟨m, rfl, hm, hpass, rfl⟩ := hs
  cases ho : t.outcome (m + 1) with
  | ok ip =>
    cases hip : ip.isUsable with
    | true =>
      have hl : l.resume (t.answer (m + 1)) = l.goto (.resolving ip) := by
        simp [Link.resume, Link.move, ha, hp, answer, ho, hip]
      rw [hl]
      exact ⟨hpol, hready, m, hm, hpass, ho, hip, rfl⟩
    | false =>
      have hl : l.resume (t.answer (m + 1)) =
          (l.setStatus .stopping).goto (.discarding (m + 1)) := by
        simp [Link.resume, Link.move, ha, hp, answer, ho, hip]
      rw [hl]
      exact ⟨by simpa using hpol, by simpa using hready,
        m, ip, rfl, hm, hpass, ho, hip, rfl⟩
  | error e =>
    cases he : e.isRetryable with
    | true =>
      have hl : l.resume (t.answer (m + 1)) = l.goto (.trying (m + 2)) := by
        simp [Link.resume, Link.move, ha, hp, answer, ho, he]
      have hround : t.round (m + 1) = [.connect] := by simp [round, ho]
      rw [hl, ← hround]
      exact ⟨hpol, hready, .inr ⟨m, rfl, hm, hpass, by simp [Fails, ho, he], rfl⟩⟩
    | false =>
      have hl : l.resume (t.answer (m + 1)) = l.giveUp .empty := by
        simp [Link.resume, Link.move, ha, hp, answer, ho, he]
      have huse : e = .modemInUse := by
        by_contra hne
        rw [isRetryable_iff.mpr hne] at he
        cases he
      subst huse
      rw [hl]
      refine ⟨by simpa [Link.giveUp] using hpol, by simpa [Link.giveUp] using hready,
        m, hpass, .inr (.inl ho), ?_, ?_⟩
      · simp [deeds, round, finale, ho, he]
      · simp [Link.giveUp, result, ho, haddr]

/-- Whatever becomes of the disconnect. -/
theorem discard {r : Link.Reply} (h : t.Runs policy l done) (ha : l.announcing = none)
    (hp : l.point = .discarding i) (hr : Link.Fits .disconnect r) :
    t.Runs policy (l.resume r) (done ++ [.disconnect]) := by
  have hs := h.stage
  simp only [Stage, hp] at hs
  obtain ⟨hpol, hready, -⟩ := h
  obtain ⟨m, ip, rfl, hm, hpass, ho, hip, rfl⟩ := hs
  have hl : l.resume r = (l.setStatus .starting).goto (.trying (m + 2)) := by
    cases hr <;> simp [Link.resume, Link.move, ha, hp]
  have hround : t.rounds policy m ++ [.connect] ++ [.disconnect] =
      t.rounds policy m ++ t.round (m + 1) := by simp [round, ho, hip]
  rw [hl, hround]
  exact ⟨by simpa using hpol, by simpa using hready,
    .inr ⟨m, rfl, hm, hpass, by simp [Fails, ho, hip], rfl⟩⟩

theorem resolve (h : t.Runs policy l done) (ha : l.announcing = none)
    (hp : l.point = .resolving ip) :
    t.Runs policy (l.resume (.servers t.servers)) (done ++ [.askServers]) := by
  have hs := h.stage
  simp only [Stage, hp] at hs
  obtain ⟨hpol, hready, -⟩ := h
  obtain ⟨m, hm, hpass, ho, hip, rfl⟩ := hs
  have hl : l.resume (.servers t.servers) =
      ({ l with addressing := ⟨some ip, t.servers⟩ }.setStatus .started).goto (.idle .empty) := by
    simp [Link.resume, Link.move, ha, hp]
  rw [hl]
  refine ⟨by simpa using hpol, by simpa using hready, m, hpass, .inl ⟨ip, ho, hip⟩, ?_, ?_⟩
  · simp [deeds, round, finale, ho, hip]
  · simp [result, ho, hip]

/-- A wait that brings a stop or a shutdown ends the sequence. -/
theorem wake (h : t.Runs policy l done) (hsound : l.Sound) (ha : l.announcing = none)
    (hp : l.point = .pausing i) :
    t.Runs policy ({ l with pending := {} }.resume (.commands (t.wake (i - 1))))
      (done ++ [.wait (some policy.interval)]) := by
  have hs := h.stage
  simp only [Stage, hp] at hs
  simp only [Link.Sound, hp] at hsound
  obtain ⟨⟨-, haddr⟩, -⟩ := hsound
  obtain ⟨hpol, hready, -⟩ := h
  obtain ⟨m, rfl, hm, hpass, hf, rfl⟩ := hs
  simp only [Nat.add_succ_sub_one]
  cases hw : (t.wake (m + 1)).contains .stop || (t.wake (m + 1)).contains .shutdown with
  | false =>
    have hl : { l with pending := {} }.resume (.commands (t.wake (m + 1))) =
        { l with pending := {}, point := .connecting (m + 2) } := by
      simp [Link.resume, Link.move, ha, hp, hw, Link.goto]
    rw [hl, ← rounds_succ]
    exact ⟨hpol, hready, m + 1, rfl, hm, hpass.of_fails hf (by omega) hw, rfl⟩
  | true =>
    obtain ⟨left, hl⟩ : ∃ left, { l with pending := {} }.resume (.commands (t.wake (m + 1))) =
        { l with pending := {} }.giveUp left := by
      simp [Link.resume, Link.move, ha, hp, hw]
    have hend : t.EndsAt policy.attempts (m + 1) := by
      rcases Bool.or_eq_true_iff.mp hw with hc | hc
      · exact .inr (.inr (.inl hc))
      · exact .inr (.inr (.inr (.inl hc)))
    rw [hl]
    refine ⟨by simpa [Link.giveUp] using hpol, by simpa [Link.giveUp] using hready,
      m, hpass, hend, ?_, ?_⟩
    · rw [deeds, finale_of_fails hf, if_neg (by omega)]
      simp
    · simp [Link.giveUp, result_of_fails hf, haddr]

end Runs

/-! ## A whole sequence -/

/-- The sequence is over. -/
structure Ended (t : Trials) (policy : RetryPolicy) (k : Nat) (w : Life) : Prop where
  idle : w.link.announcing = none ∧ ∃ left, w.link.point = .idle left
  tries : w.tries = k
  deeds : w.deeds = t.deeds policy k
  result : (w.link.status, w.link.addressing) = t.result k

variable {w w' : Life}

/-- A listener is heard out, the task turns to what is next, or a wait is over. -/
theorem Move.link_cases (hm : t.Move w w') :
    (∃ st, w.link.announcing = some st ∧ w'.link = { w.link with announcing := none }) ∨
    w.link.announcing = none ∧
      ((w.link.carries = false ∧ ∃ r, w.link.Turn w.link.request r w'.link) ∨
        ∃ cs ms, w.taken.link.Reads cs (some ms) w'.link) := by
  have turns {r : Link.Reply} {q : Link.Request} (ha : w.link.announcing = none)
      (hq : w.link.request = q) (hr : Link.Fits q r) :
      w.link.Turn w.link.request r (w.replied r).link := Link.turn_of_fits ha (hq ▸ hr)
  cases hm with
  | heard ha => exact .inl ⟨_, ha, by simp only [Life.replied, Link.resume, ha]⟩
  | begin ha hp =>
    have hq : w.link.request = .proceed := by simp only [Link.request, ha, hp]
    exact .inr ⟨ha, .inl ⟨by simp [Link.carries, hp], _, turns ha hq .proceed⟩⟩
  | next ha hp =>
    have hq : w.link.request = .proceed := by simp only [Link.request, ha, hp]
    exact .inr ⟨ha, .inl ⟨by simp [Link.carries, hp], _, turns ha hq .proceed⟩⟩
  | @connect i ha hp =>
    have hq : w.link.request = .connect := by simp only [Link.request, ha, hp]
    have hr : Link.Fits .connect (t.answer i) := by
      unfold answer
      split
      · exact .connect
      · exact .connectFailed
    exact .inr ⟨ha, .inl ⟨by simp [Link.carries, hp], _, turns ha hq hr⟩⟩
  | discard ha hp hr =>
    have hq : w.link.request = .disconnect := by simp only [Link.request, ha, hp]
    exact .inr ⟨ha, .inl ⟨by simp [Link.carries, hp], _, turns ha hq hr⟩⟩
  | resolve ha hp =>
    have hq : w.link.request = .askServers := by simp only [Link.request, ha, hp]
    exact .inr ⟨ha, .inl ⟨by simp [Link.carries, hp], _, turns ha hq .askServers⟩⟩
  | wake ha hp =>
    have hq : w.taken.link.request = .wait (some w.link.policy.interval) := by
      simp only [Life.taken, Link.request, ha, hp]
    exact .inr ⟨ha, .inr ⟨_, _, Link.reads_of_wait hq _⟩⟩

theorem Move.sound (hs : w.link.Sound) (hm : t.Move w w') : w'.link.Sound := by
  rcases hm.link_cases with ⟨_, -, hl⟩ | ⟨ha, ⟨-, _, hturn⟩ | ⟨cs, ms, hreads⟩⟩
  · rw [hl]
    exact hs.heard
  · exact hturn.sound hs ha
  · exact hreads.sound (show w.taken.link.Sound from hs)

/-- The task runs down its ranks. -/
theorem Move.falls (hs : w.link.Sound) (hm : t.Move w w') : w'.link.count < w.link.count := by
  rcases hm.link_cases with ⟨_, ha, hl⟩ | ⟨ha, ⟨hc, _, hturn⟩ | ⟨cs, ms, hreads⟩⟩
  · simp [hl, Link.count, Link.rank, ha]
  · rcases hturn.falls hs ha with ⟨hc', -⟩ | ⟨-, hlt⟩
    · rw [hc] at hc'
      cases hc'
    · exact hlt
  · have ha' : w.taken.link.announcing = none := ha
    have hcount : w.taken.link.count = w.link.count := rfl
    rw [← hcount]
    generalize w'.link = l' at hreads ⊢
    cases hreads with
    | abort hp _ => exact Link.count_setStatus_lt ha' (by simp [Link.rank, hp])
    | retry hp _ => exact Link.count_goto_lt ha' (by simp [Link.rank, hp])

theorem Move.runs (hn : 1 ≤ policy.attempts) (hs : w.link.Sound)
    (h : t.Runs policy w.link w.deeds) (hm : t.Move w w') : t.Runs policy w'.link w'.deeds := by
  cases hm with
  | @heard st ha =>
    have hq : w.link.request = .announce st := by simp only [Link.request, ha]
    have hl : w.link.resume .done = { w.link with announcing := none } := by
      simp only [Link.resume, ha]
    rw [Life.deeds_replied, hq]
    simp only [Life.replied, hl, Link.Request.isDeed, Bool.false_eq_true, if_false,
      List.append_nil]
    exact ⟨h.policy_eq, h.ready, h.stage⟩
  | begin ha hp =>
    have hq : w.link.request = .proceed := by simp only [Link.request, ha, hp]
    rw [Life.deeds_replied, hq]
    simpa [Link.Request.isDeed, Life.replied] using h.begin ha hp
  | next ha hp =>
    have hq : w.link.request = .proceed := by simp only [Link.request, ha, hp]
    rw [Life.deeds_replied, hq]
    simpa [Link.Request.isDeed, Life.replied] using h.next hs ha hp hn
  | connect ha hp =>
    have hq : w.link.request = .connect := by simp only [Link.request, ha, hp]
    rw [Life.deeds_replied, hq]
    exact h.connect hs ha hp
  | discard ha hp hr =>
    have hq : w.link.request = .disconnect := by simp only [Link.request, ha, hp]
    rw [Life.deeds_replied, hq]
    exact h.discard ha hp hr
  | resolve ha hp =>
    have hq : w.link.request = .askServers := by simp only [Link.request, ha, hp]
    rw [Life.deeds_replied, hq]
    exact h.resolve ha hp
  | wake ha hp =>
    have hq : w.taken.link.request = .wait (some policy.interval) := by
      simp only [Life.taken, Link.request, ha, hp, h.policy_eq]
    rw [Life.deeds_replied, hq]
    exact h.wake hs ha hp

/-- The task is in a connect sequence, and has asked for what the trials make it ask for. -/
structure Follows (t : Trials) (policy : RetryPolicy) (w : Life) : Prop where
  sound : w.link.Sound
  runs : t.Runs policy w.link w.deeds

namespace Follows

theorem onward (hn : 1 ≤ policy.attempts) (h : t.Follows policy w) (ho : t.Onward w w') :
    t.Follows policy w' ∧ w'.link.count < w.link.count := by
  induction ho with
  | move hm => exact ⟨⟨hm.sound h.sound, hm.runs hn h.sound h.runs⟩, hm.falls h.sound⟩
  | post c _ ih => exact ih ⟨h.sound, h.runs.policy_eq, h.runs.ready, h.runs.stage⟩

/-- A sequence has a next move until it is over. -/
theorem idle_of_rest (h : t.Follows policy w) (hr : AtRest t.Onward w) :
    w.link.announcing = none ∧ ∃ left, w.link.point = .idle left := by
  have hs := h.runs.stage
  cases ha : w.link.announcing with
  | some st => exact absurd (.move (.heard ha)) (hr _)
  | none =>
    refine ⟨rfl, ?_⟩
    cases hp : w.link.point with
    | idle left => exact ⟨left, rfl⟩
    | opening => exact absurd (.move (.begin ha hp)) (hr _)
    | trying i => exact absurd (.move (.next ha hp)) (hr _)
    | connecting i => exact absurd (.move (.connect ha hp)) (hr _)
    | discarding i => exact absurd (.move (.discard ha hp .disconnect)) (hr _)
    | resolving ip => exact absurd (.move (.resolve ha hp)) (hr _)
    | pausing i => exact absurd (.move (.wake ha hp)) (hr _)
    | _ => simp [Stage, hp] at hs

theorem ended (h : t.Follows policy w) (hr : AtRest t.Onward w) :
    ∃ k, IsLeast {i | 1 ≤ i ∧ t.EndsAt policy.attempts i} k ∧ t.Ended policy k w := by
  obtain ⟨ha, left, hp⟩ := h.idle_of_rest hr
  have hs := h.runs.stage
  simp only [Stage, hp] at hs
  obtain ⟨m, hpass, hend, hdeeds, hresult⟩ := hs
  have htries : w.tries = m + 1 := by rw [Life.tries_eq_count, hdeeds, count_deeds (by omega)]
  exact ⟨m + 1, hpass.isLeast hend, ⟨ha, left, hp⟩, htries, hdeeds, hresult⟩

end Follows

/-- However the surroundings answer, a sequence makes its tries up to the first one that ends it,
asks for nothing else but what follows from them, and publishes what that try has brought. -/
theorem connects (t : Trials) {l : Link} (hdown : l.Down) (hp : l.point = .opening)
    (hr : l.ready = true) (hn : 1 ≤ l.policy.attempts) :
    Settles t.Onward (fun w => ∃ k,
      IsLeast {i | 1 ≤ i ∧ t.EndsAt l.policy.attempts i} k ∧ t.Ended l.policy k w)
      { link := l } := by
  have hsound : l.Sound := by simpa only [Link.Sound, hp] using hdown
  have hstart : t.Follows l.policy { link := l } :=
    ⟨hsound, rfl, hr, by simp [Stage, hp, Life.deeds]⟩
  refine .of_invariant (fun w => toLex (0, w.link.count)) (fun _ _ h ho => (h.onward hn ho).1)
    (fun _ _ h ho => ?_) (fun _ h hrest => h.ended hrest) hstart
  rw [Prod.Lex.toLex_lt_toLex]
  exact .inr ⟨rfl, (h.onward hn ho).2⟩

/-- Two of three tries: an address of no use, then none, and an operator who has had enough. -/
theorem connects_until_stopped :
    let t : Trials :=
      { outcome := fun i => if i = 1 then .ok (.v4 0 0 0 0) else .error .timeout
        servers := []
        wake := fun i => if i = 2 then .only .stop else .empty }
    let l : Link := { kind := .cellular, policy := ⟨3, 50⟩, ready := true }
    ∃ w, Relation.ReflTransGen t.Onward { link := l } w ∧ AtRest t.Onward w ∧ w.tries = 2 ∧
      w.deeds = [.connect, .disconnect, .wait (some 50), .connect, .wait (some 50)] ∧
      (w.link.status, w.link.addressing) = (.failedToStart, {}) := by
  intro t l
  have h := connects t (l := l) ⟨nofun, rfl⟩ rfl rfl (by decide)
  obtain ⟨w, hrun, hrest⟩ := h.exists_rest
  obtain ⟨k, hleast, hended⟩ := h.good_of_rest hrun hrest
  have hfirst : ¬ t.EndsAt 3 1 := by
    rintro (⟨ip, ho, hip⟩ | ho | hc | hc | h3)
    · cases ho
      exact Bool.false_ne_true hip
    · cases ho
    · simp [t] at hc
    · simp [t] at hc
    · cases h3
  have hstop : (t.wake 2).contains .stop = true := by simp [t]
  obtain rfl : 2 = k :=
    IsLeast.unique ((Passed.zero.succ hfirst).isLeast (.inr (.inr (.inl hstop)))) hleast
  exact ⟨w, hrun, hrest, hended.tries, hended.deeds, hended.result⟩

/-! ## Lives in a connect sequence -/

/-- The reply is the one of the trials, where they have one. -/
def Agrees (t : Trials) : Link.Point → Link.Reply → Prop
  | .connecting i, r => r = t.answer i
  | .resolving _, r => r = .servers t.servers
  | .pausing i, r => r = .commands (t.wake (i - 1))
  | _, _ => True

theorem pausing_of_wait {l : Link} {limit : Option Nat} (hq : l.request = .wait limit)
    (hgoing : ∀ left, l.point ≠ .idle left) : ∃ i, l.point = .pausing i := by
  have hr := Link.reads_of_wait hq .empty
  generalize l.resume (.commands .empty) = l' at hr
  cases hr with
  | abort hp _ | retry hp _ => exact ⟨_, hp⟩
  | acted hp _ _ => exact absurd hp (hgoing _)

/-- A life in a connect sequence moves by any trials that agree with the reply it gets. -/
theorem Follows.of_life (h : t.Follows policy w) (hgoing : ∀ left, w.link.point ≠ .idle left)
    (hm : w.Move w') (hagrees : w.link.announcing = none →
      ∀ r, w'.log = (w.link.request, r) :: w.log → t.Agrees w.link.point r) : t.Move w w' := by
  have hs := h.runs.stage
  cases hm with
  | @reply r hf =>
    cases ha : w.link.announcing with
    | some st =>
      have hq : w.link.request = .announce st := by simp only [Link.request, ha]
      rw [hq] at hf
      cases hf
      exact .heard ha
    | none =>
      have hagrees := hagrees ha r rfl
      simp only [Link.request, ha] at hf
      cases hp : w.link.point with
      | opening =>
        simp only [hp] at hf
        cases hf
        exact .begin ha hp
      | trying i =>
        simp only [hp] at hf
        cases hf
        exact .next ha hp
      | connecting i =>
        simp only [Agrees, hp] at hagrees
        rw [hagrees]
        exact .connect ha hp
      | resolving ip =>
        simp only [Agrees, hp] at hagrees
        rw [hagrees]
        exact .resolve ha hp
      | discarding i =>
        simp only [hp] at hf
        exact .discard ha hp hf
      | pausing i =>
        simp only [hp] at hf
        cases hf
      | idle left => exact absurd hp (hgoing left)
      | _ => simp [Stage, hp] at hs
  | read hq hb =>
    have ha := Link.announcing_of_wait hq
    obtain ⟨i, hp⟩ := pausing_of_wait hq hgoing
    have hagrees := hagrees ha _ rfl
    simp only [Agrees, hp] at hagrees
    rw [hagrees]
    exact .wake ha hp
  | expire hq hb =>
    have ha := Link.announcing_of_wait hq
    obtain ⟨i, hp⟩ := pausing_of_wait hq hgoing
    have hagrees := hagrees ha _ rfl
    simp only [Agrees, hp] at hagrees
    -- nothing has been waiting that could be taken
    have hnone : w.link.pending = {} := congrArg Commands.mk hb
    have htaken : w.taken = w := by rw [Life.taken, ← hnone]
    rw [hagrees, ← congrArg (Life.replied · _) htaken]
    exact .wake ha hp

end Trials

end EdgeGateway
