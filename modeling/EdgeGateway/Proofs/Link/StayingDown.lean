import EdgeGateway.Proofs.Link.Stopping
import Mathlib.Data.List.TakeWhile

/-!
# EdgeGateway.Proofs.Link.StayingDown

When a link that is down stays down (`Life.stays_down_iff`).

* `Life.Outside`  : what reaches a link task from outside, an operator's command or the loss of the
  address.
* `Life.Runs`     : a run in which given things reach the task in a given order, at any time.
* `Life.CanTry`   : some run of the task alone comes to a try.
* `Life.Unroused` : neither what is pending nor what comes makes the task connect.
-/

namespace EdgeGateway

namespace Link

theorem ahead_of_isHalted {l : Link} (h : l.isHalted = true) : l.ahead = 0 := by
  cases hp : l.point <;> simp_all [isHalted, ahead]

theorem Reads.isHalted {l l' : Link} {cs : Commands} {limit : Option Nat}
    (hr : Reads l cs limit l') (hh : l.isHalted = true) (hstart : cs.contains .start = false)
    (hrestart : cs.contains .restart = false) (hshut : cs.contains .shutdown = false) :
    l'.isHalted = true := by
  cases hr with
  | abort hp _ | retry hp _ => simp [Link.isHalted, hp] at hh
  | acted hp _ hacts =>
    cases hacts with
    | nothing _ =>
      simp only [Link.isHalted, hp, Bool.and_eq_true] at hh
      exact hh.2
    | confirm _ hc _ => simp [hstart] at hc
    | reconnect _ hc => simp [hstart, hrestart] at hc
    | stop _ => simp [Link.isHalted]
    | exit hc => simp [hshut] at hc

/-- A link that is allowed no tries makes none. -/
theorem request_ne_connect {l : Link} (h : l.Sound) (hn : l.policy.attempts = 0) :
    l.request ≠ .connect := by
  intro hq
  cases ha : l.announcing with
  | some s => simp [request, ha] at hq
  | none =>
    simp only [request, ha] at hq
    cases hp : l.point with
    | connecting n =>
      simp only [Sound, hp] at h
      omega
    | idle left | leaving next | closing => simp only [hp] at hq; split at hq <;> cases hq
    | _ => simp only [hp] at hq; cases hq

end Link

namespace Life

/-! ## Ways to a try -/

/-- The task can come to a try without anything from outside, if its surroundings answer so. -/
def CanTry (l : Link) : Prop :=
  ∀ log, ∃ w', Relation.ReflTransGen Move ⟨l, log⟩ w' ∧ w'.link.request = .connect

namespace CanTry

variable {l : Link}

theorem of_reply {r : Link.Reply} (hf : Link.Fits l.request r) (h : CanTry (l.resume r)) :
    CanTry l := by
  intro log
  obtain ⟨w', hs, hq⟩ := h ((l.request, r) :: log)
  exact ⟨w', .head (.reply hf) hs, hq⟩

theorem of_read {m : Option Nat} (hq : l.request = .wait m) (hb : l.pending.bits ≠ 0)
    (h : CanTry (Link.resume { l with pending := {} } (.commands l.pending))) : CanTry l := by
  intro log
  obtain ⟨w', hs, hc⟩ := h ((Link.request { l with pending := {} }, .commands l.pending) :: log)
  exact ⟨w', .head (.read (w := ⟨l, log⟩) hq hb) hs, hc⟩

theorem of_heard (h : CanTry { l with announcing := none }) : CanTry l := by
  cases ha : l.announcing with
  | none => rwa [← ha] at h
  | some s =>
    have hq : l.request = .announce s := by simp only [Link.request, ha]
    refine of_reply (r := .done) (hq ▸ .announce) ?_
    simpa only [Link.resume, ha] using h

theorem connecting {n : Nat} (hp : l.point = .connecting n) : CanTry l :=
  of_heard fun _ => ⟨_, .refl, by simp [Link.request, hp]⟩

theorem trying (hp : l.point = .trying 1) (hn : 1 ≤ l.policy.attempts) : CanTry l := by
  refine of_heard (of_reply (r := .done) ?_ (connecting (n := 1) ?_))
  · simpa [Link.request, hp] using Link.Fits.proceed
  · simp [Link.resume, Link.move, hp, Nat.not_lt.mpr hn]

theorem bringingUp (hp : l.point = .bringingUp) (hn : 1 ≤ l.policy.attempts) : CanTry l := by
  refine of_heard (of_reply (r := .done) ?_ (trying ?_ ?_))
  · simpa [Link.request, hp] using Link.Fits.bringUp
  · simp [Link.resume, Link.move, hp]
  · simpa [Link.resume, Link.move, hp] using hn

theorem opening (hp : l.point = .opening) (hn : 1 ≤ l.policy.attempts) : CanTry l := by
  refine of_heard (of_reply (r := .done) ?_ ?_)
  · simpa [Link.request, hp] using Link.Fits.proceed
  · by_cases hr : l.ready = true
    · exact trying (by simp [Link.resume, Link.move, hp, hr])
        (by simpa [Link.resume, Link.move, hp] using hn)
    · exact bringingUp (by simp [Link.resume, Link.move, hp, hr])
        (by simpa [Link.resume, Link.move, hp] using hn)

theorem reconnecting (hp : l.point = .left .reconnect) (hn : 1 ≤ l.policy.attempts) : CanTry l := by
  refine of_heard (of_reply (r := .done) ?_ (opening ?_ ?_))
  · simpa [Link.request, hp] using Link.Fits.proceed
  · simp [Link.resume, Link.move, hp]
  · simpa [Link.resume, Link.move, hp] using hn

/-- From a link that is left on, the task goes where it was going. -/
theorem disconnecting {k : Link.Next} (hp : l.point = .disconnecting k)
    (h : ∀ l', l'.point = .left k → l'.status = .stopped → l'.policy = l.policy →
      l'.pending = l.pending → CanTry l') : CanTry l := by
  refine of_heard (of_reply (r := .done) ?_ (h _ ?_ ?_ ?_ ?_))
  · simpa [Link.request, hp] using Link.Fits.disconnect
  all_goals simp [Link.resume, Link.move, hp]

theorem leaving {k : Link.Next} (hp : l.point = .leaving k)
    (h : ∀ l', l'.point = .left k → l'.status = .stopped → l'.policy = l.policy →
      l'.pending = l.pending → CanTry l') : CanTry l := by
  apply of_heard
  by_cases hup : l.status = .started
  · refine of_reply (r := .done) ?_ (disconnecting (k := k) ?_ fun l' hp' hs hpol hpend =>
      h l' hp' hs (hpol.trans ?_) (hpend.trans ?_))
    · simpa [Link.request, hp, Link.isUp, hup] using Link.Fits.proceed
    all_goals simp [Link.resume, Link.move, hp, Link.isUp, hup]
  · refine of_reply (r := .flag false) ?_ (h _ ?_ ?_ ?_ ?_)
    · simpa [Link.request, hp, Link.isUp, hup] using Link.Fits.askConnected
    all_goals simp [Link.resume, Link.move, hp, Link.isUp, hup]

/-- What a waiting task reads makes it connect. -/
theorem idle {c : Commands} (hp : l.point = .idle c) (hl : c.isEmpty = true)
    (hdown : l.status ≠ .started) (hn : 1 ≤ l.policy.attempts)
    (hno : l.pending.contains .shutdown = false)
    (hyes : l.pending.contains .start = true ∨ l.pending.contains .restart = true) :
    CanTry l := by
  have hb : l.pending.bits ≠ 0 := by
    intro hb
    simp [Commands.contains_of_bits_eq_zero hb] at hyes
  apply of_heard
  refine of_read (m := none) (by simp [Link.request, hp, hl]) hb ?_
  obtain ⟨p, hact, hacts⟩ :=
    Link.acts { l with announcing := none, pending := {} } l.pending
  have hresume : Link.resume { l with announcing := none, pending := {} } (.commands l.pending) =
      Link.goto { l with announcing := none, pending := {} } p := by
    simpa only [Link.resume, Link.move, hp, hl, if_true] using hact
  rw [hresume]
  cases hacts with
  | nothing he => simp [Commands.isEmpty_iff.mp he] at hyes
  | confirm _ _ hup => exact absurd hup hdown
  | reconnect _ _ =>
    exact leaving (k := .reconnect) rfl fun l' hp' _ hpol _ => reconnecting hp' (hpol ▸ hn)
  | stop _ hs hr => simp [hs, hr] at hyes
  | exit hs => simp [hno] at hs

/-- A halted link with a start or a restart waiting, and no shutdown. -/
theorem of_isHalted (hs : l.Sound) (hh : l.isHalted = true) (hn : 1 ≤ l.policy.attempts)
    (hno : l.pending.contains .shutdown = false)
    (hyes : l.pending.contains .start = true ∨ l.pending.contains .restart = true) :
    CanTry l := by
  have hleft : ∀ l', l'.point = .left .stay → l'.status = .stopped → l'.policy = l.policy →
      l'.pending = l.pending → CanTry l' := by
    intro l' hp hs hpol hpend
    refine of_heard (of_reply (r := .done) ?_ (idle (c := .empty) ?_ rfl ?_ ?_ ?_ ?_))
    · simpa [Link.request, hp] using Link.Fits.proceed
    all_goals simp [Link.resume, Link.move, hp, hs, hpol, hpend, hn, hno, hyes]
  cases hp : l.point with
  | leaving next =>
    obtain rfl : next = .stay := by simpa [Link.isHalted, hp] using hh
    exact leaving hp hleft
  | disconnecting next =>
    obtain rfl : next = .stay := by simpa [Link.isHalted, hp] using hh
    exact disconnecting hp hleft
  | left next =>
    obtain rfl : next = .stay := by simpa [Link.isHalted, hp] using hh
    simp only [Link.Sound, hp] at hs
    exact hleft l hp hs.1 rfl rfl
  | idle left =>
    have hl : left.isEmpty = true ∧ l.status ≠ .started := by simpa [Link.isHalted, hp] using hh
    exact idle hp hl.1 hl.2 hn hno hyes
  | _ => simp [Link.isHalted, hp] at hh

end CanTry

/-! ## What comes from outside -/

inductive Outside where
  | ask (c : Command)
  /-- the connection manager lost the address -/
  | loss
  deriving DecidableEq

def Outside.command : Outside → Command
  | .ask c => c
  | .loss => .restart

def meet (w : Life) : Outside → Life
  | .ask c => w.post c
  | .loss => { w with link := w.link.ipLost }

/-- A run that meets these things, in this order. -/
inductive Runs : List Outside → Life → Life → Prop where
  | done {w : Life} : Runs [] w w
  | move {w w₁ w' : Life} {es : List Outside} : Move w w₁ → Runs es w₁ w' → Runs es w w'
  | meet {w w' : Life} {e : Outside} {es : List Outside} : Runs es (w.meet e) w' →
      Runs (e :: es) w w'

theorem meet_eq_post (w : Life) (e : Outside) : w.meet e = w.post e.command := by
  cases e <;> rfl

namespace Runs

variable {w w₁ w' : Life} {es es' : List Outside}

theorem of_moves (h : Relation.ReflTransGen Move w w₁) (hr : Runs es w₁ w') : Runs es w w' := by
  induction h using Relation.ReflTransGen.head_induction_on with
  | refl => exact hr
  | head hm _ ih => exact .move hm ih

theorem append (h : Runs es w w₁) (h' : Runs es' w₁ w') : Runs (es ++ es') w w' := by
  induction h with
  | done => exact h'
  | move hm _ ih => exact .move hm (ih h')
  | meet _ ih => exact .meet (ih h')

theorem steps (h : Runs es w w') : Relation.ReflTransGen Step w w' := by
  induction h with
  | done => exact .refl
  | move hm _ ih => exact .head (.move hm) ih
  | @meet w w' e es _ ih => exact .head (w.meet_eq_post e ▸ .post _) ih

/-- All that comes can come before the task moves. -/
theorem of_meets (w : Life) (es : List Outside) : Runs es w (es.foldl Life.meet w) := by
  induction es generalizing w with
  | nil => exact .done
  | cons e es ih => exact .meet (ih _)

end Runs

theorem link_of_meets (w : Life) (es : List Outside) :
    ∃ cs, es.foldl meet w = { w with link := { w.link with pending := cs } } ∧
      ∀ c, cs.contains c = (w.link.pending.contains c || es.any (·.command = c)) := by
  induction es generalizing w with
  | nil => exact ⟨_, rfl, by simp⟩
  | cons e es ih =>
    obtain ⟨cs, heq, hcs⟩ := ih (w.meet e)
    refine ⟨cs, by rw [List.foldl_cons, heq, meet_eq_post]; rfl, fun c => ?_⟩
    rw [hcs, meet_eq_post]
    simp only [post, Link.notify, Commands.contains_insert, List.any_cons]
    ac_rfl

theorem Step.policy_eq {w w' : Life} (h : Step w w') : w'.link.policy = w.link.policy := by
  cases h with
  | post c => rfl
  | move hm =>
    cases hm.moved with
    | heard _ => rfl
    | turned _ _ ht => exact ht.policy_eq
    | read _ _ hr | expired _ _ hr => exact hr.policy_eq

theorem Move.tries_le {w w' : Life} (h : Move w w') : w.tries ≤ w'.tries := by
  cases h.moved <;> simp

theorem tries_le_of_steps {w w' : Life} (h : Relation.ReflTransGen Step w w') :
    w.tries ≤ w'.tries := by
  induction h with
  | refl => exact Nat.le_refl _
  | tail _ hs ih =>
    cases hs with
    | move hm => exact ih.trans hm.tries_le
    | post c => exact ih

/-! ## Down for good -/

/-- The task makes nothing of what is pending but a stop, and at most `k` tries are ever made. -/
structure Staying (k : Nat) (w : Life) : Prop where
  sound : w.Sound
  halted : w.link.isHalted = true
  tries : w.tries ≤ k
  noStart : w.link.pending.contains .start = false
  noRestart : w.link.pending.contains .restart = false
  noShutdown : w.link.pending.contains .shutdown = false

namespace Staying

variable {k : Nat} {w w' : Life}

theorem move (h : Staying k w) (hm : Move w w') : Staying k w' := by
  obtain ⟨hs, hh, hk, hstart, hrestart, hshut⟩ := h
  have hs' := hs.move hm
  cases hm.moved with
  | heard _ => exact ⟨hs', hh, by simpa using hk, hstart, hrestart, hshut⟩
  | turned _ _ ht =>
    have hle := ht.ahead_le hs.link
    rw [Link.ahead_of_isHalted hh] at hle
    rw [← ht.pending_eq] at hstart hrestart hshut
    exact ⟨hs', ht.isHalted hs.link hh, by rw [tries_cons]; omega, hstart, hrestart, hshut⟩
  | read _ _ hr =>
    have hpend : _ = ({} : Commands) := hr.pending_eq
    exact ⟨hs', hr.isHalted hh hstart hrestart hshut, by simpa using hk, by simp [hpend],
      by simp [hpend], by simp [hpend]⟩
  | expired _ hb hr =>
    have hno := Commands.contains_of_bits_eq_zero hb
    rw [← hr.pending_eq] at hstart hrestart hshut
    exact ⟨hs', hr.isHalted hh (by simp) (by simp) (by simp), by simpa using hk, hstart, hrestart,
      hshut⟩

theorem shutting (h : Staying k w) : Shutting k (w.post .shutdown) where
  sound := h.sound.step (.post _)
  told := .inl (by simp [post, Link.notify])
  tries := by
    show w.tries + w.link.ahead ≤ k
    rw [Link.ahead_of_isHalted h.halted]
    exact h.tries

theorem triesBegun_le (h : Staying k w) : w.triesBegun ≤ k :=
  triesBegun_le_of_ahead (by rw [Link.ahead_of_isHalted h.halted]; exact h.tries)

/-- Up to a shutdown only stops come, and after it what may. -/
theorem runs {es : List Outside} (h : Staying k w) (hr : Runs es w w')
    (hask : ∀ c, .ask c ∈ es → c ≠ .start ∧ c ≠ .restart)
    (hloss : .loss ∉ es.takeWhile (· ≠ .ask .shutdown)) : w'.triesBegun ≤ k := by
  induction hr with
  | done => exact h.triesBegun_le
  | move hm _ ih => exact ih (h.move hm) hask hloss
  | @meet w w' e es hr ih =>
    cases e with
    | loss => simp at hloss
    | ask c =>
      obtain ⟨hs, hre⟩ := hask c (List.mem_cons_self ..)
      by_cases hc : c = .shutdown
      · subst hc
        exact (h.shutting.steps hr.steps).triesBegun_le
      · refine ih ⟨h.sound.step (.post c), h.halted, h.tries, ?_, ?_, ?_⟩
          (fun d hd => hask d (List.mem_cons_of_mem _ hd)) ?_
        · simpa [meet, post, Link.notify, hs] using h.noStart
        · simpa [meet, post, Link.notify, hre] using h.noRestart
        · simpa [meet, post, Link.notify, hc] using h.noShutdown
        · simpa [hc] using hloss

end Staying

/-- Nothing tells the task to connect before it reads a shutdown. -/
def Unroused (w : Life) (es : List Outside) : Prop :=
  w.link.pending.contains .shutdown = true ∨
    (w.link.pending.contains .start = false ∧ w.link.pending.contains .restart = false ∧
      .loss ∉ es.takeWhile (· ≠ .ask .shutdown))

theorem triesBegun_le_of_no_attempts {w w' : Life} (hs : w.Sound)
    (hn : w.link.policy.attempts = 0) (h : Relation.ReflTransGen Step w w') :
    w'.triesBegun ≤ w.tries := by
  have hkept : w'.Sound ∧ w'.link.policy.attempts = 0 ∧ w'.tries = w.tries := by
    induction h with
    | refl => exact ⟨hs, hn, rfl⟩
    | @tail w₁ w₂ _ hstep ih =>
      obtain ⟨hs₁, hn₁, ht⟩ := ih
      refine ⟨hs₁.step hstep, by rw [hstep.policy_eq, hn₁], ?_⟩
      cases hstep with
      | post c => exact ht
      | move hm =>
        cases hm.moved with
        | turned _ hq _ => simp [hq, Link.request_ne_connect hs₁.link hn₁, ht]
        | _ => simpa using ht
  obtain ⟨hs', hn', ht⟩ := hkept
  simp [triesBegun, Link.request_ne_connect hs'.link hn', ht]

/-- Whatever comes later, the task is brought to a try by what is pending together with the first
things that come. -/
theorem exists_try_of_append {w : Life} (hs : w.Sound) (hd : w.link.isHalted = true)
    (hn : 1 ≤ w.link.policy.attempts) (first rest : List Outside)
    (hno : w.link.pending.contains .shutdown = false ∧ ∀ e ∈ first, e.command ≠ .shutdown)
    (hyes : w.link.pending.contains .start = true ∨ w.link.pending.contains .restart = true ∨
      ∃ e ∈ first, e.command = .restart) :
    ∃ w', Runs (first ++ rest) w w' ∧ w'.link.request = .connect := by
  obtain ⟨cs, heq, hcs⟩ := link_of_meets w first
  have hshut : cs.contains .shutdown = false := by
    rw [hcs, hno.1, Bool.false_or, List.any_eq_false]
    exact fun e he => by simpa using hno.2 e he
  have hwake : cs.contains .start = true ∨ cs.contains .restart = true := by
    simp only [hcs, Bool.or_eq_true, List.any_eq_true, decide_eq_true_eq]
    tauto
  have htry : CanTry { w.link with pending := cs } := .of_isHalted hs.link hd hn hshut hwake
  obtain ⟨w₁, hmoves, hq⟩ := htry w.log
  obtain ⟨cs', heq', -⟩ := link_of_meets w₁ rest
  refine ⟨rest.foldl meet w₁, .append (.of_meets w first) ?_, ?_⟩
  · rw [heq]
    exact .of_moves hmoves (.of_meets w₁ rest)
  · rw [heq']
    exact hq

/-- A link that is down, or is being stopped, can be made to connect by what is pending or by a
loss of the address, unless a shutdown is there first. -/
theorem exists_try {w : Life} (hs : w.Sound) (hd : w.link.isHalted = true)
    (hn : 1 ≤ w.link.policy.attempts) {es : List Outside} (h : ¬ w.Unroused es) :
    ∃ w', Runs es w w' ∧ w'.link.request = .connect := by
  simp only [Unroused, not_or, not_and, not_not, Bool.not_eq_true] at h
  obtain ⟨hno, hyes⟩ := h
  by_cases hwake : w.link.pending.contains .start = true ∨ w.link.pending.contains .restart = true
  · exact exists_try_of_append hs hd hn [] es ⟨hno, nofun⟩ (hwake.imp_right .inl)
  · simp only [not_or, Bool.not_eq_true] at hwake
    have hloss := hyes hwake.1 hwake.2
    obtain ⟨a, b, hab⟩ := List.append_of_mem hloss
    have hes : es = (a ++ [.loss]) ++ (b ++ es.dropWhile (· ≠ .ask .shutdown)) := by
      have happend :=
        (List.takeWhile_append_dropWhile (p := (· ≠ Outside.ask .shutdown)) (l := es)).symm
      rw [hab] at happend
      simpa using happend
    rw [hes]
    refine exists_try_of_append hs hd hn _ _ ⟨hno, fun e he => ?_⟩
      (.inr (.inr ⟨.loss, by simp, rfl⟩))
    rcases List.mem_append.mp he with he | he
    · have hmem : e ∈ es.takeWhile (· ≠ .ask .shutdown) := hab ▸ List.mem_append_left _ he
      have hne := List.mem_takeWhile_imp hmem
      cases e with
      | ask c =>
        rintro rfl
        simp at hne
      | loss => nofun
    · rw [List.mem_singleton.mp he]
      nofun

/-- A link that is down, or is being stopped, and that no operator starts or restarts: exactly
then its transport is not asked to connect again, whatever the transport answers and however long
it goes on. -/
theorem stays_down_iff {w : Life} (h : w.Reachable) (hd : w.link.isHalted = true)
    {es : List Outside} (hask : ∀ c, .ask c ∈ es → c ≠ .start ∧ c ≠ .restart) :
    (∀ w', Runs es w w' → w'.triesBegun = w.triesBegun) ↔
      w.link.policy.attempts = 0 ∨ w.Unroused es := by
  have hs := Sound.reach h
  have hbegun : w.triesBegun = w.tries :=
    Nat.le_antisymm
      (triesBegun_le_of_ahead (by rw [Link.ahead_of_isHalted hd]; exact Nat.le_refl _))
      (Nat.le_add_right _ _)
  rw [hbegun]
  constructor
  · intro hall
    by_contra hne
    obtain ⟨hn, hset⟩ := not_or.mp hne
    obtain ⟨w', hr, hq⟩ := exists_try hs hd (Nat.one_le_iff_ne_zero.mpr hn) hset
    have hle := tries_le_of_steps hr.steps
    have heq := hall w' hr
    simp only [triesBegun, hq, if_true] at heq
    omega
  · rintro hdown w' hr
    refine Nat.le_antisymm ?_ ((tries_le_of_steps hr.steps).trans (Nat.le_add_right _ _))
    rcases hdown with hn | hset
    · exact triesBegun_le_of_no_attempts hs hn hr.steps
    · cases hshut : w.link.pending.contains .shutdown with
      | true =>
        have hsh : Shutting w.tries w :=
          ⟨hs, .inl hshut, by rw [Link.ahead_of_isHalted hd]; exact Nat.le_refl _⟩
        exact (hsh.steps hr.steps).triesBegun_le
      | false =>
        obtain ⟨hstart, hrestart, hloss⟩ := hset.resolve_left (by simp [hshut])
        have hst : Staying w.tries w := ⟨hs, hd, Nat.le_refl _, hstart, hrestart, hshut⟩
        exact hst.runs hr hask hloss

/-- The one try that is allowed has failed, and the task waits. -/
def givenUp : Life where
  link := { kind := .wifi, policy := ⟨1, 5000⟩, status := .failedToStart, ready := true,
            point := .idle .empty }
  log := [(.announce .failedToStart, .done), (.proceed, .done), (.connect, .failed .timeout),
    (.proceed, .done), (.bringUp, .done), (.announce .starting, .done), (.proceed, .done)]

theorem givenUp_reachable : givenUp.Reachable := by
  let w₀ : Life := { link := .ofPolicy .wifi ⟨1, 5000⟩ }
  let w₁ := w₀.replied .done
  let w₂ := w₁.replied .done
  let w₃ := w₂.replied .done
  let w₄ := w₃.replied .done
  let w₅ := w₄.replied (.failed .timeout)
  let w₆ := w₅.replied .done
  have s₁ : Step w₀ w₁ := .move (.reply .proceed)
  have s₂ : Step w₁ w₂ := .move (.reply .announce)
  have s₃ : Step w₂ w₃ := .move (.reply .bringUp)
  have s₄ : Step w₃ w₄ := .move (.reply .proceed)
  have s₅ : Step w₄ w₅ := .move (.reply .connectFailed)
  have s₆ : Step w₅ w₆ := .move (.reply .proceed)
  have s₇ : Step w₆ givenUp := .move (.reply .announce)
  exact ⟨_, _, ((((((Relation.ReflTransGen.single s₁).tail s₂).tail s₃).tail s₄).tail s₅).tail
    s₆).tail s₇⟩

/-- The loss of an address it has not does nothing to it behind a shutdown. -/
theorem stays_down_behind_shutdown :
    givenUp.Reachable ∧ givenUp.link.isHalted = true ∧
      ∀ w', Runs [.ask .stop, .ask .shutdown, .loss] givenUp w' →
        w'.triesBegun = givenUp.triesBegun := by
  refine ⟨givenUp_reachable, rfl, (stays_down_iff givenUp_reachable rfl ?_).mpr (.inr (.inr ?_))⟩
  · intro c hc
    simp only [List.mem_cons, Outside.ask.injEq, List.not_mem_nil, or_false, reduceCtorEq] at hc
    rcases hc with rfl | rfl <;> exact ⟨nofun, nofun⟩
  · exact ⟨rfl, rfl, by decide⟩

/-- Without one it does: nobody asks for anything, and the link connects. -/
theorem reconnects_after_giving_up :
    givenUp.Reachable ∧ givenUp.link.request = .wait none ∧
      givenUp.link.status = .failedToStart ∧ givenUp.link.pending = {} ∧
      ∃ w', Runs [.loss] givenUp w' ∧ w'.link.request = .connect ∧
        givenUp.triesBegun < w'.triesBegun := by
  have hloose : ¬ givenUp.Unroused [.loss] := by
    rintro (h | ⟨-, -, h⟩)
    · exact absurd h (by decide)
    · exact absurd h (by decide)
  obtain ⟨w', hr, hq⟩ := exists_try (Sound.reach givenUp_reachable) rfl (Nat.le_refl 1) hloose
  refine ⟨givenUp_reachable, rfl, rfl, rfl, w', hr, hq, ?_⟩
  have hbegun : w'.triesBegun = w'.tries + 1 := by simp only [triesBegun, hq, if_true]
  rw [hbegun]
  exact Nat.lt_succ_of_le (tries_le_of_steps hr.steps)

end Life

end EdgeGateway
