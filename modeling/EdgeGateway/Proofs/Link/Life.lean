import EdgeGateway.Boot
import EdgeGateway.Proofs.Link.Turn
import EdgeGateway.Proofs.Rest

/-!
# EdgeGateway.Proofs.Link.Life

A link task in surroundings that always answer.

* `Life`      : the task with all it has asked so far and the replies it got.
* `Life.Move` : the task goes on, with a reply, with the commands that are there, or because a
  wait with a limit has run out.
* `Life.Step` : a move, or a command is posted.
* `Life.Sound` : what holds of every life from its start.
-/

namespace EdgeGateway

namespace Link

/-- The link is not in use, and publishes no address. -/
def Down (l : Link) : Prop := l.status ≠ .started ∧ l.addressing = {}

def Sound (l : Link) : Prop :=
  match l.point with
  | .opening | .bringingUp | .resolving _ => l.Down
  | .trying n => l.Down ∧ 1 ≤ n
  | .pausing n | .connecting n | .discarding n => l.Down ∧ 1 ≤ n ∧ n ≤ l.policy.attempts
  | .idle left =>
    (l.status = .started ∧ left.isEmpty = true) ∨
      ((l.status = .failedToStart ∨ l.status = .stopped) ∧ l.addressing = {})
  | .confirming => l.status = .started
  | .leaving _ => l.status = .started ∨ l.addressing = {}
  | .disconnecting _ => True
  | .left _ | .closing => l.status = .stopped ∧ l.addressing = {}
  | .finished => l.status = .stopped ∧ l.addressing = {} ∧ l.announcing = none

theorem Acts.sound {l : Link} {left cs : Commands} {p : Point} (h : l.Sound)
    (hp : l.point = .idle left) (ha : Acts l cs p) : (l.goto p).Sound := by
  simp only [Sound, hp] at h
  cases ha with
  | nothing he =>
    rcases h with h | h
    · exact .inl ⟨h.1, rfl⟩
    · exact .inr h
  | confirm _ _ hs => exact hs
  | reconnect _ _ | stop _ | exit _ =>
    rcases h with h | h
    · exact .inl h.1
    · exact .inr h.2

theorem Turn.sound {l l' : Link} {q : Request} {r : Reply} (h : l.Sound) (ha : l.announcing = none)
    (ht : Turn l q r l') : l'.Sound := by
  cases ht with
  | acted hp _ hacts => exact hacts.sound h hp
  | opened hp =>
    simp only [Sound, hp] at h
    cases hr : l.ready <;> simp_all [Sound, Down]
  | _ hp => simp_all [Sound, Down, giveUp, setStatus_of_eq]

theorem Reads.sound {l l' : Link} {cs : Commands} {limit : Option Nat} (h : l.Sound)
    (ht : Reads l cs limit l') : l'.Sound := by
  cases ht with
  | acted hp _ hacts => exact hacts.sound h hp
  | abort hp _ | retry hp _ => simp_all [Sound, Down, giveUp]

theorem Sound.heard {l : Link} (h : l.Sound) : Sound { l with announcing := none } := by
  cases hp : l.point <;> simp_all [Sound, Down]

theorem Turn.ready_eq {l l' : Link} {q : Request} {r : Reply} (ht : Turn l q r l') :
    l'.ready = (decide (q = .bringUp) && decide (r = .done) || l.ready) := by
  cases ht with
  | takeDown _ hq => rcases hq with rfl | rfl <;> simp
  | close _ => cases hr : l.ready <;> simp [hr]
  | _ => simp [giveUp]

/-- The transport is torn down in the last turn of a task that has brought it up. -/
theorem Turn.tearDown_iff {l l' : Link} {q : Request} {r : Reply} (ht : Turn l q r l') :
    l.point ≠ .finished ∧ (q = .tearDown ↔ l'.point = .finished ∧ l'.ready = true) := by
  cases ht with
  | opened hp => cases hr : l.ready <;> simp [hp]
  | acted hp _ hacts => cases hacts <;> simp [hp]
  | takeDown hp hq => rcases hq with rfl | rfl <;> simp [hp]
  | close hp => cases hr : l.ready <;> simp [hp, hr]
  | _ hp => simp [hp, giveUp]

theorem Reads.unfinished {l l' : Link} {cs : Commands} {limit : Option Nat}
    (ht : Reads l cs limit l') :
    l'.ready = l.ready ∧ l.point ≠ .finished ∧ l'.point ≠ .finished := by
  cases ht with
  | abort hp _ | retry hp _ => simp [hp, giveUp]
  | acted hp _ hacts => cases hacts <;> simp [hp]

/-- Where the transport is used it has been brought up. -/
def UsesReady (l : Link) : Prop :=
  match l.point with
  | .trying _ | .pausing _ | .connecting _ | .resolving _ | .discarding _ => l.ready = true
  | _ => True

theorem Turn.usesReady {l l' : Link} {q : Request} {r : Reply} (h : l.UsesReady)
    (ht : Turn l q r l') : l'.UsesReady := by
  cases ht with
  | opened hp => cases hr : l.ready <;> simp_all [UsesReady]
  | acted hp _ hacts => cases hacts <;> trivial
  | _ hp => simp_all [UsesReady, giveUp]

theorem Reads.usesReady {l l' : Link} {cs : Commands} {limit : Option Nat} (h : l.UsesReady)
    (hr : Reads l cs limit l') : l'.UsesReady := by
  cases hr with
  | acted hp _ hacts => cases hacts <;> trivial
  | abort hp _ | retry hp _ => simp_all [UsesReady, giveUp]

/-- The transport may have a connection that the task is still to end. -/
def Holds (l : Link) : Prop :=
  match l.point with
  | .resolving _ | .discarding _ | .disconnecting _ => True
  | _ => l.status = .started

theorem Acts.holds {l : Link} {left cs : Commands} {p : Point} (hp : l.point = .idle left)
    (ha : Acts l cs p) (h : l.Holds) : (l.goto p).Holds := by
  simp only [Holds, hp] at h
  cases ha <;> exact h

/-- A try makes a connection, and nothing but a disconnect ends it. -/
theorem Turn.holds_of {l l' : Link} {q : Request} {r : Reply} (hs : l.Sound) (ht : Turn l q r l')
    (h : (∃ ip, q = .connect ∧ r = .address ip) ∨ (l.Holds ∧ q ≠ .disconnect)) : l'.Holds := by
  cases ht with
  | acted hp _ hacts =>
    rcases h with ⟨ip, h, -⟩ | ⟨h, -⟩
    · cases h
    · exact hacts.holds hp h
  | close hp => simp_all [Holds, Sound]
  | _ hp => simp_all [Holds, Sound, Down]

theorem Reads.holds {l l' : Link} {cs : Commands} {limit : Option Nat} (hs : l.Sound)
    (hr : Reads l cs limit l') (h : l.Holds) : l'.Holds := by
  cases hr with
  | acted hp _ hacts => exact hacts.holds hp h
  | abort hp _ | retry hp _ => simp_all [Holds, Sound, Down]

end Link

structure Life where
  link : Link
  log : List (Link.Request × Link.Reply) := []

namespace Life

def replied (w : Life) (r : Link.Reply) : Life :=
  { link := w.link.resume r, log := (w.link.request, r) :: w.log }

/-- The commands that were waiting have been taken. -/
def taken (w : Life) : Life := { w with link := { w.link with pending := {} } }

def post (w : Life) (c : Command) : Life := { w with link := w.link.notify c }

inductive Move : Life → Life → Prop where
  | reply {w : Life} {r : Link.Reply} : Link.Fits w.link.request r → Move w (w.replied r)
  | read {w : Life} {limit : Option Nat} : w.link.request = .wait limit →
      w.link.pending.bits ≠ 0 → Move w (w.taken.replied (.commands w.link.pending))
  | expire {w : Life} {ms : Nat} : w.link.request = .wait (some ms) →
      w.link.pending.bits = 0 → Move w (w.replied (.commands .empty))

inductive Step : Life → Life → Prop where
  | move {w w' : Life} : Move w w' → Step w w'
  | post {w : Life} (c : Command) : Step w (w.post c)

/-- A life that began when the gateway was booted. -/
def Reachable (w : Life) : Prop :=
  ∃ kind policy, Relation.ReflTransGen Step { link := .ofPolicy kind policy } w

/-! ## What the task has asked for -/

/-- The tries the transport has answered. -/
def tries (w : Life) : Nat := w.log.countP fun e => e.1 = .connect

/-- The tries begun, the one under way included. -/
def triesBegun (w : Life) : Nat := w.tries + if w.link.request = .connect then 1 else 0

def broughtUp (w : Life) : Bool := w.log.any fun e => e.1 = .bringUp && e.2 = .done

def tearDowns (w : Life) : Nat := w.log.countP fun e => e.1 = .tearDown

/-- The reply brings a shutdown to a wait. -/
def bringsShutdown : Link.Request × Link.Reply → Bool
  | (.wait _, .commands cs) => cs.contains .shutdown
  | _ => false

def shutdownRead (w : Life) : Bool := w.log.any bringsShutdown

@[simp] theorem tries_cons (w : Life) (l : Link) (q : Link.Request) (r : Link.Reply) :
    tries ⟨l, (q, r) :: w.log⟩ = w.tries + if q = .connect then 1 else 0 := by
  simp [tries, List.countP_cons]

@[simp] theorem broughtUp_cons (w : Life) (l : Link) (q : Link.Request) (r : Link.Reply) :
    broughtUp ⟨l, (q, r) :: w.log⟩ =
      (decide (q = .bringUp) && decide (r = .done) || w.broughtUp) := by
  simp [broughtUp]

@[simp] theorem tearDowns_cons (w : Life) (l : Link) (q : Link.Request) (r : Link.Reply) :
    tearDowns ⟨l, (q, r) :: w.log⟩ = w.tearDowns + if q = .tearDown then 1 else 0 := by
  simp [tearDowns, List.countP_cons]

@[simp] theorem shutdownRead_cons (w : Life) (l : Link) (e : Link.Request × Link.Reply) :
    shutdownRead ⟨l, e :: w.log⟩ = (bringsShutdown e || w.shutdownRead) := rfl

/-- The four ways a life moves. -/
inductive Moved (w : Life) : Life → Prop where
  | heard {s : Status} : w.link.announcing = some s →
      Moved w ⟨{ w.link with announcing := none }, (.announce s, .done) :: w.log⟩
  | turned {q : Link.Request} {r : Link.Reply} {l' : Link} : w.link.announcing = none →
      q = w.link.request → w.link.Turn q r l' → Moved w ⟨l', (q, r) :: w.log⟩
  | read {limit : Option Nat} {l' : Link} : w.link.announcing = none →
      w.link.pending.bits ≠ 0 → w.taken.link.Reads w.link.pending limit l' →
      Moved w ⟨l', (.wait limit, .commands w.link.pending) :: w.log⟩
  | expired {ms : Nat} {l' : Link} : w.link.announcing = none → w.link.pending.bits = 0 →
      w.link.Reads .empty (some ms) l' →
      Moved w ⟨l', (.wait (some ms), .commands .empty) :: w.log⟩

theorem Move.moved {w w' : Life} (h : Move w w') : Moved w w' := by
  cases h with
  | @reply r hf =>
    cases ha : w.link.announcing with
    | some s =>
      have hq : w.link.request = .announce s := by simp only [Link.request, ha]
      rw [hq] at hf
      cases hf
      have hr : w.link.resume .done = { w.link with announcing := none } := by
        simp only [Link.resume, ha]
      rw [replied, hq, hr]
      exact .heard ha
    | none => exact .turned ha rfl (Link.turn_of_fits ha hf)
  | read hq hb =>
    have := Link.reads_of_wait (l := w.taken.link) hq w.link.pending
    rw [replied, show w.taken.link.request = _ from hq]
    exact .read (Link.announcing_of_wait hq) hb this
  | expire hq hb =>
    rw [replied, hq]
    exact .expired (Link.announcing_of_wait hq) hb (Link.reads_of_wait hq .empty)

/-! ## What holds from the start -/

structure Sound (w : Life) : Prop where
  link : w.link.Sound
  broughtUp : w.broughtUp = w.link.ready
  tearDowns : w.tearDowns = if w.link.point = .finished ∧ w.link.ready = true then 1 else 0

namespace Sound

theorem start (kind : LinkKind) (policy : RetryPolicy) :
    Sound { link := .ofPolicy kind policy } where
  link := ⟨nofun, rfl⟩
  broughtUp := rfl
  tearDowns := rfl

theorem move {w w' : Life} (h : w.Sound) (hm : Move w w') : w'.Sound := by
  obtain ⟨hl, hb, ht⟩ := h
  cases hm.moved with
  | heard _ => exact ⟨hl.heard, by simpa using hb, by simpa using ht⟩
  | turned ha hq hturn =>
    obtain ⟨hp, htear⟩ := hturn.tearDown_iff
    exact ⟨hturn.sound hl ha, by simp [hturn.ready_eq, hb], by simp [ht, hp, htear]⟩
  | read _ _ hr =>
    obtain ⟨hready, hp, hp'⟩ := hr.unfinished
    have hp : w.link.point ≠ .finished := hp
    have hready : _ = w.link.ready := hready
    exact ⟨hr.sound (show w.taken.link.Sound from hl), by simpa [hready] using hb,
      by simpa [hp, hp'] using ht⟩
  | expired _ _ hr =>
    obtain ⟨hready, hp, hp'⟩ := hr.unfinished
    exact ⟨hr.sound hl, by simpa [hready] using hb, by simpa [hp, hp'] using ht⟩

theorem step {w w' : Life} (h : w.Sound) (hs : Step w w') : w'.Sound := by
  cases hs with
  | move hm => exact h.move hm
  | post c => exact ⟨h.link, h.broughtUp, h.tearDowns⟩

theorem reach {w : Life} (h : w.Reachable) : w.Sound := by
  obtain ⟨kind, policy, h⟩ := h
  induction h with
  | refl => exact start kind policy
  | tail _ hs ih => exact ih.step hs

end Sound

end Life

end EdgeGateway
