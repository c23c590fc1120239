import EdgeGateway.Proofs.Link.Life

/-!
# EdgeGateway.Proofs.Link.Stopping

A link task loses neither a stop nor a shutdown (`Life.stops`).

* `Link.isEnding` : a shutdown has been read and is being carried out.
* `Link.ahead`    : the tries still to come once the next wait ends the connect sequence.
* `Link.measure`  : falls with every move. A wait is passed at most once without a command being
  used up, and between two of them the task runs down its ranks.
* `Life.Onward`   : a move, whatever is posted before it.
-/

namespace EdgeGateway

namespace Link

def isEnding (l : Link) : Bool :=
  match l.point with
  | .idle left => left.contains .shutdown
  | .leaving next | .disconnecting next | .left next => next = .exit
  | .closing | .finished => true
  | _ => false

/-- Commands are left over from a connect sequence. -/
def carries (l : Link) : Bool :=
  match l.point with
  | .idle left => !left.isEmpty
  | _ => false

def ahead (l : Link) : Nat :=
  match l.point with
  | .opening | .bringingUp | .connecting _ | .confirming => 1
  | .trying n => if n ≤ 1 then 1 else 0
  | .leaving next | .disconnecting next | .left next => if next = .reconnect then 1 else 0
  | .idle left => if left.isEmpty || left.contains .shutdown then 0 else 1
  | _ => 0

def rank (l : Link) : Nat :=
  let tries := l.policy.attempts
  match l.point with
  | .finished | .idle _ => 0
  | .closing | .resolving _ => 1
  | .discarding n => 4 * (tries + 1 - n) - 1
  | .connecting n => 4 * (tries + 1 - n)
  | .pausing n => 4 * (tries + 1 - n) + 1
  | .trying n => 4 * (tries + 1 - n) + 2
  | .bringingUp => 4 * tries + 3
  | .opening => 4 * tries + 4
  | .left _ => 4 * tries + 5
  | .disconnecting _ => 4 * tries + 6
  | .leaving _ => 4 * tries + 7
  | .confirming => 4 * tries + 8

def count (l : Link) : Nat := 2 * l.rank + l.announcing.isSome.toNat

/-- `urgent` tells whether there are commands the task has yet to read. -/
def measure (urgent : Bool) (l : Link) : ℕ ×ₗ ℕ :=
  toLex (2 * urgent.toNat + l.carries.toNat, l.count)

theorem count_setStatus_lt {l : Link} {s : Status} {p : Point} (ha : l.announcing = none)
    (hp : (l.goto p).rank < l.rank) : ((l.setStatus s).goto p).count < l.count := by
  have hr : ((l.setStatus s).goto p).rank = (l.goto p).rank := by simp [rank]
  have hb := Bool.toNat_le ((l.setStatus s).goto p).announcing.isSome
  simp only [count, hr, ha, Option.isSome_none, Bool.toNat_false]
  omega

theorem count_goto_lt {l : Link} {p : Point} (ha : l.announcing = none)
    (hp : (l.goto p).rank < l.rank) : (l.goto p).count < l.count := by
  have := count_setStatus_lt (s := l.status) ha hp
  rwa [setStatus_of_eq rfl] at this

theorem Turn.falls {l l' : Link} {q : Request} {r : Reply} (h : l.Sound)
    (ha : l.announcing = none) (ht : Turn l q r l') :
    (l.carries = true ∧ l'.carries = false) ∨ (l'.carries = l.carries ∧ l'.count < l.count) := by
  cases ht with
  | acted hp hl hacts => exact .inl ⟨by simp [carries, hp, hl], by cases hacts <;> rfl⟩
  | opened hp =>
    refine .inr ⟨?_, count_setStatus_lt ha ?_⟩ <;> cases hr : l.ready <;>
      simp [carries, rank, hp]
  | broughtUp hp =>
    exact .inr ⟨by simp [carries, hp], by simp [count, rank, hp]⟩
  | notBroughtUp hp | exhausted hp _ =>
    refine .inr ⟨by simp [carries, hp, giveUp], count_setStatus_lt ha ?_⟩
    simp [rank, hp]
  | refused hp =>
    refine .inr ⟨by simp [carries, hp, giveUp], count_setStatus_lt ha ?_⟩
    simp only [Sound, hp] at h
    simp only [rank, goto_point, hp]
    omega
  | first hp _ | pause hp _ _ | confirmed hp | stay hp | reconnect hp | exit hp | denied hp =>
    exact .inr ⟨by simp [carries, hp], count_goto_lt ha (by simp [rank, hp])⟩
  | connected hp | failed hp =>
    refine .inr ⟨by simp [carries, hp], count_goto_lt ha ?_⟩
    simp only [Sound, hp] at h
    simp only [rank, goto_point, goto_policy, hp]
    omega
  | resolved hp | disconnected hp =>
    refine .inr ⟨by simp [carries, hp], count_setStatus_lt (l := { l with addressing := _ }) ha ?_⟩
    simp [rank, hp]
  | unusable hp | discarded hp =>
    refine .inr ⟨by simp [carries, hp], count_setStatus_lt ha ?_⟩
    simp only [Sound, hp] at h
    simp only [rank, goto_point, goto_policy, hp]
    omega
  | takeDown hp _ | down hp _ | close hp =>
    exact .inr ⟨by simp [carries, hp], count_setStatus_lt ha (by simp [rank, hp])⟩

/-- Where a task waits nothing is carried over, and no shutdown being carried out. -/
theorem Reads.waiting {l l' : Link} {cs : Commands} {limit : Option Nat}
    (hr : Reads l cs limit l') : l.carries = false ∧ l.isEnding = false := by
  cases hr with
  | abort hp _ | retry hp _ => simp [carries, isEnding, hp]
  | acted hp hl _ => simp [carries, isEnding, hp, hl, Commands.isEmpty_iff.mp hl]

theorem measure_lt_of_falls {l l' : Link} (urgent : Bool)
    (h : (l.carries = true ∧ l'.carries = false) ∨
      (l'.carries = l.carries ∧ l'.count < l.count)) :
    measure urgent l' < measure urgent l := by
  rw [measure, measure, Prod.Lex.toLex_lt_toLex]
  rcases h with ⟨hc, hc'⟩ | ⟨hc, hlt⟩
  · left
    simp [hc, hc']
  · right
    exact ⟨by simp [hc], hlt⟩

theorem measure_lt_of_read {l l' : Link} (h : l.carries = false) :
    measure false l' < measure true l := by
  rw [measure, measure, Prod.Lex.toLex_lt_toLex]
  left
  have := Bool.toNat_le l'.carries
  simp only [h, Bool.toNat_false, Bool.toNat_true]
  omega

/-! ## Commands are heeded -/

theorem Turn.isEnding {l l' : Link} {q : Request} {r : Reply} (ht : Turn l q r l') :
    l'.isEnding = l.isEnding := by
  cases ht with
  | opened hp => cases hr : l.ready <;> simp [Link.isEnding, hp]
  | acted hp _ hacts => cases hacts <;> simp_all [Link.isEnding]
  | _ hp => simp [Link.isEnding, hp, giveUp]

theorem Reads.isEnding {l l' : Link} {cs : Commands} {limit : Option Nat}
    (hr : Reads l cs limit l') : l'.isEnding = cs.contains .shutdown := by
  cases hr with
  | abort hp _ => simp [Link.isEnding, giveUp]
  | retry hp hn => simp_all [Link.isEnding]
  | acted hp _ hacts =>
    cases hacts with
    | nothing he => simp [Link.isEnding, Commands.isEmpty_iff.mp he]
    | _ hs => simp [Link.isEnding, hs]

theorem ahead_le_one (l : Link) : l.ahead ≤ 1 := by
  unfold ahead
  split <;> first | omega | (split <;> omega)

theorem Acts.ahead_le {l : Link} {cs : Commands} {p : Point} (ha : Acts l cs p) :
    (l.goto p).ahead ≤ if cs.isEmpty || cs.contains .shutdown then 0 else 1 := by
  cases ha with
  | nothing he => simp [Link.ahead]
  | confirm hs hc _ => simp [Link.ahead, hs, Commands.isEmpty_eq_false_of_contains hc]
  | reconnect hs hc =>
    have he : cs.isEmpty = false := by
      rcases hc with hc | hc <;> exact Commands.isEmpty_eq_false_of_contains hc
    simp [Link.ahead, hs, he]
  | stop _ => simp [Link.ahead]
  | exit hc => simp [Link.ahead]

theorem Turn.ahead_le {l l' : Link} {q : Request} {r : Reply} (h : l.Sound) (ht : Turn l q r l') :
    (if q = .connect then 1 else 0) + l'.ahead ≤ l.ahead := by
  cases ht with
  | opened hp => cases hr : l.ready <;> simp [Link.ahead, hp]
  | acted hp _ hacts => simpa [Link.ahead, hp] using hacts.ahead_le
  | failed hp | discarded hp =>
    simp only [Sound, hp] at h
    simp [Link.ahead, hp, Nat.one_le_iff_ne_zero.mp h.2.1]
  | takeDown hp hq => rcases hq with rfl | rfl <;> simp [Link.ahead, hp]
  | close hp => cases hr : l.ready <;> simp [Link.ahead, hp]
  | _ hp => simp [Link.ahead, hp, giveUp]

theorem ahead_of_connect {l : Link} (h : l.request = .connect) : l.ahead = 1 := by
  cases ha : l.announcing with
  | some s => simp [request, ha] at h
  | none =>
    simp only [request, ha] at h
    cases hp : l.point with
    | connecting n => simp only [Link.ahead, hp]
    | idle left | leaving next | closing => simp only [hp] at h; split at h <;> cases h
    | _ => simp only [hp] at h; cases h

theorem Reads.of_shutdown {l l' : Link} {cs : Commands} {limit : Option Nat}
    (hc : cs.contains .shutdown = true) (hr : Reads l cs limit l') :
    l'.isEnding = true ∧ l'.ahead = 0 := by
  refine ⟨by rw [hr.isEnding, hc], ?_⟩
  cases hr with
  | abort hp _ => simp [Link.ahead, giveUp, hc]
  | retry hp hn => simp [hc] at hn
  | acted hp _ hacts => simpa [hc] using hacts.ahead_le

/-- The link is not in use and the task about to wait for commands, or already waiting. -/
def isHalted (l : Link) : Bool :=
  match l.point with
  | .leaving next | .disconnecting next | .left next => next = .stay
  | .idle left => left.isEmpty && l.status ≠ .started
  | _ => false

theorem Turn.isHalted {l l' : Link} {q : Request} {r : Reply} (h : l.Sound) (ht : Turn l q r l')
    (hh : l.isHalted = true) : l'.isHalted = true := by
  cases ht with
  | acted hp hl _ => simp [Link.isHalted, hp, hl] at hh
  | stay hp => simp_all [Link.isHalted, Sound]
  | _ hp => simp_all [Link.isHalted]

theorem Reads.of_stop {l l' : Link} {cs : Commands} {limit : Option Nat}
    (hc : cs.contains .stop = true) (honly : ∀ c, cs.contains c = true → c = .stop)
    (hr : Reads l cs limit l') :
    l'.isHalted = true ∧ l'.isEnding = false ∧ l'.ahead = 0 := by
  have hno : ∀ c, c ≠ .stop → cs.contains c = false := by
    intro c hne
    rw [Bool.eq_false_iff]
    exact fun h => hne (honly c h)
  cases hr with
  | abort hp _ =>
    have he : ((cs.erase .stop).erase .start).isEmpty = true := by
      rw [Commands.isEmpty_iff]
      intro c
      cases c <;> simp [hno]
    simp [Link.isHalted, Link.isEnding, Link.ahead, giveUp, he, hno]
  | retry hp hn => simp [hc] at hn
  | acted hp _ hacts =>
    cases hacts with
    | nothing he => simp [Commands.isEmpty_iff.mp he] at hc
    | confirm _ hs _ => simp [hno] at hs
    | reconnect _ hs => simp [hno] at hs
    | stop _ => simp [Link.isHalted, Link.isEnding, Link.ahead]
    | exit hs => simp [hno] at hs

end Link

namespace Life

inductive Onward : Life → Life → Prop where
  | move {w w' : Life} : Move w w' → Onward w w'
  | post {w w' : Life} (c : Command) : Onward (w.post c) w' → Onward w w'

def Exited (w : Life) : Prop :=
  w.link.point = .finished ∧ w.link.announcing = none ∧ w.link.status = .stopped ∧
  w.link.addressing = {} ∧ w.tearDowns = if w.broughtUp then 1 else 0

/-- The idle task waits, with nothing to do and the link down. -/
def Resting (w : Life) : Prop :=
  w.link.request = .wait none ∧ w.link.pending.bits = 0 ∧
  (w.link.status = .stopped ∨ w.link.status = .failedToStart) ∧ w.link.addressing = {}

theorem rest_cases {w : Life} (h : AtRest Move w) :
    w.link.request = .finished ∨ (w.link.request = .wait none ∧ w.link.pending.bits = 0) := by
  rcases Link.fits_cases w.link.request with ⟨r, hr⟩ | hq | ⟨limit, hq⟩
  · exact absurd (.reply hr) (h _)
  · exact .inl hq
  · by_cases hb : w.link.pending.bits = 0
    · cases limit with
      | none => exact .inr ⟨hq, hb⟩
      | some ms => exact absurd (.expire hq hb) (h _)
    · exact absurd (.read hq hb) (h _)

theorem exited_of_finished {w : Life} (h : w.Sound) (hq : w.link.request = .finished) :
    w.Exited := by
  obtain ⟨hl, hb, ht⟩ := h
  obtain ⟨ha, hp⟩ := Link.point_of_finished hq
  simp only [Link.Sound, hp] at hl
  exact ⟨hp, ha, hl.1, hl.2.1, by simp [ht, hp, hb]⟩

theorem triesBegun_le_of_ahead {w : Life} {k : Nat} (h : w.tries + w.link.ahead ≤ k) :
    w.triesBegun ≤ k := by
  unfold triesBegun
  split
  · rename_i hq
    rwa [Link.ahead_of_connect hq] at h
  · omega

/-- A shutdown that has been read is being carried out, and nothing else is. -/
theorem isEnding_eq_shutdownRead {w : Life} (h : w.Reachable) :
    w.link.isEnding = w.shutdownRead := by
  obtain ⟨kind, policy, h⟩ := h
  induction h with
  | refl => rfl
  | @tail w w' _ hs ih =>
    cases hs with
    | post c => exact ih
    | move hm =>
      cases hm.moved with
      | heard _ => exact ih
      | turned _ _ ht =>
        rw [ht.isEnding, ih]
        cases ht with
        | takeDown _ hq => rcases hq with rfl | rfl <;> simp [bringsShutdown]
        | close _ => cases hr : w.link.ready <;> simp [bringsShutdown]
        | _ => simp [bringsShutdown]
      | read _ _ hr | expired _ _ hr =>
        have hold : w.shutdownRead = false := by rw [← ih]; exact hr.waiting.2
        rw [hr.isEnding]
        simp [bringsShutdown, hold]

/-- Falls with every move, if no command is posted. -/
def measure (w : Life) : ℕ ×ₗ ℕ := w.link.measure (w.link.pending.bits ≠ 0)

theorem Move.falls {w w' : Life} (hs : w.Sound) (hm : Move w w') : w'.measure < w.measure := by
  cases hm.moved with
  | heard ha =>
    refine Link.measure_lt_of_falls _ (.inr ⟨rfl, ?_⟩)
    simp [Link.count, Link.rank, ha]
  | turned ha _ hturn =>
    simp only [measure, hturn.pending_eq]
    exact Link.measure_lt_of_falls _ (hturn.falls hs.link ha)
  | read _ hb hr =>
    have hc : w.link.carries = false := hr.waiting.1
    have hpend : _ = ({} : Commands) := hr.pending_eq
    have hb : decide (w.link.pending.bits ≠ 0) = true := decide_eq_true hb
    simp only [measure, hpend, hb]
    exact Link.measure_lt_of_read hc
  | expired ha _ hr =>
    simp only [measure, hr.pending_eq]
    cases hr with
    | abort _ hc => simp at hc
    | retry hp _ =>
      refine Link.measure_lt_of_falls _ (.inr ⟨by simp [Link.carries, hp], ?_⟩)
      exact Link.count_goto_lt ha (by simp [Link.rank, hp])

/-! ## After a shutdown -/

/-- A shutdown is waiting or being carried out, and at most `k` tries are ever made. -/
structure Shutting (k : Nat) (w : Life) : Prop where
  sound : w.Sound
  told : w.link.pending.contains .shutdown = true ∨ w.link.isEnding = true
  tries : w.tries + w.link.ahead ≤ k

namespace Shutting

variable {k : Nat} {w w' : Life}

def measure (w : Life) : ℕ ×ₗ ℕ := w.link.measure (!w.link.isEnding)

theorem post (h : Shutting k w) (c : Command) : Shutting k (w.post c) where
  sound := h.sound.step (.post c)
  told := h.told.imp_left fun hs => by simp [Life.post, Link.notify, hs]
  tries := h.tries

theorem move (h : Shutting k w) (hm : Move w w') : Shutting k w' ∧ measure w' < measure w := by
  obtain ⟨hs, ht, hk⟩ := h
  have hs' := hs.move hm
  cases hm.moved with
  | heard ha =>
    refine ⟨⟨hs', ht, ?_⟩, Link.measure_lt_of_falls _ (.inr ⟨rfl, ?_⟩)⟩
    · show Life.tries ⟨_, _⟩ + w.link.ahead ≤ k
      simpa using hk
    · simp [Link.count, Link.rank, ha]
  | turned ha hq hturn =>
    have he := hturn.isEnding
    have hle := hturn.ahead_le hs.link
    refine ⟨⟨hs', by rwa [hturn.pending_eq, he], ?_⟩, ?_⟩
    · simp only [tries_cons]
      omega
    · simp only [measure, he]
      exact Link.measure_lt_of_falls _ (hturn.falls hs.link ha)
  | read ha hb hr =>
    obtain ⟨hc, he⟩ := hr.waiting
    have he : w.link.isEnding = false := he
    have ht : w.link.pending.contains .shutdown = true := by simpa [he] using ht
    obtain ⟨he', ha'⟩ := hr.of_shutdown ht
    refine ⟨⟨hs', .inr he', ?_⟩, ?_⟩
    · simp only [tries_cons, ha']
      simp
      omega
    · simp only [measure, he, he', Bool.not_true, Bool.not_false]
      exact Link.measure_lt_of_read hc
  | expired ha hb hr =>
    have he := hr.waiting.2
    simp [he, Commands.contains_of_bits_eq_zero hb] at ht

theorem onward (h : Shutting k w) (ho : Onward w w') :
    Shutting k w' ∧ measure w' < measure w := by
  induction ho with
  | move hm => exact h.move hm
  | post c _ ih => exact ih (h.post c)

theorem exited (h : Shutting k w) (hr : AtRest Move w) : w.Exited := by
  rcases rest_cases hr with hq | ⟨hq, hb⟩
  · exact exited_of_finished h.sound hq
  · -- a waiting task would read the shutdown
    obtain ⟨left, hp, hl⟩ := Link.point_of_wait hq
    have ht := h.told
    simp [Link.isEnding, hp, Commands.isEmpty_iff.mp hl, Commands.contains_of_bits_eq_zero hb] at ht

theorem settles (h : Shutting k w) : Settles Onward Exited w := by
  refine .of_invariant measure (fun _ _ h ho => (h.onward ho).1) (fun _ _ h ho => (h.onward ho).2)
    (fun _ h hr => h.exited fun w' hm => hr w' (.move hm)) h

theorem steps (h : Shutting k w) (hs : Relation.ReflTransGen Step w w') : Shutting k w' := by
  induction hs with
  | refl => exact h
  | tail _ hs ih =>
    cases hs with
    | move hm => exact (ih.move hm).1
    | post c => exact ih.post c

theorem triesBegun_le (h : Shutting k w) : w.triesBegun ≤ k :=
  triesBegun_le_of_ahead h.tries

end Shutting

/-! ## After a stop -/

/-- No command but a stop is there, and it is waiting or has had its effect. -/
structure Halting (k : Nat) (w : Life) : Prop where
  sound : w.Sound
  only : ∀ c, w.link.pending.contains c = true → c = .stop
  told : w.link.pending.contains .stop = true ∨
    (w.link.pending.bits = 0 ∧ w.link.isHalted = true)
  unended : w.link.isEnding = false
  tries : w.tries + w.link.ahead ≤ k

namespace Halting

variable {k : Nat} {w w' : Life}

theorem move (h : Halting k w) (hm : Move w w') : Halting k w' := by
  obtain ⟨hs, honly, ht, hu, hk⟩ := h
  have hs' := hs.move hm
  cases hm.moved with
  | heard ha =>
    refine ⟨hs', honly, ht, hu, ?_⟩
    show Life.tries ⟨_, _⟩ + w.link.ahead ≤ k
    simpa using hk
  | turned ha hq hturn =>
    have hle := hturn.ahead_le hs.link
    have hpend := hturn.pending_eq
    refine ⟨hs', by rwa [hpend], ?_, by rwa [hturn.isEnding], ?_⟩
    · rw [hpend]
      exact ht.imp_right fun ⟨hb, hh⟩ => ⟨hb, hturn.isHalted hs.link hh⟩
    · simp only [tries_cons]
      omega
  | read ha hb hr =>
    have ht : w.link.pending.contains .stop = true := ht.resolve_right fun h => hb h.1
    obtain ⟨hh', he', ha'⟩ := hr.of_stop ht honly
    have hpend : _ = ({} : Commands) := hr.pending_eq
    refine ⟨hs', by simp [hpend], .inr ⟨by simp [hpend], hh'⟩, he', ?_⟩
    simp only [tries_cons, ha']
    simp
    omega
  | expired ha hb hr =>
    rcases ht with ht | ⟨-, hh⟩
    · simp [Commands.contains_of_bits_eq_zero hb] at ht
    · cases hr with
      | abort hp _ | retry hp _ => simp [Link.isHalted, hp] at hh

theorem resting (h : Halting k w) (hr : AtRest Move w) : w.Resting := by
  rcases rest_cases hr with hq | ⟨hq, hb⟩
  · have hu := h.unended
    simp [Link.isEnding, (Link.point_of_finished hq).2] at hu
  · obtain ⟨left, hp, hl⟩ := Link.point_of_wait hq
    have ht := h.told
    simp only [Commands.contains_of_bits_eq_zero hb, Link.isHalted, hp, hl] at ht
    have hs := h.sound.link
    simp only [Link.Sound, hp] at hs
    rcases hs with ⟨hs, -⟩ | ⟨hs, haddr⟩
    · simp [hs] at ht
    · exact ⟨hq, hb, hs.symm, haddr⟩

theorem moves (h : Halting k w) (hs : Relation.ReflTransGen Move w w') : Halting k w' := by
  induction hs with
  | refl => exact h
  | tail _ hm ih => exact ih.move hm

theorem triesBegun_le (h : Halting k w) : w.triesBegun ≤ k :=
  triesBegun_le_of_ahead h.tries

theorem settles (h : Halting k w) : Settles Move Resting w := by
  refine .of_invariant measure (fun _ _ h hm => h.move hm) (fun _ _ h hm => hm.falls h.sound)
    (fun _ h hr => h.resting hr) h

end Halting

theorem stops {w : Life} (h : w.Reachable) :
    (Settles Onward Exited (w.post .shutdown) ∧
      ∀ w', Relation.ReflTransGen Step (w.post .shutdown) w' → w'.triesBegun ≤ w.tries + 1) ∧
    ((∀ c, w.link.pending.contains c = true → c = .stop) →
      (if w.shutdownRead then Settles Onward Exited (w.post .stop)
        else Settles Move Resting (w.post .stop)) ∧
      ∀ w', Relation.ReflTransGen Move (w.post .stop) w' → w'.triesBegun ≤ w.tries + 1) := by
  have hs := Sound.reach h
  have hahead : w.link.ahead ≤ 1 := w.link.ahead_le_one
  constructor
  · have hsh : Shutting (w.tries + 1) (w.post .shutdown) :=
      ⟨hs.step (.post _), .inl (by simp [post, Link.notify]), Nat.add_le_add_left hahead _⟩
    exact ⟨hsh.settles, fun w' hw => (hsh.steps hw).triesBegun_le⟩
  · intro honly
    rw [← isEnding_eq_shutdownRead h]
    cases he : w.link.isEnding with
    | true =>
      have hsh : Shutting (w.tries + 1) (w.post .stop) :=
        ⟨hs.step (.post _), .inr he, Nat.add_le_add_left hahead _⟩
      exact ⟨by simpa using hsh.settles, fun w' hw =>
        (hsh.steps (hw.lift id fun _ _ => .move)).triesBegun_le⟩
    | false =>
      have hh : Halting (w.tries + 1) (w.post .stop) := by
        refine ⟨hs.step (.post _), fun c hc => ?_, .inl (by simp [post, Link.notify]), he,
          Nat.add_le_add_left hahead _⟩
        by_cases hcs : Command.stop = c
        · exact hcs.symm
        · exact honly c (by simpa [post, Link.notify, hcs] using hc)
      exact ⟨by simpa using hh.settles, fun w' hw => (hh.moves hw).triesBegun_le⟩

/-- A stop and a shutdown come in the pause after a try that failed. -/
theorem stops_in_pause :
    ∃ w : Life, w.Reachable ∧ w.link.point = .pausing 2 ∧
      Settles Onward Exited (w.post .shutdown) ∧ Settles Move Resting (w.post .stop) ∧
      ∀ w', Relation.ReflTransGen Move (w.post .stop) w' → w'.triesBegun ≤ 2 := by
  let w₀ : Life := { link := .ofPolicy .wifi ⟨3, 10⟩ }
  let w₁ := w₀.replied .done
  let w₂ := w₁.replied .done
  let w₃ := w₂.replied .done
  let w₄ := w₃.replied .done
  let w₅ := w₄.replied (.failed .timeout)
  let w₆ := w₅.replied .done
  have s₁ : Step w₀ w₁ := .move (.reply .proceed)
  have s₂ : Step w₁ w₂ := .move (.reply .announce)
  have s₃ : Step w₂ w₃ := .move (.reply .bringUp)
  have s₄ : Step w₃ w₄ := .move (.reply .proceed)
  have s₅ : Step w₄ w₅ := .move (.reply .connectFailed)
  have s₆ : Step w₅ w₆ := .move (.reply .proceed)
  have h : w₆.Reachable :=
    ⟨_, _, (((((Relation.ReflTransGen.single s₁).tail s₂).tail s₃).tail s₄).tail s₅).tail s₆⟩
  have hnone : w₆.link.pending = {} := rfl
  have hstop := (stops h).2 (by simp [hnone])
  exact ⟨w₆, h, rfl, (stops h).1.1, hstop.1, hstop.2⟩

end Life

end EdgeGateway
