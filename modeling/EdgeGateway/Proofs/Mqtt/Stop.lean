import EdgeGateway.Proofs.Mqtt.Rank
import EdgeGateway.Proofs.Mqtt.Shutdown

/-!
# EdgeGateway.Proofs.Mqtt.Stop

What becomes of a stop that a started task is given (`Broker.stop_fate`).

A stop comes as a command and as an operation that ends the loop. The loop reads operations only,
so commands that came earlier are still there when the loop has ended, and the task that is down
reads them together with the stop.

* `Mqtt.Fate` : the task goes down for good, it may stay up, or it may set up again.
* `Mqtt.fate` : which of them it is, by where the task is, what is deferred, what is still to be
  read and whether the loop has been told to end.
-/

namespace EdgeGateway

namespace Commands

/-- A task that is down and reads this word stays down. -/
def leavesDown (cs : Commands) : Bool :=
  cs.contains .shutdown || (!cs.contains .restart && !cs.contains .start)

/-- The same for a task that reads it in a pause. A start counts for nothing there. -/
def leavesDownInPause (cs : Commands) : Bool := cs.contains .shutdown || !cs.contains .restart

theorem leavesDownInPause_of_leavesDown {cs : Commands} (h : cs.leavesDown = true) :
    cs.leavesDownInPause = true := by
  simp only [leavesDown, leavesDownInPause, Bool.or_eq_true, Bool.and_eq_true] at h ⊢
  exact h.imp_right And.left

@[simp] theorem leavesDown_default : ({} : Commands).leavesDown = true := rfl

theorem dominant_of_not_leavesDown {cs : Commands} (h : cs.leavesDown = false) :
    cs.dominant = some .start ∨ cs.dominant = some .restart := by
  simp only [leavesDown, Bool.or_eq_false_iff, Bool.and_eq_false_iff, Bool.not_eq_false'] at h
  obtain ⟨hs, hr | hst⟩ := h
  · exact .inr (by simp [dominant, hs, hr])
  · cases hstop : cs.contains .stop with
    | true => exact .inr (by simp [dominant, hs, hst, hstop])
    | false =>
      cases hr : cs.contains .restart with
      | true => exact .inr (by simp [dominant, hs, hr])
      | false => exact .inl (by simp [dominant, hs, hr, hst, hstop])

/-- A pause leaves nothing of such a word, or a shutdown. -/
theorem rest_leavesDown (cs : Commands) :
    (((cs.erase .stop).erase .start).isEmpty || cs.contains .shutdown) =
      cs.leavesDownInPause := by
  unfold leavesDownInPause
  cases hs : cs.contains .shutdown with
  | true => simp
  | false =>
    cases hr : cs.contains .restart with
    | true =>
      have hrest : ((cs.erase .stop).erase .start).contains .restart = true := by simp [hr]
      simp [isEmpty_eq_false_of_contains hrest]
    | false =>
      have he : ((cs.erase .stop).erase .start).isEmpty = true := by
        rw [isEmpty_iff]
        intro c
        cases c <;> simp [hs, hr]
      simp [he]

end Commands

namespace Mqtt

/-- Whatever comes before the report that the task is started. -/
def Point.settingUp : Point → Bool
  | .opening | .preparing | .bringingUp | .creating | .trying .setup _ | .pausing .setup _
  | .checking .setup _ | .connecting .setup _ | .subscribing .setup => true
  | _ => false

inductive Fate where
  /-- it comes to rest down, whatever it is answered -/
  | down
  /-- it may come to rest started -/
  | up
  /-- it may set up again -/
  | again
  deriving DecidableEq

def Fate.downIf (b : Bool) : Fate := if b then .down else .again

@[simp] theorem Fate.downIf_eq_down {b : Bool} : Fate.downIf b = .down ↔ b = true := by
  cases b <;> simp [downIf]

@[simp] theorem Fate.downIf_ne_up {b : Bool} : Fate.downIf b ≠ .up := by
  cases b <;> simp [downIf]

def Ending.fate (quiet : Bool) (pending : Commands) : Ending → Fate
  | .stopped => .downIf (quiet && pending.leavesDown)
  | .failed left =>
    .downIf (if left.isEmpty then quiet && pending.leavesDown else left.contains .shutdown)
  | .exit => .down

/-- That of a task whose next stop is its loop. -/
def loopFate (quiet told : Bool) (pending : Commands) : Fate :=
  if told then .downIf (quiet && pending.leavesDown) else .up

def Point.fate (tries : Nat) (quiet told : Bool) (pending : Commands) : Point → Fate
  | .trying .reconnect n =>
    if n = 1 then loopFate quiet told pending
    else if n ≤ tries then .downIf pending.leavesDownInPause
    else .downIf (quiet && pending.leavesDown)
  | .pausing .reconnect _ => .downIf pending.leavesDownInPause
  | .checking .reconnect _ | .connecting .reconnect _ | .subscribing .reconnect | .receiving
  | .dropping => loopFate quiet told pending
  | .stoppingSubscriber e | .joiningSubscriber e | .disconnecting e | .deleting e
  | .tearingDown e | .settling e => e.fate quiet pending
  | .waiting left => .downIf (if left.isEmpty then pending.leavesDown else left.contains .shutdown)
  | .finished => .down
  | _ => .again

def fate (t : Mqtt) : Fate :=
  t.point.fate t.policy.attempts t.deferred.isEmpty (.exitLoop ∈ t.operations.items) t.pending

theorem fate_of_settingUp {t : Mqtt} (h : t.point.settingUp = true) : t.fate = .again := by
  unfold fate
  cases hp : t.point with
  | trying phase n | pausing phase n | checking phase n | connecting phase n | subscribing phase =>
    cases phase with
    | setup => rfl
    | reconnect => simp [hp, Point.settingUp] at h
  | opening | preparing | bringingUp | creating => rfl
  | _ => simp [hp, Point.settingUp] at h

theorem not_settingUp_of_down {t : Mqtt} (h : t.fate = .down) : t.point.settingUp = false := by
  rw [Bool.eq_false_iff]
  intro hs
  rw [fate_of_settingUp hs] at h
  cases h

/-! ## Down stays down -/

theorem fate_withDeferred {t : Mqtt} (h : t.deferred.Defers) (left : Commands) :
    (t.withDeferred left).fate = (Ending.failed left).fate t.deferred.isEmpty t.pending := by
  rw [withDeferred_eq h]
  have honly : (Commands.only .restart).isEmpty = false := rfl
  cases hd : t.deferred.isEmpty <;> cases hl : left.isEmpty <;>
    simp [fate, Point.fate, Ending.fate, hl, honly]

/-- A try that comes to nothing is followed by a pause, or it was the last. -/
theorem Point.fate_next_try {tries n : Nat} {quiet told : Bool} {pending : Commands}
    (hn : 1 ≤ n) (h : loopFate quiet told pending = .down) :
    (Point.trying .reconnect (n + 1)).fate tries quiet told pending = .down := by
  have hn : n ≠ 0 := by omega
  unfold loopFate at h
  split at h
  · have hd : quiet = true ∧ pending.leavesDown = true := by simpa using h
    have hpause := Commands.leavesDownInPause_of_leavesDown hd.2
    by_cases hle : n + 1 ≤ tries
    · simp [Point.fate, hn, hle, hpause]
    · simp [Point.fate, hn, hle, hd]
  · cases h

/-- A turn keeps the fate, but for a try that comes to nothing. -/
theorem Turn.fate_cases {t t' : Mqtt} {q : Request} {r : Reply} (h : t.Sound)
    (ht : Turn t q r t') (hup : t.point.settingUp = false) :
    t'.fate = t.fate ∨ r ≠ q.good ∧
      t.fate = loopFate t.deferred.isEmpty (.exitLoop ∈ t.operations.items) t.pending ∧
      ∃ n, 1 ≤ n ∧ t' = t.goto (.trying .reconnect (n + 1)) := by
  cases ht with
  | @unrouted phase n hp | @notConnected phase n hp =>
    cases phase with
    | setup => simp [hp, Point.settingUp] at hup
    | reconnect =>
      simp only [Sound, hp] at h
      refine .inr ⟨by simp [Request.good], ?_, n, h.2.1, rfl⟩
      rw [fate, hp]
      rfl
  | stopped hp =>
    simp only [Sound, hp] at h
    left
    rw [fate_withDeferred (by simpa using h.1.2.1)]
    simp [fate, hp, Point.fate, Ending.fate]
  | failed hp =>
    simp only [Sound, hp] at h
    left
    rw [fate_withDeferred (by simpa using h.1.2.1)]
    simp [fate, hp, Point.fate]
  | @acted left p hp hl hacts =>
    simp only [Sound, hp] at h
    have hleft := h.2.2.2
    left
    cases hacts with
    | stay _ hn => rcases hn with hn | hn <;> simp_all [hleft.stop]
    | setUp hsd _ => simp [fate, hp, goto, Point.fate, hl, hsd, Fate.downIf]
    | exit hsd => simp [fate, hp, goto, Point.fate, Ending.fate, hl, hsd, Fate.downIf]
  | @exhausted phase n hp hn =>
    cases phase with
    | setup => simp [hp, Point.settingUp] at hup
    | reconnect =>
      simp only [Sound, hp] at h
      have htries := h.1.2.2.1
      have h1 : n ≠ 1 := by omega
      have hle : ¬ n ≤ t.policy.attempts := by omega
      left
      simp [fate, hp, Point.fate, Ending.fate, h1, hle]
  | @pause phase n hp hn h1 =>
    cases phase with
    | setup => simp [hp, Point.settingUp] at hup
    | reconnect =>
      left
      simp [fate, hp, Point.fate, goto, hn, h1]
  | @first phase hp _ | @routed phase _ hp | @connected phase _ hp =>
    cases phase with
    | setup => simp [hp, Point.settingUp] at hup
    | reconnect =>
      left
      rw [fate, fate, hp]
      rfl
  | opened hp | prepared hp | broughtUp hp | notBroughtUp hp | created hp | notCreated hp
  | started hp => simp [hp, Point.settingUp] at hup
  | exited hp =>
    left
    simp [fate, hp, Point.fate, Ending.fate, goto]
  | _ hp =>
    left
    rw [fate, fate, hp]
    rfl

theorem Turn.fate_of_good {t t' : Mqtt} {q : Request} {r : Reply} (h : t.Sound)
    (ht : Turn t q r t') (hr : r = q.good) (hup : t.point.settingUp = false) :
    t'.fate = t.fate :=
  (ht.fate_cases h hup).resolve_right fun hno => hno.1 hr

theorem Turn.down {t t' : Mqtt} {q : Request} {r : Reply} (h : t.Sound) (ht : Turn t q r t')
    (hd : t.fate = .down) : t'.fate = .down := by
  rcases ht.fate_cases h (not_settingUp_of_down hd) with he | ⟨-, he, n, hn, rfl⟩
  · rw [he, hd]
  · rw [he] at hd
    exact Point.fate_next_try hn hd

theorem Receives.fate {t t' : Mqtt} {op : Operation} {operations : Inbox Operation}
    (htake : t.operations.take? = some (op, operations))
    (hr : Receives { t with operations } op t') : t'.fate = t.fate := by
  have hitems := (Inbox.items_of_take htake).1
  have hp : t.point = .receiving := hr.point_eq
  cases hr with
  | disconnected _ =>
    cases hc : t.connected <;> simp [Mqtt.fate, hp, Point.fate, goto, loopFate, hitems]
  | subscribeFailed _ => simp [Mqtt.fate, hp, Point.fate, loopFate, hitems]
  | exitLoop _ => simp [Mqtt.fate, hp, Point.fate, Ending.fate, goto, loopFate, hitems]

/-- A stop read in a pause ends the connect. Read without one, a restart would be put off. -/
theorem Reads.fate_of_pause {t t' : Mqtt} {cs : Commands} {ms : Nat} (h : t.Sound)
    (hr : Reads { t with pending := {} } cs (some ms) t')
    (hs : t.status = .started → cs.contains .stop = true) (hup : t.point.settingUp = false) :
    t'.fate = Mqtt.fate { t with pending := cs } := by
  cases hr with
  | @abort phase n hp hc =>
    have hp : t.point = .pausing phase n := hp
    cases phase with
    | setup => simp [hp, Point.settingUp] at hup
    | reconnect =>
      have hrest := Commands.rest_leavesDown cs
      simpa [fate, hp, Point.fate, Ending.fate] using congrArg Fate.downIf hrest
  | @defer phase n hp hc _ hstarted =>
    rw [Bool.or_eq_false_iff, hs hstarted] at hc
    cases hc.1
  | @retry phase n hp hc _ =>
    have hp : t.point = .pausing phase n := hp
    simp only [Sound, hp] at h
    cases phase with
    | setup => simp [hp, Point.settingUp] at hup
    | reconnect =>
      rw [Bool.or_eq_false_iff, hs h.1.1] at hc
      cases hc.1

theorem Reads.down {t t' : Mqtt} {cs : Commands} {limit : Option Nat} (h : t.Sound)
    (hr : Reads { t with pending := {} } cs limit t')
    (hs : t.status = .started → cs.contains .stop = true)
    (hd : Mqtt.fate { t with pending := cs } = .down) : t'.fate = .down := by
  cases limit with
  | some ms =>
    have hup : t.point.settingUp = false := not_settingUp_of_down (t := { t with pending := cs }) hd
    rw [hr.fate_of_pause h hs hup, hd]
  | none =>
    cases hr with
    | @acted left p hp hl hacts =>
      have hp : t.point = .waiting left := hp
      have hd : cs.leavesDown = true := by simpa [fate, hp, Point.fate, hl] using hd
      cases hacts with
      | stay _ _ => simp [fate, Point.fate, goto]
      | setUp hsd hup =>
        have hno : cs.contains .restart = false ∧ cs.contains .start = false := by
          simpa [Commands.leavesDown, hsd] using hd
        simp [hno] at hup
      | exit _ => rfl

theorem fate_offer {t : Mqtt} {op : Operation} (hop : op ≠ .exitLoop) :
    (t.offer op).fate = t.fate := by
  have hx : .exitLoop ∈ (t.operations.offerOrDrop t.isReceiving op).items ↔
      .exitLoop ∈ t.operations.items :=
    ⟨fun hx => (Inbox.mem_offerOrDrop hx).resolve_right hop.symm, Inbox.mem_offerOrDrop_of_mem⟩
  simp only [fate, offer, hx]

/-! ## A stopping task -/

/-- The stop is still to be read while the task is started, and a task that is down says so. -/
structure Stopping (t : Mqtt) : Prop where
  down : t.fate = .down
  unread : t.status = .started → t.pending.contains .stop = true
  settled : ∀ left, t.point = .waiting left → t.status = .stopped ∨ t.status = .failedToStart

theorem Turn.status {t t' : Mqtt} {q : Request} {r : Reply} (ht : Turn t q r t')
    (hup : t.point.settingUp = false) (hs : t'.status = .started) : t.status = .started := by
  cases ht with
  | opened hp | prepared hp | broughtUp hp | notBroughtUp hp | created hp | notCreated hp
  | started hp => simp [hp, Point.settingUp] at hup
  | @exhausted phase n hp _ =>
    cases phase with
    | setup => simp [hp, Point.settingUp] at hup
    | reconnect => simp [lose, goto] at hs
  | stopped _ | failed _ | exited _ => simp [withDeferred, goto] at hs
  | _ => exact hs

theorem Turn.settled {t t' : Mqtt} {q : Request} {r : Reply} {left : Commands}
    (ht : Turn t q r t') (hp' : t'.point = .waiting left) :
    t'.status = .stopped ∨ t'.status = .failedToStart ∨
      (∃ left, t.point = .waiting left) ∧ t'.status = t.status := by
  cases ht with
  | stopped _ => exact .inl (by simp [withDeferred])
  | failed _ => exact .inr (.inl (by simp [withDeferred]))
  | acted hp _ _ => exact .inr (.inr ⟨⟨_, hp⟩, rfl⟩)
  | prepared _ =>
    dsimp only at hp'
    split at hp'
    · cases hp'
    · split at hp' <;> cases hp'
  | broughtUp _ =>
    dsimp only at hp'
    split at hp' <;> cases hp'
  | _ => simp [goto] at hp'

theorem Reads.not_started {t t' : Mqtt} {cs : Commands} {limit : Option Nat} (h : t.Sound)
    (hr : Reads t cs limit t') (hs : t.status = .started → cs.contains .stop = true) :
    t'.status ≠ .started := by
  cases hr with
  | @abort phase n hp _ =>
    simp only [Sound, hp] at h
    cases phase with
    | setup => simp [lose, goto, h.1.1.1]
    | reconnect => simp [lose, goto]
  | defer _ hc _ hstarted =>
    rw [Bool.or_eq_false_iff, hs hstarted] at hc
    cases hc.1
  | @retry phase n hp hc _ =>
    intro hstarted
    rw [Bool.or_eq_false_iff, hs hstarted] at hc
    cases hc.1
  | acted hp _ _ =>
    simp only [Sound, hp] at h
    exact h.2.1

theorem Reads.settled {t t' : Mqtt} {cs : Commands} {limit : Option Nat} {left : Commands}
    (hr : Reads t cs limit t') (hp' : t'.point = .waiting left) :
    (∃ left, t.point = .waiting left) ∧ t'.status = t.status := by
  cases hr with
  | acted hp _ _ => exact ⟨⟨_, hp⟩, rfl⟩
  | _ => simp [goto] at hp'

/-- A pause that is over without a command is a reading of none. -/
theorem Reads.of_expired {t t' : Mqtt} {limit : Option Nat} (hb : t.pending.bits = 0)
    (hr : Reads t .empty limit t') : Reads { t with pending := {} } t.pending limit t' := by
  have hz : t.pending = {} := by
    cases hpend : t.pending
    rw [hpend] at hb
    exact congrArg Commands.mk hb
  have ht : ({ t with pending := {} } : Mqtt) = t := by rw [← hz]
  rw [ht, hz]
  exact hr

theorem Goes.unread {t t' : Mqtt} (h : t.Sound) (hg : t.Goes t')
    (hup : t.point.settingUp = false)
    (hs : t.status = .started → t.pending.contains .stop = true) :
    t'.status = .started → t'.pending.contains .stop = true := by
  cases hg with
  | same | heard _ | reported => exact hs
  | turned _ ht =>
    intro hstarted
    rw [ht.pending_eq]
    exact hs (ht.status hup hstarted)
  | received _ _ hr =>
    intro _
    have hp : t.point = .receiving := hr.point_eq
    simp only [Sound, hp] at h
    rw [hr.pending_eq]
    exact hs h.1
  | read _ _ hr =>
    intro hstarted
    exact absurd hstarted (hr.not_started (show Sound { t with pending := {} } from h) hs)
  | expired _ hb hr =>
    intro hstarted
    exact absurd hstarted
      ((hr.of_expired hb).not_started (show Sound { t with pending := {} } from h) hs)

theorem Goes.down {t t' : Mqtt} (h : t.Sound) (hg : t.Goes t')
    (hs : t.status = .started → t.pending.contains .stop = true) (hd : t.fate = .down) :
    t'.fate = .down := by
  cases hg with
  | same | heard _ => exact hd
  | turned _ ht => exact ht.down h hd
  | received _ htake hr => rw [hr.fate htake, hd]
  | read _ _ hr => exact hr.down h hs hd
  | expired _ hb hr => exact (hr.of_expired hb).down h hs hd
  | reported => rw [fate_offer (by simp), hd]

theorem Goes.settled {t t' : Mqtt} (hg : t.Goes t')
    (hs : ∀ left, t.point = .waiting left → t.status = .stopped ∨ t.status = .failedToStart) :
    ∀ left, t'.point = .waiting left → t'.status = .stopped ∨ t'.status = .failedToStart := by
  intro left hp'
  cases hg with
  | same | heard _ | reported => exact hs left hp'
  | turned _ ht =>
    rcases ht.settled hp' with hst | hst | ⟨⟨left, hp⟩, hst⟩
    · exact .inl hst
    · exact .inr hst
    · rw [hst]
      exact hs left hp
  | received _ _ hr =>
    have hp : t.point = .receiving := hr.point_eq
    cases hr with
    | disconnected _ => cases hc : t.connected <;> simp [goto, hc] at hp'
    | subscribeFailed _ => rw [hp] at hp'; cases hp'
    | exitLoop _ => simp [goto] at hp'
  | read _ _ hr | expired _ _ hr =>
    obtain ⟨⟨left, hp⟩, hst⟩ := hr.settled hp'
    rw [hst]
    exact hs left hp

theorem Goes.stopping {t t' : Mqtt} (h : t.Sound) (hg : t.Goes t') (hs : t.Stopping) :
    t'.Stopping where
  down := hg.down h hs.unread hs.down
  unread := hg.unread h (not_settingUp_of_down hs.down) hs.unread
  settled := hg.settled hs.settled

theorem contains_notify (t : Mqtt) {c : Command} (hc : c ≠ .start) :
    (t.notify c).pending.contains c = true := by
  unfold Mqtt.notify
  split <;> simp

end Mqtt

namespace Broker

variable {c : MqttSettings} {b b' : Broker}

/-- Down with nothing left behind, in the task's own words. -/
def Stopped (b : Broker) : Prop :=
  (b.task.status = .stopped ∨ b.task.status = .failedToStart) ∧ b.task.Down ∧ b.subscriber = none

structure Stopping (c : MqttSettings) (b : Broker) : Prop where
  sound : Sound c b
  task : b.task.Stopping

namespace Stopping

theorem move (h : Stopping c b) (hm : Move c b b') : Stopping c b' :=
  ⟨h.sound.move hm, hm.goes.stopping h.sound.task h.task⟩

theorem moves (h : Stopping c b) (hs : Relation.ReflTransGen (Move c) b b') : Stopping c b' := by
  induction hs with
  | refl => exact h
  | tail _ hm ih => exact ih.move hm

theorem stopped (h : Stopping c b) (hr : AtRest (Move c) b) : b.Stopped := by
  obtain ⟨hsound, hs⟩ := h
  have htask := hsound.task
  rcases rest_cases hsound hr with hq | ⟨hq, hitems⟩ | ⟨hq, -⟩
  · have hp := (Mqtt.point_of_finished hq).2
    simp only [Mqtt.Sound, hp] at htask
    exact ⟨.inl htask.2, htask.1, hsound.nobody htask.1.2.2.2 (by simp [hp])⟩
  · -- the loop has not been told to end
    have hd := hs.down
    simp [Mqtt.fate, Mqtt.point_of_receive hq, Mqtt.Point.fate, Mqtt.loopFate, hitems] at hd
  · obtain ⟨left, hp, -⟩ := Mqtt.point_of_wait hq
    have hst := hs.settled left hp
    simp only [Mqtt.Sound, hp] at htask
    exact ⟨hst, htask.1, hsound.nobody htask.1.2.2.2 (by simp [hp])⟩

theorem settles (h : Stopping c b) : Settles (Move c) Stopped b :=
  .of_invariant (measure c) (fun _ _ h hm => h.move hm) (fun _ _ h hm => hm.falls h.sound)
    (fun _ h hr => h.stopped hr) h

end Stopping

end Broker

/-! ## A task that is answered well keeps its fate -/

namespace Mqtt

theorem resume_of_waiting {t : Mqtt} {left : Commands} (ha : t.announcing = none)
    (hp : t.point = .waiting left) (hl : left.isEmpty = true) (cs : Commands) :
    t.resume (.commands cs) = t.act cs := by
  simp [resume, ha, move, hp, hl]

theorem act_of_not_leavesDown {cs : Commands} (t : Mqtt) (h : cs.leavesDown = false) :
    t.act cs = t.goto .opening := by
  rcases Commands.dominant_of_not_leavesDown h with hd | hd <;> simp [act, hd]

/-- A task that waits and is not to stay down sets up again with the next reading. -/
theorem fate_of_read {t : Mqtt} {limit : Option Nat} (h : t.Sound)
    (hq : t.request = .wait limit) (hup : t.point.settingUp = false)
    (hs : t.status = .started → t.pending.contains .stop = true) (hd : t.fate ≠ .down) :
    (Mqtt.resume { t with pending := {} } (.commands t.pending)).fate = t.fate := by
  cases limit with
  | some ms =>
    have hr := reads_of_wait (t := { t with pending := {} }) hq t.pending
    exact hr.fate_of_pause h hs hup
  | none =>
    obtain ⟨left, hp, hl⟩ := point_of_wait hq
    have hfate : t.fate = .downIf t.pending.leavesDown := by simp [fate, hp, Point.fate, hl]
    have hleaves : t.pending.leavesDown = false := by
      rw [hfate, Ne, Fate.downIf_eq_down, Bool.not_eq_true] at hd
      exact hd
    rw [resume_of_waiting (t := { t with pending := {} }) (announcing_of_wait hq) hp hl,
      act_of_not_leavesDown _ hleaves, hfate, hleaves]
    rfl

theorem GoesWell.fate_eq {t t' : Mqtt} (h : t.Sound) (hg : t.GoesWell t')
    (hs : t.status = .started → t.pending.contains .stop = true)
    (hup : t.point.settingUp = false) (hd : t.fate ≠ .down) : t'.fate = t.fate := by
  cases hg with
  | same | heard _ => rfl
  | turned _ ht => exact ht.fate_of_good h rfl hup
  | received htake hr => exact hr.fate htake
  | read hq _ => exact fate_of_read h hq hup hs hd
  | expired hq hb => exact ((reads_of_wait hq .empty).of_expired hb).fate_of_pause h hs hup
  | reported => exact fate_offer (by simp)

end Mqtt

namespace Broker

variable {c : MqttSettings} {b b' : Broker}

/-- At rest a task that is not to stay down has been left in its loop. -/
theorem up_of_rest (h : Sound c b) (hd : b.task.fate ≠ .down) (hr : AtRest (Move c) b) :
    b.task.fate = .up ∧ b.task.status = .started := by
  have htask := h.task
  rcases rest_cases h hr with hq | ⟨hq, hitems⟩ | ⟨hq, hb⟩
  · have hp := (Mqtt.point_of_finished hq).2
    exact absurd (by rw [Mqtt.fate, hp]; rfl) hd
  · have hp := Mqtt.point_of_receive hq
    simp only [Mqtt.Sound, hp] at htask
    exact ⟨by simp [Mqtt.fate, hp, Mqtt.Point.fate, Mqtt.loopFate, hitems], htask.1⟩
  · obtain ⟨left, hp, hl⟩ := Mqtt.point_of_wait hq
    refine absurd ?_ hd
    simp [Mqtt.fate, hp, Mqtt.Point.fate, hl, Commands.leavesDown,
      Commands.contains_of_bits_eq_zero hb]

theorem exists_outcome (h : Sound c b)
    (hs : b.task.status = .started → b.task.pending.contains .stop = true)
    (hd : b.task.fate ≠ .down) :
    ∃ b', Relation.ReflTransGen (Move c) b b' ∧
      (b.task.fate = .up → AtRest (Move c) b' ∧ b'.task.status = .started) ∧
      (b.task.fate = .again → b'.task.point.settingUp = true) := by
  induction hm : b.measure c using WellFoundedLT.induction generalizing b with
  | ind m ih =>
    subst hm
    cases hup : b.task.point.settingUp with
    | true =>
      have hf := Mqtt.fate_of_settingUp hup
      exact ⟨b, .refl, fun hf' => absurd (hf.symm.trans hf') nofun, fun _ => hup⟩
    | false =>
      by_cases hr : AtRest (Move c) b
      · obtain ⟨hf, hst⟩ := up_of_rest h hd hr
        exact ⟨b, .refl, fun _ => ⟨hr, hst⟩, fun hf' => absurd (hf.symm.trans hf') nofun⟩
      · simp only [AtRest, not_forall, not_not] at hr
        obtain ⟨b₁, hm₁⟩ := hr
        obtain ⟨b₂, hm, hwell⟩ := exists_move_well hm₁
        have hf := hwell.fate_eq h.task hs hup hd
        have hs₂ := hm.goes.unread h.task hup hs
        obtain ⟨b', hsteps, hout⟩ := ih _ (hm.falls h) (h.move hm) hs₂ (by rwa [hf]) rfl
        rw [hf] at hout
        exact ⟨b', .head hm hsteps, hout⟩

theorem stop_fate (h : Reachable c b) (hstarted : b.task.status = .started) :
    ((Settles (Move c) Stopped (b.notify .stop) ∧
        ∀ b', Relation.ReflTransGen (Move c) (b.notify .stop) b' →
          b'.task.point.settingUp = false) ↔ (b.notify .stop).task.fate = .down) ∧
    ((b.notify .stop).task.fate = .up →
      ∃ b', Relation.ReflTransGen (Move c) (b.notify .stop) b' ∧ AtRest (Move c) b' ∧
        b'.task.status = .started) ∧
    ((b.notify .stop).task.fate = .again →
      ∃ b', Relation.ReflTransGen (Move c) (b.notify .stop) b' ∧
        b'.task.point.settingUp = true) := by
  have hsound₀ := (Sound.start c).steps h
  have hsound : Sound c (b.notify .stop) := hsound₀.event (.command _)
  have hunread : (b.notify .stop).task.pending.contains .stop = true :=
    Mqtt.contains_notify _ nofun
  have hout := fun hd => exists_outcome hsound (fun _ => hunread) hd
  have hup : (b.notify .stop).task.fate = .up → ∃ b',
      Relation.ReflTransGen (Move c) (b.notify .stop) b' ∧ AtRest (Move c) b' ∧
        b'.task.status = .started := by
    intro hf
    obtain ⟨b', hsteps, hrest, -⟩ := hout (by simp [hf])
    exact ⟨b', hsteps, hrest hf⟩
  have hagain : (b.notify .stop).task.fate = .again → ∃ b',
      Relation.ReflTransGen (Move c) (b.notify .stop) b' ∧ b'.task.point.settingUp = true := by
    intro hf
    obtain ⟨b', hsteps, -, hset⟩ := hout (by simp [hf])
    exact ⟨b', hsteps, hset hf⟩
  refine ⟨⟨?_, ?_⟩, hup, hagain⟩
  · rintro ⟨hsettles, hnever⟩
    cases hf : (b.notify .stop).task.fate with
    | down => rfl
    | up =>
      obtain ⟨b', hsteps, hrest, hst⟩ := hup hf
      rcases (hsettles.good_of_rest hsteps hrest).1 with hst' | hst' <;> rw [hst] at hst' <;>
        cases hst'
    | again =>
      obtain ⟨b', hsteps, hset⟩ := hagain hf
      rw [hnever b' hsteps] at hset
      cases hset
  · intro hd
    have hstopping : Stopping c (b.notify .stop) := by
      refine ⟨hsound, hd, fun _ => hunread, fun left hp => ?_⟩
      have hp : b.task.point = .waiting left := by simpa [notify] using hp
      have htask := hsound₀.task
      simp only [Mqtt.Sound, hp] at htask
      exact absurd hstarted htask.2.1
    exact ⟨hstopping.settles, fun b' hsteps =>
      Mqtt.not_settingUp_of_down (hstopping.moves hsteps).task.down⟩

/-! ### After the first connect -/

/-- The first try has succeeded, and the commands have come in the meantime. -/
def started (c : MqttSettings) (pending : Commands) : Broker where
  task := { Mqtt.ofSettings c with
    status := .started
    pending
    ready := true
    created := true
    connected := true
    subscriber := true
    announcing := some .started
    point := .receiving }
  subscriber := some
    { Subscriber.ofSettings c with inbox := (Subscriber.ofSettings c).inbox.put .subscribe }

theorem reachable_started {c : MqttSettings} {pending : Commands} {b : Broker}
    (h : Reachable c b)
    (hb : b = { inFirstConnect c with task := { (inFirstConnect c).task with pending } }) :
    Reachable c (started c pending) := by
  subst hb
  let w₀ : Broker := { inFirstConnect c with task := { (inFirstConnect c).task with pending } }
  have s₁ : Step c w₀ (w₀.replied .done) := .move (.reply .connect rfl)
  have s₂ : Step c (w₀.replied .done) (started c pending) :=
    .move (.tell (b := w₀.replied .done) rfl rfl rfl (by
      simp [Inbox.offer, Inbox.accepts, Inbox.hasRoom, Subscriber.isReceiving,
        Subscriber.ofSettings]))
  exact (Relation.ReflTransGen.tail h s₁).tail s₂

/-- A stop that finds nothing else unread. -/
theorem stop_fate_after_first_connect :
    ∃ b, Reachable { maxRetries := 3 } b ∧ b.task.status = .started ∧
      Settles (Move { maxRetries := 3 }) Stopped (b.notify .stop) ∧
      ∀ b', Relation.ReflTransGen (Move { maxRetries := 3 }) (b.notify .stop) b' →
        b'.task.point.settingUp = false := by
  have h : Reachable { maxRetries := 3 } (started { maxRetries := 3 } {}) :=
    reachable_started (reachable_inFirstConnect (by decide)) rfl
  exact ⟨_, h, rfl, (stop_fate h rfl).1.mpr rfl⟩

/-- A start that comes while the first connect is under way outlives the stop. -/
theorem start_outlives_stop :
    ∃ b b', Reachable { maxRetries := 3 } b ∧ b.task.status = .started ∧
      Relation.ReflTransGen (Move { maxRetries := 3 }) (b.notify .stop) b' ∧
      b'.task.point.settingUp = true := by
  have hfirst := reachable_inFirstConnect (c := { maxRetries := 3 }) (by decide)
  have h : Reachable { maxRetries := 3 } (started { maxRetries := 3 } (.insert {} .start)) :=
    reachable_started (hfirst.tail (.event (.command .start))) rfl
  obtain ⟨b', hsteps, -, hset⟩ := exists_outcome
    (((Sound.start _).steps h).event (.command .stop)) (fun _ => rfl) (by decide)
  exact ⟨_, b', h, rfl, hsteps, hset rfl⟩

end Broker

end EdgeGateway
