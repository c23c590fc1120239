import EdgeGateway.Proofs.Link.Merged
import EdgeGateway.Proofs.Mqtt.Stop

/-!
# EdgeGateway.Proofs.Mqtt.Merged

What becomes of a start that follows a stop the broker task has not read yet
(`Broker.start_upon_stop`), and the same for both kinds of task (`start_upon_stop_heeded_iff`).

A task that is down, or on its way there, reads the two together and sets up again. While it is
setting up they are read in a pause before the next try, which takes both out of what it has read,
or not at all: the try succeeds, and the started task waits at its queue only. So the start counts
if there is no try to come (`Mqtt.reopens`).
-/

namespace EdgeGateway

namespace Mqtt

/-- A stop and a start that come to a task at this point make it set up again. -/
def Point.reopens (tries : Nat) : Point → Bool
  | .opening => true
  | .preparing | .bringingUp | .creating => tries = 0
  | .trying .setup n => tries < n
  | .stoppingSubscriber e | .joiningSubscriber e | .disconnecting e | .deleting e
  | .tearingDown e | .settling e => e ≠ .exit && !e.left.contains .shutdown
  | .waiting left => !left.contains .shutdown
  | _ => false

def reopens (t : Mqtt) : Bool := t.point.reopens t.policy.attempts

/-! ## No try ahead -/

theorem withDeferred_reopens {t : Mqtt} (h : t.deferred.Defers) {left : Commands}
    (hl : left.contains .shutdown = false) : (t.withDeferred left).reopens = true := by
  rw [withDeferred_eq h]
  simp only [reopens, Point.reopens, Bool.not_eq_true']
  split
  · rfl
  · exact hl

theorem Turn.reopens {t t' : Mqtt} {q : Request} {r : Reply} (h : t.Sound) (ht : Turn t q r t')
    (hp : t.point ≠ .opening) (hr : t.reopens = true) : t'.reopens = true := by
  rw [Mqtt.reopens] at hr
  cases ht with
  | opened ho => exact absurd ho hp
  | @acted left p hp hl hacts =>
    simp only [Sound, hp] at h
    have hleft := h.2.2.2
    have hs : left.contains .shutdown = false := by simpa [hp, Point.reopens] using hr
    cases hacts with
    | stay _ hn => rcases hn with hn | hn <;> simp_all [hleft.stop]
    | setUp _ _ => rfl
    | exit hsd => rw [hs] at hsd; cases hsd
  | stopped hp =>
    simp only [Sound, hp] at h
    exact withDeferred_reopens (by simpa using h.1.2.1) (by simp)
  | failed hp =>
    simp only [Sound, hp] at h
    exact withDeferred_reopens (by simpa using h.1.2.1) (by simpa [hp, Point.reopens] using hr)
  | @exhausted phase n hp _ => simp [Mqtt.reopens, Point.reopens]
  | prepared hp =>
    have hn : t.policy.attempts = 0 := by simpa [hp, Point.reopens] using hr
    simp only [Mqtt.reopens, hn]
    cases t.ready <;> cases t.created <;> rfl
  | broughtUp hp =>
    have hn : t.policy.attempts = 0 := by simpa [hp, Point.reopens] using hr
    simp only [Mqtt.reopens, hn]
    cases t.created <;> rfl
  | @first phase hp hn => cases phase <;> simp [hp, Point.reopens] at hr; omega
  | @pause phase n hp hn _ => cases phase <;> simp [hp, Point.reopens] at hr; omega
  | _ hp => simp_all [Mqtt.reopens, Point.reopens, goto]

theorem Goes.reopens {t t' : Mqtt} (h : t.Sound) (hg : t.Goes t') (hp : t.point ≠ .opening)
    (hu : t.pending.MeansRestart) (hk : t'.pending = t.pending) (hr : t.reopens = true) :
    t'.reopens = true := by
  cases hg with
  | same | heard _ | reported => exact hr
  | turned _ ht => exact ht.reopens h hp hr
  | received _ _ hrec =>
    have hpt : t.point = .receiving := hrec.point_eq
    simp [Mqtt.reopens, hpt, Point.reopens] at hr
  | read _ _ hread =>
    -- what has been read is no longer there
    rw [hread.pending_eq] at hk
    have hstop := hu.stop
    rw [← hk] at hstop
    simp at hstop
  | expired _ hb _ => exact absurd hb hu.bits_ne_zero

/-- Where a task that reopens reads the two, it sets up again. -/
theorem opening_of_read {t : Mqtt} {limit : Option Nat} (hq : t.request = .wait limit)
    (hu : t.pending.MeansRestart) (hr : t.reopens = true) :
    (Mqtt.resume { t with pending := {} } (.commands t.pending)).point = .opening := by
  have ha := announcing_of_wait hq
  have hwait : ∃ left, t.point = .waiting left ∧ left.isEmpty = true := by
    have hreads := reads_of_wait hq .empty
    generalize t.resume (.commands .empty) = t' at hreads
    cases hreads with
    | acted hp hl _ => exact ⟨_, hp, hl⟩
    | @abort phase n hp _ | @defer phase n hp _ _ _ | @retry phase n hp _ _ =>
      simp [Mqtt.reopens, hp, Point.reopens] at hr
  obtain ⟨left, hp, hl⟩ := hwait
  have hup : t.pending.leavesDown = false := by
    simp [Commands.leavesDown, hu.shutdown, hu.start]
  rw [resume_of_waiting (t := { t with pending := {} }) ha hp hl, act_of_not_leavesDown _ hup]
  rfl

theorem act_pending (t : Mqtt) (cs : Commands) : (t.act cs).pending = t.pending := by
  obtain ⟨p, hact, -⟩ := t.acts cs
  rw [hact]
  rfl

theorem resume_pending (t : Mqtt) (r : Reply) : (t.resume r).pending = t.pending := by
  unfold resume move
  repeat' split
  all_goals simp [goto, withDeferred, act_pending]

theorem notify_meansRestart {t : Mqtt} (h : t.pending.MeansRestart) {d : Command}
    (hd : d ≠ .shutdown) : (t.notify d).pending.MeansRestart := by
  unfold Mqtt.notify
  split
  · split
    · exact h
    · exact h.insert hd
  · exact h.insert hd

theorem notify_reopens (t : Mqtt) (d : Command) : (t.notify d).reopens = t.reopens := by
  unfold Mqtt.notify
  split
  · split <;> rfl
  · rfl

end Mqtt

namespace Broker

variable {c : MqttSettings} {b b' : Broker}

/-- The task begins to set up. -/
def Begins (b : Broker) : Prop := b.task.point = .opening

/-- The broker goes on, and neither a stop nor a shutdown comes. -/
inductive Urged (c : MqttSettings) : Broker → Broker → Prop where
  | move {b b' : Broker} : Move c b b' → Urged c b b'
  | command {b : Broker} (d : Command) : d ≠ .stop → d ≠ .shutdown → Urged c b (b.notify d)
  | lost {b : Broker} : Urged c b { b with task := b.task.offer .disconnected }
  | message {b : Broker} (payload : Bytes) : Urged c b { b with
      subscriber := b.subscriber.map fun s =>
        { s with inbox := s.inbox.offerOrDrop s.isReceiving (.message payload) } }

/-- Commands go when they are read, and only then. -/
theorem Move.read_or_kept (hm : Move c b b') :
    (∃ limit, b.task.request = .wait limit ∧
      b'.task = Mqtt.resume { b.task with pending := {} } (.commands b.task.pending)) ∨
    b'.task.pending = b.task.pending := by
  cases hm with
  | read hq _ => exact .inl ⟨_, hq, rfl⟩
  | _ => exact .inr (by simp [replied, Mqtt.resume_pending, Mqtt.offer])

/-- The two are there to be read, and will be read where they are a restart. -/
structure Reopening (c : MqttSettings) (b : Broker) : Prop where
  sound : Sound c b
  reopens : b.task.reopens = true
  unread : b.Begins ∨ b.task.pending.MeansRestart

namespace Reopening

theorem move (h : Reopening c b) (hb : ¬ b.Begins) (hm : Move c b b') : Reopening c b' := by
  have hs' := h.sound.move hm
  have hu := h.unread.resolve_left hb
  rcases hm.read_or_kept with ⟨limit, hq, ht⟩ | hk
  · have hp : b'.task.point = .opening := by
      rw [ht]
      exact Mqtt.opening_of_read hq hu h.reopens
    exact ⟨hs', by simp [Mqtt.reopens, hp, Mqtt.Point.reopens], .inl hp⟩
  · exact ⟨hs', hm.goes.reopens h.sound.task hb hu hk h.reopens, .inr (hk ▸ hu)⟩

theorem urged (h : Reopening c b) (hb : ¬ b.Begins) (hu : Urged c b b') : Reopening c b' := by
  have hunread := h.unread.resolve_left hb
  cases hu with
  | move hm => exact h.move hb hm
  | command d _ hd =>
    exact ⟨h.sound.event (.command d), (Mqtt.notify_reopens _ d).trans h.reopens,
      .inr (Mqtt.notify_meansRestart hunread hd)⟩
  | lost => exact ⟨h.sound.event .lost, h.reopens, .inr hunread⟩
  | message payload => exact ⟨h.sound.event (.message payload), h.reopens, .inr hunread⟩

theorem begins_of_rest (h : Reopening c b) (hr : AtRest (Move c) b) : b.Begins := by
  by_contra hb
  have hu := h.unread.resolve_left hb
  have hre := h.reopens
  rcases rest_cases h.sound hr with hq | ⟨hq, -⟩ | ⟨-, hbits⟩
  · simp [Mqtt.reopens, (Mqtt.point_of_finished hq).2, Mqtt.Point.reopens] at hre
  · simp [Mqtt.reopens, Mqtt.point_of_receive hq, Mqtt.Point.reopens] at hre
  · exact hu.bits_ne_zero hbits

theorem inevitable (h : Reopening c b) : Inevitable (Urged c) (Move c) Begins b :=
  .of_invariant (measure c) (fun _ _ => .move) (fun _ _ h hb hu => h.urged hb hu)
    (fun _ _ h hm => hm.falls h.sound) (fun _ h hr => h.begins_of_rest hr) h

end Reopening

end Broker

/-! ## A try ahead -/

namespace Mqtt

/-- Answered well the task comes to its loop, and finds nothing there that would end it. -/
def StaysUp (t : Mqtt) : Prop :=
  match t.point with
  | .preparing => 1 ≤ t.policy.attempts
  | .bringingUp | .creating => 1 ≤ t.policy.attempts ∧ .exitLoop ∉ t.operations.items
  | .trying _ n => n = 1 ∧ 1 ≤ t.policy.attempts ∧ .exitLoop ∉ t.operations.items
  | .checking _ _ | .connecting _ _ | .subscribing _ | .receiving | .dropping =>
    .exitLoop ∉ t.operations.items
  | _ => False

/-- The task pauses before its next try to set up, or is about to. -/
def Pauses (t : Mqtt) : Prop :=
  match t.point with
  | .trying .setup n => n ≠ 1 ∧ n ≤ t.policy.attempts
  | .pausing .setup _ => True
  | _ => False

theorem Turn.staysUp {t t' : Mqtt} {q : Request} {r : Reply} (h : t.Sound) (ht : Turn t q r t')
    (hr : r = q.good) (hu : t.StaysUp) : t'.StaysUp := by
  cases ht with
  | prepared hp =>
    simp only [StaysUp, hp] at hu
    cases t.ready <;> cases t.created <;> simp_all [StaysUp, Inbox.clear]
  | broughtUp hp =>
    simp only [StaysUp, hp] at hu
    cases t.created <;> simp_all [StaysUp]
  | dropped hp =>
    simp only [Sound, hp] at h
    simp only [StaysUp, hp] at hu
    exact ⟨rfl, h.2.2.1, hu⟩
  | exhausted hp hn =>
    simp only [StaysUp, hp] at hu
    omega
  | pause hp _ h1 =>
    simp only [StaysUp, hp] at hu
    exact absurd hu.1 h1
  | _ hp => simp_all [StaysUp, Request.good, goto]

theorem Receives.staysUp {t t' : Mqtt} {op : Operation} {operations : Inbox Operation}
    (h : t.Sound) (htake : t.operations.take? = some (op, operations))
    (hr : Receives { t with operations } op t') (hu : t.StaysUp) : t'.StaysUp := by
  have hitems := (Inbox.items_of_take htake).1
  have hp : t.point = .receiving := hr.point_eq
  simp only [Sound, hp] at h
  have hno : op ≠ .exitLoop ∧ .exitLoop ∉ operations.items := by
    simpa [StaysUp, hp, hitems, eq_comm] using hu
  cases hr with
  | disconnected _ => cases hc : t.connected <;> simp [StaysUp, goto, hno.2, h.2.2.1]
  | subscribeFailed _ => simpa [StaysUp, hp] using hno.2
  | exitLoop _ => exact absurd rfl hno.1

theorem Reads.not_staysUp {t t' : Mqtt} {cs : Commands} {limit : Option Nat}
    (hr : Reads t cs limit t') : ¬ t.StaysUp := by
  cases hr with
  | abort hp _ | defer hp _ _ _ | retry hp _ _ | acted hp _ _ => simp [StaysUp, hp]

theorem offer_staysUp {t : Mqtt} {op : Operation} (hop : op ≠ .exitLoop) (hu : t.StaysUp) :
    (t.offer op).StaysUp := by
  have hmem : .exitLoop ∉ t.operations.items →
      .exitLoop ∉ (t.operations.offerOrDrop t.isReceiving op).items := fun hno hx =>
    (Inbox.mem_offerOrDrop hx).elim hno hop.symm
  unfold offer
  generalize t.operations.offerOrDrop t.isReceiving op = operations at hmem ⊢
  cases hp : t.point <;> simp_all [StaysUp]

theorem GoesWell.staysUp {t t' : Mqtt} (h : t.Sound) (hg : t.GoesWell t') (hu : t.StaysUp) :
    t'.StaysUp := by
  cases hg with
  | same | heard _ => exact hu
  | turned _ ht => exact ht.staysUp h rfl hu
  | received htake hr => exact hr.staysUp h htake hu
  | read hq _ | expired hq _ => exact absurd hu (reads_of_wait hq .empty).not_staysUp
  | reported => exact offer_staysUp (by simp) hu

theorem Turn.pauses {t t' : Mqtt} {q : Request} {r : Reply} (ht : Turn t q r t')
    (hp : t.Pauses) : t'.Pauses := by
  cases ht with
  | @exhausted phase n hpt hn =>
    cases phase <;> simp [Pauses, hpt] at hp
    omega
  | @first phase hpt _ => cases phase <;> simp [Pauses, hpt] at hp
  | @pause phase n hpt _ _ =>
    cases phase with
    | setup => trivial
    | reconnect => simp [Pauses, hpt] at hp
  | _ hpt => simp [Pauses, hpt] at hp

/-- A pause that reads a stop and a start, and nothing else, leaves nothing of them. -/
theorem Reads.down_of_pauses {t t' : Mqtt} {limit : Option Nat} (h : t.Sound)
    (hr : Reads { t with pending := {} } ((Commands.only .stop).insert .start) limit t')
    (hp : t.Pauses) : t'.fate = .down ∧ t'.status ≠ .started := by
  have hleft :
      ((((Commands.only .stop).insert .start).erase .stop).erase .start).isEmpty = true := rfl
  cases hr with
  | @abort phase n hpt _ =>
    have hpt : t.point = .pausing phase n := hpt
    cases phase with
    | setup =>
      simp only [Sound, hpt] at h
      have hs : t.status = .starting := h.1.1.1
      exact ⟨by simp [fate, Point.fate, Ending.fate, hleft], by simp [lose, goto, hs]⟩
    | reconnect => simp [Pauses, hpt] at hp
  | defer _ hc _ _ | retry _ hc _ => simp at hc
  | @acted left p hpt _ _ =>
    have hpt : t.point = .waiting left := hpt
    simp [Pauses, hpt] at hp

theorem Goes.pauses {t t' : Mqtt} (h : t.Sound) (hg : t.Goes t') (hp : t.Pauses)
    (hpend : t.pending = (Commands.only .stop).insert .start) :
    (t'.Pauses ∧ t'.pending = t.pending) ∨ (t'.fate = .down ∧ t'.status ≠ .started) := by
  cases hg with
  | same | heard _ | reported => exact .inl ⟨hp, rfl⟩
  | turned _ ht => exact .inl ⟨ht.pauses hp, ht.pending_eq⟩
  | received _ _ hr =>
    have hpt : t.point = .receiving := hr.point_eq
    simp [Pauses, hpt] at hp
  | read _ _ hr => exact .inr ((hpend ▸ hr).down_of_pauses h hp)
  | expired _ hb _ => simp [hpend, Commands.insert, Commands.only, Command.bit] at hb

theorem Ending.fate_of_closing {e : Ending} {quiet : Bool} {pending : Commands}
    (h : e = .exit ∨ e.left.contains .shutdown = true) : e.fate quiet pending = .down := by
  cases e with
  | exit => rfl
  | stopped => simp at h
  | failed left =>
    have hs : left.contains .shutdown = true := by simpa using h
    simp [Ending.fate, Commands.isEmpty_eq_false_of_contains hs, hs]

/-- A task that is not started and does not reopen ends, or has a try ahead. -/
theorem Sound.of_not_reopens {t : Mqtt} (h : t.Sound) (hst : t.status ≠ .started)
    (hr : t.reopens = false) : t.closing = true ∨ t.Pauses ∨ t.StaysUp := by
  have hin : t.In .reconnect → False := fun hin => hst hin.1
  cases hp : t.point with
  | opening => simp [reopens, hp, Point.reopens] at hr
  | preparing =>
    refine .inr (.inr ?_)
    simp [reopens, hp, Point.reopens] at hr
    simp only [StaysUp, hp]
    omega
  | bringingUp | creating =>
    refine .inr (.inr ?_)
    simp [reopens, hp, Point.reopens] at hr
    simp only [Sound, hp, Fresh] at h
    simp only [StaysUp, hp]
    exact ⟨by omega, by simp_all⟩
  | trying phase n =>
    simp only [Sound, hp] at h
    cases phase with
    | reconnect => exact (hin h.1).elim
    | setup =>
      have hn : n ≤ t.policy.attempts := by simpa [reopens, hp, Point.reopens] using hr
      by_cases h1 : n = 1
      · refine .inr (.inr ?_)
        simp only [StaysUp, hp]
        exact ⟨h1, by omega, h.1.1.2.2⟩
      · refine .inr (.inl ?_)
        simp only [Pauses, hp]
        exact ⟨h1, hn⟩
  | pausing phase n =>
    simp only [Sound, hp] at h
    cases phase with
    | reconnect => exact (hin h.1).elim
    | setup => exact .inr (.inl (by simp [Pauses, hp]))
  | checking phase n | connecting phase n | subscribing phase =>
    simp only [Sound, hp] at h
    cases phase with
    | reconnect => exact (hin h.1).elim
    | setup =>
      refine .inr (.inr ?_)
      simp only [StaysUp, hp]
      exact h.1.1.2.2
  | receiving | dropping =>
    simp only [Sound, hp] at h
    exact (hin h).elim
  | stoppingSubscriber e | joiningSubscriber e | disconnecting e | deleting e | tearingDown e
  | settling e =>
    left
    cases e <;> simp_all [reopens, Point.reopens, closing, Point.closing]
  | waiting left =>
    exact .inl (by simpa [reopens, hp, Point.reopens, closing, Point.closing] using hr)
  | finished => exact .inl (by simp [closing, hp, Point.closing])

theorem fate_of_closing {t : Mqtt} (h : t.closing = true) : t.fate = .down := by
  rw [closing] at h
  rw [fate]
  cases hp : t.point with
  | stoppingSubscriber e | joiningSubscriber e | disconnecting e | deleting e | tearingDown e
  | settling e => exact Ending.fate_of_closing (by simpa [hp, Point.closing] using h)
  | waiting left =>
    have hs : left.contains .shutdown = true := by simpa [hp, Point.closing] using h
    simp [Point.fate, Commands.isEmpty_eq_false_of_contains hs, hs]
  | finished => rfl
  | _ => simp [hp, Point.closing] at h

end Mqtt

namespace Broker

variable {c : MqttSettings} {b b' : Broker}

/-- The two will be read in a pause, or have been, or they are left unread. -/
inductive Dropping (b : Broker) : Prop where
  | down : b.task.fate = .down →
      (b.task.status = .started → b.task.pending.contains .stop = true) → Dropping b
  | pausing : b.task.Pauses → b.task.pending = (Commands.only .stop).insert .start → Dropping b
  | up : b.task.StaysUp → Dropping b

namespace Dropping

theorem not_begins (h : Dropping b) : ¬ b.Begins := by
  intro hp
  have hp : b.task.point = .opening := hp
  cases h with
  | down hd _ => simp [Mqtt.fate, hp, Mqtt.Point.fate] at hd
  | pausing hpause _ => simp [Mqtt.Pauses, hp] at hpause
  | up hu => simp [Mqtt.StaysUp, hp] at hu

theorem exists_move (hs : Sound c b) (h : Dropping b) (hm : Move c b b') :
    ∃ b', Move c b b' ∧ Dropping b' := by
  cases h with
  | down hd hun =>
    exact ⟨b', hm, .down (hm.goes.down hs.task hun hd)
      (hm.goes.unread hs.task (Mqtt.not_settingUp_of_down hd) hun)⟩
  | pausing hp hpend =>
    refine ⟨b', hm, ?_⟩
    rcases hm.goes.pauses hs.task hp hpend with ⟨hp', hk⟩ | ⟨hd, hst⟩
    · exact .pausing hp' (hk.trans hpend)
    · exact .down hd fun hst' => absurd hst' hst
  | up hu =>
    obtain ⟨b'', hm', hg⟩ := exists_move_well hm
    exact ⟨b'', hm', .up (hg.staysUp hs.task hu)⟩

theorem avoidable (hs : Sound c b) (h : Dropping b) : Avoidable (Move c) Begins b := by
  have hgoes : ∀ s s', Sound c s ∧ Dropping s → Move c s s' →
      ∃ s'', Move c s s'' ∧ Sound c s'' ∧ Dropping s'' := by
    rintro s s' ⟨hs, hd⟩ hm
    obtain ⟨s'', hm', hd'⟩ := hd.exists_move hs hm
    exact ⟨s'', hm', hs.move hm', hd'⟩
  exact .of_invariant (measure c) (fun _ h => h.2.not_begins) hgoes
    (fun _ _ h hm => hm.falls h.1) ⟨hs, h⟩

end Dropping

theorem notify_start_eq (hst : b.task.status ≠ .started) :
    b.notify .start = { b with
      task := { b.task with pending := b.task.pending.insert .start } } := by
  have hst : b.task.isStarted = false := by simpa [Mqtt.isStarted] using hst
  simp [notify, Mqtt.notify, hst]

theorem reopening_of_start (hs : Sound c b) (hp : b.task.pending = .only .stop)
    (hst : b.task.status ≠ .started) (h : b.task.reopens = true) :
    Reopening c (b.notify .start) where
  sound := hs.event (.command _)
  reopens := (Mqtt.notify_reopens _ _).trans h
  unread := by
    rw [notify_start_eq hst, hp]
    exact .inr ⟨by simp, by simp, by simp⟩

theorem dropping_of_start (hs : Sound c b) (hp : b.task.pending = .only .stop)
    (hst : b.task.status ≠ .started) (h : b.task.reopens = false) :
    Dropping (b.notify .start) := by
  rw [notify_start_eq hst]
  rcases hs.task.of_not_reopens hst h with hc | hpause | hu
  · exact .down (Mqtt.fate_of_closing hc) fun hst' => absurd hst' hst
  · exact .pausing hpause (by rw [hp])
  · exact .up hu

/-- A start that comes after a stop and before the task has read it. -/
theorem start_upon_stop (h : Reachable c b) (hp : b.task.pending = .only .stop)
    (hst : b.task.status ≠ .started) :
    (Inevitable (Urged c) (Move c) Begins (b.notify .start) ↔ b.task.reopens = true) ∧
    (b.task.reopens = false → Avoidable (Move c) Begins (b.notify .start)) := by
  have hs := (Sound.start c).steps h
  have hno : b.task.reopens = false → Avoidable (Move c) Begins (b.notify .start) := fun hr =>
    (dropping_of_start hs hp hst hr).avoidable (hs.event (.command _))
  exact ⟨inevitable_iff (fun hr => (reopening_of_start hs hp hst hr).inevitable) hno, hno⟩

end Broker

/-! ## Both kinds of task -/

/-- A start that comes after a stop and before the task has read it, for a link's task and for the
broker's: the task is sure to begin from the start again exactly if it reopens. A started broker
task is posted no start. -/
theorem start_upon_stop_heeded_iff {w : Life} {c : MqttSettings} {b : Broker}
    (hw : w.Reachable) (hwp : w.link.pending = .only .stop)
    (hb : Broker.Reachable c b) (hbp : b.task.pending = .only .stop) :
    ((Inevitable Life.Urged Life.Move Life.Begins (w.post .start) ↔ w.link.reopens = true) ∧
      (w.link.reopens = false → Avoidable Life.Move Life.Begins (w.post .start))) ∧
    (b.task.status = .started → b.notify .start = b) ∧
    (b.task.status ≠ .started →
      (Inevitable (Broker.Urged c) (Broker.Move c) Broker.Begins (b.notify .start) ↔
        b.task.reopens = true) ∧
      (b.task.reopens = false →
        Avoidable (Broker.Move c) Broker.Begins (b.notify .start))) := by
  refine ⟨Life.start_upon_stop hw hwp, fun hst => ?_, Broker.start_upon_stop hb hbp⟩
  simp [Broker.notify, Mqtt.notify, Mqtt.isStarted, hst]

/-- The last try of a link is under way, and a started broker task has begun to stop. -/
theorem start_heeded_in_last_try_and_while_stopping :
    ∃ (w : Life) (b : Broker), w.Reachable ∧ w.link.point = .connecting 2 ∧
      Inevitable Life.Urged Life.Move Life.Begins (w.post .start) ∧
      Broker.Reachable { maxRetries := 3 } b ∧
      b.task.point = .stoppingSubscriber .stopped ∧
      Inevitable (Broker.Urged { maxRetries := 3 }) (Broker.Move { maxRetries := 3 })
        Broker.Begins (b.notify .start) := by
  let w₁ := Life.inFirstTry.replied (.failed .timeout)
  let w₂ := w₁.replied .done
  let w₃ := w₂.replied (.commands .empty)
  have m₁ : Life.Move Life.inFirstTry w₁ := .reply .connectFailed
  have m₂ : Life.Move w₁ w₂ := .reply .proceed
  have hpause : w₂.link.request = .wait (some 5000) := rfl
  have m₃ : Life.Move w₂ w₃ := .expire hpause rfl
  have hw : (w₃.post .stop).Reachable := by
    obtain ⟨kind, policy, h⟩ := Life.inFirstTry_reachable
    exact ⟨kind, policy, (((h.tail (.move m₁)).tail (.move m₂)).tail (.move m₃)).tail (.post .stop)⟩
  have hpw : (w₃.post .stop).link.pending = .only .stop := by decide
  let b₁ := (Broker.started { maxRetries := 3 } {}).notify .stop
  let b₂ := b₁.replied .done
  let b₃ : Broker := { b₂ with
    task := { b₂.task with operations := b₂.task.operations.clear }.resume (.operation .exitLoop) }
  have hq : b₁.task.request = .announce .started := rfl
  have n₁ : Broker.Move { maxRetries := 3 } b₁ b₂ := .reply (hq ▸ .announce) rfl
  have n₂ : Broker.Move { maxRetries := 3 } b₂ b₃ := .receive rfl rfl
  have hstarted : Broker.Reachable { maxRetries := 3 } (Broker.started { maxRetries := 3 } {}) :=
    Broker.reachable_started (Broker.reachable_inFirstConnect (by decide)) rfl
  have hb : Broker.Reachable { maxRetries := 3 } b₃ :=
    ((hstarted.tail (.event (.command .stop))).tail (.move n₁)).tail (.move n₂)
  have hiff := start_upon_stop_heeded_iff hw hpw hb rfl
  exact ⟨_, b₃, hw, rfl, hiff.1.1.mpr rfl, hb, rfl, (hiff.2.2 (by decide)).1.mpr rfl⟩

end EdgeGateway
