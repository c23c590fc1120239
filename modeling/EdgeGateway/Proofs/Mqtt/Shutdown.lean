import EdgeGateway.Proofs.Mqtt.Rank

/-!
# EdgeGateway.Proofs.Mqtt.Shutdown

What becomes of a shutdown (`Broker.shutdown_heeded_iff`).

A shutdown is delivered as a command, and to a started task also as an operation that ends its
loop. The command is read in a pause between two tries and by a task that is down; the loop reads
operations only. So the task is sure to exit if it is down or about to pause when the shutdown
comes, or if its loop has been told to end and nothing is deferred (`Mqtt.heeds`). Otherwise the
first try may succeed, and the started task waits at its queue with the command unread.
-/

namespace EdgeGateway

namespace Mqtt

/-- A shutdown has been read and is being carried out. -/
def Point.closing : Point → Bool
  | .stoppingSubscriber e | .joiningSubscriber e | .disconnecting e | .deleting e
  | .tearingDown e | .settling e => e = .exit || e.left.contains .shutdown
  | .waiting left => left.contains .shutdown
  | .finished => true
  | _ => false

/-- Whatever is answered, the task reads its commands before it waits at its queue. That depends
on how many tries it has, whether nothing is deferred, and whether its loop has been told to
end. -/
def Point.willRead (tries : Nat) (quiet told : Bool) : Point → Bool
  | .opening | .preparing | .bringingUp | .creating => tries = 0
  | .trying _ n => (1 < n && n ≤ tries) || (quiet && (tries < n || told))
  | .pausing _ _ => true
  | .checking _ _ | .connecting _ _ | .subscribing _ | .receiving | .dropping => quiet && told
  | .stoppingSubscriber e | .joiningSubscriber e | .disconnecting e | .deleting e
  | .tearingDown e | .settling e => quiet && e.left.isEmpty
  | .waiting left => left.isEmpty
  | .finished => false

def closing (t : Mqtt) : Bool := t.point.closing

def willRead (t : Mqtt) : Bool :=
  t.point.willRead t.policy.attempts t.deferred.isEmpty (.exitLoop ∈ t.operations.items)

def heeds (t : Mqtt) : Bool := t.closing || t.willRead

/-- A shutdown has been read, or is there to be read. -/
def Heeding (t : Mqtt) : Prop :=
  t.closing = true ∨ (t.pending.contains .shutdown = true ∧ t.willRead = true)

/-! ## A heeded shutdown stays heeded -/

theorem Turn.closing {t t' : Mqtt} {q : Request} {r : Reply} (h : t.Sound) (ht : Turn t q r t')
    (hc : t.closing = true) : t'.closing = true := by
  cases ht with
  | acted hp _ hacts => cases hacts <;> simp_all [Mqtt.closing, Point.closing, goto]
  | stopped hp => simp [Mqtt.closing, hp, Point.closing] at hc
  | failed hp =>
    simp only [Sound, hp] at h
    have hd : (t.setStatus .failedToStart).deferred.Defers := by simpa using h.1.2.1
    simp [Mqtt.closing, hp, Point.closing] at hc
    rw [withDeferred_eq hd]
    simp [Mqtt.closing, Point.closing, hc, Commands.isEmpty_eq_false_of_contains hc]
  | _ hp => simp_all [Mqtt.closing, Point.closing, goto]

theorem Turn.willRead {t t' : Mqtt} {q : Request} {r : Reply} (h : t.Sound) (ht : Turn t q r t')
    (hw : t.willRead = true) : t'.heeds = true := by
  cases ht with
  | acted hp hl _ => simp [Mqtt.willRead, hp, Point.willRead, hl] at hw
  | stopped hp =>
    simp only [Sound, hp] at h
    have hd : (t.setStatus .stopped).deferred.Defers := by simpa using h.1.2.1
    have hq : t.deferred.isEmpty = true := by
      simpa [Mqtt.willRead, hp, Point.willRead] using hw
    rw [withDeferred_eq hd]
    simp [heeds, Mqtt.willRead, Point.willRead, hq]
  | @failed left hp =>
    simp only [Sound, hp] at h
    have hd : (t.setStatus .failedToStart).deferred.Defers := by simpa using h.1.2.1
    have hq : t.deferred.isEmpty = true ∧ left.isEmpty = true := by
      simpa [Mqtt.willRead, hp, Point.willRead] using hw
    rw [withDeferred_eq hd]
    simp [heeds, Mqtt.willRead, Point.willRead, hq]
  | prepared hp =>
    simp only [Sound, hp] at h
    simp_all [Mqtt.willRead, heeds, Point.willRead, Down]
  | broughtUp hp =>
    simp only [Sound, hp] at h
    simp_all [Mqtt.willRead, heeds, Point.willRead, Down]
  | notBroughtUp hp | notCreated hp | created hp =>
    simp only [Sound, hp] at h
    simp_all [Mqtt.willRead, heeds, Point.willRead, Fresh]
  | exhausted hp hn =>
    simp [Mqtt.willRead, hp, Point.willRead] at hw
    have hq : t.deferred.isEmpty = true := by
      rcases hw with hw | hw
      · omega
      · exact hw.1
    simp [heeds, Mqtt.willRead, Point.willRead, hq]
  | first hp hn =>
    simp [Mqtt.willRead, hp, Point.willRead] at hw
    have hx := hw.2.resolve_left (by omega)
    simp [heeds, Mqtt.willRead, Point.willRead, goto, hw.1, hx]
  | _ hp => simp_all [Mqtt.willRead, heeds, Mqtt.closing, Point.willRead, Point.closing, goto]

theorem Receives.willRead {t t' : Mqtt} {op : Operation} {operations : Inbox Operation}
    (htake : t.operations.take? = some (op, operations))
    (hr : Receives { t with operations } op t') (hw : t.willRead = true) : t'.willRead = true := by
  have hitems := (Inbox.items_of_take htake).1
  have hp : t.point = .receiving := hr.point_eq
  simp only [Mqtt.willRead, hp, Point.willRead, Bool.and_eq_true, decide_eq_true_eq, hitems,
    List.mem_cons] at hw
  obtain ⟨hq, hx⟩ := hw
  cases hr with
  | disconnected _ =>
    have hx : .exitLoop ∈ operations.items := hx.resolve_left (by simp)
    cases hc : t.connected <;> simp [Mqtt.willRead, Point.willRead, goto, hq, hx]
  | subscribeFailed _ =>
    have hx : .exitLoop ∈ operations.items := hx.resolve_left (by simp)
    simp [Mqtt.willRead, Point.willRead, hp, hq, hx]
  | exitLoop _ => simp [Mqtt.willRead, Point.willRead, goto, hq]

theorem Reads.closing {t t' : Mqtt} {cs : Commands} {limit : Option Nat}
    (hr : Reads t cs limit t') (hc : cs.contains .shutdown = true) : t'.closing = true := by
  cases hr with
  | abort _ _ => simp [Mqtt.closing, Point.closing, hc]
  | defer _ hn _ _ | retry _ hn _ => simp [hc] at hn
  | acted _ _ hacts =>
    cases hacts with
    | stay hn _ | setUp hn _ => simp [hn] at hc
    | exit _ => simp [Mqtt.closing, Point.closing, goto]

/-- Where a task waits no shutdown is being carried out. -/
theorem Reads.not_closing {t t' : Mqtt} {cs : Commands} {limit : Option Nat}
    (hr : Reads t cs limit t') : t.closing = false := by
  cases hr with
  | acted hp hl _ => simp [Mqtt.closing, hp, Point.closing, Commands.isEmpty_iff.mp hl]
  | abort hp _ | defer hp _ _ _ | retry hp _ _ => simp [Mqtt.closing, hp, Point.closing]

theorem Point.willRead_mono {tries : Nat} {quiet told told' : Bool} {p : Point}
    (h : told = true → told' = true) (hw : p.willRead tries quiet told = true) :
    p.willRead tries quiet told' = true := by
  cases told with
  | true => rwa [h rfl]
  | false =>
    cases p with
    | trying phase n =>
      simp only [Point.willRead, Bool.or_false, Bool.or_eq_true, Bool.and_eq_true] at hw ⊢
      exact hw.imp_right fun ⟨hq, hn⟩ => ⟨hq, .inl hn⟩
    | _ => simp_all [Point.willRead]

theorem offer_willRead {t : Mqtt} (op : Operation) (hw : t.willRead = true) :
    (t.offer op).willRead = true :=
  Point.willRead_mono (fun h => decide_eq_true (Inbox.mem_offerOrDrop_of_mem
    (of_decide_eq_true h))) hw

theorem Goes.heeding {t t' : Mqtt} (h : t.Sound) (hg : t.Goes t') (hh : t.Heeding) :
    t'.Heeding := by
  cases hg with
  | same => exact hh
  | heard _ => exact hh
  | turned _ ht =>
    rcases hh with hc | ⟨hs, hw⟩
    · exact .inl (ht.closing h hc)
    · rcases Bool.or_eq_true_iff.mp (ht.willRead h hw) with hc | hw'
      · exact .inl hc
      · exact .inr ⟨by rwa [ht.pending_eq], hw'⟩
  | received _ htake hr =>
    rcases hh with hc | ⟨hs, hw⟩
    · have hp : t.point = .receiving := hr.point_eq
      simp [Mqtt.closing, hp, Point.closing] at hc
    · exact .inr ⟨by rwa [hr.pending_eq], hr.willRead htake hw⟩
  | read _ _ hr =>
    rcases hh with hc | ⟨hs, -⟩
    · rw [show t.closing = false from hr.not_closing] at hc
      cases hc
    · exact .inl (hr.closing hs)
  | expired _ hb hr =>
    rcases hh with hc | ⟨hs, -⟩
    · rw [hr.not_closing] at hc
      cases hc
    · rw [Commands.contains_of_bits_eq_zero hb] at hs
      cases hs
  | reported => exact hh.imp_right fun ⟨hs, hw⟩ => ⟨hs, offer_willRead _ hw⟩

theorem Heeding.offer {t : Mqtt} (h : t.Heeding) (op : Operation) : (t.offer op).Heeding :=
  h.imp_right fun ⟨hs, hw⟩ => ⟨hs, offer_willRead op hw⟩

theorem contains_notify_shutdown (t : Mqtt) :
    (t.notify .shutdown).pending.contains .shutdown = true := by
  unfold Mqtt.notify
  split <;> simp

theorem Heeding.notify {t : Mqtt} (h : t.Heeding) (c : Command) : (t.notify c).Heeding := by
  have insert {t : Mqtt} (h : t.Heeding) : Heeding { t with pending := t.pending.insert c } :=
    h.imp_right fun ⟨hs, hw⟩ => ⟨by simp [hs], hw⟩
  unfold Mqtt.notify
  split
  · split
    · exact h
    · exact insert (h.offer _)
  · exact insert h

end Mqtt

namespace Broker

variable {c : MqttSettings} {b b' : Broker}

/-- The task has ended with nothing left behind. -/
def Exited (b : Broker) : Prop :=
  b.task.point = .finished ∧ b.task.announcing = none ∧ b.task.status = .stopped ∧
  b.task.Down ∧ b.subscriber = none

structure Heeding (c : MqttSettings) (b : Broker) : Prop where
  sound : Sound c b
  task : b.task.Heeding

namespace Heeding

theorem move (h : Heeding c b) (hm : Move c b b') : Heeding c b' :=
  ⟨h.sound.move hm, hm.goes.heeding h.sound.task h.task⟩

theorem event (h : Heeding c b) (he : Event b b') : Heeding c b' := by
  refine ⟨h.sound.event he, ?_⟩
  cases he with
  | command cmd => exact h.task.notify cmd
  | lost => exact h.task.offer _
  | message _ => exact h.task

theorem steps (h : Heeding c b) (hs : Relation.ReflTransGen (Step c) b b') : Heeding c b' := by
  induction hs with
  | refl => exact h
  | tail _ hs ih =>
    cases hs with
    | move hm => exact ih.move hm
    | event he => exact ih.event he

theorem exited (h : Heeding c b) (hr : AtRest (Move c) b) : b.Exited := by
  obtain ⟨hsound, hh⟩ := h
  have htask := hsound.task
  rcases rest_cases hsound hr with hq | ⟨hq, hitems⟩ | ⟨hq, hb⟩
  · obtain ⟨ha, hp⟩ := Mqtt.point_of_finished hq
    simp only [Mqtt.Sound, hp] at htask
    exact ⟨hp, ha, htask.2, htask.1, hsound.nobody htask.1.2.2.2 (by simp [hp])⟩
  · simp [Mqtt.Heeding, Mqtt.closing, Mqtt.willRead, Mqtt.point_of_receive hq,
      Mqtt.Point.closing, Mqtt.Point.willRead, hitems] at hh
  · obtain ⟨left, hp, hl⟩ := Mqtt.point_of_wait hq
    simp [Mqtt.Heeding, Mqtt.closing, hp, Mqtt.Point.closing, Commands.isEmpty_iff.mp hl,
      Commands.contains_of_bits_eq_zero hb] at hh

theorem settles (h : Heeding c b) : Settles (Move c) Exited b :=
  .of_invariant (measure c) (fun _ _ h hm => h.move hm) (fun _ _ h hm => hm.falls h.sound)
    (fun _ h hr => h.exited hr) h

end Heeding

end Broker

/-! ## A shutdown that is not heeded can be left unread -/

namespace Mqtt

/-- The answer with which a task gets on. -/
def Request.good : Request → Reply
  | .askDefaultReady => .flag true
  | _ => .done

theorem fits_good {q : Request} {r : Reply} (h : Fits q r) : Fits q q.good := by
  cases h <;> constructor

/-- The ways a broker task goes on when it is answered well. -/
inductive GoesWell (t : Mqtt) : Mqtt → Prop where
  | same : GoesWell t t
  | heard {s : Status} : t.announcing = some s → GoesWell t { t with announcing := none }
  | turned {t' : Mqtt} : t.announcing = none → Turn t t.request t.request.good t' → GoesWell t t'
  | received {op : Operation} {operations : Inbox Operation} {t' : Mqtt} :
      t.operations.take? = some (op, operations) →
      Receives { t with operations } op t' → GoesWell t t'
  | read {limit : Option Nat} : t.request = .wait limit → t.pending.bits ≠ 0 →
      GoesWell t (Mqtt.resume { t with pending := {} } (.commands t.pending))
  | expired {ms : Nat} : t.request = .wait (some ms) → t.pending.bits = 0 →
      GoesWell t (t.resume (.commands .empty))
  | reported : GoesWell t (t.offer .subscribeFailed)

theorem goesWell_of_fits {t : Mqtt} (h : Fits t.request t.request.good) :
    GoesWell t (t.resume t.request.good) := by
  cases ha : t.announcing with
  | none => exact .turned ha (turn_of_fits ha h)
  | some s =>
    have hr : t.resume t.request.good = { t with announcing := none } := by
      simp only [resume, ha]
    rw [hr]
    exact .heard ha

theorem withDeferred_deaf {t : Mqtt} (h : t.deferred.Defers) {left : Commands}
    (hc : left.contains .shutdown = false) (hl : (t.deferred.isEmpty && left.isEmpty) = false) :
    (t.withDeferred left).closing = false ∧ (t.withDeferred left).willRead = false := by
  have honly : (Commands.only .restart).isEmpty = false := rfl
  rw [withDeferred_eq h]
  cases hd : t.deferred.isEmpty <;> cases hl' : left.isEmpty <;>
    simp_all [Mqtt.closing, Mqtt.willRead, Point.closing, Point.willRead]

theorem Turn.deaf {t t' : Mqtt} {q : Request} {r : Reply} (h : t.Sound) (ht : Turn t q r t')
    (hr : r = q.good) (hd : t.heeds = false) : t'.heeds = false := by
  rw [heeds, Bool.or_eq_false_iff] at hd ⊢
  obtain ⟨hc, hw⟩ := hd
  cases ht with
  | unrouted _ | notBroughtUp _ | notCreated _ | notConnected _ => simp [Request.good] at hr
  | @acted left p hp hl hacts =>
    simp only [Sound, hp] at h
    obtain ⟨hstop, hstart, ht⟩ := h.2.2.2
    have hs : left.contains .shutdown = false := by simpa [Mqtt.closing, hp, Point.closing] using hc
    cases hacts with
    | stay _ hn => rcases hn with hn | hn <;> simp_all
    | setUp _ _ =>
      have := ht hl
      exact ⟨rfl, decide_eq_false (show t.policy.attempts ≠ 0 by omega)⟩
    | exit hs' => rw [hs] at hs'; cases hs'
  | stopped hp =>
    simp only [Sound, hp] at h
    simp only [Mqtt.willRead, hp, Point.willRead, Ending.left_stopped] at hw
    exact withDeferred_deaf (by simpa using h.1.2.1) (by simp) (by simpa using hw)
  | failed hp =>
    simp only [Sound, hp] at h
    simp only [Mqtt.willRead, Mqtt.closing, hp, Point.willRead, Point.closing,
      Ending.left_failed] at hw hc
    exact withDeferred_deaf (by simpa using h.1.2.1) (by simpa using hc) (by simpa using hw)
  | prepared hp =>
    simp only [Sound, hp] at h
    simp_all [Mqtt.willRead, Mqtt.closing, Point.willRead, Point.closing, Down]
  | broughtUp hp =>
    simp only [Sound, hp] at h
    simp_all [Mqtt.willRead, Mqtt.closing, Point.willRead, Point.closing, Down]
  | created hp =>
    simp only [Sound, hp] at h
    simp_all [Mqtt.willRead, Mqtt.closing, Point.willRead, Point.closing, Fresh]
  | exhausted hp hn =>
    have hq : t.deferred.isEmpty = false := by
      simp [Mqtt.willRead, hp, Point.willRead, hn] at hw
      exact hw
    simp [Mqtt.willRead, Mqtt.closing, Point.willRead, Point.closing, hq]
  | first hp hn =>
    simp only [Mqtt.willRead, hp, Point.willRead, Bool.or_eq_false_iff] at hw
    have hq := hw.2
    simp [Mqtt.willRead, Mqtt.closing, Point.willRead, Point.closing, goto] at hq ⊢
    exact fun he => decide_eq_false (hq he).2
  | pause hp hn h1 =>
    simp only [Sound, hp] at h
    simp only [Mqtt.willRead, hp, Point.willRead, Bool.or_eq_false_iff] at hw
    have := hw.1
    simp at this
    omega
  | dropped hp =>
    simp only [Sound, hp] at h
    have htries := h.2.2.1
    simp [Mqtt.willRead, hp, Point.willRead] at hw
    simp [Mqtt.willRead, Mqtt.closing, Point.willRead, Point.closing]
    exact fun he => ⟨by omega, hw he⟩
  | _ hp => simp_all [Mqtt.willRead, Mqtt.closing, Point.willRead, Point.closing, goto]

theorem Receives.deaf {t t' : Mqtt} {op : Operation} {operations : Inbox Operation}
    (h : t.Sound) (htake : t.operations.take? = some (op, operations))
    (hr : Receives { t with operations } op t') (hd : t.heeds = false) : t'.heeds = false := by
  have hitems := (Inbox.items_of_take htake).1
  have hp : t.point = .receiving := hr.point_eq
  simp only [Sound, hp] at h
  have htries := h.2.2.1
  have hd : t.deferred.isEmpty = true → .exitLoop ∉ op :: operations.items := by
    simpa [heeds, Mqtt.closing, Mqtt.willRead, hp, Point.closing, Point.willRead, hitems] using hd
  have hd' : t.deferred.isEmpty = true → .exitLoop ∉ operations.items := fun hq hx =>
    hd hq (List.mem_cons_of_mem _ hx)
  cases hr with
  | disconnected _ =>
    cases hc : t.connected with
    | true => simpa [heeds, Mqtt.closing, Mqtt.willRead, Point.closing, Point.willRead, goto]
    | false =>
      simp [heeds, Mqtt.closing, Mqtt.willRead, Point.closing, Point.willRead, goto]
      exact fun hq => ⟨by omega, by simpa using hd' hq⟩
  | subscribeFailed _ =>
    simpa [heeds, Mqtt.closing, Mqtt.willRead, hp, Point.closing, Point.willRead]
  | exitLoop _ =>
    have hq : t.deferred.isEmpty = false := by
      rw [Bool.eq_false_iff]
      exact fun hq => hd hq List.mem_cons_self
    simp [heeds, Mqtt.closing, Mqtt.willRead, Point.closing, Point.willRead, goto, hq]

theorem offer_deaf {t : Mqtt} {op : Operation} (hop : op ≠ .exitLoop) (hd : t.heeds = false) :
    (t.offer op).heeds = false := by
  rw [heeds, Bool.or_eq_false_iff] at hd ⊢
  refine ⟨hd.1, Bool.eq_false_iff.mpr fun hw => ?_⟩
  have : t.willRead = true := Point.willRead_mono (fun hx => decide_eq_true
    ((Inbox.mem_offerOrDrop (of_decide_eq_true hx)).resolve_right hop.symm)) hw
  rw [hd.2] at this
  cases this

theorem Reads.heeds {t t' : Mqtt} {cs : Commands} {limit : Option Nat}
    (hr : Reads t cs limit t') : t.heeds = true := by
  cases hr with
  | acted hp hl _ => simp [Mqtt.heeds, Mqtt.willRead, hp, Point.willRead, hl]
  | abort hp _ | defer hp _ _ _ | retry hp _ _ =>
    simp [Mqtt.heeds, Mqtt.willRead, hp, Point.willRead]

/-- What the task need not read it does not read, if it is answered well. -/
theorem GoesWell.deaf {t t' : Mqtt} (h : t.Sound) (hg : t.GoesWell t')
    (hd : t.heeds = false) : t'.heeds = false ∧ t'.pending = t.pending := by
  cases hg with
  | same | heard _ => exact ⟨hd, rfl⟩
  | turned _ ht => exact ⟨ht.deaf h rfl hd, ht.pending_eq⟩
  | received htake hr => exact ⟨hr.deaf h htake hd, hr.pending_eq⟩
  | read hq _ | expired hq _ =>
    rw [(reads_of_wait hq .empty).heeds] at hd
    cases hd
  | reported => exact ⟨offer_deaf (by simp) hd, rfl⟩

end Mqtt

namespace Broker

variable {c : MqttSettings} {b b' : Broker}

/-- If there is a move at all, there is one in which the task is answered well. -/
theorem exists_move_well (hm : Move c b b') : ∃ b', Move c b b' ∧ b.task.GoesWell b'.task := by
  have answered {q : Mqtt.Request} (hq : b.task.request = q) (hf : Mqtt.Fits q q.good) :
      b.task.GoesWell (b.task.resume q.good) := by
    subst hq
    exact Mqtt.goesWell_of_fits hf
  cases hm with
  | reply hf ho =>
    have hf := Mqtt.fits_good hf
    exact ⟨_, .reply hf ho, Mqtt.goesWell_of_fits hf⟩
  | prepare hq hs => exact ⟨_, .prepare hq hs, .same⟩
  | created hq hs | notCreated hq hs => exact ⟨_, .created hq hs, answered hq .create⟩
  | tell hq hs ho hput => exact ⟨_, .tell hq hs ho hput, answered hq .tell⟩
  | tellNobody hq hs => exact ⟨_, .tellNobody hq hs, answered hq .tell⟩
  | join hq hs => exact ⟨_, .join hq hs, answered hq .join⟩
  | @receive op operations hq htake =>
    exact ⟨_, .receive hq htake, .received htake
      (Mqtt.receives_of_request (t := { b.task with operations := operations }) hq op)⟩
  | read hq hb => exact ⟨_, .read hq hb, .read hq hb⟩
  | expire hq hb => exact ⟨_, .expire hq hb, .expired hq hb⟩
  | serve hs ht hf => exact ⟨_, .serve hs ht hf, .same⟩
  | take hs ht hq hi => exact ⟨_, .take hs ht hq hi, .same⟩
  | report hs ht hq => exact ⟨_, .report hs ht hq, .reported⟩
  | leave hs ht hq => exact ⟨_, .leave hs ht hq, .same⟩

/-- The started task waits at its empty queue, and a shutdown is left unread. -/
def Stuck (c : MqttSettings) (b : Broker) : Prop :=
  AtRest (Move c) b ∧ b.task.status = .started ∧ b.task.request = .receive ∧
  b.task.operations.items = [] ∧ b.task.pending.contains .shutdown = true

theorem stuck_of_deaf (h : Sound c b) (hd : b.task.heeds = false)
    (hs : b.task.pending.contains .shutdown = true) :
    ∃ b', Relation.ReflTransGen (Move c) b b' ∧ Stuck c b' := by
  let Inv (b : Broker) : Prop :=
    Sound c b ∧ b.task.heeds = false ∧ b.task.pending.contains .shutdown = true
  have goes (b b' : Broker) (hi : Inv b) (hm : Move c b b') : ∃ b', Move c b b' ∧ Inv b' := by
    obtain ⟨hsound, hd, hs⟩ := hi
    obtain ⟨b₂, hm₂, hwell⟩ := exists_move_well hm
    obtain ⟨hd₂, hp₂⟩ := hwell.deaf hsound.task hd
    exact ⟨b₂, hm₂, hsound.move hm₂, hd₂, by rwa [hp₂]⟩
  obtain ⟨b', hsteps, hrest, hsound, hd', hs'⟩ :=
    AtRest.exists_of_invariant (measure c) goes (fun _ _ hi hm => hm.falls hi.1) ⟨h, hd, hs⟩
  refine ⟨b', hsteps, hrest, ?_⟩
  have htask := hsound.task
  rcases rest_cases hsound hrest with hq | ⟨hq, hitems⟩ | ⟨hq, -⟩
  · simp [Mqtt.heeds, Mqtt.closing, (Mqtt.point_of_finished hq).2, Mqtt.Point.closing] at hd'
  · simp only [Mqtt.Sound, Mqtt.point_of_receive hq] at htask
    exact ⟨htask.1, hq, hitems, hs'⟩
  · rw [(Mqtt.reads_of_wait hq .empty).heeds] at hd'
    cases hd'

theorem shutdown_heeded_iff (h : Reachable c b) :
    ((∀ b', Relation.ReflTransGen (Step c) (b.notify .shutdown) b' → Settles (Move c) Exited b') ↔
      (b.notify .shutdown).task.heeds = true) ∧
    ((b.notify .shutdown).task.heeds = false →
      ∃ b', Relation.ReflTransGen (Move c) (b.notify .shutdown) b' ∧ Stuck c b') := by
  have hsound : Sound c (b.notify .shutdown) := ((Sound.start c).steps h).event (.command _)
  have hpend : (b.notify .shutdown).task.pending.contains .shutdown = true :=
    Mqtt.contains_notify_shutdown _
  have hstuck := fun hd => stuck_of_deaf hsound hd hpend
  refine ⟨⟨fun hall => ?_, fun hh b' hs => ?_⟩, hstuck⟩
  · rw [← Bool.not_eq_false]
    intro hd
    obtain ⟨b', hsteps, hrest, hstatus, -⟩ := hstuck hd
    have hex := (hall _ .refl).good_of_rest hsteps hrest
    rw [hex.2.2.1] at hstatus
    cases hstatus
  · have hheed : Heeding c (b.notify .shutdown) :=
      ⟨hsound, (Bool.or_eq_true_iff.mp hh).imp_right fun hw => ⟨hpend, hw⟩⟩
    exact (hheed.steps hs).settles

/-! ### The first connect -/

/-- The client has been created, and the first try is under way. -/
def inFirstConnect (c : MqttSettings) : Broker where
  task := { Mqtt.ofSettings c with
    status := .starting
    ready := true
    created := true
    subscriber := true
    point := .connecting .setup 1 }
  subscriber := some (.ofSettings c)

theorem reachable_inFirstConnect {c : MqttSettings} (h : 1 ≤ c.retryPolicy.attempts) :
    Reachable c (inFirstConnect c) := by
  let w₀ : Broker := { task := .ofSettings c }
  let w₁ := w₀.replied .done
  let w₂ := w₁.replied .done
  let w₃ := w₂.replied .done
  let w₄ := w₃.replied .done
  let w₅ : Broker := { w₄ with subscriber := some (.ofSettings c) }
  let w₆ := w₅.replied .done
  let w₇ := w₆.replied .done
  have s₁ : Step c w₀ w₁ := .move (.reply .proceed rfl)
  have s₂ : Step c w₁ w₂ := .move (.reply .announce rfl)
  have s₃ : Step c w₂ w₃ := .move (.reply .proceed rfl)
  have s₄ : Step c w₃ w₄ := .move (.reply .bringUp rfl)
  have s₅ : Step c w₄ w₅ := .move (.prepare rfl rfl)
  have s₆ : Step c w₅ w₆ := .move (.created rfl rfl)
  have s₇ : Step c w₆ w₇ := .move (.reply .proceed rfl)
  have hn : ¬ c.retryPolicy.attempts < 1 := by omega
  have h₇ : w₇.task = w₆.task.goto (.checking .setup 1) := by
    show (if c.retryPolicy.attempts < 1 then _ else _) = _
    rw [if_neg hn]
    rfl
  have hq : w₇.task.request = .askDefaultReady := by rw [h₇]; rfl
  have s₈ : Step c w₇ (w₇.replied (.flag true)) := .move (.reply (hq ▸ .askDefaultReady) (hq ▸ rfl))
  have h₈ : w₇.replied (.flag true) = inFirstConnect c := by
    rw [replied, h₇]
    rfl
  rw [h₈] at s₈
  exact (((((((Relation.ReflTransGen.single s₁).tail s₂).tail s₃).tail s₄).tail s₅).tail s₆).tail
    s₇).tail s₈

/-- A shutdown that comes while the first connect is under way can be left unread. -/
theorem shutdown_unread_in_first_connect :
    ∃ b b', Reachable { maxRetries := 3 } b ∧ b.task.point = .connecting .setup 1 ∧
      Relation.ReflTransGen (Step { maxRetries := 3 }) (b.notify .shutdown) b' ∧
      AtRest (Move { maxRetries := 3 }) b' ∧ ¬ b'.Exited ∧ b'.task.status = .started ∧
      b'.task.pending.contains .shutdown = true := by
  have h := reachable_inFirstConnect (c := { maxRetries := 3 }) (by decide)
  obtain ⟨b', hsteps, hrest, hstatus, -, -, hpend⟩ := stuck_of_deaf
    (((Sound.start _).steps h).event (.command .shutdown)) rfl (Mqtt.contains_notify_shutdown _)
  refine ⟨_, b', h, rfl, hsteps.lift id fun _ _ => .move, hrest, fun hex => ?_, hstatus, hpend⟩
  rw [hex.2.2.1] at hstatus
  cases hstatus

/-- A shutdown in the pause after it is heeded, whatever comes then. -/
theorem shutdown_heeded_in_first_pause :
    ∃ b, Reachable { maxRetries := 3 } b ∧ b.task.point = .pausing .setup 2 ∧
      ∀ b', Relation.ReflTransGen (Step { maxRetries := 3 }) (b.notify .shutdown) b' →
        Settles (Move { maxRetries := 3 }) Exited b' := by
  let w₀ := inFirstConnect { maxRetries := 3 }
  let w₁ := w₀.replied .failed
  let w₂ := w₁.replied .done
  have s₁ : Step { maxRetries := 3 } w₀ w₁ := .move (.reply .connectFailed rfl)
  have s₂ : Step { maxRetries := 3 } w₁ w₂ := .move (.reply .proceed rfl)
  have h := ((reachable_inFirstConnect (by decide)).tail s₁).tail s₂
  exact ⟨w₂, h, rfl, (shutdown_heeded_iff h).1.mpr rfl⟩

end Broker

end EdgeGateway
