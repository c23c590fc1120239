import EdgeGateway.Proofs.Mqtt.Broker
import Mathlib.Algebra.Ring.Nat

/-!
# EdgeGateway.Proofs.Mqtt.Rank

The broker task and its subscriber come to rest.

A message weighs what the subscriber can do about it, an operation what the task can, and each
point what it still has to go through, so that every move but the reading of commands makes the
whole lighter (`Broker.rank`). Commands are used up when they are read, or carried over once as
left or deferred (`Mqtt.carries`).
-/

namespace EdgeGateway

/-! ## Weights -/

/-- `tries` are those a subscribe may take. -/
def SubscriberMessage.weight (tries : Nat) : SubscriberMessage → Nat
  | .subscribe => 3 * tries + 4
  | .message _ => 2
  | .stop => 1

namespace Subscriber

def pointRank (tries : Nat) : Point → Nat
  | .finished => 1
  | .leaving => 2
  | .receiving => 3
  | .switching _ => 4
  | .reporting => 5
  | .subscribing n => 3 * (tries + 1 - n) + 4
  | .sleeping n => 3 * (tries + 1 - n) + 5
  | .trying n => 3 * (tries + 1 - n) + 6

def rank (s : Subscriber) (tries : Nat) : Nat :=
  pointRank tries s.point + (s.inbox.items.map (SubscriberMessage.weight tries)).sum

theorem rank_pos (s : Subscriber) (tries : Nat) : 0 < s.rank tries := by
  have : 0 < pointRank tries s.point := by cases s.point <;> simp [pointRank]
  unfold rank
  omega

theorem rank_put (s : Subscriber) (tries : Nat) (m : SubscriberMessage) :
    rank { s with inbox := s.inbox.put m } tries = s.rank tries + m.weight tries := by
  simp only [rank, Inbox.put, List.map_append, List.map_cons, List.map_nil, List.sum_append,
    List.sum_cons, List.sum_nil]
  omega

theorem Turn.rank_lt {s s' : Subscriber} {c : MqttSettings} (h : s.Sound c) (ht : Turn s s') :
    s'.rank c.subscribeRetries.toNat < s.rank c.subscribeRetries.toNat := by
  obtain ⟨-, ha, hn⟩ := h
  cases ht with
  | notSubscribed hp =>
    simp only [hp] at hn
    simp only [rank, pointRank, hp]
    omega
  | exhausted hp _ | first hp _ | pause hp _ | awake hp | subscribed hp | switched hp | left hp =>
    simp only [rank, pointRank, hp]
    omega

theorem Takes.rank_lt {s s' : Subscriber} {m : SubscriberMessage}
    {inbox : Inbox SubscriberMessage} (hp : s.point = .receiving)
    (hi : s.inbox.take? = some (m, inbox)) (ht : Takes { s with inbox } m s') (tries : Nat) :
    s'.rank tries < s.rank tries := by
  have hitems := (Inbox.items_of_take hi).1
  cases ht <;>
    simp only [rank, pointRank, hp, hitems, List.map_cons, List.sum_cons,
      SubscriberMessage.weight] <;> omega

end Subscriber

namespace Mqtt

/-- `tries` are those a broker connect may take, `subscribes` those a subscribe may. -/
def Operation.weight (tries subscribes : Nat) : Operation → Nat
  | .disconnected => 4 * tries + 3 * subscribes + 14
  | .subscribeFailed | .exitLoop => 1

def pointRank (tries subscribes : Nat) : Point → Nat
  | .finished | .waiting _ => 0
  | .settling _ => 1
  | .tearingDown _ => 2
  | .deleting _ => 3
  | .disconnecting _ => 4
  | .joiningSubscriber _ => 5
  | .stoppingSubscriber _ => 7
  | .receiving => 8
  | .subscribing _ => 3 * subscribes + 13
  | .connecting _ n => 4 * (tries + 1 - n) + 3 * subscribes + 11
  | .checking _ n => 4 * (tries + 1 - n) + 3 * subscribes + 12
  | .pausing _ n => 4 * (tries + 1 - n) + 3 * subscribes + 13
  | .trying _ n => 4 * (tries + 1 - n) + 3 * subscribes + 14
  | .dropping | .creating => 4 * tries + 3 * subscribes + 15
  | .bringingUp => 4 * tries + 3 * subscribes + 20
  | .preparing => 4 * tries + 3 * subscribes + 21
  | .opening => 4 * tries + 3 * subscribes + 22

def rank (t : Mqtt) (subscribes : Nat) : Nat :=
  pointRank t.policy.attempts subscribes t.point +
    (t.operations.items.map (Operation.weight t.policy.attempts subscribes)).sum

/-- What the creation of a client adds, when it begins. -/
def room (t : Mqtt) : Nat := if t.point = .creating then 4 else 0

/-- What a request gives to the subscriber. -/
def Request.cost (subscribes : Nat) : Request → Nat
  | .tell m => m.weight subscribes
  | _ => 0

def Ending.left : Ending → Commands
  | .failed left => left
  | _ => .empty

@[simp] theorem Ending.left_failed (left : Commands) : (Ending.failed left).left = left := rfl
@[simp] theorem Ending.left_stopped : Ending.stopped.left = .empty := rfl
@[simp] theorem Ending.left_exit : Ending.exit.left = .empty := rfl

/-- Commands left over from a connect and not yet acted on. -/
def left (t : Mqtt) : Commands :=
  match t.point with
  | .stoppingSubscriber e | .joiningSubscriber e | .disconnecting e | .deleting e
  | .tearingDown e | .settling e => e.left
  | .waiting left => left
  | _ => .empty

def carries (t : Mqtt) : Bool := !t.deferred.isEmpty || !t.left.isEmpty

theorem withDeferred_carries {t : Mqtt} (h : t.deferred.Defers) (left : Commands) :
    (t.withDeferred left).carries = (!t.deferred.isEmpty || !left.isEmpty) := by
  rw [withDeferred_eq h]
  have honly : (Commands.only .restart).isEmpty = false := rfl
  cases hd : t.deferred.isEmpty <;> cases hl : left.isEmpty <;>
    simp [carries, Mqtt.left, hl, honly]

theorem withDeferred_rank {t : Mqtt} (h : t.deferred.Defers) (left : Commands) (subscribes : Nat) :
    (t.withDeferred left).rank subscribes + (t.withDeferred left).room =
      (t.operations.items.map (Operation.weight t.policy.attempts subscribes)).sum := by
  rw [withDeferred_eq h]
  simp [rank, pointRank, room]

theorem settled_falls {t : Mqtt} (h : t.deferred.Defers) {s : Status} {l : Commands} {e : Ending}
    (hl : l.isEmpty = t.left.isEmpty) (hp : t.point = .settling e) (subscribes : Nat) :
    ((t.setStatus s).withDeferred l).carries = t.carries ∧
      ((t.setStatus s).withDeferred l).rank subscribes + Request.proceed.cost subscribes +
        ((t.setStatus s).withDeferred l).room < t.rank subscribes := by
  have hd : (t.setStatus s).deferred.Defers := by simpa using h
  have hr := withDeferred_rank hd l subscribes
  simp only [setStatus_operations, setStatus_policy] at hr
  refine ⟨by rw [withDeferred_carries hd, carries, setStatus_deferred, hl], ?_⟩
  simp only [Request.cost, Nat.add_zero, hr]
  simp only [rank, pointRank, hp]
  omega

theorem Turn.falls {t t' : Mqtt} {q : Request} {r : Reply} (h : t.Sound) (ht : Turn t q r t')
    (subscribes : Nat) :
    (t.carries = true ∧ t'.carries = false) ∨ (t'.carries = t.carries ∧
      t'.rank subscribes + q.cost subscribes + t'.room < t.rank subscribes) := by
  cases ht with
  | acted hp hl hacts =>
    simp only [Sound, hp] at h
    refine .inl ⟨by simp [carries, left, hp, hl], ?_⟩
    cases hacts <;> simp [carries, left, goto, h.2.2.1]
  | stopped hp =>
    simp only [Sound, hp] at h
    exact .inr (settled_falls h.1.2.1 (by simp [left, hp]) hp subscribes)
  | failed hp =>
    simp only [Sound, hp] at h
    exact .inr (settled_falls h.1.2.1 (by simp [left, hp]) hp subscribes)
  | prepared hp =>
    simp only [Sound, hp] at h
    refine .inr ⟨by simp [carries, left, hp, h.1.1, h.2.2], ?_⟩
    simp [rank, pointRank, Request.cost, room, hp, h.1.1, Inbox.clear]
    omega
  | broughtUp hp =>
    simp only [Sound, hp] at h
    refine .inr ⟨by simp [carries, left, hp, h.1.2.1], ?_⟩
    simp [rank, pointRank, Request.cost, room, hp, h.1.2.1]
    omega
  | connected hp | notConnected hp | unrouted hp | pause hp _ _ | exhausted hp _ =>
    simp only [Sound, hp] at h
    refine .inr ⟨by simp [carries, left, goto, hp], ?_⟩
    simp [rank, pointRank, Request.cost, room, goto, hp]
    try omega
  | disconnected hp hq | deleted hp hq | tornDown hp hq =>
    refine .inr ⟨by simp [carries, left, hp], ?_⟩
    rcases hq with rfl | rfl <;> simp [rank, pointRank, Request.cost, room, hp]
  | _ hp =>
    refine .inr ⟨by simp [carries, left, goto, hp], ?_⟩
    simp [rank, pointRank, Request.cost, room, goto, hp, SubscriberMessage.weight]
    try omega

theorem Receives.falls {t t' : Mqtt} {op : Operation} {operations : Inbox Operation}
    (htake : t.operations.take? = some (op, operations))
    (hr : Receives { t with operations } op t') (subscribes : Nat) :
    t'.carries = t.carries ∧ t'.rank subscribes + t'.room < t.rank subscribes := by
  have hitems := (Inbox.items_of_take htake).1
  cases hr with
  | disconnected hp =>
    have hp : t.point = .receiving := hp
    cases hc : t.connected with
    | false => simp [carries, left, rank, pointRank, room, goto, hp, hitems, Operation.weight]
    | true =>
      simp [carries, left, rank, pointRank, room, goto, hp, hitems, Operation.weight]
      omega
  | subscribeFailed hp =>
    have hp : t.point = .receiving := hp
    simp [carries, left, rank, pointRank, room, hp, hitems, Operation.weight]
  | exitLoop hp =>
    have hp : t.point = .receiving := hp
    simp [carries, left, rank, pointRank, room, goto, hp, hitems, Operation.weight]
    omega

theorem Reads.expired {t t' : Mqtt} {ms : Nat} (hr : Reads t .empty (some ms) t')
    (subscribes : Nat) :
    t'.carries = t.carries ∧ t'.rank subscribes + t'.room < t.rank subscribes := by
  cases hr with
  | abort _ hc => simp at hc
  | defer _ _ hc _ => simp at hc
  | retry hp _ _ => simp [carries, left, rank, pointRank, room, goto, hp]

theorem offer_rank_le (t : Mqtt) (op : Operation) (subscribes : Nat) :
    (t.offer op).rank subscribes ≤
      t.rank subscribes + op.weight t.policy.attempts subscribes := by
  unfold offer
  rcases Inbox.offerOrDrop_cases t.operations t.isReceiving op with he | he
  · simp only [rank, he, Inbox.put, List.map_append, List.map_cons, List.map_nil,
      List.sum_append, List.sum_cons, List.sum_nil]
    omega
  · simp only [rank, he]
    omega

theorem Turn.pending_eq {t t' : Mqtt} {q : Request} {r : Reply} (ht : Turn t q r t') :
    t'.pending = t.pending := by
  cases ht <;> simp [goto, withDeferred]

theorem Receives.pending_eq {t t' : Mqtt} {op : Operation} (hr : Receives t op t') :
    t'.pending = t.pending := by
  cases hr <;> simp [goto]

theorem Reads.pending_eq {t t' : Mqtt} {cs : Commands} {limit : Option Nat}
    (hr : Reads t cs limit t') : t'.pending = t.pending := by
  cases hr <;> simp [goto]

end Mqtt

namespace Broker

variable {c : MqttSettings} {b b' : Broker}

/-- What the subscriber has before it, or what its place is kept free for. -/
def crew (c : MqttSettings) (room : Nat) : Option Subscriber → Nat
  | some s => s.rank c.subscribeRetries.toNat
  | none => room

def rank (c : MqttSettings) (b : Broker) : Nat :=
  b.task.rank c.subscribeRetries.toNat + crew c b.task.room b.subscriber

def measure (c : MqttSettings) (b : Broker) : ℕ ×ₗ ℕ :=
  toLex (2 * (decide (b.task.pending.bits ≠ 0)).toNat + b.task.carries.toNat,
    2 * b.rank c + b.task.announcing.isSome.toNat)

theorem crew_le (c : MqttSettings) (room : Nat) (sub : Option Subscriber) :
    crew c 0 sub ≤ crew c room sub ∧ crew c room sub ≤ crew c 0 sub + room := by
  cases sub <;> simp [crew]

theorem measure_lt (hp : b'.task.pending = b.task.pending)
    (h : (b.task.carries = true ∧ b'.task.carries = false) ∨
      (b'.task.carries = b.task.carries ∧ b'.rank c < b.rank c)) :
    b'.measure c < b.measure c := by
  rw [measure, measure, Prod.Lex.toLex_lt_toLex, hp]
  rcases h with ⟨hc, hc'⟩ | ⟨hc, hlt⟩
  · left
    simp [hc, hc']
  · right
    have := Bool.toNat_le b'.task.announcing.isSome
    exact ⟨by simp [hc], by dsimp only; omega⟩

/-- Only the subscriber goes on, or goes. -/
theorem measure_lt_of_crew {sub : Option Subscriber}
    (h : crew c b.task.room sub < crew c b.task.room b.subscriber) :
    measure c { b with subscriber := sub } < b.measure c :=
  measure_lt rfl (.inr ⟨rfl, Nat.add_lt_add_left h _⟩)

/-- The task goes on, and the subscriber gets no more than the task gives it. -/
theorem measure_lt_of_task {t : Mqtt} {sub : Option Subscriber} {given : Nat}
    (hp : t.pending = b.task.pending)
    (ht : (b.task.carries = true ∧ t.carries = false) ∨ (t.carries = b.task.carries ∧
      t.rank c.subscribeRetries.toNat + given + t.room < b.task.rank c.subscribeRetries.toNat))
    (hsub : crew c 0 sub ≤ crew c 0 b.subscriber + given) :
    measure c ⟨t, sub⟩ < b.measure c := by
  refine measure_lt hp (ht.imp_right ?_)
  rintro ⟨hc, hlt⟩
  have h₁ := crew_le c t.room sub
  have h₂ := crew_le c b.task.room b.subscriber
  refine ⟨hc, ?_⟩
  simp only [rank]
  omega

theorem measure_lt_of_turn {t : Mqtt} {q : Mqtt.Request} {r : Mqtt.Reply}
    {sub : Option Subscriber} (h : b.task.Sound) (ht : b.task.Turn q r t)
    (hsub : crew c 0 sub ≤ crew c 0 b.subscriber + q.cost c.subscribeRetries.toNat) :
    measure c ⟨t, sub⟩ < b.measure c :=
  measure_lt_of_task ht.pending_eq (ht.falls h _) hsub

theorem measure_lt_of_alone {t : Mqtt} (hp : t.pending = b.task.pending)
    (ht : t.carries = b.task.carries ∧
      t.rank c.subscribeRetries.toNat + t.room < b.task.rank c.subscribeRetries.toNat) :
    measure c { b with task := t } < b.measure c :=
  measure_lt_of_task hp (.inr ⟨ht.1, by simpa using ht.2⟩) (Nat.le_add_right _ 0)

theorem measure_lt_of_read {t : Mqtt} (hb : b.task.pending.bits ≠ 0) (ht : t.pending.bits = 0) :
    measure c { b with task := t } < b.measure c := by
  rw [measure, measure, Prod.Lex.toLex_lt_toLex]
  left
  have := Bool.toNat_le t.carries
  simp [hb, ht]
  omega

theorem measure_lt_of_fits {r : Mqtt.Reply} (h : b.task.Sound)
    (hf : Mqtt.Fits b.task.request r) : measure c (b.replied r) < b.measure c := by
  cases ha : b.task.announcing with
  | none => exact measure_lt_of_turn h (Mqtt.turn_of_fits ha hf) (Nat.le_add_right _ _)
  | some s =>
    have hr : b.task.resume r = { b.task with announcing := none } := by
      simp only [Mqtt.resume, ha]
    rw [measure, measure, Prod.Lex.toLex_lt_toLex, replied, hr]
    right
    exact ⟨rfl, by simp [ha, rank, Mqtt.rank, Mqtt.room]⟩

theorem Move.falls (h : Sound c b) (hm : Move c b b') : b'.measure c < b.measure c := by
  cases hm with
  | reply hf _ => exact measure_lt_of_fits h.task hf
  | created hq _ => exact measure_lt_of_fits h.task (hq ▸ .create)
  | tellNobody hq _ => exact measure_lt_of_fits h.task (hq ▸ .tell)
  | join hq _ => exact measure_lt_of_fits h.task (hq ▸ .join)
  | prepare hq hs =>
    apply measure_lt_of_crew
    simp [hs, crew, Mqtt.room, Mqtt.point_of_create hq, Subscriber.rank, Subscriber.ofSettings,
      Subscriber.pointRank]
  | notCreated hq _ =>
    exact measure_lt_of_turn h.task (Mqtt.turn_of_request hq nofun .createFailed) (Nat.zero_le _)
  | @tell m s inbox hq hs _ hput =>
    refine measure_lt_of_turn h.task (Mqtt.turn_of_request hq nofun .tell) ?_
    rw [Inbox.eq_put_of_offer hput, hs]
    exact (s.rank_put _ m).le
  | @receive op operations hq htake =>
    have hr := Mqtt.receives_of_request (t := { b.task with operations := operations }) hq op
    exact measure_lt_of_alone hr.pending_eq (hr.falls htake _)
  | @read limit hq hb =>
    have hr := Mqtt.reads_of_wait (t := { b.task with pending := {} }) hq b.task.pending
    exact measure_lt_of_read hb (by rw [hr.pending_eq])
  | expire hq hb =>
    have hr := Mqtt.reads_of_wait hq .empty
    exact measure_lt_of_alone hr.pending_eq (hr.expired _)
  | serve hs _ hf =>
    apply measure_lt_of_crew
    rw [hs]
    exact (Subscriber.turn_of_fits hf).rank_lt (h.subscriber _ hs)
  | @take s m inbox hs _ hq hi =>
    obtain ⟨hp, ht⟩ := Subscriber.takes_of_request (s := { s with inbox := inbox }) hq m
    apply measure_lt_of_crew
    rw [hs]
    exact Subscriber.Takes.rank_lt (s := s) hp hi ht _
  | @report s hs _ hq =>
    obtain ⟨hp, hr⟩ := Subscriber.resume_of_report hq
    have hle := b.task.offer_rank_le .subscribeFailed c.subscribeRetries.toNat
    refine measure_lt rfl (.inr ⟨rfl, ?_⟩)
    simp only [rank, hs, hr, crew, Subscriber.rank, Subscriber.pointRank, hp,
      Mqtt.Operation.weight] at hle ⊢
    omega
  | @leave s hs ht hq =>
    have hroom : b.task.room = 0 := by
      unfold Mqtt.room
      split
      · rename_i hp
        have hsound := h.task
        simp only [Mqtt.Sound, hp] at hsound
        rw [hsound.2.2.1] at ht
        cases ht
      · rfl
    apply measure_lt_of_crew
    rw [hs, hroom]
    exact s.rank_pos _

/-! ## At rest -/

end Broker

namespace Mqtt

theorem request_cases (q : Request) :
    (q.isOuter = true ∧ ∃ r, Fits q r) ∨ q = .create ∨ (∃ m, q = .tell m) ∨ q = .join ∨
      q = .receive ∨ (∃ limit, q = .wait limit) ∨ q = .finished := by
  cases q with
  | proceed => exact .inl ⟨rfl, _, .proceed⟩
  | announce s => exact .inl ⟨rfl, _, .announce⟩
  | bringUp => exact .inl ⟨rfl, _, .bringUp⟩
  | askDefaultReady => exact .inl ⟨rfl, .flag true, .askDefaultReady⟩
  | connect => exact .inl ⟨rfl, _, .connect⟩
  | disconnect => exact .inl ⟨rfl, _, .disconnect⟩
  | delete => exact .inl ⟨rfl, _, .delete⟩
  | tearDown => exact .inl ⟨rfl, _, .tearDown⟩
  | create | tell m | join | receive | wait limit | finished => simp

theorem Sound.subscriber_of_tell {t : Mqtt} (h : t.Sound) {m : SubscriberMessage}
    (hq : t.request = .tell m) : t.subscriber = true := by
  have ht := turn_of_request hq nofun .tell
  generalize t.resume .done = t' at ht
  cases ht with
  | started hp => simp only [Sound, hp] at h; exact h.1.2
  | reconnected hp => simp only [Sound, hp] at h; exact h.1.2.2.2
  | stopTold _ hs => exact hs
  | disconnected _ hq | deleted _ hq | tornDown _ hq => rcases hq with hq | hq <;> cases hq

theorem point_of_join {t : Mqtt} (hq : t.request = .join) :
    ∃ e, t.point = .joiningSubscriber e := by
  have ht := turn_of_request hq nofun .join
  generalize t.resume .done = t' at ht
  cases ht with
  | joined hp => exact ⟨_, hp⟩
  | disconnected _ hq | deleted _ hq | tornDown _ hq => rcases hq with hq | hq <;> cases hq

end Mqtt

namespace Subscriber

theorem request_cases (q : Request) :
    (∃ r, Fits q r) ∨ q = .receive ∨ q = .report ∨ q = .finished := by
  cases q with
  | proceed => exact .inl ⟨_, .proceed⟩
  | sleep ms => exact .inl ⟨_, .sleep⟩
  | subscribe => exact .inl ⟨_, .subscribe⟩
  | unsubscribe => exact .inl ⟨_, .unsubscribe⟩
  | drive on => exact .inl ⟨_, .drive⟩
  | receive | report | finished => simp

end Subscriber

namespace Broker

/-- A running subscriber at rest waits at an empty queue. -/
theorem subscriber_of_rest (hr : AtRest (Move c) b) {s : Subscriber} (hs : b.subscriber = some s)
    (ht : b.task.subscriber = true) : s.point = .receiving ∧ s.inbox.items = [] := by
  rcases Subscriber.request_cases s.request with ⟨r, hf⟩ | hq | hq | hq
  · exact absurd (.serve hs ht hf) (hr _)
  · have hp := (Subscriber.takes_of_request hq .stop).1
    cases hi : s.inbox.take? with
    | none => exact ⟨hp, Inbox.take?_eq_none.mp hi⟩
    | some mi => exact absurd (.take hs ht hq hi) (hr _)
  · exact absurd (.report hs ht hq) (hr _)
  · exact absurd (.leave hs ht hq) (hr _)

theorem rest_cases (h : Sound c b) (hr : AtRest (Move c) b) :
    b.task.request = .finished ∨ (b.task.request = .receive ∧ b.task.operations.items = []) ∨
      (b.task.request = .wait none ∧ b.task.pending.bits = 0) := by
  rcases Mqtt.request_cases b.task.request with
    ⟨ho, r, hf⟩ | hq | ⟨m, hq⟩ | hq | hq | ⟨limit, hq⟩ | hq
  · exact absurd (.reply hf ho) (hr _)
  · cases hs : b.subscriber with
    | none => exact absurd (.prepare hq hs) (hr _)
    | some s => exact absurd (.created hq (by rw [hs]; rfl)) (hr _)
  · -- the subscriber waits for the very message
    cases hs : b.subscriber with
    | none => exact absurd (.tellNobody hq (by simp [hs])) (hr _)
    | some s =>
      obtain ⟨hp, hitems⟩ := subscriber_of_rest hr hs (h.task.subscriber_of_tell hq)
      have ho := (h.subscriber s hs).1
      have hput : s.inbox.offer s.isReceiving m = some (s.inbox.put m) := by
        simp [Inbox.offer, Inbox.accepts, Inbox.hasRoom, Subscriber.isReceiving, ho, hp, hitems]
      exact absurd (.tell hq hs ho hput) (hr _)
  · cases hs : b.subscriber with
    | none => exact absurd (.join hq hs) (hr _)
    | some s =>
      obtain ⟨e, hpt⟩ := Mqtt.point_of_join hq
      have ht : b.task.subscriber = true := by
        rw [← Bool.not_eq_false]
        intro hf
        rw [h.nobody hf (by simp [hpt])] at hs
        cases hs
      obtain ⟨hp, hitems⟩ := subscriber_of_rest hr hs ht
      have htold := h.told e s hpt hs
      simp [Subscriber.IsTold, hp, hitems] at htold
  · refine .inr (.inl ⟨hq, ?_⟩)
    cases hi : b.task.operations.take? with
    | none => exact Inbox.take?_eq_none.mp hi
    | some oi => exact absurd (.receive hq hi) (hr _)
  · by_cases hb : b.task.pending.bits = 0
    · cases limit with
      | none => exact .inr (.inr ⟨hq, hb⟩)
      | some ms => exact absurd (.expire hq hb) (hr _)
    · exact absurd (.read hq hb) (hr _)
  · exact .inl hq

end Broker

end EdgeGateway
