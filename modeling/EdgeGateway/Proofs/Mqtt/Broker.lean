import EdgeGateway.Boot
import EdgeGateway.Proofs.Mqtt.Sound
import EdgeGateway.Proofs.Mqtt.Subscriber
import EdgeGateway.Proofs.Rest

/-!
# EdgeGateway.Proofs.Mqtt.Broker

The broker task with the subscriber of its client, in surroundings that always answer.

* `Broker`       : the two as they stand.
* `Broker.Move`  : one of them goes on.
* `Broker.Event` : a command is delivered, or the client reports a lost broker or a message.
* `Broker.Sound` : what holds from the start.
-/

namespace EdgeGateway

namespace Mqtt

/-- Something from outside answers, and not the subscriber or the client's set-up. -/
def Request.isOuter : Request → Bool
  | .create | .tell _ | .join => false
  | _ => true

/-- All the ways a broker task goes on. -/
inductive Goes (t : Mqtt) : Mqtt → Prop where
  | same : Goes t t
  | heard {s : Status} : t.announcing = some s → Goes t { t with announcing := none }
  | turned {r : Reply} {t' : Mqtt} : t.announcing = none → Turn t t.request r t' → Goes t t'
  | received {op : Operation} {operations : Inbox Operation} {t' : Mqtt} :
      t.announcing = none → t.operations.take? = some (op, operations) →
      Receives { t with operations } op t' → Goes t t'
  | read {limit : Option Nat} {t' : Mqtt} : t.announcing = none → t.pending.bits ≠ 0 →
      Reads { t with pending := {} } t.pending limit t' → Goes t t'
  | expired {ms : Nat} {t' : Mqtt} : t.announcing = none → t.pending.bits = 0 →
      Reads t .empty (some ms) t' → Goes t t'
  | reported : Goes t (t.offer .subscribeFailed)

theorem goes_of_fits {t : Mqtt} {r : Reply} (h : Fits t.request r) : Goes t (t.resume r) := by
  cases ha : t.announcing with
  | none => exact .turned ha (turn_of_fits ha h)
  | some s =>
    have hr : t.resume r = { t with announcing := none } := by simp only [resume, ha]
    rw [hr]
    exact .heard ha

theorem Sound.taken {t : Mqtt} {operations : Inbox Operation} (h : t.Sound)
    (hp : t.point = .receiving) : Sound { t with operations } := by
  simp only [Sound, hp] at h ⊢
  exact h

theorem Goes.sound {t t' : Mqtt} (h : t.Sound) (hg : t.Goes t') : t'.Sound := by
  cases hg with
  | same => exact h
  | heard _ => exact h.heard
  | turned _ ht => exact ht.sound h
  | received _ _ hr => exact hr.sound (h.taken hr.point_eq)
  | read _ _ hr => exact hr.sound (show Sound { t with pending := {} } from h)
  | expired _ _ hr => exact hr.sound h
  | reported => exact h.offer nofun

/-! ### The subscriber comes with the client instance and goes with the join -/

theorem Turn.subscriber_eq {t t' : Mqtt} {q : Request} {r : Reply} (ht : Turn t q r t')
    (hc : q ≠ .create) (hj : q ≠ .join) : t'.subscriber = t.subscriber := by
  cases ht with
  | created _ => exact absurd rfl hc
  | joined _ => exact absurd rfl hj
  | _ => simp [goto, withDeferred]

theorem Turn.request_of_creating {t t' : Mqtt} {q : Request} {r : Reply} (ht : Turn t q r t')
    (hp : t.point = .creating) : q = .create := by
  cases ht <;> simp_all

theorem Turn.request_of_joining {t t' : Mqtt} {q : Request} {r : Reply} {e : Ending}
    (ht : Turn t q r t') (hp : t'.point = .joiningSubscriber e) : q = .tell .stop := by
  cases ht with
  | stopTold _ _ => rfl
  | acted _ _ hacts => cases hacts <;> cases hp
  | prepared _ =>
    dsimp only at hp
    split at hp
    · cases hp
    · split at hp <;> cases hp
  | broughtUp _ =>
    dsimp only at hp
    split at hp <;> cases hp
  | _ => simp [goto, withDeferred] at hp

theorem Reads.stays {t t' : Mqtt} {cs : Commands} {limit : Option Nat}
    (hr : Reads t cs limit t') : t'.subscriber = t.subscriber ∧ t.point ≠ .creating ∧
      ∀ e, t'.point ≠ .joiningSubscriber e := by
  cases hr with
  | acted hp _ hacts => cases hacts <;> simp [goto, hp]
  | abort hp _ | defer hp _ _ _ | retry hp _ _ => simp [goto, hp]

theorem Receives.stays {t t' : Mqtt} {op : Operation} (hr : Receives t op t') :
    t'.subscriber = t.subscriber ∧ t.point ≠ .creating ∧
      ∀ e, t'.point ≠ .joiningSubscriber e := by
  cases hr with
  | disconnected hp => cases hc : t.connected <;> simp [goto, hp]
  | subscribeFailed hp | exitLoop hp => simp [goto, hp]

theorem Goes.subscriber_eq {t t' : Mqtt} (hg : t.Goes t') (hc : t.request ≠ .create)
    (hj : t.request ≠ .join) : t'.subscriber = t.subscriber := by
  cases hg with
  | same | heard _ | reported => rfl
  | turned _ ht => exact ht.subscriber_eq hc hj
  | received _ _ hr => exact hr.stays.1
  | read _ _ hr => exact hr.stays.1
  | expired _ _ hr => exact hr.stays.1

theorem Goes.creating {t t' : Mqtt} (hg : t.Goes t') (hc : t.request ≠ .create)
    (hp : t.point = .creating) : t'.point = .creating := by
  cases hg with
  | same | heard _ | reported => exact hp
  | turned _ ht => exact absurd (ht.request_of_creating hp) hc
  | received _ _ hr => exact absurd hp hr.stays.2.1
  | read _ _ hr => exact absurd hp hr.stays.2.1
  | expired _ _ hr => exact absurd hp hr.stays.2.1

theorem Goes.joining {t t' : Mqtt} (hg : t.Goes t') {e : Ending}
    (hp : t'.point = .joiningSubscriber e) :
    t.point = .joiningSubscriber e ∨ t.request = .tell .stop := by
  cases hg with
  | same | heard _ | reported => exact .inl hp
  | turned _ ht => exact .inr (ht.request_of_joining hp)
  | received _ _ hr => exact absurd hp (hr.stays.2.2 e)
  | read _ _ hr => exact absurd hp (hr.stays.2.2 e)
  | expired _ _ hr => exact absurd hp (hr.stays.2.2 e)

end Mqtt

structure Broker where
  task : Mqtt
  subscriber : Option Subscriber := none

namespace Broker

def replied (b : Broker) (r : Mqtt.Reply) : Broker := { b with task := b.task.resume r }

def notify (b : Broker) (c : Command) : Broker := { b with task := b.task.notify c }

/-- The subscriber runs from the end of the client's creation to the task's join. -/
inductive Move (c : MqttSettings) : Broker → Broker → Prop where
  | reply {b : Broker} {r : Mqtt.Reply} : Mqtt.Fits b.task.request r →
      b.task.request.isOuter = true → Move c b (b.replied r)
  | prepare {b : Broker} : b.task.request = .create → b.subscriber = none →
      Move c b { b with subscriber := some (.ofSettings c) }
  | created {b : Broker} : b.task.request = .create → b.subscriber.isSome = true →
      Move c b (b.replied .done)
  | notCreated {b : Broker} : b.task.request = .create → b.subscriber.isSome = true →
      Move c b ⟨b.task.resume .failed, none⟩
  | tell {b : Broker} {m : SubscriberMessage} {s : Subscriber}
      {inbox : Inbox SubscriberMessage} : b.task.request = .tell m → b.subscriber = some s →
      s.inbox.isOpen = true → s.inbox.offer s.isReceiving m = some inbox →
      Move c b ⟨b.task.resume .done, some { s with inbox }⟩
  | tellNobody {b : Broker} {m : SubscriberMessage} : b.task.request = .tell m →
      (∀ s, b.subscriber = some s → s.inbox.isOpen = false) → Move c b (b.replied .done)
  | join {b : Broker} : b.task.request = .join → b.subscriber = none →
      Move c b (b.replied .done)
  | receive {b : Broker} {op : Mqtt.Operation} {operations : Inbox Mqtt.Operation} :
      b.task.request = .receive → b.task.operations.take? = some (op, operations) →
      Move c b { b with task := { b.task with operations }.resume (.operation op) }
  | read {b : Broker} {limit : Option Nat} : b.task.request = .wait limit →
      b.task.pending.bits ≠ 0 →
      Move c b { b with task := { b.task with pending := {} }.resume (.commands b.task.pending) }
  | expire {b : Broker} {ms : Nat} : b.task.request = .wait (some ms) →
      b.task.pending.bits = 0 → Move c b (b.replied (.commands .empty))
  | serve {b : Broker} {s : Subscriber} {r : Subscriber.Reply} : b.subscriber = some s →
      b.task.subscriber = true → Subscriber.Fits s.request r →
      Move c b { b with subscriber := some (s.resume r) }
  | take {b : Broker} {s : Subscriber} {m : SubscriberMessage}
      {inbox : Inbox SubscriberMessage} : b.subscriber = some s → b.task.subscriber = true →
      s.request = .receive → s.inbox.take? = some (m, inbox) →
      Move c b { b with subscriber := some ({ s with inbox }.resume (.message m)) }
  | report {b : Broker} {s : Subscriber} : b.subscriber = some s → b.task.subscriber = true →
      s.request = .report →
      Move c b ⟨b.task.offer .subscribeFailed, some (s.resume .done)⟩
  | leave {b : Broker} {s : Subscriber} : b.subscriber = some s → b.task.subscriber = true →
      s.request = .finished → Move c b { b with subscriber := none }

inductive Event : Broker → Broker → Prop where
  | command {b : Broker} (c : Command) : Event b (b.notify c)
  | lost {b : Broker} : Event b { b with task := b.task.offer .disconnected }
  | message {b : Broker} (payload : Bytes) : Event b { b with
      subscriber := b.subscriber.map fun s =>
        { s with inbox := s.inbox.offerOrDrop s.isReceiving (.message payload) } }

inductive Step (c : MqttSettings) : Broker → Broker → Prop where
  | move {b b' : Broker} : Move c b b' → Step c b b'
  | event {b b' : Broker} : Event b b' → Step c b b'

def Reachable (c : MqttSettings) (b : Broker) : Prop :=
  Relation.ReflTransGen (Step c) { task := .ofSettings c } b

variable {c : MqttSettings} {b b' : Broker}

/-- A move of the broker moves its task in one of the task's ways, if at all. -/
theorem Move.goes (h : Move c b b') : b.task.Goes b'.task := by
  cases h with
  | reply hf _ => exact Mqtt.goes_of_fits hf
  | created hq _ => exact Mqtt.goes_of_fits (hq ▸ .create)
  | notCreated hq _ => exact Mqtt.goes_of_fits (hq ▸ .createFailed)
  | tell hq _ _ _ | tellNobody hq _ => exact Mqtt.goes_of_fits (hq ▸ .tell)
  | join hq _ => exact Mqtt.goes_of_fits (hq ▸ .join)
  | @receive op operations hq htake =>
    exact .received (Mqtt.announcing_of_receive hq) htake
      (Mqtt.receives_of_request (t := { b.task with operations := operations }) hq op)
  | read hq hb =>
    exact .read (Mqtt.announcing_of_wait hq) hb
      (Mqtt.reads_of_wait (t := { b.task with pending := {} }) hq _)
  | expire hq hb => exact .expired (Mqtt.announcing_of_wait hq) hb (Mqtt.reads_of_wait hq _)
  | report _ _ _ => exact .reported
  | prepare _ _ | serve _ _ _ | take _ _ _ _ | leave _ _ _ => exact .same

/-! ## What holds from the start -/

structure Sound (c : MqttSettings) (b : Broker) : Prop where
  task : b.task.Sound
  subscriber : ∀ s, b.subscriber = some s → s.Sound c
  nobody : b.task.subscriber = false → b.task.point ≠ .creating → b.subscriber = none
  told : ∀ e s, b.task.point = .joiningSubscriber e → b.subscriber = some s → s.IsTold

namespace Sound

theorem start (c : MqttSettings) : Sound c { task := .ofSettings c } where
  task := ⟨⟨rfl, rfl, rfl, rfl⟩, nofun, Commands.isEmpty_default⟩
  subscriber := nofun
  nobody _ _ := rfl
  told := nofun

/-- The task goes on by itself. -/
theorem goes (h : Sound c b) {t : Mqtt} (hg : b.task.Goes t) (hc : b.task.request ≠ .create)
    (hj : b.task.request ≠ .join) (ht : b.task.request ≠ .tell .stop) :
    Sound c { b with task := t } where
  task := hg.sound h.task
  subscriber := h.subscriber
  nobody hs hp := h.nobody (by rwa [← hg.subscriber_eq hc hj]) fun hp' => hp (hg.creating hc hp')
  told e s hp := h.told e s ((hg.joining hp).resolve_right ht)

/-- Only the subscriber goes on. -/
theorem turned (h : Sound c b) {s s' : Subscriber} (hs : b.subscriber = some s)
    (hsound : s.Sound c → s'.Sound c) (htold : s.IsTold → s'.IsTold) :
    Sound c { b with subscriber := some s' } where
  task := h.task
  subscriber := by rintro _ ⟨⟩; exact hsound (h.subscriber s hs)
  nobody ht hp := by rw [h.nobody ht hp] at hs; cases hs
  told e _ hp := by rintro ⟨⟩; exact htold (h.told e s hp hs)

theorem move (h : Sound c b) (hm : Move c b b') : Sound c b' := by
  have hg := hm.goes
  cases hm with
  | reply hf ho =>
    refine h.goes hg ?_ ?_ ?_ <;> (intro hq; rw [hq] at ho; cases ho)
  | prepare hq hs =>
    have hp := Mqtt.point_of_create hq
    refine ⟨h.task, ?_, fun _ hp' => absurd hp hp', fun e s hp' => ?_⟩
    · rintro _ ⟨⟩
      exact ⟨rfl, rfl, trivial⟩
    · rw [hp] at hp'; cases hp'
  | created hq hs =>
    have hr := Mqtt.resume_of_create hq
    rw [replied] at hg ⊢
    exact ⟨hg.sound h.task, h.subscriber, by simp [hr], by simp [hr]⟩
  | notCreated hq hs =>
    exact ⟨hg.sound h.task, nofun, fun _ _ => rfl, nofun⟩
  | @tell m s inbox hq hs ho hput =>
    have hi := Inbox.eq_put_of_offer hput
    subst hi
    refine ⟨hg.sound h.task, ?_, fun hs' hp => ?_, fun e _ hp => ?_⟩
    · rintro _ ⟨⟩
      exact (h.subscriber s hs).put m
    · rw [hg.subscriber_eq (by simp [hq]) (by simp [hq])] at hs'
      rw [h.nobody hs' fun hp' => hp (hg.creating (by simp [hq]) hp')] at hs
      cases hs
    · rintro ⟨⟩
      rcases hg.joining hp with hp' | hq'
      · exact (h.told e s hp' hs).put m
      · rw [hq, Mqtt.Request.tell.injEq] at hq'
        subst hq'
        exact s.isTold_put_stop
  | tellNobody hq hclosed =>
    have hnone : b.subscriber = none := by
      cases hs : b.subscriber with
      | none => rfl
      | some s => exact absurd (hclosed s hs) (by simp [(h.subscriber s hs).1])
    exact ⟨hg.sound h.task, h.subscriber, fun _ _ => hnone, fun e s _ hs => by
      rw [show b.subscriber = some s from hs] at hnone; cases hnone⟩
  | join hq hs =>
    exact ⟨hg.sound h.task, h.subscriber, fun _ _ => hs, fun e s _ hs' => by
      rw [show b.subscriber = some s from hs'] at hs; cases hs⟩
  | receive hq _ => exact h.goes hg (by simp [hq]) (by simp [hq]) (by simp [hq])
  | read hq _ | expire hq _ => exact h.goes hg (by simp [hq]) (by simp [hq]) (by simp [hq])
  | serve hs _ hf =>
    have ht := Subscriber.turn_of_fits hf
    exact h.turned hs ht.sound ht.isTold
  | @take s m inbox hs _ hq hi =>
    obtain ⟨hp, ht⟩ := Subscriber.takes_of_request (s := { s with inbox := inbox }) hq m
    exact h.turned hs (fun hsound => ht.sound (hsound.taken hi)) fun htold => ht.isTold htold hp hi
  | @report s hs _ hq =>
    obtain ⟨hp, hr⟩ := Subscriber.resume_of_report hq
    rw [hr]
    refine ⟨hg.sound h.task, ?_, fun ht hp' => ?_, fun e _ hp' => ?_⟩
    · rintro _ ⟨⟩
      exact ⟨(h.subscriber s hs).1, (h.subscriber s hs).2.1, trivial⟩
    · rw [h.nobody ht hp'] at hs; cases hs
    · rintro ⟨⟩
      exact .inl ((h.told e s hp' hs).resolve_right (by simp [hp]))
  | leave hs _ hq => exact ⟨h.task, nofun, fun _ _ => rfl, nofun⟩

theorem event (h : Sound c b) (he : Event b b') : Sound c b' := by
  cases he with
  | command cmd =>
    exact ⟨h.task.notify cmd, h.subscriber, by simpa [notify] using h.nobody,
      by simpa [notify] using h.told⟩
  | lost => exact ⟨h.task.offer nofun, h.subscriber, h.nobody, h.told⟩
  | message payload =>
    refine ⟨h.task, fun s' hs' => ?_, fun ht hp => ?_, fun e s' hp hs' => ?_⟩
    · obtain ⟨s, hs, rfl⟩ := Option.map_eq_some_iff.mp hs'
      exact (h.subscriber s hs).offerOrDrop
    · simp [h.nobody ht hp]
    · obtain ⟨s, hs, rfl⟩ := Option.map_eq_some_iff.mp hs'
      exact (h.told e s hp hs).offerOrDrop

theorem step (h : Sound c b) (hs : Step c b b') : Sound c b' := by
  cases hs with
  | move hm => exact h.move hm
  | event he => exact h.event he

theorem steps (h : Sound c b) (hs : Relation.ReflTransGen (Step c) b b') : Sound c b' := by
  induction hs with
  | refl => exact h
  | tail _ hs ih => exact ih.step hs

end Sound

end Broker

end EdgeGateway
