import EdgeGateway.Proofs.Call
import EdgeGateway.Proofs.Mqtt.Calls
import EdgeGateway.Proofs.Threads

/-!
# EdgeGateway.Proofs.Mqtt.Thread

The broker task's thread and the subscriber's in the gateway: whatever they do on their own, and
whatever they get for a call, is a move of `Broker`, and they are blocked only where `Broker` has
no move for them. What the move shows to the client is the call the thread makes
(`Call.client?`), and the client is at one call at a time (`Call.lock_of_client`).
-/

namespace EdgeGateway

/-- A call of the client library as the client counts it. -/
def Call.client? : Call → Option ClientCall
  | .clientBringUp => some .bringUp
  | .clientCreate .. => some .create
  | .clientConnect .. => some .connect
  | .clientDisconnect => some .disconnect
  | .clientDelete => some .delete
  | .clientTearDown => some .tearDown
  | .clientSubscribe .. => some .subscribe
  | .clientUnsubscribe .. => some .unsubscribe
  | _ => none

theorem Call.lock_of_client {c : Call} {call : ClientCall} (h : c.client? = some call) :
    c.lock? = some .client := by
  cases c <;> first | rfl | cases h

namespace System

def broker? (s : System) : Option Broker := s.mqtt.map fun task => ⟨task, s.subscriber⟩

variable {s s' : System} {t : Thread} {task : Mqtt}

/-- What the broker task does on its own. -/
theorem broker_of_mqttIntent (hi : s.mqttIntent t task = .proceed s')
    (hq : task.request ≠ .finished) :
    ∃ b', s'.broker? = some b' ∧
      Broker.Shows s.settings.mqtt ⟨task, s.subscriber⟩ none b' := by
  cases hr : task.request with
  | proceed =>
    simp only [mqttIntent, hr, Intent.proceed.injEq] at hi
    subst hi
    exact ⟨_, rfl, .plain (hr ▸ .proceed) (hr ▸ rfl) (hr ▸ rfl)⟩
  | announce status =>
    simp only [mqttIntent, hr] at hi
    cases eq_of_announce_proceed hi
    exact ⟨_, rfl, .plain (r := .done) (hr ▸ .announce) (hr ▸ rfl) (hr ▸ rfl)⟩
  | askDefaultReady =>
    simp only [mqttIntent, hr, Intent.proceed.injEq] at hi
    subst hi
    exact ⟨_, rfl, .plain (hr ▸ .askDefaultReady) (hr ▸ rfl) (hr ▸ rfl)⟩
  | tell m =>
    simp only [mqttIntent, hr] at hi
    split at hi
    · rename_i hs
      cases hi
      refine ⟨_, rfl, .tellNobody hr ?_⟩
      rintro b hb
      cases hs.symm.trans hb
    · rename_i b hs
      split at hi
      · rename_i ho
        cases hi
        refine ⟨_, rfl, .tellNobody hr ?_⟩
        rintro b' hb'
        cases hs.symm.trans hb'
        simpa using ho
      · rename_i ho
        split at hi <;> cases hi
        rename_i hput
        exact ⟨_, rfl, .tell hr hs (by simpa using ho) hput⟩
  | receive =>
    simp only [mqttIntent, hr] at hi
    split at hi <;> cases hi
    exact ⟨_, rfl, .receive hr ‹_›⟩
  | join =>
    simp only [mqttIntent, hr] at hi
    split at hi <;> cases hi
    rename_i hs
    exact ⟨_, rfl, .join hr (by simpa using hs)⟩
  | wait limit =>
    simp only [mqttIntent, hr] at hi
    split at hi
    · rename_i hb
      cases hi
      exact ⟨_, rfl, .read hr hb⟩
    · rename_i hb
      split at hi <;> cases hi
      rename_i hl
      exact ⟨_, rfl, .expire (hl ▸ hr) (by simpa using hb)⟩
  | finished => exact absurd hr hq
  | bringUp | create | connect | disconnect | delete | tearDown => simp [mqttIntent, hr] at hi

/-- A call of the task begins. The calls to listeners are not the client's. -/
theorem broker_of_enterCall {c : Call} (hm : s.mqtt = some task)
    (hi : s.mqttIntent t task = .call c) (hn : task.request = .create → s.subscriber = none) :
    ∃ b', (s.enterCall t c).broker? = some b' ∧
      match c.client? with
      | some call =>
        Broker.Shows s.settings.mqtt ⟨task, s.subscriber⟩ (some (.began call)) b'
      | none => b' = ⟨task, s.subscriber⟩ := by
  have same (h : ∀ host port tls, c ≠ .clientCreate host port tls) :
      (s.enterCall t c).broker? = some ⟨task, s.subscriber⟩ := by
    unfold enterCall
    dsimp only
    split
    · exact absurd rfl (h _ _ _)
    · simp [broker?, setThread, hm]
    · simp [broker?, setThread, hm]
  cases hr : task.request with
  | create =>
    simp only [mqttIntent, hr, Intent.call.injEq] at hi
    subst hi
    refine ⟨_, ?_, .prepare hr (hn hr)⟩
    simp [enterCall, broker?, setThread, hm]
  | announce status =>
    simp only [mqttIntent, hr] at hi
    cases eq_of_announce_call hi
    exact ⟨_, same (by simp), rfl⟩
  | bringUp | connect | disconnect | delete | tearDown =>
    simp only [mqttIntent, hr, Intent.call.injEq] at hi
    subst hi
    exact ⟨_, same (by simp), .began (hr ▸ rfl) (hr ▸ rfl)⟩
  | tell m =>
    simp only [mqttIntent, hr] at hi
    (repeat' split at hi) <;> cases hi
  | receive | join =>
    simp only [mqttIntent, hr] at hi
    split at hi <;> cases hi
  | wait limit =>
    simp only [mqttIntent, hr] at hi
    (repeat' split at hi) <;> cases hi
  | proceed | askDefaultReady | finished => simp [mqttIntent, hr] at hi

theorem mqttReply_eq_done (a : Answer) :
    decide (mqttReply (.answer a) = .done) = a.succeeded := by
  cases a <;> rfl

theorem subscriberReply_eq_done (a : Answer) :
    decide (subscriberReply (.answer a) = .done) = a.succeeded := by
  cases a <;> rfl

/-- The answer to a call that is not a listener's. -/
theorem mqtt_fits_of_answer {c : Call} (hi : s.mqttIntent t task = .call c)
    (ha : task.announcing = none) {a : Answer} (hb : c.Brings a) :
    Mqtt.Fits task.request (mqttReply (.answer a)) := by
  cases hr : task.request with
  | announce status =>
    cases hp : task.point <;> simp only [Mqtt.request, ha, hp] at hr <;>
      first | cases hr | (split at hr <;> cases hr)
  | bringUp | create | connect | disconnect | delete | tearDown =>
    simp only [mqttIntent, hr, Intent.call.injEq] at hi
    subst hi
    rcases hb with hdone | ⟨-, f, rfl⟩
    · cases hdone
      constructor
    · constructor
  | tell m =>
    simp only [mqttIntent, hr] at hi
    (repeat' split at hi) <;> cases hi
  | receive | join =>
    simp only [mqttIntent, hr] at hi
    split at hi <;> cases hi
  | wait limit =>
    simp only [mqttIntent, hr] at hi
    (repeat' split at hi) <;> cases hi
  | proceed | askDefaultReady | finished => simp [mqttIntent, hr] at hi

/-- What the broker task does with the answer to a call that is not a listener's. -/
theorem broker_of_answer {c : Call} (hrole : t.role = .mqtt) (hm : s.mqtt = some task)
    (hi : s.mqttIntent t task = .call c) (ha : task.announcing = none) {a : Answer}
    (hb : c.Brings a) (hs : task.request = .create → s.subscriber.isSome = true) :
    ∃ b' call, (s.complete t (.answer a)).broker? = some b' ∧ c.client? = some call ∧
      Broker.Shows s.settings.mqtt ⟨task, s.subscriber⟩ (some (.ended call a.succeeded)) b' := by
  have plain (hp : task.point ≠ .creating) : (s.complete t (.answer a)).broker? =
      some ⟨task.resume (mqttReply (.answer a)), s.subscriber⟩ := by
    simp only [complete, hrole, hm, ha, Option.isSome_none, Bool.false_eq_true, if_false]
    split
    · exact absurd ‹_› hp
    · exact absurd ‹_› hp
    · rfl
  have point {q : Mqtt.Request} (hr : task.request = q) (hq : q ≠ .create) :
      task.point ≠ .creating := by
    intro hp
    exact hq (by rw [← hr, Mqtt.request, ha, hp])
  have reply {q : Mqtt.Request} {call : ClientCall} (hr : task.request = q) (hq : q ≠ .create)
      (ho : q.isOuter = true) (hcall : q.call? = some call)
      (hf : Mqtt.Fits task.request (mqttReply (.answer a))) :
      ∃ b', (s.complete t (.answer a)).broker? = some b' ∧ Broker.Shows s.settings.mqtt
        ⟨task, s.subscriber⟩ (some (.ended call a.succeeded)) b' := by
    refine ⟨_, plain (point hr hq), ?_⟩
    rw [← mqttReply_eq_done]
    exact .ended hf (hr ▸ ho) (hr ▸ hcall)
  cases hr : task.request with
  | create =>
    have hp := Mqtt.point_of_create hr
    have hsome := hs hr
    simp only [mqttIntent, hr, Intent.call.injEq] at hi
    subst hi
    rcases hb with hdone | ⟨-, f, rfl⟩
    · cases hdone
      refine ⟨_, .create, ?_, rfl, .created hr hsome⟩
      simp [complete, hrole, hm, ha, hp, broker?, spawn, mqttReply, Broker.replied]
    · refine ⟨_, .create, ?_, rfl, .notCreated hr hsome⟩
      simp [complete, hrole, hm, ha, hp, broker?, mqttReply]
  | announce status =>
    cases hp : task.point <;> simp only [Mqtt.request, ha, hp] at hr <;>
      first | cases hr | (split at hr <;> cases hr)
  | bringUp | connect | disconnect | delete | tearDown =>
    have hf := mqtt_fits_of_answer hi ha hb
    simp only [mqttIntent, hr, Intent.call.injEq] at hi
    subst hi
    obtain ⟨b', hb', hshows⟩ := reply hr (by simp) rfl rfl hf
    exact ⟨b', _, hb', rfl, hshows⟩
  | tell m =>
    simp only [mqttIntent, hr] at hi
    (repeat' split at hi) <;> cases hi
  | receive | join =>
    simp only [mqttIntent, hr] at hi
    split at hi <;> cases hi
  | wait limit =>
    simp only [mqttIntent, hr] at hi
    (repeat' split at hi) <;> cases hi
  | proceed | askDefaultReady | finished => simp [mqttIntent, hr] at hi

/-- The broker task is blocked at an empty queue, at a full one of its subscriber, at its join,
or in a wait that nothing has come for. -/
theorem mqtt_waits (hi : s.mqttIntent t task = .wait) :
    (task.request = .receive ∧ task.operations.items = []) ∨
    (∃ m b, task.request = .tell m ∧ s.subscriber = some b ∧
      b.inbox.offer b.isReceiving m = none) ∨
    (task.request = .join ∧ s.subscriber.isSome = true) ∨
    ∃ limit, task.request = .wait limit ∧ task.pending.bits = 0 := by
  cases hr : task.request with
  | tell m =>
    simp only [mqttIntent, hr] at hi
    split at hi
    · cases hi
    · rename_i b hs
      (repeat' split at hi) <;> cases hi
      exact .inr (.inl ⟨m, b, rfl, hs, ‹_›⟩)
  | receive =>
    simp only [mqttIntent, hr] at hi
    split at hi <;> cases hi
    exact .inl ⟨rfl, Inbox.take?_eq_none.mp ‹_›⟩
  | join =>
    simp only [mqttIntent, hr] at hi
    split at hi <;> cases hi
    exact .inr (.inr (.inl ⟨rfl, ‹_›⟩))
  | wait limit =>
    simp only [mqttIntent, hr] at hi
    split at hi
    · cases hi
    · rename_i hb
      exact .inr (.inr (.inr ⟨limit, rfl, by simpa using hb⟩))
  | announce status =>
    simp only [mqttIntent, hr] at hi
    exact absurd hi announce_ne_wait
  | proceed | bringUp | create | askDefaultReady | connect | disconnect | delete | tearDown
  | finished => simp [mqttIntent, hr] at hi

/-! ## The subscriber -/

variable {b : Subscriber}

/-- What the subscriber does on its own, once its client has been created. Its end is shown. -/
theorem broker_of_subscriberIntent (hm : s.mqtt = some task) (hs : s.subscriber = some b)
    (ht : task.subscriber = true) (hi : s.subscriberIntent t b = .proceed s') :
    ∃ b', s'.broker? = some b' ∧ Broker.Shows s.settings.mqtt ⟨task, s.subscriber⟩
      (if b.request = .finished then some .left else none) b' := by
  cases hr : b.request with
  | proceed =>
    simp only [subscriberIntent, hr, Intent.proceed.injEq] at hi
    subst hi
    exact ⟨⟨task, some (b.resume .done)⟩, by simp [broker?, hm],
      .servedPlain hs ht (hr ▸ .proceed) (hr ▸ rfl)⟩
  | receive =>
    simp only [subscriberIntent, hr] at hi
    split at hi <;> cases hi
    rename_i m inbox htake
    exact ⟨⟨task, some ({ b with inbox }.resume (.message m))⟩, by simp [broker?, hm],
      .take hs ht hr htake⟩
  | report =>
    simp only [subscriberIntent, hr, Intent.proceed.injEq] at hi
    subst hi
    exact ⟨⟨task.offer .subscribeFailed, some (b.resume .done)⟩, by simp [broker?, hm],
      .report hs ht hr⟩
  | drive on =>
    simp only [subscriberIntent, hr] at hi
    (repeat' split at hi) <;> cases hi
    exact ⟨⟨task, some (b.resume .done)⟩, by simp [broker?, hm],
      .servedPlain hs ht (hr ▸ .drive) (hr ▸ rfl)⟩
  | finished =>
    simp only [subscriberIntent, hr, Intent.proceed.injEq] at hi
    subst hi
    exact ⟨⟨task, none⟩, by simp [broker?, endThread, hm], .leave hs ht hr⟩
  | sleep ms | subscribe | unsubscribe => simp [subscriberIntent, hr] at hi

/-- A call of the subscriber begins. It pauses and drives the output without the client. -/
theorem broker_of_subscriber_enterCall {c : Call} (hm : s.mqtt = some task)
    (hs : s.subscriber = some b) (ht : task.subscriber = true)
    (hi : s.subscriberIntent t b = .call c) :
    (s.enterCall t c).broker? = some ⟨task, s.subscriber⟩ ∧ ∀ call, c.client? = some call →
      Broker.Shows s.settings.mqtt ⟨task, s.subscriber⟩ (some (.began call))
        ⟨task, s.subscriber⟩ := by
  cases hr : b.request with
  | subscribe | unsubscribe =>
    simp only [subscriberIntent, hr, Intent.call.injEq] at hi
    subst hi
    refine ⟨by simp [enterCall, broker?, setThread, hm], ?_⟩
    rintro _ ⟨⟩
    exact .serviceBegan hs ht (hr ▸ rfl)
  | sleep ms =>
    simp only [subscriberIntent, hr, Intent.call.injEq] at hi
    subst hi
    exact ⟨by simp [enterCall, broker?, setThread, hm], by rintro _ ⟨⟩⟩
  | drive on =>
    simp only [subscriberIntent, hr] at hi
    (repeat' split at hi) <;> cases hi
    exact ⟨by simp [enterCall, broker?, setThread, hm], by rintro _ ⟨⟩⟩
  | receive =>
    simp only [subscriberIntent, hr] at hi
    split at hi <;> cases hi
  | proceed | report | finished => simp [subscriberIntent, hr] at hi

/-- What it does with the answer to a call. -/
theorem broker_of_subscriber_answer {c : Call} (hrole : t.role = .subscriber)
    (hm : s.mqtt = some task) (hs : s.subscriber = some b) (ht : task.subscriber = true)
    (hi : s.subscriberIntent t b = .call c) {a : Answer} (hb : c.Brings a) :
    ∃ b', (s.complete t (.answer a)).broker? = some b' ∧
      Broker.Shows s.settings.mqtt ⟨task, s.subscriber⟩
        (c.client?.map (.ended · a.succeeded)) b' := by
  have hview : (s.complete t (.answer a)).broker? =
      some ⟨task, some (b.resume (subscriberReply (.answer a)))⟩ := by
    simp [complete, hrole, broker?, hm, hs]
  have plain (hf : Subscriber.Fits b.request (subscriberReply (.answer a)))
      (hcall : b.request.call? = none) : Broker.Shows s.settings.mqtt ⟨task, s.subscriber⟩ none
        ⟨task, some (b.resume (subscriberReply (.answer a)))⟩ := .servedPlain hs ht hf hcall
  have served {call : ClientCall} (hf : Subscriber.Fits b.request (subscriberReply (.answer a)))
      (hcall : b.request.call? = some call) : Broker.Shows s.settings.mqtt
        ⟨task, s.subscriber⟩ (some (.ended call a.succeeded))
        ⟨task, some (b.resume (subscriberReply (.answer a)))⟩ := by
    rw [← subscriberReply_eq_done]
    exact .serviceEnded hs ht hf hcall
  refine ⟨_, hview, ?_⟩
  cases hr : b.request with
  | sleep ms =>
    simp only [subscriberIntent, hr, Intent.call.injEq] at hi
    subst hi
    rcases hb with hdone | ⟨hf, -⟩
    · cases hdone
      exact plain (hr ▸ .sleep) (hr ▸ rfl)
    · cases hf
  | subscribe | unsubscribe =>
    simp only [subscriberIntent, hr, Intent.call.injEq] at hi
    subst hi
    refine served ?_ (hr ▸ rfl)
    rw [hr]
    rcases hb with hdone | ⟨-, f, rfl⟩
    · cases hdone
      constructor
    · constructor
  | drive on =>
    simp only [subscriberIntent, hr] at hi
    (repeat' split at hi) <;> cases hi
    refine plain ?_ (hr ▸ rfl)
    rcases hb with hdone | ⟨-, f, rfl⟩
    · cases hdone
      exact hr ▸ .drive
    · exact hr ▸ .driveFailed
  | receive =>
    simp only [subscriberIntent, hr] at hi
    split at hi <;> cases hi
  | proceed | report | finished => simp [subscriberIntent, hr] at hi

end System

end EdgeGateway
