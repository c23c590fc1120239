import EdgeGateway.Mqtt.Subscriber
import EdgeGateway.Proofs.Inbox

/-!
# EdgeGateway.Proofs.Mqtt.Subscriber

All that the subscriber of a client can do.

* `Subscriber.Fits`   : the replies a request can get. Messages and reports are the task's matter.
* `Subscriber.Turn`   : what it does with such a reply, one case for each way on.
* `Subscriber.IsTold` : it has been told to stop, and nothing keeps it from doing so.
-/

namespace EdgeGateway

namespace Subscriber

inductive Fits : Request → Reply → Prop where
  | proceed : Fits .proceed .done
  | sleep {ms : Nat} : Fits (.sleep ms) .done
  | subscribe : Fits .subscribe .done
  | subscribeFailed : Fits .subscribe .failed
  | unsubscribe : Fits .unsubscribe .done
  | unsubscribeFailed : Fits .unsubscribe .failed
  | drive {on : Bool} : Fits (.drive on) .done
  | driveFailed {on : Bool} : Fits (.drive on) .failed

inductive Turn (s : Subscriber) : Subscriber → Prop where
  | exhausted {n : Nat} : s.point = .trying n → s.attempts < n →
      Turn s { s with point := .reporting }
  | first {n : Nat} : s.point = .trying n → n ≤ s.attempts →
      Turn s { s with point := .subscribing n }
  | pause {n : Nat} : s.point = .trying n → n ≤ s.attempts →
      Turn s { s with point := .sleeping n }
  | awake {n : Nat} : s.point = .sleeping n → Turn s { s with point := .subscribing n }
  | subscribed {n : Nat} : s.point = .subscribing n →
      Turn s { s with subscribed := true, point := .receiving }
  | notSubscribed {n : Nat} : s.point = .subscribing n →
      Turn s { s with point := .trying (n + 1) }
  | switched {on : Bool} : s.point = .switching on → Turn s { s with point := .receiving }
  | left : s.point = .leaving → Turn s { s with subscribed := false, point := .finished }

theorem turn_of_fits {s : Subscriber} {r : Reply} (h : Fits s.request r) : Turn s (s.resume r) := by
  cases hp : s.point with
  | trying n =>
    simp only [resume, hp]
    split
    · rename_i hn
      exact .exhausted hp hn
    · rename_i hn
      split
      · exact .first hp (by omega)
      · exact .pause hp (by omega)
  | sleeping n => simpa only [resume, hp] using Turn.awake hp
  | subscribing n =>
    simp only [request, hp] at h
    cases h with
    | subscribe => simpa only [resume, hp] using Turn.subscribed hp
    | subscribeFailed => simpa only [resume, hp] using Turn.notSubscribed hp
  | switching on => simpa only [resume, hp] using Turn.switched hp
  | leaving => simpa only [resume, hp] using Turn.left hp
  | receiving | reporting | finished =>
    simp only [request, hp] at h
    cases h

/-- Where the next message takes it. -/
inductive Takes (s : Subscriber) : SubscriberMessage → Subscriber → Prop where
  | subscribe : Takes s .subscribe { s with point := .trying 1 }
  | switch {payload : Bytes} {on : Bool} :
      Takes s (.message payload) { s with point := .switching on }
  | ignore {payload : Bytes} : Takes s (.message payload) s
  | stop : Takes s .stop { s with point := .leaving }

theorem takes_of_request {s : Subscriber} (h : s.request = .receive) (m : SubscriberMessage) :
    s.point = .receiving ∧ Takes s m (s.resume (.message m)) := by
  cases hp : s.point with
  | receiving =>
    refine ⟨rfl, ?_⟩
    cases m with
    | subscribe => simpa only [resume, hp] using Takes.subscribe
    | message payload =>
      cases hm : s.meaning? payload with
      | some on => simpa only [resume, hp, hm] using Takes.switch
      | none => simpa only [resume, hp, hm] using Takes.ignore
    | stop => simpa only [resume, hp] using Takes.stop
  | sleeping n | leaving => simp only [request, hp] at h; split at h <;> cases h
  | _ => simp only [request, hp] at h; cases h

theorem resume_of_report {s : Subscriber} (h : s.request = .report) :
    s.point = .reporting ∧ s.resume .done = { s with point := .receiving } := by
  cases hp : s.point with
  | reporting => exact ⟨rfl, by simp only [resume, hp]⟩
  | sleeping n | leaving => simp only [request, hp] at h; split at h <;> cases h
  | _ => simp only [request, hp] at h; cases h

/-! ## What holds of a running subscriber -/

def Sound (s : Subscriber) (c : MqttSettings) : Prop :=
  s.inbox.isOpen = true ∧ s.attempts = c.subscribeRetries.toNat ∧
  match s.point with
  | .sleeping n | .subscribing n => n ≤ c.subscribeRetries.toNat
  | _ => True

def IsTold (s : Subscriber) : Prop :=
  .stop ∈ s.inbox.items ∨ s.point = .leaving ∨ s.point = .finished

theorem Turn.sound {s s' : Subscriber} {c : MqttSettings} (h : s.Sound c) (ht : Turn s s') :
    s'.Sound c := by
  cases ht <;> simp_all [Sound]

theorem Turn.isTold {s s' : Subscriber} (h : s.IsTold) (ht : Turn s s') : s'.IsTold := by
  rcases h with h | h
  · cases ht <;> exact .inl h
  · cases ht <;> simp_all [IsTold]

theorem Takes.sound {s s' : Subscriber} {m : SubscriberMessage} {c : MqttSettings}
    (h : s.Sound c) (ht : Takes s m s') : s'.Sound c := by
  cases ht with
  | ignore => exact h
  | _ => simp_all [Sound]

theorem Sound.taken {s : Subscriber} {c : MqttSettings} {m : SubscriberMessage}
    {inbox : Inbox SubscriberMessage} (h : s.Sound c) (hi : s.inbox.take? = some (m, inbox)) :
    Sound { s with inbox } c :=
  ⟨(Inbox.items_of_take hi).2.trans h.1, h.2⟩

theorem Sound.put {s : Subscriber} {c : MqttSettings} (h : s.Sound c) (m : SubscriberMessage) :
    Sound { s with inbox := s.inbox.put m } c := h

theorem IsTold.put {s : Subscriber} (h : s.IsTold) (m : SubscriberMessage) :
    IsTold { s with inbox := s.inbox.put m } :=
  h.imp_left fun hm => List.mem_append_left _ hm

theorem Sound.offerOrDrop {s : Subscriber} {c : MqttSettings} (h : s.Sound c) {waiting : Bool}
    {m : SubscriberMessage} : Sound { s with inbox := s.inbox.offerOrDrop waiting m } c := by
  rcases Inbox.offerOrDrop_cases s.inbox waiting m with he | he <;> rw [he]
  · exact h.put m
  · exact h

theorem IsTold.offerOrDrop {s : Subscriber} (h : s.IsTold) {waiting : Bool}
    {m : SubscriberMessage} : IsTold { s with inbox := s.inbox.offerOrDrop waiting m } := by
  rcases Inbox.offerOrDrop_cases s.inbox waiting m with he | he <;> rw [he]
  · exact h.put m
  · exact h

theorem isTold_put_stop (s : Subscriber) : IsTold { s with inbox := s.inbox.put .stop } :=
  .inl (List.mem_append_right _ (List.mem_singleton_self _))

/-- A told subscriber that takes a message has the stop still to come, or takes it. -/
theorem Takes.isTold {s s' : Subscriber} {m : SubscriberMessage}
    {inbox : Inbox SubscriberMessage} (h : s.IsTold) (hp : s.point = .receiving)
    (hi : s.inbox.take? = some (m, inbox)) (ht : Takes { s with inbox } m s') : s'.IsTold := by
  have hm : .stop ∈ s.inbox.items := by
    rcases h with h | h | h
    · exact h
    · rw [hp] at h; cases h
    · rw [hp] at h; cases h
  rw [(Inbox.items_of_take hi).1, List.mem_cons] at hm
  rcases hm with rfl | hm
  · cases ht
    exact .inr (.inl rfl)
  · cases ht <;> exact .inl hm

end Subscriber

end EdgeGateway
