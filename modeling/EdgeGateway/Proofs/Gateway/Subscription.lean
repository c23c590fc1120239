import EdgeGateway.Proofs.Gateway.Run
import EdgeGateway.Proofs.Mqtt.Broker

/-!
# EdgeGateway.Proofs.Gateway.Subscription

What the threads of a gateway do to its subscriber.

Most of them do nothing (`System.untouched_of_intent`, `System.untouched_complete`). The broker
task makes it with the client (`System.creates_of_call`, `System.complete_of_created`), and it
goes by itself. The output is driven by the subscriber alone (`System.drives_of_call`). Who makes
a call about either is read off once (`System.steers_of_call`).
-/

namespace EdgeGateway

theorem Mqtt.Advances.subscriber_eq {t t' : Mqtt} {q : Request} {r : Reply}
    (h : t.Advances q r t') (hc : q ≠ .create) (hj : q ≠ .join) : t'.subscriber = t.subscriber := by
  cases h with
  | heard _ => rfl
  | turned _ ht => exact ht.subscriber_eq hc hj
  | received _ hr => exact hr.stays.1
  | read _ hr => exact hr.stays.1

/-- It drives the output, or brings the subscriber that does. -/
def Call.steers : Call → Bool
  | .clientCreate .. | .drive _ => true
  | _ => false

theorem Subscriber.request_eq_drive {b : Subscriber} {on : Bool} :
    b.request = .drive on ↔ b.point = .switching on := by
  cases hp : b.point with
  | sleeping n | leaving =>
    simp only [request, hp, reduceCtorEq, iff_false]
    split <;> simp only [reduceCtorEq, not_false_eq_true]
  | _ => simp [request, hp]

theorem DeviceSwitch.set_of_eq {w : DeviceSwitch} {on : Bool} (h : w.on = on) :
    w.set on = (w, none) := if_pos h

theorem DeviceSwitch.set_of_ne {w : DeviceSwitch} {on : Bool} (h : w.on ≠ on) :
    w.set on = (⟨on⟩, some on) := if_neg h

namespace System

variable {s s' : System} {t : Thread}

/-! ## What has nothing to do with the subscriber -/

/-- The subscriber stays where it is, and so does the recorded state of the output. -/
structure Untouched (s s' : System) : Prop where
  subscriber : s'.subscriber = s.subscriber
  switch : s'.switch = s.switch

theorem Commanded.untouched (h : s.Commanded s') : s.Untouched s' := ⟨h.subscriber, h.switch⟩

theorem untouched_consoleComplete (s : System) (c : Console) (a : Answer) :
    s.Untouched (s.consoleComplete c a) := by
  unfold consoleComplete
  split
  case h_4 key _ =>
    dsimp only
    split
    · exact ⟨rfl, rfl⟩
    · rename_i command _
      have hd := (Commanded.dispatch s command).untouched
      unfold afterCommand
      split <;> exact ⟨hd.subscriber, hd.switch⟩
  all_goals exact ⟨rfl, rfl⟩

/-- Another task goes on by itself. -/
theorem untouched_of_intent (hm : t.role ≠ .mqtt) (hs : t.role ≠ .subscriber)
    (hi : s.intent t = .proceed s') : s.Untouched s' := by
  unfold intent at hi
  cases hr : t.role with
  | link kind =>
    simp only [hr] at hi
    split at hi
    · rename_i l _
      have go (l : Link) : s.Untouched (s.setLink l) := (Commanded.setLink s l).untouched
      unfold linkIntent at hi
      dsimp only at hi
      cases hq : l.request with
      | announce status =>
        rw [hq] at hi
        cases eq_of_announce_proceed hi
        exact ⟨(go _).subscriber, (go _).switch⟩
      | finished =>
        rw [hq] at hi
        cases hi
        exact ⟨rfl, rfl⟩
      | _ =>
        rw [hq] at hi
        dsimp only at hi
        (repeat' split at hi) <;> cases hi
        all_goals exact go _
    · cases hi
  | bridge =>
    simp only [hr] at hi
    split at hi
    · unfold bridgeIntent at hi
      dsimp only at hi
      (repeat' split at hi) <;> cases hi
      all_goals exact ⟨rfl, rfl⟩
    · cases hi
  | console =>
    simp only [hr] at hi
    split at hi
    · unfold consoleIntent rerouteIntent at hi
      dsimp only at hi
      (repeat' split at hi) <;> cases hi
      all_goals exact ⟨rfl, rfl⟩
    · cases hi
  | chore c =>
    simp only [hr] at hi
    unfold choreIntent rerouteIntent at hi
    dsimp only at hi
    (repeat' split at hi) <;> cases hi
    all_goals exact ⟨rfl, rfl⟩
  | shutdown p =>
    simp only [hr] at hi
    unfold shutdownIntent at hi
    dsimp only at hi
    split at hi
    · cases hi
      exact ⟨rfl, rfl⟩
    · split at hi
      · cases hi
        exact ⟨rfl, rfl⟩
      · split at hi <;> cases hi
        rename_i hpost
        have hp := (Commanded.postToBridge hpost).untouched
        exact ⟨hp.subscriber, hp.switch⟩
    · split at hi <;> cases hi
      exact ⟨rfl, rfl⟩
  | job => simp only [hr, reduceCtorEq] at hi
  | mqtt => exact absurd hr hm
  | subscriber => exact absurd hr hs

/-- It gets what it asked for. -/
theorem untouched_complete (hm : t.role ≠ .mqtt) (hs : t.role ≠ .subscriber) (c : Completion) :
    s.Untouched (s.complete t c) := by
  unfold complete
  cases hr : t.role with
  | link kind =>
    dsimp only
    split
    · split
      · exact ⟨rfl, rfl⟩
      · exact (Commanded.setLink s _).untouched
    · exact ⟨rfl, rfl⟩
  | console =>
    dsimp only
    split
    · exact s.untouched_consoleComplete _ _
    · exact ⟨rfl, rfl⟩
  | chore chore =>
    dsimp only
    unfold choreComplete
    (repeat' split) <;> exact ⟨rfl, rfl⟩
  | job =>
    dsimp only
    split <;> exact ⟨rfl, rfl⟩
  | bridge | shutdown p => exact ⟨rfl, rfl⟩
  | mqtt => exact absurd hr hm
  | subscriber => exact absurd hr hs

/-! ## Calls about the output -/

/-- Who makes a call that is about the output. -/
inductive Steers (s : System) (t : Thread) : Call → Prop where
  | create {host : String} {port : UInt16} {tls : Option TlsMaterial} : s.Creates t →
      Steers s t (.clientCreate host port tls)
  | drive {b : Subscriber} {on : Bool} : t.role = .subscriber → s.subscriber = some b →
      b.point = .switching on → s.switch.on ≠ on → Steers s t (.drive on)

section Steers

variable {c : Call}

theorem steers_of_linkIntent {l : Link} (hi : s.linkIntent t l = .call c) : c.steers = false := by
  cases hr : l.request with
  | announce status =>
    simp only [linkIntent, hr] at hi
    cases eq_of_announce_call hi
    rfl
  | wait limit =>
    simp only [linkIntent, hr] at hi
    (repeat' split at hi) <;> cases hi
  | _ =>
    simp only [linkIntent, hr] at hi
    first
      | cases hm : s.medium l.kind <;> simp only [hm] at hi <;> cases hi <;> rfl
      | cases hi

theorem request_of_steers {task : Mqtt} (hi : s.mqttIntent t task = .call c)
    (hc : c.steers = true) :
    task.request = .create ∧ ∃ host port tls, c = .clientCreate host port tls := by
  cases hr : task.request with
  | create =>
    simp only [mqttIntent, hr] at hi
    cases hi
    exact ⟨rfl, _, _, _, rfl⟩
  | announce status =>
    simp only [mqttIntent, hr] at hi
    cases eq_of_announce_call hi
    cases hc
  | _ =>
    simp only [mqttIntent, hr] at hi
    (repeat' split at hi) <;> cases hi <;> cases hc

theorem point_of_steers {b : Subscriber} (hi : s.subscriberIntent t b = .call c)
    (hc : c.steers = true) : ∃ on, c = .drive on ∧ b.point = .switching on ∧ s.switch.on ≠ on := by
  cases hq : b.request with
  | drive on =>
    simp only [subscriberIntent, hq] at hi
    split at hi
    · cases hi
    · by_cases hon : s.switch.on = on
      · rw [DeviceSwitch.set_of_eq hon] at hi
        cases hi
      · rw [DeviceSwitch.set_of_ne hon] at hi
        cases hi
        exact ⟨on, rfl, Subscriber.request_eq_drive.mp hq, hon⟩
  | _ =>
    simp only [subscriberIntent, hq] at hi
    first
      | cases hi <;> cases hc
      | split at hi <;> cases hi

/-- Only the broker task and the subscriber make calls about the output. -/
theorem steers_of_call (ho : t.role.isOwn = true) (hi : s.intent t = .call c)
    (hc : c.steers = true) : s.Steers t c := by
  unfold intent at hi
  cases hr : t.role with
  | link kind =>
    simp only [hr] at hi
    split at hi
    · rw [steers_of_linkIntent hi] at hc
      cases hc
    · cases hi
  | bridge =>
    simp only [hr] at hi
    split at hi
    · unfold bridgeIntent at hi
      dsimp only at hi
      (repeat' split at hi) <;> cases hi <;> cases hc
    · cases hi
  | mqtt =>
    simp only [hr] at hi
    split at hi
    · obtain ⟨hq, host, port, tls, rfl⟩ := request_of_steers hi hc
      exact .create ⟨hr, _, ‹_›, hq⟩
    · cases hi
  | subscriber =>
    simp only [hr] at hi
    split at hi
    · obtain ⟨on, rfl, hp, hne⟩ := point_of_steers hi hc
      exact .drive hr ‹_› hp hne
    · cases hi
  | console =>
    simp only [hr] at hi
    split at hi
    · unfold consoleIntent rerouteIntent at hi
      (repeat' split at hi) <;> cases hi <;> cases hc
    · cases hi
  | chore chore =>
    cases chore with
    | reroute r written =>
      simp only [hr] at hi
      cases r with
      | resolving kind index servers =>
        cases servers with
        | nil => cases hi
        | cons ip rest =>
          cases hi
          cases hc
      | _ =>
        cases hi <;> cases hc
    | _ =>
      rw [hr] at ho
      cases ho
  | shutdown p =>
    simp only [hr] at hi
    unfold shutdownIntent at hi
    dsimp only at hi
    (repeat' split at hi) <;> cases hi
  | job => simp only [hr, reduceCtorEq] at hi

/-- Who is about to have a client is the broker task. -/
theorem creates_of_call {host : String} {port : UInt16} {tls : Option TlsMaterial}
    (ho : t.role.isOwn = true) (hi : s.intent t = .call (.clientCreate host port tls)) :
    s.Creates t := by
  cases steers_of_call ho hi rfl with
  | create hc => exact hc

/-- Who is about to drive the output is the subscriber, and to another state than it has. -/
theorem drives_of_call {on : Bool} (ho : t.role.isOwn = true)
    (hi : s.intent t = .call (.drive on)) : t.role = .subscriber ∧
      ∃ b, s.subscriber = some b ∧ b.point = .switching on ∧ s.switch.on ≠ on := by
  cases steers_of_call ho hi rfl with
  | drive hr hb hp hne => exact ⟨hr, _, hb, hp, hne⟩

end Steers

/-- The client that has been made gets a thread for its subscriber. -/
theorem complete_of_created (hr : t.role = .mqtt) {task : Mqtt} (hm : s.mqtt = some task)
    (hq : task.request = .create) : s.complete t (.answer .done) =
      { s with mqtt := some (task.resume .done) }.spawn .subscriber .subscriber none := by
  have hno : task.announcing = none := Mqtt.announcing_eq_none (by simp [hq])
  simp [complete, hr, hm, hno, Mqtt.point_of_create hq, mqttReply]

theorem complete_of_not_created (hr : t.role = .mqtt) {task : Mqtt} (hm : s.mqtt = some task)
    (hq : task.request = .create) (f : Fault) : s.complete t (.answer (.failed f)) =
      { s with mqtt := some (task.resume .failed), subscriber := none } := by
  have hno : task.announcing = none := Mqtt.announcing_eq_none (by simp [hq])
  simp [complete, hr, hm, hno, Mqtt.point_of_create hq, mqttReply]

/-! ## Everything else keeps it -/

theorem isSome_of_mqttIntent {task : Mqtt} (hi : s.mqttIntent t task = .proceed s') :
    s'.subscriber.isSome = s.subscriber.isSome := by
  cases hr : task.request with
  | announce status =>
    simp only [mqttIntent, hr] at hi
    cases eq_of_announce_proceed hi
    rfl
  | tell m =>
    simp only [mqttIntent, hr] at hi
    split at hi
    · cases hi
      rfl
    · rename_i b hb
      (repeat' split at hi) <;> cases hi
      · rfl
      · rw [hb]
        rfl
  | _ =>
    simp only [mqttIntent, hr] at hi
    (repeat' split at hi) <;> cases hi
    all_goals rfl

theorem isSome_of_subscriberIntent {b : Subscriber} (hb : s.subscriber = some b)
    (hi : s.subscriberIntent t b = .proceed s') (hq : b.request ≠ .finished) :
    s'.subscriber.isSome = s.subscriber.isSome := by
  rw [hb]
  cases hr : b.request with
  | finished => exact absurd hr hq
  | _ =>
    simp only [subscriberIntent, hr] at hi
    (repeat' split at hi) <;> cases hi
    all_goals rfl

theorem isSome_complete (hm : t.role ≠ .mqtt) (c : Completion) :
    (s.complete t c).subscriber.isSome = s.subscriber.isSome := by
  by_cases hs : t.role = .subscriber
  · simp only [complete, hs, Option.isSome_map]
  · rw [(untouched_complete hm hs c).subscriber]

theorem announcing_of_push {handle : UInt16} {value : Bytes} (hi : s.intent t = .push handle value)
    (hr : t.role = .mqtt) (task : Mqtt) (hm : s.mqtt = some task) :
    ∃ status, task.announcing = some status := by
  simp only [intent, hr, hm] at hi
  exact announcing_of_mqtt_push hi

/-- A listener of the broker task has been told. -/
theorem complete_of_announcing (hr : t.role = .mqtt) {task : Mqtt} (hm : s.mqtt = some task)
    {status : Status} (hno : task.announcing = some status) (c : Completion) :
    s.complete t c = s.setThread { t with told := t.told + 1 } := by
  simp only [complete, hr, hm, hno, Option.isSome_some, if_true]

end System

end EdgeGateway
