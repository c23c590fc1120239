import EdgeGateway.Proofs.Output.Apart
import EdgeGateway.Proofs.Output.Due

/-!
# EdgeGateway.Proofs.Output.Tracked

What has been done about the device output, against what the messages ask for.

* `System.stepDeeds`, `Call.deeds` : which message a thread takes up, and how it drives the output.
* `System.switching?` : the state that the subscriber is about to switch the output to.
* `System.Tracked`    : no more has been done than is due, and no less but for a change that is on
  its way. Every move of a thread keeps it (`System.Tracked.of_step`, `System.Tracked.of_start`,
  `System.Tracked.of_answer`), and so does what leaves the output alone (`System.Tracked.apart`).
-/

namespace EdgeGateway

open Output

/-! ## What is done -/

/-- The message that a thread takes up if it moves. -/
def System.taken? (s : System) (t : Thread) : Option Bytes :=
  match t.role, s.subscriber with
  | .subscriber, some b =>
    if b.isReceiving then
      match b.inbox.take? with
      | some (.message payload, _) => some payload
      | _ => none
    else none
  | _, _ => none

def System.stepDeeds (s : System) (t : Thread) : List Deed := (s.taken? t).toList.map .heard

def Call.deeds : Call → List Deed
  | .drive on => [.driven on]
  | _ => []

theorem Call.deeds_eq_nil {c : Call} (h : ∀ on, c ≠ .drive on) : c.deeds = [] := by
  cases c with
  | drive on => exact absurd rfl (h on)
  | _ => rfl

theorem Call.eq_drive_of_lock? {c : Call} (h : c.lock? = some .output) : ∃ on, c = .drive on := by
  unfold Call.lock? at h
  split at h <;> cases h
  exact ⟨_, rfl⟩

/-! ## One subscriber -/

namespace Subscriber

variable {b : Subscriber} {c : MqttSettings}

/-- The state that it is about to switch the output to. -/
def switching? (b : Subscriber) : Option Bool :=
  match b.point with
  | .switching on => some on
  | _ => none

/-- Its texts are those of the settings. -/
def Reads (b : Subscriber) (c : MqttSettings) : Prop :=
  b.onMessage = Bytes.ofText c.onMessage ∧ b.offMessage = Bytes.ofText c.offMessage

theorem switching?_eq_some {on : Bool} : b.switching? = some on ↔ b.point = .switching on := by
  unfold switching?
  cases b.point <;> simp

theorem switching?_eq_none (h : ∀ on, b.request ≠ .drive on) : b.switching? = none :=
  Option.eq_none_iff_forall_ne_some.mpr fun on hon =>
    h on (request_eq_drive.mpr (switching?_eq_some.mp hon))

theorem point_of_receive (h : b.request = .receive) : b.point = .receiving := by
  unfold request at h
  (repeat' split at h) <;> first | assumption | cases h

theorem meaning?_eq (h : b.Reads c) (payload : Bytes) :
    b.meaning? payload = c.names? payload := by
  rw [meaning?, h.1, h.2, MqttSettings.names?]

theorem reads_resume (h : b.Reads c) (r : Reply) : (b.resume r).Reads c := by
  unfold resume
  (repeat' split) <;> exact h

/-- Only a message brings it to switch the output. -/
theorem switching?_resume {r : Reply} (hr : ∀ payload, r ≠ .message (.message payload)) :
    (b.resume r).switching? = none := by
  cases hp : b.point with
  | receiving =>
    cases r with
    | message m =>
      cases m with
      | message payload => exact absurd rfl (hr payload)
      | _ => simp only [resume, hp, switching?]
    | _ => simp only [resume, hp, switching?]
  | subscribing n => cases r <;> simp only [resume, hp, switching?]
  | trying n =>
    simp only [resume, hp]
    (repeat' split) <;> rfl
  | _ => simp only [resume, hp, switching?]

/-- A message that names a state is about to be carried out, and another one is passed over. -/
theorem switching?_resume_message (hp : b.point = .receiving) (h : b.Reads c) (payload : Bytes) :
    (b.resume (.message (.message payload))).switching? = c.names? payload := by
  simp only [resume, hp, meaning?_eq h]
  cases c.names? payload with
  | none => simp only [switching?, hp]
  | some on => rfl

end Subscriber

namespace System

variable {s s' : System} {t : Thread} {c : MqttSettings} {log : List Deed}
  {errand : Task → Option Errand}

/-- The state that the output is about to be switched to. -/
def switching? (s : System) : Option Bool := s.subscriber.bind Subscriber.switching?

theorem switching?_eq_some {on : Bool} : s.switching? = some on ↔
    ∃ b, s.subscriber = some b ∧ b.point = .switching on := by
  simp only [switching?, Option.bind_eq_some_iff, Subscriber.switching?_eq_some]

theorem switching?_of_subscriber {b : Subscriber} (hb : s.subscriber = some b) :
    s.switching? = b.switching? := by
  rw [switching?, hb, Option.bind_some]

theorem Apart.switching?_eq (h : s.Apart s') : s'.switching? = s.switching? := by
  have own (s : System) :
      s.switching? = (s.subscriber.map Subscriber.own).bind Subscriber.switching? := by
    rw [switching?]
    cases s.subscriber <;> rfl
  rw [own, own, h.subscriber]

/-! ## The moves of a subscriber -/

/-- It waits for a call only by being in it. -/
theorem Manned.next_of_subscriber (hman : s.Manned errand) (ht : s.thread? t.id = some t)
    (hr : t.role = .subscriber) : (∃ call, t.stage = .inside call) ∨
      t.stage = .free ∧ s.next t = match s.intent t with
        | .proceed s' => .step s'
        | .call call => s.tryCall t call
        | _ => .blocked := by
  have he := hman.errand_of_subscriber ht hr
  have hnone : t.role.task? = none := by
    rw [hr]
    rfl
  cases hstage : t.stage with
  | inside call => exact .inl ⟨call, rfl⟩
  | calling call =>
    obtain ⟨-, n, handle, value, -, hi⟩ := (hman.engaged _ t ht).of_calling hstage
    obtain ⟨call', heq, -⟩ := aside_of_intent (hman.own _ t ht) hnone hi
    cases heq
  | free =>
    refine .inr ⟨rfl, ?_⟩
    simp only [next, hstage, he]
    cases hi : s.intent t with
    | errand e | push handle value =>
      obtain ⟨call', heq, -⟩ := aside_of_intent (s := s) (hman.own _ t ht) hnone (by rw [hi]; rfl)
      cases heq
    | _ => rfl

/-- It goes on by itself. -/
theorem Manned.subscriberIntent_of_step (hman : s.Manned errand) (ht : s.thread? t.id = some t)
    (hr : t.role = .subscriber) (hn : s.next t = .step s') : t.stage = .free ∧
      ∃ b, s.subscriber = some b ∧ s.subscriberIntent t b = .proceed s' := by
  rcases hman.next_of_subscriber ht hr with ⟨call, hc⟩ | ⟨hf, heq⟩
  · simp only [next, hc, reduceCtorEq] at hn
  · refine ⟨hf, ?_⟩
    rw [heq] at hn
    split at hn
    · rename_i hi
      cases hn
      simp only [intent, hr] at hi
      split at hi
      · exact ⟨_, ‹_›, hi⟩
      · cases hi
    · unfold tryCall at hn
      split at hn <;> cases hn
    · cases hn

/-- It goes on once its call has come back, and is not about to switch the output. -/
theorem Manned.answer_of_subscriber (hman : s.Manned errand) (ht : s.thread? t.id = some t)
    (hr : t.role = .subscriber) (call : Call) (a : Answer) :
    ∃ r : Subscriber.Reply, (∀ payload, r ≠ .message (.message payload)) ∧ s.answer t call a =
      { s.setThread { t with stage := .free } with
        subscriber := s.subscriber.map (·.resume r) } := by
  obtain ⟨x, hx⟩ := exists_answer_eq (s := s) (hman.errand_of_subscriber ht hr) call a
  refine ⟨subscriberReply x, fun payload => ?_, ?_⟩
  · unfold subscriberReply
    split <;> exact nofun
  · rw [hx]
    simp only [complete, hr]
    rfl

theorem Manned.switching?_of_answer (hman : s.Manned errand) (ht : s.thread? t.id = some t)
    (hr : t.role = .subscriber) (call : Call) (a : Answer) :
    (s.answer t call a).switching? = none := by
  obtain ⟨r, hreply, heq⟩ := hman.answer_of_subscriber ht hr call a
  rw [heq, switching?]
  cases s.subscriber with
  | none => rfl
  | some b => exact Subscriber.switching?_resume hreply

/-- A message is taken up where one is waited for. -/
theorem stepDeeds_of_subscriber (hr : t.role = .subscriber) {b : Subscriber}
    (hb : s.subscriber = some b) (hq : b.request ≠ .receive) : s.stepDeeds t = [] := by
  have hp : b.point ≠ .receiving := fun hp => hq (by simp only [Subscriber.request, hp])
  simp only [stepDeeds, taken?, hr, hb, Subscriber.isReceiving, hp, decide_false]
  rfl

theorem stepDeeds_of_receive (hr : t.role = .subscriber) {b : Subscriber}
    (hb : s.subscriber = some b) (hq : b.request = .receive) {m : SubscriberMessage}
    {inbox : Inbox SubscriberMessage} (htake : b.inbox.take? = some (m, inbox)) :
    s.stepDeeds t = match m with
      | .message payload => [.heard payload]
      | _ => [] := by
  simp only [stepDeeds, taken?, hr, hb, Subscriber.isReceiving, Subscriber.point_of_receive hq,
    decide_true, if_true, htake]
  cases m <;> rfl

theorem stepDeeds_of_other (hr : t.role ≠ .subscriber) : s.stepDeeds t = [] := by
  have hnone : s.taken? t = none := by
    unfold taken?
    split
    · exact absurd ‹_› hr
    · rfl
  rw [stepDeeds, hnone]
  rfl

/-- What has been done is what the messages ask for, up to a change that is on its way. -/
structure Tracked (s : System) (c : MqttSettings) (log : List Deed) : Prop where
  settings : s.settings.mqtt = c
  reads : ∀ b, s.subscriber = some b → b.Reads c
  due : log ++ change s.switch.on (standing c false (heard log)) = due c false (heard log)
  settled : s.switching? = none → s.switch.on = standing c false (heard log)
  switching : ∀ on, s.switching? = some on → on = standing c false (heard log)
  /-- in a call a subscriber has nothing else to change -/
  inside : ∀ i u call, s.thread? i = some u → u.role = .subscriber → u.stage = .inside call →
    s.switch.on = standing c false (heard log)
  creating : ∀ i, s.Creating i → s.switching? = none
  serving : ∀ on, s.switching? = some on → ∃ i, s.Serving i
  /-- nobody else drives the output -/
  driving : ∀ i u on, s.thread? i = some u → u.stage = .inside (.drive on) → u.role = .subscriber

namespace Tracked

/-- What leaves the output alone. -/
theorem apart (h : s.Tracked c log) (ha : s.Apart s') : s'.Tracked c log where
  settings := ha.settings ▸ h.settings
  reads b' hb' := by
    have hown := ha.subscriber
    rw [hb'] at hown
    obtain ⟨b, hb, heq⟩ := Option.map_eq_some_iff.mp hown.symm
    rw [Subscriber.eq_of_own heq.symm]
    exact h.reads b hb
  due := ha.switch ▸ h.due
  settled hnone := ha.switch ▸ h.settled (ha.switching?_eq ▸ hnone)
  switching on hon := h.switching on (ha.switching?_eq ▸ hon)
  inside i u call hu hr hc := by
    obtain ⟨v, hv, hvc, hvr⟩ := ha.inside i u call hu hc (.inl hr)
    rw [ha.switch]
    exact h.inside i v call hv (hvr.trans hr) hvc
  creating i hi := by
    obtain ⟨u, hu, host, port, tls, hc⟩ := hi
    obtain ⟨v, hv, hvc, -⟩ := ha.inside i u _ hu hc (.inr rfl)
    rw [ha.switching?_eq]
    exact h.creating i ⟨v, hv, host, port, tls, hvc⟩
  serving on hon := by
    obtain ⟨i, u, hu, hr⟩ := h.serving on (ha.switching?_eq ▸ hon)
    exact ⟨i, u, ha.serving i u hu hr, hr⟩
  driving i u on hu hc := by
    obtain ⟨v, hv, hvc, hvr⟩ := ha.inside i u _ hu hc (.inr rfl)
    exact hvr.symm.trans (h.driving i v on hv hvc)

/-- The output is as it has to be, and nothing is about to change it. -/
theorem settle (h : s.Tracked c log) (hon : s.switch.on = standing c false (heard log))
    (hc : s'.settings = s.settings) (hw : s'.switch = s.switch)
    (hb : ∀ b, s'.subscriber = some b → b.Reads c) (hnone : s'.switching? = none)
    (hd : ∀ i u on, s'.thread? i = some u → u.stage = .inside (.drive on) →
      u.role = .subscriber) : s'.Tracked c log where
  settings := hc ▸ h.settings
  reads := hb
  due := hw ▸ h.due
  settled _ := hw ▸ hon
  switching on hsome := by
    rw [hnone] at hsome
    cases hsome
  inside _ _ _ _ _ _ := hw ▸ hon
  creating _ _ := hnone
  serving on hsome := by
    rw [hnone] at hsome
    cases hsome
  driving := hd

/-- Nobody comes to drive the output when a thread is set. -/
theorem driving_setThread (h : s.Tracked c log) {u : Thread}
    (hu : ∀ on, u.stage = .inside (.drive on) → u.role = .subscriber) (i : Nat) (v : Thread)
    (on : Bool) (hv : (s.setThread u).thread? i = some v) (hc : v.stage = .inside (.drive on)) :
    v.role = .subscriber := by
  rw [thread?_setThread] at hv
  split at hv
  · obtain ⟨-, -, rfl⟩ := Option.map_eq_some_iff.mp hv
    exact hu on hc
  · exact h.driving i v on hv hc

/-- The subscriber goes on after what it has asked for, which was no message. -/
theorem resumed (h : s.Tracked c log) (hon : s.switch.on = standing c false (heard log))
    {b : Subscriber} (hb : s.subscriber = some b) {r : Subscriber.Reply}
    (hr : ∀ payload, r ≠ .message (.message payload)) (hc : s'.settings = s.settings)
    (hw : s'.switch = s.switch) (hb' : s'.subscriber = some (b.resume r))
    (ht : s'.threads = s.threads) : s'.Tracked c log := by
  refine h.settle hon hc hw (fun b' hb'' => ?_) ?_ fun i u on hu => ?_
  · cases hb'.symm.trans hb''
    exact Subscriber.reads_resume (h.reads b hb) r
  · rw [switching?_of_subscriber hb', Subscriber.switching?_resume hr]
  · exact h.driving i u on (thread?_of_threads ht i ▸ hu)

/-- A message is taken up. -/
theorem hears (h : s.Tracked c log) (hserved : s.Served) (hman : s.Manned errand)
    (hu : ∀ task, s.mqtt = some task → task.Undone) (ht : s.thread? t.id = some t)
    (hf : t.stage = .free) (hr : t.role = .subscriber) {b : Subscriber}
    (hb : s.subscriber = some b) (hp : b.point = .receiving) (payload : Bytes)
    (inbox : Inbox SubscriberMessage) :
    System.Tracked { s with
      subscriber := some ({ b with inbox }.resume (.message (.message payload))) } c
      (log ++ [.heard payload]) := by
  have hserving : s.Serving t.id := ⟨t, ht, hr⟩
  have hreads : Subscriber.Reads { b with inbox } c := h.reads b hb
  have hon := h.settled <| by
    rw [switching?_of_subscriber hb]
    simp only [Subscriber.switching?, hp]
  have hdue := h.due
  rw [hon, change_self, List.append_nil] at hdue
  have hheard : heard (log ++ [.heard payload]) = heard log ++ [payload] := heard_append
  have hnext : standing c false (heard log ++ [payload]) =
      (c.names? payload).getD (standing c false (heard log)) := standing_concat
  have hswitching := Subscriber.switching?_resume_message (b := { b with inbox }) hp hreads payload
  refine ⟨h.settings, ?_, ?_, fun hnone => ?_, fun on hsome => ?_, ?_, ?_, ?_, h.driving⟩
  · rintro _ ⟨⟩
    exact Subscriber.reads_resume hreads _
  · rw [hheard, due_concat, ← hdue, ← hon, List.append_assoc]
    rfl
  · rw [hheard, hnext, hswitching.symm.trans hnone]
    exact hon
  · rw [hheard, hnext, hswitching.symm.trans hsome]
    rfl
  · -- the only subscriber is not in a call
    intro i u call hi hur hcall
    cases hserved.alone i t.id ⟨u, hi, hur⟩ hserving
    cases ht.symm.trans hi
    cases hf.symm.trans hcall
  · intro i hi
    obtain ⟨v, -, hcreates⟩ := hman.creates hi
    exact absurd hserving (hserved.not_serving hu hcreates t.id)
  · exact fun _ _ => ⟨t.id, hserving⟩

/-! ## Steps -/

/-- A subscriber takes what is next in its queue. -/
theorem receives (h : s.Tracked c log) (hserved : s.Served) (hman : s.Manned errand)
    (hu : ∀ task, s.mqtt = some task → task.Undone) (ht : s.thread? t.id = some t)
    (hf : t.stage = .free) (hr : t.role = .subscriber) {b : Subscriber}
    (hb : s.subscriber = some b) (hq : b.request = .receive) {m : SubscriberMessage}
    {inbox : Inbox SubscriberMessage} (htake : b.inbox.take? = some (m, inbox)) :
    System.Tracked { s with subscriber := some ({ b with inbox }.resume (.message m)) } c
      (log ++ s.stepDeeds t) := by
  have hp := Subscriber.point_of_receive hq
  have hset : System.Tracked { s with subscriber := some { b with inbox } } c log :=
    h.apart (.of_threads rfl rfl (by rw [hb]; rfl) rfl)
  have hon := h.settled ((switching?_of_subscriber hb).trans
    (Subscriber.switching?_eq_none (by simp [hq])))
  rw [stepDeeds_of_receive hr hb hq htake]
  cases m with
  | message payload => exact h.hears hserved hman hu ht hf hr hb hp payload inbox
  | subscribe =>
    rw [List.append_nil]
    exact hset.resumed (r := .message .subscribe) hon rfl (by simp) rfl rfl rfl rfl
  | stop =>
    rw [List.append_nil]
    exact hset.resumed (r := .message .stop) hon rfl (by simp) rfl rfl rfl rfl

theorem of_subscriberIntent (h : s.Tracked c log) (hserved : s.Served) (hman : s.Manned errand)
    (hu : ∀ task, s.mqtt = some task → task.Undone) (ht : s.thread? t.id = some t)
    (hf : t.stage = .free) (hr : t.role = .subscriber) {b : Subscriber}
    (hb : s.subscriber = some b) (hi : s.subscriberIntent t b = .proceed s') :
    s'.Tracked c (log ++ s.stepDeeds t) := by
  have idle (hq : b.request ≠ .receive) : log ++ s.stepDeeds t = log := by
    rw [stepDeeds_of_subscriber hr hb hq, List.append_nil]
  have still (hq : ∀ on, b.request ≠ .drive on) :
      s.switch.on = standing c false (heard log) :=
    h.settled ((switching?_of_subscriber hb).trans (Subscriber.switching?_eq_none hq))
  cases hq : b.request with
  | receive =>
    simp only [subscriberIntent, hq] at hi
    split at hi <;> cases hi
    exact h.receives hserved hman hu ht hf hr hb hq ‹_›
  | drive on =>
    -- the output is in that state already
    rw [idle (by simp [hq])]
    simp only [subscriberIntent, hq] at hi
    split at hi
    · cases hi
    · by_cases hon : s.switch.on = on
      · rw [DeviceSwitch.set_of_eq hon] at hi
        cases hi
        have hwanted := h.switching on (switching?_eq_some.mpr
          ⟨b, hb, Subscriber.request_eq_drive.mp hq⟩)
        exact h.resumed (r := .done) (hon.trans hwanted) hb (by simp) rfl rfl rfl rfl
      · rw [DeviceSwitch.set_of_ne hon] at hi
        cases hi
  | finished =>
    rw [idle (by simp [hq])]
    simp only [subscriberIntent, hq] at hi
    cases hi
    refine h.settle (still (by simp [hq])) rfl rfl (fun b hb => by cases hb) rfl
      fun i u on hu' => ?_
    rw [thread?_endThread] at hu'
    split at hu'
    · cases hu'
    · exact h.driving i u on hu'
  | proceed | report =>
    rw [idle (by simp [hq])]
    simp only [subscriberIntent, hq] at hi
    cases hi
    exact h.resumed (r := .done) (still (by simp [hq])) hb (by simp) rfl rfl rfl rfl
  | sleep ms | subscribe | unsubscribe =>
    simp only [subscriberIntent, hq] at hi
    cases hi

theorem of_step (h : s.Tracked c log) (hserved : s.Served) (hman : s.Manned errand)
    (hu : ∀ task, s.mqtt = some task → task.Undone) (ht : s.thread? t.id = some t)
    (hn : s.next t = .step s') : s'.Tracked c (log ++ s.stepDeeds t) := by
  by_cases hr : t.role = .subscriber
  · obtain ⟨hf, b, hb, hi⟩ := hman.subscriberIntent_of_step ht hr hn
    exact h.of_subscriberIntent hserved hman hu ht hf hr hb hi
  · rw [stepDeeds_of_other hr, List.append_nil]
    exact h.apart (apart_of_step hman ht hr hn)

/-- The output is driven to the state that the last message has named. -/
theorem drives (h : s.Tracked c log) (ht : s.thread? t.id = some t) (hr : t.role = .subscriber)
    {on : Bool} (hsome : s.switching? = some on) (hne : s.switch.on ≠ on) :
    (s.enterCall t (.drive on)).Tracked c (log ++ [.driven on]) := by
  have hwanted := h.switching on hsome
  have hheard : heard (log ++ [.driven on]) = heard log :=
    heard_append.trans (List.append_nil _)
  have hset : (s.enterCall t (.drive on)).switch.on = on := by
    rw [enterCall]
    dsimp only [System.setThread]
    rw [DeviceSwitch.set_of_ne hne]
  have hself := thread?_setThread_self (u := { t with stage := .inside (.drive on) }) ht rfl
  refine ⟨h.settings, h.reads, ?_, fun _ => ?_, fun on' hon' => ?_, fun _ _ _ _ _ _ => ?_, ?_,
    fun _ _ => ⟨t.id, _, hself, hr⟩, h.driving_setThread fun _ _ => hr⟩
  · rw [hset, hheard, ← hwanted, change_self, List.append_nil, ← h.due, ← hwanted,
      change_of_ne (Ne.symm hne)]
  · rw [hset, hheard, hwanted]
  · rw [hheard]
    exact h.switching on' hon'
  · rw [hset, hheard, hwanted]
  · rintro i ⟨u, hi, host, port, tls, hc⟩
    have hi : (s.setThread { t with stage := .inside (.drive on) }).thread? i = some u := hi
    rw [thread?_setThread] at hi
    split at hi
    · obtain ⟨-, -, rfl⟩ := Option.map_eq_some_iff.mp hi
      cases hc
    · exact h.creating i ⟨u, hi, host, port, tls, hc⟩

/-- A subscriber calls for something else only when it has nothing to change. -/
theorem of_subscriberStart (h : s.Tracked c log) (hman : s.Manned errand)
    (ht : s.thread? t.id = some t) (hr : t.role = .subscriber) {call : Call}
    (hi : s.intent t = .call call) : (s.enterCall t call).Tracked c (log ++ call.deeds) := by
  by_cases hd : ∃ on, call = .drive on
  · obtain ⟨on, rfl⟩ := hd
    obtain ⟨-, b, hb, hp, hne⟩ := drives_of_call (hman.own _ t ht) hi
    exact h.drives ht hr (switching?_eq_some.mpr ⟨b, hb, hp⟩) hne
  · have hsteers : call.steers = false := by
      cases call with
      | drive on => exact absurd ⟨on, rfl⟩ hd
      | clientCreate host port tls =>
        have hcreates := (creates_of_call (hman.own _ t ht) hi).1
        cases hr.symm.trans hcreates
      | _ => rfl
    have hnone : s.switching? = none := by
      refine Option.eq_none_iff_forall_ne_some.mpr fun on hon => ?_
      obtain ⟨b, hb, hp⟩ := switching?_eq_some.mp hon
      simp only [intent, hr, hb, subscriberIntent, Subscriber.request_eq_drive.mpr hp] at hi
      (repeat' split at hi) <;> cases hi
      exact hd ⟨_, rfl⟩
    rw [Call.deeds_eq_nil fun on heq => hd ⟨on, heq⟩, List.append_nil, enterCall_of_steers hsteers]
    exact h.settle (h.settled hnone) rfl rfl h.reads hnone (h.driving_setThread fun _ _ => hr)

/-- A client is about to be made. There has been no subscriber. -/
theorem of_createStart (h : s.Tracked c log) (hserved : s.Served) (hman : s.Manned errand)
    (hu : ∀ task, s.mqtt = some task → task.Undone) (ht : s.thread? t.id = some t)
    (hf : t.stage = .free) {host : String} {port : UInt16} {tls : Option TlsMaterial}
    (hi : s.intent t = .call (.clientCreate host port tls)) :
    (s.enterCall t (.clientCreate host port tls)).Tracked c log := by
  have hcreates := creates_of_call (hman.own _ t ht) hi
  have hnone : s.subscriber = none := by
    refine Option.not_isSome_iff_eq_none.mp fun hsome => ?_
    rcases hserved.idle hsome with hsub | ⟨i, hc⟩
    · rw [hcreates.not_subscribed hu] at hsub
      cases hsub
    · -- the broker task is in one call at a time
      obtain ⟨u, hu', hcreates'⟩ := hman.creates hc
      cases hman.alone i t.id u t .mqtt hu' ht (by rw [hcreates'.1]; rfl) (by rw [hcreates.1]; rfl)
      cases ht.symm.trans hu'
      obtain ⟨v, hv, hcreating⟩ := hc
      cases ht.symm.trans hv
      exact Thread.not_isCreating_of_free hf hcreating
  refine h.settle (h.settled (by rw [switching?, hnone]; rfl)) rfl rfl ?_ rfl
    (h.driving_setThread fun _ heq => by cases heq)
  rintro _ ⟨⟩
  rw [← h.settings]
  exact ⟨rfl, rfl⟩

theorem of_start (h : s.Tracked c log) (hserved : s.Served) (hman : s.Manned errand)
    (hu : ∀ task, s.mqtt = some task → task.Undone) (ht : s.thread? t.id = some t) {call : Call}
    (hn : s.next t = .start call s') : s'.Tracked c (log ++ call.deeds) := by
  obtain ⟨rfl, hbegun⟩ := hman.begun ht hn
  by_cases hr : t.role = .subscriber
  · rcases hbegun with ⟨-, -, hi⟩ | ⟨htask, -⟩
    · exact h.of_subscriberStart hman ht hr hi
    · exact absurd (by rw [hr]; rfl) htask
  · have hne := ne_drive_of_start hman ht hr hn
    rw [Call.deeds_eq_nil hne, List.append_nil]
    cases call with
    | clientCreate host port tls =>
      rcases hbegun with ⟨hf, -, hi⟩ | ⟨-, ⟨n, heq⟩ | ⟨m, heq⟩⟩
      · exact h.of_createStart hserved hman hu ht hf hi
      · cases heq
      · cases heq
    | drive on => exact absurd rfl (hne on)
    | _ => exact h.apart (apart_of_start hman ht hr hn rfl)

/-- The client has been made, or has not. -/
theorem of_createAnswer (h : s.Tracked c log) (hman : s.Manned errand)
    (ht : s.thread? t.id = some t) (hcreating : t.IsCreating) {call : Call} {a : Answer}
    (hn : s.next t = .inside call) (hb : call.Brings a) : (s.answer t call a).Tracked c log := by
  obtain ⟨host, port, tls, hstage⟩ := hcreating
  cases hstage.symm.trans (stage_of_inside hn)
  obtain ⟨u, hu, hcreates⟩ := hman.creates ⟨t, ht, host, port, tls, hstage⟩
  cases ht.symm.trans hu
  obtain ⟨hr, task, hm, hq⟩ := hcreates
  have hnone := h.creating t.id ⟨t, ht, host, port, tls, hstage⟩
  have hon := h.settled hnone
  have he : t.errand = none := by
    rcases (hman.engaged _ t ht).of_inside hstage with ⟨e, m, -, heq, -⟩ | ⟨he, -⟩
    · cases heq
    · exact he
  have hfree (i : Nat) (v : Thread) (on : Bool) := h.driving_setThread
    (u := { t with stage := .free }) (fun _ heq => by cases heq) i v on
  have hm' : (s.setThread { t with stage := .free }).mqtt = some task := hm
  rw [answer_of_call he (fun _ heq => by cases heq)]
  rcases hb.imp_right And.right with rfl | ⟨f, rfl⟩
  · rw [complete_of_created (t := { t with stage := .free }) hr hm' hq]
    refine h.settle hon rfl rfl h.reads hnone fun i v on hv hc => ?_
    rw [thread?_spawn, Option.or_eq_some_iff] at hv
    rcases hv with hv | ⟨-, hv⟩
    · exact hfree i v on hv hc
    · split at hv <;> cases hv
      cases hc
  · rw [complete_of_not_created (t := { t with stage := .free }) hr hm' hq]
    exact h.settle hon rfl rfl nofun rfl hfree

theorem of_answer (h : s.Tracked c log) (hman : s.Manned errand) (ht : s.thread? t.id = some t)
    {call : Call} {a : Answer} (hn : s.next t = .inside call) (hb : call.Brings a) :
    (s.answer t call a).Tracked c log := by
  by_cases hr : t.role = .subscriber
  · obtain ⟨r, hreply, heq⟩ := hman.answer_of_subscriber ht hr call a
    have hnone : (s.answer t call a).switching? = none := hman.switching?_of_answer ht hr call a
    rw [heq] at hnone ⊢
    refine h.settle (h.inside _ t call ht hr (stage_of_inside hn)) rfl rfl (fun b' hb' => ?_) hnone
      (h.driving_setThread fun _ heq => by cases heq)
    obtain ⟨b, hb, rfl⟩ := Option.map_eq_some_iff.mp hb'
    exact Subscriber.reads_resume (h.reads b hb) _
  · by_cases hcreating : t.IsCreating
    · exact h.of_createAnswer hman ht hcreating hn hb
    · exact h.apart (apart_of_answer hman ht hr hn hcreating a)

theorem of_boot {settings : Settings} {suffix : String} {p : Provided}
    (h : boot settings suffix p = .ok s) : s.Tracked settings.mqtt [] := by
  obtain ⟨hsettings, hswitch, -⟩ := taken_of_boot h
  have hbooted := booted h
  have hnone : s.switching? = none := by
    rw [switching?, hbooted.subscriber]
    rfl
  have hfree {i : Nat} {u : Thread} {call : Call} (hu : s.thread? i = some u) :
      u.stage ≠ .inside call := by
    intro hc
    cases (hbooted.idle i u hu).1.symm.trans hc
  refine ⟨congrArg _ hsettings, fun b hb => ?_, ?_, fun _ => ?_, fun on hon => ?_,
    fun i u call hu _ hc => absurd hc (hfree hu), fun _ _ => hnone, fun on hon => ?_,
    fun i u on hu hc => absurd hc (hfree hu)⟩
  · rw [hbooted.subscriber] at hb
    cases hb
  · rw [hswitch]
    rfl
  · rw [hswitch]
    rfl
  · rw [hnone] at hon
    cases hon
  · rw [hnone] at hon
    cases hon

/-! ## A message is carried out -/

/-- Nobody keeps the subscriber from the output. -/
theorem unlocked (h : s.Tracked c log) (hserved : s.Served) (hman : s.Manned errand)
    (ht : s.thread? t.id = some t) (hr : t.role = .subscriber) :
    s.locked t (some .output) = false := by
  refine Bool.eq_false_iff.mpr fun hlocked => ?_
  obtain ⟨u, hmem, hu⟩ := List.any_eq_true.mp hlocked
  obtain ⟨hne, hholds⟩ := Bool.and_eq_true_iff.mp hu
  have hthread := hman.distinct.thread?_of_mem hmem
  have hinside : ∃ on, u.stage = .inside (.drive on) := by
    cases hstage : u.stage with
    | inside call =>
      simp only [holds, keeps, hstage, Bool.or_false, decide_eq_true_eq] at hholds
      obtain ⟨on, rfl⟩ := Call.eq_drive_of_lock? hholds
      exact ⟨on, rfl⟩
    | _ => simp [holds, keeps, hstage] at hholds
  obtain ⟨on, hc⟩ := hinside
  have hserving := hserved.alone u.id t.id ⟨u, hthread, h.driving _ u on hthread hc⟩ ⟨t, ht, hr⟩
  simp [hserving] at hne

/-- At a message that has named a state the output is driven, unless it has that state. -/
theorem intent_of_switching (h : s.Tracked c log) (hserved : s.Served) (hman : s.Manned errand)
    (ht : s.thread? t.id = some t) (hr : t.role = .subscriber) {b : Subscriber} {on : Bool}
    (hb : s.subscriber = some b) (hp : b.point = .switching on) : s.intent t =
      if s.switch.on = on then .proceed { s with subscriber := some (b.resume .done) }
      else .call (.drive on) := by
  simp only [intent, hr, hb, subscriberIntent, Subscriber.request_eq_drive.mpr hp,
    h.unlocked hserved hman ht hr, Bool.false_eq_true, if_false]
  by_cases hon : s.switch.on = on
  · rw [DeviceSwitch.set_of_eq hon, if_pos hon]
  · rw [DeviceSwitch.set_of_ne hon, if_neg hon]

end Tracked

end System

end EdgeGateway
