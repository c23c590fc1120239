import EdgeGateway.Proofs.Mqtt.Rank

/-!
# EdgeGateway.Proofs.Mqtt.Calls

The broker task and its subscriber as their client sees them.

* `ClientEvent`  : a call begins or ends, or the subscriber's thread is over.
* `Client`       : what a client can tell from the events it has seen (`Client.of`).
* `Broker.Shows` : the moves of a broker, with the event that each of them shows.
* `Mqtt.Built`   : how far the client has been set up, by the point where the task is.
* `Mqtt.Knows`   : the task's own record of its client is right.
-/

namespace EdgeGateway

inductive ClientCall where
  | bringUp
  | create
  | connect
  | disconnect
  | delete
  | tearDown
  | subscribe
  | unsubscribe
  deriving DecidableEq

inductive ClientEvent where
  | began (call : ClientCall)
  | ended (call : ClientCall) (ok : Bool)
  /-- the subscriber's thread is over; it starts when the creation of the client ends well -/
  | left
  deriving DecidableEq

structure Client where
  inside : Option ClientCall := none
  ready : Bool := false
  created : Bool := false
  /-- there is a subscriber -/
  attended : Bool := false
  /-- broker connects tried so far -/
  connects : Nat := 0
  /-- which of them has opened the session that is open -/
  session : Option Nat := none
  deriving DecidableEq

namespace Client

/-- A call has ended. Calls that undo something do so even when they fail. -/
def finish (k : Client) : ClientCall → Bool → Client
  | .bringUp, true => { k with ready := true }
  | .create, true => { k with created := true, attended := true }
  | .connect, true => { k with session := some k.connects }
  | .disconnect, _ => { k with session := none }
  | .delete, _ => { k with created := false }
  | .tearDown, _ => { k with ready := false }
  | _, _ => k

def see (k : Client) : ClientEvent → Client
  | .began call =>
    { k with
      inside := some call
      connects := if call = .connect then k.connects + 1 else k.connects }
  | .ended call ok => { k with inside := none }.finish call ok
  | .left => { k with attended := false }

def of (log : List ClientEvent) : Client := log.foldl see {}

@[simp] theorem of_nil : of [] = {} := rfl

@[simp] theorem of_append_singleton (log : List ClientEvent) (e : ClientEvent) :
    of (log ++ [e]) = (of log).see e := by
  simp [of]

@[simp] theorem finish_inside (k : Client) (call : ClientCall) (ok : Bool) :
    (k.finish call ok).inside = k.inside := by
  cases call <;> cases ok <;> rfl

@[simp] theorem finish_connects (k : Client) (call : ClientCall) (ok : Bool) :
    (k.finish call ok).connects = k.connects := by
  cases call <;> cases ok <;> rfl

@[simp] theorem see_began_inside (k : Client) (call : ClientCall) :
    (k.see (.began call)).inside = some call := rfl

@[simp] theorem see_ended_inside (k : Client) (call : ClientCall) (ok : Bool) :
    (k.see (.ended call ok)).inside = none := by
  simp [see]

@[simp] theorem see_began_attended (k : Client) (call : ClientCall) :
    (k.see (.began call)).attended = k.attended := rfl

@[simp] theorem see_left_inside (k : Client) : (k.see .left).inside = k.inside := rfl

@[simp] theorem see_ended_attended (k : Client) {call : ClientCall} (h : call ≠ .create)
    (ok : Bool) : (k.see (.ended call ok)).attended = k.attended := by
  cases call with
  | create => exact absurd rfl h
  | _ => cases ok <;> rfl

/-- One call at a time. -/
def Serves (k : Client) : ClientEvent → Prop
  | .began _ => k.inside = none
  | .ended call _ => k.inside = some call
  | .left => True

end Client

/-! ## What a broker shows to its client -/

def Mqtt.Request.call? : Mqtt.Request → Option ClientCall
  | .bringUp => some .bringUp
  | .create => some .create
  | .connect => some .connect
  | .disconnect => some .disconnect
  | .delete => some .delete
  | .tearDown => some .tearDown
  | _ => none

/-- A call tells the request it is made for. -/
theorem Mqtt.Request.eq_of_call? {q : Mqtt.Request} (q' : Mqtt.Request) {call : ClientCall}
    (h' : q'.call? = some call) (h : q.call? = some call) : q = q' := by
  cases q' <;> cases h' <;> cases q <;> cases h <;> rfl

theorem Mqtt.Request.ne_of_isOuter {q : Mqtt.Request} (h : q.isOuter = true) :
    q ≠ .create ∧ q ≠ .join := by
  constructor <;> rintro rfl <;> cases h

def Subscriber.Request.call? : Subscriber.Request → Option ClientCall
  | .subscribe => some .subscribe
  | .unsubscribe => some .unsubscribe
  | _ => none

theorem Subscriber.Request.of_call? {q : Subscriber.Request} {call : ClientCall}
    (h : q.call? = some call) : call = .subscribe ∨ call = .unsubscribe := by
  cases q <;> simp_all [call?]

theorem Client.see_service {call : ClientCall} (h : call = .subscribe ∨ call = .unsubscribe)
    (k : Client) (ok : Bool) :
    k.see (.began call) = { k with inside := some call } ∧
      k.see (.ended call ok) = { k with inside := none } := by
  rcases h with rfl | rfl <;> exact ⟨rfl, rfl⟩

namespace Broker

/-- A call begins without a change to the broker, but for a creation: it begins with the
subscriber made ready. -/
inductive Shows (c : MqttSettings) : Broker → Option ClientEvent → Broker → Prop where
  | plain {b : Broker} {r : Mqtt.Reply} : Mqtt.Fits b.task.request r →
      b.task.request.isOuter = true → b.task.request.call? = none →
      Shows c b none (b.replied r)
  | began {b : Broker} {call : ClientCall} : b.task.request.isOuter = true →
      b.task.request.call? = some call → Shows c b (some (.began call)) b
  | ended {b : Broker} {call : ClientCall} {r : Mqtt.Reply} : Mqtt.Fits b.task.request r →
      b.task.request.isOuter = true → b.task.request.call? = some call →
      Shows c b (some (.ended call (r = .done))) (b.replied r)
  | prepare {b : Broker} : b.task.request = .create → b.subscriber = none →
      Shows c b (some (.began .create)) { b with subscriber := some (.ofSettings c) }
  | created {b : Broker} : b.task.request = .create → b.subscriber.isSome = true →
      Shows c b (some (.ended .create true)) (b.replied .done)
  | notCreated {b : Broker} : b.task.request = .create → b.subscriber.isSome = true →
      Shows c b (some (.ended .create false)) ⟨b.task.resume .failed, none⟩
  | tell {b : Broker} {m : SubscriberMessage} {s : Subscriber}
      {inbox : Inbox SubscriberMessage} : b.task.request = .tell m → b.subscriber = some s →
      s.inbox.isOpen = true → s.inbox.offer s.isReceiving m = some inbox →
      Shows c b none ⟨b.task.resume .done, some { s with inbox }⟩
  | tellNobody {b : Broker} {m : SubscriberMessage} : b.task.request = .tell m →
      (∀ s, b.subscriber = some s → s.inbox.isOpen = false) →
      Shows c b none (b.replied .done)
  | join {b : Broker} : b.task.request = .join → b.subscriber = none →
      Shows c b none (b.replied .done)
  | receive {b : Broker} {op : Mqtt.Operation} {operations : Inbox Mqtt.Operation} :
      b.task.request = .receive → b.task.operations.take? = some (op, operations) →
      Shows c b none { b with task := { b.task with operations }.resume (.operation op) }
  | read {b : Broker} {limit : Option Nat} : b.task.request = .wait limit →
      b.task.pending.bits ≠ 0 → Shows c b none
        { b with task := { b.task with pending := {} }.resume (.commands b.task.pending) }
  | expire {b : Broker} {ms : Nat} : b.task.request = .wait (some ms) →
      b.task.pending.bits = 0 → Shows c b none (b.replied (.commands .empty))
  | servedPlain {b : Broker} {s : Subscriber} {r : Subscriber.Reply} : b.subscriber = some s →
      b.task.subscriber = true → Subscriber.Fits s.request r → s.request.call? = none →
      Shows c b none { b with subscriber := some (s.resume r) }
  | serviceBegan {b : Broker} {s : Subscriber} {call : ClientCall} : b.subscriber = some s →
      b.task.subscriber = true → s.request.call? = some call →
      Shows c b (some (.began call)) b
  | serviceEnded {b : Broker} {s : Subscriber} {call : ClientCall} {r : Subscriber.Reply} :
      b.subscriber = some s → b.task.subscriber = true → Subscriber.Fits s.request r →
      s.request.call? = some call →
      Shows c b (some (.ended call (r = .done))) { b with subscriber := some (s.resume r) }
  | take {b : Broker} {s : Subscriber} {m : SubscriberMessage}
      {inbox : Inbox SubscriberMessage} : b.subscriber = some s → b.task.subscriber = true →
      s.request = .receive → s.inbox.take? = some (m, inbox) →
      Shows c b none { b with subscriber := some ({ s with inbox }.resume (.message m)) }
  | report {b : Broker} {s : Subscriber} : b.subscriber = some s → b.task.subscriber = true →
      s.request = .report →
      Shows c b none ⟨b.task.offer .subscribeFailed, some (s.resume .done)⟩
  | leave {b : Broker} {s : Subscriber} : b.subscriber = some s → b.task.subscriber = true →
      s.request = .finished → Shows c b (some .left) { b with subscriber := none }

variable {c : MqttSettings} {b b' : Broker} {e : Option ClientEvent}

/-- A broker moves, or a call is about to be answered. -/
theorem Shows.move (h : Shows c b e b') :
    Move c b b' ∨ b' = b ∧ ∃ call, e = some (.began call) := by
  cases h with
  | plain hf ho _ => exact .inl (.reply hf ho)
  | began _ _ => exact .inr ⟨rfl, _, rfl⟩
  | ended hf ho _ => exact .inl (.reply hf ho)
  | prepare hq hs => exact .inl (.prepare hq hs)
  | created hq hs => exact .inl (.created hq hs)
  | notCreated hq hs => exact .inl (.notCreated hq hs)
  | tell hq hs ho hput => exact .inl (.tell hq hs ho hput)
  | tellNobody hq hs => exact .inl (.tellNobody hq hs)
  | join hq hs => exact .inl (.join hq hs)
  | receive hq htake => exact .inl (.receive hq htake)
  | read hq hb => exact .inl (.read hq hb)
  | expire hq hb => exact .inl (.expire hq hb)
  | servedPlain hs ht hf _ => exact .inl (.serve hs ht hf)
  | serviceBegan _ _ _ => exact .inr ⟨rfl, _, rfl⟩
  | serviceEnded hs ht hf _ => exact .inl (.serve hs ht hf)
  | take hs ht hq hi => exact .inl (.take hs ht hq hi)
  | report hs ht hq => exact .inl (.report hs ht hq)
  | leave hs ht hq => exact .inl (.leave hs ht hq)

theorem Shows.goes (h : Shows c b e b') : b.task.Goes b'.task := by
  rcases h.move with hm | ⟨rfl, -⟩
  · exact hm.goes
  · exact .same

theorem Sound.shows (h : Sound c b) (hs : Shows c b e b') : Sound c b' := by
  rcases hs.move with hm | ⟨rfl, -⟩
  · exact h.move hm
  · exact h

end Broker

/-! ## How far the client has been set up -/

namespace Mqtt

/-- How far the client has been set up, where `Mqtt.Sound` does not say it. -/
def Built (t : Mqtt) : Prop :=
  match t.point with
  | .creating => t.ready = true
  | .trying _ _ | .pausing _ _ | .checking _ _ | .connecting _ _ =>
    t.ready = true ∧ t.created = true ∧ t.connected = false
  | .subscribing _ | .receiving | .dropping =>
    t.ready = true ∧ t.created = true ∧ t.connected = true
  | .stoppingSubscriber _ | .joiningSubscriber _ =>
    (t.subscriber = true ∨ t.connected = true → t.created = true) ∧
      (t.created = true → t.ready = true)
  | .disconnecting _ =>
    (t.connected = true → t.created = true) ∧ (t.created = true → t.ready = true)
  | .deleting _ => t.created = true → t.ready = true
  | _ => True

theorem Turn.built {t t' : Mqtt} {q : Request} {r : Reply} (h : t.Sound) (hb : t.Built)
    (ht : Turn t q r t') : t'.Built := by
  cases ht with
  | acted hp _ hacts =>
    simp only [Sound, hp] at h
    obtain ⟨hr, hc, hn, hs⟩ := h.1
    cases hacts <;> simp [Built, goto, hr, hc, hn, hs]
  | prepared hp =>
    simp only [Sound, hp] at h
    simp [Built, h.1.1]
  | broughtUp hp =>
    simp only [Sound, hp] at h
    simp [Built, h.1.2.1]
  | _ hp => simp_all [Sound, Built, Down, goto, withDeferred]

theorem Receives.built {t t' : Mqtt} {op : Operation} (hb : t.Built) (hr : Receives t op t') :
    t'.Built := by
  cases hr with
  | subscribeFailed _ => exact hb
  | disconnected hp | exitLoop hp => simp_all [Built, goto]

theorem Reads.built {t t' : Mqtt} {cs : Commands} {limit : Option Nat} (h : t.Sound)
    (hb : t.Built) (hr : Reads t cs limit t') : t'.Built := by
  cases hr with
  | acted hp _ hacts =>
    simp only [Sound, hp] at h
    obtain ⟨hr, hc, hn, hs⟩ := h.1
    cases hacts <;> simp [Built, goto, hr, hc, hn, hs]
  | _ hp => simp_all [Built, goto]

theorem Goes.built {t t' : Mqtt} (h : t.Sound) (hb : t.Built) (hg : t.Goes t') : t'.Built := by
  cases hg with
  | same | heard _ | reported => exact hb
  | turned _ ht => exact ht.built h hb
  | @received op operations t' _ _ hr => exact hr.built (t := { t with operations }) hb
  | read _ _ hr => exact hr.built (t := { t with pending := {} }) h hb
  | expired _ _ hr => exact hr.built h hb

theorem point_of_bringUp {t : Mqtt} (hq : t.request = .bringUp) : t.point = .bringingUp := by
  have ht := turn_of_request hq nofun .bringUp
  generalize t.resume .done = t' at ht
  cases ht with
  | broughtUp hp => exact hp
  | disconnected _ hq | deleted _ hq | tornDown _ hq => rcases hq with hq | hq <;> cases hq

theorem point_of_connect {t : Mqtt} (hq : t.request = .connect) :
    ∃ phase n, t.point = .connecting phase n := by
  have ht := turn_of_request hq nofun .connect
  generalize t.resume .done = t' at ht
  cases ht with
  | connected hp => exact ⟨_, _, hp⟩
  | disconnected _ hq | deleted _ hq | tornDown _ hq => rcases hq with hq | hq <;> cases hq

theorem resume_of_connect {t : Mqtt} (hq : t.request = .connect) :
    ∃ phase, t.resume .done = { t with connected := true, point := .subscribing phase } := by
  obtain ⟨phase, n, hp⟩ := point_of_connect hq
  have ha := announcing_eq_none (t := t) (by simp [hq])
  exact ⟨phase, by simp [resume, ha, move, hp]⟩

/-- The task's own record of its client is right. -/
structure Knows (t : Mqtt) (k : Client) : Prop where
  ready : k.ready = t.ready
  created : k.created = t.created
  connected : k.session.isSome = t.connected

/-- What becomes of the client when a request has been answered. -/
def Request.shown (q : Request) (r : Reply) (k : Client) : Client :=
  match q.call? with
  | none => k
  | some call => k.see (.ended call (r = .done))

theorem Turn.knows {t t' : Mqtt} {r : Reply} {k : Client} (ha : t.announcing = none)
    (hk : t.Knows k) (ht : Turn t t.request r t') : t'.Knows (t.request.shown r k) := by
  obtain ⟨hr, hc, hn⟩ := hk
  generalize hq : t.request = q at ht ⊢
  cases ht with
  | disconnected hp hq' =>
    rcases hq' with rfl | rfl
    · exact ⟨hr, hc, rfl⟩
    · have hoff : t.connected = false := by simpa [request, ha, hp] using hq
      exact ⟨hr, hc, hn.trans hoff⟩
  | deleted hp hq' =>
    rcases hq' with rfl | rfl
    · exact ⟨hr, rfl, hn⟩
    · have hoff : t.created = false := by simpa [request, ha, hp] using hq
      exact ⟨hr, hc.trans hoff, hn⟩
  | tornDown hp hq' =>
    rcases hq' with rfl | rfl
    · exact ⟨rfl, hc, hn⟩
    · have hoff : t.ready = false := by simpa [request, ha, hp] using hq
      exact ⟨hr.trans hoff, hc, hn⟩
  | _ =>
    constructor <;>
      simp_all [Request.shown, Request.call?, Client.see, Client.finish, goto, withDeferred]

theorem Receives.knows {t t' : Mqtt} {op : Operation} {k : Client} (hk : t.Knows k)
    (hr : Receives t op t') : t'.Knows k := by
  obtain ⟨hr', hc, hn⟩ := hk
  cases hr with
  | subscribeFailed _ => exact ⟨hr', hc, hn⟩
  | disconnected _ => exact ⟨hr', hc, hn⟩
  | exitLoop _ => constructor <;> simpa [goto]

theorem Reads.knows {t t' : Mqtt} {cs : Commands} {limit : Option Nat} {k : Client}
    (hk : t.Knows k) (hr : Reads t cs limit t') : t'.Knows k := by
  obtain ⟨hr', hc, hn⟩ := hk
  cases hr with
  | abort _ _ => constructor <;> simpa
  | defer _ _ _ _ | retry _ _ _ | acted _ _ _ => exact ⟨hr', hc, hn⟩

theorem knows_resume {t : Mqtt} {r : Reply} {k : Client} (hk : t.Knows k)
    (hf : Fits t.request r) : (t.resume r).Knows (t.request.shown r k) := by
  cases ha : t.announcing with
  | none => exact (turn_of_fits ha hf).knows ha hk
  | some s =>
    have hq : t.request = .announce s := by simp only [request, ha]
    rw [hq]
    simp only [resume, ha]
    exact ⟨hk.ready, hk.created, hk.connected⟩

theorem request_offer (t : Mqtt) (op : Operation) : (t.offer op).request = t.request := rfl

theorem request_notify (t : Mqtt) (c : Command) : (t.notify c).request = t.request := by
  unfold Mqtt.notify
  split
  · split <;> rfl
  · rfl

theorem Knows.notify {t : Mqtt} {k : Client} (h : t.Knows k) (c : Command) :
    (t.notify c).Knows k := by
  unfold Mqtt.notify
  split
  · split <;> exact ⟨h.ready, h.created, h.connected⟩
  · exact ⟨h.ready, h.created, h.connected⟩

theorem Built.notify {t : Mqtt} (h : t.Built) (c : Command) : (t.notify c).Built := by
  unfold Mqtt.notify
  split
  · split <;> exact h
  · exact h

end Mqtt

end EdgeGateway
