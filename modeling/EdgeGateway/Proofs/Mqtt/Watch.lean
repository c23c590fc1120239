import EdgeGateway.Proofs.Mqtt.Calls
import EdgeGateway.Proofs.Mqtt.Stop

/-!
# EdgeGateway.Proofs.Mqtt.Watch

A broker with all that its client has seen.

* `Broker.Engaged` : what the call that is inside the client tells of the broker.
* `Watch`          : a broker and its log. The client serves one call at a time.
* `Watch.Sound`    : what holds from the start.

A watched broker comes to rest where the broker does, with no call inside the client
(`Watch.Move.falls`, `Watch.rest`).
-/

namespace EdgeGateway

/-- What the client can tell once it has seen what a move shows, if it shows anything. -/
def Client.next (k : Client) (e : Option ClientEvent) : Client := (e.map k.see).getD k

@[simp] theorem Client.next_none (k : Client) : k.next none = k := rfl
@[simp] theorem Client.next_some (k : Client) (e : ClientEvent) : k.next (some e) = k.see e := rfl

namespace Broker

variable {c : MqttSettings} {b b' : Broker} {e : Option ClientEvent} {k : Client}

theorem Shows.knows (h : Shows c b e b') (hk : b.task.Knows k) : b'.task.Knows (k.next e) := by
  have answered {q : Mqtt.Request} {r : Mqtt.Reply} (hq : b.task.request = q)
      (hf : Mqtt.Fits q r) : (b.task.resume r).Knows (q.shown r k) := by
    subst hq
    exact Mqtt.knows_resume hk hf
  cases h with
  | plain hf _ hq =>
    have ha := answered rfl hf
    rwa [Mqtt.Request.shown, hq] at ha
  | ended hf _ hq =>
    have ha := answered rfl hf
    rwa [Mqtt.Request.shown, hq] at ha
  | created hq _ => exact answered hq .create
  | notCreated hq _ => exact answered hq .createFailed
  | tell hq _ _ _ | tellNobody hq _ => exact answered hq .tell
  | join hq _ => exact answered hq .join
  | @receive op operations hq _ =>
    have hr := Mqtt.receives_of_request (t := { b.task with operations := operations }) hq op
    refine hr.knows ?_
    exact ⟨hk.ready, hk.created, hk.connected⟩
  | read hq _ =>
    have hr := Mqtt.reads_of_wait (t := { b.task with pending := {} }) hq b.task.pending
    refine hr.knows ?_
    exact ⟨hk.ready, hk.created, hk.connected⟩
  | expire hq _ => exact (Mqtt.reads_of_wait hq _).knows hk
  | began _ _ | prepare _ _ | serviceBegan _ _ _ | servedPlain _ _ _ _ | take _ _ _ _
  | report _ _ _ | leave _ _ _ => exact ⟨hk.ready, hk.created, hk.connected⟩
  | serviceEnded _ _ _ hq =>
    rw [Client.next_some, (Client.see_service (Subscriber.Request.of_call? hq) k _).2]
    exact ⟨hk.ready, hk.created, hk.connected⟩

/-- A subscriber of a created client. -/
def attended (b : Broker) : Bool := b.subscriber.isSome && b.task.subscriber

theorem Sound.no_subscriber_of_create (h : Sound c b) (hq : b.task.request = .create) :
    b.task.subscriber = false := by
  have htask := h.task
  simp only [Mqtt.Sound, Mqtt.point_of_create hq] at htask
  exact htask.2.2.1

/-- A task in a call goes on when the call has ended. -/
theorem Shows.of_call {call : ClientCall} (h : Shows c b e b')
    (hq : b.task.request.call? = some call) :
    (∃ ok, e = some (.ended call ok)) ∨ b'.task = b.task ∨
      b'.task = b.task.offer .subscribeFailed := by
  cases h with
  | plain _ _ hq' => cases hq.symm.trans hq'
  | ended _ _ hq' => cases hq.symm.trans hq'; exact .inl ⟨_, rfl⟩
  | created hq' _ | notCreated hq' _ => rw [hq'] at hq; cases hq; exact .inl ⟨_, rfl⟩
  | tell hq' _ _ _ | tellNobody hq' _ | join hq' _ | receive hq' _ | read hq' _ | expire hq' _ =>
    rw [hq'] at hq
    cases hq
  | began _ _ | prepare _ _ | servedPlain _ _ _ _ | serviceBegan _ _ _ | serviceEnded _ _ _ _
  | take _ _ _ _ | leave _ _ _ => exact .inr (.inl rfl)
  | report _ _ _ => exact .inr (.inr rfl)

/-- Where a call begins the task goes on from where it is. -/
theorem Shows.of_began {call : ClientCall} (h : Shows c b (some (.began call)) b') :
    (call = .subscribe ∨ call = .unsubscribe) ∨
      b.task.request.call? = some call ∧ b'.task = b.task := by
  cases h with
  | began _ hq => exact .inr ⟨hq, rfl⟩
  | prepare hq _ => exact .inr ⟨by rw [hq]; rfl, rfl⟩
  | serviceBegan _ _ hq => exact .inl (Subscriber.Request.of_call? hq)

theorem Shows.of_ended {call : ClientCall} {ok : Bool}
    (h : Shows c b (some (.ended call ok)) b') :
    (call = .subscribe ∨ call = .unsubscribe) ∨ b.task.request.call? = some call := by
  cases h with
  | ended _ _ hq => exact .inr hq
  | created hq _ | notCreated hq _ => exact .inr (by rw [hq]; rfl)
  | serviceEnded _ _ _ hq => exact .inl (Subscriber.Request.of_call? hq)

theorem Shows.attended (hb : Sound c b) (h : Shows c b e b') (hk : k.attended = b.attended) :
    (k.next e).attended = b'.attended := by
  have hg := h.goes
  unfold Broker.attended at hk ⊢
  cases h with
  | plain _ ho _ =>
    obtain ⟨hc, hj⟩ := Mqtt.Request.ne_of_isOuter ho
    rw [hg.subscriber_eq hc hj]
    exact hk
  | @ended call _ _ ho hq =>
    obtain ⟨hc, hj⟩ := Mqtt.Request.ne_of_isOuter ho
    have hcall : call ≠ .create := by
      rintro rfl
      exact hc (Mqtt.Request.eq_of_call? .create rfl hq)
    rw [hg.subscriber_eq hc hj, Client.next_some, Client.see_ended_attended k hcall]
    exact hk
  | prepare hq hs => simpa [hs, hb.no_subscriber_of_create hq] using hk
  | created hq hs => simp [replied, Mqtt.resume_of_create hq, hs, Client.see, Client.finish]
  | notCreated hq hs => simpa [Client.see, Client.finish, hb.no_subscriber_of_create hq] using hk
  | tell hq hs _ _ =>
    rw [hg.subscriber_eq (by simp [hq]) (by simp [hq])]
    simpa [hs] using hk
  | tellNobody hq _ | receive hq _ | read hq _ | expire hq _ =>
    rw [hg.subscriber_eq (by simp [hq]) (by simp [hq])]
    exact hk
  | join hq hs => simpa [replied, hs] using hk
  | began _ _ | serviceBegan _ _ _ => exact hk
  | serviceEnded hs _ _ hq =>
    rw [Client.next_some, (Client.see_service (Subscriber.Request.of_call? hq) k _).2]
    simpa [hs] using hk
  | servedPlain hs _ _ _ | take hs _ _ _ => simpa [hs] using hk
  | report hs _ _ => simpa [hs, Mqtt.offer] using hk
  | leave _ _ _ => simp [Client.see]

/-- The broker waits for an answer to the call. -/
def Awaits (b : Broker) (call : ClientCall) : Prop :=
  (b.task.request.call? = some call ∧ (call = .create → b.subscriber.isSome = true)) ∨
  ∃ s, b.subscriber = some s ∧ b.task.subscriber = true ∧ s.request.call? = some call

/-- What the call that is inside the client tells of the broker. -/
def Engaged (b : Broker) : Option ClientCall → Prop
  | some call => b.Awaits call
  | none => b.task.point = .creating → b.subscriber = none

theorem Sound.not_creating (h : Sound c b) (hs : b.task.subscriber = true) :
    b.task.point ≠ .creating := by
  intro hp
  have htask := h.task
  simp only [Mqtt.Sound, hp] at htask
  rw [htask.2.2.1] at hs
  cases hs

/-- A task that comes to create its client has no subscriber yet. -/
theorem Sound.unattended (h : Sound c b) {t : Mqtt} (hg : b.task.Goes t)
    (hj : b.task.request ≠ .join) (hp : b.task.point = .creating → b.subscriber = none)
    (hp' : t.point = .creating) : b.subscriber = none := by
  by_cases hat : b.task.point = .creating
  · exact hp hat
  · have hc : b.task.request ≠ .create := fun hq => hat (Mqtt.point_of_create hq)
    have ht := hg.sound h.task
    simp only [Mqtt.Sound, hp'] at ht
    exact h.nobody ((hg.subscriber_eq hc hj).symm.trans ht.2.2.1) hat

theorem Awaits.by_subscriber {call : ClientCall} (h : b.Awaits call)
    (hq : b.task.request.call? = none) :
    ∃ s, b.subscriber = some s ∧ b.task.subscriber = true ∧ s.request.call? = some call :=
  h.resolve_left fun hl => nomatch hq.symm.trans hl.1

theorem Awaits.by_task {call : ClientCall} {s : Subscriber} (h : b.Awaits call)
    (hs : b.subscriber = some s) (hq : s.request.call? = none) :
    b.task.request.call? = some call ∧ (call = .create → b.subscriber.isSome = true) := by
  refine h.resolve_right ?_
  rintro ⟨s', hs', -, hq'⟩
  cases hs.symm.trans hs'
  cases hq.symm.trans hq'

/-- Nothing is shown as long as the same call is waited for. -/
theorem Shows.awaits {call : ClientCall} (h : Shows c b none b') (ha : b.Awaits call) :
    b'.Awaits call := by
  have hg := h.goes
  -- the task goes on while its subscriber is in a call
  have kept (hq : b.task.request.call? = none) (hc : b.task.request ≠ .create)
      (hj : b.task.request ≠ .join) (hs : b'.subscriber = b.subscriber) : b'.Awaits call := by
    obtain ⟨s, hs', ht, hcall⟩ := ha.by_subscriber hq
    exact .inr ⟨s, hs.trans hs', (hg.subscriber_eq hc hj).trans ht, hcall⟩
  -- the subscriber goes on while the task is in a call
  have served {s s' : Subscriber} (hs : b.subscriber = some s) (hq : s.request.call? = none)
      (hreq : b'.task.request = b.task.request) (hs' : b'.subscriber = some s') :
      b'.Awaits call :=
    .inl ⟨by rw [hreq]; exact (ha.by_task hs hq).1, fun _ => by rw [hs']; rfl⟩
  cases h with
  | plain _ ho hq =>
    obtain ⟨hc, hj⟩ := Mqtt.Request.ne_of_isOuter ho
    exact kept hq hc hj rfl
  | tellNobody hq _ | receive hq _ | read hq _ | expire hq _ =>
    exact kept (by rw [hq]; rfl) (by simp [hq]) (by simp [hq]) rfl
  | @tell m s inbox hq hs _ _ =>
    obtain ⟨s', hs', ht, hcall⟩ := ha.by_subscriber (by rw [hq]; rfl)
    cases hs.symm.trans hs'
    exact .inr ⟨_, rfl, (hg.subscriber_eq (by simp [hq]) (by simp [hq])).trans ht, hcall⟩
  | join hq hs =>
    obtain ⟨s, hs', -⟩ := ha.by_subscriber (by rw [hq]; rfl)
    cases hs.symm.trans hs'
  | servedPlain hs _ _ hq => exact served hs hq rfl rfl
  | take hs _ hq _ => exact served hs (by rw [hq]; rfl) rfl rfl
  | report hs _ hq => exact served hs (by rw [hq]; rfl) (Mqtt.request_offer _ _) rfl

theorem Shows.unattended (hb : Sound c b) (h : Shows c b none b')
    (hp : b.task.point = .creating → b.subscriber = none) :
    b'.task.point = .creating → b'.subscriber = none := by
  intro hp'
  have hg := h.goes
  cases h with
  | plain _ ho _ => exact hb.unattended hg (Mqtt.Request.ne_of_isOuter ho).2 hp hp'
  | tellNobody hq _ | receive hq _ | read hq _ | expire hq _ =>
    exact hb.unattended hg (by simp [hq]) hp hp'
  | tell hq hs _ _ => cases hs.symm.trans (hb.unattended hg (by simp [hq]) hp hp')
  | join _ hs => exact hs
  | servedPlain _ ht _ _ | take _ ht _ _ | report _ ht _ => exact absurd hp' (hb.not_creating ht)

theorem Shows.engaged (hb : Sound c b) (h : Shows c b e b') (hk : b.Engaged k.inside) :
    b'.Engaged (k.next e).inside := by
  cases e with
  | none =>
    cases hi : k.inside with
    | none =>
      rw [hi] at hk
      simpa [Engaged, hi] using h.unattended hb hk
    | some call =>
      rw [hi] at hk
      simpa [Engaged, hi] using h.awaits hk
  | some e =>
    have hg := h.goes
    cases h with
    | began ho hq =>
      refine .inl ⟨hq, ?_⟩
      rintro rfl
      have hc := Mqtt.Request.eq_of_call? .create rfl hq
      exact absurd hc (Mqtt.Request.ne_of_isOuter ho).1
    | prepare hq _ => exact .inl ⟨by rw [hq]; rfl, fun _ => rfl⟩
    | serviceBegan hs ht hq => exact .inr ⟨_, hs, ht, hq⟩
    | ended _ ho hq =>
      obtain ⟨hc, hj⟩ := Mqtt.Request.ne_of_isOuter ho
      simp only [Client.next_some, Client.see_ended_inside]
      apply hb.unattended hg hj
      intro hp
      have ha := Mqtt.announcing_eq_none (t := b.task) fun s hs => by
        simp [hs, Mqtt.Request.call?] at hq
      exact absurd ((Mqtt.request_iff ha).1.mpr hp) hc
    | created hq _ =>
      simp only [Client.next_some, Client.see_ended_inside]
      simp [Engaged, replied, Mqtt.resume_of_create hq]
    | notCreated _ _ =>
      simp only [Client.next_some, Client.see_ended_inside]
      exact fun _ => rfl
    | serviceEnded _ ht _ _ =>
      simp only [Client.next_some, Client.see_ended_inside]
      exact fun hp => absurd hp (hb.not_creating ht)
    | leave hs ht hq =>
      simp only [Client.next_some, Client.see_left_inside]
      cases hi : k.inside with
      | none => exact fun _ => rfl
      | some call =>
        rw [hi] at hk
        obtain ⟨hcall, -⟩ := Awaits.by_task hk hs (by rw [hq]; rfl)
        refine .inl ⟨hcall, ?_⟩
        rintro rfl
        have hc := Mqtt.Request.eq_of_call? .create rfl hcall
        exact absurd (Mqtt.point_of_create hc) (hb.not_creating ht)

theorem Event.engaged {call : Option ClientCall} (he : Event b b') (h : b.Engaged call) :
    b'.Engaged call := by
  cases he with
  | command cmd =>
    have hq : (b.notify cmd).task.request = b.task.request := Mqtt.request_notify _ _
    have hs : (b.notify cmd).task.subscriber = b.task.subscriber := Mqtt.notify_subscriber _ _
    have hp : (b.notify cmd).task.point = b.task.point := Mqtt.notify_point _ _
    cases call with
    | none => exact fun hat => h (hp.symm.trans hat)
    | some call =>
      simp only [Engaged, Awaits, hq, hs]
      exact h
  | lost => exact h
  | message payload =>
    cases call with
    | none => exact fun hp => by simp [h hp]
    | some call =>
      rcases h with ⟨hq, hc⟩ | ⟨s, hs, ht, hq⟩
      · exact .inl ⟨hq, fun heq => by simp [hc heq]⟩
      · exact .inr ⟨{ s with inbox := s.inbox.offerOrDrop s.isReceiving (.message payload) },
          by simp [hs], ht, hq⟩

theorem Event.knows (he : Event b b') (h : b.task.Knows k) : b'.task.Knows k := by
  cases he with
  | command cmd => exact h.notify cmd
  | lost | message _ => exact ⟨h.ready, h.created, h.connected⟩

theorem Event.built (he : Event b b') (h : b.task.Built) : b'.task.Built := by
  cases he with
  | command cmd => exact h.notify cmd
  | lost | message _ => exact h

theorem Event.attended (he : Event b b') : b'.attended = b.attended := by
  cases he with
  | command cmd => simp [Broker.attended, notify]
  | lost => rfl
  | message _ => simp [Broker.attended]

/-- A client that serves nobody can be turned to, if the broker can go on at all. -/
theorem exists_shows (hm : Move c b b') (hp : b.task.point = .creating → b.subscriber = none) :
    ∃ e b', Shows c b e b' ∧ ∀ e' ∈ e, (∃ call, e' = .began call) ∨ e' = .left := by
  cases hm with
  | reply hf ho =>
    cases hq : b.task.request.call? with
    | none => exact ⟨_, _, .plain hf ho hq, by simp⟩
    | some call => exact ⟨_, _, .began ho hq, by simp⟩
  | prepare hq hs => exact ⟨_, _, .prepare hq hs, by simp⟩
  | created hq hs | notCreated hq hs => simp [hp (Mqtt.point_of_create hq)] at hs
  | tell hq hs ho hput => exact ⟨_, _, .tell hq hs ho hput, by simp⟩
  | tellNobody hq hs => exact ⟨_, _, .tellNobody hq hs, by simp⟩
  | join hq hs => exact ⟨_, _, .join hq hs, by simp⟩
  | receive hq htake => exact ⟨_, _, .receive hq htake, by simp⟩
  | read hq hb => exact ⟨_, _, .read hq hb, by simp⟩
  | expire hq hb => exact ⟨_, _, .expire hq hb, by simp⟩
  | @serve s r hs ht hf =>
    cases hq : s.request.call? with
    | none => exact ⟨_, _, .servedPlain hs ht hf hq, by simp⟩
    | some call => exact ⟨_, _, .serviceBegan hs ht hq, by simp⟩
  | take hs ht hq hi => exact ⟨_, _, .take hs ht hq hi, by simp⟩
  | report hs ht hq => exact ⟨_, _, .report hs ht hq, by simp⟩
  | leave hs ht hq => exact ⟨_, _, .leave hs ht hq, by simp⟩

theorem Awaits.exists_shows {call : ClientCall} (h : b.Awaits call) :
    ∃ ok b', Shows c b (some (.ended call ok)) b' := by
  rcases h with ⟨hq, hs⟩ | ⟨s, hs, ht, hq⟩
  · rcases Mqtt.request_cases b.task.request with ⟨ho, r, hf⟩ | hr | hr
    · exact ⟨_, _, .ended hf ho hq⟩
    · rw [hr] at hq
      cases hq
      exact ⟨_, _, .created hr (hs rfl)⟩
    · rcases hr with ⟨m, hr⟩ | hr | hr | ⟨limit, hr⟩ | hr <;>
        simp [hr, Mqtt.Request.call?] at hq
  · rcases Subscriber.request_cases s.request with ⟨r, hf⟩ | hr | hr | hr
    · exact ⟨_, _, .serviceEnded hs ht hf hq⟩
    all_goals simp [hr, Subscriber.Request.call?] at hq

end Broker

/-! ## A broker under watch -/

structure Watch where
  broker : Broker
  log : List ClientEvent := []

namespace Watch

def client (w : Watch) : Client := .of w.log

/-- The client serves one call at a time. -/
inductive Move (c : MqttSettings) : Watch → Watch → Prop where
  | mk {w : Watch} {e : Option ClientEvent} {b : Broker} : w.broker.Shows c e b →
      (∀ e' ∈ e, w.client.Serves e') → Move c w ⟨b, w.log ++ e.toList⟩

inductive Step (c : MqttSettings) : Watch → Watch → Prop where
  | move {w w' : Watch} : Move c w w' → Step c w w'
  | event {w : Watch} {b : Broker} : w.broker.Event b → Step c w { w with broker := b }

def Reachable (c : MqttSettings) (w : Watch) : Prop :=
  Relation.ReflTransGen (Step c) { broker := { task := .ofSettings c } } w

variable {c : MqttSettings} {w w' : Watch}

@[simp] theorem client_append (b : Broker) (log : List ClientEvent) (e : Option ClientEvent) :
    client ⟨b, log ++ e.toList⟩ = (Client.of log).next e := by
  cases e <;> simp [client]

theorem Move.silent {b : Broker} (hs : w.broker.Shows c none b) :
    Move c w { w with broker := b } := by
  simpa using Move.mk hs nofun

theorem Move.shown {b : Broker} {e : ClientEvent} (hs : w.broker.Shows c (some e) b)
    (he : w.client.Serves e) : Move c w ⟨b, w.log ++ [e]⟩ :=
  .mk hs (by rintro _ ⟨⟩; exact he)

structure Sound (c : MqttSettings) (w : Watch) : Prop where
  broker : w.broker.Sound c
  built : w.broker.task.Built
  knows : w.broker.task.Knows w.client
  attended : w.client.attended = w.broker.attended
  engaged : w.broker.Engaged w.client.inside

namespace Sound

theorem start (c : MqttSettings) : Sound c { broker := { task := .ofSettings c } } where
  broker := .start c
  built := trivial
  knows := ⟨rfl, rfl, rfl⟩
  attended := rfl
  engaged _ := rfl

theorem move (h : Sound c w) (hm : Move c w w') : Sound c w' := by
  obtain ⟨hs, -⟩ := hm
  constructor <;> simp only [client_append]
  · exact h.broker.shows hs
  · exact hs.goes.built h.broker.task h.built
  · exact hs.knows h.knows
  · exact hs.attended h.broker h.attended
  · exact hs.engaged h.broker h.engaged

theorem step (h : Sound c w) (hs : Step c w w') : Sound c w' := by
  cases hs with
  | move hm => exact h.move hm
  | event he =>
    exact ⟨h.broker.event he, he.built h.built, he.knows h.knows,
      h.attended.trans he.attended.symm, he.engaged h.engaged⟩

theorem steps (h : Sound c w) (hs : Relation.ReflTransGen (Step c) w w') : Sound c w' := by
  induction hs with
  | refl => exact h
  | tail _ hs ih => exact ih.step hs

end Sound

def notify (w : Watch) (cmd : Command) : Watch := { w with broker := w.broker.notify cmd }

theorem Reachable.sound (h : Reachable c w) : Sound c w := (Sound.start c).steps h

/-! ### Coming to rest -/

def measure (c : MqttSettings) (w : Watch) : ℕ ×ₗ ℕ :=
  let m := ofLex (w.broker.measure c)
  toLex (m.1, 2 * m.2 + w.client.inside.isNone.toNat)

theorem Move.falls (h : Sound c w) (hm : Move c w w') : w'.measure c < w.measure c := by
  obtain ⟨hs, hserves⟩ := hm
  rename_i e b
  rw [measure, measure, Prod.Lex.toLex_lt_toLex]
  rcases hs.move with hmove | ⟨rfl, call, rfl⟩
  · have hlt := hmove.falls h.broker
    have hle := Bool.toNat_le (client ⟨b, w.log ++ e.toList⟩).inside.isNone
    rcases Prod.Lex.lt_iff.mp hlt with hl | ⟨he, hr⟩
    · exact .inl hl
    · exact .inr ⟨he, by dsimp only at hr ⊢; omega⟩
  · have hfree : w.client.inside = none := hserves _ rfl
    have hin : (client ⟨w.broker, w.log ++ [.began call]⟩).inside = some call := by
      simp [client]
    exact .inr ⟨rfl, by simp [hfree, hin]⟩

theorem rest (h : Sound c w) (hr : AtRest (Move c) w) :
    w.client.inside = none ∧ AtRest (Broker.Move c) w.broker := by
  have hengaged := h.engaged
  cases hi : w.client.inside with
  | some call =>
    rw [hi] at hengaged
    obtain ⟨ok, b, hs⟩ := hengaged.exists_shows (c := c)
    exact absurd (.mk hs (by rintro _ ⟨⟩; exact hi)) (hr _)
  | none =>
    rw [hi] at hengaged
    refine ⟨rfl, ?_⟩
    intro b' hm
    obtain ⟨e, b, hs, he⟩ := Broker.exists_shows hm hengaged
    have hserves : ∀ e' ∈ e, w.client.Serves e' := by
      intro e' hmem
      rcases he e' hmem with ⟨call, rfl⟩ | rfl
      · exact hi
      · trivial
    exact hr _ (.mk hs hserves)

/-! ### The first session -/

/-- The client has been created, and the first try is under way. -/
def inFirstConnect (c : MqttSettings) : Watch where
  broker := .inFirstConnect c
  log := [.began .bringUp, .ended .bringUp true, .began .create, .ended .create true,
    .began .connect]

theorem reachable_inFirstConnect {c : MqttSettings} (h : 1 ≤ c.retryPolicy.attempts) :
    Reachable c (inFirstConnect c) := by
  let w₀ : Watch := { broker := { task := .ofSettings c } }
  let w₁ : Watch := { w₀ with broker := w₀.broker.replied .done }
  let w₂ : Watch := { w₁ with broker := w₁.broker.replied .done }
  let w₃ : Watch := { w₂ with broker := w₂.broker.replied .done }
  let w₄ : Watch := ⟨w₃.broker, [.began .bringUp]⟩
  let w₅ : Watch := ⟨w₄.broker.replied .done, [.began .bringUp, .ended .bringUp true]⟩
  let w₆ : Watch := ⟨{ w₅.broker with subscriber := some (.ofSettings c) },
    w₅.log ++ [.began .create]⟩
  let w₇ : Watch := ⟨w₆.broker.replied .done, w₆.log ++ [.ended .create true]⟩
  let w₈ : Watch := { w₇ with broker := w₇.broker.replied .done }
  have s₁ : Move c w₀ w₁ := .silent (.plain .proceed rfl rfl)
  have s₂ : Move c w₁ w₂ := .silent (.plain .announce rfl rfl)
  have s₃ : Move c w₂ w₃ := .silent (.plain .proceed rfl rfl)
  have s₄ : Move c w₃ w₄ := .shown (.began rfl rfl) rfl
  have s₅ : Move c w₄ w₅ := .shown (.ended (r := .done) .bringUp rfl rfl) rfl
  have s₆ : Move c w₅ w₆ := .shown (.prepare rfl rfl) rfl
  have s₇ : Move c w₆ w₇ := .shown (.created rfl rfl) rfl
  have s₈ : Move c w₇ w₈ := .silent (.plain .proceed rfl rfl)
  have hn : ¬ c.retryPolicy.attempts < 1 := by omega
  have h₈ : w₈.broker.task = w₇.broker.task.goto (.checking .setup 1) := by
    show (if c.retryPolicy.attempts < 1 then _ else _) = _
    rw [if_neg hn]
    rfl
  have hq : w₈.broker.task.request = .askDefaultReady := by rw [h₈]; rfl
  let w₉ : Watch := { w₈ with broker := w₈.broker.replied (.flag true) }
  have s₉ : Move c w₈ w₉ := .silent (.plain (hq ▸ .askDefaultReady) (hq ▸ rfl) (hq ▸ rfl))
  have h₉ : w₉.broker = .inFirstConnect c := by
    show (w₈.broker.replied (.flag true)) = _
    rw [Broker.replied, h₈]
    rfl
  have hq' : w₉.broker.task.request = .connect := by rw [h₉]; rfl
  have s₁₀ : Move c w₉ ⟨w₉.broker, w₉.log ++ [.began .connect]⟩ :=
    .shown (.began (hq' ▸ rfl) (hq' ▸ rfl)) rfl
  rw [h₉] at s₁₀
  exact (((((((((Relation.ReflTransGen.single (.move s₁)).tail (.move s₂)).tail
    (.move s₃)).tail (.move s₄)).tail (.move s₅)).tail (.move s₆)).tail (.move s₇)).tail
    (.move s₈)).tail (.move s₉)).tail (.move s₁₀)

/-- The broker of the first session has gone away, and a new connect is under way. -/
def inReconnect (c : MqttSettings) : Watch where
  broker := { Broker.started c {} with
    task := { (Broker.started c {}).task with
      connected := false
      announcing := none
      point := .connecting .reconnect 1 } }
  log := (inFirstConnect c).log ++ [.ended .connect true, .began .disconnect,
    .ended .disconnect false, .began .connect]

theorem reachable_inReconnect :
    Reachable { maxRetries := 3 } (inReconnect { maxRetries := 3 }) := by
  let c : MqttSettings := { maxRetries := 3 }
  let w₀ := inFirstConnect c
  let w₁ : Watch := ⟨w₀.broker.replied .done, w₀.log ++ [.ended .connect true]⟩
  let w₂ : Watch := { w₁ with broker := .started c {} }
  let w₃ : Watch := { w₂ with broker := w₂.broker.replied .done }
  let w₄ : Watch := { w₃ with broker :=
    { w₃.broker with task := w₃.broker.task.offer .disconnected } }
  let w₅ : Watch := { w₄ with broker :=
    { w₄.broker with task := Mqtt.resume w₃.broker.task (.operation .disconnected) } }
  let w₆ : Watch := ⟨w₅.broker, w₅.log ++ [.began .disconnect]⟩
  let w₇ : Watch := ⟨w₆.broker.replied .failed, w₆.log ++ [.ended .disconnect false]⟩
  let w₈ : Watch := { w₇ with broker := w₇.broker.replied .done }
  let w₉ : Watch := { w₈ with broker := w₈.broker.replied (.flag true) }
  have s₁ : Move c w₀ w₁ := .shown (.ended (r := .done) .connect rfl rfl) rfl
  have s₂ : Move c w₁ w₂ := .silent (.tell (b := w₁.broker) rfl rfl rfl rfl)
  have s₃ : Move c w₂ w₃ := .silent (.plain .announce rfl rfl)
  have s₄ : Step c w₃ w₄ := .event .lost
  have s₅ : Move c w₄ w₅ := .silent (.receive (b := w₄.broker) rfl rfl)
  have s₆ : Move c w₅ w₆ := .shown (.began rfl rfl) rfl
  have s₇ : Move c w₆ w₇ := .shown (.ended (r := .failed) .disconnectFailed rfl rfl) rfl
  have s₈ : Move c w₇ w₈ := .silent (.plain .proceed rfl rfl)
  have s₉ : Move c w₈ w₉ := .silent (.plain .askDefaultReady rfl rfl)
  have s₁₀ : Move c w₉ (inReconnect c) := .shown (.began (b := w₉.broker) rfl rfl) rfl
  exact ((((((((((reachable_inFirstConnect (by decide)).tail (.move s₁)).tail (.move s₂)).tail
    (.move s₃)).tail s₄).tail (.move s₅)).tail (.move s₆)).tail (.move s₇)).tail
    (.move s₈)).tail (.move s₉)).tail (.move s₁₀)

end Watch

end EdgeGateway
