import EdgeGateway.Proofs.History
import EdgeGateway.Proofs.Mqtt.Watch
import Mathlib.Data.List.Induction

/-!
# EdgeGateway.Proofs.Mqtt.Brackets

The calls of the message client are well bracketed (`Watch.calls_bracketed`).

* `Client.Allows` : whether an event may come, by all that has come before it.
* `Lawful`        : a log in which every event was allowed. What was done is then undone once
  before it is done again (`Lawful.undone_once`).
* `Broker.Staffed` : the subscriber runs until the task has told it to stop.
-/

namespace EdgeGateway

/-- The call that undoes what a call has done. -/
def ClientCall.undo? : ClientCall → Option ClientCall
  | .bringUp => some .tearDown
  | .create => some .delete
  | .connect => some .disconnect
  | _ => none

namespace Client

/-- What a call may find when it begins. -/
def Admits (k : Client) : ClientCall → Prop
  | .bringUp => k.ready = false ∧ k.created = false ∧ k.session = none ∧ k.attended = false
  | .create => k.ready = true ∧ k.created = false ∧ k.session = none ∧ k.attended = false
  | .connect => k.created = true ∧ k.session = none
  | .disconnect => k.created = true ∧ k.session.isSome = true
  | .delete => k.created = true ∧ k.session = none ∧ k.attended = false
  | .tearDown => k.ready = true ∧ k.created = false ∧ k.session = none ∧ k.attended = false
  | .subscribe | .unsubscribe => k.created = true ∧ k.attended = true

def Allows (k : Client) (e : ClientEvent) : Prop :=
  k.Serves e ∧
  match e with
  | .began call => k.Admits call
  | .ended _ _ => True
  | .left => k.attended = true

/-- Nothing is outstanding. -/
def Idle (k : Client) : Prop :=
  k.inside = none ∧ k.ready = false ∧ k.created = false ∧ k.session = none ∧ k.attended = false

/-- What a call has done is there. -/
def holds (k : Client) : ClientCall → Bool
  | .bringUp => k.ready
  | .create => k.created
  | .connect => k.session.isSome
  | _ => false

theorem holds_undone {call undo : ClientCall} (h : call.undo? = some undo) (k : Client)
    (ok : Bool) : (k.see (.ended undo ok)).holds call = false := by
  cases call <;> cases h <;> rfl

theorem holds_see {call undo : ClientCall} (h : call.undo? = some undo) (k : Client)
    {e : ClientEvent} (hdone : e ≠ .ended call true) (hundone : ∀ ok, e ≠ .ended undo ok) :
    (k.see e).holds call = k.holds call := by
  cases e with
  | began _ | left => cases call <;> rfl
  | ended x ok => cases call <;> cases h <;> cases x <;> cases ok <;> simp_all [holds, see, finish]

theorem Admits.holds {call undo : ClientCall} (h : call.undo? = some undo) {k : Client} :
    (k.Admits call → k.holds call = false) ∧ (k.Admits undo → k.holds call = true) := by
  cases call <;> cases h <;> simp_all [Admits, Client.holds]

/-- Since a call did something it has been undone `n` times, or is being undone. -/
def Undoing (k : Client) (call undo : ClientCall) (n : Nat) : Prop :=
  (n = 0 ∧ k.holds call = true ∧ k.inside ≠ some undo) ∨
  (n = 1 ∧ (k.inside = some undo ∨ k.holds call = false))

theorem Undoing.start {call undo : ClientCall} (h : call.undo? = some undo) (k : Client) :
    (k.see (.ended call true)).Undoing call undo 0 := by
  left
  cases call <;> cases h <;> simp [holds, see, finish]

theorem Undoing.see {call undo : ClientCall} {k : Client} {n : Nat} {e : ClientEvent}
    (h : k.Undoing call undo n) (hundo : call.undo? = some undo) (he : k.Allows e)
    (hdone : e ≠ .ended call true) :
    (k.see e).Undoing call undo (n + if e = .began undo then 1 else 0) := by
  obtain ⟨hserves, hallows⟩ := he
  cases e with
  | began x =>
    have hholds := holds_see hundo k hdone (by simp)
    rcases h with ⟨rfl, hon, hin⟩ | ⟨rfl, hin⟩
    · by_cases hx : x = undo
      · subst hx
        exact .inr ⟨by simp, .inl rfl⟩
      · exact .inl ⟨by simp [hx], hholds.trans hon, by simpa using hx⟩
    · -- nothing is left to undo
      have hoff : k.holds call = false :=
        hin.resolve_left (by simp [show k.inside = none from hserves])
      have hx : x ≠ undo := by
        rintro rfl
        rw [(Admits.holds hundo).2 hallows] at hoff
        cases hoff
      exact .inr ⟨by simp [hx], .inr (hholds.trans hoff)⟩
  | ended x ok =>
    have hx : k.inside = some x := hserves
    by_cases hxu : x = undo
    · subst hxu
      rcases h with ⟨-, -, hin⟩ | ⟨rfl, -⟩
      · exact absurd hx hin
      · exact .inr ⟨by simp, .inr (holds_undone hundo k ok)⟩
    · have hholds := holds_see hundo k hdone (by simp [hxu])
      rcases h with ⟨rfl, hon, -⟩ | ⟨rfl, hin⟩
      · exact .inl ⟨by simp, hholds.trans hon, by simp⟩
      · have hoff : k.holds call = false := hin.resolve_left (by simp [hx, hxu])
        exact .inr ⟨by simp, .inr (hholds.trans hoff)⟩
  | left =>
    have hholds := holds_see hundo k hdone (by simp)
    simpa [Undoing, hholds] using h

end Client

/-! ## Lawful logs -/

def Lawful (log : List ClientEvent) : Prop :=
  ∀ l₁ e l₂, log = l₁ ++ e :: l₂ → (Client.of l₁).Allows e

namespace Lawful

theorem nil : Lawful [] := by
  intro l₁ e l₂ h
  simp at h

theorem append_singleton {log : List ClientEvent} {e : ClientEvent} (h : Lawful log)
    (he : (Client.of log).Allows e) : Lawful (log ++ [e]) := by
  have h : Abides (fun l e => (Client.of l).Allows e) log := h
  exact h.append_singleton he

/-- Between a call that did something and the next of its kind, it is undone just once. -/
theorem undone_once {log : List ClientEvent} (h : Lawful log) {call undo : ClientCall}
    (hundo : call.undo? = some undo) {l₁ l₂ l₃ : List ClientEvent}
    (hlog : log = l₁ ++ .ended call true :: l₂ ++ .began call :: l₃)
    (hlast : .ended call true ∉ l₂) : l₂.count (.began undo) = 1 := by
  have along (p q : List ClientEvent) (hp : l₂ = p ++ q) :
      (Client.of (l₁ ++ .ended call true :: p)).Undoing call undo (p.count (.began undo)) := by
    induction p using List.reverseRecOn generalizing q with
    | nil =>
      rw [Client.of_append_singleton]
      exact .start hundo _
    | append_singleton p e ih =>
      have hp' : l₂ = p ++ e :: q := by simpa using hp
      have hsplit : log = (l₁ ++ .ended call true :: p) ++ e :: (q ++ .began call :: l₃) := by
        simp [hlog, hp']
      have he : e ≠ .ended call true := by
        rintro rfl
        exact hlast (by simp [hp'])
      have hcount : (p ++ [e]).count (.began undo) =
          p.count (.began undo) + if e = .began undo then 1 else 0 := by
        simp [List.count_singleton]
      rw [hcount, ← List.cons_append, ← List.append_assoc, Client.of_append_singleton]
      exact (ih (e :: q) hp').see hundo (h _ _ _ hsplit) he
  obtain ⟨hfree, hadmits⟩ := h _ _ _ hlog
  have hoff := (Client.Admits.holds hundo).1 hadmits
  rcases along l₂ [] (by simp) with ⟨-, hon, -⟩ | ⟨hone, -⟩
  · rw [hoff] at hon
    cases hon
  · exact hone

end Lawful

/-! ## The task calls its client where it may -/

namespace Mqtt

theorem Sound.created_of_subscriber {t : Mqtt} (h : t.Sound) (hb : t.Built)
    (hs : t.subscriber = true) : t.created = true := by
  cases hp : t.point <;> simp_all [Sound, Built, Down]

theorem Knows.admits {t : Mqtt} {k : Client} (hk : t.Knows k) (h : t.Sound) (hb : t.Built)
    (ha : k.attended = true → t.subscriber = true) {call : ClientCall}
    (hq : t.request.call? = some call) : k.Admits call := by
  obtain ⟨hready, hcreated, hconnected⟩ := hk
  have hann := announcing_eq_none (t := t) fun s hs => by simp [hs, Request.call?] at hq
  cases hp : t.point with
  | bringingUp =>
    simp only [request, hann, hp] at hq
    cases hq
    simp_all [Sound, Down, Client.Admits]
  | creating =>
    simp only [request, hann, hp] at hq
    cases hq
    simp_all [Sound, Built, Client.Admits]
  | connecting phase n =>
    simp only [request, hann, hp] at hq
    cases hq
    simp_all [Built, Client.Admits]
  | dropping =>
    simp only [request, hann, hp] at hq
    cases hq
    simp_all [Built, Client.Admits]
  | disconnecting e =>
    cases hc : t.connected <;> simp [request, hann, hp, hc] at hq <;> cases hq
    simp_all [Built, Client.Admits]
  | deleting e =>
    cases hc : t.created <;> simp [request, hann, hp, hc] at hq <;> cases hq
    simp_all [Sound, Client.Admits]
  | tearingDown e =>
    cases hc : t.ready <;> simp [request, hann, hp, hc] at hq <;> cases hq
    simp_all [Sound, Client.Admits]
  | stoppingSubscriber e =>
    cases hs : t.subscriber <;> simp [request, hann, hp, hs, Request.call?] at hq
  | waiting left =>
    cases hl : left.isEmpty <;> simp [request, hann, hp, hl, Request.call?] at hq
  | _ => simp [request, hann, hp, Request.call?] at hq

end Mqtt

/-! ## The subscriber stays until it is told to leave -/

namespace Subscriber

theorem Turn.of_isTold {s s' : Subscriber} (ht : Turn s s') (h : s'.IsTold) : s.IsTold := by
  cases ht <;> simp_all [IsTold]

theorem Takes.of_isTold {s s' : Subscriber} {m : SubscriberMessage}
    {inbox : Inbox SubscriberMessage} (hp : s.point = .receiving)
    (hi : s.inbox.take? = some (m, inbox)) (ht : Takes { s with inbox } m s')
    (h : s'.IsTold) : s.IsTold := by
  have hitems := (Inbox.items_of_take hi).1
  cases ht with
  | stop => exact .inl (by simp [hitems])
  | subscribe | switch | ignore => simp_all [IsTold]

theorem IsTold.of_put {s : Subscriber} {m : SubscriberMessage} (hm : m ≠ .stop)
    (h : IsTold { s with inbox := s.inbox.put m }) : s.IsTold := by
  rcases h with hmem | hp
  · rcases List.mem_append.mp hmem with hmem | hmem
    · exact .inl hmem
    · exact absurd (List.mem_singleton.mp hmem).symm hm
  · exact .inr hp

theorem isTold_of_finished {s : Subscriber} (hq : s.request = .finished) : s.IsTold := by
  right
  right
  cases hp : s.point with
  | finished => rfl
  | sleeping n | leaving => simp only [request, hp] at hq; split at hq <;> cases hq
  | _ => simp only [request, hp] at hq; cases hq

end Subscriber

namespace Mqtt

/-- A join is left by nothing but the end of it. -/
theorem Goes.still_joining {t t' : Mqtt} (hg : t.Goes t') (hj : t.request ≠ .join) {e : Ending}
    (hp : t.point = .joiningSubscriber e) : t'.point = .joiningSubscriber e := by
  cases hg with
  | same | heard _ | reported => exact hp
  | turned ha _ => exact absurd (by simp only [request, ha, hp]) hj
  | received _ _ hr =>
    have hp' : t.point = .receiving := hr.point_eq
    cases hp.symm.trans hp'
  | read _ _ hr | expired _ _ hr => cases hr <;> simp_all

theorem call?_of_down {t : Mqtt} (hp : (∃ left, t.point = .waiting left) ∨ t.point = .finished) :
    t.request.call? = none := by
  rcases hp with ⟨left, hp⟩ | hp
  · cases ha : t.announcing <;> cases hl : left.isEmpty <;>
      simp [request, ha, hp, hl, Request.call?]
  · cases ha : t.announcing <;> simp [request, ha, hp, Request.call?]

theorem resume_of_join {t : Mqtt} (hq : t.request = .join) :
    (t.resume .done).subscriber = false := by
  obtain ⟨e, hp⟩ := point_of_join hq
  have ha := announcing_eq_none (t := t) (by simp [hq])
  simp [resume, ha, move, hp]

theorem resume_of_create_failed {t : Mqtt} (hq : t.request = .create) :
    (t.resume .failed).subscriber = t.subscriber := by
  have hp := point_of_create hq
  have ha := announcing_eq_none (t := t) (by simp [hq])
  simp [resume, ha, move, hp]

theorem joining_of_tell_stop {t : Mqtt} (hq : t.request = .tell .stop) :
    ∃ e, (t.resume .done).point = .joiningSubscriber e := by
  have ht := turn_of_request hq nofun .tell
  generalize t.resume .done = t' at ht
  cases ht with
  | stopTold _ _ => exact ⟨_, rfl⟩
  | disconnected _ hq | deleted _ hq | tornDown _ hq => rcases hq with hq | hq <;> cases hq

end Mqtt

namespace Broker

variable {c : MqttSettings} {b b' : Broker}

/-- Unless the task waits to join it, the subscriber has not been told to stop, and the task
that counts on it has it. -/
structure Staffed (b : Broker) : Prop where
  calm : ∀ s, b.subscriber = some s → s.IsTold → ∃ e, b.task.point = .joiningSubscriber e
  present : b.task.subscriber = true →
    b.subscriber.isSome = true ∨ ∃ e, b.task.point = .joiningSubscriber e

namespace Staffed

/-- Only the task goes on. -/
theorem goes (h : Staffed b) {t : Mqtt} (hg : b.task.Goes t) (hc : b.task.request ≠ .create)
    (hj : b.task.request ≠ .join) : Staffed { b with task := t } where
  calm s hs htold := by
    obtain ⟨e, hp⟩ := h.calm s hs htold
    exact ⟨e, hg.still_joining hj hp⟩
  present ht := by
    rcases h.present ((hg.subscriber_eq hc hj).symm.trans ht) with hs | ⟨e, hp⟩
    · exact .inl hs
    · exact .inr ⟨e, hg.still_joining hj hp⟩

/-- Only the subscriber goes on. -/
theorem turned (h : Staffed b) {s s' : Subscriber} (hs : b.subscriber = some s)
    (htold : s'.IsTold → s.IsTold) : Staffed { b with subscriber := some s' } where
  calm := by
    rintro _ ⟨⟩ ht
    exact h.calm s hs (htold ht)
  present _ := .inl rfl

theorem move (hb : Sound c b) (h : Staffed b) (hm : Move c b b') : Staffed b' := by
  have hg := hm.goes
  cases hm with
  | reply _ ho =>
    obtain ⟨hc, hj⟩ := Mqtt.Request.ne_of_isOuter ho
    exact h.goes hg hc hj
  | prepare _ _ =>
    refine ⟨?_, fun _ => .inl rfl⟩
    rintro _ ⟨⟩ ht
    simp [Subscriber.IsTold, Subscriber.ofSettings] at ht
  | created hq hs =>
    refine ⟨?_, fun _ => .inl hs⟩
    intro s hs' ht
    obtain ⟨e, hp⟩ := h.calm s hs' ht
    cases hp.symm.trans (Mqtt.point_of_create hq)
  | notCreated hq _ =>
    refine ⟨by rintro _ ⟨⟩, ?_⟩
    intro ht
    rw [Mqtt.resume_of_create_failed hq, hb.no_subscriber_of_create hq] at ht
    cases ht
  | @tell m s inbox hq hs _ hput =>
    have hi := Inbox.eq_put_of_offer hput
    subst hi
    refine ⟨?_, fun _ => .inl rfl⟩
    rintro _ ⟨⟩ ht
    by_cases hm : m = .stop
    · subst hm
      exact Mqtt.joining_of_tell_stop hq
    · obtain ⟨e, hp⟩ := h.calm s hs (ht.of_put hm)
      exact ⟨e, hg.still_joining (by simp [hq]) hp⟩
  | tellNobody hq _ | receive hq _ | read hq _ | expire hq _ =>
    exact h.goes hg (by simp [hq]) (by simp [hq])
  | join hq hs =>
    constructor
    · intro s hs'
      cases hs.symm.trans hs'
    · intro ht
      rw [replied, Mqtt.resume_of_join hq] at ht
      cases ht
  | serve hs _ hf => exact h.turned hs (Subscriber.turn_of_fits hf).of_isTold
  | @take s m inbox hs _ hq hi =>
    obtain ⟨hp, ht⟩ := Subscriber.takes_of_request (s := { s with inbox := inbox }) hq m
    exact h.turned hs (ht.of_isTold hp hi)
  | @report s hs _ hq =>
    obtain ⟨hp, hr⟩ := Subscriber.resume_of_report hq
    refine ⟨?_, fun _ => .inl rfl⟩
    rintro _ ⟨⟩ ht
    rw [hr] at ht
    exact h.calm s hs (by simpa [Subscriber.IsTold, hp] using ht)
  | @leave s hs _ hq =>
    exact ⟨by rintro _ ⟨⟩, fun _ => .inr (h.calm s hs (Subscriber.isTold_of_finished hq))⟩

theorem event (h : Staffed b) (he : Event b b') : Staffed b' := by
  cases he with
  | command cmd => exact ⟨by simpa [notify] using h.calm, by simpa [notify] using h.present⟩
  | lost => exact ⟨h.calm, h.present⟩
  | message payload =>
    refine ⟨?_, fun ht => by simpa using h.present ht⟩
    intro s' hs' ht
    obtain ⟨s, hs, rfl⟩ := Option.map_eq_some_iff.mp hs'
    apply h.calm s hs
    rcases Inbox.offerOrDrop_cases s.inbox s.isReceiving (.message payload) with he | he <;>
      rw [he] at ht
    · exact Subscriber.IsTold.of_put (m := .message payload) (by simp) ht
    · exact ht

end Staffed

end Broker

/-! ## Along a run -/

namespace Watch

variable {c : MqttSettings} {w w' : Watch}

theorem Sound.allows (h : Sound c w) {e : ClientEvent} {b : Broker}
    (hs : w.broker.Shows c (some e) b) (hserves : w.client.Serves e) : w.client.Allows e := by
  refine ⟨hserves, ?_⟩
  have htask := h.broker.task
  have hatt : w.client.attended = true → w.broker.task.subscriber = true := by
    rw [h.attended, Broker.attended, Bool.and_eq_true]
    exact And.right
  have service {s : Subscriber} {call : ClientCall} (hs : w.broker.subscriber = some s)
      (ht : w.broker.task.subscriber = true) (hq : s.request.call? = some call) :
      w.client.Admits call := by
    have hcreated := h.knows.created.trans (htask.created_of_subscriber h.built ht)
    have hattended : w.client.attended = true := by simp [h.attended, Broker.attended, hs, ht]
    rcases Subscriber.Request.of_call? hq with rfl | rfl <;> exact ⟨hcreated, hattended⟩
  cases hs with
  | began _ hq => exact h.knows.admits htask h.built hatt hq
  | prepare hq _ => exact h.knows.admits htask h.built hatt (by rw [hq]; rfl)
  | serviceBegan hs ht hq => exact service hs ht hq
  | ended _ _ _ | created _ _ | notCreated _ _ | serviceEnded _ _ _ _ => trivial
  | leave hs ht _ =>
    show w.client.attended = true
    simp [h.attended, Broker.attended, hs, ht]

structure Bracketed (c : MqttSettings) (w : Watch) : Prop where
  sound : Sound c w
  staffed : w.broker.Staffed
  lawful : Lawful w.log

namespace Bracketed

theorem start (c : MqttSettings) : Bracketed c { broker := { task := .ofSettings c } } where
  sound := .start c
  staffed := ⟨nofun, nofun⟩
  lawful := .nil

theorem step (h : Bracketed c w) (hs : Step c w w') : Bracketed c w' := by
  refine ⟨h.sound.step hs, ?_, ?_⟩
  · cases hs with
    | event he => exact h.staffed.event he
    | move hm =>
      obtain ⟨hs, -⟩ := hm
      rcases hs.move with hmove | ⟨rfl, -⟩
      · exact h.staffed.move h.sound.broker hmove
      · exact h.staffed
  · cases hs with
    | event _ => exact h.lawful
    | move hm =>
      cases hm with
      | @mk e b hs hserves =>
        cases e with
        | none => simpa using h.lawful
        | some e => exact h.lawful.append_singleton (h.sound.allows hs (hserves e rfl))

theorem reach (h : Reachable c w) : Bracketed c w := by
  induction h with
  | refl => exact start c
  | tail _ hs ih => exact ih.step hs

/-- Nothing is outstanding while the task is down. -/
theorem idle (h : Bracketed c w)
    (hp : (∃ left, w.broker.task.point = .waiting left) ∨ w.broker.task.point = .finished) :
    w.client.Idle ∧ w.broker.subscriber = none := by
  have hdown : w.broker.task.Down := by
    have htask := h.sound.broker.task
    rcases hp with ⟨left, hp⟩ | hp <;> simp only [Mqtt.Sound, hp] at htask <;> exact htask.1
  obtain ⟨hready, hcreated, hconnected, hsub⟩ := hdown
  have hnone : w.broker.subscriber = none :=
    h.sound.broker.nobody hsub (by rcases hp with ⟨left, hp⟩ | hp <;> simp [hp])
  have hfree : w.client.inside = none := by
    have hengaged := h.sound.engaged
    cases hi : w.client.inside with
    | none => rfl
    | some call =>
      rw [hi] at hengaged
      obtain ⟨s, hs, -⟩ := hengaged.by_subscriber (Mqtt.call?_of_down hp)
      cases hnone.symm.trans hs
  have hknows := h.sound.knows
  have hsession : w.client.session = none := by
    simpa using hknows.connected.trans hconnected
  have hatt : w.client.attended = false := by simp [h.sound.attended, Broker.attended, hnone]
  exact ⟨⟨hfree, hknows.ready.trans hready, hknows.created.trans hcreated, hsession, hatt⟩,
    hnone⟩

/-- The loop of a started task runs over a session with a subscriber. -/
theorem receiving (h : Bracketed c w) (hq : w.broker.task.request = .receive) :
    w.client.created = true ∧ w.client.session.isSome = true ∧ w.client.attended = true ∧
      ∃ s, w.broker.subscriber = some s ∧ ¬ s.IsTold := by
  have hp := Mqtt.point_of_receive hq
  have hbuilt := h.sound.built
  have htask := h.sound.broker.task
  simp only [Mqtt.Built, hp] at hbuilt
  simp only [Mqtt.Sound, hp] at htask
  have hsub : w.broker.task.subscriber = true := htask.2.2.2
  have hknows := h.sound.knows
  have hsome : w.broker.subscriber.isSome = true := by
    rcases h.staffed.present hsub with hs | ⟨e, hj⟩
    · exact hs
    · cases hp.symm.trans hj
  obtain ⟨s, hs⟩ := Option.isSome_iff_exists.mp hsome
  refine ⟨hknows.created.trans hbuilt.2.1, hknows.connected.trans hbuilt.2.2, ?_, s, hs, ?_⟩
  · simp [h.sound.attended, Broker.attended, hs, hsub]
  · intro ht
    obtain ⟨e, hj⟩ := h.staffed.calm s hs ht
    cases hp.symm.trans hj

end Bracketed

theorem calls_bracketed (h : Reachable c w) :
    (∀ l₁ e l₂, w.log = l₁ ++ e :: l₂ → (Client.of l₁).Allows e) ∧
    (∀ call undo, call.undo? = some undo → ∀ l₁ l₂ l₃,
      w.log = l₁ ++ .ended call true :: l₂ ++ .began call :: l₃ → .ended call true ∉ l₂ →
        l₂.count (.began undo) = 1) ∧
    ((∃ left, w.broker.task.point = .waiting left) ∨ w.broker.task.point = .finished →
      w.client.Idle ∧ w.broker.subscriber = none) ∧
    (w.broker.task.request = .receive →
      w.client.created = true ∧ w.client.session.isSome = true ∧ w.client.attended = true ∧
      ∃ s, w.broker.subscriber = some s ∧ ¬ s.IsTold) := by
  have hb := Bracketed.reach h
  refine ⟨hb.lawful, ?_, hb.idle, hb.receiving⟩
  intro call undo hundo l₁ l₂ l₃ hlog hlast
  exact hb.lawful.undone_once hundo hlog hlast

/-- A session, the loss of its broker, and the next connect. -/
theorem calls_bracketed_in_reconnect :
    ∃ w, Reachable { maxRetries := 3 } w ∧
      w.log = [.began .bringUp, .ended .bringUp true, .began .create, .ended .create true,
        .began .connect, .ended .connect true, .began .disconnect, .ended .disconnect false,
        .began .connect] ∧
      [ClientEvent.began .disconnect, .ended .disconnect false].count (.began .disconnect) = 1 :=
  ⟨_, reachable_inReconnect, rfl,
    (calls_bracketed reachable_inReconnect).2.1 .connect .disconnect rfl
      (inFirstConnect { maxRetries := 3 }).log _ [] rfl (by decide)⟩

end Watch

end EdgeGateway
