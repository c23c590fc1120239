import EdgeGateway.Proofs.Mqtt.Brackets
import EdgeGateway.Proofs.Mqtt.Renewal

/-!
# EdgeGateway.Proofs.Mqtt.Restart

What the client sees of a restart that a started task is given (`Watch.restart_honoured`).

* `renewal`       : the steps of a cleanup and of the set-up after it.
* `Client.Stage`  : how many of them have been made.
* `Watch.Renews`  : while the task is on its way they come in their order, and after the last of
  them there need not be another.
-/

namespace EdgeGateway

/-! ## The steps of a renewal -/

def ClientEvent.isRenewal : ClientEvent → Bool
  | .left | .began .delete | .began .tearDown | .began .bringUp => true
  | _ => false

/-- One cleanup, and a set-up from the beginning. -/
def renewal : List ClientEvent := [.left, .began .delete, .began .tearDown, .began .bringUp]

def renewals (log : List ClientEvent) : List ClientEvent := log.filter ClientEvent.isRenewal

theorem renewals_append_singleton (log : List ClientEvent) (e : ClientEvent) :
    renewals (log ++ [e]) = if e.isRenewal then renewals log ++ [e] else renewals log := by
  cases he : e.isRenewal <;> simp [renewals, he]

theorem count_renewals (log : List ClientEvent) :
    (renewals log).count (.began .bringUp) = log.count (.began .bringUp) :=
  List.count_filter rfl

namespace Client

/-- So many steps of a renewal have been made, and the next has not. -/
def Stage (k : Client) (n : Nat) : Prop :=
  k.inside ≠ some .create ∧
  match n with
  | 0 => k.ready = true ∧ k.created = true ∧ k.attended = true ∧
      k.inside ≠ some .delete ∧ k.inside ≠ some .tearDown
  | 1 => k.ready = true ∧ k.created = true ∧ k.attended = false ∧
      k.inside ≠ some .delete ∧ k.inside ≠ some .tearDown
  | 2 => k.ready = true ∧ (k.inside = some .delete ∨ k.created = false) ∧
      k.attended = false ∧ k.inside ≠ some .tearDown
  | 3 => (k.inside = some .tearDown ∨ k.ready = false) ∧ k.created = false ∧
      k.attended = false ∧ k.inside ≠ some .bringUp
  | _ => False

theorem Stage.not_inside_bringUp {k : Client} {n : Nat} (h : k.Stage n)
    (hr : k.ready = false) : k.inside ≠ some .bringUp := by
  obtain ⟨-, h⟩ := h
  rcases n with _ | _ | _ | _ | n <;> simp_all

/-- The steps come in their order, as long as no client is created. -/
theorem Stage.see {k : Client} {n : Nat} {e : ClientEvent} (h : k.Stage n) (he : k.Allows e)
    (hc : e ≠ .began .create) :
    (e.isRenewal = false ∧ (k.see e).Stage n) ∨
      (e.isRenewal = true ∧ renewal[n]? = some e ∧ ((k.see e).Stage (n + 1) ∨ n = 3)) := by
  obtain ⟨hserves, hallows⟩ := he
  rcases n with _ | _ | _ | _ | n
  all_goals
    cases e with
    | began call =>
      cases call <;>
        simp_all [Stage, Serves, Admits, Client.see, ClientEvent.isRenewal, renewal]
    | ended call ok =>
      cases call <;> cases ok <;>
        simp_all [Stage, Serves, Client.see, finish, ClientEvent.isRenewal]
    | left => simp_all [Stage, Client.see, ClientEvent.isRenewal, renewal]

end Client

namespace Mqtt

theorem Renewing.ne_create {t : Mqtt} (hr : t.Renewing) : t.request ≠ .create := by
  intro hq
  simp [Renewing, point_of_create hq] at hr

/-- The client library is brought up by one call. -/
theorem point_resume_of_bringUp {t : Mqtt} {r : Reply} (hq : t.request = .bringUp)
    (hf : Fits .bringUp r) : (t.resume r).point ≠ .bringingUp := by
  have hp := point_of_bringUp hq
  have ha := announcing_eq_none (t := t) (by simp [hq])
  cases hf with
  | bringUp =>
    simp only [resume, ha, move, hp]
    split <;> simp
  | bringUpFailed => simp [resume, ha, move, hp]

/-- The client of a started task is complete. -/
theorem Sound.complete_of_started {t : Mqtt} (h : t.Sound) (hb : t.Built)
    (hs : t.status = .started) : t.ready = true ∧ t.created = true ∧ t.subscriber = true := by
  obtain ⟨hin, hat⟩ := h.of_started hs
  obtain ⟨n, hat | hat | hat | hat⟩ | hat | hat | hat := hat <;>
    simp only [Built, hat] at hb <;> exact ⟨hb.1, hb.2.1, hin.2.2.2⟩

theorem Sound.not_joining_of_started {t : Mqtt} (h : t.Sound) (hs : t.status = .started)
    (e : Ending) : t.point ≠ .joiningSubscriber e := by
  intro hj
  obtain ⟨-, hat⟩ := h.of_started hs
  obtain ⟨n, hat | hat | hat | hat⟩ | hat | hat | hat := hat <;> cases hat.symm.trans hj

/-- A started task only connects and disconnects. -/
theorem Sound.call_of_started {t : Mqtt} (h : t.Sound) (hs : t.status = .started)
    {call : ClientCall} (hq : t.request.call? = some call) :
    call = .connect ∨ call = .disconnect := by
  have ha := announcing_eq_none (t := t) fun s hs => by simp [hs, Request.call?] at hq
  obtain ⟨-, hat⟩ := h.of_started hs
  obtain ⟨n, hat | hat | hat | hat⟩ | hat | hat | hat := hat <;>
    simp [request, ha, hat, Request.call?] at hq <;> simp [← hq]

end Mqtt

namespace Broker

variable {c : MqttSettings} {b b' : Broker}

theorem Shows.of_began_bringUp (h : Shows c b (some (.began .bringUp)) b') :
    b.task.point = .bringingUp ∧ b'.task = b.task := by
  obtain ⟨hq, ht⟩ := h.of_began.resolve_left (by simp)
  exact ⟨Mqtt.point_of_bringUp (Mqtt.Request.eq_of_call? .bringUp rfl hq), ht⟩

theorem Shows.not_bringingUp_of_ended {ok : Bool}
    (h : Shows c b (some (.ended .bringUp ok)) b') : b'.task.point ≠ .bringingUp := by
  cases h with
  | serviceEnded _ _ _ hq => rcases Subscriber.Request.of_call? hq with hc | hc <;> cases hc
  | ended hf _ hq =>
    have hq := Mqtt.Request.eq_of_call? .bringUp rfl hq
    exact Mqtt.point_resume_of_bringUp hq (hq ▸ hf)

end Broker

/-! ## Along a run without a further command -/

namespace Watch

variable {c : MqttSettings} {w w' : Watch}

/-- The broker and its surroundings go on, and no command comes. -/
inductive Unbidden (c : MqttSettings) : Watch → Watch → Prop where
  | move {w w' : Watch} : Move c w w' → Unbidden c w w'
  | lost {w : Watch} : Unbidden c w { w with
      broker := { w.broker with task := w.broker.task.offer .disconnected } }
  | message {w : Watch} (payload : Bytes) : Unbidden c w { w with
      broker := { w.broker with subscriber := w.broker.subscriber.map fun s =>
        { s with inbox := s.inbox.offerOrDrop s.isReceiving (.message payload) } } }

theorem Unbidden.step (h : Unbidden c w w') : Step c w w' := by
  cases h with
  | move hm => exact .move hm
  | lost => exact .event .lost
  | message payload => exact .event (.message payload)

/-- Some steps of a renewal have been made since, or all of them. -/
def Renews (once : Prop) (l : List ClientEvent) (w : Watch) : Prop :=
  (∃ n, renewals l = renewal.take n ∧ w.client.Stage n ∧ w.broker.task.Renewing ∧
    (once → w.broker.task.Once)) ∨
  (renewal <+: renewals l ∧ (once → l.count (.began .bringUp) = 1 ∧ w.broker.task.Spent ∧
    (w.broker.task.point = .bringingUp → w.client.inside = some .bringUp)))

/-- A task on its way stays on it, whatever the client sees meanwhile. -/
theorem renewing_of_shows {n : Nat} (hb : Bracketed c w) (hstage : w.client.Stage n)
    (hr : w.broker.task.Renewing) {e : Option ClientEvent} {b : Broker}
    (hs : w.broker.Shows c e b) (hserves : ∀ e' ∈ e, w.client.Serves e') : b.task.Renewing := by
  have htask := hb.sound.broker.task
  by_cases hq : w.broker.task.request = .bringUp
  · -- the call has not begun, so that it does not end
    have hcall : w.broker.task.request.call? = some .bringUp := by rw [hq]; rfl
    rcases hs.of_call hcall with ⟨ok, rfl⟩ | ht | ht
    · have hready : w.client.ready = false := by
        simp only [Mqtt.Sound, Mqtt.point_of_bringUp hq] at htask
        exact hb.sound.knows.ready.trans htask.1.1
      exact absurd (hserves _ rfl) (hstage.not_inside_bringUp hready)
    · rwa [ht]
    · rw [ht]
      exact hr.offer _
  · exact hs.goes.renewing htask hr hq

/-- The last step of a renewal. -/
theorem renews_of_last {once : Prop} {l : List ClientEvent} (hb : Bracketed c w)
    (hl : renewals l = renewal.take 3) (hone : once → w.broker.task.Once) {b : Broker}
    (hs : w.broker.Shows c (some (.began .bringUp)) b) :
    Renews once (l ++ [.began .bringUp]) ⟨b, w.log ++ [.began .bringUp]⟩ := by
  obtain ⟨hp, ht⟩ := hs.of_began_bringUp
  refine .inr ⟨?_, ?_⟩
  · rw [renewals_append_singleton, hl]
    exact List.prefix_rfl
  · intro ho
    refine ⟨?_, ?_, ?_⟩
    · have hcount : l.count (.began .bringUp) = 0 := by
        rw [← count_renewals, hl]
        rfl
      simp [hcount]
    · rw [ht]
      exact hb.sound.broker.task.spent_of_bringingUp hp (hone ho)
    · intro _
      simp [client]

/-- On the way the steps come in their order. -/
theorem renews_of_stage {once : Prop} {l : List ClientEvent} {n : Nat} (hb : Bracketed c w)
    (hl : renewals l = renewal.take n) (hstage : w.client.Stage n)
    (hr : w.broker.task.Renewing) (hone : once → w.broker.task.Once)
    {e : Option ClientEvent} {b : Broker} (hs : w.broker.Shows c e b)
    (hserves : ∀ e' ∈ e, w.client.Serves e') :
    Renews once (l ++ e.toList) ⟨b, w.log ++ e.toList⟩ := by
  have hr' := renewing_of_shows hb hstage hr hs hserves
  have hone' : once → b.task.Once := fun ho => hs.goes.once hb.sound.broker.task (hone ho)
  cases e with
  | none =>
    left
    simpa using ⟨n, hl, hstage, hr', hone'⟩
  | some e =>
    have he := hserves e rfl
    have hcreate : e ≠ .began .create := by
      rintro rfl
      have hq := (hs.of_began.resolve_left (by simp)).1
      exact hr.ne_create (Mqtt.Request.eq_of_call? .create rfl hq)
    rcases hstage.see (hb.sound.allows hs he) hcreate with ⟨hno, hstage'⟩ | ⟨hyes, hnext, hstage'⟩
    · left
      refine ⟨n, ?_, by rw [client_append]; exact hstage', hr', hone'⟩
      simp [renewals_append_singleton, hno, hl]
    · rcases hstage' with hstage' | rfl
      · left
        refine ⟨n + 1, ?_, by rw [client_append]; exact hstage', hr', hone'⟩
        simp [renewals_append_singleton, hyes, hl, List.take_add_one, hnext]
      · have hbring : e = .began .bringUp := by simpa [renewal] using hnext.symm
        subst hbring
        exact renews_of_last hb hl hone hs

/-- After the last of them there is no other. -/
theorem renews_of_done {once : Prop} {l : List ClientEvent} (hb : Bracketed c w)
    (hl : renewal <+: renewals l)
    (hone : once → l.count (.began .bringUp) = 1 ∧ w.broker.task.Spent ∧
      (w.broker.task.point = .bringingUp → w.client.inside = some .bringUp))
    {e : Option ClientEvent} {b : Broker} (hs : w.broker.Shows c e b)
    (hserves : ∀ e' ∈ e, w.client.Serves e') :
    Renews once (l ++ e.toList) ⟨b, w.log ++ e.toList⟩ := by
  right
  have hpre : renewals l <+: renewals (l ++ e.toList) := by simp [renewals]
  refine ⟨hl.trans hpre, ?_⟩
  intro ho
  obtain ⟨hcount, hspent, hin⟩ := hone ho
  -- the one that has begun is still inside, or the task has gone on
  have hno : e ≠ some (.began .bringUp) := by
    rintro rfl
    have hfree : w.client.inside = none := hserves _ rfl
    cases hfree.symm.trans (hin hs.of_began_bringUp.1)
  refine ⟨?_, hs.goes.spent hb.sound.broker.task hspent, ?_⟩
  · cases e with
    | none => simpa using hcount
    | some e =>
      have hne : e ≠ .began .bringUp := fun he => hno (congrArg some he)
      simpa [List.count_singleton, hne] using hcount
  · intro hp
    have hin := hin ((hs.goes.bringingUp hp).resolve_right hspent.point.2)
    rw [client_append]
    cases e with
    | none => exact hin
    | some e =>
      have he := hserves e rfl
      cases e with
      | began call => cases he.symm.trans hin
      | left => exact hin
      | ended call ok =>
        cases Option.some.inj (he.symm.trans hin)
        exact absurd hp hs.not_bringingUp_of_ended

theorem Renews.move {once : Prop} {l : List ClientEvent} (hb : Bracketed c w)
    (h : Renews once l w) {e : Option ClientEvent} {b : Broker} (hs : w.broker.Shows c e b)
    (hserves : ∀ e' ∈ e, w.client.Serves e') :
    Renews once (l ++ e.toList) ⟨b, w.log ++ e.toList⟩ := by
  rcases h with ⟨n, hl, hstage, hr, hone⟩ | ⟨hl, hone⟩
  · exact renews_of_stage hb hl hstage hr hone hs hserves
  · exact renews_of_done hb hl hone hs hserves

theorem Renews.unbidden {once : Prop} {l : List ClientEvent} (hb : Bracketed c w)
    (h : Renews once l w) (hu : Unbidden c w w') :
    ∃ l', w'.log = w.log ++ l' ∧ Renews once (l ++ l') w' := by
  cases hu with
  | move hm =>
    cases hm with
    | @mk e b hs hserves => exact ⟨e.toList, rfl, h.move hb hs hserves⟩
  | lost =>
    refine ⟨[], by simp, ?_⟩
    rw [List.append_nil]
    refine h.imp ?_ ?_
    · rintro ⟨n, hl, hstage, hr, hone⟩
      exact ⟨n, hl, hstage, hr.offer _, hone⟩
    · rintro ⟨hl, hone⟩
      exact ⟨hl, fun ho => ⟨(hone ho).1, (hone ho).2.1.offer nofun, (hone ho).2.2⟩⟩
  | message _ => exact ⟨[], by simp, by rw [List.append_nil]; exact h⟩

/-- The client of a started task is complete, and is not being taken down. -/
theorem stage_of_started (hb : Bracketed c w) (hs : w.broker.task.status = .started) :
    w.client.Stage 0 := by
  have htask := hb.sound.broker.task
  have hknows := hb.sound.knows
  obtain ⟨hready, hcreated, hsub⟩ := htask.complete_of_started hb.sound.built hs
  have hsome : w.broker.subscriber.isSome = true := by
    refine (hb.staffed.present hsub).resolve_right ?_
    rintro ⟨e, hj⟩
    exact htask.not_joining_of_started hs e hj
  have hattended : w.client.attended = true := by
    simp [hb.sound.attended, Broker.attended, hsome, hsub]
  have hinside (call : ClientCall) (hi : w.client.inside = some call) :
      (call = .connect ∨ call = .disconnect) ∨ call = .subscribe ∨ call = .unsubscribe := by
    have hengaged := hb.sound.engaged
    rw [hi] at hengaged
    rcases hengaged with ⟨hq, -⟩ | ⟨s, -, -, hq⟩
    · exact .inl (htask.call_of_started hs hq)
    · exact .inr (Subscriber.Request.of_call? hq)
  have hno : w.client.inside ≠ some .create ∧ w.client.inside ≠ some .delete ∧
      w.client.inside ≠ some .tearDown := by
    refine ⟨?_, ?_, ?_⟩ <;>
    · intro hi
      simpa using hinside _ hi
  exact ⟨hno.1, hknows.ready.trans hready, hknows.created.trans hcreated, hattended, hno.2⟩

theorem Reachable.isOpen (h : Reachable c w) : w.broker.task.operations.isOpen = true := by
  induction h with
  | refl => rfl
  | tail _ hs ih =>
    cases hs with
    | move hm =>
      cases hm with
      | mk hs _ => exact hs.goes.isOpen.trans ih
    | event he =>
      cases he with
      | command cmd => exact (Mqtt.isOpen_notify _ _).trans ih
      | lost => exact (Inbox.isOpen_offerOrDrop _ _ _).trans ih
      | message _ => exact ih

structure Renewed (c : MqttSettings) (log : List ClientEvent) (once : Prop) (w : Watch) :
    Prop where
  bracketed : Bracketed c w
  since : ∃ l, w.log = log ++ l ∧ Renews once l w

namespace Renewed

variable {log : List ClientEvent} {once : Prop}

theorem step (h : Renewed c log once w) (hu : Unbidden c w w') : Renewed c log once w' := by
  obtain ⟨l, hlog, hr⟩ := h.since
  obtain ⟨l', hlog', hr'⟩ := hr.unbidden h.bracketed hu
  exact ⟨h.bracketed.step hu.step, l ++ l', by rw [hlog', hlog, List.append_assoc], hr'⟩

theorem steps (h : Renewed c log once w) (hs : Relation.ReflTransGen (Unbidden c) w w') :
    Renewed c log once w' := by
  induction hs with
  | refl => exact h
  | tail _ hu ih => exact ih.step hu

/-- The restart has come. -/
theorem start (hb : Bracketed c w) (hs : w.broker.task.status = .started)
    (hroom : w.broker.task.operations.accepts w.broker.task.isReceiving = true)
    (hp : w.broker.task.pending.isEmpty = true) :
    Renewed c w.log (w.broker.task.deferred.isEmpty = true) (w.notify .restart) := by
  have htask := hb.sound.broker.task
  refine ⟨hb.step (.event (.command .restart)), [], by simp [notify], .inl ⟨0, rfl, ?_,
    htask.renewing hs hroom hp, fun hd => htask.once hs hd⟩⟩
  exact (stage_of_started hb hs : w.client.Stage 0)

/-- A task on its way does not come to rest. -/
theorem rest (h : Renewed c log once w) (hr : AtRest (Move c) w) :
    ∃ l, w.log = log ++ l ∧ renewal <+: renewals l := by
  obtain ⟨l, hlog, ⟨n, -, -, hren, -⟩ | ⟨hl, -⟩⟩ := h.since
  · have hsound := h.bracketed.sound
    rcases Broker.rest_cases hsound.broker (Watch.rest hsound hr).2 with hq | ⟨hq, hitems⟩ | ⟨hq, hb⟩
    · have hren := hren.2
      simp [(Mqtt.point_of_finished hq).2] at hren
    · have hren := hren.2
      simp [Mqtt.point_of_receive hq, hitems] at hren
    · obtain ⟨left, hp, hl⟩ := Mqtt.point_of_wait hq
      have hren := hren.2
      simp only [hp] at hren
      have hempty : w.broker.task.pending.isEmpty = true :=
        Commands.isEmpty_iff.mpr fun cmd => Commands.contains_of_bits_eq_zero hb cmd
      cases hl.symm.trans (hren.2 hempty)
  · exact ⟨l, hlog, hl⟩

theorem settles (h : Renewed c log once w) :
    Settles (Move c) (fun w => ∃ l, w.log = log ++ l ∧ renewal <+: renewals l) w :=
  .of_invariant (measure c) (fun _ _ h hm => h.step (.move hm))
    (fun _ _ h hm => hm.falls h.bracketed.sound) (fun _ h hr => h.rest hr) h

/-- The steps made since are those of one renewal, in their order. -/
theorem inOrder (h : Renewed c log once w) : ∃ l, w.log = log ++ l ∧
    (renewals l <+: renewal ∨ renewal <+: renewals l) ∧
    (once → l.count (.began .bringUp) ≤ 1) := by
  obtain ⟨l, hlog, ⟨n, hl, -, -, -⟩ | ⟨hl, hone⟩⟩ := h.since
  · have hpre : renewals l <+: renewal := hl ▸ List.take_prefix n renewal
    refine ⟨l, hlog, .inl hpre, fun _ => ?_⟩
    rw [← count_renewals]
    exact hpre.sublist.count_le _
  · exact ⟨l, hlog, .inr hl, fun ho => (hone ho).1.le⟩

end Renewed

theorem restart_honoured (h : Reachable c w) (hs : w.broker.task.status = .started)
    (hroom : w.broker.task.operations.hasRoom w.broker.task.isReceiving = true)
    (hp : w.broker.task.pending.isEmpty = true)
    (hw : Relation.ReflTransGen (Unbidden c) (w.notify .restart) w') :
    (∃ l, w'.log = w.log ++ l ∧ (renewals l <+: renewal ∨ renewal <+: renewals l) ∧
      (w.broker.task.deferred.isEmpty = true → l.count (.began .bringUp) ≤ 1)) ∧
    Settles (Move c) (fun w'' => ∃ l, w''.log = w.log ++ l ∧ renewal <+: renewals l) w' := by
  have hroom : w.broker.task.operations.accepts w.broker.task.isReceiving = true := by
    rw [Inbox.accepts, h.isOpen, hroom]
    rfl
  have hrenewed := (Renewed.start (.reach h) hs hroom hp).steps hw
  exact ⟨hrenewed.inOrder, hrenewed.settles⟩

/-- A restart in a pause between two tries to reconnect. -/
theorem restart_honoured_in_pause :
    ∃ w, Reachable { maxRetries := 3 } w ∧ w.broker.task.status = .started ∧
      w.broker.task.point = .pausing .reconnect 2 ∧
      Settles (Move { maxRetries := 3 })
        (fun w' => ∃ l, w'.log = w.log ++ l ∧ renewal <+: renewals l) (w.notify .restart) := by
  let c : MqttSettings := { maxRetries := 3 }
  let w₀ := inReconnect c
  let w₁ : Watch := ⟨w₀.broker.replied .failed, w₀.log ++ [.ended .connect false]⟩
  let w₂ : Watch := { w₁ with broker := w₁.broker.replied .done }
  have s₁ : Move c w₀ w₁ := .shown (.ended (r := .failed) .connectFailed rfl rfl) rfl
  have s₂ : Move c w₁ w₂ := .silent (.plain .proceed rfl rfl)
  have h : Reachable c w₂ := (reachable_inReconnect.tail (.move s₁)).tail (.move s₂)
  exact ⟨w₂, h, rfl, rfl, (restart_honoured h rfl rfl Commands.isEmpty_default .refl).2⟩

end Watch

end EdgeGateway
