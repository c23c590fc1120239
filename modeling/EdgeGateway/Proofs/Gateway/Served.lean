import EdgeGateway.Proofs.Gateway.Booted
import EdgeGateway.Proofs.Gateway.Owned
import EdgeGateway.Proofs.Gateway.Subscription

/-!
# EdgeGateway.Proofs.Gateway.Served

The thread of a gateway's subscriber.

* `System.Serving`  : a thread runs a subscriber.
* `System.Creating` : a thread is in the call that makes a client, with the subscriber's queue.
* `System.Served`   : one thread at most serves, and only while the broker task counts on it.

This holds from boot on (`Gateway.served_of_run`), so the subscriber is gone once the broker task is
over.
-/

namespace EdgeGateway

/-- The thread is in the call that makes a client. -/
def Thread.IsCreating (t : Thread) : Prop :=
  ∃ host port tls, t.stage = .inside (.clientCreate host port tls)

theorem Thread.not_isCreating_of_free {t : Thread} (h : t.stage = .free) : ¬ t.IsCreating := by
  rintro ⟨_, _, _, hc⟩
  cases h.symm.trans hc

namespace System

variable {s s' : System} {t u : Thread} {errand : Task → Option Errand} {k : Option Task}

def Serving (s : System) (i : Nat) : Prop := ∃ u, s.thread? i = some u ∧ u.role = .subscriber

def Creating (s : System) (i : Nat) : Prop := ∃ u, s.thread? i = some u ∧ u.IsCreating

/-- The broker task counts on a subscriber. -/
def subscribed (s : System) : Bool := s.mqtt.any (·.subscriber)

/-- The queue of a subscriber is there while the task counts on one, and while a client is made. -/
structure Served (s : System) : Prop where
  alone : ∀ i i', s.Serving i → s.Serving i' → i = i'
  serves : ∀ i, s.Serving i → s.subscriber.isSome = true ∧ s.subscribed = true
  made : ∀ i, s.Creating i → s.subscriber.isSome = true
  idle : s.subscriber.isSome = true → s.subscribed = true ∨ ∃ i, s.Creating i

theorem Spares.subscribed (hs : Spares k s s') (hk : k ≠ some .mqtt) :
    s'.subscribed = s.subscribed := by
  have own (s : System) : s.subscribed = (s.mqtt.map Mqtt.own).any (·.subscriber) := by
    rw [System.subscribed]
    cases s.mqtt <;> rfl
  rw [own, own, hs.mqtt hk]

/-- The thread in the call that makes a client is the broker task's. -/
theorem Manned.creates (h : s.Manned errand) {i : Nat} (hi : s.Creating i) :
    ∃ t, s.thread? i = some t ∧ s.Creates t := by
  obtain ⟨t, ht, host, port, tls, hc⟩ := hi
  refine ⟨t, ht, ?_⟩
  rcases (h.engaged _ t ht).of_inside hc with ⟨e, m, -, hm, -⟩ | ⟨-, hi | ⟨n, -, -, hn, -⟩ | hi⟩
  · cases hm
  · exact creates_of_call (h.own _ t ht) (call_of_asked? hi)
  · cases hn
  · cases hi.2

theorem Creates.not_subscribed (h : s.Creates t) (hu : ∀ task, s.mqtt = some task → task.Undone) :
    s.subscribed = false := by
  obtain ⟨-, task, hm, hq⟩ := h
  have hundone := hu task hm
  simp only [Mqtt.Undone, Mqtt.point_of_create hq] at hundone
  simp [subscribed, hm, hundone]

namespace Served

/-- Nobody serves while a client is about to be made, or is being made. -/
theorem not_serving (h : s.Served) (hu : ∀ task, s.mqtt = some task → task.Undone)
    (hc : s.Creates t) (i : Nat) : ¬ s.Serving i := by
  intro hi
  have hsub := (h.serves i hi).2
  rw [hc.not_subscribed hu] at hsub
  cases hsub

theorem of_none (hq : s.subscriber = none) (hs : ∀ i, ¬ s.Serving i) (hc : ∀ i, ¬ s.Creating i) :
    s.Served where
  alone i _ hi := absurd hi (hs i)
  serves i hi := absurd hi (hs i)
  made i hi := absurd hi (hc i)
  idle hsome := by
    rw [hq] at hsome
    cases hsome

/-- Nobody comes or goes. -/
theorem pass (h : s.Served) (hq : s'.subscriber.isSome = s.subscriber.isSome)
    (hm : s'.subscribed = s.subscribed) (hs : ∀ i, s'.Serving i → s.Serving i)
    (hc : ∀ i, s'.Creating i ↔ s.Creating i) : s'.Served where
  alone i i' hi hi' := h.alone i i' (hs i hi) (hs i' hi')
  serves i hi := by
    rw [hq, hm]
    exact h.serves i (hs i hi)
  made i hi := by
    rw [hq]
    exact h.made i ((hc i).mp hi)
  idle hsome := by
    rw [hm]
    exact (h.idle (hq ▸ hsome)).imp_right fun ⟨i, hi⟩ => ⟨i, (hc i).mpr hi⟩

theorem serving_of_threads (ht : s'.threads = s.threads) (i : Nat) :
    s'.Serving i ↔ s.Serving i := by
  rw [Serving, thread?_of_threads ht, Serving]

theorem creating_of_threads (ht : s'.threads = s.threads) (i : Nat) :
    s'.Creating i ↔ s.Creating i := by
  rw [Creating, thread?_of_threads ht, Creating]

theorem deliver (h : s.Served) (ht : s'.threads = s.threads)
    (hq : s'.subscriber.isSome = s.subscriber.isSome) (hm : s'.subscribed = s.subscribed) :
    s'.Served :=
  h.pass hq hm (fun i => (serving_of_threads ht i).mp) (creating_of_threads ht)

theorem setThread (h : s.Served) (ht : s.thread? t.id = some t) (hid : u.id = t.id)
    (hr : u.role = .subscriber → t.role = .subscriber) (hc : u.IsCreating ↔ t.IsCreating) :
    (s.setThread u).Served := by
  have hself : (s.setThread u).thread? t.id = some u := hid ▸ thread?_setThread_self ht hid
  have hset (i : Nat) (hi : i ≠ t.id) : (s.setThread u).thread? i = s.thread? i := by
    rw [thread?_setThread, hid, if_neg hi]
  refine h.pass rfl rfl (fun i => ?_) fun i => ?_
  · rintro ⟨v, hv, hvr⟩
    by_cases hi : i = t.id
    · subst hi
      cases hself.symm.trans hv
      exact ⟨t, ht, hr hvr⟩
    · exact ⟨v, hset i hi ▸ hv, hvr⟩
  · by_cases hi : i = t.id
    · subst hi
      simp only [Creating, hself, ht, Option.some.injEq, exists_eq_left']
      exact hc
    · rw [Creating, hset i hi, Creating]

/-- The task of a thread goes on, and the subscriber stays or stays away. -/
theorem shift (h : s.Served) (ht : s.thread? t.id = some t) (hf : t.stage = .free)
    (hs : Shifts t s s') (hc : ¬ s.Creates t) (hq : s'.subscriber.isSome = s.subscriber.isSome)
    (hm : s'.subscribed = s.subscribed) : s'.Served := by
  have hother {i : Nat} {u : Thread} (hi : i ≠ t.id) (hu : s'.thread? i = some u) :
      s.thread? i = some u := (hs.others i u hi hu).resolve_right fun h => hc h.1
  refine h.pass hq hm (fun i => ?_) fun i => ⟨?_, ?_⟩
  · rintro ⟨u, hu, hr⟩
    by_cases hi : i = t.id
    · subst hi
      exact ⟨t, ht, hs.role u hu hr⟩
    · exact ⟨u, hother hi hu, hr⟩
  · rintro ⟨u, hu, hcreating⟩
    by_cases hi : i = t.id
    · subst hi
      exact absurd hcreating (Thread.not_isCreating_of_free ((hs.self u hu).2.1.trans hf))
    · exact ⟨u, hother hi hu, hcreating⟩
  · rintro ⟨u, hu, hcreating⟩
    refine ⟨u, hs.stay i u ?_ hu, hcreating⟩
    rintro rfl
    cases ht.symm.trans hu
    exact Thread.not_isCreating_of_free hf hcreating

/-- Another task goes on. -/
theorem other (h : s.Served) (ht : s.thread? t.id = some t) (hf : t.stage = .free)
    (hs : Shifts t s s') (hr : t.role ≠ .mqtt) (hq : s'.subscriber.isSome = s.subscriber.isSome) :
    s'.Served := by
  refine h.shift ht hf hs (fun hc => hr hc.1) hq (hs.spares.subscribed fun hk => hr ?_)
  cases hrole : t.role <;> rw [hrole] at hk <;> cases hk

/-- A thread is started that does not serve. -/
theorem spawn (h : s.Served) (actor : Actor) (role : Role) (hr : role ≠ .subscriber)
    (e : Option Errand) : (s.spawn actor role e).Served := by
  have hcases {i : Nat} {u : Thread} (hu : (s.spawn actor role e).thread? i = some u) :
      s.thread? i = some u ∨ (u.role = role ∧ u.stage = .free) := by
    rw [thread?_spawn] at hu
    cases hold : s.thread? i with
    | some v =>
      rw [hold] at hu
      exact .inl hu
    | none =>
      rw [hold, Option.none_or] at hu
      split at hu <;> cases hu
      exact .inr ⟨rfl, rfl⟩
  refine h.pass rfl rfl (fun i => ?_) fun i => ⟨?_, ?_⟩
  · rintro ⟨u, hu, hur⟩
    rcases hcases hu with hu | ⟨hrole, -⟩
    · exact ⟨u, hu, hur⟩
    · exact absurd (hrole.symm.trans hur) hr
  · rintro ⟨u, hu, hcreating⟩
    rcases hcases hu with hu | ⟨-, hf⟩
    · exact ⟨u, hu, hcreating⟩
    · exact absurd hcreating (Thread.not_isCreating_of_free hf)
  · rintro ⟨u, hu, hcreating⟩
    refine ⟨u, ?_, hcreating⟩
    rw [thread?_spawn, hu]
    rfl

/-! ### Tasks go on -/

/-- The broker task goes on. Nobody is left once it has joined the subscriber. -/
theorem mqttIntent (h : s.Served) (ht : s.thread? t.id = some t) (hf : t.stage = .free)
    (hr : t.role = .mqtt) {task : Mqtt} (hm : s.mqtt = some task)
    (hi : s.mqttIntent t task = .proceed s') : s'.Served := by
  have hs := shifts_mqttIntent ht hr hi
  have hq := isSome_of_mqttIntent hi
  have hcall (hc : task.request = .create) : False := by
    simp only [System.mqttIntent, hc] at hi
    cases hi
  have hno : ¬ s.Creates t := by
    rintro ⟨-, task', hm', hc⟩
    cases hm.symm.trans hm'
    exact hcall hc
  by_cases hj : task.request = .join
  · simp only [System.mqttIntent, hj] at hi
    split at hi <;> cases hi
    rename_i hnone
    refine .of_none (by simpa using hnone) (fun i hi => hnone ?_) fun i hi => hnone ?_
    · exact (h.serves i ((serving_of_threads rfl i).mp hi)).1
    · exact h.made i ((creating_of_threads rfl i).mp hi)
  · refine h.shift ht hf hs hno hq ?_
    by_cases hfin : task.request = .finished
    · simp only [System.mqttIntent, hfin] at hi
      cases hi
      simp [subscribed, endThread, hm]
    · obtain ⟨task₀, r, task', hown, hm', hadv, -⟩ := mqtt_advances hi hfin
      have hsub : task₀.subscriber = task.subscriber := by rw [Mqtt.eq_of_own hown]
      have hreq : task₀.request = task.request := by
        rw [Mqtt.eq_of_own hown]
        rfl
      simp [subscribed, hm, hm', hadv.subscriber_eq (hreq ▸ hcall) (hreq ▸ hj), hsub]

/-- The subscriber goes on, in the end by leaving. -/
theorem subscriberIntent (h : s.Served) (hman : s.Manned errand)
    (hu : ∀ task, s.mqtt = some task → task.Undone) (ht : s.thread? t.id = some t)
    (hf : t.stage = .free) (hr : t.role = .subscriber) {b : Subscriber} (hb : s.subscriber = some b)
    (hi : s.subscriberIntent t b = .proceed s') : s'.Served := by
  have hserves : s.Serving t.id := ⟨t, ht, hr⟩
  by_cases hq : b.request = .finished
  · simp only [System.subscriberIntent, hq] at hi
    cases hi
    have hold {i : Nat} {u : Thread}
        (hi : (System.endThread { s with subscriber := none } t).thread? i = some u) :
        i ≠ t.id ∧ s.thread? i = some u := by
      rw [thread?_endThread] at hi
      split at hi
      · cases hi
      · exact ⟨‹_›, hi⟩
    refine .of_none rfl (fun i => ?_) fun i => ?_
    · rintro ⟨u, hi, hur⟩
      obtain ⟨hne, hi⟩ := hold hi
      exact hne (h.alone i t.id ⟨u, hi, hur⟩ hserves)
    · rintro ⟨u, hi, hc⟩
      obtain ⟨v, -, hcreates⟩ := hman.creates ⟨u, (hold hi).2, hc⟩
      exact h.not_serving hu hcreates t.id hserves
  · exact h.other ht hf (shifts_subscriberIntent ht hr hi) (by simp [hr])
      (isSome_of_subscriberIntent hb hi hq)

theorem intent (h : s.Served) (hman : s.Manned errand)
    (hu : ∀ task, s.mqtt = some task → task.Undone) (ht : s.thread? t.id = some t)
    (hf : t.stage = .free) (hi : s.intent t = .proceed s') : s'.Served := by
  by_cases hm : t.role = .mqtt
  · simp only [System.intent, hm] at hi
    split at hi
    · exact h.mqttIntent ht hf hm ‹_› hi
    · cases hi
  · by_cases hr : t.role = .subscriber
    · simp only [System.intent, hr] at hi
      split at hi
      · exact h.subscriberIntent hman hu ht hf hr ‹_› hi
      · cases hi
    · exact h.other ht hf (shifts_intent hman.kinded ht (hman.own _ t ht) hi) hm
        (congrArg _ (untouched_of_intent hm hr hi).subscriber)

/-- A thread that is not the broker task's gets what it asked for. -/
theorem completeOther (h : s.Served) (hman : s.Manned errand) (ht : s.thread? t.id = some t)
    (hf : t.stage = .free) (hm : t.role ≠ .mqtt) (c : Completion) : (s.complete t c).Served :=
  h.other ht hf (shifts_complete hman.kinded hman.fresh ht (hman.own _ t ht) c) hm
    (isSome_complete hm c)

theorem pushed (h : s.Served) (hman : s.Manned errand) (ht : s.thread? t.id = some t)
    (hf : t.stage = .free)
    (ha : t.role = .mqtt → ∀ task, s.mqtt = some task → ∃ status, task.announcing = some status)
    (sent : Bool) : (s.complete t (.pushed sent)).Served := by
  by_cases hr : t.role = .mqtt
  · cases hm : s.mqtt with
    | none =>
      simp only [complete, hr, hm]
      exact h
    | some task =>
      obtain ⟨status, hno⟩ := ha hr task hm
      rw [complete_of_announcing hr hm hno]
      exact h.setThread (u := { t with told := t.told + 1 }) ht rfl id Iff.rfl
  · exact h.completeOther hman ht hf hr _

/-! ### Moves -/

theorem errandMove (h : s.Served) (hman : s.Manned errand) (ht : s.thread? t.id = some t)
    (hf : t.stage = .free) {e : Errand} (he : t.errand = some e)
    (hm : s.errandMove t e = .step s') : s'.Served := by
  have harb (a : Arbiter) : System.Served { s with arbiter := some a } := h.deliver rfl rfl rfl
  cases ha : s.arbiter with
  | none =>
    simp only [System.errandMove, ha] at hm
    cases hm
  | some a =>
    have hcases := errandMove_cases (t := t) ha e
    rw [hm] at hcases
    cases hcases with
    | skip | enter => exact (harb _).setThread ht rfl id Iff.rfl
    | ended ho =>
      obtain ⟨j, e₀, hj, -, -, hi, -⟩ := hman.of_errand ht he
      have hback : (s.setThread { t with errand := none }).Served := h.setThread ht rfl id Iff.rfl
      refine hback.completeOther (hman.dropErrand ht hj rfl rfl rfl hf)
        (thread?_setThread_self (u := { t with errand := none }) ht rfl) hf
        (fun hr : t.role = .mqtt => ?_) _
      simp only [System.intent, hr] at hi
      split at hi
      · exact mqttIntent_ne_errand _ hi
      · cases hi

theorem pushMove (h : s.Served) (hman : s.Manned errand) (ht : s.thread? t.id = some t)
    (hf : t.stage = .free) {handle : UInt16} {value : Bytes}
    (hi : s.intent t = .push handle value) (hm : s.pushMove t handle value = .step s') :
    s'.Served := by
  -- the value that is stored changes nothing about what the task announces
  have hno := announcing_of_push hi
  unfold System.pushMove at hm
  split at hm
  · cases hm
    exact h.pushed hman ht hf hno false
  · rename_i g hg
    have hgatt (g' : Gatt) : System.Served { s with gatt := some g' } := h.deliver rfl rfl rfl
    have hman' (g' : Gatt) : System.Manned { s with gatt := some g' } errand :=
      hman.deliver (.setGatt (by rw [hg]; rfl) g') rfl rfl
    split at hm <;> cases hm
    · exact (hgatt _).pushed (hman' _) ht hf hno false
    · refine (hgatt _).setThread ht rfl id ⟨?_, fun hc => ?_⟩
      · rintro ⟨_, _, _, hc⟩
        cases hc
      · exact absurd hc (Thread.not_isCreating_of_free hf)

theorem of_step (h : s.Served) (hman : s.Manned errand)
    (hu : ∀ task, s.mqtt = some task → task.Undone) (ht : s.thread? t.id = some t)
    (hn : s.next t = .step s') : s'.Served := by
  have notTry (c : Call) : s.tryCall t c ≠ .step s' := by
    unfold tryCall
    split <;> exact nofun
  unfold next at hn
  split at hn
  · cases hn
  · exact absurd hn (notTry _)
  · rename_i hf
    cases he : t.errand with
    | some e =>
      simp only [he] at hn
      exact h.errandMove hman ht hf he hn
    | none =>
      simp only [he] at hn
      split at hn
      · rename_i hi
        cases hn
        exact h.intent hman hu ht hf hi
      · exact absurd hn (notTry _)
      · cases hn
        exact h.setThread ht rfl id Iff.rfl
      · rename_i hi
        exact h.pushMove hman ht hf hi hn
      · cases hn

/-! ### Calls -/

theorem enterCall (h : s.Served) (ht : s.thread? t.id = some t) (hno : ¬ t.IsCreating) {c : Call}
    (hc : ∀ host port tls, c ≠ .clientCreate host port tls) : (s.enterCall t c).Served := by
  have hset : (s.setThread { t with stage := .inside c }).Served := by
    refine h.setThread ht rfl id ⟨?_, fun h => absurd h hno⟩
    rintro ⟨host, port, tls, heq⟩
    cases heq
    exact absurd rfl (hc host port tls)
  unfold System.enterCall
  dsimp only
  split
  · exact absurd rfl (hc _ _ _)
  · exact hset.deliver rfl rfl rfl
  · exact hset

/-- A client is about to be made. There is none, and so nobody serves. -/
theorem enterCreate (h : s.Served) (hu : ∀ task, s.mqtt = some task → task.Undone)
    (ht : s.thread? t.id = some t) (hc : s.Creates t) (host : String) (port : UInt16)
    (tls : Option TlsMaterial) : (s.enterCall t (.clientCreate host port tls)).Served := by
  have hself := thread?_setThread_self
    (u := { t with stage := .inside (.clientCreate host port tls) }) ht rfl
  have hno (i : Nat) : ¬ (s.enterCall t (.clientCreate host port tls)).Serving i := by
    rintro ⟨u, hi, hr⟩
    by_cases hid : i = t.id
    · subst hid
      cases hself.symm.trans hi
      cases hc.1.symm.trans hr
    · have hi : (s.setThread { t with stage := .inside (.clientCreate host port tls) }).thread? i =
        some u := hi
      rw [thread?_setThread, if_neg hid] at hi
      exact h.not_serving hu hc i ⟨u, hi, hr⟩
  exact ⟨fun i _ hi => absurd hi (hno i), fun i hi => absurd hi (hno i), fun _ _ => rfl,
    fun _ => .inr ⟨t.id, _, hself, host, port, tls, rfl⟩⟩

/-- The client that has been made gets a subscriber's thread. -/
theorem created (hs : ∀ i, ¬ s.Serving i) (hq : s.subscriber.isSome = true) {task : Mqtt}
    (hm : s.mqtt = some task) (ht : task.subscriber = true) :
    (s.spawn .subscriber .subscriber none).Served := by
  have hsub : (s.spawn .subscriber .subscriber none).subscribed = true := by
    simp [subscribed, System.spawn, hm, ht]
  have hnew {i : Nat} (hi : (s.spawn .subscriber .subscriber none).Serving i) :
      i = s.nextThread := by
    obtain ⟨v, hv, hr⟩ := hi
    rw [thread?_spawn] at hv
    cases hold : s.thread? i with
    | some v' =>
      rw [hold] at hv
      cases hv
      exact absurd ⟨_, hold, hr⟩ (hs i)
    | none =>
      rw [hold, Option.none_or] at hv
      split at hv <;> cases hv
      exact Eq.symm ‹_›
  exact ⟨fun i i' hi hi' => (hnew hi).trans (hnew hi').symm, fun _ _ => ⟨hq, hsub⟩, fun _ _ => hq,
    fun _ => .inl hsub⟩

/-- The call ends with a client or without one. -/
theorem leaveCreate (h : s.Served) (hman : s.Manned errand)
    (hu : ∀ task, s.mqtt = some task → task.Undone) (ht : s.thread? t.id = some t)
    (hcreating : t.IsCreating) {a : Answer} (ha : a = .done ∨ ∃ f, a = .failed f) :
    ((s.setThread { t with stage := .free }).complete
      { t with stage := .free } (.answer a)).Served := by
  obtain ⟨t', ht', hc⟩ := hman.creates ⟨t, ht, hcreating⟩
  cases ht.symm.trans ht'
  obtain ⟨hr, task, hm, hq⟩ := id hc
  have hself := thread?_setThread_self (u := { t with stage := .free }) ht rfl
  -- nobody has served, and nobody else is in the call
  have hserving (i : Nat) : ¬ (s.setThread { t with stage := .free }).Serving i := by
    rintro ⟨v, hv, hvr⟩
    by_cases hi : i = t.id
    · subst hi
      cases hself.symm.trans hv
      cases hr.symm.trans hvr
    · rw [thread?_setThread, if_neg hi] at hv
      exact h.not_serving hu hc i ⟨v, hv, hvr⟩
  have hnobody (i : Nat) : ¬ (s.setThread { t with stage := .free }).Creating i := by
    rintro ⟨v, hv, hvc⟩
    by_cases hi : i = t.id
    · subst hi
      cases hself.symm.trans hv
      exact Thread.not_isCreating_of_free (t := { t with stage := .free }) rfl hvc
    · rw [thread?_setThread, if_neg hi] at hv
      obtain ⟨v', hv', hc'⟩ := hman.creates ⟨v, hv, hvc⟩
      exact hi (hman.alone i t.id v' t .mqtt hv' ht (by rw [hc'.1]; rfl) (by rw [hr]; rfl))
  have hm' : (s.setThread { t with stage := .free }).mqtt = some task := hm
  rcases ha with rfl | ⟨f, rfl⟩
  · rw [complete_of_created (t := { t with stage := .free }) hr hm' hq]
    refine created (fun i hi => hserving i hi) (h.made t.id ⟨t, ht, hcreating⟩) rfl ?_
    rw [Mqtt.resume_of_create hq]
  · rw [complete_of_not_created (t := { t with stage := .free }) hr hm' hq]
    exact .of_none rfl (fun i hi => hserving i hi) fun i hi => hnobody i hi

theorem mqttAnswer (h : s.Served) (ht : s.thread? t.id = some t) (hr : t.role = .mqtt)
    {task : Mqtt} (hm : s.mqtt = some task) {s₀ : System} {t₀ : Thread} {c : Call} {a : Answer}
    (hi : s₀.mqttIntent t₀ task = .call c) (hc : task.request ≠ .create) (hb : c.Brings a) :
    (s.complete t (.answer a)).Served := by
  cases hno : task.announcing with
  | some status =>
    rw [complete_of_announcing hr hm hno]
    exact h.setThread (u := { t with told := t.told + 1 }) ht rfl id Iff.rfl
  | none =>
    have hp : task.point ≠ .creating := fun hp => hc ((Mqtt.request_iff hno).1.mpr hp)
    have hj : task.request ≠ .join := by
      intro hj
      simp only [System.mqttIntent, hj] at hi
      split at hi <;> cases hi
    have hadv := Mqtt.advances_of_fits (mqtt_fits_of_answer hi hno hb)
    have heq : s.complete t (.answer a) =
        { s with mqtt := some (task.resume (mqttReply (.answer a))) } := by
      simp only [complete, hr, hm, hno, Option.isSome_none, Bool.false_eq_true, if_false]
      split
      · exact absurd ‹_› hp
      · exact absurd ‹_› hp
      · rfl
    rw [heq]
    exact h.deliver rfl rfl (by simp [subscribed, hm, hadv.subscriber_eq hc hj])

theorem of_start (h : s.Served) (hman : s.Manned errand)
    (hu : ∀ task, s.mqtt = some task → task.Undone) (ht : s.thread? t.id = some t) {c : Call}
    (hn : s.next t = .start c s') : s'.Served := by
  have enters {c' : Call} (hno : ¬ t.IsCreating)
      (hc : ∀ host port tls, c' = .clientCreate host port tls → s.Creates t)
      (hm : s.tryCall t c' = .start c s') : s'.Served := by
    unfold tryCall at hm
    split at hm <;> cases hm
    by_cases hcreate : ∃ host port tls, c = .clientCreate host port tls
    · obtain ⟨host, port, tls, rfl⟩ := hcreate
      exact h.enterCreate hu ht (hc _ _ _ rfl) host port tls
    · exact h.enterCall ht hno fun host port tls heq => hcreate ⟨host, port, tls, heq⟩
  unfold next at hn
  split at hn
  · cases hn
  · rename_i c' hcalling
    obtain ⟨-, n, -, -, rfl, -⟩ := (hman.engaged _ t ht).of_calling hcalling
    refine enters ?_ (fun _ _ _ heq => by cases heq) hn
    rintro ⟨_, _, _, hc⟩
    cases hcalling.symm.trans hc
  · rename_i hf
    have hno : ¬ t.IsCreating := Thread.not_isCreating_of_free hf
    cases he : t.errand with
    | some e =>
      simp only [he] at hn
      cases ha : s.arbiter with
      | none =>
        simp only [System.errandMove, ha] at hn
        cases hn
      | some a =>
        have hcases := errandMove_cases (t := t) ha e
        rw [hn] at hcases
        cases hcases
        exact h.enterCall ht hno fun _ _ _ heq => by cases heq
    | none =>
      simp only [he] at hn
      split at hn
      · cases hn
      · rename_i c' hi
        refine enters hno (fun host port tls heq => ?_) hn
        subst heq
        exact creates_of_call (hman.own _ t ht) hi
      · cases hn
      · unfold System.pushMove at hn
        (repeat' split at hn) <;> cases hn
      · cases hn

theorem of_answer (h : s.Served) (hman : s.Manned errand)
    (hu : ∀ task, s.mqtt = some task → task.Undone) (ht : s.thread? t.id = some t) {c : Call}
    {a : Answer} (hn : s.next t = .inside c) (hb : c.Brings a) : (s.answer t c a).Served := by
  have hc := stage_of_inside hn
  have hcreating : t.IsCreating ↔ ∃ host port tls, c = .clientCreate host port tls := by
    simp only [Thread.IsCreating, hc, Stage.inside.injEq]
  have hfree {s₁ : System} (h₁ : s₁.Served) (ht₁ : s₁.thread? t.id = some t) (hno : ¬ t.IsCreating)
      (e : Option Errand) : (s₁.setThread { t with stage := .free, errand := e }).Served := by
    refine h₁.setThread ht₁ rfl id ⟨fun hc' => ?_, fun hc' => absurd hc' hno⟩
    exact absurd hc' (Thread.not_isCreating_of_free rfl)
  rcases (hman.engaged _ t ht).of_inside hc with ⟨e, m, he, rfl, hm⟩ | ⟨he, hi⟩
  · have hno : ¬ t.IsCreating := by
      rw [hcreating]
      exact nofun
    cases ha : s.arbiter with
    | none =>
      simp only [answer, he, setThread_arbiter, ha]
      exact hfree h ht hno _
    | some arbiter =>
      have harb : System.Served { s with arbiter := some (arbiter.answer e a.toModem).1 } :=
        h.deliver rfl rfl rfl
      rw [answer_of_errand ha he]
      exact hfree harb ht hno _
  · by_cases hcreate : t.IsCreating
    · obtain ⟨host, port, tls, rfl⟩ := hcreating.mp hcreate
      rw [answer_of_call he (fun _ heq => by cases heq)]
      exact h.leaveCreate hman hu ht hcreate (hb.imp_right fun hf => hf.2)
    · have hset := hfree h ht hcreate t.errand
      have ht' := thread?_setThread_self (u := { t with stage := .free }) ht rfl
      have hman' : (s.setThread { t with stage := .free }).Manned errand :=
        hman.setStage ht (.free he rfl)
      by_cases hr : t.role = .mqtt
      · rcases hi with hi | ⟨n, handle, value, rfl, hi⟩ | ⟨hn, -⟩
        · have hcall := call_of_asked? hi
          have hno (n : Notification) : c ≠ .notify n := by
            rintro rfl
            have hproper := s.isProper_intent t
            rw [hcall] at hproper
            exact hproper
          rw [answer_of_call he hno]
          simp only [System.intent, hr] at hcall
          split at hcall
          · rename_i task hm
            refine hset.mqttAnswer ht' hr hm hcall (fun hq => hcreate (hcreating.mpr ?_)) hb
            simp only [System.mqttIntent, hq] at hcall
            cases hcall
            exact ⟨_, _, _, rfl⟩
          · cases hcall
        · have hno := announcing_of_push (push_of_asked? hi)
          rw [answer_of_notify he]
          exact hset.pushed hman' ht' rfl hno _
        · rw [hr] at hn
          cases hn
      · obtain ⟨x, hx⟩ := exists_answer_eq (s := s) he c a
        rw [hx]
        exact hset.completeOther hman' ht' rfl hr x

theorem of_event (h : s.Served) (hman : s.Manned errand) (he : s.Event s') : s'.Served := by
  have hk := hman.kinded
  have delivered (hs : Spares none s s') (hc : s.Commanded s') : s'.Served :=
    h.deliver hc.threads (congrArg _ hc.subscriber) (hs.subscribed nofun)
  cases he with
  | notifyLink kind c => exact delivered (.notifyLink hk kind c) (.notifyLink s kind c)
  | notifyApp c => exact delivered (.notifyApp s c) (.notifyApp s c)
  | ipLost kind => exact delivered (.ipLost hk kind) (.ipLost s kind)
  | brokerLost =>
    exact delivered (.mapMqtt fun t => t.own_offer _) ⟨rfl, rfl, rfl, rfl, rfl, rfl, rfl⟩
  | brokerMessage payload => exact h.deliver rfl Option.isSome_map rfl
  | gatt e => exact delivered (.handleEvent hk e) (.handleEvent s e)
  | control bytes => exact delivered (.control hk bytes) (.control s bytes)
  | post hp => exact delivered (.postToBridge hp) (.postToBridge hp)
  | console =>
    have hc : System.Served { s with console := some {} } := h.deliver rfl rfl rfl
    exact hc.spawn .console .console nofun none
  | chore c =>
    have hc : System.Served { s with choreResult := none } := h.deliver rfl rfl rfl
    exact hc.spawn .main (.chore c) nofun none
  | shutdown => exact h.spawn .shutdown (.shutdown .notifying) nofun none
  | job _ => exact h.spawn .job .job nofun _
  | @linkLimit l _ hl _ _ =>
    have hs := Spares.setLink hk hl (l.resume_kind (.commands .empty))
    have hc := Commanded.setLink s (l.resume (.commands .empty))
    exact h.deliver hc.threads (congrArg _ hc.subscriber) (hs.subscribed nofun)
  | mqttLimit hm hq _ =>
    have hr := (Mqtt.reads_of_wait hq .empty).stays.1
    exact h.deliver rfl rfl (by simp [subscribed, hm, hr])
  | patience ht _ _ _ _ _ =>
    have ha (a : Arbiter) : System.Served { s with arbiter := some a } := h.deliver rfl rfl rfl
    exact (ha _).setThread ht rfl id Iff.rfl

end Served

end System

namespace Gateway

variable {g g' : Gateway} {errand : Task → Option Errand} {tidy : Bool}

theorem Step.served (hs : Step tidy g g') (h : g.system.Served) (hman : g.system.Manned errand)
    (hu : ∀ task, g.system.mqtt = some task → task.Undone) : g'.system.Served := by
  cases hs with
  | step ht hn => exact h.of_step hman hu ht hn
  | start ht hn => exact h.of_start hman hu ht hn
  | answer ht hn hb _ => exact h.of_answer hman hu ht hn hb
  | event he _ => exact h.of_event hman he
  | lose _ _ => exact h

theorem undone_of_run {settings : Settings} {p : Provided} {s₀ : System}
    (hb : s₀.Booted settings p) (hr : Relation.ReflTransGen (Step tidy) { system := s₀ } g) :
    ∃ errand, g.system.Manned errand ∧ ∀ task, g.system.mqtt = some task → task.Undone := by
  obtain ⟨errand, hman, -, hrun⟩ := crew_of_run hb.manned (.of_new hb.new) hr
  refine ⟨errand, hman, fun task hm => ?_⟩
  exact Crew.undone_of_run hb.new hrun task.own (by simp [System.crew, hm])

theorem served_of_run {settings : Settings} {p : Provided} {s₀ : System}
    (hb : s₀.Booted settings p) (hr : Relation.ReflTransGen (Step tidy) { system := s₀ } g) :
    g.system.Served := by
  induction hr with
  | refl =>
    refine .of_none hb.subscriber (fun i => ?_) fun i => ?_
    · rintro ⟨t, ht, hrole⟩
      have := (hb.idle i t ht).2
      rw [hrole] at this
      cases this
    · rintro ⟨t, ht, hc⟩
      exact Thread.not_isCreating_of_free (hb.idle i t ht).1 hc
  | tail hr hs ih =>
    obtain ⟨errand, hman, hu⟩ := undone_of_run hb hr
    exact hs.served ih hman hu

end Gateway

end EdgeGateway
