import EdgeGateway.Proofs.Gateway.Served

/-!
# EdgeGateway.Proofs.Output.Apart

What leaves the device output alone.

* `Subscriber.own` : a subscriber without its queue.
* `System.Apart`   : the recorded state of the output stays, the subscriber and its thread stay
  where they are, and no call begins that is about the output.

So it is after a move of any other thread (`System.apart_of_step`, `System.apart_of_start`,
`System.apart_of_answer`), unless it makes a client, and after whatever comes from outside
(`System.apart_of_event`).
-/

namespace EdgeGateway

def Subscriber.own (b : Subscriber) : Subscriber := { b with inbox := { depth := 0 } }

theorem Subscriber.eq_of_own {b b' : Subscriber} (h : b'.own = b.own) :
    b' = { b with inbox := b'.inbox } := by
  cases b
  cases b'
  simp only [own, Subscriber.mk.injEq] at h
  simp [h]

namespace System

variable {s s₀ s' : System} {t u : Thread}

structure Apart (s s' : System) : Prop where
  settings : s'.settings = s.settings
  switch : s'.switch = s.switch
  subscriber : s'.subscriber.map Subscriber.own = s.subscriber.map Subscriber.own
  /-- a subscriber's thread in a call, or one in a call about the output, has been there before -/
  inside : ∀ i u c, s'.thread? i = some u → u.stage = .inside c →
    u.role = .subscriber ∨ c.steers = true →
      ∃ v, s.thread? i = some v ∧ v.stage = .inside c ∧ v.role = u.role
  serving : ∀ i u, s.thread? i = some u → u.role = .subscriber → s'.thread? i = some u

namespace Apart

theorem of_threads (hc : s'.settings = s.settings) (hw : s'.switch = s.switch)
    (hb : s'.subscriber.map Subscriber.own = s.subscriber.map Subscriber.own)
    (ht : s'.threads = s.threads) : s.Apart s' where
  settings := hc
  switch := hw
  subscriber := hb
  inside i u c hu hc _ := ⟨u, by rwa [thread?, ← ht], hc, rfl⟩
  serving i u hu _ := by rwa [thread?, ht]

theorem trans (h : s.Apart s₀) (h' : s₀.Apart s') : s.Apart s' where
  settings := h'.settings.trans h.settings
  switch := h'.switch.trans h.switch
  subscriber := h'.subscriber.trans h.subscriber
  inside i u c hu hc hd := by
    obtain ⟨v, hv, hvc, hvr⟩ := h'.inside i u c hu hc hd
    obtain ⟨w, hw, hwc, hwr⟩ := h.inside i v c hv hvc (hd.imp_left hvr.trans)
    exact ⟨w, hw, hwc, hwr.trans hvr⟩
  serving i u hu hr := h'.serving i u (h.serving i u hu hr) hr

theorem setThread (ht : s.thread? t.id = some t) (hr : t.role ≠ .subscriber) (hid : u.id = t.id)
    (hrole : u.role = t.role) (hu : ∀ c, u.stage = .inside c → c.steers = false) :
    s.Apart (s.setThread u) where
  settings := rfl
  switch := rfl
  subscriber := rfl
  inside i v c hv hc hd := by
    rw [thread?_setThread] at hv
    split at hv
    · obtain ⟨-, -, rfl⟩ := Option.map_eq_some_iff.mp hv
      rcases hd with hd | hd
      · exact absurd (hrole.symm.trans hd) hr
      · rw [hu c hc] at hd
        cases hd
    · exact ⟨v, hv, hc, rfl⟩
  serving i v hv hvr := by
    rw [thread?_setThread, hid, if_neg]
    · exact hv
    · rintro rfl
      cases ht.symm.trans hv
      exact hr hvr

theorem setThread_free (ht : s.thread? t.id = some t) (hr : t.role ≠ .subscriber)
    (hid : u.id = t.id) (hrole : u.role = t.role) (hu : u.stage = .free) :
    s.Apart (s.setThread u) :=
  setThread ht hr hid hrole fun c hc => by cases hu.symm.trans hc

theorem spawn (s : System) (actor : Actor) (role : Role) (e : Option Errand) :
    s.Apart (s.spawn actor role e) where
  settings := rfl
  switch := rfl
  subscriber := rfl
  inside i u c hu hc _ := by
    rw [thread?_spawn, Option.or_eq_some_iff] at hu
    rcases hu with hu | ⟨-, hu⟩
    · exact ⟨u, hu, hc, rfl⟩
    · split at hu <;> cases hu
      cases hc
  serving i u hu _ := by
    rw [thread?_spawn, hu]
    rfl

/-- The task of a thread goes on. -/
theorem shift (ht : s.thread? t.id = some t) (hr : t.role ≠ .subscriber) (hf : t.stage = .free)
    (hs : Shifts t s s') (hw : s'.switch = s.switch)
    (hb : s'.subscriber.map Subscriber.own = s.subscriber.map Subscriber.own) : s.Apart s' where
  settings := hs.spares.settings
  switch := hw
  subscriber := hb
  inside i u c hu hc _ := by
    by_cases hi : i = t.id
    · subst hi
      cases ((hs.self u hu).2.1.trans hf).symm.trans hc
    · rcases hs.others i u hi hu with hold | ⟨-, -, -, hfree⟩
      · exact ⟨u, hold, hc, rfl⟩
      · cases hfree.symm.trans hc
  serving i u hu hur := by
    refine hs.stay i u ?_ hu
    rintro rfl
    cases ht.symm.trans hu
    exact hr hur

theorem commanded {k : Option Task} (hs : Spares k s s') (hc : s.Commanded s') : s.Apart s' :=
  of_threads hs.settings hc.switch (congrArg _ hc.subscriber) hc.threads

end Apart

/-! ## The broker task -/

/-- It goes on by itself, and a message for the subscriber is put in its queue. -/
theorem untouched_of_mqttIntent {task : Mqtt} (hi : s.mqttIntent t task = .proceed s') :
    s'.switch = s.switch ∧
      s'.subscriber.map Subscriber.own = s.subscriber.map Subscriber.own := by
  cases hr : task.request with
  | announce status =>
    simp only [mqttIntent, hr] at hi
    cases eq_of_announce_proceed hi
    exact ⟨rfl, rfl⟩
  | tell m =>
    simp only [mqttIntent, hr] at hi
    split at hi
    · cases hi
      exact ⟨rfl, rfl⟩
    · rename_i b hb
      (repeat' split at hi) <;> cases hi
      · exact ⟨rfl, rfl⟩
      · rw [hb]
        exact ⟨rfl, rfl⟩
  | _ =>
    simp only [mqttIntent, hr] at hi
    (repeat' split at hi) <;> cases hi
    all_goals exact ⟨rfl, rfl⟩

/-- What the task gets leaves the output alone, unless it is a client. -/
theorem untouched_complete_mqtt (hr : t.role = .mqtt)
    (hno : ∀ task, s.mqtt = some task → task.request ≠ .create) (c : Completion) :
    s.Untouched (s.complete t c) := by
  cases hm : s.mqtt with
  | none =>
    simp only [complete, hr, hm]
    exact ⟨rfl, rfl⟩
  | some task =>
    cases ha : task.announcing with
    | some status =>
      rw [complete_of_announcing hr hm ha]
      exact ⟨rfl, rfl⟩
    | none =>
      have hp : task.point ≠ .creating := fun hp =>
        hno task hm ((Mqtt.request_iff ha).1.mpr hp)
      simp only [complete, hr, hm, ha, Option.isSome_none, Bool.false_eq_true, if_false]
      split
      · exact absurd ‹_› hp
      · exact absurd ‹_› hp
      · exact ⟨rfl, rfl⟩

/-! ## Moves of other threads -/

variable {errand : Task → Option Errand}

/-- The broker task asks for a client at one point. -/
theorem intent_of_create (hr : t.role = .mqtt) {task : Mqtt} (hm : s.mqtt = some task)
    (hq : task.request = .create) :
    ∃ host port tls, s.intent t = .call (.clientCreate host port tls) := by
  simp only [intent, hr, hm, mqttIntent, hq]
  exact ⟨_, _, _, rfl⟩

/-- A subscriber is on no errand. -/
theorem Manned.errand_of_subscriber (hman : s.Manned errand) (ht : s.thread? t.id = some t)
    (hr : t.role = .subscriber) : t.errand = none := by
  refine Option.eq_none_iff_forall_ne_some.mpr fun e he => ?_
  obtain ⟨j, -, hj, -⟩ := hman.of_errand ht he
  rw [hr] at hj
  cases hj

/-- A call begins as its task has asked for it. What the task is to be given otherwise is on its
way by a notice or an errand. -/
theorem Manned.begun (hman : s.Manned errand) (ht : s.thread? t.id = some t) {c : Call}
    (hn : s.next t = .start c s') : s' = s.enterCall t c ∧
      (t.stage = .free ∧ t.errand = none ∧ s.intent t = .call c ∨
        t.role.task? ≠ none ∧ ((∃ n, c = .notify n) ∨ ∃ m, c = .modem m)) := by
  have enters {c' : Call} (hm : s.tryCall t c' = .start c s') : c' = c ∧ s' = s.enterCall t c := by
    unfold tryCall at hm
    split at hm <;> cases hm
    exact ⟨rfl, rfl⟩
  unfold next at hn
  split at hn
  · cases hn
  · rename_i c' hcalling
    obtain ⟨-, n, handle, value, rfl, hi⟩ := (hman.engaged _ t ht).of_calling hcalling
    obtain ⟨rfl, rfl⟩ := enters hn
    refine ⟨rfl, .inr ⟨fun hj => ?_, .inl ⟨n, rfl⟩⟩⟩
    obtain ⟨c, heq, -⟩ := aside_of_intent (hman.own _ t ht) hj hi
    cases heq
  · rename_i hf
    cases he : t.errand with
    | some e =>
      simp only [he] at hn
      obtain ⟨j, -, hj, -⟩ := hman.of_errand ht he
      cases ha : s.arbiter with
      | none =>
        simp only [System.errandMove, ha] at hn
        cases hn
      | some a =>
        have hcases := errandMove_cases (t := t) ha e
        rw [hn] at hcases
        cases hcases with
        | call hm =>
          refine ⟨rfl, .inr ⟨fun hnone => ?_, .inr ⟨_, rfl⟩⟩⟩
          cases hj.symm.trans hnone
    | none =>
      simp only [he] at hn
      split at hn
      · cases hn
      · rename_i c' hi
        obtain ⟨rfl, rfl⟩ := enters hn
        exact ⟨rfl, .inl ⟨hf, rfl, hi⟩⟩
      · cases hn
      · unfold System.pushMove at hn
        (repeat' split at hn) <;> cases hn
      · cases hn

/-- A call that is not about the output is entered, and that is all. -/
theorem enterCall_of_steers {c : Call} (hc : c.steers = false) :
    s.enterCall t c = s.setThread { t with stage := .inside c } := by
  cases c with
  | clientCreate host port tls => cases hc
  | drive on => cases hc
  | _ => rfl

section Others

variable (hman : s.Manned errand) (ht : s.thread? t.id = some t) (hr : t.role ≠ .subscriber)
include hman ht hr

/-- The task of another thread goes on by itself. -/
theorem apart_of_intent (hf : t.stage = .free) (hi : s.intent t = .proceed s') : s.Apart s' := by
  have hs := shifts_intent hman.kinded ht (hman.own _ t ht) hi
  by_cases hm : t.role = .mqtt
  · simp only [intent, hm] at hi
    split at hi
    · obtain ⟨hswitch, hown⟩ := untouched_of_mqttIntent hi
      exact .shift ht hr hf hs hswitch hown
    · cases hi
  · have hu := untouched_of_intent hm hr hi
    exact .shift ht hr hf hs hu.switch (congrArg _ hu.subscriber)

/-- It gets what it asked for, which is not a client. -/
theorem apart_complete (hf : t.stage = .free)
    (hno : t.role = .mqtt → ∀ task, s.mqtt = some task → task.request ≠ .create)
    (c : Completion) : s.Apart (s.complete t c) := by
  have hu : s.Untouched (s.complete t c) := by
    by_cases hm : t.role = .mqtt
    · exact untouched_complete_mqtt hm (hno hm) c
    · exact untouched_complete hm hr c
  exact .shift ht hr hf (shifts_complete hman.kinded hman.fresh ht (hman.own _ t ht) c) hu.switch
    (congrArg _ hu.subscriber)

theorem apart_of_errandMove (hf : t.stage = .free) {e : Errand} (he : t.errand = some e)
    (hm : s.errandMove t e = .step s') : s.Apart s' := by
  have harb (a : Arbiter) : s.Apart { s with arbiter := some a } := .of_threads rfl rfl rfl rfl
  cases ha : s.arbiter with
  | none =>
    simp only [errandMove, ha] at hm
    cases hm
  | some a =>
    have hcases := errandMove_cases (t := t) ha e
    rw [hm] at hcases
    cases hcases with
    | skip | enter => exact (harb _).trans (.setThread_free ht hr rfl rfl hf)
    | ended ho =>
      obtain ⟨j, e₀, hj, -, -, hi, -⟩ := hman.of_errand ht he
      let u : Thread := { t with errand := none }
      have hback := hman.dropErrand (u := u) ht hj rfl rfl rfl hf
      have hset := thread?_setThread_self (u := u) ht rfl
      have hfree : s.Apart (s.setThread u) := .setThread_free ht hr rfl rfl hf
      refine hfree.trans (apart_complete hback hset hr hf (fun hrole task hm hq => ?_) _)
      obtain ⟨host, port, tls, hcall⟩ := intent_of_create (s := s) (t := t) hrole hm hq
      cases hi.symm.trans hcall

theorem apart_of_pushMove (hf : t.stage = .free) {handle : UInt16} {value : Bytes}
    (hi : s.intent t = .push handle value) (hm : s.pushMove t handle value = .step s') :
    s.Apart s' := by
  -- what is pushed is no client, whatever becomes of the value
  have hno : t.role = .mqtt → ∀ task, s.mqtt = some task → task.request ≠ .create := by
    intro hrole task hm hq
    obtain ⟨host, port, tls, hcall⟩ := intent_of_create (s := s) (t := t) hrole hm hq
    cases hi.symm.trans hcall
  unfold pushMove at hm
  split at hm
  · cases hm
    exact apart_complete hman ht hr hf hno _
  · rename_i g hg
    have hgatt (g' : Gatt) : s.Apart { s with gatt := some g' } := .of_threads rfl rfl rfl rfl
    have hman' (g' : Gatt) : System.Manned { s with gatt := some g' } errand :=
      hman.deliver (.setGatt (by rw [hg]; rfl) g') rfl rfl
    split at hm <;> cases hm
    · exact (hgatt _).trans (apart_complete (hman' _) ht hr hf hno _)
    · exact (hgatt _).trans (.setThread ht hr rfl rfl fun c hc => by cases hc)

theorem apart_of_step (hn : s.next t = .step s') : s.Apart s' := by
  have notTry (c : Call) : s.tryCall t c ≠ .step s' := by
    unfold tryCall
    split <;> exact nofun
  unfold next at hn
  split at hn
  · cases hn
  · exact absurd hn (notTry _)
  · rename_i hf
    cases he : t.errand with
    | some e =>
      simp only [he] at hn
      exact apart_of_errandMove hman ht hr hf he hn
    | none =>
      simp only [he] at hn
      split at hn
      · rename_i hi
        cases hn
        exact apart_of_intent hman ht hr hf hi
      · exact absurd hn (notTry _)
      · cases hn
        exact .setThread_free ht hr rfl rfl hf
      · rename_i hi
        exact apart_of_pushMove hman ht hr hf hi hn
      · cases hn

/-- It does not drive the output. -/
theorem ne_drive_of_start {c : Call} (hn : s.next t = .start c s') (on : Bool) : c ≠ .drive on := by
  rintro rfl
  rcases (hman.begun ht hn).2 with ⟨-, -, hi⟩ | ⟨-, ⟨n, hn⟩ | ⟨m, hm⟩⟩
  · exact hr (drives_of_call (hman.own _ t ht) hi).1
  · cases hn
  · cases hm

/-- A call of another thread begins, and it makes no client. -/
theorem apart_of_start {c : Call} (hn : s.next t = .start c s') (hc : c.steers = false) :
    s.Apart s' := by
  obtain ⟨rfl, -⟩ := hman.begun ht hn
  rw [enterCall_of_steers hc]
  exact .setThread ht hr rfl rfl fun c' hc' => by cases hc'; exact hc

theorem apart_of_answer {c : Call} (hn : s.next t = .inside c) (hno : ¬ t.IsCreating)
    (a : Answer) : s.Apart (s.answer t c a) := by
  have hc := stage_of_inside hn
  rcases (hman.engaged _ t ht).of_inside hc with ⟨e, m, he, rfl, hm⟩ | ⟨he, hi⟩
  · cases ha : s.arbiter with
    | none =>
      simp only [answer, he, setThread_arbiter, ha]
      exact .setThread_free ht hr rfl rfl rfl
    | some arbiter =>
      have harb : s.Apart { s with arbiter := some (arbiter.answer e a.toModem).1 } :=
        .of_threads rfl rfl rfl rfl
      rw [answer_of_errand ha he]
      exact harb.trans (.setThread_free ht hr rfl rfl rfl)
  · let u : Thread := { t with stage := .free }
    have hback : (s.setThread u).Manned errand := hman.setStage ht (.free he rfl)
    have hset := thread?_setThread_self (u := u) ht rfl
    have hfree : s.Apart (s.setThread u) := .setThread_free ht hr rfl rfl rfl
    obtain ⟨x, hx⟩ := exists_answer_eq (s := s) he c a
    rw [hx]
    refine hfree.trans (apart_complete hback hset hr rfl (fun hrole task hm hq => ?_) x)
    obtain ⟨host, port, tls, hcall⟩ := intent_of_create (s := s) (t := t) hrole hm hq
    rw [hcall] at hi
    rcases hi with hi | ⟨n, handle, value, -, hi⟩ | ⟨hnone, -⟩
    · cases hi
      exact hno ⟨host, port, tls, hc⟩
    · cases hi
    · have hrole : t.role = .mqtt := hrole
      rw [hrole] at hnone
      cases hnone

end Others

theorem apart_of_event (hman : s.Manned errand) (he : s.Event s') : s.Apart s' := by
  have hk := hman.kinded
  cases he with
  | notifyLink kind c => exact .commanded (.notifyLink hk kind c) (.notifyLink s kind c)
  | notifyApp c => exact .commanded (.notifyApp s c) (.notifyApp s c)
  | ipLost kind => exact .commanded (.ipLost hk kind) (.ipLost s kind)
  | brokerLost => exact .of_threads rfl rfl rfl rfl
  | brokerMessage payload =>
    refine .of_threads rfl rfl ?_ rfl
    rw [brokerMessage, Option.map_map]
    rfl
  | gatt e => exact .commanded (.handleEvent hk e) (.handleEvent s e)
  | control bytes => exact .commanded (.control hk bytes) (.control s bytes)
  | post hp => exact .commanded (.postToBridge hp) (.postToBridge hp)
  | console =>
    have hcon : s.Apart { s with console := some {} } := .of_threads rfl rfl rfl rfl
    exact hcon.trans (.spawn _ ..)
  | chore c =>
    have hres : s.Apart { s with choreResult := none } := .of_threads rfl rfl rfl rfl
    exact hres.trans (.spawn _ ..)
  | shutdown => exact .spawn s ..
  | job _ => exact .spawn s ..
  | @linkLimit l _ hl _ _ =>
    exact .commanded (.setLink hk hl (l.resume_kind (.commands .empty)))
      (.setLink s (l.resume (.commands .empty)))
  | mqttLimit hm hq _ => exact .of_threads rfl rfl rfl rfl
  | @patience t e e' a a' ht hf he _ _ _ =>
    have harb : s.Apart { s with arbiter := some a' } := .of_threads rfl rfl rfl rfl
    have hr : t.role ≠ .subscriber := fun hr => by
      cases (hman.errand_of_subscriber ht hr).symm.trans he
    exact harb.trans (.setThread_free ht hr rfl rfl hf)

end System

end EdgeGateway
