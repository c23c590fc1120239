import EdgeGateway.Mqtt
import EdgeGateway.Proofs.Commands

/-!
# EdgeGateway.Proofs.Mqtt.Turn

All that the broker task can do.

* `Mqtt.Fits`     : the replies a request can get.
* `Mqtt.Turn`     : what the task does with such a reply, one case for each way on.
* `Mqtt.Receives` : the same for an operation taken from its queue.
* `Mqtt.Reads`    : the same for the commands a wait has read.
-/

namespace EdgeGateway

namespace Mqtt

/-- Neither a receive nor a wait is answered from outside. -/
inductive Fits : Request → Reply → Prop where
  | proceed : Fits .proceed .done
  | announce {s : Status} : Fits (.announce s) .done
  | bringUp : Fits .bringUp .done
  | bringUpFailed : Fits .bringUp .failed
  | create : Fits .create .done
  | createFailed : Fits .create .failed
  | askDefaultReady {b : Bool} : Fits .askDefaultReady (.flag b)
  | connect : Fits .connect .done
  | connectFailed : Fits .connect .failed
  | tell {m : SubscriberMessage} : Fits (.tell m) .done
  | disconnect : Fits .disconnect .done
  | disconnectFailed : Fits .disconnect .failed
  | join : Fits .join .done
  | delete : Fits .delete .done
  | deleteFailed : Fits .delete .failed
  | tearDown : Fits .tearDown .done
  | tearDownFailed : Fits .tearDown .failed

/-- Where a reading of commands takes a task that is down. -/
inductive Acts (cs : Commands) : Point → Prop where
  | stay : cs.contains .shutdown = false → cs.isEmpty = true ∨ cs.contains .stop = true →
      Acts cs (.waiting .empty)
  | setUp : cs.contains .shutdown = false →
      cs.contains .restart = true ∨ cs.contains .start = true → Acts cs .opening
  | exit : cs.contains .shutdown = true → Acts cs (.stoppingSubscriber .exit)

theorem acts (t : Mqtt) (cs : Commands) : ∃ p, t.act cs = t.goto p ∧ Acts cs p := by
  unfold act
  cases hd : cs.dominant with
  | none =>
    have he := Commands.dominant_eq_none.mp hd
    exact ⟨_, rfl, .stay (Commands.isEmpty_iff.mp he _) (.inl he)⟩
  | some c =>
    have hs : c ≠ .shutdown → cs.contains .shutdown = false := fun hc =>
      Commands.no_shutdown_of_dominant hd hc
    cases c with
    | start => exact ⟨_, rfl, .setUp (hs nofun) (.inr (Commands.contains_start_of_dominant hd))⟩
    | restart => exact ⟨_, rfl, .setUp (hs nofun) (Commands.contains_of_dominant_restart hd)⟩
    | stop => exact ⟨_, rfl, .stay (hs nofun) (.inr (Commands.contains_stop_of_dominant hd))⟩
    | shutdown => exact ⟨_, rfl, .exit (Commands.dominant_eq_shutdown.mp hd)⟩

/-- What the task does on a reply, listeners apart. -/
inductive Turn (t : Mqtt) : Request → Reply → Mqtt → Prop where
  | opened : t.point = .opening →
      Turn t .proceed .done ((t.setStatus .starting).goto .preparing)
  | prepared : t.point = .preparing → Turn t .proceed .done
      { t with
        operations := t.operations.clear
        deferred := {}
        point := if !t.ready then .bringingUp else if !t.created then .creating
          else .trying .setup 1 }
  | broughtUp : t.point = .bringingUp → Turn t .bringUp .done
      { t with ready := true, point := if t.created then .trying .setup 1 else .creating }
  | notBroughtUp : t.point = .bringingUp → Turn t .bringUp .failed (t.lose .setup .empty)
  | created : t.point = .creating → Turn t .create .done
      { t with created := true, subscriber := true, point := .trying .setup 1 }
  | notCreated : t.point = .creating → Turn t .create .failed (t.lose .setup .empty)
  | exhausted {phase : Phase} {n : Nat} : t.point = .trying phase n → t.policy.attempts < n →
      Turn t .proceed .done (t.lose phase .empty)
  | first {phase : Phase} : t.point = .trying phase 1 → 1 ≤ t.policy.attempts →
      Turn t .proceed .done (t.goto (.checking phase 1))
  | pause {phase : Phase} {n : Nat} : t.point = .trying phase n → n ≤ t.policy.attempts →
      n ≠ 1 → Turn t .proceed .done (t.goto (.pausing phase n))
  | routed {phase : Phase} {n : Nat} : t.point = .checking phase n →
      Turn t .askDefaultReady (.flag true) (t.goto (.connecting phase n))
  | unrouted {phase : Phase} {n : Nat} : t.point = .checking phase n →
      Turn t .askDefaultReady (.flag false) (t.goto (.trying phase (n + 1)))
  | connected {phase : Phase} {n : Nat} : t.point = .connecting phase n →
      Turn t .connect .done { t with connected := true, point := .subscribing phase }
  | notConnected {phase : Phase} {n : Nat} : t.point = .connecting phase n →
      Turn t .connect .failed (t.goto (.trying phase (n + 1)))
  | started : t.point = .subscribing .setup →
      Turn t (.tell .subscribe) .done ((t.setStatus .started).goto .receiving)
  | reconnected : t.point = .subscribing .reconnect →
      Turn t (.tell .subscribe) .done (t.goto .receiving)
  | dropped {r : Reply} : t.point = .dropping →
      Turn t .disconnect r { t with connected := false, point := .trying .reconnect 1 }
  | stopTold {e : Ending} : t.point = .stoppingSubscriber e → t.subscriber = true →
      Turn t (.tell .stop) .done (t.goto (.joiningSubscriber e))
  | noSubscriber {e : Ending} : t.point = .stoppingSubscriber e → t.subscriber = false →
      Turn t .proceed .done (t.goto (.disconnecting e))
  | joined {e : Ending} : t.point = .joiningSubscriber e →
      Turn t .join .done { t with subscriber := false, point := .disconnecting e }
  | disconnected {e : Ending} {q : Request} {r : Reply} : t.point = .disconnecting e →
      q = .disconnect ∨ q = .proceed →
      Turn t q r { t with connected := false, point := .deleting e }
  | deleted {e : Ending} {q : Request} {r : Reply} : t.point = .deleting e →
      q = .delete ∨ q = .proceed → Turn t q r { t with created := false, point := .tearingDown e }
  | tornDown {e : Ending} {q : Request} {r : Reply} : t.point = .tearingDown e →
      q = .tearDown ∨ q = .proceed → Turn t q r { t with ready := false, point := .settling e }
  | stopped : t.point = .settling .stopped →
      Turn t .proceed .done ((t.setStatus .stopped).withDeferred .empty)
  | failed {left : Commands} : t.point = .settling (.failed left) →
      Turn t .proceed .done ((t.setStatus .failedToStart).withDeferred left)
  | exited : t.point = .settling .exit →
      Turn t .proceed .done ((t.setStatus .stopped).goto .finished)
  | acted {left : Commands} {p : Point} : t.point = .waiting left → left.isEmpty = false →
      Acts left p → Turn t .proceed .done (t.goto p)

inductive Receives (t : Mqtt) : Operation → Mqtt → Prop where
  | disconnected : t.point = .receiving → Receives t .disconnected
      (t.goto (if t.connected then .dropping else .trying .reconnect 1))
  | subscribeFailed : t.point = .receiving → Receives t .subscribeFailed t
  | exitLoop : t.point = .receiving → Receives t .exitLoop
      ((t.setStatus .stopping).goto (.stoppingSubscriber .stopped))

inductive Reads (t : Mqtt) (cs : Commands) : Option Nat → Mqtt → Prop where
  | abort {phase : Phase} {n : Nat} : t.point = .pausing phase n →
      (cs.contains .stop || cs.contains .shutdown) = true →
      Reads t cs (some t.policy.interval)
        ({ t with deferred := {} }.lose phase ((cs.erase .stop).erase .start))
  | defer {phase : Phase} {n : Nat} : t.point = .pausing phase n →
      (cs.contains .stop || cs.contains .shutdown) = false → cs.contains .restart = true →
      t.status = .started → Reads t cs (some t.policy.interval)
        { t with deferred := t.deferred.insert .restart, point := .checking phase n }
  | retry {phase : Phase} {n : Nat} : t.point = .pausing phase n →
      (cs.contains .stop || cs.contains .shutdown) = false →
      (cs.contains .restart && t.isStarted) = false →
      Reads t cs (some t.policy.interval) (t.goto (.checking phase n))
  | acted {left : Commands} {p : Point} : t.point = .waiting left → left.isEmpty = true →
      Acts cs p → Reads t cs none (t.goto p)

/-! ## What is left as it was -/

@[simp] theorem setStatus_status (t : Mqtt) (s : Status) : (t.setStatus s).status = s := by
  unfold setStatus
  split <;> simp_all
@[simp] theorem setStatus_policy (t : Mqtt) (s : Status) :
    (t.setStatus s).policy = t.policy := by
  unfold setStatus; split <;> rfl
@[simp] theorem setStatus_operations (t : Mqtt) (s : Status) :
    (t.setStatus s).operations = t.operations := by
  unfold setStatus; split <;> rfl
@[simp] theorem setStatus_pending (t : Mqtt) (s : Status) :
    (t.setStatus s).pending = t.pending := by
  unfold setStatus; split <;> rfl
@[simp] theorem setStatus_ready (t : Mqtt) (s : Status) :
    (t.setStatus s).ready = t.ready := by
  unfold setStatus; split <;> rfl
@[simp] theorem setStatus_created (t : Mqtt) (s : Status) :
    (t.setStatus s).created = t.created := by
  unfold setStatus; split <;> rfl
@[simp] theorem setStatus_connected (t : Mqtt) (s : Status) :
    (t.setStatus s).connected = t.connected := by
  unfold setStatus; split <;> rfl
@[simp] theorem setStatus_subscriber (t : Mqtt) (s : Status) :
    (t.setStatus s).subscriber = t.subscriber := by
  unfold setStatus; split <;> rfl
@[simp] theorem setStatus_deferred (t : Mqtt) (s : Status) :
    (t.setStatus s).deferred = t.deferred := by
  unfold setStatus; split <;> rfl

@[simp] theorem lose_point (t : Mqtt) (phase : Phase) (left : Commands) :
    (t.lose phase left).point = .stoppingSubscriber (.failed left) := by cases phase <;> rfl
@[simp] theorem lose_policy (t : Mqtt) (phase : Phase) (left : Commands) :
    (t.lose phase left).policy = t.policy := by cases phase <;> simp [lose, goto]
@[simp] theorem lose_operations (t : Mqtt) (phase : Phase) (left : Commands) :
    (t.lose phase left).operations = t.operations := by cases phase <;> simp [lose, goto]
@[simp] theorem lose_pending (t : Mqtt) (phase : Phase) (left : Commands) :
    (t.lose phase left).pending = t.pending := by cases phase <;> simp [lose, goto]
@[simp] theorem lose_ready (t : Mqtt) (phase : Phase) (left : Commands) :
    (t.lose phase left).ready = t.ready := by cases phase <;> simp [lose, goto]
@[simp] theorem lose_created (t : Mqtt) (phase : Phase) (left : Commands) :
    (t.lose phase left).created = t.created := by cases phase <;> simp [lose, goto]
@[simp] theorem lose_connected (t : Mqtt) (phase : Phase) (left : Commands) :
    (t.lose phase left).connected = t.connected := by cases phase <;> simp [lose, goto]
@[simp] theorem lose_subscriber (t : Mqtt) (phase : Phase) (left : Commands) :
    (t.lose phase left).subscriber = t.subscriber := by cases phase <;> simp [lose, goto]
@[simp] theorem lose_deferred (t : Mqtt) (phase : Phase) (left : Commands) :
    (t.lose phase left).deferred = t.deferred := by cases phase <;> simp [lose, goto]

/-! ## The tables are complete -/

theorem turn_of_fits {t : Mqtt} {r : Reply} (ha : t.announcing = none) (h : Fits t.request r) :
    Turn t t.request r (t.resume r) := by
  have hr : t.resume r = t.move r := by simp only [resume, ha]
  rw [hr]
  cases hp : t.point with
  | opening =>
    simp only [request, move, ha, hp] at h ⊢
    cases h
    exact .opened hp
  | preparing =>
    simp only [request, ha, hp] at h ⊢
    cases h
    simpa only [move, hp] using Turn.prepared hp
  | bringingUp =>
    simp only [request, ha, hp] at h ⊢
    cases h with
    | bringUp => simpa only [move, hp] using Turn.broughtUp hp
    | bringUpFailed => simpa only [move, hp] using Turn.notBroughtUp hp
  | creating =>
    simp only [request, ha, hp] at h ⊢
    cases h with
    | create => simpa only [move, hp] using Turn.created hp
    | createFailed => simpa only [move, hp] using Turn.notCreated hp
  | trying phase n =>
    simp only [request, move, ha, hp] at h ⊢
    cases h
    by_cases hn : t.policy.attempts < n
    · simpa only [hn, if_true] using Turn.exhausted hp hn
    · by_cases h1 : n = 1
      · subst h1
        simpa only [hn, if_false, if_true] using Turn.first hp (by omega)
      · simpa only [hn, h1, if_false] using Turn.pause hp (by omega) h1
  | pausing phase n =>
    simp only [request, ha, hp] at h
    cases h
  | checking phase n =>
    simp only [request, ha, hp] at h ⊢
    cases h with
    | @askDefaultReady b =>
      cases b with
      | true => simpa only [move, hp, if_true] using Turn.routed hp
      | false => simpa only [move, hp, Bool.false_eq_true, if_false] using Turn.unrouted hp
  | connecting phase n =>
    simp only [request, ha, hp] at h ⊢
    cases h with
    | connect => simpa only [move, hp] using Turn.connected hp
    | connectFailed => simpa only [move, hp] using Turn.notConnected hp
  | subscribing phase =>
    simp only [request, ha, hp] at h ⊢
    cases h
    cases phase with
    | setup => simpa only [move, hp] using Turn.started hp
    | reconnect => simpa only [move, hp] using Turn.reconnected hp
  | receiving =>
    simp only [request, ha, hp] at h
    cases h
  | dropping =>
    simp only [request, ha, hp] at h ⊢
    cases h <;> simpa only [move, hp] using Turn.dropped hp
  | stoppingSubscriber e =>
    simp only [request, move, ha, hp] at h ⊢
    cases hs : t.subscriber with
    | true =>
      simp only [hs, if_true] at h ⊢
      cases h
      exact .stopTold hp hs
    | false =>
      simp only [hs, Bool.false_eq_true, if_false] at h ⊢
      cases h
      exact .noSubscriber hp hs
  | joiningSubscriber e =>
    simp only [request, ha, hp] at h ⊢
    cases h
    simpa only [move, hp] using Turn.joined hp
  | disconnecting e =>
    have hq : t.request = .disconnect ∨ t.request = .proceed := by
      cases hc : t.connected <;> simp [request, ha, hp, hc]
    simpa only [move, hp] using Turn.disconnected hp hq
  | deleting e =>
    have hq : t.request = .delete ∨ t.request = .proceed := by
      cases hc : t.created <;> simp [request, ha, hp, hc]
    simpa only [move, hp] using Turn.deleted hp hq
  | tearingDown e =>
    have hq : t.request = .tearDown ∨ t.request = .proceed := by
      cases hc : t.ready <;> simp [request, ha, hp, hc]
    simpa only [move, hp] using Turn.tornDown hp hq
  | settling e =>
    simp only [request, ha, hp] at h ⊢
    cases h
    cases e with
    | stopped => simpa only [move, hp] using Turn.stopped hp
    | failed left => simpa only [move, hp] using Turn.failed hp
    | exit => simpa only [move, hp] using Turn.exited hp
  | waiting left =>
    simp only [request, move, ha, hp] at h ⊢
    cases hl : left.isEmpty with
    | true => simp only [hl, if_true] at h; cases h
    | false =>
      simp only [hl, Bool.false_eq_true, if_false] at h ⊢
      cases h
      obtain ⟨p, hact, hacts⟩ := t.acts left
      rw [hact]
      exact .acted hp hl hacts
  | finished =>
    simp only [request, ha, hp] at h
    cases h

theorem announcing_eq_none {t : Mqtt} (h : ∀ s, t.request ≠ .announce s) :
    t.announcing = none := by
  cases ha : t.announcing with
  | none => rfl
  | some s => exact absurd (by simp only [request, ha]) (h s)

theorem turn_of_request {t : Mqtt} {q : Request} {r : Reply} (h : t.request = q)
    (hq : ∀ s, q ≠ .announce s) (hf : Fits q r) : Turn t q r (t.resume r) := by
  subst h
  exact turn_of_fits (announcing_eq_none hq) hf

theorem announcing_of_receive {t : Mqtt} (h : t.request = .receive) : t.announcing = none :=
  announcing_eq_none (by simp [h])

theorem announcing_of_wait {t : Mqtt} {limit : Option Nat} (h : t.request = .wait limit) :
    t.announcing = none :=
  announcing_eq_none (by simp [h])

/-- Requests that tell the point they are made at. -/
theorem request_iff {t : Mqtt} (ha : t.announcing = none) :
    (t.request = .create ↔ t.point = .creating) ∧
    (t.request = .receive ↔ t.point = .receiving) ∧
    (t.request = .finished ↔ t.point = .finished) := by
  cases hp : t.point with
  | stoppingSubscriber e => cases hs : t.subscriber <;> simp [request, ha, hp, hs]
  | disconnecting e => cases hs : t.connected <;> simp [request, ha, hp, hs]
  | deleting e => cases hs : t.created <;> simp [request, ha, hp, hs]
  | tearingDown e => cases hs : t.ready <;> simp [request, ha, hp, hs]
  | waiting left => cases hs : left.isEmpty <;> simp [request, ha, hp, hs]
  | _ => simp [request, ha, hp]

theorem point_of_create {t : Mqtt} (h : t.request = .create) : t.point = .creating :=
  (request_iff (announcing_eq_none (by simp [h]))).1.mp h

theorem resume_of_create {t : Mqtt} (h : t.request = .create) : t.resume .done =
    { t with created := true, subscriber := true, point := .trying .setup 1 } := by
  simp only [resume, announcing_eq_none (t := t) (by simp [h]), move, point_of_create h]

theorem point_of_receive {t : Mqtt} (h : t.request = .receive) : t.point = .receiving :=
  (request_iff (announcing_of_receive h)).2.1.mp h

theorem point_of_finished {t : Mqtt} (h : t.request = .finished) :
    t.announcing = none ∧ t.point = .finished :=
  have ha := announcing_eq_none (by simp [h])
  ⟨ha, (request_iff ha).2.2.mp h⟩

theorem Receives.point_eq {t t' : Mqtt} {op : Operation} (hr : Receives t op t') :
    t.point = .receiving := by
  cases hr <;> assumption

theorem receives_of_request {t : Mqtt} (h : t.request = .receive) (op : Operation) :
    Receives t op (t.resume (.operation op)) := by
  have hp := point_of_receive h
  simp only [resume, announcing_of_receive h]
  cases op with
  | disconnected => simpa only [move, hp] using Receives.disconnected hp
  | subscribeFailed => simpa only [move, hp] using Receives.subscribeFailed hp
  | exitLoop => simpa only [move, hp] using Receives.exitLoop hp

/-- A wait is either a pause between two tries or that of a task that is down. -/
theorem reads_of_wait {t : Mqtt} {limit : Option Nat} (h : t.request = .wait limit)
    (cs : Commands) : Reads t cs limit (t.resume (.commands cs)) := by
  have ha := announcing_of_wait h
  simp only [request, ha] at h
  simp only [resume, ha]
  cases hp : t.point with
  | pausing phase n =>
    simp only [hp, Request.wait.injEq] at h
    subst h
    simp only [move, hp]
    split
    · rename_i hc
      simpa only [hp] using Reads.abort hp hc
    · rename_i hc
      have hc : (cs.contains .stop || cs.contains .shutdown) = false := by simpa using hc
      split
      · rename_i hd
        obtain ⟨hrestart, hs⟩ := Bool.and_eq_true_iff.mp hd
        exact .defer hp hc hrestart (by simpa [isStarted] using hs)
      · rename_i hd
        exact .retry hp hc (by simpa using hd)
  | waiting left =>
    simp only [hp] at h
    cases hl : left.isEmpty with
    | false => simp [hl] at h
    | true =>
      simp only [hl, if_true, Request.wait.injEq] at h
      subst h
      obtain ⟨p, hact, hacts⟩ := t.acts cs
      simp only [move, hp, hl, if_true, hact]
      exact .acted hp hl hacts
  | stoppingSubscriber e | disconnecting e | deleting e | tearingDown e =>
    simp only [hp] at h; split at h <;> cases h
  | _ => simp only [hp] at h; cases h

theorem point_of_wait {t : Mqtt} (h : t.request = .wait none) :
    ∃ left, t.point = .waiting left ∧ left.isEmpty = true := by
  have hr := reads_of_wait h .empty
  generalize t.resume (.commands .empty) = t' at hr
  cases hr with
  | acted hp hl _ => exact ⟨_, hp, hl⟩

end Mqtt

end EdgeGateway
