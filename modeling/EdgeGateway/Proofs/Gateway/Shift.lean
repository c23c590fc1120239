import EdgeGateway.Proofs.Bridge.Turn
import EdgeGateway.Proofs.Gateway.Frame
import EdgeGateway.Proofs.Mqtt.Turn
import Mathlib.Data.List.Nodup

/-!
# EdgeGateway.Proofs.Gateway.Shift

What the move of a thread does to the threads and the tasks of a gateway (`System.Shifts`): when
its task goes on by itself (`System.shifts_intent`), and when the task gets what it has asked for
(`System.shifts_complete`).
-/

namespace EdgeGateway

namespace System

variable {s s₀ s' : System} {t : Thread}

/-- The numbers of threads to come are new. -/
def Fresh (s : System) : Prop := ∀ i, s.nextThread ≤ i → s.thread? i = none

/-- No two threads have one number. -/
def Distinct (s : System) : Prop := (s.threads.map Thread.id).Nodup

namespace Distinct

theorem of_threads (h : s.Distinct) (ht : s'.threads = s.threads) : s'.Distinct := by
  rwa [Distinct, ht]

theorem setThread (h : s.Distinct) (u : Thread) : (s.setThread u).Distinct := by
  have hids : (s.setThread u).threads.map Thread.id = s.threads.map Thread.id := by
    rw [System.setThread, List.map_map]
    refine List.map_congr_left fun v _ => ?_
    dsimp only [Function.comp]
    split
    · exact Eq.symm ‹_›
    · rfl
  rwa [Distinct, hids]

theorem endThread (h : s.Distinct) (t : Thread) : (s.endThread t).Distinct :=
  h.sublist (List.filter_sublist.map Thread.id)

theorem spawn (h : s.Distinct) (hf : s.Fresh) (actor : Actor) (role : Role) (e : Option Errand) :
    (s.spawn actor role e).Distinct := by
  have hnew : s.nextThread ∉ s.threads.map Thread.id := by
    intro hmem
    obtain ⟨v, hv, hid⟩ := List.mem_map.mp hmem
    exact List.find?_eq_none.mp (hf _ (Nat.le_refl _)) v hv (by simp [hid])
  rw [Distinct, System.spawn, List.map_append, List.nodup_append]
  refine ⟨h, by simp, fun i hi i' hi' => ?_⟩
  have hi' : i' = s.nextThread := by simpa using hi'
  rintro rfl
  exact hnew (hi' ▸ hi)

/-- A thread is found under its number. -/
theorem thread?_of_mem (h : s.Distinct) (ht : t ∈ s.threads) : s.thread? t.id = some t := by
  obtain ⟨u, hu⟩ : ∃ u, s.thread? t.id = some u :=
    Option.isSome_iff_exists.mp (List.find?_isSome.mpr ⟨t, ht, by simp⟩)
  have hid : u.id = t.id := by simpa using List.find?_some hu
  rw [hu, List.inj_on_of_nodup_map h (List.mem_of_find?_eq_some hu) ht hid]

end Distinct

/-- The broker task is about to have its client. -/
def Creates (s : System) (t : Thread) : Prop :=
  t.role = .mqtt ∧ ∃ task, s.mqtt = some task ∧ task.request = .create

/-- What the task of a thread does when it goes on: to the threads, and to the other tasks. A
subscriber comes with the client, and a task that is over ends its thread. -/
structure Shifts (t : Thread) (s s' : System) : Prop where
  spares : s.Spares t.role.task? s'
  fresh : s.Fresh → s'.Fresh
  distinct : s.Fresh → s.Distinct → s'.Distinct
  stay : ∀ i u, i ≠ t.id → s.thread? i = some u → s'.thread? i = some u
  others : ∀ i u, i ≠ t.id → s'.thread? i = some u → s.thread? i = some u ∨
    s.Creates t ∧ u.role = .subscriber ∧ u.errand = none ∧ u.stage = .free
  self : ∀ u, s'.thread? t.id = some u → u.errand = t.errand ∧ u.stage = t.stage ∧
    u.role.task? = t.role.task? ∧ u.role.isOwn = t.role.isOwn
  role : ∀ u, s'.thread? t.id = some u → u.role = .subscriber → t.role = .subscriber
  ends : s'.thread? t.id = none → ∀ j, t.role.task? = some j → s'.Over j

namespace Shifts

theorem same (h : s.thread? t.id = some t) (hs : s.Spares t.role.task? s₀)
    (ht : s₀.threads = s.threads) (hn : s₀.nextThread = s.nextThread) : Shifts t s s₀ := by
  have heq (i : Nat) : s₀.thread? i = s.thread? i := by rw [thread?, ht, thread?]
  refine ⟨hs, fun hf i hi => ?_, fun _ hd => hd.of_threads ht, fun i u _ hu => ?_,
    fun i u _ hu => ?_, fun u hu => ?_, fun u hu hr => ?_, fun hu => ?_⟩
  · rw [heq]
    exact hf i (hn ▸ hi)
  · rwa [heq]
  · exact .inl (by rwa [← heq])
  · rw [heq, h] at hu
    cases hu
    exact ⟨rfl, rfl, rfl, rfl⟩
  · rw [heq, h] at hu
    cases hu
    exact hr
  · rw [heq, h] at hu
    cases hu

theorem setThread (hs : s.Spares t.role.task? s₀) (ht : s₀.threads = s.threads)
    (hn : s₀.nextThread = s.nextThread) (h : s.thread? t.id = some t) {v : Thread}
    (hid : v.id = t.id) (he : v.errand = t.errand) (hstage : v.stage = t.stage)
    (htask : v.role.task? = t.role.task?) (hown : v.role.isOwn = t.role.isOwn)
    (hrole : v.role = .subscriber → t.role = .subscriber) : Shifts t s (s₀.setThread v) := by
  have heq (i : Nat) : s₀.thread? i = s.thread? i := by rw [thread?, ht, thread?]
  have hset (i : Nat) : (s₀.setThread v).thread? i = if i = t.id then some v else s.thread? i := by
    rw [thread?_setThread, hid, heq]
    split
    · rename_i hi
      rw [hi, h]
      rfl
    · rfl
  refine ⟨hs.trans (.aside rfl), fun hf i hi => ?_, fun _ hd => (hd.of_threads ht).setThread v,
    fun i u hne hu => ?_, fun i u hne hu => ?_, fun u hu => ?_, fun u hu => ?_, fun hu => ?_⟩
  · have hnone := hf i (hn ▸ hi)
    rw [hset, if_neg, hnone]
    rintro rfl
    rw [h] at hnone
    cases hnone
  · rwa [hset, if_neg hne]
  · rw [hset, if_neg hne] at hu
    exact .inl hu
  · rw [hset, if_pos rfl] at hu
    cases hu
    exact ⟨he, hstage, htask, hown⟩
  · rw [hset, if_pos rfl] at hu
    cases hu
    exact hrole
  · rw [hset, if_pos rfl] at hu
    cases hu

theorem endThread (hs : s.Spares t.role.task? s₀) (ht : s₀.threads = s.threads)
    (hn : s₀.nextThread = s.nextThread) (ho : ∀ j, t.role.task? = some j → s₀.Over j) :
    Shifts t s (s₀.endThread t) := by
  have heq (i : Nat) : s₀.thread? i = s.thread? i := by rw [thread?, ht, thread?]
  have hset (i : Nat) : (s₀.endThread t).thread? i = if i = t.id then none else s.thread? i := by
    rw [thread?_endThread, heq]
  refine ⟨hs.trans (.aside rfl), fun hf i hi => ?_, fun _ hd => (hd.of_threads ht).endThread t,
    fun i u hne hu => ?_, fun i u hne hu => ?_, fun u hu => ?_, fun u hu => ?_, fun _ j hj => ?_⟩
  · rw [hset, hf i (hn ▸ hi)]
    split <;> rfl
  · rwa [hset, if_neg hne]
  · rw [hset, if_neg hne] at hu
    exact .inl hu
  · rw [hset, if_pos rfl] at hu
    cases hu
  · rw [hset, if_pos rfl] at hu
    cases hu
  · have hdone := ho j hj
    cases j <;> exact hdone

theorem spawn (hf : s.Fresh) (h : Shifts t s s₀) (ht : s.thread? t.id = some t)
    (hn : s₀.nextThread = s.nextThread) (hc : s.Creates t) (actor : Actor) :
    Shifts t s (s₀.spawn actor .subscriber none) := by
  have hne : s₀.nextThread ≠ t.id := by
    rw [hn]
    intro heq
    rw [hf t.id (Nat.le_of_eq heq)] at ht
    cases ht
  refine ⟨h.spares.trans (.aside rfl), fun hf i hi => ?_,
    fun hf hd => (h.distinct hf hd).spawn (h.fresh hf) _ _ _, fun i u hi hu => ?_,
    fun i u hi hu => ?_, fun u hu => ?_, fun u hu => ?_, fun hu j hj => ?_⟩
  · have hi : s₀.nextThread + 1 ≤ i := hi
    rw [thread?_spawn, h.fresh hf i (by omega), if_neg (by omega)]
    rfl
  · rw [thread?_spawn, h.stay i u hi hu]
    rfl
  · rw [thread?_spawn] at hu
    cases hold : s₀.thread? i with
    | some v =>
      rw [hold] at hu
      cases hu
      exact h.others i _ hi hold
    | none =>
      rw [hold, Option.none_or] at hu
      split at hu <;> cases hu
      exact .inr ⟨hc, rfl, rfl, rfl⟩
  · rw [thread?_spawn, if_neg hne, Option.or_none] at hu
    exact h.self u hu
  · rw [thread?_spawn, if_neg hne, Option.or_none] at hu
    exact h.role u hu
  · rw [thread?_spawn, if_neg hne, Option.or_none] at hu
    have hdone := h.ends hu j hj
    cases j <;> exact hdone

end Shifts

theorem shifts_setLink (hk : s.Kinded) (h : s.thread? t.id = some t) {kind : LinkKind}
    (hr : t.role = .link kind) {l l' : Link} (hl : s.link? kind = some l)
    (hl' : l'.kind = l.kind) : Shifts t s (s.setLink l') := by
  have ha := Commanded.setLink s l'
  refine .same h ?_ ha.threads ha.nextThread
  rw [hr]
  exact .setLink hk hl hl'

theorem shifts_told (h : s.thread? t.id = some t) :
    Shifts t s (s.setThread { t with told := t.told + 1 }) :=
  .setThread (.refl _ s) rfl rfl h rfl rfl rfl rfl rfl id

theorem shifts_linkIntent (hk : s.Kinded) (h : s.thread? t.id = some t) {kind : LinkKind}
    (hr : t.role = .link kind) {l : Link} (hl : s.link? kind = some l)
    (hi : s.linkIntent t l = .proceed s') : Shifts t s s' := by
  have go (r : Link.Reply) : Shifts t s (s.setLink (l.resume r)) :=
    shifts_setLink hk h hr hl (l.resume_kind r)
  unfold linkIntent at hi
  dsimp only at hi
  cases hq : l.request with
  | announce status =>
    rw [hq] at hi
    cases eq_of_announce_proceed hi
    have ha := Commanded.setLink s (l.resume .done)
    refine .setThread ?_ ha.threads ha.nextThread h rfl rfl rfl rfl rfl id
    rw [hr]
    exact .setLink hk hl (l.resume_kind _)
  | wait limit =>
    rw [hq] at hi
    dsimp only at hi
    (repeat' split at hi) <;> cases hi
    · exact shifts_setLink hk h hr hl (Link.resume_kind { l with pending := .empty } _)
    · exact go _
  | finished =>
    rw [hq] at hi
    cases hi
    refine .endThread (.refl _ s) rfl rfl fun j hj => ?_
    rw [hr] at hj
    cases hj
    intro l' hl'
    cases hl.symm.trans hl'
    exact (Link.point_of_finished hq).2
  | _ =>
    rw [hq] at hi
    dsimp only at hi
    (repeat' split at hi) <;> cases hi
    all_goals exact go _

/-- The broker task goes on; the subscriber's queue may change with it. -/
theorem shifts_setMqtt (h : s.thread? t.id = some t) (hr : t.role = .mqtt) (task : Mqtt)
    (b : Option Subscriber) : Shifts t s { s with mqtt := some task, subscriber := b } := by
  refine .same h ?_ rfl rfl
  rw [hr]
  exact { Spares.refl _ s with mqtt := fun hne => absurd rfl hne }

theorem shifts_mqttIntent (h : s.thread? t.id = some t) (hr : t.role = .mqtt) {task : Mqtt}
    (hi : s.mqttIntent t task = .proceed s') : Shifts t s s' := by
  have set (task : Mqtt) : s.Spares t.role.task? { s with mqtt := some task } := by
    rw [hr]
    exact { Spares.refl _ s with mqtt := fun hne => absurd rfl hne }
  unfold mqttIntent at hi
  dsimp only at hi
  cases hq : task.request with
  | announce status =>
    rw [hq] at hi
    cases eq_of_announce_proceed hi
    exact .setThread (set _) rfl rfl h rfl rfl rfl rfl rfl id
  | finished =>
    rw [hq] at hi
    cases hi
    refine .endThread (set _) rfl rfl fun j hj => ?_
    rw [hr] at hj
    cases hj
    rintro _ ⟨⟩
    exact (Mqtt.point_of_finished hq).2
  | _ =>
    rw [hq] at hi
    dsimp only at hi
    (repeat' split at hi) <;> cases hi
    all_goals exact shifts_setMqtt h hr _ _

theorem shifts_bridgeIntent (h : s.thread? t.id = some t) (hr : t.role = .bridge) {b : Bridge}
    (hi : s.bridgeIntent t b = .proceed s') : Shifts t s s' := by
  have set (b : Bridge) : s.Spares t.role.task? { s with bridge := some b } := by
    rw [hr]
    exact { Spares.refl _ s with bridge := fun hne => absurd rfl hne }
  unfold bridgeIntent at hi
  dsimp only at hi
  cases hq : b.request with
  | finished =>
    rw [hq] at hi
    cases hi
    refine .endThread (set _) rfl rfl fun j hj => ?_
    rw [hr] at hj
    cases hj
    rintro _ ⟨⟩
    exact Bridge.asks_of_request hq
  | _ =>
    rw [hq] at hi
    dsimp only at hi
    (repeat' split at hi) <;> cases hi
    all_goals exact .same h (set _) rfl rfl

/-- A thread without a task goes on and leaves the tasks what they were given. -/
theorem shifts_aside (h : s.thread? t.id = some t) (hs : s.Spares none s₀)
    (ht : s₀.threads = s.threads) (hn : s₀.nextThread = s.nextThread) : Shifts t s s₀ :=
  .same h hs.of_none ht hn

theorem shifts_leave (hr : t.role.task? = none) (hs : s.Spares none s₀)
    (ht : s₀.threads = s.threads) (hn : s₀.nextThread = s.nextThread) :
    Shifts t s (s₀.endThread t) :=
  .endThread hs.of_none ht hn fun j hj => by rw [hr] at hj; cases hj

theorem shifts_subscriberIntent (h : s.thread? t.id = some t) (hr : t.role = .subscriber)
    {b : Subscriber} (hi : s.subscriberIntent t b = .proceed s') : Shifts t s s' := by
  unfold subscriberIntent at hi
  dsimp only at hi
  cases hq : b.request with
  | report =>
    rw [hq] at hi
    cases hi
    refine shifts_aside h ?_ rfl rfl
    exact (Spares.mapMqtt fun t => Mqtt.own_offer t _).trans (.aside rfl)
  | finished =>
    rw [hq] at hi
    cases hi
    exact shifts_leave (by rw [hr]; rfl) (.aside rfl) rfl rfl
  | _ =>
    rw [hq] at hi
    dsimp only at hi
    (repeat' split at hi) <;> cases hi
    all_goals exact shifts_aside h (.aside rfl) rfl rfl

theorem shifts_consoleIntent (h : s.thread? t.id = some t) (hr : t.role = .console)
    {c : Console} (hi : s.consoleIntent t c = .proceed s') : Shifts t s s' := by
  unfold consoleIntent rerouteIntent at hi
  dsimp only at hi
  (repeat' split at hi) <;> cases hi
  · exact shifts_aside h (.aside rfl) rfl rfl
  · exact shifts_aside h ((Spares.reroute s _).trans (.aside rfl)) rfl rfl
  · exact shifts_aside h (.aside rfl) rfl rfl
  · exact shifts_leave (by rw [hr]; rfl) (.refl _ s) rfl rfl

theorem shifts_endChore (hr : t.role.task? = none) (r : ChoreResult) :
    Shifts t s (s.endChore t r) := by
  have hs : s.Spares none { s with choreResult := some r } := .aside rfl
  exact shifts_leave hr hs rfl rfl

theorem shifts_rerouteIntent (h : s.thread? t.id = some t) {r : Reroute} {written : Bool}
    (hr : t.role = .chore (.reroute r written))
    (hi : s.choreIntent t (.reroute r written) = .proceed s') : Shifts t s s' := by
  have hnone : t.role.task? = none := by rw [hr]; rfl
  cases r with
  | ended result =>
    cases hi
    exact shifts_endChore hnone _
  | routing kind => cases hi
  | resolving kind index servers =>
    cases servers with
    | cons ip servers => cases hi
    | nil =>
      cases hi
      exact .setThread (Spares.reroute s kind).of_none rfl rfl h rfl rfl rfl
        hnone.symm (by rw [hr]; rfl) nofun

theorem shifts_shutdownIntent (h : s.thread? t.id = some t) {p : ShutdownPoint}
    (hr : t.role = .shutdown p) (hi : s.shutdownIntent t p = .proceed s') : Shifts t s s' := by
  have hnone : t.role.task? = none := by rw [hr]; rfl
  have goOn {s₀ : System} (hs : s.Spares none s₀) (ha : s.Alike s₀) (point : ShutdownPoint) :
      Shifts t s (s₀.setThread { t with role := .shutdown point }) :=
    .setThread hs.of_none ha.threads ha.nextThread h rfl rfl rfl hnone.symm (by rw [hr]; rfl) nofun
  unfold shutdownIntent at hi
  dsimp only at hi
  cases p with
  | notifying =>
    cases hi
    exact goOn (.notifyAll s) ⟨rfl, rfl, rfl⟩ _
  | tellingBridge =>
    dsimp only at hi
    split at hi
    · cases hi
      exact goOn (.refl _ s) ⟨rfl, rfl, rfl⟩ _
    · split at hi <;> cases hi
      rename_i hpost
      exact goOn (.postToBridge hpost) (Commanded.postToBridge hpost).alike _
  | joining =>
    dsimp only at hi
    split at hi <;> cases hi
    exact shifts_leave hnone (.refl _ s) rfl rfl

/-- The task of the thread goes on by itself. -/
theorem shifts_intent (hk : s.Kinded) (h : s.thread? t.id = some t) (ho : t.role.isOwn = true)
    (hi : s.intent t = .proceed s') : Shifts t s s' := by
  unfold intent at hi
  cases hr : t.role with
  | link kind =>
    simp only [hr] at hi
    split at hi
    · exact shifts_linkIntent hk h hr ‹_› hi
    · cases hi
  | bridge =>
    simp only [hr] at hi
    split at hi
    · exact shifts_bridgeIntent h hr hi
    · cases hi
  | mqtt =>
    simp only [hr] at hi
    split at hi
    · exact shifts_mqttIntent h hr hi
    · cases hi
  | subscriber =>
    simp only [hr] at hi
    split at hi
    · exact shifts_subscriberIntent h hr hi
    · cases hi
  | console =>
    simp only [hr] at hi
    split at hi
    · exact shifts_consoleIntent h hr hi
    · cases hi
  | shutdown p =>
    simp only [hr] at hi
    exact shifts_shutdownIntent h hr hi
  | chore c =>
    simp only [hr] at hi
    cases c with
    | reroute r written => exact shifts_rerouteIntent h hr hi
    | _ =>
      rw [hr] at ho
      cases ho
  | job => simp only [hr, reduceCtorEq] at hi

/-- The task of the thread gets what it asked for. -/
theorem shifts_complete (hk : s.Kinded) (hf : s.Fresh) (h : s.thread? t.id = some t)
    (ho : t.role.isOwn = true) (c : Completion) : Shifts t s (s.complete t c) := by
  have same : Shifts t s s := shifts_aside h (.refl _ s) rfl rfl
  have told := shifts_told h
  unfold complete
  cases hr : t.role with
  | link kind =>
    dsimp only
    split
    · split
      · simpa only [hr] using told
      · exact shifts_setLink hk h hr ‹_› (Link.resume_kind _ _)
    · exact same
  | bridge =>
    refine .same h ?_ rfl rfl
    rw [hr]
    exact { Spares.refl _ s with bridge := fun hne => absurd rfl hne }
  | mqtt =>
    dsimp only
    split
    · rename_i task hm
      split
      · simpa only [hr] using told
      · rename_i hno
        split
        · exact shifts_setMqtt h hr _ _
        · rename_i hp _
          have hq : task.request = .create :=
            (Mqtt.request_iff (Option.not_isSome_iff_eq_none.mp hno)).1.mpr hp
          exact (shifts_setMqtt h hr _ s.subscriber).spawn hf h rfl ⟨hr, task, hm, hq⟩ .subscriber
        · exact shifts_setMqtt h hr _ _
    · exact same
  | subscriber => exact shifts_aside h (.aside rfl) rfl rfl
  | console =>
    dsimp only
    split
    · have ha := Alike.consoleComplete s ‹_› ‹_›
      exact shifts_aside h (.consoleComplete hk _ _) ha.threads ha.nextThread
    · exact same
  | chore chore =>
    have hnone : t.role.task? = none := by rw [hr]; rfl
    cases chore with
    | reroute r written =>
      cases c with
      | answer a =>
        exact .setThread (.refl _ s) rfl rfl h rfl rfl rfl hnone.symm (by rw [hr]; rfl) nofun
      | _ => exact shifts_endChore hnone _
    | _ =>
      rw [hr] at ho
      cases ho
  | shutdown p => exact same
  | job =>
    rw [hr] at ho
    cases ho

end System

end EdgeGateway
