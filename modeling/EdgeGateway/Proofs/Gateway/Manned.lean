import EdgeGateway.Proofs.Gateway.Shift

/-!
# EdgeGateway.Proofs.Gateway.Manned

The threads of a gateway and the tasks they run.

* `Call.isAside`   : a call that leaves everything that can be undone as it is.
* `System.Engaged` : a thread that is in a call or on an errand has been asked to by its task.
* `System.Manned`  : each task has one thread until it is over, and every thread is engaged.
-/

namespace EdgeGateway

/-- What is called by others than the tasks. -/
def Call.isAside : Call → Bool
  | .sleep _ | .clientSubscribe .. | .clientUnsubscribe .. | .drive _ | .setRoute _
  | .setServer .. | .readKey | .print _ => true
  | _ => false

namespace System

variable {s s' : System} {t u : Thread} {k : Option Task} {errand errand' : Task → Option Errand}

/-- What the thread is at is what its task asks for. -/
inductive Engaged (s : System) (t : Thread) : Prop where
  | free : t.errand = none → t.stage = .free → Engaged s t
  | call {c : Call} : t.errand = none → t.stage = .inside c →
      (s.intent t).asked? = some (.call c) → Engaged s t
  | notice {n : Notification} {handle : UInt16} {value : Bytes} : t.errand = none →
      t.stage = .calling (.notify n) ∨ t.stage = .inside (.notify n) →
      (s.intent t).asked? = some (.push handle value) → Engaged s t
  | errand {e e₀ : Errand} : t.errand = some e → t.InTurn →
      (s.intent t).asked? = some (.errand e₀) → (∀ o, e.Yields o → e₀.Yields o) → Engaged s t
  | aside {c : Call} : t.errand = none → t.stage = .inside c → t.role.task? = none →
      c.isAside = true → Engaged s t

/-- `errand` tells on which errand the thread of a task is. -/
structure Manned (s : System) (errand : Task → Option Errand) : Prop where
  fresh : s.Fresh
  distinct : s.Distinct
  kinded : s.Kinded
  wifi : s.plainWifi = false
  own : ∀ i t, s.thread? i = some t → t.role.isOwn = true
  alone : ∀ i i' t t' j, s.thread? i = some t → s.thread? i' = some t' →
    t.role.task? = some j → t'.role.task? = some j → i = i'
  errands : ∀ i t j, s.thread? i = some t → t.role.task? = some j → errand j = t.errand
  engaged : ∀ i t, s.thread? i = some t → s.Engaged t
  ends : ∀ j, s.Over j ∨ ∃ i t, s.thread? i = some t ∧ t.role.task? = some j

theorem thread?_of_threads (h : s'.threads = s.threads) (i : Nat) :
    s'.thread? i = s.thread? i := by
  rw [thread?, h, thread?]

theorem call_of_asked? {c : Call} (h : (s.intent t).asked? = some (.call c)) :
    s.intent t = .call c := by
  cases hi : s.intent t <;> rw [hi] at h <;> cases h
  rfl

theorem errand_of_asked? {e : Errand} (h : (s.intent t).asked? = some (.errand e)) :
    s.intent t = .errand e := by
  cases hi : s.intent t <;> rw [hi] at h <;> cases h
  rfl

theorem push_of_asked? {handle : UInt16} {value : Bytes}
    (h : (s.intent t).asked? = some (.push handle value)) : s.intent t = .push handle value := by
  cases hi : s.intent t <;> rw [hi] at h <;> cases h
  rfl

/-- Threads without a task ask for nothing but calls, and those are aside. -/
theorem aside_of_intent (ho : t.role.isOwn = true) (hn : t.role.task? = none) {q : Asked}
    (h : (s.intent t).asked? = some q) : ∃ c, q = .call c ∧ c.isAside = true := by
  unfold intent at h
  cases hr : t.role with
  | link kind | bridge | mqtt =>
    rw [hr] at hn
    cases hn
  | subscriber =>
    simp only [hr] at h
    unfold subscriberIntent at h
    dsimp only at h
    (repeat' split at h) <;> cases h
    all_goals exact ⟨_, rfl, rfl⟩
  | console =>
    simp only [hr] at h
    unfold consoleIntent rerouteIntent at h
    (repeat' split at h) <;> cases h
    all_goals exact ⟨_, rfl, rfl⟩
  | shutdown p =>
    simp only [hr] at h
    unfold shutdownIntent at h
    dsimp only at h
    (repeat' split at h) <;> cases h
  | job =>
    rw [hr] at ho
    cases ho
  | chore c =>
    cases c with
    | reroute r written =>
      simp only [hr] at h
      cases r with
      | ended result => cases h
      | routing kind =>
        cases h
        exact ⟨_, rfl, rfl⟩
      | resolving kind index servers =>
        cases servers <;> cases h
        exact ⟨_, rfl, rfl⟩
    | _ =>
      rw [hr] at ho
      cases ho

/-- What a task asks for does not depend on how far its thread is. -/
theorem asked?_eq {j : Task} (hj : t.role.task? = some j) (hrole : u.role = t.role)
    (htold : u.told = t.told) : (s.intent u).asked? = (s.intent t).asked? :=
  (Spares.refl none s).asked?_eq hj nofun hrole htold

namespace Engaged

theorem of_call {c : Call} (ho : t.role.isOwn = true) (hi : s.intent t = .call c)
    (hrole : u.role = t.role) (htold : u.told = t.told) (he : u.errand = none)
    (hc : u.stage = .inside c) : s.Engaged u := by
  have hasked : (s.intent t).asked? = some (.call c) := by
    rw [hi]
    rfl
  cases hj : t.role.task? with
  | some j => exact .call he hc ((asked?_eq hj hrole htold).trans hasked)
  | none =>
    obtain ⟨c', heq, ha⟩ := aside_of_intent ho hj hasked
    cases heq
    exact .aside he hc (hrole ▸ hj) ha

theorem of_calling {c : Call} (h : s.Engaged t) (hc : t.stage = .calling c) :
    t.errand = none ∧ ∃ n handle value, c = .notify n ∧
      (s.intent t).asked? = some (.push handle value) := by
  cases h with
  | free _ hf => cases hc.symm.trans hf
  | call _ hc' _ | aside _ hc' _ _ => cases hc.symm.trans hc'
  | errand _ hturn _ _ =>
    rcases hturn with hf | ⟨_, _, _, _, hc'⟩
    · cases hc.symm.trans hf
    · cases hc.symm.trans hc'
  | notice he hn hi =>
    rcases hn with hn | hn
    · cases hc.symm.trans hn
      exact ⟨he, _, _, _, rfl, hi⟩
    · cases hc.symm.trans hn

theorem of_inside {c : Call} (h : s.Engaged t) (hc : t.stage = .inside c) :
    (∃ e m, t.errand = some e ∧ c = .modem m ∧ e.call? = some m) ∨
      t.errand = none ∧ ((s.intent t).asked? = some (.call c) ∨
        (∃ n handle value, c = .notify n ∧ (s.intent t).asked? = some (.push handle value)) ∨
        t.role.task? = none ∧ c.isAside = true) := by
  cases h with
  | free _ hf => cases hc.symm.trans hf
  | call he hc' hi =>
    cases hc.symm.trans hc'
    exact .inr ⟨he, .inl hi⟩
  | aside he hc' hn ha =>
    cases hc.symm.trans hc'
    exact .inr ⟨he, .inr (.inr ⟨hn, ha⟩)⟩
  | errand he hturn _ _ =>
    obtain hf | ⟨m, hc', hm⟩ := hturn.stage he
    · cases hc.symm.trans hf
    · cases hc.symm.trans hc'
      exact .inl ⟨_, m, he, rfl, hm⟩
  | notice he hn hi =>
    rcases hn with hn | hn
    · cases hc.symm.trans hn
    · cases hc.symm.trans hn
      exact .inr ⟨he, .inr (.inl ⟨_, _, _, rfl, hi⟩)⟩

/-- What others do does not change what a thread is engaged in. -/
theorem of_spares (h : s.Engaged u) (hs : Spares k s s')
    (hne : ∀ j, u.role.task? = some j → k ≠ some j) (ho : u.role.isOwn = true) :
    s'.Engaged u := by
  cases hj : u.role.task? with
  | some j =>
    have hasked : (s'.intent u).asked? = (s.intent u).asked? :=
      hs.asked?_eq hj (hne j hj) rfl rfl
    cases h with
    | free he hf => exact .free he hf
    | call he hc hi => exact .call he hc (hasked.trans hi)
    | notice he hc hi => exact .notice he hc (hasked.trans hi)
    | errand he ht hi hy => exact .errand he ht (hasked.trans hi) hy
    | aside he hc hn ha => exact .aside he hc hn ha
  | none =>
    have notAsked {q : Asked} (hi : (s.intent u).asked? = some q) :
        ∃ c, q = .call c ∧ c.isAside = true := aside_of_intent ho hj hi
    cases h with
    | free he hf => exact .free he hf
    | call he hc hi =>
      obtain ⟨c, heq, ha⟩ := notAsked hi
      cases heq
      exact .aside he hc hj ha
    | notice he hc hi =>
      obtain ⟨c, heq, -⟩ := notAsked hi
      cases heq
    | errand he ht hi hy =>
      obtain ⟨c, heq, -⟩ := notAsked hi
      cases heq
    | aside he hc hn ha => exact .aside he hc hn ha

end Engaged

namespace Manned

/-- Something is delivered, or changes that no task reads of its own. -/
theorem deliver (h : s.Manned errand) (hs : Spares none s s') (ht : s'.threads = s.threads)
    (hn : s'.nextThread = s.nextThread) : s'.Manned errand := by
  have heq := thread?_of_threads ht
  exact {
    fresh := fun i hi => by rw [heq]; exact h.fresh i (hn ▸ hi)
    distinct := h.distinct.of_threads ht
    kinded := hs.kinded h.kinded
    wifi := hs.plainWifi.trans h.wifi
    own := fun i t hi => h.own i t (heq i ▸ hi)
    alone := fun i i' t t' j hi hi' => h.alone i i' t t' j (heq i ▸ hi) (heq i' ▸ hi')
    errands := fun i t j hi => h.errands i t j (heq i ▸ hi)
    engaged := fun i t hi =>
      have hi := heq i ▸ hi
      (h.engaged i t hi).of_spares hs nofun (h.own i t hi)
    ends := fun j => (h.ends j).imp (hs.over nofun) fun ⟨i, t, hi, hj⟩ => ⟨i, t, heq i ▸ hi, hj⟩ }

/-- A thread gets on with what its task asks for. -/
theorem setThread (h : s.Manned errand) (ht : s.thread? t.id = some t) (hid : u.id = t.id)
    (hrole : u.role = t.role) (heng : s.Engaged u)
    (herrand : ∀ j, t.role.task? = some j → errand' j = u.errand)
    (hrest : ∀ j, t.role.task? ≠ some j → errand' j = errand j) :
    (s.setThread u).Manned errand' := by
  have hs : Spares none s (s.setThread u) := .aside rfl
  have hself : (s.setThread u).thread? t.id = some u := hid ▸ thread?_setThread_self ht hid
  have hset (i : Nat) (hi : i ≠ t.id) : (s.setThread u).thread? i = s.thread? i := by
    rw [thread?_setThread, hid, if_neg hi]
  -- a thread there is `u`, or has been there
  have hcases {i : Nat} {v : Thread} (hv : (s.setThread u).thread? i = some v) :
      (i = t.id ∧ v = u) ∨ (i ≠ t.id ∧ s.thread? i = some v) := by
    by_cases hi : i = t.id
    · subst hi
      exact .inl ⟨rfl, Option.some.inj (hv.symm.trans hself)⟩
    · exact .inr ⟨hi, hset i hi ▸ hv⟩
  have hold {i : Nat} {v : Thread} (hv : (s.setThread u).thread? i = some v) :
      ∃ v₀, s.thread? i = some v₀ ∧ v₀.role = v.role := by
    rcases hcases hv with ⟨rfl, rfl⟩ | ⟨-, hv⟩
    · exact ⟨t, ht, hrole.symm⟩
    · exact ⟨v, hv, rfl⟩
  refine ⟨fun i hi => ?_, h.distinct.setThread u, hs.kinded h.kinded, hs.plainWifi.trans h.wifi,
    fun i v hv => ?_, fun i i' v v' j hv hv' hj hj' => ?_, fun i v j hv hj => ?_,
    fun i v hv => ?_, fun j => ?_⟩
  · have hnone := h.fresh i hi
    rw [hset, hnone]
    rintro rfl
    rw [ht] at hnone
    cases hnone
  · obtain ⟨v₀, hv₀, hr⟩ := hold hv
    exact hr ▸ h.own i v₀ hv₀
  · obtain ⟨v₀, hv₀, hr⟩ := hold hv
    obtain ⟨v₁, hv₁, hr'⟩ := hold hv'
    exact h.alone i i' v₀ v₁ j hv₀ hv₁ (hr ▸ hj) (hr' ▸ hj')
  · rcases hcases hv with ⟨rfl, rfl⟩ | ⟨hi, hv⟩
    · exact herrand j (hrole ▸ hj)
    · rw [hrest j fun hj' => hi (h.alone i t.id v t j hv ht hj hj'), h.errands i v j hv hj]
  · rcases hcases hv with ⟨rfl, rfl⟩ | ⟨hi, hv⟩
    · exact heng.of_spares hs nofun (hrole ▸ h.own _ t ht)
    · exact (h.engaged i v hv).of_spares hs nofun (h.own i v hv)
  · refine (h.ends j).imp (hs.over nofun) fun ⟨i, v, hv, hj⟩ => ?_
    by_cases hi : i = t.id
    · subst hi
      cases ht.symm.trans hv
      exact ⟨t.id, u, hself, hrole ▸ hj⟩
    · exact ⟨i, v, hset i hi ▸ hv, hj⟩

/-- The task of a thread goes on. -/
theorem shift (h : s.Manned errand) (ht : s.thread? t.id = some t) (he : t.errand = none)
    (hf : t.stage = .free) (hs : s.Shifts t s') : s'.Manned errand := by
  -- a thread there is the task's, or has been there, or is new and has no task
  have hcases {i : Nat} {v : Thread} (hv : s'.thread? i = some v) :
      (i = t.id ∧ v.errand = none ∧ v.stage = .free ∧ v.role.task? = t.role.task? ∧
        v.role.isOwn = t.role.isOwn) ∨
      (i ≠ t.id ∧ s.thread? i = some v) ∨
      (i ≠ t.id ∧ v.role = .subscriber ∧ v.errand = none ∧ v.stage = .free) := by
    by_cases hi : i = t.id
    · subst hi
      obtain ⟨he', hf', htask, hown⟩ := hs.self v hv
      exact .inl ⟨rfl, he'.trans he, hf'.trans hf, htask, hown⟩
    · exact .inr ((hs.others i v hi hv).imp (⟨hi, ·⟩) fun h => ⟨hi, h.2⟩)
  have hold {i : Nat} {v : Thread} {j : Task} (hv : s'.thread? i = some v)
      (hj : v.role.task? = some j) : ∃ v₀, s.thread? i = some v₀ ∧ v₀.role.task? = some j := by
    rcases hcases hv with ⟨rfl, -, -, htask, -⟩ | ⟨-, hv⟩ | ⟨-, hr, -⟩
    · exact ⟨t, ht, htask ▸ hj⟩
    · exact ⟨v, hv, hj⟩
    · rw [hr] at hj
      cases hj
  refine ⟨hs.fresh h.fresh, hs.distinct h.fresh h.distinct, hs.spares.kinded h.kinded,
    hs.spares.plainWifi.trans h.wifi,
    fun i v hv => ?_, fun i i' v v' j hv hv' hj hj' => ?_, fun i v j hv hj => ?_, fun i v hv => ?_,
    fun j => ?_⟩
  · rcases hcases hv with ⟨rfl, -, -, -, hown⟩ | ⟨-, hv⟩ | ⟨-, hr, -⟩
    · exact hown.trans (h.own _ t ht)
    · exact h.own i v hv
    · rw [hr]
      rfl
  · obtain ⟨v₀, hv₀, hj₀⟩ := hold hv hj
    obtain ⟨v₁, hv₁, hj₁⟩ := hold hv' hj'
    exact h.alone i i' v₀ v₁ j hv₀ hv₁ hj₀ hj₁
  · rcases hcases hv with ⟨rfl, he', -, htask, -⟩ | ⟨-, hv⟩ | ⟨-, hr, -⟩
    · rw [h.errands t.id t j ht (htask ▸ hj), he, he']
    · exact h.errands i v j hv hj
    · rw [hr] at hj
      cases hj
  · rcases hcases hv with ⟨rfl, he', hf', -⟩ | ⟨hi, hv⟩ | ⟨-, -, he', hf'⟩
    · exact .free he' hf'
    · refine (h.engaged i v hv).of_spares hs.spares (fun j hj hk => ?_) (h.own i v hv)
      exact hi (h.alone i t.id v t j hv ht hj hk)
    · exact .free he' hf'
  · by_cases hj : t.role.task? = some j
    · cases hself : s'.thread? t.id with
      | none => exact .inl (hs.ends hself j hj)
      | some v => exact .inr ⟨t.id, v, hself, (hs.self v hself).2.2.1.trans hj⟩
    · refine (h.ends j).imp (hs.spares.over hj) fun ⟨i, v, hv, hjv⟩ => ?_
      refine ⟨i, v, hs.stay i v ?_ hv, hjv⟩
      rintro rfl
      cases ht.symm.trans hv
      exact hj hjv

/-- A thread without a task is started. -/
theorem spawn (h : s.Manned errand) (actor : Actor) {role : Role} (hr : role.task? = none)
    (ho : role.isOwn = true) : (s.spawn actor role none).Manned errand := by
  have hs : Spares none s (s.spawn actor role none) := .aside rfl
  have hkeep {i : Nat} {v : Thread} (hv : s.thread? i = some v) :
      (s.spawn actor role none).thread? i = some v := by
    rw [thread?_spawn, hv]
    rfl
  have hcases {i : Nat} {v : Thread} (hv : (s.spawn actor role none).thread? i = some v) :
      s.thread? i = some v ∨ (v.role = role ∧ v.errand = none ∧ v.stage = .free) := by
    rw [thread?_spawn] at hv
    cases hold : s.thread? i with
    | some v' =>
      rw [hold] at hv
      exact .inl hv
    | none =>
      rw [hold, Option.none_or] at hv
      split at hv <;> cases hv
      exact .inr ⟨rfl, rfl, rfl⟩
  have hold {i : Nat} {v : Thread} {j : Task}
      (hv : (s.spawn actor role none).thread? i = some v) (hj : v.role.task? = some j) :
      s.thread? i = some v := by
    rcases hcases hv with hv | ⟨hrole, -⟩
    · exact hv
    · rw [hrole, hr] at hj
      cases hj
  refine ⟨fun i hi => ?_, h.distinct.spawn h.fresh actor role none, hs.kinded h.kinded,
    hs.plainWifi.trans h.wifi, fun i v hv => ?_, fun i i' v v' j hv hv' hj hj' => ?_,
    fun i v j hv hj => ?_, fun i v hv => ?_, fun j => ?_⟩
  · have hi : s.nextThread + 1 ≤ i := hi
    rw [thread?_spawn, h.fresh i (by omega), if_neg (by omega)]
    rfl
  · rcases hcases hv with hv | ⟨hrole, -⟩
    · exact h.own i v hv
    · rw [hrole, ho]
  · exact h.alone i i' v v' j (hold hv hj) (hold hv' hj') hj hj'
  · exact h.errands i v j (hold hv hj) hj
  · rcases hcases hv with hv | ⟨-, he, hf⟩
    · exact (h.engaged i v hv).of_spares hs nofun (h.own i v hv)
    · exact .free he hf
  · exact (h.ends j).imp (hs.over nofun) fun ⟨i, v, hv, hj⟩ => ⟨i, v, hkeep hv, hj⟩

/-- An errand is a task's. -/
theorem of_errand (h : s.Manned errand) (ht : s.thread? t.id = some t) {e : Errand}
    (he : t.errand = some e) :
    ∃ j e₀, t.role.task? = some j ∧ errand j = some e ∧ t.InTurn ∧ s.intent t = .errand e₀ ∧
      ∀ o, e.Yields o → e₀.Yields o := by
  cases h.engaged _ t ht with
  | errand he' hturn hi hy =>
    cases he.symm.trans he'
    cases hj : t.role.task? with
    | none =>
      obtain ⟨c, heq, -⟩ := aside_of_intent (h.own _ t ht) hj hi
      cases heq
    | some j =>
      exact ⟨j, _, rfl, (h.errands _ t j ht hj).trans he, hturn, errand_of_asked? hi, hy⟩
  | free he' _ | call he' _ _ | notice he' _ _ | aside he' _ _ _ =>
    rw [he] at he'
    cases he'

/-- A task that asks for nothing has a thread that is free. -/
theorem free_of_asked? (h : s.Manned errand) (ht : s.thread? t.id = some t) {j : Task}
    (hj : t.role.task? = some j) (hi : (s.intent t).asked? = none) :
    t.errand = none ∧ t.stage = .free := by
  cases h.engaged _ t ht with
  | free he hf => exact ⟨he, hf⟩
  | aside _ _ hn _ =>
    rw [hj] at hn
    cases hn
  | call _ _ hi' | notice _ _ hi' | errand _ _ hi' _ =>
    rw [hi] at hi'
    cases hi'

end Manned

end System

end EdgeGateway
